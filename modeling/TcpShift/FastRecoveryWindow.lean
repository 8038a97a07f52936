import TcpShift.FastRecoveryRuns

set_option autoImplicit false

/- The window of lwIP's own fast recovery, with a loss-based controller behind the hooks. -/
namespace TcpShift

namespace FastRecovery

open Word

variable {σ : Type} {controller : Controller σ}

/-! ### The pieces -/

namespace Conn

variable {mss ssthresh : Nat} {conn : Conn σ}

end Conn

/-! ### Episodes -/

/-- What an episode goes through in a build without RACK-TLP, which has no PRR either, when
neither a timer ends it nor the controller publishes a window of its own. -/
def Event.repairs : Event σ → Bool
  | .rackLoss _ | .rackRetransLoss _ | .tlpLoss _ => false
  | .timeout | .policy _ _ => false
  | _ => true

namespace Sender

variable {mss ssthresh entered : Nat}

end Sender

end FastRecovery

end TcpShift
