import Mathlib.Data.List.Infix
import TcpShift.HostRules

set_option autoImplicit false

/- Public ingress of the process: one DNAT rule, installed through libnftables or through
the legacy iptables tools, and the record of what was installed. -/
namespace TcpShift.Host

open CString
open ServiceConfig (Family Inet)

def resourceMax : Nat := 64
def addressMax : Nat := 64
def destinationMax : Nat := addressMax + 16
def nftBatchMax : Nat := 1024
def nftDeleteMax : Nat := 128

inductive Errno where
  | einval
  | ealready
  | enametoolong
  | eafnosupport
  | eopnotsupp
  | enoent
  | eoverflow
  | eproto
  | enomem
  | eperm
  | eacces
  | other (code : Nat)
deriving DecidableEq

inductive Backend where
  | auto
  | nftables
  | iptables
  | none
deriving DecidableEq

def Backend.name : Backend → List UInt8
  | .auto => ascii "auto"
  | .nftables => ascii "nftables"
  | .iptables => ascii "iptables"
  | .none => ascii "none"

def backendParse (text : Option (List UInt8)) : Except Errno Backend :=
  match text with
  | none => .ok .auto
  | some text =>
      if text = [] ∨ text = ascii "auto" then .ok .auto
      else if text = ascii "nftables" then .ok .nftables
      else if text = ascii "iptables" then .ok .iptables
      else if text = ascii "none" then .ok .none
      else .error .einval

/-- A backend is read back from its name. -/
theorem backendParse_name (backend : Backend) : backendParse (some backend.name) = .ok backend := by
  cases backend <;> decide

structure FirewallSpec where
  ipVersion : Nat
  resourceName : Option (List UInt8)
  publicAddress : Option (List UInt8)
  publicPort : UInt16
  targetAddress : Option (List UInt8)
  targetPort : UInt16

/-- What the process remembers of its rules. -/
structure Firewall where
  backend : Backend := .auto
  ipVersion : Nat := 0
  installed : Bool := false
  legacyChainCreated : Bool := false
  legacyJumpInstalled : Bool := false
  resourceName : List UInt8 := []
  publicAddress : List UInt8 := []
  targetAddress : List UInt8 := []
  publicPort : UInt16 := 0
  targetPort : UInt16 := 0
  resourceName_fits : resourceName.length < resourceMax := by decide
  publicAddress_fits : publicAddress.length < addressMax := by decide
  targetAddress_fits : targetAddress.length < addressMax := by decide

/-- The record of all zeros. -/
def Firewall.zero : Firewall := {}

def isAlpha (c : UInt8) : Bool := (0x41 ≤ c && c ≤ 0x5a) || (0x61 ≤ c && c ≤ 0x7a)
def isAlnum (c : UInt8) : Bool := isAlpha c || isDigit c

/-- The first problem with a resource name. -/
def validResource : Option (List UInt8) → Option Errno
  | none => some .einval
  | some [] => some .enametoolong
  | some (first :: rest) =>
      if resourceMax ≤ (first :: rest).length then some .enametoolong
      else if ¬ (isAlpha first ∨ first = 0x5f) then some .einval
      else if ∃ byte ∈ rest, ¬ (isAlnum byte ∨ byte = 0x5f) then some .einval
      else none

def familyOf (ipVersion : Nat) : Option Family :=
  if ipVersion = 4 then some .v4 else if ipVersion = 6 then some .v6 else none

def validIp (inet : Inet) (text : Option (List UInt8)) (ipVersion : Nat) : Option Errno :=
  match familyOf ipVersion with
  | none => some .eafnosupport
  | some family =>
      if (text.bind (inet.pton family)).isSome then none else some .einval

namespace Firewall

def prepare (inet : Inet) (firewall : Firewall) (spec : Option FirewallSpec) :
    Except Errno Firewall :=
  match spec with
  | none => .error .einval
  | some spec =>
      if spec.publicPort = 0 ∨ spec.targetPort = 0 then .error .einval
      else if firewall.installed then .error .ealready
      else
        let problem := (validResource spec.resourceName).or
          ((validIp inet spec.publicAddress spec.ipVersion).or
            (validIp inet spec.targetAddress spec.ipVersion))
        match problem with
        | some errno => .error errno
        | none =>
            let name := spec.resourceName.getD []
            let address := spec.publicAddress.getD []
            let target := spec.targetAddress.getD []
            if fits : name.length < resourceMax ∧ address.length < addressMax ∧
                target.length < addressMax then
              .ok {
                ipVersion := spec.ipVersion
                publicPort := spec.publicPort
                targetPort := spec.targetPort
                resourceName := name
                publicAddress := address
                targetAddress := target
                resourceName_fits := fits.1
                publicAddress_fits := fits.2.1
                targetAddress_fits := fits.2.2 }
            else .error .enametoolong

end Firewall

section Nftables

/-- How far one use of libnftables gets: it is not there, it gives no context or no buffers,
or it runs the commands. -/
inductive NftAnswer (ρ : Type) where
  | unavailable
  | noContext
  | noBuffers
  | context (reply : ρ)

/-- What `nft_run_cmd_from_buffer` returns and leaves in `errno` and in the error buffer. -/
structure NftReply where
  succeeded : Bool
  errno : Option Errno
  message : Option (List UInt8)

def nftPermissionError (errno : Option Errno) (message : Option (List UInt8)) : Bool :=
  errno = some .eperm || errno = some .eacces ||
    message.any fun text =>
      decide (ascii "Operation not permitted" <:+: text) ||
        decide (ascii "Permission denied" <:+: text)

/-- Whether nftables can be used; a missing permission is an error, anything else means no. -/
def nftControlProbe : NftAnswer NftReply → Except Errno Bool
  | .unavailable => .ok false
  | .noContext | .noBuffers => .error .enomem
  | .context reply =>
      if reply.succeeded then .ok true
      else if nftPermissionError reply.errno reply.message then
        .error (reply.errno.getD .eperm)
      else .ok false

/-- One run of libnftables on a batch, as a dry run or not: its reply and the tables it
leaves. `willing` says that nothing outside the tables stands in its way. -/
structure NftUse where
  run : Bool → NftBatch → NftTables → NftReply × NftTables
  willing : Bool

/-- One batch: its problem, if any, and the rules after it. -/
def nftControlRun (batch : NftBatch) (dryRun : Bool) (answer : NftAnswer NftUse)
    (rules : Rules) : Option Errno × Rules :=
  match answer with
  | .unavailable => (some .eopnotsupp, rules)
  | .noContext | .noBuffers => (some .enomem, rules)
  | .context use =>
      let (reply, tables) := use.run dryRun batch rules.nft
      (if reply.succeeded then none else some (reply.errno.getD .eproto),
        { rules with nft := tables })

def Family.text : Family → List UInt8
  | .v4 => ascii "ip"
  | .v6 => ascii "ip6"

/-- `%s:%u`, with the address of the second family in brackets. -/
def destination (family : Family) (address : List UInt8) (port : UInt16) : List UInt8 :=
  match family with
  | .v4 => address ++ ascii ":" ++ printDecimal port.toNat
  | .v6 => ascii "[" ++ address ++ ascii "]:" ++ printDecimal port.toNat

/-- The commands of a batch as they are written to libnftables. -/
def NftBatch.text : NftBatch → List UInt8
  | .create family name content =>
      let guard := match family with
        | .v4 => []
        | .v6 => ascii "meta l4proto tcp "
      ascii "create table " ++ Family.text family ++ ascii " " ++ name ++ ascii "\n" ++
        (ascii "add chain " ++ Family.text family ++ ascii " " ++ name ++
          ascii (" prerouting \x7b type nat hook prerouting priority -100; policy accept; " ++
            "\x7d\n")) ++
        (ascii "add rule " ++ Family.text family ++ ascii " " ++ name ++ ascii " prerouting " ++
          Family.text family ++ ascii " daddr " ++ content.address ++ ascii " " ++ guard ++
          ascii "tcp dport " ++ printDecimal content.port ++ ascii " counter dnat to " ++
          content.destination ++ ascii "\n")
  | .delete family name =>
      ascii "delete table " ++ Family.text family ++ ascii " " ++ name ++ ascii "\n"

namespace Firewall

def nftContent (firewall : Firewall) (family : Family) : NftTable where
  address := firewall.publicAddress
  port := firewall.publicPort.toNat
  destination := destination family firewall.targetAddress firewall.targetPort

def nftInstall (firewall : Firewall) (dry commit : NftAnswer NftUse) (rules : Rules) :
    Option Errno × Firewall × Rules :=
  match familyOf firewall.ipVersion with
  | none => (some .eafnosupport, firewall, rules)
  | some family =>
      let content := firewall.nftContent family
      let batch := NftBatch.create family firewall.resourceName content
      if destinationMax ≤ content.destination.length ∨ nftBatchMax ≤ batch.text.length then
        (some .eoverflow, firewall, rules)
      else
        match nftControlRun batch true dry rules with
        | (some errno, rules) => (some errno, firewall, rules)
        | (none, rules) =>
            match nftControlRun batch false commit rules with
            | (some errno, rules) => (some errno, firewall, rules)
            | (none, rules) => (none, { firewall with installed := true }, rules)

def nftRemove (firewall : Firewall) (commit : NftAnswer NftUse) (rules : Rules) :
    Option Errno × Firewall × Rules :=
  match familyOf firewall.ipVersion with
  | none => (some .eafnosupport, firewall, rules)
  | some family =>
      let batch := NftBatch.delete family firewall.resourceName
      if nftDeleteMax ≤ batch.text.length then (some .eoverflow, firewall, rules)
      else
        match nftControlRun batch false commit rules with
        | (some errno, rules) => (some errno, firewall, rules)
        | (none, rules) => (none, { firewall with installed := false }, rules)

end Firewall

end Nftables

section Legacy

/-- How a child ends: with a status, by a signal, or in a way that `waitpid` cannot tell. -/
inductive ChildEnd where
  | exited (status : UInt8)
  | signalled
  | untold (errno : Errno)
deriving DecidableEq

def waitChild : ChildEnd → Option Errno
  | .exited status => if status = 0 then none else some .eproto
  | .signalled => some .eproto
  | .untold errno => some errno

/-- One use of a legacy tool: the error of `fork`, if any, and else the end of the child that
runs the command and the table it leaves. `willing` says that nothing outside the table stands
in its way. -/
structure LegacyUse where
  unforked : Option Errno := none
  run : NatTable → NatCommand → ChildEnd × NatTable
  willing : Bool

/-- The rules, and how the uses of the tool will go, in order; `used` of them are over. -/
structure World where
  rules : Rules
  uses : Nat → LegacyUse
  used : Nat := 0

def legacyRun (family : Family) (command : NatCommand) (world : World) : Option Errno × World :=
  let use := world.uses world.used
  match use.unforked with
  | some errno => (some errno, { world with used := world.used + 1 })
  | none =>
      let (ending, table) := use.run (world.rules.nat family) command
      (waitChild ending,
        { world with rules := world.rules.setNat family table, used := world.used + 1 })

/-- The files of the legacy tools: which of them can be executed, and whether one says that
it is built on nftables; `none` stands for a version that could not be read. -/
structure Tools where
  executable : List UInt8 → Bool
  nfTables : List UInt8 → Option Bool

def toolDirectories : List (List UInt8) :=
  [ascii "/usr/sbin/", ascii "/usr/bin/", ascii "/sbin/", ascii "/bin/"]

def toolName : Family → List UInt8
  | .v4 => ascii "iptables"
  | .v6 => ascii "ip6tables"

def legacyFindTool (tools : Tools) (ipVersion : Nat) : Except Errno (List UInt8) :=
  match familyOf ipVersion with
  | none => .error .eafnosupport
  | some family =>
      let plain := toolDirectories.map (· ++ toolName family)
      let legacy := plain.map (· ++ ascii "-legacy")
      let usable := fun path => tools.executable path && tools.nfTables path == some false
      match (legacy.find? tools.executable).or (plain.find? usable) with
      | some path => .ok path
      | none => .error .enoent

def legacyProbe (tools : Tools) (ipVersion : Nat) : Bool :=
  (legacyFindTool tools ipVersion).isOk

namespace Firewall

def jump (firewall : Firewall) : Jump where
  address := firewall.publicAddress
  port := printDecimal firewall.publicPort.toNat
  chain := firewall.resourceName

/-- The jump goes first: a chain that a jump still leads to cannot be deleted. -/
def rollbackJump (firewall : Firewall) (family : Family) (world : World) :
    Option Errno × Firewall × World :=
  if firewall.legacyJumpInstalled then
    match legacyRun family (.deleteJump firewall.jump) world with
    | (none, world) => (none, { firewall with legacyJumpInstalled := false }, world)
    | (some errno, world) => (some errno, firewall, world)
  else (none, firewall, world)

/-- The chain is emptied and deleted; `failed` is the problem met before. -/
def rollbackChain (failed : Option Errno) (firewall : Firewall) (family : Family)
    (world : World) : Option Errno × Firewall × World :=
  if firewall.legacyChainCreated ∧ ¬ firewall.legacyJumpInstalled then
    match legacyRun family (.flush firewall.resourceName) world with
    | (some errno, world) => (some (failed.getD errno), firewall, world)
    | (none, world) =>
        match legacyRun family (.deleteChain firewall.resourceName) world with
        | (none, world) => (failed, { firewall with legacyChainCreated := false }, world)
        | (some errno, world) => (some (failed.getD errno), firewall, world)
  else (failed, firewall, world)

def legacyRollback (firewall : Firewall) (family : Family) (world : World) :
    Option Errno × Firewall × World :=
  let (failed, firewall, world) := firewall.rollbackJump family world
  let (failed, firewall, world) := rollbackChain failed firewall family world
  (failed, { firewall with
    installed := firewall.legacyJumpInstalled || firewall.legacyChainCreated }, world)

/-- A rule that could not be added takes back what was added before it. -/
def legacyAbort (errno : Errno) (firewall : Firewall) (family : Family) (world : World) :
    Option Errno × Firewall × World :=
  let (_, firewall, world) := firewall.legacyRollback family world
  (some errno, firewall, world)

def legacyAddJump (firewall : Firewall) (family : Family) (world : World) :
    Option Errno × Firewall × World :=
  match legacyRun family (.insertJump firewall.jump) world with
  | (some errno, world) => legacyAbort errno firewall family world
  | (none, world) =>
      (none, { firewall with legacyJumpInstalled := true, installed := true }, world)

def legacyAddDnat (firewall : Firewall) (family : Family) (target : List UInt8) (world : World) :
    Option Errno × Firewall × World :=
  match legacyRun family (.appendDnat firewall.resourceName target) world with
  | (some errno, world) => legacyAbort errno firewall family world
  | (none, world) => firewall.legacyAddJump family world

def legacyInstall (firewall : Firewall) (tools : Tools) (world : World) :
    Option Errno × Firewall × World :=
  match legacyFindTool tools firewall.ipVersion, familyOf firewall.ipVersion with
  | .error errno, _ => (some errno, firewall, world)
  | .ok _, none => (some .eafnosupport, firewall, world)
  | .ok _, some family =>
      let target := destination family firewall.targetAddress firewall.targetPort
      if destinationMax ≤ target.length then (some .eoverflow, firewall, world)
      else
        match legacyRun family (.newChain firewall.resourceName) world with
        | (some errno, world) => (some errno, firewall, world)
        | (none, world) =>
            legacyAddDnat { firewall with legacyChainCreated := true } family target world

def legacyRemove (firewall : Firewall) (tools : Tools) (world : World) :
    Option Errno × Firewall × World :=
  match legacyFindTool tools firewall.ipVersion, familyOf firewall.ipVersion with
  | .error errno, _ => (some errno, firewall, world)
  | .ok _, none => (some .eafnosupport, firewall, world)
  | .ok _, some family => firewall.legacyRollback family world

end Firewall

end Legacy

/-- What a call meets on the host. -/
structure Surroundings where
  probe : NftAnswer NftReply
  dry : NftAnswer NftUse
  commit : NftAnswer NftUse
  tools : Tools
  uses : Nat → LegacyUse

def selectLegacy (around : Surroundings) (ipVersion : Nat) : Except Errno Backend :=
  if legacyProbe around.tools ipVersion then .ok .iptables else .error .enoent

/-- nftables when it can be used, and the legacy tools when `auto` may fall back to them. -/
def selectBackend (requested : Backend) (around : Surroundings) (ipVersion : Nat) :
    Except Errno Backend :=
  if requested = .auto ∨ requested = .nftables then
    match nftControlProbe around.probe with
    | .error errno => .error errno
    | .ok true => .ok .nftables
    | .ok false =>
        if requested = .nftables then .error .eopnotsupp
        else selectLegacy around ipVersion
  else selectLegacy around ipVersion

namespace Firewall

def installSelected (firewall : Firewall) (around : Surroundings) (rules : Rules) :
    Option Errno × Firewall × Rules :=
  match firewall.backend with
  | .nftables => firewall.nftInstall around.dry around.commit rules
  | .iptables =>
      let (failed, firewall, world) :=
        firewall.legacyInstall around.tools { rules := rules, uses := around.uses }
      (failed, firewall, world.rules)
  | .auto | .none => (some .einval, firewall, rules)

/-- After a failure the record is cleared, unless a rollback failed too and something of
it is left on the host. -/
def settle (failed : Option Errno) (firewall : Firewall) : Firewall :=
  if failed = none then firewall
  else if ¬ firewall.installed ∧ ¬ firewall.legacyChainCreated ∧
      ¬ firewall.legacyJumpInstalled then .zero
  else { firewall with installed := true }

def install (inet : Inet) (firewall : Firewall) (requested : Backend)
    (spec : Option FirewallSpec) (around : Surroundings) (rules : Rules) :
    Option Errno × Firewall × Rules :=
  match firewall.prepare inet spec with
  | .error errno => (some errno, firewall, rules)
  | .ok prepared =>
      if requested = .none then (none, { prepared with backend := .none }, rules)
      else
        match selectBackend requested around prepared.ipVersion with
        | .error errno => (some errno, .zero, rules)
        | .ok selected =>
            let (failed, firewall, rules) :=
              installSelected { prepared with backend := selected } around rules
            (failed, settle failed firewall, rules)

def remove (firewall : Firewall) (around : Surroundings) (rules : Rules) :
    Option Errno × Firewall × Rules :=
  if ¬ firewall.installed then (none, firewall, rules)
  else
    match firewall.backend with
    | .nftables => firewall.nftRemove around.commit rules
    | .iptables =>
        let (failed, firewall, world) :=
          firewall.legacyRemove around.tools { rules := rules, uses := around.uses }
        (failed, firewall, world.rules)
    | .auto | .none => (some .einval, firewall, rules)

end Firewall

end TcpShift.Host
