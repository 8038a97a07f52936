import TcpShift.Cc

set_option autoImplicit false

/- Byte-counting Reno. -/
namespace TcpShift

open Word

structure RenoState where
  cwndBytes : Nat
  ssthreshBytes : Nat
  caAckedBytes : Nat
  minCwndBytes : Nat
deriving DecidableEq, Repr

namespace Reno

def addSat (value increment : Nat) : Nat :=
  if increment > u32Max - value then u32Max else value + increment

def addCap (value increment limit : Nat) : Nat := min (addSat value increment) limit

def mul2Cap (value limit : Nat) : Nat := doubleCapped value limit

def effectiveMin (state : RenoState) (transport : Transport) : Nat :=
  min (max state.minCwndBytes transport.mssBytes) transport.cwndLimitBytes

def publish (state : RenoState) : Option Policy × RenoState :=
  (some { cwndBytes := state.cwndBytes, ssthreshBytes := state.ssthreshBytes
          pacingRateBytesPerSec := 0 }, state)

def reduceSsthresh (state : RenoState) (transport : Transport) : RenoState :=
  let floor := mul2Cap transport.mssBytes transport.cwndLimitBytes
  let effectiveWindow := if transport.sendWindowBytes < state.cwndBytes
    then transport.sendWindowBytes else state.cwndBytes
  { state with
    ssthreshBytes := min (max (effectiveWindow / 2) floor) transport.cwndLimitBytes }

def init (transport : Transport) (init : CcInit) : Option (RenoState × Policy) :=
  if initRefused transport init then none
  else
    let state : RenoState :=
      { cwndBytes := init.initialCwndBytes
        ssthreshBytes := init.initialSsthreshBytes
        caAckedBytes := 0
        minCwndBytes := init.minCwndBytes }
    some (state, { cwndBytes := state.cwndBytes, ssthreshBytes := state.ssthreshBytes
                   pacingRateBytesPerSec := 0 })

def onAck (state : RenoState) (transport : Transport) (ack : Ack) : Option Policy × RenoState :=
  let cwnd := if state.cwndBytes < effectiveMin state transport
    then effectiveMin state transport else state.cwndBytes
  if cwnd < state.ssthreshBytes then
    let slowStartLimit := mul2Cap transport.mssBytes transport.cwndLimitBytes
    let increase := if ack.ackedBytes > slowStartLimit then slowStartLimit else ack.ackedBytes
    publish { state with cwndBytes := addCap cwnd increase transport.cwndLimitBytes }
  else
    let acked := addSat state.caAckedBytes ack.ackedBytes
    if acked ≥ cwnd then
      publish { state with
        caAckedBytes := acked - cwnd
        cwndBytes := addCap cwnd transport.mssBytes transport.cwndLimitBytes }
    else publish { state with caAckedBytes := acked, cwndBytes := cwnd }

def onLoss (state : RenoState) (transport : Transport) (_loss : Loss) :
    Option Policy × RenoState :=
  let reduced := reduceSsthresh state transport
  publish { reduced with
    cwndBytes := min (max reduced.ssthreshBytes (effectiveMin reduced transport))
      transport.cwndLimitBytes
    caAckedBytes := 0 }

/-- An ECN signal is handled as a loss of one byte. -/
def onEcn (state : RenoState) (transport : Transport) : Option Policy × RenoState :=
  onLoss state transport { lostBytes := 1 }

def onTimeout (state : RenoState) (transport : Transport) : Option Policy × RenoState :=
  let reduced := reduceSsthresh state transport
  publish { reduced with cwndBytes := effectiveMin reduced transport, caAckedBytes := 0 }

def ops : CcOps RenoState where
  init := init
  onAck := onAck
  onLoss := onLoss
  onEcn := onEcn
  onTimeout := onTimeout

end Reno

end TcpShift
