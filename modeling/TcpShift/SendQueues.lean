import Mathlib.Data.List.Sort
import TcpShift.RackTlp

set_option autoImplicit false

/- The two queues a connection's sender keeps: what still has to leave, and what left and
waits for its acknowledgement. Loss repair, tail-loss probes and the retransmission timer
move segments between them. -/
namespace TcpShift

namespace SendQueues

/-- A queued segment. The code knows the place of its first byte only by `seqno`. -/
structure QueuedSegment where
  pos : Nat
  len : Nat
  /-- FIN or SYN is set, which takes one sequence number. -/
  control : Bool := false
  /-- `TCP_SHIFT_TF_SEG_SACKED` -/
  sacked : Bool := false
  /-- `TCP_SHIFT_TF_SEG_SACK_REXMIT` -/
  sackRexmit : Bool := false
deriving DecidableEq, Repr

namespace QueuedSegment

def seqno (seg : QueuedSegment) : Seq := BitVec.ofNat 32 seg.pos

/-- `TCP_TCPLEN`. -/
def tcplen (seg : QueuedSegment) : Nat := seg.len + seg.control.toNat

def right (seg : QueuedSegment) : Seq := seg.seqno + BitVec.ofNat 32 seg.tcplen

/-- Where the next segment's first byte stands. -/
def ends (seg : QueuedSegment) : Nat := seg.pos + seg.tcplen

end QueuedSegment

structure SendPcb where
  unsent : List QueuedSegment := []
  unacked : List QueuedSegment := []
  sndNxt : Seq
  lastack : Seq
  sndWnd : Nat
  /-- `TF_SACK`. -/
  sack : Bool
  /-- `TF_INFR`: in fast recovery. -/
  infr : Bool := false
  unsentOversize : Nat := 0
  rttest : Nat := 0
  rtime : Int := -1
deriving DecidableEq, Repr

inductive Err where
  | ok
  | val
  | rte
  | other
deriving DecidableEq, Repr

/-- What the queues are handled through: the driver that may still hold a segment, and the
hooks of the bound controller, whose state each call may change. -/
structure Hooks (σ : Type) where
  busy : σ → QueuedSegment → Bool
  /-- `tcp_shift_lwip_cc_hook_rack_loss_status(..) > 0`. -/
  rackLossStatus : σ → QueuedSegment → Bool × σ
  rackRetransLoss : σ → Nat → σ
  /-- `tcp_shift_lwip_cc_hook_loss`, with the window that fast recovery starts from. -/
  loss : σ → σ

/-- A segment with what stands before and after it in its queue. -/
structure Place where
  front : List QueuedSegment
  seg : QueuedSegment
  back : List QueuedSegment
deriving DecidableEq, Repr

variable {σ : Type}

/-! ### Selective acknowledgement -/

def covers (left right : Seq) (seg : QueuedSegment) : Bool :=
  !seg.seqno.before left && !right.before seg.right

def QueuedSegment.mark (left right : Seq) (seg : QueuedSegment) : QueuedSegment :=
  if covers left right seg then { seg with sacked := true } else seg

/-- `tcp_shift_tcp_mark_sack_range`. -/
def markSackRange (pcb : SendPcb) (left right : Seq) : SendPcb :=
  if left.before right then { pcb with unacked := pcb.unacked.map (·.mark left right) } else pcb

/-! ### Repair -/

/-- The walk to the first queued segment that does not start before the new one. -/
def insertInOrder (seg : QueuedSegment) (queue : List QueuedSegment) : List QueuedSegment :=
  queue.orderedInsert (fun new old => ¬old.seqno.before new.seqno) seg

/-- The first segment that was not SACKed and whose time ran out. -/
def selectRackLoss (hooks : Hooks σ) : σ → List QueuedSegment → Option Place × σ
  | state, [] => (none, state)
  | state, seg :: rest =>
      if seg.sacked then
        let (place, state) := selectRackLoss hooks state rest
        (place.map fun place => { place with front := seg :: place.front }, state)
      else
        match hooks.rackLossStatus state seg with
        | (true, state) => (some ⟨[], seg, rest⟩, state)
        | (false, state) =>
            let (place, state) := selectRackLoss hooks state rest
            (place.map fun place => { place with front := seg :: place.front }, state)

/-- The segment as it will wait again; `marked` is that it counts as a selective
retransmission. -/
def Place.requeued (place : Place) (marked : Bool) : QueuedSegment :=
  if marked then { place.seg with sackRexmit := true } else place.seg

/-- One segment back to the queue of what still has to leave. -/
def requeue (pcb : SendPcb) (place : Place) (marked : Bool) : SendPcb :=
  { pcb with
    unacked := place.front ++ place.back
    unsent := insertInOrder (place.requeued marked) pcb.unsent
    unsentOversize :=
      if pcb.unsent.all (·.seqno.before place.seg.seqno) then 0 else pcb.unsentOversize
    rttest := 0 }

def reportRetransLoss (hooks : Hooks σ) (state : σ) (seg : QueuedSegment) : σ :=
  if seg.sackRexmit then hooks.rackRetransLoss state seg.len else state

/-- `tcp_shift_tcp_requeue_selected_sack_segment` on the result of the selection, whose
retransmission losses are reported. -/
def requeueSelected (hooks : Hooks σ) (pcb : SendPcb) :
    Option Place × σ → Option (Place × SendPcb) × σ
  | (none, state) => (none, state)
  | (some place, state) =>
      if hooks.busy state place.seg then (none, state)
      else (some (place, requeue pcb place true), reportRetransLoss hooks state place.seg)

/-- `tcp_shift_tcp_rexmit_rack_loss`; nothing stands for `ERR_VAL`. -/
def rexmitRackLoss (hooks : Hooks σ) (state : σ) (pcb : SendPcb) :
    Option (Place × SendPcb) × σ :=
  if !pcb.sack || pcb.unacked.isEmpty then (none, state)
  else requeueSelected hooks pcb (selectRackLoss hooks state pcb.unacked)

/-- The segment `tcp_rexmit` takes. -/
def selectRexmit (hooks : Hooks σ) (state : σ) (pcb : SendPcb) : Option Place × σ :=
  match pcb.unacked with
  | [] => (none, state)
  | seg :: rest =>
      if pcb.sack then selectRackLoss hooks state pcb.unacked else (some ⟨[], seg, rest⟩, state)

def rexmit (hooks : Hooks σ) (state : σ) (pcb : SendPcb) : Option (Place × SendPcb) × σ :=
  match selectRexmit hooks state pcb with
  | (none, state) => (none, state)
  | (some place, state) =>
      if hooks.busy state place.seg then (none, state)
      else (some (place, requeue pcb place pcb.sack), reportRetransLoss hooks state place.seg)

/-- `tcp_rexmit_fast`, as far as the queues go. -/
def rexmitFast (hooks : Hooks σ) (state : σ) (pcb : SendPcb) : Option (Place × SendPcb) × σ :=
  if pcb.infr then (none, state)
  else
    match rexmit hooks state pcb with
    | (none, state) => (none, state)
    | (some (place, pcb), state) =>
        (some (place, { pcb with infr := true, rtime := 0 }), hooks.loss state)

/-- What a call moved, in order and as it stood before, with what it left. -/
structure Repaired (σ : Type) where
  moved : List QueuedSegment := []
  pcb : SendPcb
  state : σ

/-- The repair loop; each pass takes one segment out of `unacked`. -/
def repairRounds (hooks : Hooks σ) : Nat → σ → SendPcb → Repaired σ
  | 0, state, pcb => { pcb := pcb, state := state }
  | rounds + 1, state, pcb =>
      match rexmitRackLoss hooks state pcb with
      | (none, state) => { pcb := pcb, state := state }
      | (some (place, pcb), state) =>
          let rest := repairRounds hooks rounds state pcb
          { rest with moved := place.seg :: rest.moved }

def repair (hooks : Hooks σ) (state : σ) (pcb : SendPcb) : Repaired σ :=
  repairRounds hooks pcb.unacked.length state pcb

/-- One episode: it is entered by a fast retransmission, unless it is already open. -/
def repairEpisode (hooks : Hooks σ) (state : σ) (pcb : SendPcb) : Repaired σ :=
  if pcb.infr then repair hooks state pcb
  else
    match rexmitFast hooks state pcb with
    | (none, state) => { pcb := pcb, state := state }
    | (some (place, pcb), state) =>
        let rest := repair hooks state pcb
        { rest with moved := place.seg :: rest.moved }

/-- `tcp_shift_tcp_rack_rexmit_due` up to its `tcp_output`, which is called when something
moved. -/
def rackRexmitDue (hooks : Hooks σ) (state : σ) (pcb : SendPcb) : Repaired σ :=
  if !pcb.sack || pcb.unacked.isEmpty then { pcb := pcb, state := state }
  else
    let repaired := repairEpisode hooks state pcb
    if repaired.moved.isEmpty then repaired
    else { repaired with pcb := { repaired.pcb with rtime := 0 } }

/-! ### Tail-loss probes -/

/-- Where a new segment goes in `unacked`. -/
def insertSent (seg : QueuedSegment) : List QueuedSegment → List QueuedSegment
  | [] => [seg]
  | head :: rest =>
      if seg.seqno.before head.seqno then seg :: head :: rest
      else head :: insertInOrder seg rest

/-- The answers of the network to a probe: whether a route and a local address were found,
and what sending the segment returned. -/
structure Network where
  routed : Bool
  sent : Err
deriving DecidableEq, Repr

/-- A probe's result: its error, and where the probe starts and ends. -/
structure Probe where
  err : Err
  start : Seq := 0
  ends : Seq := 0
  isRetransmission : Bool := false
  pcb : SendPcb

/-- `tcp_shift_tcp_tlp_send_new_data`. -/
def tlpSendNewData (busy : QueuedSegment → Bool) (network : Network) (pcb : SendPcb) : Probe :=
  let skipped := pcb.unsent.takeWhile (·.seqno.before pcb.sndNxt)
  match pcb.unsent.dropWhile (·.seqno.before pcb.sndNxt) with
  | [] => { err := .val, pcb := pcb }
  | seg :: rest =>
      if seg.seqno ≠ pcb.sndNxt ∨ seg.len = 0 ∨ busy seg then { err := .val, pcb := pcb }
      else if (seg.seqno - pcb.lastack + BitVec.ofNat 32 seg.len).toNat > pcb.sndWnd then
        { err := .val, pcb := pcb }
      else if !network.routed then { err := .rte, pcb := pcb }
      else if network.sent ≠ .ok then { err := network.sent, pcb := pcb }
      else
        { err := .ok
          start := seg.seqno
          ends := seg.right
          pcb :=
            { pcb with
              unsent := skipped ++ rest
              unsentOversize := if (skipped ++ rest).isEmpty then 0 else pcb.unsentOversize
              sndNxt := seg.right
              unacked := insertSent seg pcb.unacked
              rtime := 0 } }

/-- `tcp_shift_tcp_tlp_probe` up to the `tcp_output` that follows a repeated segment, whose
answer `output` it hands on. -/
def tlpProbe (busy : QueuedSegment → Bool) (network : Network) (output : Err) (pcb : SendPcb) :
    Probe :=
  let fresh := tlpSendNewData busy network pcb
  if fresh.err ≠ .val then fresh
  else
    match pcb.unacked.getLast? with
    | none => { err := .val, pcb := pcb }
    | some seg =>
        if busy seg then { err := .val, pcb := pcb }
        else
          { err := output
            start := seg.seqno
            ends := seg.right
            isRetransmission := true
            pcb := { requeue pcb ⟨pcb.unacked.dropLast, seg, []⟩ true with rtime := 0 } }

/-! ### The retransmission timer -/

def QueuedSegment.unmark (seg : QueuedSegment) : QueuedSegment :=
  { seg with sacked := false, sackRexmit := false }

/-- `tcp_rexmit_rto_prepare`: everything unacknowledged goes in front of the other queue,
unless the driver still holds some of it. -/
def rexmitRtoPrepare (busy : QueuedSegment → Bool) (pcb : SendPcb) : Option SendPcb :=
  if pcb.unacked.isEmpty || pcb.unacked.any busy then none
  else
    some { pcb with
      unacked := []
      unsent := (pcb.unacked ++ pcb.unsent).map QueuedSegment.unmark
      rttest := 0 }

end SendQueues

end TcpShift
