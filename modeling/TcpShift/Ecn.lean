import TcpShift.RackTlp

set_option autoImplicit false

/- The transport's explicit congestion notification: what one connection keeps about
it, and the places of the transport that read or change that. -/
namespace TcpShift

namespace Ecn

/-- `enum tcp_state`, in the order of its values. -/
inductive TcpState where
  | closed
  | listen
  | synSent
  | synRcvd
  | established
  | finWait1
  | finWait2
  | closeWait
  | closing
  | lastAck
  | timeWait
deriving DecidableEq, Repr

/-- `state >= ESTABLISHED`. -/
def TcpState.synchronized : TcpState → Bool
  | .closed => false
  | .listen => false
  | .synSent => false
  | .synRcvd => false
  | _ => true

/-- The flags of a TCP header that the code here looks at. -/
structure TcpFlags where
  fin : Bool := false
  syn : Bool := false
  rst : Bool := false
  ack : Bool := false
  ece : Bool := false
  cwr : Bool := false
deriving DecidableEq, Repr

structure Pcb where
  state : TcpState := .established
  /-- `TF_ECN`: negotiated, or offered. -/
  tfEcn : Bool
  /-- `TF_ECN_ECE`: the receiver must echo. -/
  tfEcnEce : Bool := false
  /-- `TF_ECN_CWR`: the sender owes CWR on its next new data. -/
  tfEcnCwr : Bool := false
  ecnRecover : Seq := 0
  ecnRtoWait : Bool := false
  cwnd : Nat
  ssthresh : Nat
  sndWnd : Nat
  mss : Nat
  bytesAcked : Nat := 0
  rtime : Int := -1
  rcvNxt : Seq
  rcvWnd : Nat
  tos : BitVec 8 := 0
deriving DecidableEq, Repr

/-- A queued segment with the header it will be sent under. `prepended` is that lower
headers stand before the TCP header, which the code takes for a retransmission. -/
structure Segment where
  seqno : Seq
  len : Nat
  flags : TcpFlags
  prepended : Bool := false
deriving DecidableEq, Repr

/-- What reaches the wire. -/
structure Packet where
  seqno : Seq
  ackno : Seq
  len : Nat
  flags : TcpFlags
  tos : BitVec 8
deriving DecidableEq, Repr

/-- The window a bound controller publishes in answer to a congestion event. -/
structure Policy where
  cwnd : Nat
  ssthresh : Nat
deriving DecidableEq, Repr

def ipEcnMask : BitVec 8 := 0x03
def ipEcnCe : BitVec 8 := 0x03
def ipEcnEct0 : BitVec 8 := 0x02

/-- `tcp_shift_tcp_input_ecn` on the traffic class of the packet being processed. -/
def inputEcn (tos : BitVec 8) : BitVec 8 := tos &&& ipEcnMask

/-- `TCP_TCPLEN`. -/
def tcplen (len : Nat) (flags : TcpFlags) : Nat :=
  len + (flags.fin || flags.syn).toNat

def fallback (pcb : Pcb) : Pcb :=
  let reduced := min pcb.cwnd pcb.sndWnd / 2
  { pcb with
    ssthresh := if reduced < 2 * pcb.mss then 2 * pcb.mss else reduced
    cwnd := if reduced < pcb.mss then pcb.mss else reduced
    bytesAcked := 0 }

/-- The controller's answer, or the transport's own reduction without one. -/
def reduce (pcb : Pcb) : Option Policy → Pcb
  | some policy => { pcb with cwnd := policy.cwnd, ssthresh := policy.ssthresh, bytesAcked := 0 }
  | none => fallback pcb

/-- The CWR of an arriving segment stops the echo. -/
def clearEcho (pcb : Pcb) (flags : TcpFlags) : Pcb :=
  if flags.cwr then { pcb with tfEcnEce := false } else pcb

/-- An ACK that covers the segment that carried CWR closes the response. -/
def closeResponse (pcb : Pcb) (flags : TcpFlags) (ackno : Seq) : Pcb :=
  if pcb.ecnRecover ≠ 0 ∧ flags.ack ∧ ackno.afterEq pcb.ecnRecover then
    { pcb with ecnRecover := 0 }
  else pcb

def shouldRespond (pcb : Pcb) (flags : TcpFlags) : Bool :=
  flags.ack && flags.ece && pcb.state.synchronized && pcb.ecnRecover = 0 && !pcb.tfEcnCwr

/-- The response to an echoed mark; at one segment it also holds new data back until the
retransmission timer runs out. -/
def respond (pcb : Pcb) (hook : Option Policy) : Pcb :=
  let responded := { reduce pcb hook with tfEcnCwr := true }
  if pcb.cwnd ≤ pcb.mss then { responded with rtime := 0, ecnRtoWait := true } else responded

/-- `tcp_shift_tcp_ecn_process_flags`; the second part is whether it responded, the third
whether it entered the timer gate. -/
def processFlags (pcb : Pcb) (flags : TcpFlags) (ackno : Seq) (hook : Option Policy) :
    Pcb × Bool × Bool :=
  if pcb.tfEcn then
    let noted := closeResponse (clearEcho pcb flags) flags ackno
    if shouldRespond noted flags then (respond noted hook, true, noted.cwnd ≤ noted.mss)
    else (noted, false, false)
  else (pcb, false, false)

/-- `TCP_SEQ_BETWEEN(seqno, rcv_nxt, rcv_nxt + rcv_wnd - 1)`. -/
def inWindow (pcb : Pcb) (seqno : Seq) : Bool :=
  seqno.afterEq pcb.rcvNxt && (pcb.rcvNxt + BitVec.ofNat 32 pcb.rcvWnd - 1).afterEq seqno

/-- The mark of an acceptable data segment, after its front was trimmed to `seqno` and
`len`, starts the echo. -/
def acceptData (pcb : Pcb) (seqno : Seq) (len : Nat) (tos : BitVec 8) : Pcb :=
  if inWindow pcb seqno ∧ pcb.tfEcn ∧ len ≠ 0 ∧ inputEcn tos = ipEcnCe then
    { pcb with tfEcnEce := true }
  else pcb

/-- What became of handing a segment to the network layer, which puts its header before
the segment's and then hands the packet to the driver. -/
inductive Sent where
  /-- The driver still held the segment: nothing was sent. -/
  | busy
  | refused
  | accepted
deriving DecidableEq, Repr

/-- The header of a segment about to leave: the echo, the answer to it, and whether the
answer counts as sent once the packet is out. -/
structure Prepared where
  pcb : Pcb
  flags : TcpFlags
  tos : BitVec 8
  sendCwr : Bool
deriving DecidableEq, Repr

def prepareSegment (pcb : Pcb) (segment : Segment) : Prepared :=
  let tos := pcb.tos &&& ~~~ipEcnMask
  if pcb.tfEcn then
    let flags := if segment.flags.syn then segment.flags
      else { segment.flags with ece := pcb.tfEcnEce && segment.flags.ack }
    if segment.prepended && flags.cwr then
      { pcb := { pcb with tfEcnCwr := true, ecnRecover := 0 }
        flags := { flags with cwr := false }
        tos := tos
        sendCwr := false }
    else if !segment.prepended && segment.len ≠ 0 && !flags.syn then
      { pcb := pcb
        flags := if pcb.tfEcnCwr then { flags with cwr := true } else flags
        tos := tos ||| ipEcnEct0
        sendCwr := pcb.tfEcnCwr }
    else { pcb := pcb, flags := flags, tos := tos, sendCwr := false }
  else { pcb := pcb, flags := segment.flags, tos := tos, sendCwr := false }

/-- `tcp_output_segment`, with what the network layer does given. -/
def outputSegment (pcb : Pcb) (segment : Segment) (sent : Sent) :
    Pcb × Segment × Option Packet :=
  match sent with
  | .busy => (pcb, segment, none)
  | .refused =>
      let out := prepareSegment pcb segment
      (out.pcb,
        { segment with
          flags := if out.sendCwr then { out.flags with cwr := false } else out.flags
          prepended := true },
        none)
  | .accepted =>
      let out := prepareSegment pcb segment
      (if out.sendCwr then
          { out.pcb with
            tfEcnCwr := false
            ecnRecover := segment.seqno + BitVec.ofNat 32 (tcplen segment.len out.flags) }
        else out.pcb,
        { segment with flags := out.flags, prepended := true },
        some ⟨segment.seqno, pcb.rcvNxt, segment.len, out.flags, out.tos⟩)

/-- `tcp_output_control_segment`: pure acknowledgements, resets and keep-alives, without the
byte that a zero-window probe adds. -/
def outputControl (pcb : Pcb) (seqno : Seq) (flags : TcpFlags) : Packet where
  seqno := seqno
  ackno := pcb.rcvNxt
  len := 0
  flags :=
    if pcb.tfEcn ∧ pcb.tfEcnEce ∧ flags.ack ∧ !flags.syn ∧ !flags.rst then
      { flags with ece := true }
    else flags
  tos := pcb.tos &&& ~~~ipEcnMask

/-- `tcp_output` keeps data back while the timer gate is closed. -/
def outputHeld (pcb : Pcb) (segment : Segment) : Bool := pcb.ecnRtoWait && segment.len ≠ 0

/-- A retransmission timeout or a fast retransmit owes CWR too. -/
def oweCwr (pcb : Pcb) : Pcb := if pcb.tfEcn then { pcb with tfEcnCwr := true } else pcb

/-- The transport's own answer to a timeout, when no controller is bound. -/
def timeoutFallback (pcb : Pcb) : Pcb :=
  let half := min pcb.cwnd pcb.sndWnd / 2
  { pcb with
    ssthresh := if half < 2 * pcb.mss then 2 * pcb.mss else half
    cwnd := pcb.mss }

/-- `tcp_slowtmr` once the retransmission timer has run out: the gate's expiry only
releases new data, any other one is a timeout. The second part is whether it was the
gate's; `prepared` is that there was something to retransmit or to send. -/
def rtoExpired (pcb : Pcb) (unackedLeft prepared : Bool) (hook : Option Policy) : Pcb × Bool :=
  if pcb.ecnRtoWait then
    ({ pcb with ecnRtoWait := false, rtime := if unackedLeft then 0 else -1 }, true)
  else if prepared then
    let reduced := match hook with
      | some policy => { pcb with cwnd := policy.cwnd, ssthresh := policy.ssthresh }
      | none => timeoutFallback pcb
    ({ oweCwr { reduced with rtime := 0 } with bytesAcked := 0 }, false)
  else (pcb, false)

/-- The retransmission timer after an ACK of new data. -/
def ackTimer (pcb : Pcb) (unackedLeft : Bool) : Pcb :=
  if pcb.ecnRtoWait then { pcb with rtime := 0 }
  else { pcb with rtime := if unackedLeft then 0 else -1 }

section Reduction

variable (pcb : Pcb) (hook : Option Policy)

@[simp] theorem reduce_tfEcn : (reduce pcb hook).tfEcn = pcb.tfEcn := by cases hook <;> rfl

@[simp] theorem reduce_tfEcnEce : (reduce pcb hook).tfEcnEce = pcb.tfEcnEce := by
  cases hook <;> rfl

@[simp] theorem reduce_ecnRecover : (reduce pcb hook).ecnRecover = pcb.ecnRecover := by
  cases hook <;> rfl

@[simp] theorem reduce_ecnRtoWait : (reduce pcb hook).ecnRtoWait = pcb.ecnRtoWait := by
  cases hook <;> rfl

@[simp] theorem reduce_rcvNxt : (reduce pcb hook).rcvNxt = pcb.rcvNxt := by cases hook <;> rfl

end Reduction

/-- Where the open response stands after the flags of a segment. -/
def recoverAfter (pcb : Pcb) (flags : TcpFlags) (ackno : Seq) : Seq :=
  if pcb.ecnRecover ≠ 0 ∧ flags.ack ∧ ackno.afterEq pcb.ecnRecover then 0 else pcb.ecnRecover

/-- The flags of a segment and the congestion state they leave. -/
structure Noted (pcb after : Pcb) (flags : TcpFlags) : Prop where
  negotiated : after.tfEcn = pcb.tfEcn
  echo : after.tfEcnEce = (pcb.tfEcnEce && !flags.cwr)
  next : after.rcvNxt = pcb.rcvNxt

theorem noted_closeResponse (pcb : Pcb) (flags : TcpFlags) (ackno : Seq) :
    Noted pcb (closeResponse (clearEcho pcb flags) flags ackno) flags := by
  unfold closeResponse clearEcho
  constructor <;> split <;> split <;> simp_all

theorem closeResponse_rest (pcb : Pcb) (flags : TcpFlags) (ackno : Seq) :
    (closeResponse (clearEcho pcb flags) flags ackno).ecnRecover = recoverAfter pcb flags ackno ∧
      (closeResponse (clearEcho pcb flags) flags ackno).tfEcnCwr = pcb.tfEcnCwr ∧
      (closeResponse (clearEcho pcb flags) flags ackno).ecnRtoWait = pcb.ecnRtoWait ∧
      (closeResponse (clearEcho pcb flags) flags ackno).state = pcb.state := by
  unfold closeResponse clearEcho recoverAfter
  cases flags.cwr <;> simp only [Bool.false_eq_true, ↓reduceIte] <;> split <;> simp

/-- Segments without anything to answer. -/
structure Unanswered (pcb after : Pcb) (flags : TcpFlags) (ackno : Seq) : Prop where
  owes : after.tfEcnCwr = pcb.tfEcnCwr
  recover : after.ecnRecover = recoverAfter pcb flags ackno
  wait : after.ecnRtoWait = pcb.ecnRtoWait

/-- A response to an echoed mark. -/
structure Responded (pcb after : Pcb) (flags : TcpFlags) (ackno : Seq) (gated : Bool) : Prop where
  ack : flags.ack = true
  ece : flags.ece = true
  synchronized : pcb.state.synchronized = true
  answered : recoverAfter pcb flags ackno = 0
  owedNothing : pcb.tfEcnCwr = false
  owes : after.tfEcnCwr = true
  recover : after.ecnRecover = 0
  wait : after.ecnRtoWait = (gated || pcb.ecnRtoWait)

/-- All the flags of a segment can do on a connection that negotiated. -/
theorem processFlags_cases {pcb : Pcb} (negotiated : pcb.tfEcn = true) (flags : TcpFlags)
    (ackno : Seq) (hook : Option Policy) :
    Noted pcb (processFlags pcb flags ackno hook).1 flags ∧
      (((processFlags pcb flags ackno hook).2 = (false, false) ∧
          Unanswered pcb (processFlags pcb flags ackno hook).1 flags ackno) ∨
        ((processFlags pcb flags ackno hook).2.1 = true ∧
          Responded pcb (processFlags pcb flags ackno hook).1 flags ackno
            (processFlags pcb flags ackno hook).2.2)) := by
  have noted := noted_closeResponse pcb flags ackno
  obtain ⟨recover, owes, wait, state⟩ := closeResponse_rest pcb flags ackno
  unfold processFlags
  rw [if_pos negotiated]
  generalize closeResponse (clearEcho pcb flags) flags ackno = closed at *
  dsimp only
  split
  · next answers =>
    simp only [shouldRespond, Bool.and_eq_true, decide_eq_true_eq, Bool.not_eq_true'] at answers
    obtain ⟨⟨⟨⟨ack, ece⟩, synchronized⟩, open'⟩, owed⟩ := answers
    have after : Noted pcb (respond closed hook) flags := by
      unfold respond
      constructor <;> dsimp only <;> split <;>
        simp only [reduce_tfEcn, reduce_tfEcnEce, reduce_rcvNxt, noted.negotiated, noted.echo,
          noted.next]
    refine ⟨after, .inr ⟨rfl, ack, ece, ?_, ?_, ?_, ?_, ?_, ?_⟩⟩
    · rw [← state, synchronized]
    · rw [← recover, open']
    · rw [← owes, owed]
    · unfold respond
      dsimp only
      split <;> rfl
    · unfold respond
      dsimp only
      split <;> simp only [reduce_ecnRecover, open']
    · unfold respond
      dsimp only
      split <;> simp_all
  · exact ⟨noted, .inl ⟨rfl, owes, recover, wait⟩⟩

theorem processFlags_of_not {pcb : Pcb} (plain : pcb.tfEcn = false) (flags : TcpFlags)
    (ackno : Seq) (hook : Option Policy) :
    processFlags pcb flags ackno hook = (pcb, false, false) := by
  rw [processFlags, plain, if_neg Bool.false_ne_true]

/-- Accepting data changes nothing but the echo. -/
theorem acceptData_eq (pcb : Pcb) (seqno : Seq) (len : Nat) (tos : BitVec 8) :
    acceptData pcb seqno len tos =
      { pcb with
        tfEcnEce := pcb.tfEcnEce ||
          (pcb.tfEcn && (inWindow pcb seqno && len ≠ 0 && inputEcn tos = ipEcnCe)) } := by
  unfold acceptData
  split
  · next marked => simp_all
  · next unmarked =>
    have quiet : (pcb.tfEcn && (inWindow pcb seqno && len ≠ 0 && inputEcn tos = ipEcnCe)) =
        false := by
      rw [Bool.eq_false_iff]
      intro marked
      simp only [Bool.and_eq_true, decide_eq_true_eq] at marked
      exact unmarked ⟨marked.2.1.1, marked.1, marked.2.1.2, marked.2.2⟩
    rw [quiet, Bool.or_false]

/-- A queued segment's header as the transport writes and rewrites it after the
handshake: CWR stands only in one that was handed out before. -/
structure Segment.Plain (negotiated : Bool) (segment : Segment) : Prop where
  noSyn : segment.flags.syn = false
  noRst : segment.flags.rst = false
  unsent : segment.prepended = false → segment.flags.cwr = false
  quiet : negotiated = false → segment.flags.ece = false ∧ segment.flags.cwr = false

/-- New data of a connection that negotiated, handed out for the first time. -/
def firstData (pcb : Pcb) (segment : Segment) : Bool :=
  pcb.tfEcn && (!segment.prepended && segment.len ≠ 0)

/-- A segment with CWR in its header is handed out again. -/
def rearms (pcb : Pcb) (segment : Segment) : Bool :=
  pcb.tfEcn && (segment.prepended && segment.flags.cwr)

theorem prepareSegment_eq {pcb : Pcb} {segment : Segment}
    (plain : segment.Plain pcb.tfEcn) :
    prepareSegment pcb segment =
      { pcb := if rearms pcb segment then { pcb with tfEcnCwr := true, ecnRecover := 0 } else pcb
        flags := { segment.flags with
          ece := pcb.tfEcn && (pcb.tfEcnEce && segment.flags.ack)
          cwr := firstData pcb segment && pcb.tfEcnCwr }
        tos := if firstData pcb segment then (pcb.tos &&& ~~~ipEcnMask) ||| ipEcnEct0
          else pcb.tos &&& ~~~ipEcnMask
        sendCwr := firstData pcb segment && pcb.tfEcnCwr } := by
  obtain ⟨seqno, len, ⟨fin, syn, rst, ack, ece, cwr⟩, prepended⟩ := segment
  obtain ⟨noSyn, -, unsent, quiet⟩ := plain
  simp only at noSyn unsent quiet
  subst noSyn
  unfold prepareSegment firstData rearms
  cases negotiated : pcb.tfEcn with
  | false =>
      obtain ⟨noEce, noCwr⟩ := quiet negotiated
      simp [noEce, noCwr]
  | true =>
      cases prepended with
      | false =>
          have noCwr := unsent rfl
          subst noCwr
          by_cases empty : len = 0 <;> cases owed : pcb.tfEcnCwr <;> simp [empty]
      | true => cases cwr <;> simp

theorem notEct_of_rest (tos : BitVec 8) : inputEcn (tos &&& ~~~ipEcnMask) = 0 := by
  have apart : ~~~ipEcnMask &&& ipEcnMask = 0 := by decide
  rw [inputEcn, BitVec.and_assoc, apart]
  exact BitVec.and_zero

theorem ect0_of_firstData (tos : BitVec 8) :
    inputEcn ((tos &&& ~~~ipEcnMask) ||| ipEcnEct0) = ipEcnEct0 := by
  have rest := notEct_of_rest tos
  have inside : ipEcnEct0 &&& ipEcnMask = ipEcnEct0 := by decide
  rw [inputEcn] at rest ⊢
  rw [BitVec.and_or_distrib_right, rest, inside]
  exact BitVec.zero_or

/-- What happens to the pcb when a segment is handed out. -/
theorem outputSegment_pcb {pcb : Pcb} {segment : Segment} (plain : segment.Plain pcb.tfEcn)
    (sent : Sent) :
    (outputSegment pcb segment sent).1 =
      if sent ≠ .busy ∧ rearms pcb segment then { pcb with tfEcnCwr := true, ecnRecover := 0 }
      else if sent = .accepted ∧ firstData pcb segment ∧ pcb.tfEcnCwr then
        { pcb with
          tfEcnCwr := false
          ecnRecover := segment.seqno + BitVec.ofNat 32 (tcplen segment.len segment.flags) }
      else pcb := by
  have apart : rearms pcb segment = true → firstData pcb segment = false := by
    unfold rearms firstData
    cases segment.prepended <;> simp
  cases sent with
  | busy => simp [outputSegment]
  | refused => simp [outputSegment, prepareSegment_eq plain]
  | accepted =>
      simp only [outputSegment, prepareSegment_eq plain]
      cases again : rearms pcb segment with
      | true => simp [apart again]
      | false =>
          cases firstData pcb segment <;> cases pcb.tfEcnCwr <;> simp [tcplen]

/-- The header a segment keeps. -/
theorem outputSegment_segment {pcb : Pcb} {segment : Segment}
    (plain : segment.Plain pcb.tfEcn) (sent : Sent) :
    (outputSegment pcb segment sent).2.1.seqno = segment.seqno ∧
      (outputSegment pcb segment sent).2.1.len = segment.len ∧
      (outputSegment pcb segment sent).2.1.flags.fin = segment.flags.fin ∧
      (outputSegment pcb segment sent).2.1.flags.ack = segment.flags.ack ∧
      (outputSegment pcb segment sent).2.1.prepended =
        (segment.prepended || sent ≠ .busy) ∧
      (outputSegment pcb segment sent).2.1.Plain pcb.tfEcn := by
  have kept := plain
  obtain ⟨noSyn, noRst, unsent, quiet⟩ := plain
  cases sent with
  | busy => simp [outputSegment, kept]
  | refused =>
      simp only [outputSegment, prepareSegment_eq kept]
      refine ⟨trivial, trivial, ?_, ?_, by simp, ?_, ?_, ?_, ?_⟩
      · split <;> rfl
      · split <;> rfl
      · split <;> exact noSyn
      · split <;> exact noRst
      · intro never
        cases never
      · intro plain
        simp only [plain, firstData, Bool.false_and, Bool.false_eq_true, ↓reduceIte]
        exact ⟨trivial, trivial⟩
  | accepted =>
      simp only [outputSegment, prepareSegment_eq kept]
      refine ⟨trivial, trivial, trivial, trivial, by simp, noSyn, noRst, ?_, ?_⟩
      · intro never
        cases never
      · intro plain
        simp only [plain, firstData, Bool.false_and]
        exact ⟨trivial, trivial⟩

/-- The packet of a segment that was taken. -/
theorem outputSegment_packet {pcb : Pcb} {segment : Segment}
    (plain : segment.Plain pcb.tfEcn) (sent : Sent) :
    (outputSegment pcb segment sent).2.2 =
      if sent = .accepted then
        some {
          seqno := segment.seqno
          ackno := pcb.rcvNxt
          len := segment.len
          flags := { segment.flags with
            ece := pcb.tfEcn && (pcb.tfEcnEce && segment.flags.ack)
            cwr := firstData pcb segment && pcb.tfEcnCwr }
          tos := if firstData pcb segment then (pcb.tos &&& ~~~ipEcnMask) ||| ipEcnEct0
            else pcb.tos &&& ~~~ipEcnMask }
      else none := by
  cases sent <;> simp [outputSegment, prepareSegment_eq plain]

end Ecn

end TcpShift
