import Mathlib.Data.Prod.Lex
import TcpShift.Lib.Selection
import TcpShift.DeliverySlots
import TcpShift.Adapter

set_option autoImplicit false

/- The rate samples of the adapter over whole runs: the stamps a slot carries, the slot a
sample is taken from, and the application-limited mark. -/
namespace TcpShift.Delivery

open Word

/-- The part of the mark that concerns the ledger; `idle` stands for a bound controller,
nothing unsent, room in the send buffer and a flight below the window. -/
def markAppLimited (delivery : Delivery) (idle : Bool) : Delivery :=
  if delivery.appLimitedUntilBytes ≠ 0 ∨ idle = false then delivery
  else
    let marker := add64 delivery.deliveredBytes (outstandingPayload delivery.slots)
    { delivery with appLimitedUntilBytes := if marker = 0 then 1 else marker }

theorem adapter_markAppLimited (adapter : CcAdapter) (pcb : Pcb) (unsentEmpty : Bool)
    (sndbuf : Nat) :
    (adapter.markAppLimited pcb unsentEmpty sndbuf).delivery =
      markAppLimited adapter.delivery
        (adapter.bound && unsentEmpty && decide (sndbuf ≠ 0 ∧
          sub32 pcb.sndNxt pcb.lastack < min adapter.published.cwnd pcb.sndWnd)) := by
  have window : (if adapter.published.cwnd < pcb.sndWnd then adapter.published.cwnd
      else pcb.sndWnd) = min adapter.published.cwnd pcb.sndWnd := by
    split <;> omega
  unfold CcAdapter.markAppLimited markAppLimited
  simp only [window]
  by_cases marked : adapter.delivery.appLimitedUntilBytes ≠ 0
  · rw [if_pos (Or.inr (Or.inl marked)), if_pos (Or.inl marked)]
  · by_cases quiet : adapter.bound = false ∨ unsentEmpty = false ∨ sndbuf = 0
    · rw [if_pos (by tauto), if_pos]
      right
      rcases quiet with unbound | busy | full
      · simp [unbound]
      · simp [busy]
      · simp [full]
    · push Not at quiet
      rw [if_neg (by tauto)]
      by_cases room : sub32 pcb.sndNxt pcb.lastack < min adapter.published.cwnd pcb.sndWnd
      · have idle : (adapter.bound && unsentEmpty && decide (sndbuf ≠ 0 ∧
            sub32 pcb.sndNxt pcb.lastack < min adapter.published.cwnd pcb.sndWnd)) = true := by
          simp [quiet, room]
        have taken : ¬(min adapter.published.cwnd pcb.sndWnd = 0 ∨
            sub32 pcb.sndNxt pcb.lastack ≥ min adapter.published.cwnd pcb.sndWnd) := by omega
        have unmarked : ¬(adapter.delivery.appLimitedUntilBytes ≠ 0 ∨ true = false) := by tauto
        rw [if_neg taken, idle, if_neg unmarked]
      · rw [if_pos (by omega), if_pos (by simp [room])]

/-- The account of the stream, with the segments sent again since they have a slot. -/
structure Sampling where
  ledger : Ledger
  resent : Nat → Bool := fun _ => false

inductive SamplingEvent where
  | ledger (event : LedgerEvent)
  /-- A transmission for which there is no slot to be had. -/
  | untracked (allocated : Bool) (clock : Nat) (sent : Transmission)
  | mark (idle : Bool)
deriving DecidableEq, Repr

namespace Sampling

def resentAfter (state : Sampling) : LedgerEvent → Nat → Bool
  | .transmit _ _ segment _ _ _ =>
      Function.update state.resent segment (find state.ledger.delivery.slots segment).isSome
  | _ => state.resent

def step (state : Sampling) : SamplingEvent → Option Sampling
  | .ledger event =>
      (Ledger.step state.ledger event).map
        (fun next => { ledger := next, resent := state.resentAfter event })
  | .untracked allocated clock sent =>
      let delivery := onSegmentTx allocated state.ledger.delivery clock sent
      if state.ledger.timely clock ∧ sent.payloadBytes ≠ 0 ∧
          find state.ledger.delivery.slots sent.segment = none ∧
          find delivery.slots sent.segment = none then
        some { state with ledger := { state.ledger with delivery := delivery, clock := clock } }
      else none
  | .mark idle =>
      some { state with ledger := { state.ledger with
        delivery := markAppLimited state.ledger.delivery idle } }

end Sampling

/-! ## The slot of a sample -/

/-- The slots a pass credits, as they are before it. -/
def newlyCredited (delivery : Delivery) (target : Entry → Nat) : List Slot :=
  (SlotTable.live delivery.slots).filter (fun slot => slot.ackedPayloadBytes < target slot.toEntry)

/-- The held candidate gives way to a newer slot. -/
def gives (held slot : Slot) : Bool := candidateNewer slot (some held)

/-- The candidate of a pass is one scan over the slots it credits. -/
theorem creditLoop_candidate (target : Entry → Nat) (slots : List (Option Slot)) (pass : Pass) :
    (creditLoop target slots pass).2.candidate =
      (((SlotTable.live slots).filter
          (fun slot => slot.ackedPayloadBytes < target slot.toEntry)).map
            (raiseSlot target)).foldl
        (fun best item =>
          match best with
          | none => some item
          | some held => if gives held item then some item else some held) pass.candidate := by
  induction slots generalizing pass with
  | nil => rfl
  | cons head rest ih =>
      cases head with
      | none => simpa only [creditLoop, SlotTable.live_cons_none] using ih pass
      | some slot =>
          rw [SlotTable.live_cons_some, List.filter_cons]
          unfold creditLoop
          by_cases kept : target slot.toEntry ≤ slot.ackedPayloadBytes
          · rw [if_pos kept, if_neg (by simpa using kept)]
            exact ih pass
          · have raised : raiseSlot target slot =
                { slot with ackedPayloadBytes := target slot.toEntry } := if_neg kept
            rw [if_neg kept, if_pos (by simpa using kept), List.map_cons, List.foldl_cons, raised]
            simp only [ih]
            congr 1
            cases pass.candidate with
            | none => rfl
            | some held => rfl

/-- The wrapped comparison is the true one for positions less than half the space apart. -/
theorem seqAfter_iff {left right : Nat} (near : left < right + 2 ^ 31) (far : right < left + 2 ^ 31) :
    seqAfter (left % 2 ^ 32) (right % 2 ^ 32) = true ↔ right < left := by
  unfold seqAfter sub32
  rw [decide_eq_true_iff]
  omega

/-- Where the segment of a slot ends in the stream. -/
def endOf (ledger : Ledger) (slot : Slot) : Nat :=
  ledger.place slot.segment + slot.payloadBytes

/-- Sent later, or at the same time and further in the stream. -/
def rank (ledger : Ledger) (slot : Slot) : Nat ×ₗ Nat := toLex (slot.txNs, endOf ledger slot)

variable {ledger : Ledger} {target : Entry → Nat}

theorem mem_newlyCredited {slot : Slot} :
    slot ∈ newlyCredited ledger.delivery target ↔
      slot ∈ SlotTable.live ledger.delivery.slots ∧
        slot.ackedPayloadBytes < target slot.toEntry := by
  simp only [newlyCredited, List.mem_filter, decide_eq_true_eq]

/-- A slot that can still be credited ends inside the window. -/
theorem endOf_window {slot : Slot} (balanced : Ledger.Balanced ledger)
    (bounded : ∀ entry ∈ ledger.entries, target entry ≤ entry.payloadBytes)
    (credited : slot ∈ newlyCredited ledger.delivery target) :
    slot.seqStart = Ledger.seqOf (ledger.place slot.segment) ∧
      ledger.lastack < endOf ledger slot ∧ endOf ledger slot < ledger.lastack + 2 ^ 31 := by
  obtain ⟨member, more⟩ := mem_newlyCredited.mp credited
  have inside : slot.toEntry ∈ ledger.entries := List.mem_map_of_mem member
  have held := balanced.held slot.toEntry inside
  have limit := bounded slot.toEntry inside
  refine ⟨held.seq, ?_, held.far⟩
  by_contra passed
  have full := held.covered (show ledger.place slot.segment + slot.payloadBytes ≤ ledger.lastack by
    unfold endOf at passed
    omega)
  omega

/-- Inside the window the code's comparison is the order by rank. -/
theorem gives_iff {left right : Slot} (balanced : Ledger.Balanced ledger)
    (bounded : ∀ entry ∈ ledger.entries, target entry ≤ entry.payloadBytes)
    (leftCredited : left ∈ newlyCredited ledger.delivery target)
    (rightCredited : right ∈ newlyCredited ledger.delivery target) :
    gives (raiseSlot target left) (raiseSlot target right) = true ↔
      rank ledger left < rank ledger right := by
  obtain ⟨leftSeq, leftLow, leftHigh⟩ := endOf_window balanced bounded leftCredited
  obtain ⟨rightSeq, rightLow, rightHigh⟩ := endOf_window balanced bounded rightCredited
  have ends : ∀ slot : Slot, slot.seqStart = Ledger.seqOf (ledger.place slot.segment) →
      add32 slot.seqStart slot.payloadBytes = endOf ledger slot % 2 ^ 32 := by
    intro slot seq
    unfold add32 endOf
    rw [seq, Ledger.seqOf]
    omega
  have after := @seqAfter_iff (endOf ledger right) (endOf ledger left) (by omega) (by omega)
  rw [← ends left leftSeq, ← ends right rightSeq] at after
  have metadata : ∀ slot : Slot, (raiseSlot target slot).txNs = slot.txNs ∧
      (raiseSlot target slot).seqStart = slot.seqStart := by
    intro slot
    unfold raiseSlot
    split <;> exact ⟨rfl, rfl⟩
  unfold gives candidateNewer rank
  rw [decide_eq_true_iff, raiseSlot_payloadBytes, raiseSlot_payloadBytes, (metadata left).1,
    (metadata left).2, (metadata right).1, (metadata right).2, after, Prod.Lex.toLex_lt_toLex]
  simp only
  constructor
  · rintro (later | ⟨same, further⟩)
    · exact Or.inl later
    · exact Or.inr ⟨same.symm, further⟩
  · rintro (later | ⟨same, further⟩)
    · exact Or.inl later
    · exact Or.inr ⟨same.symm, further⟩

/-- Newest among the credited slots, and the only one. -/
def Newest (ledger : Ledger) (target : Entry → Nat) (slot : Slot) : Prop :=
  slot ∈ newlyCredited ledger.delivery target ∧
    ∀ other ∈ newlyCredited ledger.delivery target, other ≠ slot →
      other.txNs < slot.txNs ∨
        (other.txNs = slot.txNs ∧ endOf ledger other < endOf ledger slot)

/-- Two slots of the account do not end at the same place. -/
theorem endOf_ne {left right : Slot} (balanced : Ledger.Balanced ledger)
    (distinct : Distinct ledger.delivery)
    (leftMember : left ∈ SlotTable.live ledger.delivery.slots)
    (rightMember : right ∈ SlotTable.live ledger.delivery.slots) (unlike : left ≠ right) :
    endOf ledger left ≠ endOf ledger right := by
  have leftInside : left.toEntry ∈ ledger.entries := List.mem_map_of_mem leftMember
  have rightInside : right.toEntry ∈ ledger.entries := List.mem_map_of_mem rightMember
  have entries : left.toEntry ≠ right.toEntry := by
    intro same
    exact unlike (List.inj_on_of_nodup_map distinct leftMember rightMember
      (congrArg Entry.segment same))
  have apart := balanced.apart_of_ne leftInside rightInside entries
  have leftSize := (balanced.held left.toEntry leftInside).payload.1
  have rightSize := (balanced.held right.toEntry rightInside).payload.1
  unfold Span.apart Ledger.spanOf at apart
  rw [decide_eq_true_iff] at apart
  simp only at apart
  unfold endOf
  omega

theorem candidate_newest (balanced : Ledger.Balanced ledger)
    (distinct : Distinct ledger.delivery)
    (bounded : ∀ entry ∈ ledger.entries, target entry ≤ entry.payloadBytes)
    (credits : newlyCredited ledger.delivery target ≠ []) :
    ∃ slot, (creditLoop target ledger.delivery.slots {}).2.candidate =
        some (raiseSlot target slot) ∧ Newest ledger target slot := by
  have picked : (creditLoop target ledger.delivery.slots {}).2.candidate =
      Selection.pick gives ((newlyCredited ledger.delivery target).map (raiseSlot target)) := by
    rw [creditLoop_candidate]
    unfold Selection.pick newlyCredited
    congr 1
    funext best item
    cases best <;> rfl
  have ranked : ∀ slot, rank ledger (raiseSlot target slot) = rank ledger slot := by
    intro slot
    unfold rank endOf
    rw [raiseSlot_segment, raiseSlot_payloadBytes]
    unfold raiseSlot
    split <;> rfl
  have compares : ∀ left ∈ (newlyCredited ledger.delivery target).map (raiseSlot target),
      ∀ right ∈ (newlyCredited ledger.delivery target).map (raiseSlot target),
        gives left right = true ↔ rank ledger left < rank ledger right := by
    intro left leftMember right rightMember
    obtain ⟨low, lowCredited, rfl⟩ := List.mem_map.mp leftMember
    obtain ⟨high, highCredited, rfl⟩ := List.mem_map.mp rightMember
    rw [ranked low, ranked high]
    exact gives_iff balanced bounded lowCredited highCredited
  obtain ⟨chosen, member, found, greatest⟩ := Selection.pick_greatest (rank ledger)
    (fun empty => credits (List.map_eq_nil_iff.mp empty)) compares
  obtain ⟨slot, credited, rfl⟩ := List.mem_map.mp member
  refine ⟨slot, picked.trans found, credited, ?_⟩
  intro other otherCredited unlike
  have below := greatest (raiseSlot target other) (List.mem_map_of_mem otherCredited)
  rw [ranked other, ranked slot] at below
  unfold rank at below
  rw [Prod.Lex.toLex_le_toLex] at below
  rcases below with earlier | ⟨same, further⟩
  · exact Or.inl earlier
  · have apart := endOf_ne balanced distinct (mem_newlyCredited.mp otherCredited).1
      (mem_newlyCredited.mp credited).1 unlike
    exact Or.inr ⟨same, Nat.lt_of_le_of_ne further apart⟩

end TcpShift.Delivery
