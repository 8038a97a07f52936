import TcpShift.Lib.RoundRing

set_option autoImplicit false

/- A ring whose slots carry the round they belong to: a slot is reused when a newer round
comes to it, and a reader skips the slots that are too old. -/
namespace RoundRing

section Fold

variable {α β : Type}

/-- The largest of the slots that count. -/
theorem foldl_max_if_le_iff [LinearOrder α] {Counts : β → Prop} [DecidablePred Counts]
    {value : β → α} {slots : List β} {start bound : α} :
    slots.foldl (fun best slot => if Counts slot then max best (value slot) else best) start ≤
        bound ↔
      start ≤ bound ∧ ∀ slot ∈ slots, Counts slot → value slot ≤ bound := by
  induction slots generalizing start with
  | nil => simp
  | cons slot rest ih =>
      rw [List.foldl_cons, ih, List.forall_mem_cons]
      split
      · rename_i counted
        rw [max_le_iff, and_assoc]
        apply and_congr_right
        intro _
        apply and_congr_left
        intro _
        exact ⟨fun below _ => below, fun below => below counted⟩
      · rename_i skipped
        apply and_congr_right
        intro _
        exact ⟨fun below => ⟨fun counted => absurd counted skipped, below⟩, fun both => both.2⟩

theorem forall_mem_zip_iff {size : Nat} {first : Vector α size} {second : Vector β size}
    {Good : α × β → Prop} :
    (∀ pair ∈ first.toList.zip second.toList, Good pair) ↔
      ∀ slot : Fin size, Good (first.get slot, second.get slot) := by
  constructor
  · intro pairs slot
    apply pairs
    rw [List.mem_iff_getElem]
    refine ⟨slot.val, ?_, ?_⟩
    · simp
    · simp only [List.getElem_zip, Vector.getElem_toList]
      rfl
  · intro slots pair member
    obtain ⟨index, inside, rfl⟩ := List.mem_iff_getElem.mp member
    have short : index < size := by simpa using inside
    simp only [List.getElem_zip, Vector.getElem_toList]
    exact slots ⟨index, short⟩

end Fold

variable {α : Type} [LinearOrder α] [OrderBot α] {size : Nat}

/-- One slot: its tag is the newest round recorded in it, and its value the largest of
that round. -/
structure SlotHolds (slot tag : Nat) (value : α) (latest size : Nat) (entries : List (Entry α)) :
    Prop where
  past : tag ≤ latest
  newest : ∀ entry ∈ entries, entry.round % size = slot →
    entry.round ≤ tag ∧ tag % size = slot
  largest : ∀ bound, value ≤ bound ↔ ∀ entry ∈ entries, entry.round % size = slot →
    entry.round = tag → entry.value ≤ bound

/-- Every slot holds the newest of its rounds. -/
def TaggedHolds (tags : Vector Nat size) (values : Vector α size) (latest : Nat)
    (entries : List (Entry α)) : Prop :=
  ∀ slot : Fin size, SlotHolds slot.val (tags.get slot) (values.get slot) latest size entries

theorem taggedHolds_nil (latest : Nat) :
    TaggedHolds (Vector.replicate size 0) (Vector.replicate size (⊥ : α)) latest [] := by
  intro slot
  refine ⟨?_, ?_, ?_⟩
  · have zero : (Vector.replicate size 0).get slot = 0 := Vector.getElem_replicate slot.isLt
    rw [zero]
    exact Nat.zero_le _
  · intro entry member
    exact absurd member List.not_mem_nil
  · intro bound
    have bottom : (Vector.replicate size (⊥ : α)).get slot = ⊥ := Vector.getElem_replicate slot.isLt
    rw [bottom]
    refine iff_of_true bot_le ?_
    intro entry member
    exact absurd member List.not_mem_nil

/-- A value recorded in a round that is not older than the latest: its slot starts over
unless it belongs to that round already. -/
theorem TaggedHolds.record {tags : Vector Nat size} {values : Vector α size}
    {latest round : Nat} {entries : List (Entry α)} {value : α}
    (holds : TaggedHolds tags values latest entries) (later : latest ≤ round)
    (slot : Fin size) (own : slot.val = round % size) :
    TaggedHolds (tags.set slot.val round slot.isLt)
      (values.set slot.val (max (if tags.get slot = round then values.get slot else ⊥) value)
        slot.isLt) round (⟨round, value⟩ :: entries) := by
  intro other
  by_cases same : other = slot
  · subst same
    have tag : (tags.set other.val round other.isLt).get other = round :=
      Vector.getElem_set_self other.isLt
    have stored : (values.set other.val
        (max (if tags.get other = round then values.get other else ⊥) value) other.isLt).get other =
          max (if tags.get other = round then values.get other else ⊥) value :=
      Vector.getElem_set_self other.isLt
    have before := holds other
    rw [tag, stored]
    refine ⟨Nat.le_refl _, ?_, ?_⟩
    · intro entry member residue
      rcases List.mem_cons.mp member with rfl | older
      · exact ⟨Nat.le_refl _, own.symm⟩
      · exact ⟨Nat.le_trans (before.newest entry older residue).1
          (Nat.le_trans before.past later), own.symm⟩
    · intro bound
      rw [max_le_iff, List.forall_mem_cons, and_comm]
      have fresh : value ≤ bound ↔ (round % size = other.val → round = round → value ≤ bound) :=
        ⟨fun below _ _ => below, fun below => below own.symm rfl⟩
      apply and_congr fresh
      by_cases current : tags.get other = round
      · rw [if_pos current, before.largest bound, current]
      · rw [if_neg current]
        refine iff_of_true bot_le ?_
        intro entry older residue equal
        have upper := (before.newest entry older residue).1
        have past := before.past
        exact absurd (by omega) current
  · have apart : slot.val ≠ other.val := fun equal => same (Fin.ext equal.symm)
    have tag : (tags.set slot.val round slot.isLt).get other = tags.get other :=
      Vector.getElem_set_ne slot.isLt other.isLt apart
    have stored : (values.set slot.val
        (max (if tags.get slot = round then values.get slot else ⊥) value) slot.isLt).get other =
          values.get other := Vector.getElem_set_ne slot.isLt other.isLt apart
    have before := holds other
    have elsewhere : round % size ≠ other.val := own ▸ apart
    rw [tag, stored]
    refine ⟨Nat.le_trans before.past later, ?_, ?_⟩
    · intro entry member residue
      rcases List.mem_cons.mp member with rfl | older
      · exact absurd residue elsewhere
      · exact before.newest entry older residue
    · intro bound
      rw [before.largest bound, List.forall_mem_cons]
      constructor
      · intro bounded
        exact ⟨fun residue _ => absurd residue elsewhere, bounded⟩
      · intro bounded
        exact bounded.2

/-- Two rounds of one slot less than the ring apart are the same. -/
theorem round_eq_of_recent {round tag latest length : Nat} (ordered : round ≤ tag)
    (past : tag ≤ latest) (recent : latest < round + length) (short : length ≤ size)
    (residue : round % size = tag % size) : round = tag := by
  by_contra differ
  exact mod_ne_of_recent (Nat.le_refl round)
    (show round + (tag - round) < round + size by omega) (by omega) (Nat.le_refl _)
    (show (round + (tag - round)) % size = round % size by
      rw [show round + (tag - round) = tag by omega]
      exact residue.symm)

theorem le_windowMax {newest entry : Entry α} {older : List (Entry α)} {length : Nat}
    (listed : entry ∈ newest :: older) (recent : newest.round < entry.round + length) :
    entry.value ≤ windowMax length (newest :: older) := by
  apply (foldl_max_le_iff.mp (le_refl (windowMax length (newest :: older)))).2
  exact List.mem_map_of_mem (List.mem_filter.mpr ⟨listed, decide_eq_true recent⟩)

/-- The slots of the last rounds bound what the window's entries bound. -/
theorem TaggedHolds.window_le {tags : Vector Nat size} {values : Vector α size}
    {newest : Entry α} {older : List (Entry α)} {length : Nat} (positive : 0 < size)
    (short : length ≤ size)
    (holds : TaggedHolds tags values newest.round (newest :: older)) (bound : α) :
    (∀ slot : Fin size, newest.round - tags.get slot < length → values.get slot ≤ bound) ↔
      windowMax length (newest :: older) ≤ bound := by
  rw [windowMax, foldl_max_le_iff]
  constructor
  · intro slots
    refine ⟨bot_le, ?_⟩
    intro value member
    obtain ⟨entry, inside, rfl⟩ := List.mem_map.mp member
    obtain ⟨listed, windowed⟩ := List.mem_filter.mp inside
    have recent := of_decide_eq_true windowed
    let slot : Fin size := ⟨entry.round % size, Nat.mod_lt _ positive⟩
    have here := holds slot
    obtain ⟨ordered, residue⟩ := here.newest entry listed rfl
    have same := round_eq_of_recent ordered here.past recent short residue.symm
    have counted : newest.round - tags.get slot < length := by
      have past := here.past
      omega
    exact (here.largest bound).mp (slots slot counted) entry listed rfl same
  · intro window slot counted
    have here := holds slot
    rw [here.largest bound]
    intro entry listed residue same
    apply window.2
    apply List.mem_map_of_mem
    have past := here.past
    exact List.mem_filter.mpr ⟨listed, decide_eq_true (by omega)⟩

end RoundRing
