import Mathlib.Data.List.Nodup
import Mathlib.Data.List.Perm.Basic
import Mathlib.Logic.Function.Basic
import Mathlib.Order.Lattice

set_option autoImplicit false

/- A selection loop over a table whose entries carry marks: each round picks the first of
the unmarked entries and marks it, until none is left. -/
namespace Selection

variable {α κ : Type}

/-- One scan; a later entry replaces the held one only when it has to come before it. -/
def pick (replaces : α → α → Bool) (items : List α) : Option α :=
  items.foldl
    (fun best item =>
      match best with
      | none => some item
      | some held => if replaces held item then some item else some held)
    none

theorem foldl_pick_mem (replaces : α → α → Bool) (items : List α) (held : α) :
    ∃ chosen, items.foldl
        (fun best item =>
          match best with
          | none => some item
          | some held => if replaces held item then some item else some held)
        (some held) = some chosen ∧ (chosen = held ∨ chosen ∈ items) := by
  induction items generalizing held with
  | nil => exact ⟨held, rfl, Or.inl rfl⟩
  | cons item rest ih =>
      by_cases sooner : replaces held item
      · obtain ⟨chosen, picked, origin⟩ := ih item
        refine ⟨chosen, ?_, ?_⟩
        · simpa only [List.foldl_cons, sooner, if_true] using picked
        · rcases origin with rfl | member
          · exact Or.inr List.mem_cons_self
          · exact Or.inr (List.mem_cons_of_mem _ member)
      · obtain ⟨chosen, picked, origin⟩ := ih held
        refine ⟨chosen, ?_, ?_⟩
        · simpa only [List.foldl_cons, sooner, Bool.false_eq_true, if_false] using picked
        · exact origin.imp id (List.mem_cons_of_mem _)

/-- A scan of a nonempty list finds one of its entries. -/
theorem pick_spec (replaces : α → α → Bool) (items : List α) :
    (items = [] ∧ pick replaces items = none) ∨
      ∃ chosen ∈ items, pick replaces items = some chosen := by
  cases items with
  | nil => exact Or.inl ⟨rfl, rfl⟩
  | cons item rest =>
      obtain ⟨chosen, picked, origin⟩ := foldl_pick_mem replaces rest item
      refine Or.inr ⟨chosen, ?_, picked⟩
      rcases origin with rfl | member
      · exact List.mem_cons_self
      · exact List.mem_cons_of_mem _ member

/-- When the scan compares by rank, it finds an entry of the highest rank. -/
theorem foldl_pick_greatest {β : Type} [LinearOrder β] {replaces : α → α → Bool} (rank : α → β)
    {items : List α} {held : α}
    (compares : ∀ left ∈ held :: items, ∀ right ∈ held :: items,
      replaces left right = true ↔ rank left < rank right) :
    ∃ chosen ∈ held :: items, items.foldl
        (fun best item =>
          match best with
          | none => some item
          | some held => if replaces held item then some item else some held)
        (some held) = some chosen ∧ ∀ item ∈ held :: items, rank item ≤ rank chosen := by
  induction items generalizing held with
  | nil =>
      refine ⟨held, List.mem_cons_self, rfl, ?_⟩
      intro item member
      rw [List.mem_singleton.mp member]
  | cons item rest ih =>
      have here := compares held List.mem_cons_self item
        (List.mem_cons_of_mem _ List.mem_cons_self)
      by_cases sooner : replaces held item = true
      · obtain ⟨chosen, member, picked, greatest⟩ := @ih item (fun left leftMember right rightMember =>
          compares left (List.mem_cons_of_mem _ leftMember) right
            (List.mem_cons_of_mem _ rightMember))
        refine ⟨chosen, List.mem_cons_of_mem _ member, ?_, ?_⟩
        · simpa only [List.foldl_cons, sooner, if_true] using picked
        · intro other otherMember
          rcases List.mem_cons.mp otherMember with rfl | later
          · exact le_trans (le_of_lt (here.mp sooner)) (greatest item List.mem_cons_self)
          · exact greatest other later
      · have inside : ∀ other ∈ held :: rest, other ∈ held :: item :: rest := by
          intro other member
          rcases List.mem_cons.mp member with rfl | later
          · exact List.mem_cons_self
          · exact List.mem_cons_of_mem _ (List.mem_cons_of_mem _ later)
        obtain ⟨chosen, member, picked, greatest⟩ := @ih held (fun left leftMember right rightMember =>
          compares left (inside left leftMember) right (inside right rightMember))
        refine ⟨chosen, inside chosen member, ?_, ?_⟩
        · simpa only [List.foldl_cons, sooner, Bool.false_eq_true, if_false] using picked
        · intro other otherMember
          rcases List.mem_cons.mp otherMember with rfl | later
          · exact greatest other List.mem_cons_self
          · rcases List.mem_cons.mp later with rfl | last
            · have below : rank other ≤ rank held := not_lt.mp (fun less => sooner (here.mpr less))
              exact le_trans below (greatest held List.mem_cons_self)
            · exact greatest other (List.mem_cons_of_mem _ last)

theorem pick_greatest {β : Type} [LinearOrder β] {replaces : α → α → Bool} (rank : α → β)
    {items : List α} (some : items ≠ [])
    (compares : ∀ left ∈ items, ∀ right ∈ items,
      replaces left right = true ↔ rank left < rank right) :
    ∃ chosen ∈ items, pick replaces items = Option.some chosen ∧
      ∀ item ∈ items, rank item ≤ rank chosen := by
  cases items with
  | nil => exact absurd rfl some
  | cons item rest => exact foldl_pick_greatest rank compares

/-- The entries that carry the wanted mark. -/
def ready (key : α → κ) (wanted : Nat) (items : List α) (marks : κ → Nat) : List α :=
  items.filter (fun item => marks (key item) = wanted)

theorem mem_ready {key : α → κ} {wanted : Nat} {items : List α} {marks : κ → Nat} {item : α} :
    item ∈ ready key wanted items marks ↔ item ∈ items ∧ marks (key item) = wanted := by
  simp only [ready, List.mem_filter, decide_eq_true_eq]

variable [DecidableEq κ]

/-- The loop: the entries in the order of their visit, and the marks it leaves. -/
def drain (key : α → κ) (wanted mark : Nat) (replaces : α → α → Bool) (items : List α) :
    Nat → (κ → Nat) → List α × (κ → Nat)
  | 0, marks => ([], marks)
  | fuel + 1, marks =>
      match pick replaces (ready key wanted items marks) with
      | none => ([], marks)
      | some item =>
          let (rest, final) := drain key wanted mark replaces items fuel
            (Function.update marks (key item) mark)
          (item :: rest, final)

variable {key : α → κ} {wanted mark : Nat} {items : List α} {marks : κ → Nat}

/-- Marking one entry takes exactly that entry out of the ready ones. -/
theorem ready_update {item : α} (nodup : (items.map key).Nodup) (apart : mark ≠ wanted)
    (member : item ∈ ready key wanted items marks) :
    (item :: ready key wanted items (Function.update marks (key item) mark)).Perm
      (ready key wanted items marks) := by
  obtain ⟨listed, unmarked⟩ := mem_ready.mp member
  have gone : item ∉ ready key wanted items (Function.update marks (key item) mark) := by
    rw [mem_ready, Function.update_self]
    exact fun still => apart still.2
  have left : (item :: ready key wanted items (Function.update marks (key item) mark)).Nodup :=
    List.nodup_cons.mpr ⟨gone, nodup.of_map.filter _⟩
  have right : (ready key wanted items marks).Nodup := nodup.of_map.filter _
  rw [List.perm_ext_iff_of_nodup left right]
  intro other
  rw [List.mem_cons, mem_ready, mem_ready]
  constructor
  · rintro (rfl | ⟨found, still⟩)
    · exact ⟨listed, unmarked⟩
    · by_cases same : key other = key item
      · rw [same, Function.update_self] at still
        exact absurd still apart
      · rw [Function.update_of_ne same] at still
        exact ⟨found, still⟩
  · rintro ⟨found, still⟩
    by_cases same : key other = key item
    · exact Or.inl (List.inj_on_of_nodup_map nodup found listed same)
    · rw [Function.update_of_ne same]
      exact Or.inr ⟨found, still⟩

/-- With a round for every ready entry, the loop visits exactly these, each once, and
marks them. -/
theorem drain_spec (replaces : α → α → Bool) (nodup : (items.map key).Nodup)
    (apart : mark ≠ wanted) {fuel : Nat}
    (enough : (ready key wanted items marks).length ≤ fuel) :
    (drain key wanted mark replaces items fuel marks).1.Perm (ready key wanted items marks) ∧
      ∀ owner, (drain key wanted mark replaces items fuel marks).2 owner =
        if owner ∈ (ready key wanted items marks).map key then mark else marks owner := by
  induction fuel generalizing marks with
  | zero =>
      have none : ready key wanted items marks = [] := List.length_eq_zero_iff.mp (by omega)
      rw [none]
      exact ⟨List.Perm.refl _, fun owner => rfl⟩
  | succ fuel ih =>
      rw [drain]
      rcases pick_spec replaces (ready key wanted items marks) with
        ⟨none, picked⟩ | ⟨item, member, picked⟩
      · rw [picked, none]
        exact ⟨List.Perm.refl _, fun owner => rfl⟩
      · have one := ready_update nodup apart member
        have shorter := one.length_eq
        rw [List.length_cons] at shorter
        obtain ⟨visited, marked⟩ := @ih (Function.update marks (key item) mark) (by omega)
        rw [picked]
        refine ⟨(visited.cons item).trans one, fun owner => ?_⟩
        have members : owner ∈ (ready key wanted items marks).map key ↔ owner = key item ∨
            owner ∈ (ready key wanted items (Function.update marks (key item) mark)).map key := by
          rw [← (one.map key).mem_iff, List.map_cons, List.mem_cons]
        simp only [marked owner, members]
        by_cases same : owner = key item
        · rw [if_pos (Or.inl same), same, Function.update_self, ite_self]
        · rw [Function.update_of_ne same]
          simp only [same, false_or]

section Sorted

variable {β : Type} [LinearOrder β] {replaces : α → α → Bool} (rank : α → β)

/-- When the scan compares by rank, the loop visits the entries by falling rank. -/
theorem drain_sorted (nodup : (items.map key).Nodup) (apart : mark ≠ wanted) {fuel : Nat}
    (enough : (ready key wanted items marks).length ≤ fuel)
    (compares : ∀ left ∈ ready key wanted items marks, ∀ right ∈ ready key wanted items marks,
      replaces left right = true ↔ rank left < rank right) :
    (drain key wanted mark replaces items fuel marks).1.Pairwise
      (fun first later => rank later ≤ rank first) := by
  induction fuel generalizing marks with
  | zero => exact List.Pairwise.nil
  | succ fuel ih =>
      rw [drain]
      by_cases nothing : ready key wanted items marks = []
      · rw [nothing]
        exact List.Pairwise.nil
      · obtain ⟨item, member, picked, greatest⟩ := pick_greatest rank nothing compares
        have one := ready_update nodup apart member
        have shorter := one.length_eq
        rw [List.length_cons] at shorter
        have inside : ∀ other ∈ ready key wanted items (Function.update marks (key item) mark),
            other ∈ ready key wanted items marks := by
          intro other left
          exact one.subset (List.mem_cons_of_mem item left)
        rw [picked]
        apply List.Pairwise.cons
        · intro later visited
          apply greatest
          apply inside
          exact (drain_spec replaces nodup apart (by omega)).1.subset visited
        · apply ih (by omega)
          intro left leftMember right rightMember
          exact compares left (inside left leftMember) right (inside right rightMember)

/-- The order of the table does not matter to a loop that compares by rank. -/
theorem drain_perm {others : List α} (perm : items.Perm others) (nodup : (items.map key).Nodup)
    (apart : mark ≠ wanted) {fuel othersFuel : Nat}
    (enough : (ready key wanted items marks).length ≤ fuel)
    (othersEnough : (ready key wanted others marks).length ≤ othersFuel)
    (compares : ∀ left ∈ ready key wanted items marks, ∀ right ∈ ready key wanted items marks,
      replaces left right = true ↔ rank left < rank right)
    (distinct : ∀ left ∈ ready key wanted items marks, ∀ right ∈ ready key wanted items marks,
      rank left = rank right → left = right) :
    drain key wanted mark replaces items fuel marks =
      drain key wanted mark replaces others othersFuel marks := by
  have readyPerm : (ready key wanted items marks).Perm (ready key wanted others marks) :=
    perm.filter _
  have othersNodup : (others.map key).Nodup := (perm.map key).nodup_iff.mp nodup
  have sameReady : ∀ item, item ∈ ready key wanted others marks →
      item ∈ ready key wanted items marks := fun item => readyPerm.mem_iff.mpr
  obtain ⟨visits, marked⟩ := drain_spec replaces nodup apart enough
  obtain ⟨othersVisits, othersMarked⟩ := drain_spec replaces othersNodup apart othersEnough
  have sorted := drain_sorted rank nodup apart enough compares
  have othersSorted := drain_sorted rank othersNodup apart othersEnough
    (fun left leftMember right rightMember =>
      compares left (sameReady left leftMember) right (sameReady right rightMember))
  apply Prod.ext
  · refine List.Perm.eq_of_pairwise ?_ sorted othersSorted
      (visits.trans (readyPerm.trans othersVisits.symm))
    intro left right leftMember rightMember above below
    exact distinct left (visits.subset leftMember) right
      (sameReady right (othersVisits.subset rightMember)) (le_antisymm below above)
  · funext owner
    rw [marked owner, othersMarked owner]
    simp only [(readyPerm.map key).mem_iff]

end Sorted

end Selection
