import Mathlib.Data.List.Sort

set_option autoImplicit false

/- Queues kept in order by a comparison that is only trusted on their own elements:
insertion before the first element that is not below, removal of a covered front, and
ranges laid end to end. -/
namespace OrderedQueue

variable {α : Type}

section Insertion

variable {r R : α → α → Prop} [DecidableRel r] {item : α} {queue : List α}

/-- Insertion keeps an order that agrees with the walk's comparison around the new item. -/
theorem pairwise_insert (sorted : queue.Pairwise R)
    (below : ∀ other ∈ queue, ¬r item other → R other item)
    (above : ∀ other ∈ queue, r item other → R item other)
    (trans : ∀ next ∈ queue, ∀ later ∈ queue, R item next → R next later → R item later) :
    (queue.orderedInsert r item).Pairwise R := by
  induction queue with
  | nil => exact List.pairwise_singleton R item
  | cons head rest ih =>
      obtain ⟨first, sorted⟩ := List.pairwise_cons.mp sorted
      by_cases before : r item head
      · rw [List.orderedInsert_cons_of_le _ _ before]
        have here := above head List.mem_cons_self before
        refine List.pairwise_cons.mpr ⟨?_, List.pairwise_cons.mpr ⟨first, sorted⟩⟩
        intro other member
        rcases List.mem_cons.mp member with same | later
        · rwa [same]
        · exact trans head List.mem_cons_self other member here (first other later)
      · rw [List.orderedInsert_of_not_le _ _ before]
        refine List.pairwise_cons.mpr ⟨?_, ?_⟩
        · intro other member
          rcases (List.mem_orderedInsert r).mp member with same | later
          · rw [same]
            exact below head List.mem_cons_self before
          · exact first other later
        · apply ih sorted
          · intro other member
            exact below other (List.mem_cons_of_mem _ member)
          · intro other member
            exact above other (List.mem_cons_of_mem _ member)
          · intro next member later last
            exact trans next (List.mem_cons_of_mem _ member) later (List.mem_cons_of_mem _ last)

/-- An item that belongs before everything in the second part stays out of it. -/
theorem insert_append (second : List α) (before : ∀ other ∈ second, r item other) :
    (queue ++ second).orderedInsert r item = queue.orderedInsert r item ++ second := by
  induction queue with
  | nil =>
      cases second with
      | nil => rfl
      | cons head rest =>
          exact List.orderedInsert_cons_of_le _ _ (before head List.mem_cons_self)
  | cons head rest ih =>
      by_cases here : r item head
      · rw [List.cons_append, List.orderedInsert_cons_of_le _ _ here,
          List.orderedInsert_cons_of_le _ _ here]
        rfl
      · rw [List.cons_append, List.orderedInsert_of_not_le _ _ here,
          List.orderedInsert_of_not_le _ _ here, ih, List.cons_append]

/-- An item that belongs after everything goes to the end. -/
theorem insert_last (after : ∀ other ∈ queue, ¬r item other) :
    queue.orderedInsert r item = queue ++ [item] := by
  induction queue with
  | nil => rfl
  | cons head rest ih =>
      rw [List.orderedInsert_of_not_le _ _ (after head List.mem_cons_self), List.cons_append,
        ih fun other member => after other (List.mem_cons_of_mem _ member)]

end Insertion

section Front

variable {R : α → α → Prop} {covered : α → Bool} {queue : List α}

/-- Where what comes before a covered element is covered too, dropping the covered front
drops every covered element. -/
theorem not_covered_of_dropWhile (sorted : queue.Pairwise R)
    (down : ∀ first ∈ queue, ∀ second ∈ queue, R first second → covered second = true →
      covered first = true) {item : α} (kept : item ∈ queue.dropWhile covered) :
    covered item = false := by
  induction queue with
  | nil => simp at kept
  | cons head rest ih =>
      obtain ⟨first, sorted⟩ := List.pairwise_cons.mp sorted
      by_cases here : covered head = true
      · rw [List.dropWhile_cons_of_pos here] at kept
        apply ih sorted _ kept
        intro one member two other
        exact down one (List.mem_cons_of_mem _ member) two (List.mem_cons_of_mem _ other)
      · rw [List.dropWhile_cons_of_neg here] at kept
        rcases List.mem_cons.mp kept with same | later
        · rw [same]
          exact Bool.not_eq_true _ ▸ here
        · by_contra reached
          exact here (down head List.mem_cons_self item kept (first item later)
            (by simpa using reached))

theorem dropWhile_append_of_neg {second : List α}
    (open_ : ∀ item ∈ second, covered item = false) :
    (queue ++ second).dropWhile covered = queue.dropWhile covered ++ second := by
  have stays : second.dropWhile covered = second := by
    cases second with
    | nil => rfl
    | cons head rest =>
        exact List.dropWhile_cons_of_neg (by simp [open_ head List.mem_cons_self])
  rw [List.dropWhile_append]
  split
  · rename_i empty
    rw [stays, List.isEmpty_iff.mp empty, List.nil_append]
  · rfl

theorem takeWhile_append_of_neg {second : List α}
    (open_ : ∀ item ∈ second, covered item = false) :
    (queue ++ second).takeWhile covered = queue.takeWhile covered := by
  induction queue with
  | nil =>
      cases second with
      | nil => rfl
      | cons head rest =>
          exact List.takeWhile_cons_of_neg (by simp [open_ head List.mem_cons_self])
  | cons head rest ih =>
      by_cases here : covered head = true
      · rw [List.cons_append, List.takeWhile_cons_of_pos here, List.takeWhile_cons_of_pos here, ih]
      · rw [List.cons_append, List.takeWhile_cons_of_neg here, List.takeWhile_cons_of_neg here]

end Front

section Tiles

variable (start width : α → Nat)

/-- The ranges lie end to end from one place to another. -/
def Tiles : Nat → List α → Nat → Prop
  | first, [], last => first = last
  | first, item :: rest, last => start item = first ∧ Tiles (first + width item) rest last

variable {start width} {first last : Nat} {items : List α}

theorem Tiles.le (tiles : Tiles start width first items last) : first ≤ last := by
  induction items generalizing first with
  | nil => exact Nat.le_of_eq tiles
  | cons item rest ih => exact Nat.le_trans (Nat.le_add_right _ _) (ih tiles.2)

theorem Tiles.concat (tiles : Tiles start width first items last) {item : α}
    (next : start item = last) :
    Tiles start width first (items ++ [item]) (last + width item) := by
  induction items generalizing first with
  | nil =>
      have here : first = last := tiles
      exact ⟨here ▸ next, congrArg (· + width item) here⟩
  | cons head rest ih => exact ⟨tiles.1, ih tiles.2⟩

theorem tiles_append {one two : List α} :
    Tiles start width first (one ++ two) last ↔
      ∃ middle, Tiles start width first one middle ∧ Tiles start width middle two last := by
  induction one generalizing first with
  | nil =>
      constructor
      · intro tiles
        exact ⟨first, rfl, tiles⟩
      · rintro ⟨middle, here, tiles⟩
        have same : first = middle := here
        rwa [same]
  | cons item rest ih =>
      constructor
      · rintro ⟨here, tiles⟩
        obtain ⟨middle, before, after⟩ := ih.mp tiles
        exact ⟨middle, ⟨here, before⟩, after⟩
      · rintro ⟨middle, ⟨here, before⟩, after⟩
        exact ⟨here, ih.mpr ⟨middle, before, after⟩⟩

/-- A range can be cut in two. -/
theorem Tiles.cut {one two : List α} {item left right : α}
    (tiles : Tiles start width first (one ++ item :: two) last)
    (begins : start left = start item) (meets : start right = start left + width left)
    (whole : width left + width right = width item) :
    Tiles start width first (one ++ left :: right :: two) last := by
  obtain ⟨middle, before, here, after⟩ := tiles_append.mp tiles
  refine tiles_append.mpr ⟨middle, before, begins.trans here, ?_, ?_⟩
  · rw [meets, begins, here]
  · rwa [Nat.add_assoc, whole]

/-- The range that reaches the end is the last one, and can be lengthened. -/
theorem Tiles.lengthen {one two : List α} {item longer : α}
    (tiles : Tiles start width first (one ++ item :: two) last)
    (positive : ∀ other ∈ two, 0 < width other) (ends : start item + width item = last)
    (begins : start longer = start item) {more : Nat} (width' : width longer = width item + more) :
    two = [] ∧ Tiles start width first (one ++ [longer]) (last + more) := by
  obtain ⟨middle, before, here, after⟩ := tiles_append.mp tiles
  rw [← here, ends] at after
  have none : two = [] := by
    cases two with
    | nil => rfl
    | cons head rest =>
        have reached := after.2.le
        have wide := positive head List.mem_cons_self
        omega
  refine ⟨none, tiles_append.mpr ⟨middle, before, begins.trans here, ?_⟩⟩
  show middle + width longer = last + more
  omega

theorem Tiles.bounds (tiles : Tiles start width first items last) {item : α}
    (member : item ∈ items) : first ≤ start item ∧ start item + width item ≤ last := by
  induction items generalizing first with
  | nil => simp at member
  | cons head rest ih =>
      rcases List.mem_cons.mp member with same | later
      · rw [same, tiles.1]
        exact ⟨Nat.le_refl _, tiles.2.le⟩
      · obtain ⟨low, high⟩ := ih tiles.2 later
        exact ⟨Nat.le_trans (Nat.le_add_right _ _) low, high⟩

theorem Tiles.pairwise (tiles : Tiles start width first items last) :
    items.Pairwise fun one two => start one + width one ≤ start two := by
  induction items generalizing first with
  | nil => exact List.Pairwise.nil
  | cons head rest ih =>
      refine List.pairwise_cons.mpr ⟨?_, ih tiles.2⟩
      intro other member
      rw [tiles.1]
      exact (tiles.2.bounds member).1

/-- The items whose range holds a place. -/
def holding (start width : α → Nat) (place : Nat) (items : List α) : List α :=
  items.filter fun item => start item ≤ place ∧ place < start item + width item

/-- Every place between the ends lies in exactly one range. -/
theorem Tiles.holding_one (tiles : Tiles start width first items last) {place : Nat}
    (low : first ≤ place) (high : place < last) :
    (holding start width place items).length = 1 := by
  induction items generalizing first with
  | nil =>
      have ends : first = last := tiles
      omega
  | cons head rest ih =>
      obtain ⟨here, tail⟩ := tiles
      unfold holding
      by_cases inside : place < first + width head
      · have others : holding start width place rest = [] := by
          refine List.filter_eq_nil_iff.mpr ?_
          intro other member
          have later := (tail.bounds member).1
          simp only [decide_eq_true_eq]
          omega
        rw [List.filter_cons_of_pos (by simp only [decide_eq_true_eq]; omega)]
        exact congrArg (·.length + 1) others
      · rw [List.filter_cons_of_neg (by simp only [decide_eq_true_eq]; omega)]
        exact ih tail (by omega)

theorem Tiles.map (tiles : Tiles start width first items last) {change : α → α}
    (starts : ∀ item, start (change item) = start item)
    (widths : ∀ item, width (change item) = width item) :
    Tiles start width first (items.map change) last := by
  induction items generalizing first with
  | nil => exact tiles
  | cons head rest ih =>
      refine ⟨(starts head).trans tiles.1, ?_⟩
      rw [widths]
      exact ih tiles.2

end Tiles

end OrderedQueue
