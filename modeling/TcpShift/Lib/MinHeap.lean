import Mathlib.Data.Multiset.AddSub
import Mathlib.Data.List.Perm.Basic

set_option autoImplicit false

/- A binary heap kept in level order in an array, for an arbitrary comparison.
Comparisons go through `lessAt`, which answers `false` outside the array, so the
order predicates below need no bounds. -/
namespace MinHeap

variable {α : Type}

def parent (index : Nat) : Nat := (index - 1) / 2

theorem parent_lt {index : Nat} (positive : 0 < index) : parent index < index := by
  unfold parent
  omega

theorem parent_eq_iff {child index : Nat} (positive : 0 < child) :
    parent child = index ↔ child = index * 2 + 1 ∨ child = index * 2 + 2 := by
  unfold parent
  omega

/-- The negation of `less` is a total preorder: exactly what a heap needs. -/
structure Ordering (less : α → α → Bool) : Prop where
  asymm : ∀ {x y : α}, less x y = true → less y x = false
  trans : ∀ {x y z : α}, less x y = false → less y z = false → less x z = false

theorem Ordering.irrefl {less : α → α → Bool} (order : Ordering less) (x : α) :
    less x x = false := by
  by_contra reflexive
  have positive : less x x = true := by simpa using reflexive
  rw [order.asymm positive] at positive
  contradiction

section

variable (less : α → α → Bool)

def lessAt (heap : Array α) (left right : Nat) : Bool :=
  match heap[left]?, heap[right]? with
  | some x, some y => less x y
  | _, _ => false

theorem lessAt_out_left (heap : Array α) (left right : Nat) (outside : heap.size ≤ left) :
    lessAt less heap left right = false := by
  simp only [lessAt, Array.getElem?_eq_none outside]

variable {less}

theorem lessAt_asymm (order : Ordering less) {heap : Array α} {left right : Nat}
    (smaller : lessAt less heap left right = true) : lessAt less heap right left = false := by
  unfold lessAt at smaller ⊢
  split at smaller
  · rename_i x y first second
    simp only [first, second]
    exact order.asymm smaller
  · contradiction

/-- Only the middle index has to be inside the array. -/
theorem lessAt_trans (order : Ordering less) {heap : Array α} {left middle right : Nat}
    (inside : middle < heap.size) (first : lessAt less heap left middle = false)
    (second : lessAt less heap middle right = false) : lessAt less heap left right = false := by
  unfold lessAt at first second ⊢
  rw [Array.getElem?_eq_getElem inside] at first second
  cases atLeft : heap[left]? with
  | none => simp
  | some x =>
      cases atRight : heap[right]? with
      | none => simp
      | some z =>
          simp only [atLeft, atRight] at first second ⊢
          exact order.trans first second

theorem lessAt_self (order : Ordering less) (heap : Array α) (index : Nat) :
    lessAt less heap index index = false := by
  unfold lessAt
  cases heap[index]? with
  | none => rfl
  | some x => exact order.irrefl x

end

/-- Where the element at `index` of the swapped array came from. -/
def swapIndex (first second index : Nat) : Nat :=
  if index = first then second else if index = second then first else index

@[simp] theorem swapIndex_left (first second : Nat) : swapIndex first second first = second := by
  simp [swapIndex]

@[simp] theorem swapIndex_right (first second : Nat) : swapIndex first second second = first := by
  unfold swapIndex
  split
  · rename_i same
    exact same
  · simp

theorem swapIndex_of_ne {first second index : Nat} (notFirst : index ≠ first)
    (notSecond : index ≠ second) : swapIndex first second index = index := by
  simp [swapIndex, notFirst, notSecond]

theorem getElem?_swap (heap : Array α) {first second : Nat} (index : Nat)
    (insideFirst : first < heap.size) (insideSecond : second < heap.size) :
    (heap.swapIfInBounds first second)[index]? = heap[swapIndex first second index]? := by
  rw [Array.swapIfInBounds_def]
  simp only [insideFirst, insideSecond, ↓reduceDIte]
  rw [Array.getElem?_swap, swapIndex]
  by_cases atSecond : second = index
  · by_cases atFirst : index = first
    · subst atFirst
      simp [atSecond, insideFirst]
    · simp [atSecond, atFirst, insideFirst]
  · by_cases atFirst : first = index
    · simp [atSecond, atFirst, insideSecond]
    · simp [atSecond, atFirst, Ne.symm atFirst, Ne.symm atSecond]

theorem lessAt_swap (less : α → α → Bool) (heap : Array α) {first second : Nat}
    (left right : Nat) (insideFirst : first < heap.size) (insideSecond : second < heap.size) :
    lessAt less (heap.swapIfInBounds first second) left right =
      lessAt less heap (swapIndex first second left) (swapIndex first second right) := by
  simp only [lessAt, getElem?_swap heap _ insideFirst insideSecond]

theorem swap_perm (heap : Array α) (first second : Nat) :
    (heap.swapIfInBounds first second).Perm heap := by
  rw [Array.swapIfInBounds_def]
  split
  · split
    · exact Array.swap_perm _ _
    · exact Array.Perm.refl _
  · exact Array.Perm.refl _

section

variable (less : α → α → Bool)

/-- Swap an element with its parent while it is smaller. -/
def siftUp (heap : Array α) (index : Nat) : Array α :=
  if _root : index = 0 then heap
  else if lessAt less heap index (parent index) then
    siftUp (heap.swapIfInBounds index (parent index)) (parent index)
  else heap
termination_by index
decreasing_by exact parent_lt (Nat.pos_of_ne_zero _root)

/-- Keep `best` unless `candidate` is in the array and smaller. -/
def smallerOf (heap : Array α) (best candidate : Nat) : Nat :=
  if candidate < heap.size ∧ lessAt less heap candidate best then candidate else best

/-- The smallest of an index and its children, the left child first. -/
def smallest (heap : Array α) (index : Nat) : Nat :=
  smallerOf less heap (smallerOf less heap index (index * 2 + 1)) (index * 2 + 2)

theorem smallerOf_cases (heap : Array α) (best candidate : Nat) :
    smallerOf less heap best candidate = best ∨
      (smallerOf less heap best candidate = candidate ∧ candidate < heap.size) := by
  unfold smallerOf
  split
  · rename_i taken
    exact Or.inr ⟨rfl, taken.1⟩
  · exact Or.inl rfl

theorem smallerOf_lt (heap : Array α) (best candidate : Nat) (inside : best < heap.size) :
    smallerOf less heap best candidate < heap.size := by
  rcases smallerOf_cases less heap best candidate with same | ⟨same, bound⟩
  · rwa [same]
  · rwa [same]

theorem smallest_cases (heap : Array α) (index : Nat) :
    smallest less heap index = index ∨
      (0 < smallest less heap index ∧ parent (smallest less heap index) = index ∧
        smallest less heap index < heap.size) := by
  unfold smallest
  rcases smallerOf_cases less heap (smallerOf less heap index (index * 2 + 1)) (index * 2 + 2)
    with second | ⟨second, inside⟩
  · rcases smallerOf_cases less heap index (index * 2 + 1) with first | ⟨first, inside⟩
    · exact Or.inl (second.trans first)
    · rw [second, first]
      exact Or.inr ⟨by omega, (parent_eq_iff (by omega)).mpr (by omega), inside⟩
  · rw [second]
    exact Or.inr ⟨by omega, (parent_eq_iff (by omega)).mpr (by omega), inside⟩

/-- Swap an element with its smallest child until it is the smallest of the three. -/
def siftDown (heap : Array α) (index : Nat) : Array α :=
  if _settled : smallest less heap index = index then heap
  else siftDown (heap.swapIfInBounds index (smallest less heap index))
    (smallest less heap index)
termination_by heap.size - index
decreasing_by
  rcases smallest_cases less heap index with same | ⟨positive, above, inside⟩
  · exact absurd same _settled
  · have below := parent_lt positive
    simp only [Array.size_swapIfInBounds]
    omega

/-- Sift down every index below `count`, last first. -/
def heapifyBelow : Nat → Array α → Array α
  | 0, heap => heap
  | count + 1, heap => heapifyBelow count (siftDown less heap count)

def heapify (heap : Array α) : Array α :=
  if heap.size < 2 then heap else heapifyBelow less (heap.size / 2) heap

/-- No element is smaller than its parent. -/
def Ordered (heap : Array α) : Prop :=
  ∀ index, 0 < index → lessAt less heap index (parent index) = false

/-- The order, on the edges whose upper end is at `start` or later. -/
def OrderedFrom (heap : Array α) (start : Nat) : Prop :=
  ∀ index, 0 < index → start ≤ parent index → lessAt less heap index (parent index) = false

end

theorem smallerOf_le_best {less : α → α → Bool} (order : Ordering less) (heap : Array α)
    (best candidate : Nat) :
    lessAt less heap best (smallerOf less heap best candidate) = false := by
  unfold smallerOf
  split
  · rename_i taken
    exact lessAt_asymm order taken.2
  · exact lessAt_self order heap best

theorem smallerOf_le_candidate {less : α → α → Bool} (order : Ordering less) (heap : Array α)
    (best candidate : Nat) :
    lessAt less heap candidate (smallerOf less heap best candidate) = false := by
  unfold smallerOf
  split
  · exact lessAt_self order heap candidate
  · rename_i kept
    by_cases inside : candidate < heap.size
    · simpa [inside] using kept
    · exact lessAt_out_left less heap candidate best (by omega)

/-- Neither child of `index` is smaller than the chosen index. -/
theorem smallest_le_child {less : α → α → Bool} (order : Ordering less) (heap : Array α)
    (index child : Nat) (inside : index < heap.size) (positive : 0 < child)
    (below : parent child = index) :
    lessAt less heap child (smallest less heap index) = false := by
  unfold smallest
  rcases (parent_eq_iff positive).mp below with rfl | rfl
  · have first := smallerOf_le_candidate order heap index (index * 2 + 1)
    have second := smallerOf_le_best order heap
      (smallerOf less heap index (index * 2 + 1)) (index * 2 + 2)
    exact lessAt_trans order (smallerOf_lt less heap index (index * 2 + 1) inside) first second
  · exact smallerOf_le_candidate order heap _ _

theorem smallest_le_index {less : α → α → Bool} (order : Ordering less) (heap : Array α)
    (index : Nat) (inside : index < heap.size) :
    lessAt less heap index (smallest less heap index) = false := by
  unfold smallest
  have first := smallerOf_le_best order heap index (index * 2 + 1)
  have second := smallerOf_le_best order heap
    (smallerOf less heap index (index * 2 + 1)) (index * 2 + 2)
  exact lessAt_trans order (smallerOf_lt less heap index (index * 2 + 1) inside) first second

theorem siftUp_perm (less : α → α → Bool) (heap : Array α) (index : Nat) :
    (siftUp less heap index).Perm heap := by
  fun_induction siftUp less heap index with
  | case1 heap => exact Array.Perm.refl _
  | case2 heap index root smaller ih => exact ih.trans (swap_perm _ _ _)
  | case3 heap index root settled => exact Array.Perm.refl _

theorem siftDown_perm (less : α → α → Bool) (heap : Array α) (index : Nat) :
    (siftDown less heap index).Perm heap := by
  fun_induction siftDown less heap index with
  | case1 heap index settled => exact Array.Perm.refl _
  | case2 heap index unsettled ih => exact ih.trans (swap_perm _ _ _)

theorem heapifyBelow_perm (less : α → α → Bool) (count : Nat) (heap : Array α) :
    (heapifyBelow less count heap).Perm heap := by
  induction count generalizing heap with
  | zero => exact Array.Perm.refl _
  | succ count ih => exact (ih _).trans (siftDown_perm less heap count)

theorem heapify_perm (less : α → α → Bool) (heap : Array α) :
    (heapify less heap).Perm heap := by
  unfold heapify
  split
  · exact Array.Perm.refl _
  · exact heapifyBelow_perm less _ heap

section

variable {less : α → α → Bool}

/-- The edge into `index` is the only one that may be out of order, and moving
its parent down is safe for every edge leaving `index`. -/
structure UpReady (less : α → α → Bool) (heap : Array α) (index : Nat) : Prop where
  inside : index < heap.size
  except : ∀ other, 0 < other → other ≠ index →
    lessAt less heap other (parent other) = false
  bridge : ∀ child, 0 < child → parent child = index → 0 < index →
    lessAt less heap child (parent index) = false

theorem UpReady.step (order : Ordering less) {heap : Array α} {index : Nat}
    (ready : UpReady less heap index) (positive : 0 < index)
    (smaller : lessAt less heap index (parent index) = true) :
    UpReady less (heap.swapIfInBounds index (parent index)) (parent index) := by
  have above := parent_lt positive
  have insideParent : parent index < heap.size := by have := ready.inside; omega
  refine ⟨by simpa only [Array.size_swapIfInBounds] using insideParent, ?_, ?_⟩
  · intro other otherPositive notParent
    have otherAbove := parent_lt otherPositive
    rw [lessAt_swap less heap _ _ ready.inside insideParent]
    by_cases same : other = index
    · subst same
      rw [swapIndex_left, swapIndex_right]
      exact lessAt_asymm order smaller
    · rw [swapIndex_of_ne same notParent]
      by_cases underIndex : parent other = index
      · rw [underIndex, swapIndex_left]
        exact ready.bridge other otherPositive underIndex positive
      · by_cases underParent : parent other = parent index
        · rw [underParent, swapIndex_right]
          have sibling := ready.except other otherPositive same
          rw [underParent] at sibling
          exact lessAt_trans order insideParent sibling (lessAt_asymm order smaller)
        · rw [swapIndex_of_ne underIndex underParent]
          exact ready.except other otherPositive same
  · intro child childPositive under parentPositive
    have grandAbove := parent_lt parentPositive
    have grandEdge := ready.except (parent index) parentPositive (by omega)
    rw [lessAt_swap less heap _ _ ready.inside insideParent,
      swapIndex_of_ne (show parent (parent index) ≠ index by omega)
        (show parent (parent index) ≠ parent index by omega)]
    by_cases same : child = index
    · rw [same, swapIndex_left]
      exact grandEdge
    · have childAbove := parent_lt childPositive
      rw [swapIndex_of_ne same (by omega)]
      have childEdge := ready.except child childPositive same
      rw [under] at childEdge
      exact lessAt_trans order insideParent childEdge grandEdge

theorem siftUp_ordered (order : Ordering less) (heap : Array α) (index : Nat)
    (ready : UpReady less heap index) : Ordered less (siftUp less heap index) := by
  fun_induction siftUp less heap index with
  | case1 heap =>
      intro other positive
      exact ready.except other positive (by omega)
  | case2 heap index root smaller ih =>
      exact ih (ready.step order (Nat.pos_of_ne_zero root) smaller)
  | case3 heap index root settled =>
      intro other positive
      by_cases same : other = index
      · rw [same]
        simpa using settled
      · exact ready.except other positive same

/-- From `start` on, only the edges leaving `index` may be out of order, and
lifting a child of `index` is safe for the edge into `index`. -/
structure DownReady (less : α → α → Bool) (heap : Array α) (start index : Nat) : Prop where
  inside : index < heap.size
  except : ∀ other, 0 < other → start ≤ parent other → parent other ≠ index →
    lessAt less heap other (parent other) = false
  bridge : ∀ child, 0 < child → parent child = index → 0 < index → start ≤ parent index →
    lessAt less heap child (parent index) = false

theorem DownReady.step (order : Ordering less) {heap : Array α} {start index : Nat}
    (ready : DownReady less heap start index) (after : start ≤ index)
    (unsettled : smallest less heap index ≠ index) :
    DownReady less (heap.swapIfInBounds index (smallest less heap index)) start
      (smallest less heap index) := by
  obtain ⟨positive, under, inside⟩ :=
    (smallest_cases less heap index).resolve_left unsettled
  have least := smallest_le_child order heap index
  have raised := smallest_le_index order heap index ready.inside
  generalize smallest less heap index = lifted at positive under inside least raised
  have below : index < lifted := by have := parent_lt positive; omega
  refine ⟨by simpa only [Array.size_swapIfInBounds] using inside, ?_, ?_⟩
  · intro other otherPositive from_start notLifted
    have otherAbove := parent_lt otherPositive
    rw [lessAt_swap less heap _ _ ready.inside inside]
    by_cases atLifted : other = lifted
    · rw [atLifted, under, swapIndex_left, swapIndex_right]
      exact raised
    · by_cases atIndex : other = index
      · subst atIndex
        rw [swapIndex_left, swapIndex_of_ne (by omega) (by omega)]
        exact ready.bridge lifted positive under otherPositive from_start
      · rw [swapIndex_of_ne atIndex atLifted]
        by_cases sibling : parent other = index
        · rw [sibling, swapIndex_left]
          exact least other ready.inside otherPositive sibling
        · rw [swapIndex_of_ne sibling notLifted]
          exact ready.except other otherPositive from_start sibling
  · intro child childPositive underLifted liftedPositive from_start
    have childAbove := parent_lt childPositive
    rw [lessAt_swap less heap _ _ ready.inside inside, under, swapIndex_left,
      swapIndex_of_ne (by omega) (by omega)]
    have edge := ready.except child childPositive (by omega) (by omega)
    rwa [underLifted] at edge

theorem siftDown_orderedFrom (order : Ordering less) (heap : Array α) (start index : Nat)
    (ready : DownReady less heap start index) (after : start ≤ index) :
    OrderedFrom less (siftDown less heap index) start := by
  fun_induction siftDown less heap index with
  | case1 heap index settled =>
      intro other positive from_start
      by_cases under : parent other = index
      · have least := smallest_le_child order heap index other ready.inside positive under
        rwa [settled, ← under] at least
      · exact ready.except other positive from_start under
  | case2 heap index unsettled ih =>
      refine ih (ready.step order after unsettled) ?_
      rcases smallest_cases less heap index with same | ⟨positive, under, inside⟩
      · omega
      · have := parent_lt positive
        omega

/-- The leaves have no edges below them, so the order holds vacuously there. -/
theorem orderedFrom_half (heap : Array α) : OrderedFrom less heap (heap.size / 2) := by
  intro index positive from_half
  apply lessAt_out_left
  unfold parent at from_half
  omega

theorem heapifyBelow_ordered (order : Ordering less) (count : Nat) (heap : Array α)
    (inside : count ≤ heap.size) (tail : OrderedFrom less heap count) :
    OrderedFrom less (heapifyBelow less count heap) 0 := by
  induction count generalizing heap with
  | zero => exact tail
  | succ count ih =>
      have size : (siftDown less heap count).size = heap.size :=
        (siftDown_perm less heap count).size_eq
      refine ih _ (by omega) (siftDown_orderedFrom order heap count count ?_ (Nat.le_refl _))
      refine ⟨by omega, ?_, ?_⟩
      · intro other positive from_count notCount
        exact tail other positive (by omega)
      · intro child positive under countPositive from_count
        have := parent_lt countPositive
        omega

theorem heapify_ordered (order : Ordering less) (heap : Array α) :
    Ordered less (heapify less heap) := by
  unfold heapify
  split
  · intro index positive
    exact lessAt_out_left less heap index (parent index) (by omega)
  · intro index positive
    exact heapifyBelow_ordered order _ heap (by omega) (orderedFrom_half heap) index positive
      (Nat.zero_le _)

theorem push_upReady (heap : Array α) (x : α) (ordered : Ordered less heap) :
    UpReady less (heap.push x) heap.size := by
  have old : ∀ other, other < heap.size → (heap.push x)[other]? = heap[other]? := by
    intro other inside
    rw [Array.getElem?_push]
    simp only [Nat.ne_of_lt inside, ↓reduceIte]
  refine ⟨by simp, ?_, ?_⟩
  · intro other positive notLast
    have above := parent_lt positive
    by_cases inside : other < heap.size
    · simp only [lessAt, old other inside, old (parent other) (by omega)]
      exact ordered other positive
    · apply lessAt_out_left
      simp only [Array.size_push]
      omega
  · intro child positive under lastPositive
    have above := parent_lt positive
    apply lessAt_out_left
    simp only [Array.size_push]
    omega

/-- Inserting through `siftUp` keeps the order. -/
theorem push_siftUp_ordered (order : Ordering less) (heap : Array α) (x : α)
    (ordered : Ordered less heap) : Ordered less (siftUp less (heap.push x) heap.size) :=
  siftUp_ordered order _ _ (push_upReady heap x ordered)

/-- Replacing the root of a nonempty heap through `siftDown` keeps the order. -/
theorem set_siftDown_ordered (order : Ordering less) (heap : Array α) (x : α)
    (nonempty : 0 < heap.size) (ordered : Ordered less heap) :
    Ordered less (siftDown less (heap.setIfInBounds 0 x) 0) := by
  have ready : DownReady less (heap.setIfInBounds 0 x) 0 0 := by
    refine ⟨by simpa using nonempty, ?_, ?_⟩
    · intro other positive from_zero notRoot
      have edge := ordered other positive
      simp only [lessAt, Array.getElem?_setIfInBounds, Ne.symm notRoot,
        show ¬0 = other by omega, ↓reduceIte]
      exact edge
    · intro child positive under rootPositive
      omega
  intro index positive
  exact siftDown_orderedFrom order _ 0 0 ready (Nat.le_refl _) index positive (Nat.zero_le _)

theorem pop_ordered (heap : Array α) (ordered : Ordered less heap) : Ordered less heap.pop := by
  intro index positive
  have above := parent_lt positive
  by_cases inside : index < heap.pop.size
  · have edge := ordered index positive
    simp only [Array.size_pop] at inside
    simp only [lessAt, Array.getElem?_pop, show index < heap.size - 1 by omega,
      show parent index < heap.size - 1 by omega, ↓reduceIte]
    exact edge
  · exact lessAt_out_left less _ _ _ (by omega)

/-- The root of an ordered heap is a least element. -/
theorem Ordered.root_least (order : Ordering less) {heap : Array α}
    (ordered : Ordered less heap) (index : Nat) : lessAt less heap index 0 = false := by
  induction index using Nat.strongRecOn with
  | ind index ih =>
    by_cases root : index = 0
    · rw [root]
      exact lessAt_self order heap 0
    · have positive := Nat.pos_of_ne_zero root
      have above := parent_lt positive
      by_cases inside : index < heap.size
      · exact lessAt_trans order (show parent index < heap.size by omega)
          (ordered index positive) (ih (parent index) above)
      · exact lessAt_out_left less heap index 0 (by omega)

theorem Ordered.root_le (order : Ordering less) {heap : Array α} (ordered : Ordered less heap)
    {root x : α} (atRoot : heap[0]? = some root) (member : x ∈ heap) : less x root = false := by
  obtain ⟨index, inside, same⟩ := Array.mem_iff_getElem.mp member
  have least := ordered.root_least order index
  simp only [lessAt, Array.getElem?_eq_getElem inside, atRoot, same] at least
  exact least

end

end MinHeap
