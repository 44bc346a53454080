import Mathlib.Data.List.Sort

namespace Relational

variable {α : Type}

/-- `sorted(xs, key=..)` for the comparison `le` of the keys: rows that compare equal keep their
    order. -/
def stableSort (le : α → α → Bool) (xs : List α) : List α := xs.insertionSort (fun a b => le a b = true)

/-- A comparison a stable sort can use: any two rows compare, and comparisons compose. -/
structure Comparison (le : α → α → Bool) : Prop where
  total : ∀ a b, le a b = true ∨ le b a = true
  trans : ∀ a b c, le a b = true → le b c = true → le a c = true

theorem Comparison.ofKey {β : Type} [LinearOrder β] (key : α → β) :
    Comparison (fun a b => decide (key a ≤ key b)) where
  total := by
    intro a b
    simpa using le_total (key a) (key b)
  trans := by
    intro a b c
    simp only [decide_eq_true_eq]
    exact le_trans

def lexicographic (first second : α → α → Bool) (a b : α) : Bool :=
  first a b && (!first b a || second a b)

theorem Comparison.lexicographic {first second : α → α → Bool} (major : Comparison first)
    (minor : Comparison second) : Comparison (lexicographic first second) where
  total := by
    intro a b
    have outer := major.total a b
    have inner := minor.total a b
    unfold Relational.lexicographic
    cases forward : first a b <;> cases backward : first b a <;> simp_all
  trans := by
    intro a b c left right
    unfold Relational.lexicographic at left right ⊢
    simp only [Bool.and_eq_true, Bool.or_eq_true, Bool.not_eq_true'] at left right ⊢
    refine ⟨major.trans a b c left.1 right.1, ?_⟩
    by_cases back : first c a = true
    · have ba := major.trans b c a right.1 back
      have cb := major.trans c a b back left.1
      refine Or.inr (minor.trans a b c ?_ ?_)
      · exact left.2.resolve_left (by simp [ba])
      · exact right.2.resolve_left (by simp [cb])
    · exact Or.inl (by simpa using back)

/-- Rows that come before each other compare equal both ways. -/
theorem lexicographic_tie {first second : α → α → Bool} {a b : α} (forward : lexicographic first second a b = true)
    (backward : lexicographic first second b a = true) :
    (first a b = true ∧ first b a = true) ∧ second a b = true ∧ second b a = true := by
  simp only [lexicographic, Bool.and_eq_true, Bool.or_eq_true, Bool.not_eq_true'] at forward backward
  refine ⟨⟨forward.1, backward.1⟩, ?_, ?_⟩
  · exact forward.2.resolve_left (by simp [backward.1])
  · exact backward.2.resolve_left (by simp [forward.1])

variable {le : α → α → Bool}

theorem perm_stableSort (le : α → α → Bool) (xs : List α) : (stableSort le xs).Perm xs :=
  List.perm_insertionSort _ xs

@[simp] theorem mem_stableSort {xs : List α} {x : α} : x ∈ stableSort le xs ↔ x ∈ xs :=
  (perm_stableSort le xs).mem_iff

@[simp] theorem stableSort_nil : stableSort le ([] : List α) = [] := rfl

theorem stableSort_cons (x : α) (xs : List α) :
    stableSort le (x :: xs) = (stableSort le xs).orderedInsert (fun a b => le a b = true) x := rfl

theorem pairwise_stableSort (cmp : Comparison le) (xs : List α) :
    (stableSort le xs).Pairwise (fun a b => le a b = true) := by
  have : Std.Total (fun a b => le a b = true) := ⟨cmp.total⟩
  have : IsTrans α (fun a b => le a b = true) := ⟨cmp.trans⟩
  exact List.pairwise_insertionSort _ xs

theorem orderedInsert_of_forall_le {x : α} {xs : List α} (least : ∀ y ∈ xs, le x y = true) :
    xs.orderedInsert (fun a b => le a b = true) x = x :: xs := by
  cases xs with
  | nil => rfl
  | cons y ys => exact List.orderedInsert_cons_of_le _ ys (least y (by simp))

theorem filter_orderedInsert (cmp : Comparison le) (p : α → Bool) (x : α) {xs : List α}
    (sorted : xs.Pairwise (fun a b => le a b = true)) :
    (xs.orderedInsert (fun a b => le a b = true) x).filter p =
      if p x then (xs.filter p).orderedInsert (fun a b => le a b = true) x else xs.filter p := by
  induction xs with
  | nil => simp [List.filter_cons]
  | cons y ys ih =>
    obtain ⟨least, rest⟩ := List.pairwise_cons.mp sorted
    by_cases below : le x y = true
    · rw [List.orderedInsert_cons_of_le _ ys below, List.filter_cons]
      split
      · rw [orderedInsert_of_forall_le]
        intro z member
        rcases List.mem_cons.mp (List.mem_of_mem_filter member) with rfl | later
        · exact below
        · exact cmp.trans x y z below (least z later)
      · rfl
    · rw [List.orderedInsert_of_not_le _ ys below, List.filter_cons, ih rest, List.filter_cons]
      by_cases keepX : p x = true <;> by_cases keepY : p y = true <;>
        simp [keepX, keepY, List.orderedInsert_cons, below]

/-- Selecting from a sorted list and sorting the selection agree. -/
theorem filter_stableSort (cmp : Comparison le) (p : α → Bool) (xs : List α) :
    (stableSort le xs).filter p = stableSort le (xs.filter p) := by
  induction xs with
  | nil => rfl
  | cons x xs ih =>
    rw [stableSort_cons, filter_orderedInsert cmp p x (pairwise_stableSort cmp xs), ih,
      List.filter_cons]
    split <;> rfl

theorem orderedInsert_congr {le' : α → α → Bool} {x : α} {xs : List α}
    (agree : ∀ y ∈ xs, le x y = le' x y) :
    xs.orderedInsert (fun a b => le a b = true) x = xs.orderedInsert (fun a b => le' a b = true) x := by
  induction xs with
  | nil => rfl
  | cons y ys ih =>
    have here := agree y (by simp)
    simp only [List.orderedInsert_cons, here]
    rw [ih (fun z member => agree z (by simp [member]))]

theorem stableSort_congr {le' : α → α → Bool} {xs : List α}
    (agree : ∀ x ∈ xs, ∀ y ∈ xs, le x y = le' x y) : stableSort le xs = stableSort le' xs := by
  induction xs with
  | nil => rfl
  | cons x xs ih =>
    rw [stableSort_cons, stableSort_cons,
      ih (fun y left z right => agree y (by simp [left]) z (by simp [right]))]
    apply orderedInsert_congr
    intro y member
    exact agree x (by simp) y (by simp [mem_stableSort.mp member])

theorem stableSort_eq_self {xs : List α} (sorted : xs.Pairwise (fun a b => le a b = true)) :
    stableSort le xs = xs := by
  induction xs with
  | nil => rfl
  | cons x xs ih =>
    obtain ⟨least, rest⟩ := List.pairwise_cons.mp sorted
    rw [stableSort_cons, ih rest, orderedInsert_of_forall_le least]

section
variable {β : Type} [LinearOrder β] {key : α → β} {xs : List α}

theorem getLast?_stableSort_key (distinct : ∀ x ∈ xs, ∀ y ∈ xs, key x = key y → x = y) (m : α) :
    (stableSort (fun a b => decide (key a ≤ key b)) xs).getLast? = some m ↔
      m ∈ xs ∧ ∀ x ∈ xs, key x ≤ key m := by
  have sorted := pairwise_stableSort (Comparison.ofKey key) xs
  have largest : ∀ l, (stableSort (fun a b => decide (key a ≤ key b)) xs).getLast? = some l →
      l ∈ xs ∧ ∀ x ∈ xs, key x ≤ key l := by
    intro l last
    have split := List.dropLast_append_getLast? l last
    refine ⟨mem_stableSort.mp (List.mem_of_getLast? last), ?_⟩
    intro x member
    rw [← split, List.pairwise_append] at sorted
    have present : x ∈ stableSort (fun a b => decide (key a ≤ key b)) xs := mem_stableSort.mpr member
    rw [← split, List.mem_append] at present
    rcases present with earlier | final
    · simpa using sorted.2.2 x earlier l (by simp)
    · rw [List.mem_singleton.mp final]
  constructor
  · exact largest m
  · intro held
    cases last : (stableSort (fun a b => decide (key a ≤ key b)) xs).getLast? with
    | none =>
      have empty := List.getLast?_eq_none_iff.mp last
      have present : m ∈ stableSort (fun a b => decide (key a ≤ key b)) xs := mem_stableSort.mpr held.1
      rw [empty] at present
      cases present
    | some l =>
      obtain ⟨member, bound⟩ := largest l last
      rw [distinct l member m held.1 (le_antisymm (held.2 l member) (bound m held.1))]

theorem mem_dropLast_stableSort_key (nodup : xs.Nodup)
    (distinct : ∀ x ∈ xs, ∀ y ∈ xs, key x = key y → x = y) (x : α) :
    x ∈ (stableSort (fun a b => decide (key a ≤ key b)) xs).dropLast ↔
      x ∈ xs ∧ ∃ y ∈ xs, key x < key y := by
  cases last : (stableSort (fun a b => decide (key a ≤ key b)) xs).getLast? with
  | none =>
    have empty := List.getLast?_eq_none_iff.mp last
    have none : xs = [] := by
      have size := (perm_stableSort (fun a b => decide (key a ≤ key b)) xs).length_eq
      rw [empty] at size
      exact List.length_eq_zero_iff.mp size.symm
    simp [none]
  | some m =>
    obtain ⟨member, bound⟩ := (getLast?_stableSort_key distinct m).mp last
    have split := List.dropLast_append_getLast? m last
    have apart := (perm_stableSort (fun a b => decide (key a ≤ key b)) xs).nodup_iff.mpr nodup
    rw [← split, List.nodup_append] at apart
    constructor
    · intro earlier
      have present : x ∈ xs := mem_stableSort.mp (List.dropLast_subset _ earlier)
      refine ⟨present, m, member, lt_of_le_of_ne (bound x present) ?_⟩
      intro same
      exact apart.2.2 x earlier m (by simp) (distinct x present m member same)
    · intro held
      obtain ⟨present, y, other, below⟩ := held
      have sorted : x ∈ stableSort (fun a b => decide (key a ≤ key b)) xs := mem_stableSort.mpr present
      rw [← split, List.mem_append] at sorted
      rcases sorted with earlier | final
      · exact earlier
      · rw [List.mem_singleton.mp final] at below
        exact absurd (bound y other) (not_le.mpr below)

end

/-- The row that `ORDER BY .. LIMIT 1` selects. -/
def first (le : α → α → Bool) (xs : List α) : Option α := (stableSort le xs).head?

theorem first_eq_none_iff {xs : List α} : first le xs = none ↔ xs = [] := by
  rw [first, List.head?_eq_none_iff]
  constructor
  · intro sorted
    exact List.Perm.nil_eq (sorted ▸ perm_stableSort le xs) |>.symm
  · intro empty
    rw [empty, stableSort_nil]

theorem first_mem {xs : List α} {x : α} (found : first le xs = some x) : x ∈ xs :=
  mem_stableSort.mp (List.mem_of_head? found)

theorem first_le (cmp : Comparison le) {xs : List α} {x : α} (found : first le xs = some x) : ∀ y ∈ xs, le x y = true := by
  intro y member
  have sorted := pairwise_stableSort cmp xs
  have inside : y ∈ stableSort le xs := mem_stableSort.mpr member
  unfold first at found
  cases split : stableSort le xs with
  | nil =>
    rw [split] at inside
    cases inside
  | cons z rest =>
    rw [split] at sorted inside found
    cases found
    rcases List.mem_cons.mp inside with here | later
    · rw [here]
      exact (cmp.total x x).elim id id
    · exact List.rel_of_pairwise_cons sorted later

/-- Rewriting rows without moving them rewrites the one selected. -/
theorem first_map {β : Type} {le' : β → β → Bool} {f : α → β} (keeps : ∀ a b, le' (f a) (f b) = le a b) (xs : List α) :
    first le' (xs.map f) = (first le xs).map f := by
  have moved : (stableSort le xs).map f = stableSort le' (xs.map f) := by
    apply List.map_insertionSort
    intro a _ b _
    rw [keeps a b]
  rw [first, first, ← moved, List.head?_map]

/-- `ORDER BY key DESC LIMIT 1` -/
def latest (key : α → Nat) (xs : List α) : Option α :=
  (stableSort (fun a b => decide (key b ≤ key a)) xs).head?

theorem latest_eq_none_iff {key : α → Nat} {xs : List α} : latest key xs = none ↔ xs = [] := first_eq_none_iff

theorem mem_of_latest {key : α → Nat} {xs : List α} {m : α} (found : latest key xs = some m) :
    m ∈ xs ∧ ∀ x ∈ xs, key x ≤ key m := by
  have descending : Comparison (fun a b : α => decide (key b ≤ key a)) :=
    ⟨fun a b => by simpa using le_total (key b) (key a),
      fun a b c => by simpa using fun first second => le_trans second first⟩
  refine ⟨first_mem found, ?_⟩
  intro x member
  exact of_decide_eq_true (first_le descending found x member)

theorem latest_eq_some_iff {key : α → Nat} {xs : List α}
    (distinct : ∀ x ∈ xs, ∀ y ∈ xs, key x = key y → x = y) {m : α} :
    latest key xs = some m ↔ m ∈ xs ∧ ∀ x ∈ xs, key x ≤ key m := by
  constructor
  · exact mem_of_latest
  · intro held
    obtain ⟨member, top⟩ := held
    cases found : latest key xs with
    | none => exact absurd member (latest_eq_none_iff.mp found ▸ List.not_mem_nil)
    | some n =>
      obtain ⟨listed, above⟩ := mem_of_latest found
      rw [distinct n listed m member (Nat.le_antisymm (top n listed) (above m member))]

end Relational
