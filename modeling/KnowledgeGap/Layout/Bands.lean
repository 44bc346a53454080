import Mathlib.Algebra.Order.Field.Basic
import Mathlib.Algebra.Order.BigOperators.Group.List
import Mathlib.Tactic.Linarith
import Mathlib.Tactic.Ring

/-! A tree of cards laid out in columns: every node gets a band, its card stands in the middle of the band, and the bands
of its children are stacked in it. -/

namespace Layout

/-- A card, the height of its band, and what is laid out in the band. -/
inductive Block (α K : Type)
  | mk (card : α) (room : K) (below : List (Block α K))

namespace Block

variable {α K : Type}

def card : Block α K → α
  | .mk card _ _ => card

def room : Block α K → K
  | .mk _ room _ => room

mutual
def cards : Block α K → List α
  | .mk card _ below => card :: allCards below

def allCards : List (Block α K) → List α
  | [] => []
  | b :: rest => cards b ++ allCards rest
end

theorem allCards_eq (bs : List (Block α K)) : allCards bs = bs.flatMap cards := by
  induction bs with
  | nil => rfl
  | cons b rest ih => rw [allCards, ih, List.flatMap_cons]

section
variable [Field K] [LinearOrder K] (height : α → K) (gap : K)

mutual
def place (top : K) : Block α K → List (α × K)
  | .mk card room below => (card, top + max 0 ((room - height card) / ((2 : Nat) : K))) :: placeAll top below

/-- One below the other, with a gap after each. -/
def placeAll (top : K) : List (Block α K) → List (α × K)
  | [] => []
  | b :: rest => place top b ++ placeAll (top + (b.room + gap)) rest
end

mutual
theorem place_cards (top : K) : ∀ b : Block α K, (place height gap top b).map Prod.fst = cards b
  | .mk card room below => by rw [place, List.map_cons, placeAll_cards top below, cards]

theorem placeAll_cards (top : K) : ∀ bs : List (Block α K), (placeAll height gap top bs).map Prod.fst = allCards bs
  | [] => rfl
  | b :: rest => by rw [placeAll, List.map_append, place_cards top b, placeAll_cards _ rest, allCards]
end

/-- The outermost bands, with a gap of their own. -/
def rows (between : K) (top : K) : List (Block α K) → List (α × K)
  | [] => []
  | b :: rest => place height gap top b ++ rows between (top + (b.room + between)) rest

theorem rows_cards (between top : K) (bs : List (Block α K)) : (rows height gap between top bs).map Prod.fst = allCards bs := by
  induction bs generalizing top with
  | nil => rfl
  | cons b rest ih => rw [rows, List.map_append, place_cards, ih, allCards]

/-- What a stack of bands takes up. -/
def stack (bs : List (Block α K)) : K := (bs.map room).sum + gap * ((bs.length - 1 : Nat) : K)

/-- Each band has the room for its card and for the bands stacked in it. -/
inductive Roomy : Block α K → Prop
  | mk (card : α) (room : K) (below : List (Block α K)) (solid : 0 ≤ height card) (fits : height card ≤ room) (stacked : stack gap below ≤ room)
    (inner : ∀ b ∈ below, Roomy b) : Roomy (.mk card room below)

variable (left width : α → K)

/-- What hangs on a card stands to the right of it. -/
inductive Stepped : Block α K → Prop
  | mk (card : α) (room : K) (below : List (Block α K)) (beside : ∀ b ∈ below, left card + width card ≤ left b.card)
    (inner : ∀ b ∈ below, Stepped b) : Stepped (.mk card room below)

/-- Two placed cards share no area. -/
def Apart (p q : α × K) : Prop :=
  p.2 + height p.1 ≤ q.2 ∨ q.2 + height q.1 ≤ p.2 ∨ left p.1 + width p.1 ≤ left q.1 ∨ left q.1 + width q.1 ≤ left p.1

end

section
variable [Field K] [LinearOrder K] [IsStrictOrderedRing K] {height left width : α → K} {gap : K}

theorem stack_cons (b : Block α K) (rest : List (Block α K)) (nonneg : 0 ≤ gap) (roomy : ∀ c ∈ rest, 0 ≤ c.room) :
    b.room ≤ stack gap (b :: rest) ∧ b.room + stack gap rest ≤ stack gap (b :: rest) ∧
      (rest ≠ [] → b.room + gap + stack gap rest = stack gap (b :: rest)) := by
  have others : 0 ≤ (rest.map room).sum := List.sum_nonneg (by simpa using roomy)
  cases rest with
  | nil => simp [stack]
  | cons c rest =>
    have counted : 0 ≤ gap * (rest.length : K) := mul_nonneg nonneg (Nat.cast_nonneg _)
    simp only [stack, List.map_cons, List.sum_cons, List.length_cons, Nat.add_sub_cancel] at others ⊢
    push_cast
    refine ⟨by linarith, by linarith, fun _ => by ring⟩

omit [IsStrictOrderedRing K] in
theorem Roomy.room_nonneg {b : Block α K} (roomy : Roomy height gap b) : 0 ≤ b.room := by
  cases roomy with
  | mk card room below solid fits stacked inner => exact solid.trans fits

/-- A card with the band it stands in. -/
def Within (top bottom : K) (height : α → K) (p : α × K) : Prop := top ≤ p.2 ∧ p.2 + height p.1 ≤ bottom

set_option linter.unusedSectionVars false

variable (nonneg : 0 ≤ gap)
include nonneg

mutual
theorem place_within (top : K) : ∀ b : Block α K, Roomy height gap b →
    ∀ p ∈ place height gap top b, Within top (top + b.room) height p
  | .mk card room below, .mk _ _ _ solid fits stacked inner => by
    intro p listed
    rw [place] at listed
    rcases List.mem_cons.mp listed with rfl | lower
    · have half : max 0 ((room - height card) / ((2 : Nat) : K)) = (room - height card) / 2 := by
        rw [Nat.cast_ofNat]
        exact max_eq_right (by linarith)
      simp only [Within, Block.room, half]
      constructor <;> linarith
    · have inside := placeAll_within top below inner p lower
      simp only [Within, Block.room] at inside ⊢
      exact ⟨inside.1, by linarith [inside.2]⟩

theorem placeAll_within (top : K) : ∀ bs : List (Block α K), (∀ b ∈ bs, Roomy height gap b) →
    ∀ p ∈ placeAll height gap top bs, Within top (top + stack gap bs) height p
  | [], _ => by
    intro p listed
    cases listed
  | b :: rest, roomy => by
    intro p listed
    have rooms : ∀ c ∈ rest, 0 ≤ c.room := fun c here => (roomy c (List.mem_cons_of_mem _ here)).room_nonneg
    have bound := stack_cons b rest nonneg rooms
    have own := (roomy b List.mem_cons_self).room_nonneg
    rw [placeAll] at listed
    rcases List.mem_append.mp listed with here | later
    · have inside := place_within top b (roomy b List.mem_cons_self) p here
      simp only [Within] at inside ⊢
      exact ⟨inside.1, by linarith [inside.2, bound.1]⟩
    · have some_ : rest ≠ [] := by
        rintro rfl
        cases later
      have inside := placeAll_within (top + (b.room + gap)) rest (fun c listed => roomy c (List.mem_cons_of_mem _ listed)) p later
      have whole := bound.2.2 some_
      simp only [Within] at inside ⊢
      exact ⟨by linarith [inside.1], by linarith [inside.2]⟩
end

variable (wide : ∀ a, 0 ≤ width a)
include wide

omit nonneg in
mutual
theorem Stepped.le_left : ∀ b : Block α K, Stepped left width b → ∀ a ∈ cards b, left b.card ≤ left a
  | .mk card room below, .mk _ _ _ beside inner => by
    intro a listed
    rw [cards] at listed
    rcases List.mem_cons.mp listed with rfl | lower
    · exact le_refl _
    · have further := Stepped.beside below card beside inner a lower
      have span := wide card
      simp only [Block.card]
      linarith

theorem Stepped.beside : ∀ (bs : List (Block α K)) (card : α), (∀ b ∈ bs, left card + width card ≤ left b.card) →
    (∀ b ∈ bs, Stepped left width b) → ∀ a ∈ allCards bs, left card + width card ≤ left a
  | [], _, _, _ => by
    intro a listed
    cases listed
  | b :: rest, card, beside, inner => by
    intro a listed
    rw [allCards] at listed
    rcases List.mem_append.mp listed with here | later
    · exact (beside b List.mem_cons_self).trans (Stepped.le_left b (inner b List.mem_cons_self) a here)
    · exact Stepped.beside rest card (fun c listed => beside c (List.mem_cons_of_mem _ listed))
        (fun c listed => inner c (List.mem_cons_of_mem _ listed)) a later
end

mutual
/-- Side by side where one hangs on the other, one below the other where not. -/
theorem place_apart (top : K) : ∀ b : Block α K, Roomy height gap b → Stepped left width b →
    (place height gap top b).Pairwise (Apart height left width)
  | .mk card room below, .mk _ _ _ solid fits stacked inner, .mk _ _ _ beside hanging => by
    rw [place]
    refine List.Pairwise.cons ?_ (placeAll_apart top below inner hanging)
    intro q lower
    have named : q.1 ∈ allCards below := placeAll_cards height gap top below ▸ List.mem_map_of_mem lower
    exact Or.inr (Or.inr (Or.inl (Stepped.beside wide below card beside hanging q.1 named)))

theorem placeAll_apart (top : K) : ∀ bs : List (Block α K), (∀ b ∈ bs, Roomy height gap b) →
    (∀ b ∈ bs, Stepped left width b) → (placeAll height gap top bs).Pairwise (Apart height left width)
  | [], _, _ => List.Pairwise.nil
  | b :: rest, roomy, stepped => by
    have others : ∀ c ∈ rest, Roomy height gap c := fun c listed => roomy c (List.mem_cons_of_mem _ listed)
    rw [placeAll]
    refine List.pairwise_append.mpr ⟨place_apart top b (roomy b List.mem_cons_self) (stepped b List.mem_cons_self),
      placeAll_apart _ rest others (fun c listed => stepped c (List.mem_cons_of_mem _ listed)), ?_⟩
    intro p here q later
    have upper := place_within nonneg top b (roomy b List.mem_cons_self) p here
    have lower := placeAll_within nonneg (top + (b.room + gap)) rest others q later
    exact Or.inl (by linarith [upper.2, lower.1])
end

omit wide in
theorem rows_below {between : K} (spaced : 0 ≤ between) (top : K) (bs : List (Block α K)) (roomy : ∀ b ∈ bs, Roomy height gap b) :
    ∀ p ∈ rows height gap between top bs, top ≤ p.2 := by
  induction bs generalizing top with
  | nil =>
    intro p listed
    cases listed
  | cons b rest ih =>
    intro p listed
    have own := (roomy b List.mem_cons_self).room_nonneg
    rcases List.mem_append.mp listed with here | later
    · exact (place_within nonneg top b (roomy b List.mem_cons_self) p here).1
    · have below := ih (top + (b.room + between)) (fun c listed => roomy c (List.mem_cons_of_mem _ listed)) p later
      linarith

theorem rows_apart {between : K} (spaced : 0 ≤ between) (top : K) (bs : List (Block α K))
    (roomy : ∀ b ∈ bs, Roomy height gap b) (stepped : ∀ b ∈ bs, Stepped left width b) :
    (rows height gap between top bs).Pairwise (Apart height left width) := by
  induction bs generalizing top with
  | nil => exact List.Pairwise.nil
  | cons b rest ih =>
    have others : ∀ c ∈ rest, Roomy height gap c := fun c listed => roomy c (List.mem_cons_of_mem _ listed)
    refine List.pairwise_append.mpr ⟨place_apart nonneg wide top b (roomy b List.mem_cons_self) (stepped b List.mem_cons_self),
      ih _ others (fun c listed => stepped c (List.mem_cons_of_mem _ listed)), ?_⟩
    intro p here q later
    have upper := place_within nonneg top b (roomy b List.mem_cons_self) p here
    have lower := rows_below nonneg spaced (top + (b.room + between)) rest others q later
    exact Or.inl (by linarith [upper.2])

end

end Block

end Layout
