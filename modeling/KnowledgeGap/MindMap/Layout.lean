import KnowledgeGap.Layout.Bands
import KnowledgeGap.MindMap.Shape
import KnowledgeGap.Relational.Dict
import Mathlib.Algebra.Order.Ring.Rat
import Mathlib.Data.List.Pairwise
import Mathlib.Tactic.NormNum

namespace KnowledgeGap.MindMap

open Relational Layout

inductive MpKind
  | chapter
  | section_
  | kp
  deriving DecidableEq, Repr

/-- The left edges of the three columns. -/
def X : MpKind → ℚ
  | .chapter => 0
  | .section_ => 280
  | .kp => 540

def kpH (selected : Bool) : ℚ := if selected then 180 else 56
def chapterH (selected : Bool) : ℚ := if selected then 96 else 64
def sectionH (selected : Bool) : ℚ := if selected then 80 else 48
def GAP_Y : ℚ := 14

/-- The widths that the cards are drawn with: `w-60`, `w-56` and `w-64`. -/
def cardW : MpKind → ℚ
  | .chapter => 240
  | .section_ => 224
  | .kp => 256

structure Card where
  id : String
  kind : MpKind
  h : ℚ
  deriving DecidableEq, Repr

abbrev Sub := Block Card ℚ

section
variable (selectedId : Option String)

def kpCard (id : String) : Card := ⟨id, .kp, kpH (decide (selectedId = some id))⟩
def sectionCard (id : String) : Card := ⟨id, .section_, sectionH (decide (selectedId = some id))⟩
def chapterCard (id : String) : Card := ⟨id, .chapter, chapterH (decide (selectedId = some id))⟩

def kpSub (id : String) : Sub := .mk (kpCard selectedId id) (kpCard selectedId id).h []

/-- `s.subtreeH = Math.max(s.h, …)` -/
def settled : Sub → Sub
  | .mk card _ children => .mk card (max card.h (Block.stack GAP_Y children)) children

def chapterSub (c : MpChapter) : Sub :=
  let children :=
    (c.sections.map (fun s => Block.mk (sectionCard selectedId s.id) 0 (s.kps.map (fun k => kpSub selectedId k.id))) ++
      c.kps.map (fun k => kpSub selectedId k.id)).map settled
  let card := chapterCard selectedId c.id
  .mk card (max card.h (Block.stack GAP_Y children)) children

/-- The calls of `place`, one chapter after the other. -/
def placed (tree : MpTree) : List (Card × ℚ) :=
  Block.rows Card.h GAP_Y (GAP_Y * 2) 0 (tree.chapters.map (chapterSub selectedId))

/-- Where the left upper corner of each card goes. -/
def layoutTree (tree : MpTree) : Dict String (ℚ × ℚ) :=
  Dict.ofList ((placed selectedId tree).map (fun p => (p.1.id, (X p.1.kind, p.2))))

/-- The cards that the canvas draws. -/
def treeCards (tree : MpTree) : List Card :=
  tree.chapters.flatMap (fun c =>
    chapterCard selectedId c.id ::
      (c.sections.flatMap (fun s => sectionCard selectedId s.id :: s.kps.map (fun k => kpCard selectedId k.id)) ++
        c.kps.map (fun k => kpCard selectedId k.id)))

/-- The areas of two cards have no point inside both. -/
def Clear (a b : Card) (p q : ℚ × ℚ) : Prop :=
  p.1 + cardW a.kind ≤ q.1 ∨ q.1 + cardW b.kind ≤ p.1 ∨ p.2 + a.h ≤ q.2 ∨ q.2 + b.h ≤ p.2

variable {selectedId}

theorem cards_kpSubs (kps : List MpKp) :
    (kps.map (fun k => kpSub selectedId k.id)).flatMap Block.cards = kps.map (fun k => kpCard selectedId k.id) := by
  induction kps with
  | nil => rfl
  | cons k kps ih => rw [List.map_cons, List.flatMap_cons, ih]; rfl

theorem cards_settled (s : Sub) : (settled s).cards = s.cards := by
  cases s with
  | mk card room children => rfl

theorem cards_chapterSub (c : MpChapter) :
    (chapterSub selectedId c).cards = chapterCard selectedId c.id ::
      (c.sections.flatMap (fun s => sectionCard selectedId s.id :: s.kps.map (fun k => kpCard selectedId k.id)) ++
        c.kps.map (fun k => kpCard selectedId k.id)) := by
  simp only [chapterSub, Block.cards, Block.allCards_eq, List.flatMap_map, cards_settled, List.flatMap_append]
  rw [← cards_kpSubs, List.flatMap_map]
  congr 2
  apply List.flatMap_congr
  intro s _
  rw [← cards_kpSubs, List.flatMap_map]

theorem ids_kpCards (kps : List MpKp) : (kps.map (fun k => kpCard selectedId k.id)).map Card.id = kps.map MpKp.id := by
  rw [List.map_map]
  rfl

theorem ids_sectionCards (sections : List MpSection) (x : String) :
    ((sections.flatMap (fun s => sectionCard selectedId s.id :: s.kps.map (fun k => kpCard selectedId k.id))).map Card.id).count x =
      (sections.map MpSection.id).count x + ((sections.flatMap MpSection.kps).map MpKp.id).count x := by
  induction sections with
  | nil => rfl
  | cons s sections ih =>
    have named : (sectionCard selectedId s.id).id = s.id := rfl
    simp only [List.flatMap_cons, List.map_append, List.map_cons, List.count_append, List.count_cons, ih, ids_kpCards, named]
    omega

theorem nodeIds_perm (tree : MpTree) : ((treeCards selectedId tree).map Card.id).Perm tree.nodeIds := by
  rw [List.perm_iff_count]
  intro x
  obtain ⟨chapters⟩ := tree
  induction chapters with
  | nil => rfl
  | cons c chapters ih =>
    have named : (chapterCard selectedId c.id).id = c.id := rfl
    simp only [treeCards, MpTree.nodeIds, MpTree.frame, MpTree.points, MpChapter.frame, MpChapter.points, List.flatMap_cons,
      List.map_append, List.map_cons, List.count_append, List.count_cons, ids_sectionCards, ids_kpCards, named] at ih ⊢
    omega

theorem kpCard_solid (selectedId : Option String) (id : String) : 0 ≤ (kpCard selectedId id).h := by
  unfold kpCard kpH
  dsimp only
  split <;> norm_num

theorem sectionCard_solid (id : String) : 0 ≤ (sectionCard selectedId id).h := by
  unfold sectionCard sectionH
  dsimp only
  split <;> norm_num

theorem chapterCard_solid (id : String) : 0 ≤ (chapterCard selectedId id).h := by
  unfold chapterCard chapterH
  dsimp only
  split <;> norm_num

theorem roomy_kpSub (id : String) : Block.Roomy Card.h GAP_Y (kpSub selectedId id) := by
  refine .mk _ _ _ (kpCard_solid selectedId id) (le_refl _) ?_ (by simp)
  simpa [Block.stack] using kpCard_solid selectedId id

theorem roomy_settled {card : Card} {room : ℚ} {children : List Sub} (solid : 0 ≤ card.h)
    (inner : ∀ b ∈ children, Block.Roomy Card.h GAP_Y b) : Block.Roomy Card.h GAP_Y (settled (.mk card room children)) :=
  .mk _ _ _ solid (le_max_left _ _) (le_max_right _ _) inner

theorem roomy_chapterSub (c : MpChapter) : Block.Roomy Card.h GAP_Y (chapterSub selectedId c) := by
  refine .mk _ _ _ (chapterCard_solid c.id) (le_max_left _ _) (le_max_right _ _) ?_
  intro b listed
  obtain ⟨s, child, rfl⟩ := List.mem_map.mp listed
  rcases List.mem_append.mp child with section_ | direct
  · obtain ⟨s, _, rfl⟩ := List.mem_map.mp section_
    refine roomy_settled (sectionCard_solid s.id) (fun b below => ?_)
    obtain ⟨k, _, rfl⟩ := List.mem_map.mp below
    exact roomy_kpSub k.id
  · obtain ⟨k, _, rfl⟩ := List.mem_map.mp direct
    exact roomy_settled (kpCard_solid selectedId k.id) (by simp)

theorem stepped_kpSub (id : String) : Block.Stepped (fun a => X a.kind) (fun a => cardW a.kind) (kpSub selectedId id) :=
  .mk _ _ _ (by simp) (by simp)

theorem stepped_chapterSub (c : MpChapter) :
    Block.Stepped (fun a => X a.kind) (fun a => cardW a.kind) (chapterSub selectedId c) := by
  have child : ∀ b ∈ (c.sections.map (fun s =>
        Block.mk (sectionCard selectedId s.id) 0 (s.kps.map (fun k => kpSub selectedId k.id))) ++
        c.kps.map (fun k => kpSub selectedId k.id)).map settled,
      (X .chapter + cardW .chapter ≤ X b.card.kind) ∧ Block.Stepped (fun a => X a.kind) (fun a => cardW a.kind) b := by
    intro b listed
    obtain ⟨s, inside, rfl⟩ := List.mem_map.mp listed
    rcases List.mem_append.mp inside with section_ | direct
    · obtain ⟨s, _, rfl⟩ := List.mem_map.mp section_
      refine ⟨by norm_num [X, cardW, settled, Block.card, sectionCard], .mk _ _ _ ?_ ?_⟩
      · intro b below
        obtain ⟨k, _, rfl⟩ := List.mem_map.mp below
        norm_num [X, cardW, sectionCard, kpSub, Block.card, kpCard]
      · intro b below
        obtain ⟨k, _, rfl⟩ := List.mem_map.mp below
        exact stepped_kpSub k.id
    · obtain ⟨k, _, rfl⟩ := List.mem_map.mp direct
      exact ⟨by norm_num [X, cardW, settled, Block.card, kpSub, kpCard], .mk _ _ _ (by simp) (by simp)⟩
  exact .mk _ _ _ (fun b listed => (child b listed).1) (fun b listed => (child b listed).2)

theorem placed_cards (tree : MpTree) : (placed selectedId tree).map Prod.fst = treeCards selectedId tree := by
  rw [placed, Block.rows_cards, Block.allCards_eq, List.flatMap_map, treeCards]
  apply List.flatMap_congr
  intro c _
  exact cards_chapterSub c

theorem cardW_nonneg (a : Card) : 0 ≤ cardW a.kind := by
  cases a.kind <;> norm_num [cardW]

theorem Clear.symm {a b : Card} {p q : ℚ × ℚ} (clear : Clear a b p q) : Clear b a q p := by
  rcases clear with left | right | above | below
  · exact Or.inr (Or.inl left)
  · exact Or.inl right
  · exact Or.inr (Or.inr (Or.inr above))
  · exact Or.inr (Or.inr (Or.inl below))

theorem placed_clear (selectedId : Option String) (tree : MpTree) :
    (placed selectedId tree).Pairwise (fun p q => Clear p.1 q.1 (X p.1.kind, p.2) (X q.1.kind, q.2)) := by
  have apart : (placed selectedId tree).Pairwise (Block.Apart Card.h (fun a => X a.kind) (fun a => cardW a.kind)) := by
    refine Block.rows_apart (by norm_num [GAP_Y]) cardW_nonneg (by norm_num [GAP_Y]) _ _ ?_ ?_
    · intro b listed
      obtain ⟨c, _, rfl⟩ := List.mem_map.mp listed
      exact roomy_chapterSub c
    · intro b listed
      obtain ⟨c, _, rfl⟩ := List.mem_map.mp listed
      exact stepped_chapterSub c
  refine apart.imp ?_
  rintro p q (above | below | left | right)
  · exact Or.inr (Or.inr (Or.inl above))
  · exact Or.inr (Or.inr (Or.inr below))
  · exact Or.inl left
  · exact Or.inr (Or.inl right)

theorem placed_ids (selectedId : Option String) (tree : MpTree) : ((placed selectedId tree).map (fun p => p.1.id)).Perm tree.nodeIds := by
  have same : (placed selectedId tree).map (fun p => p.1.id) = (treeCards selectedId tree).map Card.id := by
    rw [← placed_cards, List.map_map]
    rfl
  rw [same]
  exact nodeIds_perm tree

theorem layoutTree_placed {tree : MpTree} (distinct : tree.nodeIds.Nodup) {p : Card × ℚ} (listed : p ∈ placed selectedId tree) :
    (layoutTree selectedId tree).get? p.1.id = some (X p.1.kind, p.2) := by
  have unique := (placed_ids selectedId tree).nodup_iff.mpr distinct
  refine Dict.get?_ofList_of_mem (List.mem_map_of_mem (f := fun p : Card × ℚ => (p.1.id, (X p.1.kind, p.2))) listed) ?_
  intro w there
  obtain ⟨q, also, same⟩ := List.mem_map.mp there
  rw [Prod.mk.injEq] at same
  rw [← same.2, List.inj_on_of_nodup_map unique also listed same.1]

theorem mem_layoutTree_keys (tree : MpTree) (id : String) : id ∈ (layoutTree selectedId tree).keys ↔ id ∈ tree.nodeIds := by
  have there : id ∈ (layoutTree selectedId tree).keys ↔ ((layoutTree selectedId tree).get? id).isSome := by
    rw [← not_iff_not, ← Dict.get?_eq_none_iff, Bool.not_eq_true, Option.isSome_eq_false_iff, Option.isNone_iff_eq_none]
  rw [there, layoutTree, Dict.get?_ofList_isSome_iff, ← (placed_ids selectedId tree).mem_iff]
  simp only [List.mem_map, exists_exists_and_eq_and]

/-- Every node of the tree has its place, whichever card is unfolded, and no two cards cover each other. -/
theorem layoutTree_clear (tree : MpTree) (selectedId : Option String) (distinct : tree.nodeIds.Nodup) :
    (∀ id, id ∈ (layoutTree selectedId tree).keys ↔ id ∈ tree.nodeIds) ∧
      ∀ a ∈ treeCards selectedId tree, ∀ b ∈ treeCards selectedId tree, a.id ≠ b.id →
        ∃ p q, (layoutTree selectedId tree).get? a.id = some p ∧ (layoutTree selectedId tree).get? b.id = some q ∧
          Clear a b p q := by
  refine ⟨mem_layoutTree_keys tree, ?_⟩
  intro a first b second other
  rw [← placed_cards] at first second
  obtain ⟨p, here, rfl⟩ := List.mem_map.mp first
  obtain ⟨q, there, rfl⟩ := List.mem_map.mp second
  have : Std.Symm (fun p q : Card × ℚ => Clear p.1 q.1 (X p.1.kind, p.2) (X q.1.kind, q.2)) := ⟨fun _ _ => Clear.symm⟩
  have clear := (placed_clear selectedId tree).forall here there (fun same => other (by rw [same]))
  exact ⟨_, _, layoutTree_placed distinct here, layoutTree_placed distinct there, clear⟩

theorem layoutTree_clear_unfolded :
    ∃ p q, (layoutTree (some "k") ⟨[⟨"c", "", [⟨"s", "", [newKpNode "" "k", newKpNode "" "j"]⟩], []⟩]⟩).get? "k" = some p ∧
      (layoutTree (some "k") ⟨[⟨"c", "", [⟨"s", "", [newKpNode "" "k", newKpNode "" "j"]⟩], []⟩]⟩).get? "j" = some q ∧
      Clear (kpCard (some "k") "k") (kpCard (some "k") "j") p q :=
  (layoutTree_clear ⟨[⟨"c", "", [⟨"s", "", [newKpNode "" "k", newKpNode "" "j"]⟩], []⟩]⟩ (some "k") (by decide)).2
    (kpCard (some "k") "k") (by simp [treeCards, newKpNode]) (kpCard (some "k") "j") (by simp [treeCards, newKpNode])
    (by simp [kpCard])

end

end KnowledgeGap.MindMap
