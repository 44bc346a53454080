import KnowledgeGap.Data.Schema
import KnowledgeGap.Relational.StableSort
import Mathlib.Data.List.MinMax
import Mathlib.Order.Lattice

namespace KnowledgeGap

open Relational

/-- One version of the knowledge base: its points in load order and the adjacency the loader built
    over them. Every edge joins points of the version. -/
structure KpGraph (K : Type) where
  points : List (KnowledgePoint K)
  prereq : Nat → List (Nat × K)
  succ : Nat → List (Nat × K)
  confusable : Nat → List Nat
  nodup : (points.map KnowledgePoint.id).Nodup
  prereq_closed : ∀ k, ∀ e ∈ prereq k, e.1 ∈ points.map KnowledgePoint.id
  succ_closed : ∀ k, ∀ e ∈ succ k, e.1 ∈ points.map KnowledgePoint.id
  confusable_closed : ∀ k, ∀ p ∈ confusable k, p ∈ points.map KnowledgePoint.id

namespace KpGraph

variable {K : Type}

def kpIds (g : KpGraph K) : List Nat := g.points.map KnowledgePoint.id

def find? (g : KpGraph K) (kpId : Nat) : Option (KnowledgePoint K) :=
  g.points.find? (fun p => p.id == kpId)

/-- `graph.kp`: a point of this version, else the stored row of another one, else `KeyError`. -/
def kp? (g : KpGraph K) (db : Db K) (kpId : Nat) : Option (KnowledgePoint K) :=
  (g.find? kpId).or (db.knowledgePoints.get? kpId)

/-- `graph.code`: a repeated code names the point loaded last. -/
def code? (g : KpGraph K) (code : String) : Option Nat :=
  ((g.points.filter (fun p => p.code == code)).getLast?).map KnowledgePoint.id

def isContainer (p : KnowledgePoint K) : Bool := p.code.startsWith "C"

def confusablePartners (g : KpGraph K) (kpId : Nat) : List Nat := g.confusable kpId

def targetGrade (g : KpGraph K) (grade : Option Int) : Option Int :=
  let grades := g.points.map KnowledgePoint.grade
  match grade with
  | some wanted => if wanted ∈ grades then some wanted else grades.max?
  | none => grades.max?

def gradeKps (g : KpGraph K) (grade : Option Int) : List (KnowledgePoint K) :=
  match g.targetGrade grade with
  | none => []
  | some target =>
    g.points.filter (fun p => p.grade == target && !isContainer p && !p.archived)

def gradeKpIds (g : KpGraph K) (grade : Option Int) : List Nat :=
  (g.gradeKps grade).map KnowledgePoint.id

/-- A frontier entry, and an ancestor with the depth and the edge it was first reached by. -/
structure Ancestor (K : Type) where
  kpId : Nat
  depth : Nat
  edgeWeight : K
  deriving DecidableEq, Repr

def visit (depth : Nat) (queue : List (Nat × Nat) × List (Ancestor K)) (edge : Nat × K) :
    List (Nat × Nat) × List (Ancestor K) :=
  if edge.1 ∈ queue.2.map Ancestor.kpId then queue
  else (queue.1 ++ [(edge.1, depth + 1)], queue.2 ++ [⟨edge.1, depth + 1, edge.2⟩])

def search (edges : Nat → List (Nat × K)) (maxDepth : Nat) :
    Nat → List (Nat × Nat) → List (Ancestor K) → List (Ancestor K)
  | 0, _, seen => seen
  | _ + 1, [], seen => seen
  | fuel + 1, (current, depth) :: frontier, seen =>
    if maxDepth ≤ depth then search edges maxDepth fuel frontier seen
    else
      let next := (edges current).foldl (visit depth) (frontier, seen)
      search edges maxDepth fuel next.1 next.2

def prerequisiteChain (g : KpGraph K) (kpId maxDepth : Nat) : List (Ancestor K) :=
  stableSort (fun a b => decide (a.depth ≤ b.depth))
    (search g.prereq maxDepth (g.points.length + 1) [(kpId, 0)] [])

def descendants (g : KpGraph K) (kpId maxDepth : Nat) : List (Ancestor K) :=
  stableSort (fun a b => decide (a.depth ≤ b.depth))
    (search g.succ maxDepth (g.points.length + 1) [(kpId, 0)] [])

theorem gradeKps_sublist (g : KpGraph K) (grade : Option Int) : (g.gradeKps grade).Sublist g.points := by
  unfold gradeKps
  split
  · exact List.nil_sublist _
  · exact List.filter_sublist

theorem mem_kpIds_of_mem_gradeKpIds {g : KpGraph K} {grade : Option Int} {k : Nat}
    (member : k ∈ g.gradeKpIds grade) : k ∈ g.kpIds :=
  ((gradeKps_sublist g grade).map KnowledgePoint.id).subset member

theorem nodup_gradeKpIds (g : KpGraph K) (grade : Option Int) : (g.gradeKpIds grade).Nodup :=
  ((gradeKps_sublist g grade).map KnowledgePoint.id).nodup g.nodup

theorem find?_of_mem {g : KpGraph K} {p : KnowledgePoint K} (listed : p ∈ g.points) :
    g.find? p.id = some p := by
  cases found : g.find? p.id with
  | none => simpa using List.find?_eq_none.mp found p listed
  | some q =>
    have same : q.id = p.id := by simpa using List.find?_some found
    rw [List.inj_on_of_nodup_map g.nodup (List.mem_of_find?_eq_some found) listed same]

theorem kp?_of_mem {g : KpGraph K} (db : Db K) {p : KnowledgePoint K} (listed : p ∈ g.points) :
    g.kp? db p.id = some p := by
  rw [kp?, find?_of_mem listed]
  rfl

def discrete (points : List (KnowledgePoint K)) (nodup : (points.map KnowledgePoint.id).Nodup) : KpGraph K where
  points := points
  prereq := fun _ => []
  succ := fun _ => []
  confusable := fun _ => []
  nodup := nodup
  prereq_closed := by simp
  succ_closed := by simp
  confusable_closed := by simp

/-- A confusable pair makes each of the two a partner of the other, listed once. -/
def link (k : Nat) (partners : List Nat) (r : KpRelation K) : List Nat :=
  let partners := if r.fromKpId = k ∧ r.toKpId ∉ partners then partners ++ [r.toKpId] else partners
  if r.toKpId = k ∧ r.fromKpId ∉ partners then partners ++ [r.fromKpId] else partners

theorem mem_link {k p : Nat} {partners : List Nat} {r : KpRelation K} (member : p ∈ link k partners r) :
    p ∈ partners ∨ r.fromKpId = k ∧ p = r.toKpId ∨ r.toKpId = k ∧ p = r.fromKpId := by
  unfold link at member
  grind

/-- A partner of a point is the other end of a relation that confuses the two. -/
theorem mem_foldl_link {k p : Nat} {rels : List (KpRelation K)} {partners : List Nat}
    (member : p ∈ rels.foldl (link k) partners) :
    p ∈ partners ∨ ∃ r ∈ rels, r.fromKpId = k ∧ p = r.toKpId ∨ r.toKpId = k ∧ p = r.fromKpId := by
  induction rels generalizing partners with
  | nil => exact Or.inl member
  | cons r rels ih =>
    rcases ih member with earlier | ⟨s, listed, joined⟩
    · rcases mem_link earlier with known | joined
      · exact Or.inl known
      · exact Or.inr ⟨r, List.mem_cons_self, joined⟩
    · exact Or.inr ⟨s, List.mem_cons_of_mem _ listed, joined⟩

section
variable (db : Db K) (kbVersionId : Nat)

def versionPoints : List (KnowledgePoint K) :=
  db.knowledgePoints.select (fun p => p.kbVersionId == kbVersionId)

/-- The relations of one kind with both ends in the version. -/
def versionEdges (type : RelationType) : List (KpRelation K) :=
  db.relations.select (fun r => r.type == type &&
    decide (r.fromKpId ∈ (versionPoints db kbVersionId).map KnowledgePoint.id) &&
    decide (r.toKpId ∈ (versionPoints db kbVersionId).map KnowledgePoint.id))

end

theorem mem_versionEdges {db : Db K} {kbVersionId : Nat} {type : RelationType} {r : KpRelation K}
    (member : r ∈ versionEdges db kbVersionId type) :
    r.fromKpId ∈ (versionPoints db kbVersionId).map KnowledgePoint.id ∧
      r.toKpId ∈ (versionPoints db kbVersionId).map KnowledgePoint.id := by
  have holds := List.of_mem_filter member
  simp only [Bool.and_eq_true, decide_eq_true_eq] at holds
  exact ⟨holds.1.2, holds.2⟩

def load (db : Db K) (kbVersionId : Nat) : KpGraph K where
  points := versionPoints db kbVersionId
  prereq k := ((versionEdges db kbVersionId .prerequisite).filter (fun r => r.toKpId == k)).map
    (fun r => (r.fromKpId, r.weight))
  succ k := ((versionEdges db kbVersionId .prerequisite).filter (fun r => r.fromKpId == k)).map
    (fun r => (r.toKpId, r.weight))
  confusable k := (versionEdges db kbVersionId .confusable).foldl (link k) []
  nodup := (List.Sublist.map KnowledgePoint.id List.filter_sublist).nodup db.knowledgePoints.nodup
  prereq_closed := by
    intro k e member
    obtain ⟨r, kept, rfl⟩ := List.mem_map.mp member
    exact (mem_versionEdges (List.mem_of_mem_filter kept)).1
  succ_closed := by
    intro k e member
    obtain ⟨r, kept, rfl⟩ := List.mem_map.mp member
    exact (mem_versionEdges (List.mem_of_mem_filter kept)).2
  confusable_closed := by
    intro k p member
    rcases mem_foldl_link member with none | ⟨r, kept, joined⟩
    · cases none
    · obtain ⟨inFrom, inTo⟩ := mem_versionEdges kept
      rcases joined with ⟨_, rfl⟩ | ⟨_, rfl⟩
      · exact inTo
      · exact inFrom

end KpGraph

end KnowledgeGap
