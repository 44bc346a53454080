import KnowledgeGap.Kb.Exchange
import KnowledgeGap.Kb.Rename

namespace KnowledgeGap.Kb

open Relational KpGraph

variable {K : Type}

theorem filterMap_of_guard {α β : Type} {f : α → Option β} {p : α → Bool} {g : α → β}
    (guarded : ∀ x, f x = if p x then some (g x) else none) (xs : List α) :
    xs.filterMap f = (xs.filter p).map g := by
  induction xs with
  | nil => rfl
  | cons x xs ih =>
    rw [List.filterMap_cons, List.filter_cons, guarded, ih]
    by_cases kept : p x = true
    · simp [kept]
    · simp [kept]

/-- Both ends of the relation lie in the version. -/
def inside (db : Db K) (kbVersionId : Nat) (r : KpRelation K) : Bool :=
  decide (r.fromKpId ∈ pointIds db kbVersionId) && decide (r.toKpId ∈ pointIds db kbVersionId)

/-- What the schema enforces on the knowledge base: its foreign keys, one point for each code of a version,
    and relations stored in the order of their keys. -/
structure Sound (db : Db K) : Prop where
  owner : ∀ p ∈ db.knowledgePoints.rows, ∃ v ∈ db.kbVersions.rows, v.id = p.kbVersionId
  code : ∀ p ∈ db.knowledgePoints.rows, ∀ q ∈ db.knowledgePoints.rows,
    p.kbVersionId = q.kbVersionId → p.code = q.code → p = q
  ends : ∀ r ∈ db.relations.rows, (∃ p ∈ db.knowledgePoints.rows, p.id = r.fromKpId) ∧
    ∃ p ∈ db.knowledgePoints.rows, p.id = r.toKpId
  ordered : db.relations.rows.Pairwise (fun a b => a.id < b.id)

namespace Sound

variable {db : Db K} (sound : Sound db)
include sound

theorem owner_lt {p : KnowledgePoint K} (stored : p ∈ db.knowledgePoints.rows) :
    p.kbVersionId < db.kbVersions.nextId := by
  obtain ⟨v, listed, same⟩ := sound.owner p stored
  rw [← same]
  exact db.kbVersions.issued v listed

theorem ends_lt {r : KpRelation K} (stored : r ∈ db.relations.rows) :
    r.fromKpId < db.knowledgePoints.nextId ∧ r.toKpId < db.knowledgePoints.nextId := by
  obtain ⟨⟨p, left, source⟩, q, right, target⟩ := sound.ends r stored
  rw [← source, ← target]
  exact ⟨db.knowledgePoints.issued p left, db.knowledgePoints.issued q right⟩

theorem sorted : stableSort byRelationId db.relations.rows = db.relations.rows := by
  apply stableSort_eq_self
  apply sound.ordered.imp
  intro a b below
  simpa [byRelationId] using Nat.le_of_lt below

end Sound

theorem mem_versionPoints {db : Db K} {id : Nat} {p : KnowledgePoint K} :
    p ∈ versionPoints db id ↔ p ∈ db.knowledgePoints.rows ∧ p.kbVersionId = id := by
  simp [versionPoints, Table.select]

theorem nodup_pointIds (db : Db K) (id : Nat) : (pointIds db id).Nodup := (load db id).nodup

theorem mem_pointIds {db : Db K} {id k : Nat} :
    k ∈ pointIds db id ↔ ∃ p ∈ db.knowledgePoints.rows, p.kbVersionId = id ∧ p.id = k := by
  simp [pointIds, mem_versionPoints, and_assoc]

theorem pointIds_lt {db : Db K} {id k : Nat} (member : k ∈ pointIds db id) : k < db.knowledgePoints.nextId := by
  obtain ⟨p, stored, _, rfl⟩ := mem_pointIds.mp member
  exact db.knowledgePoints.issued p stored

theorem nodup_codes {db : Db K} (sound : Sound db) (id : Nat) :
    ((versionPoints db id).map KnowledgePoint.code).Nodup := by
  have distinct : (versionPoints db id).Nodup := List.Nodup.of_map _ (nodup_pointIds db id)
  apply distinct.map_on
  intro p left q right same
  obtain ⟨storedP, ofP⟩ := mem_versionPoints.mp left
  obtain ⟨storedQ, ofQ⟩ := mem_versionPoints.mp right
  exact sound.code p storedP q storedQ (ofP.trans ofQ.symm) same

theorem mem_versionRelations {db : Db K} {id : Nat} {r : KpRelation K} :
    r ∈ versionRelations db id ↔ r ∈ db.relations.rows ∧ r.fromKpId ∈ pointIds db id ∧ r.toKpId ∈ pointIds db id := by
  simp [versionRelations, Table.select]

theorem pairwise_filed (rels : List (KpRelation K)) (base : Nat) :
    (rels.mapIdx (fun n r => KpRelation.filed r (base + n))).Pairwise (fun a b => a.id < b.id) := by
  rw [List.pairwise_iff_getElem]
  intro n m left right below
  simp only [List.getElem_mapIdx, KpRelation.filed]
  omega

/-- The version, its points and the relations inside it are what they were. -/
structure Untouched (db after : Db K) (v : KbVersion) : Prop where
  row : after.kbVersions.get? v.id = some v
  points : versionPoints after v.id = versionPoints db v.id
  relations : versionRelations after v.id = versionRelations db v.id

/-- A new version on file: its row, its points under new keys, and relations that stay among them. -/
structure Filed (db after : Db K) (v : KbVersion) (points : List (KnowledgePoint K)) (rels : List (KpRelation K)) :
    Prop where
  versionRows : after.kbVersions.rows = db.kbVersions.rows ++ [v]
  key : v.id = db.kbVersions.nextId
  pointRows : after.knowledgePoints.rows = db.knowledgePoints.rows ++ points
  owned : ∀ p ∈ points, p.kbVersionId = v.id
  issued : ∀ p ∈ points, db.knowledgePoints.nextId ≤ p.id
  codes : (points.map KnowledgePoint.code).Nodup
  relationRows : after.relations.rows = db.relations.rows ++ rels
  joined : ∀ r ∈ rels, r.fromKpId ∈ points.map KnowledgePoint.id ∧ r.toKpId ∈ points.map KnowledgePoint.id
  numbered : rels.Pairwise (fun a b => a.id < b.id)
  later : ∀ r ∈ rels, db.relations.nextId ≤ r.id

namespace Filed

variable {db after : Db K} {v : KbVersion} {points : List (KnowledgePoint K)} {rels : List (KpRelation K)}
  (filed : Filed db after v points rels)

section
include filed

theorem stored : after.kbVersions.get? v.id = some v := by
  rw [Table.get?_eq_some_iff, filed.versionRows]
  exact ⟨by simp, rfl⟩

theorem row_of_old {w : KbVersion} (old : w ∈ db.kbVersions.rows) : after.kbVersions.get? w.id = some w := by
  rw [Table.get?_eq_some_iff, filed.versionRows]
  exact ⟨List.mem_append_left _ old, rfl⟩

theorem points_of_old {id : Nat} (old : id < db.kbVersions.nextId) : versionPoints after id = versionPoints db id := by
  have none : points.filter (fun p => p.kbVersionId == id) = [] := by
    rw [List.filter_eq_nil_iff]
    intro p listed
    have own := filed.owned p listed
    have next := filed.key
    simp only [beq_iff_eq]
    omega
  unfold versionPoints Table.select
  rw [filed.pointRows, List.filter_append, none, List.append_nil]

theorem pointIds_of_old {id : Nat} (old : id < db.kbVersions.nextId) : pointIds after id = pointIds db id := by
  unfold pointIds
  rw [filed.points_of_old old]

theorem relations_of_old {id : Nat} (old : id < db.kbVersions.nextId) :
    versionRelations after id = versionRelations db id := by
  have none : rels.filter (fun r => decide (r.fromKpId ∈ pointIds db id) && decide (r.toKpId ∈ pointIds db id)) = [] := by
    rw [List.filter_eq_nil_iff]
    intro r listed
    obtain ⟨p, new, same⟩ := List.mem_map.mp (filed.joined r listed).1
    have high := filed.issued p new
    simp only [Bool.and_eq_true, decide_eq_true_eq, not_and]
    intro known
    have low := pointIds_lt known
    omega
  unfold versionRelations Table.select
  rw [filed.pointIds_of_old old, filed.relationRows, List.filter_append, none, List.append_nil]

theorem untouched {w : KbVersion} (old : w ∈ db.kbVersions.rows) : Untouched db after w := by
  have below : w.id < db.kbVersions.nextId := db.kbVersions.issued w old
  exact ⟨filed.row_of_old old, filed.points_of_old below, filed.relations_of_old below⟩

end

variable (sound : Sound db)
include filed sound

theorem points_eq : versionPoints after v.id = points := by
  have none : db.knowledgePoints.rows.filter (fun p => p.kbVersionId == v.id) = [] := by
    rw [List.filter_eq_nil_iff]
    intro p stored
    have low := sound.owner_lt stored
    have next := filed.key
    simp only [beq_iff_eq]
    omega
  have all : points.filter (fun p => p.kbVersionId == v.id) = points := by
    rw [List.filter_eq_self]
    intro p listed
    simpa using filed.owned p listed
  unfold versionPoints Table.select
  rw [filed.pointRows, List.filter_append, none, all, List.nil_append]

theorem pointIds_eq : pointIds after v.id = points.map KnowledgePoint.id := by
  unfold pointIds
  rw [filed.points_eq sound]

theorem relations_eq : versionRelations after v.id = rels := by
  have none : db.relations.rows.filter (fun r => decide (r.fromKpId ∈ points.map KnowledgePoint.id) &&
      decide (r.toKpId ∈ points.map KnowledgePoint.id)) = [] := by
    rw [List.filter_eq_nil_iff]
    intro r stored
    simp only [Bool.and_eq_true, decide_eq_true_eq, not_and]
    intro image
    obtain ⟨p, new, same⟩ := List.mem_map.mp image
    have high := filed.issued p new
    have low := (sound.ends_lt stored).1
    omega
  have all : rels.filter (fun r => decide (r.fromKpId ∈ points.map KnowledgePoint.id) &&
      decide (r.toKpId ∈ points.map KnowledgePoint.id)) = rels := by
    rw [List.filter_eq_self]
    intro r listed
    simpa using filed.joined r listed
  unfold versionRelations Table.select
  rw [filed.pointIds_eq sound, filed.relationRows, List.filter_append, none, all, List.nil_append]

theorem joins_eq : versionJoins after v.id = rels.map joinOf := by
  unfold versionJoins
  rw [filed.relations_eq sound]

/-- Filing a version keeps what the schema enforces. -/
theorem keeps_sound : Sound after where
  owner := by
    intro p member
    rw [filed.pointRows, List.mem_append] at member
    rw [filed.versionRows]
    rcases member with old | new
    · obtain ⟨w, listed, same⟩ := sound.owner p old
      exact ⟨w, List.mem_append_left _ listed, same⟩
    · exact ⟨v, by simp, (filed.owned p new).symm⟩
  code := by
    intro p left q right sameVersion sameCode
    rw [filed.pointRows, List.mem_append] at left right
    have next := filed.key
    rcases left with oldP | newP <;> rcases right with oldQ | newQ
    · exact sound.code p oldP q oldQ sameVersion sameCode
    · have low := sound.owner_lt oldP
      have own := filed.owned q newQ
      omega
    · have low := sound.owner_lt oldQ
      have own := filed.owned p newP
      omega
    · exact List.inj_on_of_nodup_map filed.codes newP newQ sameCode
  ends := by
    intro r member
    rw [filed.relationRows, List.mem_append] at member
    rw [filed.pointRows]
    rcases member with old | new
    · obtain ⟨⟨p, left, source⟩, q, right, target⟩ := sound.ends r old
      exact ⟨⟨p, List.mem_append_left _ left, source⟩, q, List.mem_append_left _ right, target⟩
    · obtain ⟨left, right⟩ := filed.joined r new
      obtain ⟨p, listedP, source⟩ := List.mem_map.mp left
      obtain ⟨q, listedQ, target⟩ := List.mem_map.mp right
      exact ⟨⟨p, List.mem_append_right _ listedP, source⟩, q, List.mem_append_right _ listedQ, target⟩
  ordered := by
    rw [filed.relationRows, List.pairwise_append]
    refine ⟨sound.ordered, filed.numbered, ?_⟩
    intro a old b new
    have low : a.id < db.relations.nextId := db.relations.issued a old
    have high := filed.later b new
    omega

end Filed

def algebra (grade : Option Int) : KbVersion := ⟨1, "数学", grade, "人教版", "0.1.0", .active⟩

def algebraPoint (importance : Importance) : KnowledgePoint ℚ :=
  { id := 1, kbVersionId := 1, code := "M7A-101", name := "有理数", grade := 7, cogLevelsExpected := [.understand],
    difficultyPrior := ratio 1 2, masteryFloor := ratio 6 10, importance := importance, archived := false }

def algebraBase (grade : Option Int) (importance : Importance) : Db ℚ :=
  { Db.empty ℚ with
    kbVersions := Table.ofList [algebra grade]
    knowledgePoints := Table.ofList [algebraPoint importance] }

theorem algebraBase_sound (grade : Option Int) (importance : Importance) : Sound (algebraBase grade importance) where
  owner := by
    intro p stored
    rw [List.mem_singleton.mp (show p ∈ [algebraPoint importance] from stored)]
    exact ⟨algebra grade, List.mem_singleton_self (algebra grade), rfl⟩
  code := by
    intro p left q right _ _
    rw [List.mem_singleton.mp (show p ∈ [algebraPoint importance] from left),
      List.mem_singleton.mp (show q ∈ [algebraPoint importance] from right)]
  ends := by
    intro r stored
    cases (show r ∈ [] from stored)
  ordered := List.Pairwise.nil

end KnowledgeGap.Kb
