import KnowledgeGap.Kb.Filing
import KnowledgeGap.Pipeline.Attribution
import Mathlib.Data.Set.Function

namespace KnowledgeGap.Kb

open Relational KpGraph

variable {K : Type}

section
variable (db : Db K) (src : KbVersion)

/-- Where the fork files a point of its source. -/
def copyId (k : Nat) : Nat := (forkIds db src).getD k 0

theorem forkIds_eq :
    forkIds db src = Dict.numbered KnowledgePoint.id db.knowledgePoints.nextId (versionPoints db src.id) := rfl

theorem copyId_inj {a b : Nat} (left : a ∈ pointIds db src.id) (right : b ∈ pointIds db src.id)
    (same : copyId db src a = copyId db src b) : a = b := by
  obtain ⟨p, listed, rfl⟩ := List.mem_map.mp left
  obtain ⟨q, other, rfl⟩ := List.mem_map.mp right
  rw [Dict.numbered_inj _ (nodup_pointIds db src.id) listed other same]

theorem nextId_le_copyId {k : Nat} (member : k ∈ pointIds db src.id) :
    db.knowledgePoints.nextId ≤ copyId db src k := by
  obtain ⟨p, listed, rfl⟩ := List.mem_map.mp member
  obtain ⟨n, inside, rfl⟩ := List.getElem_of_mem listed
  rw [copyId, forkIds_eq, Dict.getD_numbered _ (nodup_pointIds db src.id) inside]
  exact Nat.le_add_right _ _

theorem get?_forkIds (k : Nat) :
    (forkIds db src).get? k = if k ∈ pointIds db src.id then some (copyId db src k) else none := by
  split
  · rename_i member
    obtain ⟨p, listed, rfl⟩ := List.mem_map.mp member
    exact Dict.get?_numbered_of_mem _ (nodup_pointIds db src.id) listed
  · rename_i outside
    cases found : (forkIds db src).get? k with
    | none => rfl
    | some id =>
      obtain ⟨n, inside, key, _⟩ := Dict.mem_of_get?_numbered _ found
      exact absurd (List.mem_map.mpr ⟨_, List.getElem_mem inside, key⟩) outside

def renamedRelation (rel : KpRelation K) : KpRelation K :=
  { rel with fromKpId := copyId db src rel.fromKpId, toKpId := copyId db src rel.toKpId }

theorem forkedRelation_eq (rel : KpRelation K) :
    forkedRelation (forkIds db src) rel = if inside db src.id rel then some (renamedRelation db src rel) else none := by
  unfold forkedRelation inside
  rw [get?_forkIds, get?_forkIds]
  by_cases left : rel.fromKpId ∈ pointIds db src.id <;> by_cases right : rel.toKpId ∈ pointIds db src.id <;>
    simp [left, right, renamedRelation]

end

section
variable {db : Db K} (sound : Sound db) (src : KbVersion)

def forkedPoints (db : Db K) (src : KbVersion) : List (KnowledgePoint K) :=
  (versionPoints db src.id).map (fun p => forkedPoint db.kbVersions.nextId p (copyId db src p.id))

def forkedRelations (db : Db K) (src : KbVersion) : List (KpRelation K) :=
  ((versionRelations db src.id).map (renamedRelation db src)).mapIdx
    (fun n r => KpRelation.filed r (db.relations.nextId + n))

theorem forkedPoints_ids (db : Db K) (src : KbVersion) :
    (forkedPoints db src).map KnowledgePoint.id = (pointIds db src.id).map (copyId db src) := by
  unfold forkedPoints pointIds
  rw [List.map_map, List.map_map]
  rfl

theorem forkedRelations_joins (db : Db K) (src : KbVersion) :
    (forkedRelations db src).map joinOf = (versionJoins db src.id).map (Join.rename (copyId db src)) := by
  unfold forkedRelations versionJoins
  apply List.ext_getElem
  · simp
  · intro n left right
    simp only [List.getElem_mapIdx, List.getElem_map]
    rfl

include sound

theorem fork_filed :
    Filed db (forkKbVersion db src).1 (forkKbVersion db src).2 (forkedPoints db src) (forkedRelations db src) where
  versionRows := rfl
  key := rfl
  pointRows := by
    show (db.knowledgePoints.insertAll _ (key_forkedPoint db.kbVersions.nextId) _).rows = _
    rw [Table.rows_insertAll, Dict.mapIdx_numbered _ (nodup_pointIds db src.id)]
    rfl
  owned := by
    intro q member
    obtain ⟨p, _, rfl⟩ := List.mem_map.mp member
    rfl
  issued := by
    intro q member
    obtain ⟨p, listed, rfl⟩ := List.mem_map.mp member
    exact nextId_le_copyId db src (List.mem_map_of_mem listed)
  codes := by
    have same : (forkedPoints db src).map KnowledgePoint.code =
        (versionPoints db src.id).map KnowledgePoint.code := by
      rw [forkedPoints, List.map_map]
      rfl
    rw [same]
    exact nodup_codes sound src.id
  relationRows := by
    show (db.relations.insertAll _ key_filed _).rows = _
    rw [Table.rows_insertAll, sound.sorted, filterMap_of_guard (forkedRelation_eq db src)]
    rfl
  joined := by
    intro r member
    have image : joinOf r ∈ (forkedRelations db src).map joinOf := List.mem_map_of_mem member
    rw [forkedRelations_joins] at image
    obtain ⟨j, listed, same⟩ := List.mem_map.mp image
    obtain ⟨left, right⟩ := versionJoins_inside db src.id listed
    have source : copyId db src j.source = r.fromKpId := congrArg Join.source same
    have target : copyId db src j.target = r.toKpId := congrArg Join.target same
    rw [forkedPoints_ids, ← source, ← target]
    exact ⟨List.mem_map_of_mem left, List.mem_map_of_mem right⟩
  numbered := pairwise_filed _ _
  later := by
    intro r member
    obtain ⟨n, _, rfl⟩ := List.mem_mapIdx.mp member
    exact Nat.le_add_right _ _

theorem fork_pointIds :
    pointIds (forkKbVersion db src).1 (forkKbVersion db src).2.id = (pointIds db src.id).map (copyId db src) := by
  rw [(fork_filed sound src).pointIds_eq sound, forkedPoints_ids]

theorem fork_joins :
    versionJoins (forkKbVersion db src).1 (forkKbVersion db src).2.id =
      (versionJoins db src.id).map (Join.rename (copyId db src)) := by
  rw [(fork_filed sound src).joins_eq sound, forkedRelations_joins]

theorem fork_embedding :
    Embedding (copyId db src) (load db src.id) (load (forkKbVersion db src).1 (forkKbVersion db src).2.id) := by
  apply embedding_of_joins
  · intro a left b right same
    exact copyId_inj db src left right same
  · rw [(fork_filed sound src).points_eq sound, forkedPoints, List.length_map]
  · exact fork_joins sound src

end

/-- One version's points stand in another under new keys, with every attribute and every relation, and
    with the same standing in the analysis. -/
structure CopiedBy (f : Nat → Nat) (db after : Db K) (src copy : KbVersion) [Field K] [LinearOrder K] : Prop where
  bijective : Set.BijOn f {k | k ∈ (load db src.id).kpIds} {k | k ∈ (load after copy.id).kpIds}
  points : ∀ p ∈ versionPoints db src.id, ∃ q ∈ versionPoints after copy.id,
    q.id = f p.id ∧ attributes q = attributes p
  relations : (versionJoins after copy.id).Perm ((versionJoins db src.id).map (Join.rename f))
  chain : ∀ k ∈ (load db src.id).kpIds, ∀ maxDepth, (load after copy.id).prerequisiteChain (f k) maxDepth =
    ((load db src.id).prerequisiteChain k maxDepth).map (Ancestor.rename f)
  downstream : ∀ k ∈ (load db src.id).kpIds, ∀ maxDepth, (load after copy.id).descendants (f k) maxDepth =
    ((load db src.id).descendants k maxDepth).map (Ancestor.rename f)
  partners : ∀ k ∈ (load db src.id).kpIds,
    (load after copy.id).confusablePartners (f k) = ((load db src.id).confusablePartners k).map f
  floors : ∀ p ∈ versionPoints db src.id, ∀ q ∈ versionPoints after copy.id, q.id = f p.id →
    effectiveFloor q = effectiveFloor p
  weights : ∀ k ∈ (load db src.id).kpIds, (load after copy.id).weightOf after (f k) = (load db src.id).weightOf db k

def ForkExact (db : Db K) (src : KbVersion) [Field K] [LinearOrder K] : Prop :=
  (forkKbVersion db src).2.subject = src.subject ∧ (forkKbVersion db src).2.grade = src.grade ∧
    (forkKbVersion db src).1.kbVersions.get? (forkKbVersion db src).2.id = some (forkKbVersion db src).2 ∧
    (∃ f, CopiedBy f db (forkKbVersion db src).1 src (forkKbVersion db src).2) ∧
    ∀ v ∈ db.kbVersions.rows, Untouched db (forkKbVersion db src).1 v

section
variable {db : Db K} (sound : Sound db) (src : KbVersion)
include sound

omit sound in
theorem attributes_forkedPoint {p : KnowledgePoint K} (core : p.importance = .core) (kbVersionId id : Nat) :
    attributes (forkedPoint kbVersionId p id) = attributes p := by
  simp [attributes, forkedPoint, core]

theorem fork_copied [Field K] [LinearOrder K] (core : ∀ p ∈ versionPoints db src.id, p.importance = .core) :
    CopiedBy (copyId db src) db (forkKbVersion db src).1 src (forkKbVersion db src).2 := by
  have embedded := fork_embedding sound src
  have ids : (load (forkKbVersion db src).1 (forkKbVersion db src).2.id).kpIds = _ := fork_pointIds sound src
  have points := (fork_filed sound src).points_eq sound
  refine ⟨⟨?_, ?_, ?_⟩, ?_, ?_, ?_, ?_, ?_, ?_, ?_⟩
  · intro k member
    rw [Set.mem_ofPred_eq, ids]
    exact List.mem_map_of_mem member
  · intro a left b right same
    exact copyId_inj db src left right same
  · intro k member
    rw [Set.mem_ofPred_eq, ids] at member
    obtain ⟨j, listed, rfl⟩ := List.mem_map.mp member
    exact ⟨j, listed, rfl⟩
  · intro p listed
    rw [points]
    exact ⟨_, List.mem_map_of_mem listed, rfl, attributes_forkedPoint (core p listed) _ _⟩
  · rw [fork_joins sound src]
  · intro k member maxDepth
    exact embedded.prerequisiteChain member maxDepth
  · intro k member maxDepth
    exact embedded.descendants (succ_of_joins (fun a left b right => copyId_inj db src left right)
      (fork_joins sound src)) member maxDepth
  · intro k member
    exact embedded.confusable k member
  · intro p listed q copied same
    rw [points] at copied
    obtain ⟨o, other, rfl⟩ := List.mem_map.mp copied
    have equal : o.id = p.id :=
      copyId_inj db src (List.mem_map_of_mem other) (List.mem_map_of_mem listed) same
    rw [List.inj_on_of_nodup_map (nodup_pointIds db src.id) other listed equal]
    rfl
  · intro k member
    obtain ⟨p, listed, rfl⟩ := List.mem_map.mp member
    have copied : forkedPoint db.kbVersions.nextId p (copyId db src p.id) ∈
        (load (forkKbVersion db src).1 (forkKbVersion db src).2.id).points := by
      show _ ∈ versionPoints (forkKbVersion db src).1 (forkKbVersion db src).2.id
      rw [points]
      exact List.mem_map_of_mem listed
    have there := weightOf_of_mem (forkKbVersion db src).1 copied
    have here := weightOf_of_mem db (show p ∈ (load db src.id).points from listed)
    rw [here, core p listed]
    exact there

/-- The fork repeats its source exactly when the source says what the copied columns leave out. -/
theorem forkExact_iff [Field K] [LinearOrder K] :
    ForkExact db src ↔ src.grade = none ∧ ∀ p ∈ versionPoints db src.id, p.importance = .core := by
  constructor
  · rintro ⟨_, grade, _, ⟨f, copied⟩, _⟩
    refine ⟨grade.symm, ?_⟩
    intro p listed
    obtain ⟨q, stored, _, same⟩ := copied.points p listed
    rw [(fork_filed sound src).points_eq sound] at stored
    obtain ⟨o, _, rfl⟩ := List.mem_map.mp stored
    exact (congrArg PointAttributes.importance same).symm
  · rintro ⟨grade, core⟩
    exact ⟨rfl, grade.symm, (fork_filed sound src).stored, ⟨_, fork_copied sound src core⟩,
      fun v stored => (fork_filed sound src).untouched stored⟩

end

theorem forkExact_ungraded_core :
    Sound (algebraBase none .core) ∧ ForkExact (algebraBase none .core) (algebra none) := by
  refine ⟨algebraBase_sound none .core, ?_⟩
  rw [forkExact_iff (algebraBase_sound none .core)]
  refine ⟨rfl, ?_⟩
  intro p listed
  rw [List.mem_singleton.mp (show p ∈ [algebraPoint .core] from listed)]
  rfl

/-- The fork of a grade's own version belongs to no grade, and its 基础 points count as 核心. -/
theorem fork_not_exact :
    Sound (algebraBase (some 7) .basic) ∧ algebra (some 7) ∈ (algebraBase (some 7) .basic).kbVersions.rows ∧
      ¬ ForkExact (algebraBase (some 7) .basic) (algebra (some 7)) := by
  refine ⟨algebraBase_sound (some 7) .basic, List.mem_singleton_self (algebra (some 7)), ?_⟩
  rintro ⟨_, grade, _⟩
  cases (show (none : Option Int) = some 7 from grade)

end KnowledgeGap.Kb
