import KnowledgeGap.Kb.Editing
import KnowledgeGap.Kb.Relations
import KnowledgeGap.Kb.Requests
import KnowledgeGap.MindMap.Flatten
import Mathlib.Data.List.DropRight

namespace KnowledgeGap.MindMap

open Relational Kb KpGraph
open Kb.Editing (EditFailure createKp reservedCode insertable)

structure KbBasic where
  subject : String
  edition : String
  version : String
  grade : Int
  deriving DecidableEq, Repr

variable {K : Type}

section
variable (env : Deployment)

def gradeText : Option Int → String
  | some grade => "年级" ++ toString grade
  | none => "全年级"

/-- What both endpoints ask of the version they are to write into. -/
def writableVersion (db : Db K) (ctx : AccessContext) (kbVersionId : Nat) : Except EditFailure KbVersion :=
  if passesKbEditor env db ctx = false then .error (.http 403 "知识库写操作需要管理员或被授权教师权限")
  else
    match db.kbVersions.get? kbVersionId with
    | none => .error (.http 404 "知识库版本不存在")
    | some kb =>
      if kb.status = .active then .error (.http 400 "不能直接写入启用中的版本；请先「基于当前版修订」出草稿")
      else if canWriteKb env db ctx kb.subject kb.grade = false then
        .error (.http 403 ("知识库写权不含 " ++ kb.subject ++ "（" ++ gradeText kb.grade ++ "）：" ++ kb.textbookEdition ++ " v" ++ kb.version))
      else .ok kb

def createKpEndpoint (db : Db K) (ctx : AccessContext) (d : Editing.KpDraft K) : Except EditFailure (Db K × KnowledgePoint K) :=
  match writableVersion env db ctx d.kbVersionId with
  | .error e => .error e
  | .ok _ =>
    match createKp db d with
    | (_, .error e) => .error e
    | (after, .ok point) => .ok (after, point)

section
variable [Field K] [LinearOrder K]

def createRelationEndpoint (db : Db K) (ctx : AccessContext) (kbVersionId fromKpId toKpId : Nat) (type : String) (weight : K) :
    Except EditFailure (Db K) :=
  match writableVersion env db ctx kbVersionId with
  | .error e => .error e
  | .ok _ =>
    match createRelation db kbVersionId fromKpId toKpId type weight with
    | .error e => .error (.http 400 e.text)
    | .ok after => .ok after

/-- The body of `POST /kb/kps`, with the defaults of the fields the page leaves out. -/
def kpRequest (basic : KbBasic) (kbId : Nat) (kp : KpDraft) : Editing.KpDraft K where
  kbVersionId := kbId
  code := kp.code
  name := kp.name
  grade := basic.grade
  chapter := kp.chapter
  semester := 0
  description := kp.description
  cogLevelsExpected := []
  difficultyPrior := ratio 5 10
  masteryFloor := defaultMasteryFloor K
  importance := kp.importance

/-- A library while it is being filed. -/
structure Filing (K : Type) where
  db : Db K
  codeToId : Dict String Nat
  failedKps : List KpDraft
  failedRelations : List KpRelationDraft

def fileKp (ctx : AccessContext) (basic : KbBasic) (kbId : Nat) (st : Filing K) (kp : KpDraft) : Filing K :=
  match createKpEndpoint env st.db ctx (kpRequest basic kbId kp) with
  | .ok (after, node) => { st with db := after, codeToId := st.codeToId.set node.code node.id }
  | .error _ => { st with failedKps := st.failedKps ++ [kp] }

def fileRelation (ctx : AccessContext) (kbId : Nat) (st : Filing K) (r : KpRelationDraft) : Filing K :=
  match st.codeToId.get? r.fromCode, st.codeToId.get? r.toCode with
  | some fromId, some toId =>
    match createRelationEndpoint env st.db ctx kbId fromId toId r.type 1 with
    | .ok after => { st with db := after }
    | .error _ => { st with failedRelations := st.failedRelations ++ [r] }
  | _, _ => { st with failedRelations := st.failedRelations ++ [r] }

def canReadKb (db : Db K) (ctx : AccessContext) (subject : String) (grade : Option Int) : Bool :=
  match subjectScopes db ctx with
  | none | some [] => true
  | some scopes =>
    match grade with
    | none => scopes.any (fun scope => scope.1 == subject)
    | some g => scopes.any (fun scope => scope.1 == subject && scope.2 == g)

/-- `GET /kb/kps` for one version: the first page, in the order of the codes. -/
def listKps (db : Db K) (ctx : AccessContext) (kbVersionId : Nat) : Except KbHttpError (List (KnowledgePoint K)) :=
  match db.kbVersions.get? kbVersionId with
  | none => .error .notFound
  | some kb =>
    if canReadKb db ctx kb.subject kb.grade = false then .error .forbidden
    else .ok ((stableSort (fun a b : KnowledgePoint K => decide (a.code ≤ b.code)) (versionPoints db kbVersionId)).take 200)

/-- The version to write into, new or given, and the keys of the codes that are in it. -/
def openLibrary (db : Db K) (ctx : AccessContext) (basic : KbBasic) (existingKbId : Option Nat) :
    Except KbHttpError (Db K × Nat × Dict String Nat) :=
  match existingKbId with
  | none =>
    match handle env db ctx (.create ⟨trim basic.subject, some basic.grade, trim basic.edition, trim basic.version⟩) with
    | .error e => .error e
    | .ok after => .ok (after, db.kbVersions.nextId, .empty)
  | some kbId =>
    match listKps db ctx kbId with
    | .error e => .error e
    | .ok kps => .ok (db, kbId, kps.foldl (fun d k => d.set k.code k.id) .empty)

def createKbLibrary (db : Db K) (ctx : AccessContext) (basic : KbBasic) (kps : List KpDraft) (relations : List KpRelationDraft)
    (existingKbId : Option Nat) : Except KbHttpError (Nat × Filing K) :=
  match openLibrary env db ctx basic existingKbId with
  | .error e => .error e
  | .ok (after, kbId, codeToId) =>
    .ok (kbId, relations.foldl (fileRelation env ctx kbId) (kps.foldl (fileKp env ctx basic kbId) ⟨after, codeToId, [], []⟩))

end

end

variable {env : Deployment}

/-- The version takes writes from this caller. -/
def Permitted (env : Deployment) (db : Db K) (ctx : AccessContext) (kbId : Nat) : Prop :=
  passesKbEditor env db ctx = true ∧
    ∃ kb, db.kbVersions.get? kbId = some kb ∧ kb.status ≠ .active ∧ canWriteKb env db ctx kb.subject kb.grade = true

theorem writableVersion_of_permitted {db : Db K} {ctx : AccessContext} {kbId : Nat} (permitted : Permitted env db ctx kbId) :
    ∃ kb, writableVersion env db ctx kbId = .ok kb := by
  obtain ⟨gate, kb, found, draft, write⟩ := permitted
  refine ⟨kb, ?_⟩
  rw [writableVersion, gate, found]
  simp [draft, write]

theorem Permitted.of_same {db after : Db K} {ctx : AccessContext} {kbId : Nat} (permitted : Permitted env db ctx kbId)
    (versions : after.kbVersions = db.kbVersions) (scopes : after.subjectScopes = db.subjectScopes) :
    Permitted env after ctx kbId := by
  have same : subjectScopes after ctx = subjectScopes db ctx := by rw [subjectScopes, subjectScopes, scopes]
  obtain ⟨gate, kb, found, draft, write⟩ := permitted
  refine ⟨?_, kb, versions ▸ found, draft, ?_⟩
  · rw [passesKbEditor, same]
    exact gate
  · unfold canWriteKb scopeCovers at write ⊢
    rw [same]
    exact write

/-- The database's own rule: a point belongs to a version that has been filed. -/
def PointsOwned (db : Db K) : Prop := ∀ p ∈ db.knowledgePoints.rows, p.kbVersionId < db.kbVersions.nextId

/-- What the service accepts of a point, the codes of the version apart. -/
def Acceptable (kp : KpDraft) : Prop := reservedCode kp.code = false ∧ Editing.Importance.known kp.importance = true

section
variable [Field K]

def storedPoint (basic : KbBasic) (kbId : Nat) (kp : KpDraft) (id : Nat) : KnowledgePoint K := (kpRequest basic kbId kp).point id

theorem key_storedPoint (basic : KbBasic) (kbId : Nat) (kp : KpDraft) (id : Nat) :
    Keyed.key (storedPoint (K := K) basic kbId kp id) = id := rfl

def codesIn (db : Db K) (kbId : Nat) : List String := (versionPoints db kbId).map KnowledgePoint.code

theorem insertable_iff {db : Db K} {kbId : Nat} {kb : KbVersion} (basic : KbBasic) (kp : KpDraft)
    (found : db.kbVersions.get? kbId = some kb) :
    insertable db (kpRequest basic kbId kp) = true ↔ kp.code ∉ codesIn db kbId := by
  simp only [insertable, kpRequest, found, Option.isSome_some, Bool.true_and, List.isEmpty_iff, Table.select, codesIn, versionPoints,
    List.filter_eq_nil_iff, List.mem_map, List.mem_filter, Bool.and_eq_true, beq_iff_eq, not_and, not_exists]
  constructor
  · rintro none_ p ⟨stored, own⟩ same
    exact none_ p stored own same
  · intro none_ p stored own same
    exact none_ p ⟨stored, own⟩ same

theorem createKp_accepted {db : Db K} {basic : KbBasic} {kbId : Nat} {kp : KpDraft} (acceptable : Acceptable kp)
    (room : insertable db (kpRequest basic kbId kp) = true) :
    createKp db (kpRequest basic kbId kp) =
      ({ db with knowledgePoints := db.knowledgePoints.insert (storedPoint basic kbId kp) (key_storedPoint basic kbId kp) },
        .ok (storedPoint basic kbId kp db.knowledgePoints.nextId)) := by
  have levels : Editing.validateCog (kpRequest (K := K) basic kbId kp).cogLevelsExpected = .ok () := rfl
  have ordinary : reservedCode (kpRequest (K := K) basic kbId kp).code = false := acceptable.1
  have important : Editing.validateImportance (kpRequest (K := K) basic kbId kp).importance = .ok () := if_pos acceptable.2
  simp only [createKp, levels, ordinary, important, room]
  rfl

theorem createKp_refused {db : Db K} {basic : KbBasic} {kbId : Nat} {kp : KpDraft}
    (bad : ¬ (Acceptable kp ∧ insertable db (kpRequest basic kbId kp) = true)) :
    ∃ e, (createKp db (kpRequest basic kbId kp)).2 = .error e := by
  have levels : Editing.validateCog (kpRequest (K := K) basic kbId kp).cogLevelsExpected = .ok () := rfl
  simp only [createKp, levels]
  split
  · exact ⟨_, rfl⟩
  · rename_i ordinary
    split
    · exact ⟨_, rfl⟩
    · rename_i important
      split
      · rename_i room
        refine absurd ⟨⟨by simpa [kpRequest] using ordinary, ?_⟩, room⟩ bad
        by_contra unknown
        have refused : Editing.validateImportance (kpRequest (K := K) basic kbId kp).importance = .error _ := if_neg unknown
        rw [refused] at important
        cases important
      · exact ⟨_, rfl⟩

theorem createKpEndpoint_accepted {db : Db K} {ctx : AccessContext} {basic : KbBasic} {kbId : Nat} {kp : KpDraft}
    (permitted : Permitted env db ctx kbId) (acceptable : Acceptable kp) (absent : kp.code ∉ codesIn db kbId) :
    createKpEndpoint env db ctx (kpRequest basic kbId kp) =
      .ok ({ db with knowledgePoints := db.knowledgePoints.insert (storedPoint basic kbId kp) (key_storedPoint basic kbId kp) },
        storedPoint basic kbId kp db.knowledgePoints.nextId) := by
  obtain ⟨kb, writable⟩ := writableVersion_of_permitted permitted
  obtain ⟨_, owner, found, _⟩ := permitted
  have same : (kpRequest (K := K) basic kbId kp).kbVersionId = kbId := rfl
  rw [createKpEndpoint, same, writable, createKp_accepted acceptable ((insertable_iff basic kp found).mpr absent)]

theorem createKpEndpoint_refused {db : Db K} {ctx : AccessContext} {basic : KbBasic} {kbId : Nat} {kp : KpDraft}
    (permitted : Permitted env db ctx kbId) (bad : ¬ (Acceptable kp ∧ kp.code ∉ codesIn db kbId)) :
    ∃ e, createKpEndpoint env db ctx (kpRequest basic kbId kp) = .error e := by
  obtain ⟨kb, writable⟩ := writableVersion_of_permitted permitted
  obtain ⟨_, owner, found, _⟩ := permitted
  rw [← insertable_iff basic kp found] at bad
  obtain ⟨e, refused⟩ := createKp_refused bad
  have same : (kpRequest (K := K) basic kbId kp).kbVersionId = kbId := rfl
  refine ⟨e, ?_⟩
  rw [createKpEndpoint, same, writable]
  cases made : createKp db (kpRequest basic kbId kp) with
  | mk after result =>
    rw [made] at refused
    dsimp only at refused
    rw [refused]

/-- A library to which the points `kps` have been filed, none refused. -/
def filedUpTo (db : Db K) (basic : KbBasic) (kbId : Nat) (kps : List KpDraft) : Filing K where
  db := { db with knowledgePoints := db.knowledgePoints.insertAll (storedPoint basic kbId) (key_storedPoint basic kbId) kps }
  codeToId := Dict.numbered KpDraft.code db.knowledgePoints.nextId kps
  failedKps := []
  failedRelations := []

theorem codesIn_filedUpTo {db : Db K} {kbId : Nat} (unused : codesIn db kbId = []) (basic : KbBasic) (kps : List KpDraft) :
    codesIn (filedUpTo db basic kbId kps).db kbId = kps.map KpDraft.code := by
  have own : (kps.mapIdx (fun n kp => storedPoint (K := K) basic kbId kp (db.knowledgePoints.nextId + n))).filter
      (fun p => p.kbVersionId == kbId) = kps.mapIdx (fun n kp => storedPoint basic kbId kp (db.knowledgePoints.nextId + n)) := by
    refine List.filter_eq_self.mpr (fun p listed => ?_)
    obtain ⟨n, _, rfl⟩ := List.mem_mapIdx.mp listed
    exact beq_self_eq_true kbId
  have before : db.knowledgePoints.rows.filter (fun p => p.kbVersionId == kbId) = [] := List.map_eq_nil_iff.mp unused
  simp only [codesIn, versionPoints, Table.select, filedUpTo, Table.rows_insertAll, List.filter_append, before, own, List.nil_append]
  apply List.ext_getElem
  · simp
  · intro n _ _
    simp only [List.getElem_map, List.getElem_mapIdx]
    rfl

theorem filedUpTo_append (db : Db K) (basic : KbBasic) (kbId : Nat) (kps : List KpDraft) (kp : KpDraft) :
    filedUpTo db basic kbId (kps ++ [kp]) =
      { db := { (filedUpTo db basic kbId kps).db with
          knowledgePoints := (filedUpTo db basic kbId kps).db.knowledgePoints.insert (storedPoint basic kbId kp)
            (key_storedPoint basic kbId kp) }
        codeToId := (filedUpTo db basic kbId kps).codeToId.set kp.code (filedUpTo db basic kbId kps).db.knowledgePoints.nextId
        failedKps := []
        failedRelations := [] } := by
  have rows : db.knowledgePoints.insertAll (storedPoint basic kbId) (key_storedPoint basic kbId) (kps ++ [kp]) =
      (db.knowledgePoints.insertAll (storedPoint basic kbId) (key_storedPoint basic kbId) kps).insert (storedPoint basic kbId kp)
        (key_storedPoint basic kbId kp) := by
    rw [Table.insertAll, Table.upsertAll, List.foldl_append]
    rfl
  have codes : Dict.numbered KpDraft.code db.knowledgePoints.nextId (kps ++ [kp]) =
      (Dict.numbered KpDraft.code db.knowledgePoints.nextId kps).set kp.code (db.knowledgePoints.nextId + kps.length) := by
    rw [Dict.numbered, List.mapIdx_append, Dict.ofList, List.foldl_append]
    simp [Dict.numbered, Dict.ofList]
  simp only [filedUpTo, rows, codes, Table.nextId_insertAll]

section
variable {db : Db K} {ctx : AccessContext} {basic : KbBasic} {kbId : Nat} (permitted : Permitted env db ctx kbId)
  (unused : codesIn db kbId = [])
include permitted unused

theorem fileKp_accepted {kps : List KpDraft} {kp : KpDraft} (acceptable : Acceptable kp) (absent : kp.code ∉ kps.map KpDraft.code) :
    fileKp env ctx basic kbId (filedUpTo db basic kbId kps) kp = filedUpTo db basic kbId (kps ++ [kp]) := by
  have still : Permitted env (filedUpTo db basic kbId kps).db ctx kbId := permitted.of_same rfl rfl
  rw [← codesIn_filedUpTo unused basic] at absent
  rw [fileKp, createKpEndpoint_accepted still acceptable absent, filedUpTo_append]
  rfl

theorem fileKp_refused {kps : List KpDraft} {kp : KpDraft} (bad : ¬ (Acceptable kp ∧ kp.code ∉ kps.map KpDraft.code)) :
    (fileKp env ctx basic kbId (filedUpTo db basic kbId kps) kp).failedKps = [kp] := by
  have still : Permitted env (filedUpTo db basic kbId kps).db ctx kbId := permitted.of_same rfl rfl
  rw [← codesIn_filedUpTo unused basic] at bad
  obtain ⟨e, refused⟩ := createKpEndpoint_refused still bad
  rw [fileKp, refused]
  rfl

/-- All points are filed, or not all of them are reported to be. -/
theorem fileKps (kps : List KpDraft) :
    ((∀ kp ∈ kps, Acceptable kp) ∧ (kps.map KpDraft.code).Nodup →
      kps.foldl (fileKp env ctx basic kbId) ⟨db, .empty, [], []⟩ = filedUpTo db basic kbId kps) ∧
      ((kps.foldl (fileKp env ctx basic kbId) ⟨db, .empty, [], []⟩).failedKps = [] →
        (∀ kp ∈ kps, Acceptable kp) ∧ (kps.map KpDraft.code).Nodup) := by
  induction kps using List.reverseRecOn with
  | nil => exact ⟨fun _ => rfl, fun _ => ⟨by simp, List.nodup_nil⟩⟩
  | append_singleton kps kp ih =>
    rw [List.foldl_append, List.foldl_cons, List.foldl_nil]
    constructor
    · rintro ⟨acceptable, codes⟩
      rw [List.map_append] at codes
      have parts := List.nodup_append.mp codes
      rw [ih.1 ⟨fun k listed => acceptable k (List.mem_append_left _ listed), parts.1⟩]
      refine fileKp_accepted permitted unused (acceptable kp (List.mem_append_right _ (List.mem_singleton_self kp))) ?_
      intro used
      exact parts.2.2 _ used _ (List.mem_singleton_self _) rfl
    · intro none_
      have earlier : (kps.foldl (fileKp env ctx basic kbId) ⟨db, .empty, [], []⟩).failedKps = [] := by
        unfold fileKp at none_
        split at none_
        · exact none_
        · simp at none_
      obtain ⟨acceptable, codes⟩ := ih.2 earlier
      rw [ih.1 ⟨acceptable, codes⟩] at none_
      by_cases good : Acceptable kp ∧ kp.code ∉ kps.map KpDraft.code
      · refine ⟨fun k listed => ?_, ?_⟩
        · rcases List.mem_append.mp listed with old | new
          · exact acceptable k old
          · exact List.mem_singleton.mp new ▸ good.1
        · rw [List.map_append]
          refine List.nodup_append.mpr ⟨codes, List.nodup_singleton _, fun x used y here same => good.2 ?_⟩
          have mine : x = kp.code := same.trans (List.mem_singleton.mp here)
          exact mine ▸ used
      · rw [fileKp_refused permitted unused good] at none_
        cases none_

end

end

section
variable [Field K]

/-- The row that a relation becomes, its ends looked up among the points just filed. -/
def storedRelation (codeToId : Dict String Nat) (r : KpRelationDraft) (id : Nat) : KpRelation K :=
  KpRelation.filed ⟨0, codeToId.getD r.fromCode 0, codeToId.getD r.toCode 0, (relationType? r.type).getD .prerequisite, 1⟩ id

theorem key_storedRelation (codeToId : Dict String Nat) (r : KpRelationDraft) (id : Nat) :
    Keyed.key (storedRelation (K := K) codeToId r id) = id := rfl

/-- The relations `rels` filed on top of a library, none refused. -/
def relatedUpTo (st : Filing K) (rels : List KpRelationDraft) : Filing K :=
  { st with db := { st.db with
      relations := st.db.relations.insertAll (storedRelation st.codeToId) (key_storedRelation st.codeToId) rels } }

theorem relatedUpTo_append (st : Filing K) (rels : List KpRelationDraft) (r : KpRelationDraft) :
    relatedUpTo st (rels ++ [r]) =
      { relatedUpTo st rels with db := { (relatedUpTo st rels).db with
          relations := (relatedUpTo st rels).db.relations.insert (storedRelation st.codeToId r) (key_storedRelation st.codeToId r) } } := by
  simp only [relatedUpTo, Table.insertAll, Table.upsertAll, List.foldl_append, List.foldl_cons, List.foldl_nil]
  rfl

end

/-- A relation as the page sends it: of a known type, between two different codes. -/
def Sent (r : KpRelationDraft) : Prop := (∃ type, r.type = Kb.RelationType.name type) ∧ r.fromCode ≠ r.toCode

theorem insert_congr {ρ : Type} [Keyed ρ] (t : Table ρ) {f g : Nat → ρ} (same : f = g) (keyedF) (keyedG) :
    t.insert f keyedF = t.insert g keyedG := by
  subst same
  rfl

section
variable [Field K] {kps : List KpDraft} (codes : (kps.map KpDraft.code).Nodup) (db : Db K) (basic : KbBasic) (kbId : Nat)
include codes

theorem filed_id_mem {code : String} (known : code ∈ kps.map KpDraft.code) :
    (filedUpTo db basic kbId kps).codeToId.getD code 0 ∈ pointIds (filedUpTo db basic kbId kps).db kbId := by
  obtain ⟨kp, listed, rfl⟩ := List.mem_map.mp known
  obtain ⟨n, inside, rfl⟩ := List.getElem_of_mem listed
  have id := Dict.getD_numbered db.knowledgePoints.nextId codes inside
  refine List.mem_map.mpr ⟨storedPoint basic kbId kps[n] (db.knowledgePoints.nextId + n), ?_, id.symm⟩
  refine List.mem_filter.mpr ⟨?_, beq_self_eq_true kbId⟩
  simp only [filedUpTo, Table.rows_insertAll]
  exact List.mem_append_right _ (List.mem_mapIdx.mpr ⟨n, inside, rfl⟩)

theorem filed_id_apart {a b : String} (left : a ∈ kps.map KpDraft.code) (right : b ∈ kps.map KpDraft.code) (apart : a ≠ b) :
    (filedUpTo db basic kbId kps).codeToId.getD a 0 ≠ (filedUpTo db basic kbId kps).codeToId.getD b 0 := by
  intro same
  obtain ⟨k, listed, rfl⟩ := List.mem_map.mp left
  obtain ⟨j, also, rfl⟩ := List.mem_map.mp right
  exact apart (by rw [Dict.numbered_inj db.knowledgePoints.nextId codes listed also same])

theorem filed_get? (code : String) :
    (filedUpTo db basic kbId kps).codeToId.get? code =
      if code ∈ kps.map KpDraft.code then some ((filedUpTo db basic kbId kps).codeToId.getD code 0) else none := by
  by_cases known : code ∈ kps.map KpDraft.code
  · rw [if_pos known]
    obtain ⟨kp, listed, rfl⟩ := List.mem_map.mp known
    exact Dict.get?_numbered_of_mem db.knowledgePoints.nextId codes listed
  · rw [if_neg known, Option.eq_none_iff_forall_ne_some]
    intro id found
    obtain ⟨n, inside, rfl, _⟩ := Dict.mem_of_get?_numbered db.knowledgePoints.nextId found
    exact known (List.mem_map_of_mem (List.getElem_mem inside))

variable [LinearOrder K] [IsStrictOrderedRing K]

theorem createRelation_filed {rels : List KpRelationDraft} {r : KpRelationDraft} (sent : Sent r)
    (source : r.fromCode ∈ kps.map KpDraft.code) (target : r.toCode ∈ kps.map KpDraft.code) :
    createRelation (relatedUpTo (filedUpTo db basic kbId kps) rels).db kbId
      ((filedUpTo db basic kbId kps).codeToId.getD r.fromCode 0) ((filedUpTo db basic kbId kps).codeToId.getD r.toCode 0) r.type 1 =
      .ok (relatedUpTo (filedUpTo db basic kbId kps) (rels ++ [r])).db := by
  obtain ⟨⟨type, named⟩, apart⟩ := sent
  have typed : relationType? r.type = some type := relationType?_eq_some_iff.mpr named
  have unit : unitWeight (1 : K) = true := decide_eq_true ⟨zero_le_one, le_refl 1⟩
  have inside : ¬ ((filedUpTo db basic kbId kps).codeToId.getD r.fromCode 0 ∉
        pointIds (relatedUpTo (filedUpTo db basic kbId kps) rels).db kbId ∨
      (filedUpTo db basic kbId kps).codeToId.getD r.toCode 0 ∉
        pointIds (relatedUpTo (filedUpTo db basic kbId kps) rels).db kbId) := by
    rintro (outside | outside)
    · exact outside (filed_id_mem codes db basic kbId source)
    · exact outside (filed_id_mem codes db basic kbId target)
  have row : storedRelation (filedUpTo db basic kbId kps).codeToId r = KpRelation.filed
      ⟨0, (filedUpTo db basic kbId kps).codeToId.getD r.fromCode 0, (filedUpTo db basic kbId kps).codeToId.getD r.toCode 0, type, (1 : K)⟩ := by
    funext id
    rw [storedRelation, typed]
    rfl
  rw [createRelation, typed]
  dsimp only
  rw [unit, if_neg (by simp), if_neg (filed_id_apart codes db basic kbId source target apart), if_neg inside, relatedUpTo_append,
    insert_congr _ row]

variable {db basic kbId} {ctx : AccessContext}

theorem fileRelation_accepted (permitted : Permitted env db ctx kbId) {rels : List KpRelationDraft} {r : KpRelationDraft} (sent : Sent r)
    (source : r.fromCode ∈ kps.map KpDraft.code) (target : r.toCode ∈ kps.map KpDraft.code) :
    fileRelation env ctx kbId (relatedUpTo (filedUpTo db basic kbId kps) rels) r =
      relatedUpTo (filedUpTo db basic kbId kps) (rels ++ [r]) := by
  have still : Permitted env (relatedUpTo (filedUpTo db basic kbId kps) rels).db ctx kbId := permitted.of_same rfl rfl
  obtain ⟨kb, writable⟩ := writableVersion_of_permitted still
  have keys : (relatedUpTo (filedUpTo db basic kbId kps) rels).codeToId = (filedUpTo db basic kbId kps).codeToId := rfl
  rw [fileRelation, keys, filed_get? codes, filed_get? codes, if_pos source, if_pos target]
  dsimp only
  rw [createRelationEndpoint, writable, createRelation_filed codes db basic kbId sent source target]
  rfl

omit [IsStrictOrderedRing K] in
theorem fileRelation_refused {rels : List KpRelationDraft} {r : KpRelationDraft}
    (dangling : ¬ (r.fromCode ∈ kps.map KpDraft.code ∧ r.toCode ∈ kps.map KpDraft.code)) :
    (fileRelation env ctx kbId (relatedUpTo (filedUpTo db basic kbId kps) rels) r).failedRelations = [r] := by
  have keys : (relatedUpTo (filedUpTo db basic kbId kps) rels).codeToId = (filedUpTo db basic kbId kps).codeToId := rfl
  rw [fileRelation, keys, filed_get? codes, filed_get? codes]
  by_cases source : r.fromCode ∈ kps.map KpDraft.code
  · rw [if_pos source, if_neg (fun target => dangling ⟨source, target⟩)]
    rfl
  · rw [if_neg source]
    rfl

/-- All relations are filed, or not all of them are reported to be. -/
theorem fileRelations (permitted : Permitted env db ctx kbId) (rels : List KpRelationDraft) (sent : ∀ r ∈ rels, Sent r) :
    ((∀ r ∈ rels, r.fromCode ∈ kps.map KpDraft.code ∧ r.toCode ∈ kps.map KpDraft.code) →
      rels.foldl (fileRelation env ctx kbId) (filedUpTo db basic kbId kps) = relatedUpTo (filedUpTo db basic kbId kps) rels) ∧
      ((rels.foldl (fileRelation env ctx kbId) (filedUpTo db basic kbId kps)).failedRelations = [] →
        ∀ r ∈ rels, r.fromCode ∈ kps.map KpDraft.code ∧ r.toCode ∈ kps.map KpDraft.code) := by
  induction rels using List.reverseRecOn with
  | nil => exact ⟨fun _ => rfl, fun _ => by simp⟩
  | append_singleton rels r ih =>
    have ih := ih (fun r listed => sent r (List.mem_append_left _ listed))
    have last := sent r (List.mem_append_right _ (List.mem_singleton_self r))
    rw [List.foldl_append, List.foldl_cons, List.foldl_nil]
    constructor
    · intro joined
      have here := joined r (List.mem_append_right _ (List.mem_singleton_self r))
      rw [ih.1 (fun r listed => joined r (List.mem_append_left _ listed))]
      exact fileRelation_accepted codes permitted last here.1 here.2
    · intro none_
      have earlier : (rels.foldl (fileRelation env ctx kbId) (filedUpTo db basic kbId kps)).failedRelations = [] := by
        unfold fileRelation at none_
        split at none_
        · split at none_
          · exact none_
          · simp at none_
        · simp at none_
      have joined := ih.2 earlier
      rw [ih.1 joined] at none_
      intro q listed
      rcases List.mem_append.mp listed with old | new
      · exact joined q old
      · rw [List.mem_singleton.mp new]
        by_contra dangling
        rw [fileRelation_refused codes dangling] at none_
        cases none_

end

theorem trim_trim (s : String) : trim (trim s) = trim s := by
  have ends : ∀ l : List Char, ((l.dropWhile isTrimmed).rdropWhile isTrimmed).dropWhile isTrimmed =
      (l.dropWhile isTrimmed).rdropWhile isTrimmed := by
    intro l
    refine List.dropWhile_eq_self_iff.mpr (fun some_ => ?_)
    have shorter : (l.dropWhile isTrimmed).rdropWhile isTrimmed <+: l.dropWhile isTrimmed := List.rdropWhile_prefix _ _
    have longer : 0 < (l.dropWhile isTrimmed).length := Nat.lt_of_lt_of_le some_ shorter.length_le
    rw [shorter.getElem some_]
    exact List.dropWhile_get_zero_not isTrimmed l longer
  have unfolded : ∀ s : String, trim s = String.ofList ((s.toList.dropWhile isTrimmed).rdropWhile isTrimmed) := fun _ => rfl
  rw [unfolded (trim s), unfolded s, String.toList_ofList, ends, List.rdropWhile_idempotent]

/-- What a drawn tree has to be besides, for the service to take all of it: no code begins with the letter kept for the
    containers, the codes differ without the blanks around them, and the ends of the relations have no such blanks. -/
structure Fileable (d : Draft) : Prop where
  acceptable : ∀ k ∈ d.tree.points, reservedCode (trim k.code) = false ∧ Editing.Importance.known k.importance = true
  codes : (d.tree.points.map (fun k => trim k.code)).Nodup
  tight : ∀ e ∈ d.edges, trim (codeOf d.tree e.fromId) = codeOf d.tree e.fromId ∧ trim (codeOf d.tree e.toId) = codeOf d.tree e.toId

theorem flat_codes (t : MpTree) (edges : List MpEdge) :
    (flattenTree t edges).kps.map KpDraft.code = t.points.map (fun k => trim k.code) := by
  rw [flattenTree_kps, ← filed_points, List.map_map, List.map_map]
  rfl

theorem flat_acceptable (t : MpTree) (edges : List MpEdge) :
    (∀ kp ∈ (flattenTree t edges).kps, Acceptable kp) ↔
      ∀ k ∈ t.points, reservedCode (trim k.code) = false ∧ Editing.Importance.known k.importance = true := by
  rw [flattenTree_kps, ← filed_points]
  simp only [List.forall_mem_map]
  rfl

/-- A code on a card is a code that is filed exactly if no blank stands around it. -/
theorem codeOf_filed_iff {d : Draft} (sound : d.Sound) {id : String} (point : id ∈ kpIdSet d.tree) :
    codeOf d.tree id ∈ (flattenTree d.tree d.edges).kps.map KpDraft.code ↔ trim (codeOf d.tree id) = codeOf d.tree id := by
  rw [kpIdSet_eq] at point
  obtain ⟨k, listed, rfl⟩ := List.mem_map.mp point
  rw [flat_codes, codeOf_of_mem (nodup_points sound.distinct) listed]
  constructor
  · intro filed
    obtain ⟨j, _, same⟩ := List.mem_map.mp filed
    rw [← same, trim_trim]
  · intro tight
    exact List.mem_map.mpr ⟨k, listed, tight⟩

theorem flat_sent {d : Draft} (sound : d.Sound) (drawn : WellDrawn d.tree) :
    ∀ r ∈ (flattenTree d.tree d.edges).relations, Sent r := by
  rw [flattenTree_relations sound drawn]
  intro r listed
  obtain ⟨e, edge, rfl⟩ := List.mem_map.mp listed
  refine ⟨⟨e.type, rfl⟩, fun same => ?_⟩
  obtain ⟨left, right, apart⟩ := sound.joined e edge
  have ids := nodup_points sound.distinct
  rw [kpIdSet_eq] at left right
  obtain ⟨k, first, sourceId⟩ := List.mem_map.mp left
  obtain ⟨j, second, targetId⟩ := List.mem_map.mp right
  dsimp only at same
  rw [← sourceId, ← targetId, codeOf_of_mem ids first, codeOf_of_mem ids second] at same
  exact apart (by rw [← sourceId, ← targetId, List.inj_on_of_nodup_map drawn.codes first second same])

section
variable [Field K] [LinearOrder K]

theorem failedKps_fileRelations (ctx : AccessContext) (kbId : Nat) (rels : List KpRelationDraft) (st : Filing K) :
    (rels.foldl (fileRelation env ctx kbId) st).failedKps = st.failedKps := by
  induction rels generalizing st with
  | nil => rfl
  | cons r rels ih =>
    rw [List.foldl_cons, ih]
    unfold fileRelation
    split
    · split <;> rfl
    · rfl

/-- What the first call of the page makes: an empty version of its own, open to this caller. -/
theorem opened_library {db after : Db K} {ctx : AccessContext} {req : KbVersionCreateRequest} (owned : PointsOwned db)
    (made : handle env db ctx (.create req) = .ok after) :
    Permitted env after ctx db.kbVersions.nextId ∧ codesIn after db.kbVersions.nextId = [] := by
  unfold handle at made
  split at made
  · cases made
  · rename_i gate
    simp only [createEndpoint] at made
    split at made
    · cases made
    · split at made
      · cases made
      · rename_i write
        cases made
        have allowed : canWriteKb env db ctx (strip req.subject) req.grade = true := by simpa using write
        have editor : passesKbEditor env db ctx = true := by simpa using gate
        constructor
        · exact ⟨editor, req.newVersion db.kbVersions.nextId, by simp [Table.get?_insert], by simp [KbVersionCreateRequest.newVersion], allowed⟩
        · refine List.map_eq_nil_iff.mpr (List.filter_eq_nil_iff.mpr (fun p stored => ?_))
          have before := owned p stored
          simp only [beq_iff_eq]
          omega

variable [IsStrictOrderedRing K]

/-- A drawn tree without problems is filed whole, in a version of its own, exactly if it is fileable. -/
theorem createKbLibrary_files {db after : Db K} {ctx : AccessContext} {basic : KbBasic} {d : Draft} (sound : d.Sound)
    (drawn : (flattenTree d.tree d.edges).problems = []) (owned : PointsOwned db)
    (made : handle env db ctx (.create ⟨trim basic.subject, some basic.grade, trim basic.edition, trim basic.version⟩) = .ok after) :
    ∃ st, createKbLibrary env db ctx basic (flattenTree d.tree d.edges).kps (flattenTree d.tree d.edges).relations none =
        .ok (db.kbVersions.nextId, st) ∧
      (st.failedKps = [] ∧ st.failedRelations = [] ↔ Fileable d) ∧
      (Fileable d → st = relatedUpTo (filedUpTo after basic db.kbVersions.nextId (flattenTree d.tree d.edges).kps)
        (flattenTree d.tree d.edges).relations) := by
  have well := (flattenTree_clean d.tree d.edges).mp drawn
  obtain ⟨permitted, unused⟩ := opened_library owned made
  have sent := flat_sent sound well
  have relations := flattenTree_relations sound well
  have ends : ∀ e ∈ d.edges, e.fromId ∈ kpIdSet d.tree ∧ e.toId ∈ kpIdSet d.tree := fun e listed =>
    ⟨(sound.joined e listed).1, (sound.joined e listed).2.1⟩
  have tight : (∀ r ∈ (flattenTree d.tree d.edges).relations, r.fromCode ∈ (flattenTree d.tree d.edges).kps.map KpDraft.code ∧
      r.toCode ∈ (flattenTree d.tree d.edges).kps.map KpDraft.code) ↔
      ∀ e ∈ d.edges, trim (codeOf d.tree e.fromId) = codeOf d.tree e.fromId ∧ trim (codeOf d.tree e.toId) = codeOf d.tree e.toId := by
    rw [relations, List.forall_mem_map]
    exact forall₂_congr (fun e listed => and_congr (codeOf_filed_iff sound (ends e listed).1) (codeOf_filed_iff sound (ends e listed).2))
  obtain ⟨accepted, reported⟩ := fileKps permitted unused (flattenTree d.tree d.edges).kps
  refine ⟨_, by rw [createKbLibrary, openLibrary, made], ?_, ?_⟩
  · constructor
    · rintro ⟨noKp, noRelation⟩
      rw [failedKps_fileRelations] at noKp
      have taken := reported noKp
      rw [accepted taken] at noRelation
      have joined := (fileRelations taken.2 permitted _ sent).2 noRelation
      exact ⟨(flat_acceptable d.tree d.edges).mp taken.1, flat_codes d.tree d.edges ▸ taken.2, tight.mp joined⟩
    · intro fileable
      have taken := And.intro ((flat_acceptable d.tree d.edges).mpr fileable.acceptable) ((flat_codes d.tree d.edges).symm ▸ fileable.codes)
      rw [accepted taken, (fileRelations taken.2 permitted _ sent).1 (tight.mpr fileable.tight)]
      exact ⟨rfl, rfl⟩
  · intro fileable
    have taken := And.intro ((flat_acceptable d.tree d.edges).mpr fileable.acceptable) ((flat_codes d.tree d.edges).symm ▸ fileable.codes)
    rw [accepted taken, (fileRelations taken.2 permitted _ sent).1 (tight.mpr fileable.tight)]

end

theorem createKbLibrary_files_linked :
    ∃ st, createKbLibrary (K := ℚ) ⟨false, false⟩ (Db.empty ℚ) ⟨none⟩ ⟨"数学", "人教版", "0.1.0", 7⟩
        (flattenTree linked.tree linked.edges).kps (flattenTree linked.tree linked.edges).relations none = .ok (1, st) ∧
      (st.failedKps = [] ∧ st.failedRelations = [] ↔ Fileable linked) :=
  have ⟨st, run, whole, _⟩ := @createKbLibrary_files ℚ ⟨false, false⟩ _ _ _ (Db.empty ℚ) _ ⟨none⟩ ⟨"数学", "人教版", "0.1.0", 7⟩
    linked sound_linked (by decide +kernel) (by simp [PointsOwned, Db.empty, Table.empty]) rfl
  ⟨st, run, whole⟩

end KnowledgeGap.MindMap
