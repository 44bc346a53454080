import KnowledgeGap.Kb.Import

namespace KnowledgeGap.Kb

open Relational KpGraph

variable {K : Type}

def codeOf (db : Db K) (k : Nat) : String := ((db.knowledgePoints.get? k).map KnowledgePoint.code).getD ""

def edgeIn (db : Db K) (r : KpRelation K) : Edge K := ⟨codeOf db r.fromKpId, codeOf db r.toKpId, r.type, r.weight⟩

/-- What a stored version says. -/
def contentOf (db : Db K) (kbVersionId : Nat) : Content K where
  points := (versionPoints db kbVersionId).map attributes
  edges := (versionRelations db kbVersionId).map (edgeIn db)

/-- The same points and the same relations, in any order. -/
def SameContent (a b : Content K) : Prop := a.points.Perm b.points ∧ a.edges.Perm b.edges

theorem codeOf_of_stored {db : Db K} {p : KnowledgePoint K} (stored : p ∈ db.knowledgePoints.rows) :
    codeOf db p.id = p.code := by
  have found : db.knowledgePoints.get? p.id = some p := Table.get?_of_mem stored
  rw [codeOf, found]
  rfl

section
variable [Field K] [LinearOrder K] {store : Db K} {doc : KbDoc K} {content : Content K}

def filedPoints (store : Db K) (content : Content K) : List (KnowledgePoint K) :=
  content.points.map (fun a => a.store store.kbVersions.nextId ((codeIds store content).getD a.code 0))

def filedRelations (store : Db K) (content : Content K) : List (KpRelation K) :=
  (content.edges.map (resolve (codeIds store content))).mapIdx
    (fun n r => KpRelation.filed r (store.relations.nextId + n))

omit [Field K] [LinearOrder K] in
theorem mem_filedIds {store : Db K} {c : String} (listed : c ∈ content.codes) :
    (codeIds store content).getD c 0 ∈ (filedPoints store content).map KnowledgePoint.id := by
  obtain ⟨a, member, rfl⟩ := List.mem_map.mp listed
  rw [filedPoints, List.map_map]
  exact List.mem_map.mpr ⟨a, member, rfl⟩

omit [Field K] [LinearOrder K] in
theorem mem_filedRelations {r : KpRelation K} (member : r ∈ filedRelations store content) :
    store.relations.nextId ≤ r.id ∧ ∃ e ∈ content.edges, r.fromKpId = (codeIds store content).getD e.source 0 ∧
      r.toKpId = (codeIds store content).getD e.target 0 := by
  obtain ⟨n, inside, rfl⟩ := List.mem_mapIdx.mp member
  obtain ⟨e, listed, same⟩ := List.mem_map.mp (List.getElem_mem inside)
  refine ⟨Nat.le_add_right _ _, e, listed, ?_, ?_⟩
  · rw [← same]
    rfl
  · rw [← same]
    rfl

theorem known_edge (valid : Describes doc content) {e : Edge K} (listed : e ∈ content.edges) :
    e.source ∈ content.codes ∧ e.target ∈ content.codes := by
  obtain ⟨n, inside, rfl⟩ := List.getElem_of_mem listed
  have size := valid.edges.length_eq
  exact (valid.edges.get (by omega) inside).known

theorem fileVersion_filed (store : Db K) (valid : Describes doc content) :
    Filed store (fileVersion store doc content) (doc.newVersion store.kbVersions.nextId)
      (filedPoints store content) (filedRelations store content) where
  versionRows := rfl
  key := rfl
  pointRows := by
    show (Table.insertAll _ _ store.knowledgePoints content.points).rows = _
    rw [Table.rows_insertAll, Dict.mapIdx_numbered _ valid.distinct]
    rfl
  owned := by
    intro p member
    obtain ⟨a, _, rfl⟩ := List.mem_map.mp member
    rfl
  issued := by
    intro p member
    obtain ⟨a, listed, rfl⟩ := List.mem_map.mp member
    obtain ⟨n, inside, rfl⟩ := List.getElem_of_mem listed
    show store.knowledgePoints.nextId ≤ (codeIds store content).getD content.points[n].code 0
    rw [codeIds, Dict.getD_numbered _ valid.distinct inside]
    exact Nat.le_add_right _ _
  codes := by
    rw [filedPoints, List.map_map]
    exact valid.distinct
  relationRows := by
    show (Table.insertAll _ key_filed store.relations _).rows = _
    rw [Table.rows_insertAll]
    rfl
  joined := by
    intro r member
    obtain ⟨_, e, listed, source, target⟩ := mem_filedRelations member
    obtain ⟨left, right⟩ := known_edge valid listed
    rw [source, target]
    exact ⟨mem_filedIds left, mem_filedIds right⟩
  numbered := pairwise_filed _ _
  later := by
    intro r member
    exact (mem_filedRelations member).1

theorem codeOf_codeIds (valid : Describes doc content) {c : String} (listed : c ∈ content.codes) :
    codeOf (fileVersion store doc content) ((codeIds store content).getD c 0) = c := by
  obtain ⟨a, member, rfl⟩ := List.mem_map.mp listed
  have filed : a.store store.kbVersions.nextId ((codeIds store content).getD a.code 0) ∈
      (fileVersion store doc content).knowledgePoints.rows := by
    rw [(fileVersion_filed store valid).pointRows]
    exact List.mem_append_right _ (List.mem_map.mpr ⟨a, member, rfl⟩)
  exact codeOf_of_stored filed

theorem contentOf_fileVersion (sound : Sound store) (valid : Describes doc content) :
    contentOf (fileVersion store doc content) store.kbVersions.nextId = content := by
  have points : versionPoints (fileVersion store doc content) store.kbVersions.nextId = _ :=
    (fileVersion_filed store valid).points_eq sound
  have relations : versionRelations (fileVersion store doc content) store.kbVersions.nextId = _ :=
    (fileVersion_filed store valid).relations_eq sound
  have edges : (filedRelations store content).map (edgeIn (fileVersion store doc content)) = content.edges := by
    apply List.ext_getElem
    · simp [filedRelations]
    · intro n left right
      obtain ⟨source, target⟩ := known_edge valid (List.getElem_mem right)
      simp only [filedRelations, List.getElem_map, List.getElem_mapIdx, edgeIn, KpRelation.filed, resolve,
        codeOf_codeIds valid source, codeOf_codeIds valid target]
  unfold contentOf
  rw [points, relations, edges, filedPoints, List.map_map]
  congr 1
  exact List.map_id content.points

end

/-- What the export says of a version: every importance is left to the default of the loader. -/
def exportedContent (db : Db K) (v : KbVersion) : Content K where
  points := (stableSort byPointCode (versionPoints db v.id)).map
    (fun p => { attributes p with importance := .core })
  edges := (contentOf db v.id).edges

def idToCode (db : Db K) (v : KbVersion) : Dict Nat String :=
  Dict.ofList ((stableSort byPointCode (versionPoints db v.id)).map (fun kp => (kp.id, kp.code)))

theorem get?_idToCode (db : Db K) (v : KbVersion) (k : Nat) :
    (idToCode db v).get? k = if k ∈ pointIds db v.id then some (codeOf db k) else none := by
  split
  · rename_i member
    obtain ⟨p, listed, rfl⟩ := List.mem_map.mp member
    have stored := (mem_versionPoints.mp listed).1
    rw [codeOf_of_stored stored]
    apply Dict.get?_ofList_of_mem
    · exact List.mem_map.mpr ⟨p, mem_stableSort.mpr listed, rfl⟩
    · intro code pair
      obtain ⟨q, other, same⟩ := List.mem_map.mp pair
      have key : q.id = p.id := congrArg Prod.fst same
      have equal := db.knowledgePoints.key_inj (mem_versionPoints.mp (mem_stableSort.mp other)).1 stored key
      rw [← equal]
      exact (congrArg Prod.snd same).symm
  · rename_i outside
    cases found : (idToCode db v).get? k with
    | none => rfl
    | some code =>
      obtain ⟨p, listed, same⟩ := List.mem_map.mp (Dict.mem_of_get?_ofList found)
      exact absurd (List.mem_map.mpr ⟨p, mem_stableSort.mp listed, congrArg Prod.fst same⟩) outside

theorem edgeOf_eq (db : Db K) (v : KbVersion) (r : KpRelation K) :
    edgeOf (idToCode db v) r = if inside db v.id r then some (edgeIn db r) else none := by
  unfold edgeOf inside
  rw [get?_idToCode, get?_idToCode]
  by_cases left : r.fromKpId ∈ pointIds db v.id <;> by_cases right : r.toKpId ∈ pointIds db v.id <;>
    simp [left, right, edgeIn]

theorem exportKb_relations {db : Db K} (sound : Sound db) (v : KbVersion) :
    (exportKb db v).relations = (contentOf db v.id).edges.map exportRelation := by
  show ((stableSort byRelationId db.relations.rows).filterMap (edgeOf (idToCode db v))).map exportRelation = _
  rw [sound.sorted, filterMap_of_guard (edgeOf_eq db v)]
  rfl

theorem contentOf_edges_known {db : Db K} {v : KbVersion} {e : Edge K} (listed : e ∈ (contentOf db v.id).edges) :
    e.source ∈ (contentOf db v.id).codes ∧ e.target ∈ (contentOf db v.id).codes := by
  obtain ⟨r, member, rfl⟩ := List.mem_map.mp listed
  obtain ⟨_, left, right⟩ := mem_versionRelations.mp member
  have known : ∀ k ∈ pointIds db v.id, codeOf db k ∈ (contentOf db v.id).codes := by
    intro k point
    obtain ⟨p, there, rfl⟩ := List.mem_map.mp point
    rw [codeOf_of_stored (mem_versionPoints.mp there).1, Content.codes, contentOf, List.map_map]
    exact List.mem_map.mpr ⟨p, there, rfl⟩
  exact ⟨known _ left, known _ right⟩

theorem exportedContent_codes_perm (db : Db K) (v : KbVersion) :
    (exportedContent db v).codes.Perm (contentOf db v.id).codes := by
  unfold Content.codes exportedContent contentOf
  rw [List.map_map, List.map_map]
  exact (perm_stableSort byPointCode (versionPoints db v.id)).map KnowledgePoint.code

section
variable [Field K]

theorem validatePoint_exportPoint (p : KnowledgePoint K) (a : PointAttributes K) :
    validatePoint (exportPoint p) = .ok a ↔
      (∀ level ∈ p.cogLevelsExpected, legalCogLevel level = true) ∧ a = { attributes p with importance := .core } := by
  have archived : (if p.archived = true then some true else none).getD false = p.archived := by
    cases p.archived <;> rfl
  unfold validatePoint exportPoint
  simp only [Option.getD_some, Option.getD_none, archived]
  cases search : p.cogLevelsExpected.find? (fun level => !legalCogLevel level) with
  | some level =>
    have illegal := List.find?_some search
    have member := List.mem_of_find?_eq_some search
    simp only [reduceCtorEq, false_iff, not_and]
    intro legal
    simp [legal level member] at illegal
  | none =>
    have legal : ∀ level ∈ p.cogLevelsExpected, legalCogLevel level = true := by
      simpa using List.find?_eq_none.mp search
    simp only [legalImportance, ↓reduceIte, Except.ok.injEq]
    constructor
    · intro same
      exact ⟨legal, same.symm⟩
    · intro same
      exact same.2.symm

variable [LinearOrder K]

theorem describesEdge_exportRelation (codes : List String) (e edge : Edge K) :
    DescribesEdge codes (exportRelation e) edge ↔
      edge = e ∧ (e.source ∈ codes ∧ e.target ∈ codes) ∧ 0 ≤ e.weight ∧ e.weight ≤ 1 := by
  constructor
  · intro given
    have source := Option.some.inj given.source
    have target := Option.some.inj given.target
    have type : e.type = edge.type := by
      have named := relationType?_eq_some_iff.mpr (Option.some.inj given.type)
      exact (Option.some.inj (named.symm.trans (relationType?_eq_some_iff.mpr rfl))).symm
    have weight : e.weight = edge.weight := given.weight
    have same : edge = e := by
      cases e
      cases edge
      simp_all
    subst same
    exact ⟨rfl, given.known, given.range⟩
  · rintro ⟨rfl, known, range⟩
    exact ⟨rfl, rfl, rfl, rfl, known, range⟩

/-- What the loader accepts of an exported version. -/
structure Accepted (db : Db K) (v : KbVersion) : Prop where
  levels : ∀ p ∈ versionPoints db v.id, ∀ level ∈ p.cogLevelsExpected, legalCogLevel level = true
  weights : ∀ r ∈ versionRelations db v.id, 0 ≤ r.weight ∧ r.weight ≤ 1

omit [LinearOrder K] in
theorem forall₂_exportPoint {points : List (KnowledgePoint K)} {attrs : List (PointAttributes K)} :
    List.Forall₂ (fun p a => validatePoint p = .ok a) (points.map exportPoint) attrs ↔
      (∀ p ∈ points, ∀ level ∈ p.cogLevelsExpected, legalCogLevel level = true) ∧
        attrs = points.map (fun p => { attributes p with importance := .core }) := by
  rw [List.forall₂_map_left_iff]
  induction points generalizing attrs with
  | nil => simp
  | cons p points ih =>
    rw [List.forall₂_cons_left_iff]
    constructor
    · rintro ⟨a, later, checked, rest, rfl⟩
      obtain ⟨legal, rfl⟩ := (validatePoint_exportPoint p a).mp checked
      obtain ⟨others, rfl⟩ := ih.mp rest
      exact ⟨by simpa using ⟨legal, others⟩, rfl⟩
    · rintro ⟨legal, rfl⟩
      rw [List.forall_mem_cons] at legal
      exact ⟨_, _, (validatePoint_exportPoint p _).mpr ⟨legal.1, rfl⟩, ih.mpr ⟨legal.2, rfl⟩, rfl⟩

theorem forall₂_exportRelation {codes : List String} {edges described : List (Edge K)} :
    List.Forall₂ (DescribesEdge codes) (edges.map exportRelation) described ↔
      (∀ e ∈ edges, (e.source ∈ codes ∧ e.target ∈ codes) ∧ 0 ≤ e.weight ∧ e.weight ≤ 1) ∧ described = edges := by
  rw [List.forall₂_map_left_iff]
  induction edges generalizing described with
  | nil => simp
  | cons e edges ih =>
    rw [List.forall₂_cons_left_iff]
    constructor
    · rintro ⟨edge, later, checked, rest, rfl⟩
      obtain ⟨rfl, held⟩ := (describesEdge_exportRelation codes e edge).mp checked
      obtain ⟨others, rfl⟩ := ih.mp rest
      exact ⟨by simpa using ⟨held, others⟩, rfl⟩
    · rintro ⟨held, rfl⟩
      rw [List.forall_mem_cons] at held
      exact ⟨e, edges, (describesEdge_exportRelation codes e e).mpr ⟨rfl, held.1⟩, ih.mpr ⟨held.2, rfl⟩, rfl⟩

theorem describes_exportKb_iff {db : Db K} (sound : Sound db) (v : KbVersion) (content : Content K) :
    Describes (exportKb db v) content ↔ Accepted db v ∧ content = exportedContent db v := by
  have sorted := perm_stableSort byPointCode (versionPoints db v.id)
  have codes := exportedContent_codes_perm db v
  constructor
  · rintro ⟨points, distinct, edges⟩
    obtain ⟨levels, same⟩ := forall₂_exportPoint.mp points
    rw [exportKb_relations sound] at edges
    obtain ⟨held, joined⟩ := forall₂_exportRelation.mp edges
    refine ⟨⟨?_, ?_⟩, ?_⟩
    · intro p listed
      exact levels p (mem_stableSort.mpr listed)
    · intro r listed
      exact (held (edgeIn db r) (List.mem_map_of_mem listed)).2
    · cases content
      simp_all [exportedContent]
  · rintro ⟨accepted, rfl⟩
    refine ⟨forall₂_exportPoint.mpr ⟨?_, rfl⟩, ?_, ?_⟩
    · intro p listed
      exact accepted.levels p (mem_stableSort.mp listed)
    · rw [codes.nodup_iff, Content.codes, contentOf, List.map_map]
      exact nodup_codes sound v.id
    · rw [exportKb_relations sound]
      refine forall₂_exportRelation.mpr ⟨?_, rfl⟩
      intro e listed
      obtain ⟨left, right⟩ := contentOf_edges_known listed
      obtain ⟨r, member, rfl⟩ := List.mem_map.mp listed
      exact ⟨⟨codes.mem_iff.mpr left, codes.mem_iff.mpr right⟩, accepted.weights r member⟩

/-- The exported version comes back in another store, under new keys and otherwise as it was. -/
def Recreated (db : Db K) (v : KbVersion) (store : Db K) : Prop :=
  ∃ after copy, importKb store (exportKb db v) = (after, .ok copy.id) ∧ store.kbVersions.get? copy.id = none ∧
    after.kbVersions.get? copy.id = some copy ∧ copy = { v with id := copy.id } ∧
    SameContent (contentOf after copy.id) (contentOf db v.id) ∧
    ∀ w ∈ store.kbVersions.rows, Untouched store after w

/-- What the export keeps quiet about is what the loader assumes anyway. -/
structure Exportable (db : Db K) (v : KbVersion) : Prop extends Accepted db v where
  ungraded : v.grade = none
  core : ∀ p ∈ versionPoints db v.id, p.importance = .core

theorem recreated_iff {db store : Db K} (sound : Sound db) (soundStore : Sound store) {v : KbVersion}
    (unnamed : ∀ w ∈ store.kbVersions.rows, namesake (exportKb db v) w = false) :
    Recreated db v store ↔ Exportable db v := by
  constructor
  · rintro ⟨after, copy, imported, _, stored, same, ⟨points, _⟩, _⟩
    obtain ⟨content, valid⟩ := describes_of_importKb imported unnamed
    obtain ⟨accepted, rfl⟩ := (describes_exportKb_iff sound v content).mp valid
    rw [importKb_of_describes store valid, alreadyImported_eq_none unnamed, Prod.mk.injEq, Except.ok.injEq] at imported
    obtain ⟨rfl, key⟩ := imported
    have filed := (fileVersion_filed store valid).stored
    rw [← key] at stored
    have row : (exportKb db v).newVersion store.kbVersions.nextId = copy := Option.some.inj (filed.symm.trans stored)
    rw [← key, contentOf_fileVersion soundStore valid] at points
    refine ⟨accepted, ?_, ?_⟩
    · have grade : copy.grade = v.grade := by rw [same]
      rw [← grade, ← row]
      rfl
    · intro p listed
      have image : attributes p ∈ (contentOf db v.id).points := List.mem_map_of_mem listed
      rw [← points.mem_iff] at image
      obtain ⟨q, _, equal⟩ := List.mem_map.mp image
      exact (congrArg PointAttributes.importance equal).symm
  · intro exportable
    have valid := (describes_exportKb_iff sound v _).mpr ⟨exportable.toAccepted, rfl⟩
    have filed := fileVersion_filed store valid
    refine ⟨fileVersion store (exportKb db v) (exportedContent db v),
      (exportKb db v).newVersion store.kbVersions.nextId, ?_, ?_, filed.stored, ?_, ?_, ?_⟩
    · rw [importKb_of_describes store valid, alreadyImported_eq_none unnamed]
      rfl
    · exact store.kbVersions.get?_none_of_nextId_le (Nat.le_refl _)
    · show KbVersion.mk _ _ _ _ _ _ = KbVersion.mk _ _ _ _ _ _
      rw [exportable.ungraded]
      rfl
    · rw [show ((exportKb db v).newVersion store.kbVersions.nextId).id = store.kbVersions.nextId from rfl,
        contentOf_fileVersion soundStore valid]
      refine ⟨?_, List.Perm.refl _⟩
      have restored : (exportedContent db v).points =
          (stableSort byPointCode (versionPoints db v.id)).map attributes := by
        apply List.map_congr_left
        intro p listed
        have core := exportable.core p (mem_stableSort.mp listed)
        simp [attributes, core]
      rw [restored]
      exact (perm_stableSort byPointCode (versionPoints db v.id)).map attributes
    · intro w stored
      exact filed.untouched stored

/-- The version the loader stops at: the first one stored under the file's name with the file's set of codes. -/
def firstAlike (store : Db K) (doc : KbDoc K) (codes : List String) : Option KbVersion :=
  store.kbVersions.rows.find? (fun w => namesake doc w && sameCodes (storedCodes store w) codes)

/-- An import answers with a stored version when one under the file's name says what the file says, and only
    then; otherwise it files exactly what the file describes. -/
structure ImportExact (store : Db K) (doc : KbDoc K) (content : Content K) : Prop where
  returned : ∀ w ∈ store.kbVersions.rows, importKb store doc = (store, .ok w.id) →
    SameContent (contentOf store w.id) content
  met : (∃ w ∈ store.kbVersions.rows, namesake doc w = true ∧ SameContent (contentOf store w.id) content) →
    ∃ w ∈ store.kbVersions.rows, importKb store doc = (store, .ok w.id)
  filed : (¬ ∃ w ∈ store.kbVersions.rows, namesake doc w = true ∧ SameContent (contentOf store w.id) content) →
    ∃ after, importKb store doc = (after, .ok store.kbVersions.nextId) ∧
      Filed store after (doc.newVersion store.kbVersions.nextId) (versionPoints after store.kbVersions.nextId)
        (versionRelations after store.kbVersions.nextId) ∧
      SameContent (contentOf after store.kbVersions.nextId) content

omit [Field K] [LinearOrder K] in
theorem alreadyImported_eq (store : Db K) (doc : KbDoc K) (codes : List String) :
    alreadyImported store doc codes = firstAlike store doc codes := by
  unfold alreadyImported firstAlike Table.select
  rw [List.find?_filter]
  simp only [Bool.decide_and, Bool.decide_eq_true]

omit [Field K] [LinearOrder K] in
theorem sameCodes_of_sameContent {store : Db K} {w : KbVersion} {content : Content K}
    (same : SameContent (contentOf store w.id) content) : sameCodes (storedCodes store w) content.codes = true := by
  have codes : (storedCodes store w).Perm content.codes := by
    have image := same.1.map PointAttributes.code
    rw [contentOf, List.map_map] at image
    exact image
  simp only [sameCodes, Bool.and_eq_true, List.all_eq_true, decide_eq_true_eq]
  exact ⟨fun c listed => codes.mem_iff.mp listed, fun c listed => codes.mem_iff.mpr listed⟩

theorem importExact_iff {store : Db K} (sound : Sound store) {doc : KbDoc K} {content : Content K}
    (valid : Describes doc content) :
    ImportExact store doc content ↔
      ∀ w, firstAlike store doc content.codes = some w → SameContent (contentOf store w.id) content := by
  have result := importKb_of_describes store valid
  rw [alreadyImported_eq] at result
  cases alike : firstAlike store doc content.codes with
  | some kb =>
    rw [alike] at result
    have stored : kb ∈ store.kbVersions.rows := List.mem_of_find?_eq_some alike
    have named : namesake doc kb = true := by
      have held := List.find?_some alike
      simp only [Bool.and_eq_true] at held
      exact held.1
    constructor
    · intro exact_ w same
      cases same
      exact exact_.returned kb stored result
    · intro carried
      have same := carried kb rfl
      refine ⟨?_, ?_, ?_⟩
      · intro w listed answered
        have key : kb.id = w.id := by
          have both := result.symm.trans answered
          exact Except.ok.inj (congrArg Prod.snd both)
        rw [← key]
        exact same
      · intro _
        exact ⟨kb, stored, result⟩
      · intro none
        exact absurd ⟨kb, stored, named, same⟩ none
  | none =>
    rw [alike] at result
    have vacuous : ∀ w : KbVersion, none = some w → SameContent (contentOf store w.id) content := by
      intro w impossible
      cases impossible
    refine ⟨fun _ => vacuous, fun _ => ⟨?_, ?_, ?_⟩⟩
    · intro w listed answered
      have key : store.kbVersions.nextId = w.id := by
        have both := result.symm.trans answered
        exact Except.ok.inj (congrArg Prod.snd both)
      have issued : w.id < store.kbVersions.nextId := store.kbVersions.issued w listed
      omega
    · rintro ⟨w, listed, named, same⟩
      have skipped := List.find?_eq_none.mp alike w listed
      simp [named, sameCodes_of_sameContent same] at skipped
    · intro _
      have filed := fileVersion_filed store valid
      have points : versionPoints (fileVersion store doc content) store.kbVersions.nextId = _ := filed.points_eq sound
      have relations : versionRelations (fileVersion store doc content) store.kbVersions.nextId = _ :=
        filed.relations_eq sound
      refine ⟨fileVersion store doc content, result, ?_, ?_⟩
      · rw [points, relations]
        exact filed
      · rw [contentOf_fileVersion sound valid]
        exact ⟨List.Perm.refl _, List.Perm.refl _⟩

/-- Export and import undo each other on versions that keep to the loader's defaults, an import recognises
    what is stored when codes tell the contents apart, and a failed one leaves nothing. -/
theorem exchange_iff {db store : Db K} (sound : Sound db) (soundStore : Sound store) (v : KbVersion) (doc : KbDoc K) :
    ((∀ w ∈ store.kbVersions.rows, namesake (exportKb db v) w = false) →
      (Recreated db v store ↔ Exportable db v)) ∧
    (∀ content, Describes doc content → (ImportExact store doc content ↔
      ∀ w, firstAlike store doc content.codes = some w → SameContent (contentOf store w.id) content)) ∧
    ∀ after e, importKb store doc = (after, .error e) → rolledBack store (importKb store doc) = store := by
  refine ⟨fun unnamed => recreated_iff sound soundStore unnamed, fun content valid => importExact_iff soundStore valid, ?_⟩
  intro after e raised
  rw [raised]
  rfl

end

theorem empty_sound : Sound (Db.empty ℚ) where
  owner := by
    intro p stored
    cases stored
  code := by
    intro p stored
    cases stored
  ends := by
    intro r stored
    cases stored
  ordered := List.Pairwise.nil

theorem algebra_exportable (v : KbVersion) (ungraded : v.grade = none) : Exportable (algebraBase none .core) v where
  levels := by
    intro p listed level expected
    rw [List.mem_singleton.mp (show p ∈ [algebraPoint .core] from (mem_versionPoints.mp listed).1)] at expected
    rw [List.mem_singleton.mp (show level ∈ [CogLevel.understand] from expected)]
    rfl
  weights := by
    intro r listed
    cases (mem_versionRelations.mp listed).1
  ungraded := ungraded
  core := by
    intro p listed
    rw [List.mem_singleton.mp (show p ∈ [algebraPoint .core] from (mem_versionPoints.mp listed).1)]
    rfl

theorem exchange_algebra :
    Recreated (algebraBase none .core) (algebra none) (Db.empty ℚ) ∧
      ImportExact (Db.empty ℚ) (exportKb (algebraBase none .core) (algebra none))
        (exportedContent (algebraBase none .core) (algebra none)) := by
  have settled := exchange_iff (algebraBase_sound none .core) empty_sound (algebra none)
    (exportKb (algebraBase none .core) (algebra none))
  have exportable := algebra_exportable (algebra none) rfl
  refine ⟨(settled.1 ?_).mpr exportable, (settled.2.1 _ ?_).mpr ?_⟩
  · intro w stored
    cases stored
  · exact (describes_exportKb_iff (algebraBase_sound none .core) (algebra none) _).mpr ⟨exportable.toAccepted, rfl⟩
  · intro w found
    cases found

/-- A grade's own version comes back without its grade, and a file with another importance under the same code
    is taken for the stored one. -/
theorem exchange_not_exact :
    ¬ Recreated (algebraBase (some 7) .core) (algebra (some 7)) (Db.empty ℚ) ∧
      Describes (exportKb (algebraBase none .core) (algebra none))
        (exportedContent (algebraBase none .core) (algebra none)) ∧
      ¬ ImportExact (algebraBase none .basic) (exportKb (algebraBase none .core) (algebra none))
        (exportedContent (algebraBase none .core) (algebra none)) := by
  have valid := (describes_exportKb_iff (algebraBase_sound none .core) (algebra none) _).mpr
    ⟨(algebra_exportable (algebra none) rfl).toAccepted, rfl⟩
  refine ⟨?_, valid, ?_⟩
  · rw [recreated_iff (algebraBase_sound (some 7) .core) empty_sound (by intro w stored; cases stored)]
    intro exportable
    cases exportable.ungraded
  · rw [importExact_iff (algebraBase_sound none .basic) valid]
    intro carried
    have same := carried (algebra none) (by decide)
    have equal := List.perm_singleton.mp
      (show [attributes (algebraPoint .basic)].Perm [attributes (algebraPoint .core)] from same.1)
    cases congrArg PointAttributes.importance (List.singleton_inj.mp equal)

end KnowledgeGap.Kb
