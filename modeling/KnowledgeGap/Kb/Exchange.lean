import KnowledgeGap.Kb.Versions

namespace KnowledgeGap.Kb

open Relational

def RelationType.name : RelationType → String
  | .prerequisite => "prerequisite"
  | .contains => "contains"
  | .confusable => "confusable"
  | .spiral => "spiral"

def relationTypes : List RelationType := [.prerequisite, .contains, .confusable, .spiral]

def relationType? (name : String) : Option RelationType :=
  relationTypes.find? (fun t => RelationType.name t == name)

/-- A point without its keys: what a file says about it, and what a copy has to repeat. -/
structure PointAttributes (K : Type) where
  code : String
  name : String
  description : String
  grade : Int
  semester : Int
  chapter : String
  cogLevelsExpected : List CogLevel
  difficultyPrior : K
  masteryFloor : K
  importance : Importance
  archived : Bool
  deriving DecidableEq, Repr

/-- A relation between two points of one version, by their codes. -/
structure Edge (K : Type) where
  source : String
  target : String
  type : RelationType
  weight : K
  deriving DecidableEq, Repr

/-- One entry of `knowledge_points`; a key the file leaves out is `none`. -/
structure PointDoc (K : Type) where
  code : Option String
  name : Option String
  description : Option String
  grade : Option Int
  semester : Option Int
  chapter : Option String
  cogLevelsExpected : Option (List CogLevel)
  difficultyPrior : Option K
  masteryFloor : Option K
  importance : Option Importance
  archived : Option Bool

structure RelationDoc (K : Type) where
  source : Option String
  target : Option String
  type : Option String
  weight : Option K

/-- A knowledge-base file after `yaml.safe_load`. -/
structure KbDoc (K : Type) where
  subject : Option String
  textbookEdition : Option String
  version : Option String
  status : Option KbStatus
  knowledgePoints : List (PointDoc K)
  relations : List (RelationDoc K)

inductive KbImportError
  | keyError (key : String)
  | duplicateCodes (codes : List String)
  | missingField (field : String)
  | illegalCogLevel (level : CogLevel) (code : String)
  | illegalImportance (importance : Importance) (code : String)
  | illegalType (type : String)
  | unknownEndpoint (source target : String)
  | weightOutOfRange (source target : String)
  deriving DecidableEq, Repr

variable {K : Type}

def attributes (p : KnowledgePoint K) : PointAttributes K :=
  ⟨p.code, p.name, p.description, p.grade, p.semester, p.chapter, p.cogLevelsExpected, p.difficultyPrior,
    p.masteryFloor, p.importance, p.archived⟩

def PointAttributes.store (a : PointAttributes K) (kbVersionId id : Nat) : KnowledgePoint K :=
  { id := id, kbVersionId := kbVersionId, code := a.code, name := a.name, description := a.description,
    grade := a.grade, semester := a.semester, chapter := a.chapter,
    cogLevelsExpected := a.cogLevelsExpected, difficultyPrior := a.difficultyPrior,
    masteryFloor := a.masteryFloor, importance := a.importance, archived := a.archived }

theorem PointAttributes.key_store (a : PointAttributes K) (kbVersionId id : Nat) :
    Keyed.key (a.store kbVersionId id) = id := rfl

namespace KbDoc

def subjectOf (doc : KbDoc K) : String := doc.subject.getD "数学"

def editionOf (doc : KbDoc K) : String := doc.textbookEdition.getD "未知"

def versionOf (doc : KbDoc K) : String := doc.version.getD "0.1.0"

def statusOf (doc : KbDoc K) : KbStatus := doc.status.getD .draft

def newVersion (doc : KbDoc K) (id : Nat) : KbVersion where
  id := id
  subject := doc.subjectOf
  grade := none
  textbookEdition := doc.editionOf
  version := doc.versionOf
  status := doc.statusOf

theorem key_newVersion (doc : KbDoc K) (id : Nat) : Keyed.key (doc.newVersion id) = id := rfl

end KbDoc

def legalCogLevel : CogLevel → Bool
  | .other _ => false
  | _ => true

def legalImportance : Importance → Bool
  | .other _ => false
  | _ => true

/-- `codes = [p["code"] for p in points]` -/
def codesOf : List (PointDoc K) → Except KbImportError (List String)
  | [] => .ok []
  | p :: points =>
    match p.code with
    | none => .error (.keyError "code")
    | some code => (codesOf points).map (code :: ·)

def repeated (codes : List String) : List String :=
  stableSort byCode (codes.filter (fun c => decide (1 < codes.count c))).dedup

def storedCodes (db : Db K) (kb : KbVersion) : List String :=
  (KpGraph.versionPoints db kb.id).map KnowledgePoint.code

def sameCodes (have_ want : List String) : Bool :=
  have_.all (fun c => decide (c ∈ want)) && want.all (fun c => decide (c ∈ have_))

/-- The stored versions that go under the file's subject, edition and version number. -/
def namesake (doc : KbDoc K) (kb : KbVersion) : Bool :=
  kb.subject == doc.subjectOf && kb.textbookEdition == doc.editionOf && kb.version == doc.versionOf

def alreadyImported (db : Db K) (doc : KbDoc K) (codes : List String) : Option KbVersion :=
  (db.kbVersions.select (namesake doc)).find? (fun kb => sameCodes (storedCodes db kb) codes)

section
variable [Field K]

/-- `_validate_point`, and the point with the defaults of the keys it leaves out. -/
def validatePoint (p : PointDoc K) : Except KbImportError (PointAttributes K) :=
  match p.code, p.name, p.grade with
  | none, _, _ => .error (.missingField "code")
  | _, none, _ => .error (.missingField "name")
  | _, _, none => .error (.missingField "grade")
  | some code, some name, some grade =>
    match (p.cogLevelsExpected.getD []).find? (fun level => !legalCogLevel level) with
    | some level => .error (.illegalCogLevel level code)
    | none =>
      if legalImportance (p.importance.getD .core) then
        .ok { code := code
              name := name
              description := p.description.getD ""
              grade := grade
              semester := p.semester.getD 0
              chapter := p.chapter.getD ""
              cogLevelsExpected := p.cogLevelsExpected.getD []
              difficultyPrior := p.difficultyPrior.getD (ratio 5 10)
              masteryFloor := p.masteryFloor.getD (defaultMasteryFloor K)
              importance := p.importance.getD .core
              archived := p.archived.getD false }
      else .error (.illegalImportance (p.importance.getD .core) code)

def importPoints (kbVersionId : Nat) : Table (KnowledgePoint K) → Dict String Nat → List (PointDoc K) →
    Table (KnowledgePoint K) × Except KbImportError (Dict String Nat)
  | t, codeToId, [] => (t, .ok codeToId)
  | t, codeToId, p :: points =>
    match validatePoint p with
    | .error e => (t, .error e)
    | .ok a => importPoints kbVersionId (t.insert (a.store kbVersionId) (a.key_store kbVersionId))
        (codeToId.set a.code t.nextId) points

variable [LinearOrder K]

/-- The checks of one entry of `relations`, and the ends it joins. -/
def validateRelation (codeToId : Dict String Nat) (r : RelationDoc K) :
    Except KbImportError (KpRelation K) :=
  match r.type with
  | none => .error (.keyError "type")
  | some name =>
    match relationType? name with
    | none => .error (.illegalType name)
    | some type =>
      match r.source, r.target with
      | none, _ => .error (.keyError "from")
      | _, none => .error (.keyError "to")
      | some source, some target =>
        match codeToId.get? source, codeToId.get? target with
        | some a, some b =>
          let weight := r.weight.getD 1
          if 0 ≤ weight ∧ weight ≤ 1 then .ok ⟨0, a, b, type, weight⟩
          else .error (.weightOutOfRange source target)
        | _, _ => .error (.unknownEndpoint source target)

def importRelations (codeToId : Dict String Nat) : Table (KpRelation K) → List (RelationDoc K) →
    Table (KpRelation K) × Except KbImportError Unit
  | t, [] => (t, .ok ())
  | t, r :: relations =>
    match validateRelation codeToId r with
    | .error e => (t, .error e)
    | .ok rel => importRelations codeToId (t.insert (KpRelation.filed rel) (key_filed rel)) relations

/-- The database as the session holds it when the call returns or raises; nothing is undone here. -/
def importKb (db : Db K) (doc : KbDoc K) : Db K × Except KbImportError Nat :=
  match codesOf doc.knowledgePoints with
  | .error e => (db, .error e)
  | .ok codes =>
    if repeated codes ≠ [] then (db, .error (.duplicateCodes (repeated codes)))
    else
      match alreadyImported db doc codes with
      | some kb => (db, .ok kb.id)
      | none =>
        let id := db.kbVersions.nextId
        let db := { db with kbVersions := db.kbVersions.insert doc.newVersion doc.key_newVersion }
        match importPoints id db.knowledgePoints Dict.empty doc.knowledgePoints with
        | (points, .error e) => ({ db with knowledgePoints := points }, .error e)
        | (points, .ok codeToId) =>
          match importRelations codeToId db.relations doc.relations with
          | (relations, .error e) => ({ db with knowledgePoints := points, relations := relations }, .error e)
          | (relations, .ok _) => ({ db with knowledgePoints := points, relations := relations }, .ok id)

/-- The request's session: a call that raises is rolled back as a whole. -/
def rolledBack (db : Db K) (result : Db K × Except KbImportError Nat) : Db K :=
  match result with
  | (after, .ok _) => after
  | (_, .error _) => db

end

def exportPoint (kp : KnowledgePoint K) : PointDoc K where
  code := some kp.code
  name := some kp.name
  description := some kp.description
  grade := some kp.grade
  semester := some kp.semester
  chapter := some kp.chapter
  cogLevelsExpected := some kp.cogLevelsExpected
  difficultyPrior := some kp.difficultyPrior
  masteryFloor := some kp.masteryFloor
  importance := none
  archived := if kp.archived then some true else none

/-- The relation as seen inside one version; `none` when an end lies outside. -/
def edgeOf (idToCode : Dict Nat String) (rel : KpRelation K) : Option (Edge K) :=
  match idToCode.get? rel.fromKpId, idToCode.get? rel.toKpId with
  | some source, some target => some ⟨source, target, rel.type, rel.weight⟩
  | _, _ => none

def exportRelation (edge : Edge K) : RelationDoc K :=
  ⟨some edge.source, some edge.target, some (RelationType.name edge.type), some edge.weight⟩

def byPointCode (a b : KnowledgePoint K) : Bool := byCode a.code b.code

/-- The file without `is_container`, which no reader of it looks at. -/
def exportKb (db : Db K) (kb : KbVersion) : KbDoc K :=
  let kps := stableSort byPointCode (KpGraph.versionPoints db kb.id)
  let idToCode := Dict.ofList (kps.map (fun kp => (kp.id, kp.code)))
  { subject := some kb.subject
    textbookEdition := some kb.textbookEdition
    version := some kb.version
    status := some kb.status
    knowledgePoints := kps.map exportPoint
    relations := ((stableSort byRelationId db.relations.rows).filterMap (edgeOf idToCode)).map exportRelation }

end KnowledgeGap.Kb
