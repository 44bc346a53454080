import KnowledgeGap.Data.Config
import KnowledgeGap.Kb.Graph
import KnowledgeGap.Relational.Dict
import KnowledgeGap.Relational.Upsert

namespace KnowledgeGap.Kb

open Relational

/-- What a deployment fixes for the knowledge base: `SC_KB_STRICT_ACTIVE` and the security mode. -/
structure Deployment where
  strictActive : Bool
  securityMode : Bool
  deriving DecidableEq, Repr

structure KbNotActiveError where
  subject : Option String
  grade : Option Int
  deriving DecidableEq, Repr

def ofSubject (subject : Option String) (v : KbVersion) : Bool := subject.all (fun s => v.subject == s)

/-- The newest of the candidates: for a grade, the newest of that grade before the newest of no grade. -/
def newestFor (grade : Option Int) (candidates : List KbVersion) : Option KbVersion :=
  match grade with
  | some g =>
    (latest KbVersion.id (candidates.filter (fun v => decide (v.grade = some g)))).or
      (latest KbVersion.id (candidates.filter (fun v => decide (v.grade = none))))
  | none => latest KbVersion.id candidates

def isActive (v : KbVersion) : Bool := decide (v.status = .active)

def activeKb (env : Deployment) (versions : Table KbVersion) (subject : Option String) (grade : Option Int) :
    Except KbNotActiveError (Option KbVersion) :=
  match newestFor grade (versions.select (fun v => isActive v && ofSubject subject v)) with
  | some kb => .ok (some kb)
  | none =>
    if env.strictActive then .error ⟨subject, grade⟩
    else .ok (newestFor grade (versions.select (ofSubject subject)))

def withStatus (status : KbStatus) (v : KbVersion) : KbVersion := { v with status := status }

theorem key_withStatus (status : KbStatus) (v : KbVersion) : Keyed.key (withStatus status v) = Keyed.key v := rfl

def setStatus (versions : Table KbVersion) (id : Nat) (status : KbStatus) : Table KbVersion :=
  versions.modify id (withStatus status) (key_withStatus status)

variable {K : Type}

def kpsByCode (db : Db K) (kb : KbVersion) : Dict String (KnowledgePoint K) :=
  Dict.ofList ((KpGraph.versionPoints db kb.id).map (fun p => (p.code, p)))

inductive SensitiveField
  | masteryFloor
  | difficultyPrior
  | archived
  deriving DecidableEq, Repr

inductive FieldValue (K : Type)
  | number (value : K)
  | flag (value : Bool)
  deriving DecidableEq, Repr

def SensitiveField.read (p : KnowledgePoint K) : SensitiveField → FieldValue K
  | .masteryFloor => .number p.masteryFloor
  | .difficultyPrior => .number p.difficultyPrior
  | .archived => .flag p.archived

def sensitiveFields : List SensitiveField := [.masteryFloor, .difficultyPrior, .archived]

structure AttributeChange (K : Type) where
  code : String
  field : SensitiveField
  old : FieldValue K
  new : FieldValue K
  deriving DecidableEq, Repr

structure Compatibility (K : Type) where
  missingCodes : List String
  newCodes : List String
  attributeChanges : List (AttributeChange K)

def byCode (a b : String) : Bool := decide (a ≤ b)

section
variable [DecidableEq K]

def fieldChanges (code : String) (a t : KnowledgePoint K) : List (AttributeChange K) :=
  sensitiveFields.filterMap (fun field =>
    if field.read a = field.read t then none else some ⟨code, field, field.read a, field.read t⟩)

def compatibility (db : Db K) (active target : KbVersion) : Compatibility K :=
  let activeKps := kpsByCode db active
  let targetKps := kpsByCode db target
  { missingCodes := stableSort byCode (activeKps.keys.filter (fun c => decide (c ∉ targetKps.keys)))
    newCodes := stableSort byCode (targetKps.keys.filter (fun c => decide (c ∉ activeKps.keys)))
    attributeChanges := activeKps.entries.flatMap (fun e =>
      match targetKps.get? e.1 with
      | some t => fieldChanges e.1 e.2 t
      | none => []) }

inductive KbEditError
  | alreadyActive
  | missingCodes (codes : List String)
  | confirmRequired (changes : Nat)
  deriving DecidableEq, Repr

/-- The endpoint's answer to an activation. -/
structure Activation (K : Type) where
  id : Nat
  switchedFrom : Option Nat
  missingCodesAccepted : List String
  attributeChangesAccepted : List (AttributeChange K)

def activateKbVersion (db : Db K) (target : KbVersion) (active : Option KbVersion) (force confirm : Bool) :
    Except KbEditError (Table KbVersion × Activation K) :=
  if target.status = .active then .error .alreadyActive
  else
    match active with
    | none => .ok (setStatus db.kbVersions target.id .active, ⟨target.id, none, [], []⟩)
    | some replaced =>
      let comp := compatibility db replaced target
      if comp.missingCodes ≠ [] ∧ force = false then .error (.missingCodes comp.missingCodes)
      else if comp.attributeChanges ≠ [] ∧ confirm = false then
        .error (.confirmRequired comp.attributeChanges.length)
      else
        .ok (setStatus (setStatus db.kbVersions replaced.id .reviewed) target.id .active,
          ⟨target.id, some replaced.id, comp.missingCodes, comp.attributeChanges⟩)

end

/-- A forked version, with the column default for what the constructor call leaves out. -/
def forkedVersion (src : KbVersion) (id : Nat) : KbVersion where
  id := id
  subject := src.subject
  grade := none
  textbookEdition := src.textbookEdition
  version := src.version ++ "-fork"
  status := .draft

theorem key_forkedVersion (src : KbVersion) (id : Nat) : Keyed.key (forkedVersion src id) = id := rfl

def forkedPoint (kbVersionId : Nat) (kp : KnowledgePoint K) (id : Nat) : KnowledgePoint K where
  id := id
  kbVersionId := kbVersionId
  code := kp.code
  name := kp.name
  description := kp.description
  grade := kp.grade
  semester := kp.semester
  chapter := kp.chapter
  cogLevelsExpected := kp.cogLevelsExpected
  difficultyPrior := kp.difficultyPrior
  masteryFloor := kp.masteryFloor
  importance := .core
  archived := kp.archived

theorem key_forkedPoint (kbVersionId : Nat) (kp : KnowledgePoint K) (id : Nat) :
    Keyed.key (forkedPoint kbVersionId kp id) = id := rfl

/-- `id_map`: where the fork files the points of its source. -/
def forkIds (db : Db K) (src : KbVersion) : Dict Nat Nat :=
  Dict.ofList ((KpGraph.versionPoints db src.id).mapIdx (fun n kp => (kp.id, db.knowledgePoints.nextId + n)))

def byRelationId (a b : KpRelation K) : Bool := decide (a.id ≤ b.id)

def forkedRelation (ids : Dict Nat Nat) (rel : KpRelation K) : Option (KpRelation K) :=
  match ids.get? rel.fromKpId, ids.get? rel.toKpId with
  | some a, some b => some { rel with fromKpId := a, toKpId := b }
  | _, _ => none

def KpRelation.filed (rel : KpRelation K) (id : Nat) : KpRelation K := { rel with id := id }

theorem key_filed (rel : KpRelation K) (id : Nat) : Keyed.key (KpRelation.filed rel id) = id := rfl

def forkKbVersion (db : Db K) (src : KbVersion) : Db K × KbVersion :=
  let new := forkedVersion src db.kbVersions.nextId
  ({ db with
    kbVersions := db.kbVersions.insert (forkedVersion src) (key_forkedVersion src)
    knowledgePoints := db.knowledgePoints.insertAll (forkedPoint new.id) (key_forkedPoint new.id)
      (KpGraph.versionPoints db src.id)
    relations := db.relations.insertAll KpRelation.filed key_filed
      ((stableSort byRelationId db.relations.rows).filterMap (forkedRelation (forkIds db src))) }, new)

end KnowledgeGap.Kb
