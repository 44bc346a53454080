import KnowledgeGap.Kb.Graph
import KnowledgeGap.Pipeline.Mastery
import KnowledgeGap.Pipeline.Weakness

namespace KnowledgeGap.Kb.Editing

open Relational

inductive KbEditError
  | notFound (detail : String)
  | confirmRequired (detail : String)
  | refused (detail : String)
  deriving DecidableEq, Repr

inductive EditFailure
  | edit (error : KbEditError)
  | http (status : Nat) (detail : String)
  /-- What the database turns down. -/
  | integrityError
  deriving DecidableEq, Repr

def CogLevel.known : CogLevel → Bool
  | .other _ => false
  | _ => true

def Importance.known : Importance → Bool
  | .other _ => false
  | _ => true

def CogLevel.text : CogLevel → String
  | .recall => "识记"
  | .understand => "理解"
  | .apply => "应用"
  | .synthesize => "综合"
  | .other name => name

def Importance.text : Importance → String
  | .basic => "基础"
  | .core => "核心"
  | .extended => "拓展"
  | .other name => name

/-- `_validate_cog` -/
def validateCog (cogLevels : List CogLevel) : Except KbEditError Unit :=
  match cogLevels.find? (fun level => !CogLevel.known level) with
  | some level => .error (.refused ("非法认知层级: " ++ CogLevel.text level))
  | none => .ok ()

def validateImportance (importance : Importance) : Except KbEditError Unit :=
  if Importance.known importance then .ok ()
  else .error (.refused ("非法重要度: " ++ Importance.text importance ++ "（基础/核心/拓展）"))

variable {K : Type}

/-- `code.startswith("C")` -/
def reservedCode (code : String) : Bool := code.startsWith "C"

structure KpDraft (K : Type) where
  kbVersionId : Nat
  code : String
  name : String
  grade : Int
  chapter : String
  semester : Int
  description : String
  cogLevelsExpected : List CogLevel
  difficultyPrior : K
  masteryFloor : K
  importance : Importance
  deriving DecidableEq, Repr

def KpDraft.point (d : KpDraft K) (id : Nat) : KnowledgePoint K where
  id := id
  kbVersionId := d.kbVersionId
  code := d.code
  name := d.name
  description := d.description
  grade := d.grade
  semester := d.semester
  chapter := d.chapter
  cogLevelsExpected := d.cogLevelsExpected
  difficultyPrior := d.difficultyPrior
  masteryFloor := d.masteryFloor
  importance := d.importance
  archived := false

theorem KpDraft.point_key (d : KpDraft K) (id : Nat) : Keyed.key (d.point id) = id := rfl

/-- `uq_kb_code` and the reference to the version hold for the new row. -/
def insertable (db : Db K) (d : KpDraft K) : Bool :=
  (db.kbVersions.get? d.kbVersionId).isSome &&
    (db.knowledgePoints.select (fun p => p.kbVersionId == d.kbVersionId && p.code == d.code)).isEmpty

def createKp (db : Db K) (d : KpDraft K) : Db K × Except EditFailure (KnowledgePoint K) :=
  match validateCog d.cogLevelsExpected with
  | .error e => (db, .error (.edit e))
  | .ok _ =>
    if reservedCode d.code then (db, .error (.edit (.refused "C 前缀保留给容器节点，新建知识点不可使用")))
    else
      match validateImportance d.importance with
      | .error e => (db, .error (.edit e))
      | .ok _ =>
        if insertable db d then
          ({ db with knowledgePoints := db.knowledgePoints.insert d.point d.point_key },
            .ok (d.point db.knowledgePoints.nextId))
        else (db, .error (.edit (.refused ("知识点编码 " ++ d.code ++ " 在当前版本已存在"))))

/-! Changes of attributes. -/

/-- `_UPDATE_FIELDS`, each given or not. -/
structure KpChanges (K : Type) where
  name : Option String
  description : Option String
  chapter : Option String
  semester : Option Int
  cogLevelsExpected : Option (List CogLevel)
  difficultyPrior : Option K
  masteryFloor : Option K
  importance : Option Importance
  archived : Option Bool
  deriving DecidableEq, Repr

def KpChanges.none : KpChanges K := ⟨.none, .none, .none, .none, .none, .none, .none, .none, .none⟩

/-- `setattr` for each field given. -/
def KpChanges.apply (c : KpChanges K) (p : KnowledgePoint K) : KnowledgePoint K where
  id := p.id
  kbVersionId := p.kbVersionId
  code := p.code
  name := c.name.getD p.name
  description := c.description.getD p.description
  grade := p.grade
  semester := c.semester.getD p.semester
  chapter := c.chapter.getD p.chapter
  cogLevelsExpected := c.cogLevelsExpected.getD p.cogLevelsExpected
  difficultyPrior := c.difficultyPrior.getD p.difficultyPrior
  masteryFloor := c.masteryFloor.getD p.masteryFloor
  importance := c.importance.getD p.importance
  archived := c.archived.getD p.archived

theorem KpChanges.apply_key (c : KpChanges K) (p : KnowledgePoint K) : Keyed.key (c.apply p) = Keyed.key p := rfl

/-- One of the two fields an impact is estimated for. -/
def KpChanges.hiLever (c : KpChanges K) : Bool := c.masteryFloor.isSome || c.difficultyPrior.isSome

def KpChanges.isEmpty (c : KpChanges K) : Bool :=
  c.name.isNone && c.description.isNone && c.chapter.isNone && c.semester.isNone && c.cogLevelsExpected.isNone &&
    c.difficultyPrior.isNone && c.masteryFloor.isNone && c.importance.isNone && c.archived.isNone

def KpChanges.validate (c : KpChanges K) : Except KbEditError Unit :=
  if c.isEmpty then .error (.refused "未提供任何修改字段")
  else
    match validateCog (c.cogLevelsExpected.getD []) with
    | .error e => .error e
    | .ok _ =>
      match c.importance with
      | .none => .ok ()
      | .some importance => validateImportance importance

structure FloorCount (K : Type) where
  weakCount : Nat
  floor : K
  deriving DecidableEq, Repr

structure FloorImpact (K : Type) where
  current : FloorCount K
  projected : FloorCount K
  delta : Int
  note : Option String
  deriving DecidableEq, Repr

inductive Impact (K : Type)
  | preview (impact : FloorImpact K)
  | applied (count : Option (FloorCount K))
  deriving DecidableEq, Repr

section
variable [Field K] [LinearOrder K] [FloorRing K] (cfg : Config K)

/-- `weak_count_for_kp`, at the end of the day. -/
def weakCountForKp (db : Db K) (kpId : Nat) (floor : K) (today : Date) : Nat :=
  (((db.events.select (fun e => e.kpId == kpId)).map EvidenceEvent.studentId).dedup).countP
    (fun sid => (masteryAt cfg db sid kpId (dayEnd today)).any (fun m => decide (m < floor)))

def floorImpact (db : Db K) (kpId : Nat) (currentFloor projectedFloor : K) (today : Date) : FloorImpact K :=
  let cur := weakCountForKp cfg db kpId currentFloor today
  let proj := weakCountForKp cfg db kpId projectedFloor today
  ⟨⟨cur, roundTo 4 currentFloor⟩, ⟨proj, roundTo 4 projectedFloor⟩, (proj : Int) - cur, none⟩

/-- `update_kp`: the database after it, the point and the impact. -/
def updateKp (db : Db K) (kpId : Nat) (preview : Bool) (c : KpChanges K) (today : Date) :
    Db K × Except EditFailure (KnowledgePoint K × Impact K) :=
  match db.knowledgePoints.get? kpId with
  | none => (db, .error (.edit (.notFound "知识点不存在")))
  | some p =>
    match c.validate with
    | .error e => (db, .error (.edit e))
    | .ok _ =>
      let newFloor := c.masteryFloor.getD p.masteryFloor
      if preview && c.hiLever then
        let impact := floorImpact cfg db kpId p.masteryFloor newFloor today
        let note := if c.difficultyPrior.isSome && c.masteryFloor.isNone
          then some "difficulty_prior 当前未参与掌握度计算，无即时影响" else none
        (db, .ok (p, .preview { impact with note := note }))
      else
        let db := { db with knowledgePoints := db.knowledgePoints.modify kpId c.apply c.apply_key }
        let count := if c.hiLever then some ⟨weakCountForKp cfg db kpId newFloor today, roundTo 4 newFloor⟩ else none
        (db, .ok (c.apply p, .applied count))

end

/-! Archiving and deleting. -/

def evidenceRefs (db : Db K) (kpId : Nat) : Nat := db.events.rowcount (fun e => e.kpId == kpId)

def questionRefs (db : Db K) (kpId : Nat) : Nat := db.questionKps.rowcount (fun t => t.kpId == kpId)

def progressRefs (db : Db K) (kpId : Nat) : Nat := db.progress.rowcount (fun r => r.kpId == kpId)

def attributionRefs (db : Db K) (kpId : Nat) : Nat :=
  db.attributions.rowcount (fun a => a.kpId == kpId || a.rootKpId == some kpId)

def interventionRefs (db : Db K) (kpId : Nat) : Nat := db.interventions.rowcount (fun r => r.kpId == kpId)

def studyRefs (db : Db K) (kpId : Nat) : Nat := db.studyRecords.rowcount (fun r => r.kpId == kpId)

def relationRefs (db : Db K) (kpId : Nat) : Nat :=
  db.relations.rowcount (fun r => r.fromKpId == kpId || r.toKpId == kpId)

def taskRefs (db : Db K) (kpId : Nat) : Nat := db.diagnosticTasks.rowcount (fun t => t.kpId == kpId)

def blockingRefs (db : Db K) (kpId : Nat) : Nat :=
  evidenceRefs db kpId + questionRefs db kpId + attributionRefs db kpId + interventionRefs db kpId + studyRefs db kpId

/-- A row with a foreign key on the point, in any of the tables that have one. -/
def refersTo (db : Db K) (kpId : Nat) : Bool :=
  decide (0 < relationRefs db kpId + progressRefs db kpId + taskRefs db kpId + questionRefs db kpId + evidenceRefs db kpId +
    attributionRefs db kpId + interventionRefs db kpId + studyRefs db kpId)

inductive KpDeletion
  | hard (kpId : Nat)
  | archived (evidenceRefs questionRefs progressRefs progressCleared : Nat)
  deriving DecidableEq, Repr

def clearRelations (db : Db K) (kpId : Nat) : Db K :=
  { db with relations := db.relations.deleteWhere (fun r => r.fromKpId == kpId || r.toKpId == kpId) }

def clearProgress (db : Db K) (kpId : Nat) : Db K :=
  { db with progress := db.progress.deleteWhere (fun r => r.kpId == kpId) }

def archive (p : KnowledgePoint K) : KnowledgePoint K := { p with archived := true }

theorem archive_key (p : KnowledgePoint K) : Keyed.key (archive p) = Keyed.key p := rfl

/-- `session.delete(kp)`, with `PRAGMA foreign_keys=ON`. -/
def deletePoint (db : Db K) (kpId : Nat) : Except EditFailure (Db K) :=
  if refersTo db kpId then .error .integrityError
  else .ok { db with knowledgePoints := db.knowledgePoints.deleteWhere (fun p => p.id == kpId) }

def blockedText (db : Db K) (kpId : Nat) : String :=
  "该知识点被 " ++ toString (evidenceRefs db kpId) ++ " 条证据、" ++ toString (questionRefs db kpId) ++ " 道题标注、" ++
    toString (attributionRefs db kpId) ++ " 条归因、" ++ toString (interventionRefs db kpId) ++ " 条干预、" ++
    toString (studyRefs db kpId) ++ " 条学习方案引用，不可硬删"

def confirmText (db : Db K) (kpId : Nat) : String :=
  "该知识点被 " ++ toString (questionRefs db kpId) ++ " 道题标注，归档后这些题目的知识点分析将缺失。确认归档请带 confirm=true"

/-- A failure leaves the database as it was: the errors come before the first write, and a flush that fails is rolled
    back with its transaction. -/
def deleteKp (db : Db K) (kpId : Nat) (force confirm : Bool) : Db K × Except EditFailure KpDeletion :=
  match db.knowledgePoints.get? kpId with
  | none => (db, .error (.edit (.notFound "知识点不存在")))
  | some p =>
    if reservedCode p.code then (db, .error (.edit (.refused "容器节点不可删除/归档，仅可改名")))
    else if force then
      if 0 < blockingRefs db kpId then (db, .error (.edit (.refused (blockedText db kpId))))
      else
        match deletePoint (clearProgress (clearRelations db kpId) kpId) kpId with
        | .error e => (db, .error e)
        | .ok after => (after, .ok (.hard kpId))
    else if 0 < questionRefs db kpId && !confirm then (db, .error (.edit (.confirmRequired (confirmText db kpId))))
    else
      let cleared := clearProgress db kpId
      ({ cleared with knowledgePoints := cleared.knowledgePoints.modify kpId archive archive_key },
        .ok (.archived (evidenceRefs db kpId) (questionRefs db kpId) (progressRefs db kpId) (progressRefs db kpId)))

/-! Progress and tags. -/

def progressRow (classId kpId : Nat) (taughtAt : Date) (id : Nat) : TeachingProgress := ⟨id, classId, kpId, taughtAt⟩

theorem progressRow_key (classId kpId : Nat) (taughtAt : Date) (id : Nat) :
    Keyed.key (progressRow classId kpId taughtAt id) = id := rfl

/-- The points a request marks as taught that the class has no row for; rows of the same request do not count yet. -/
def newlyTaught (db : Db K) (g : KpGraph K) (classId : Nat) : List String → Except EditFailure (List Nat)
  | [] => .ok []
  | code :: codes =>
    match (g.code? code).bind g.find? with
    | none => .error (.http 400 ("知识点编码不存在: " ++ code))
    | some p =>
      if p.archived then .error (.http 400 ("知识点 " ++ code ++ " 已归档，不可标记教学进度"))
      else
        (newlyTaught db g classId codes).map fun ids =>
          if (db.progress.select (fun r => r.classId == classId && r.kpId == p.id)).isEmpty then p.id :: ids else ids

def insertProgress (t : Table TeachingProgress) (classId : Nat) (taughtAt : Date) (ids : List Nat) : Table TeachingProgress :=
  ids.foldl (fun t kpId => t.insert (progressRow classId kpId taughtAt) (progressRow_key classId kpId taughtAt)) t

/-- `update_progress`; `kb` is what the guard and the choice of the active version answer. -/
def updateProgress (db : Db K) (classId : Nat) (kb : Except EditFailure Nat) (kpCodes : List String) (taughtAt : Date) :
    Db K × Except EditFailure Nat :=
  match kb with
  | .error e => (db, .error e)
  | .ok kbVersionId =>
    match newlyTaught db (KpGraph.load db kbVersionId) classId kpCodes with
    | .error e => (db, .error e)
    | .ok ids =>
      if ids.Nodup ∧ (ids = [] ∨ (db.classes.get? classId).isSome) then
        ({ db with progress := insertProgress db.progress classId taughtAt ids }, .ok ids.length)
      else (db, .error .integrityError)

def tagRow (questionId kpId : Nat) (weight : K) (id : Nat) : QuestionKp K := ⟨id, questionId, kpId, weight⟩

theorem tagRow_key (questionId kpId : Nat) (weight : K) (id : Nat) : Keyed.key (tagRow questionId kpId weight id) = id := rfl

def resolveTags (g : KpGraph K) (tags : List (String × K)) : Except EditFailure (List (KnowledgePoint K × K)) :=
  tags.mapM fun tag =>
    match (g.code? tag.1).bind g.find? with
    | none => .error (.http 400 ("知识点编码不存在: " ++ tag.1))
    | some p => .ok (p, tag.2)

def replaceTags (t : Table (QuestionKp K)) (questionId : Nat) (tags : List (KnowledgePoint K × K)) : Table (QuestionKp K) :=
  tags.foldl (fun t tag => t.insert (tagRow questionId tag.1.id tag.2) (tagRow_key questionId tag.1.id tag.2))
    (t.deleteWhere (fun tag => tag.templateQuestionId == questionId))

/-- `update_question_tags`; `guard` and `kb` are what the guard and the choice of the active version answer. -/
def updateQuestionTags (db : Db K) (questionId : Nat) (guard : Except EditFailure Unit) (kb : Except EditFailure Nat)
    (tags : List (String × K)) : Db K × Except EditFailure (List String) :=
  match db.questions.get? questionId with
  | none => (db, .error (.http 404 "题目不存在"))
  | some q =>
    match guard with
    | .error e => (db, .error e)
    | .ok _ =>
      if 0 < db.responses.rowcount (fun r => r.examTemplateId == q.examTemplateId && decide (r.status = .submitted)) then
        (db, .error (.http 400 "该考试已有已提交作答，改标会使已派生证据失效；请以补录考试处理"))
      else
        match kb with
        | .error e => (db, .error e)
        | .ok kbVersionId =>
          match resolveTags (KpGraph.load db kbVersionId) tags with
          | .error e => (db, .error e)
          | .ok resolved =>
            if (resolved.map (fun tag => tag.1.id)).Nodup then
              ({ db with questionKps := replaceTags db.questionKps questionId resolved },
                .ok (stableSort (fun a b => decide (a ≤ b)) (resolved.map (fun tag => tag.1.code))))
            else (db, .error .integrityError)

end KnowledgeGap.Kb.Editing
