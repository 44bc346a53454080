import KnowledgeGap.Ingestion.Photo
import KnowledgeGap.Pipeline.Weakness

namespace KnowledgeGap.Diagnosis

open Relational Ingestion

/-- Columns beside the tables, by the key of their row. A column of floats may hold a value that is no finite number. -/
structure Columns where
  classSubject : Nat → String
  examSubject : Nat → Option String
  examName : Nat → String
  scoreFinite : Nat → Bool
  subItems : Nat → Option String
  weightFinite : Nat → Bool
  reviewedAt : Nat → Option DateTime

structure Papers (K : Type) where
  db : Db K
  columns : Columns

inductive DiagnosisError
  | unknownPoint
  | notNeeded
  | noAttribution
  | notDirectional
  | foreignRoot
  | keyError
  | badDate
  | changed
  deriving DecidableEq, Repr

def DiagnosisError.text : DiagnosisError → String
  | .unknownPoint => "知识点不存在或不属于当前学科年级"
  | .notNeeded => "该点当前不需要补证据，未学到的知识点不安排诊断"
  | .noAttribution => "归因不存在、已被否决或不属于该学生与知识点"
  | .notDirectional => "数据不足不是方向性归因，请使用补证据任务"
  | .foreignRoot => "前置根源不属于当前知识库，需重新分析归因"
  | .keyError => ""
  | .badDate => "诊断日期须在今天至未来 90 天内"
  | .changed => "题源不足或预览已变化，请重新预览后确认"

structure Slot where
  kpId : Nat
  purpose : String
  levels : List CogLevel
  deriving DecidableEq, Repr

section
variable (K : Type)

structure QuestionView where
  id : Nat
  stem : String
  fullScore : K
  cogLevel : CogLevel
  examId : Nat
  examName : String
  questionIdx : Int
  deriving DecidableEq, Repr

structure SlotView where
  kpId : Nat
  kpName : String
  purpose : String
  question : Option (QuestionView K)
  deriving DecidableEq, Repr

structure Preview where
  studentId : Nat
  kpId : Nat
  kpName : String
  subject : String
  mode : DiagnosticMode
  attributionId : Option Nat
  slots : List (SlotView K)
  ready : Bool
  guidance : String
  limitation : String
  deriving DecidableEq, Repr

/-- What the token binds of a question beside the preview. -/
structure Content where
  id : Nat
  stem : String
  qType : QuestionType
  fullScore : K
  cogLevel : CogLevel
  difficultyEst : K
  nOptions : Option Nat
  subItems : Option String
  kpId : Nat
  weight : K
  reviewedAt : DateTime
  deriving DecidableEq, Repr

structure Blueprint where
  preview : Preview K
  previewToken : String
  deriving DecidableEq, Repr

end

variable {K : Type}

def concept : List CogLevel := [.recall, .understand]

def application : List CogLevel := [.apply, .synthesize]

def foundation : List CogLevel := [.recall, .understand, .apply]

/-- The partner the attribution names, or else the first one of the graph. -/
def contrastPartner (db : Db K) (g : KpGraph K) (att : Attribution K) : Option Nat :=
  let partners := g.confusablePartners att.kpId
  let codes := att.evidence.filterMap (fun item => match item with
    | .confusedWith code _ _ => some code
    | _ => none)
  let recorded := partners.filter (fun pid => (g.kp? db pid).any (fun kp => kp.code ∈ codes))
  (stableSort (fun a b => decide (a ≤ b)) (if recorded.isEmpty then partners else recorded)).head?

/-- Stems with their blanks at either end taken off. -/
def answeredStems (db : Db K) (studentId : Nat) : List String :=
  (db.questions.select (fun q => db.answers.rows.any (fun a => a.templateQuestionId == q.id &&
    (db.responses.get? a.examResponseId).any (fun r => r.studentId == studentId)))).map (fun q => strip q.stem)

def questionTags (db : Db K) (questionId : Nat) : List (QuestionKp K) :=
  db.questionKps.select (fun t => t.templateQuestionId == questionId)

def byDateDescThenId (a b : TemplateQuestion K × ExamTemplate) : Bool :=
  lexicographic (fun a b => decide (b.2.examDate ≤ a.2.examDate)) (fun a b => decide (a.1.id ≤ b.1.id)) a b

def candidates (papers : Papers K) (student : Student) (subject : String) (asOf : DateTime) :
    List (TemplateQuestion K × ExamTemplate) :=
  let open_ := subject == papers.columns.classSubject student.classId
  let listed := papers.db.questions.rows.filterMap (fun q => (papers.db.templates.get? q.examTemplateId).bind (fun e =>
    if e.classId = student.classId ∧ e.source ≠ .diagnosticTask ∧ e.examDate ≤ dateOf asOf ∧
        (papers.columns.examSubject e.id = some subject ∨ (open_ = true ∧ papers.columns.examSubject e.id = none)) then
      some (q, e)
    else none))
  stableSort byDateDescThenId listed

/-- The content behind a slot. -/
def contentOf (papers : Papers K) (slot : SlotView K) : Option (Content K) :=
  slot.question.bind (fun view => (papers.db.questions.get? view.id).bind (fun q => (questionTags papers.db q.id).head?.bind (fun tag =>
    (papers.columns.reviewedAt tag.id).map (fun reviewed => ⟨q.id, q.stem, q.qType, q.fullScore, q.cogLevel, q.difficultyEst,
      q.nOptions, papers.columns.subItems q.id, tag.kpId, tag.weight, reviewed⟩))))

def limitation : String := "现有题源未必提供完整题面与答案，请教师预览原卷、确认适用后建卷。已作答题及相同题干不会重复选用。"

section
variable [Field K] [LinearOrder K]

def slotsFor [FloorRing K] (cfg : Config K) (db : Db K) (g : KpGraph K) (student : Student) (kpId : Nat) (mode : DiagnosticMode)
    (attributionId : Option Nat) (asOf : DateTime) : Except DiagnosisError (List Slot × String) :=
  if kpId ∉ g.gradeKpIds (classGrade db student.classId) then .error .unknownPoint
  else
    match mode with
    | .evidence =>
      match (assessStudentKps cfg db g student.id student.classId asOf none).find? (fun a => a.kpId == kpId) with
      | none => .error .notNeeded
      | some a =>
        if a.gate ≠ some .insufficient then .error .notNeeded
        else
          let n := max 1 (min 3 (cfg.minEvidenceCount - a.evidenceCount))
          .ok (⟨kpId, "理解检查", concept⟩ :: List.replicate (n - 1) ⟨kpId, "独立应用", application⟩,
            "补充独立作答后重新评估；题数达到门槛不保证足够判定。")
    | .attribution =>
      match attributionId.bind db.attributions.get? with
      | none => .error .noAttribution
      | some att =>
        if att.studentId ≠ student.id ∨ att.kpId ≠ kpId ∨ att.status ≠ .active then .error .noAttribution
        else
          let target : Slot := ⟨kpId, "目标概念检查", concept⟩
          let use : Slot := ⟨kpId, "目标独立应用", application⟩
          match att.type with
          | .insufficient => .error .notDirectional
          | .prereq =>
            match att.rootKpId.filter (fun root => decide (root ∈ g.kpIds)) with
            | none => .error .foreignRoot
            | some root =>
              .ok ([⟨root, "前置基础检查", foundation⟩, use], "对照前置基础与目标应用的失分；表现仅用于核对前置缺陷假设。")
          | .confusable =>
            let contrast := (contrastPartner db g att).toList.map (fun partner => ⟨partner, "易混概念对照", foundation⟩)
            .ok ([target, use] ++ contrast, "要求每题说明概念与适用条件，教师对照易混点判断。")
          | .forget => .ok ([target, use], "本次检查不能区分遗忘与未掌握，需间隔复测与历史表现共同验证。")

/-- A question that can stand in a slot for `target`. -/
def usable (papers : Papers K) (target : Nat) (levels : List CogLevel) (used : List String)
    (c : TemplateQuestion K × ExamTemplate) : Bool :=
  let q := c.1
  !(strip q.stem).isEmpty && !used.contains (strip q.stem) && levels.contains q.cogLevel &&
    papers.columns.scoreFinite q.id && decide (0 < q.fullScore) &&
    match questionTags papers.db q.id with
    | [tag] => tag.kpId == target && (papers.columns.reviewedAt tag.id).isSome && papers.columns.weightFinite tag.id &&
        decide (0 < tag.weight)
    | _ => false

/-- The slots in turn, each with the first question that fits and whose stem is not used before. -/
def selectSlots (papers : Papers K) (g : KpGraph K) (covered : List Nat) (pool : List (TemplateQuestion K × ExamTemplate)) :
    List String → List Slot → Except DiagnosisError (List (SlotView K))
  | _, [] => .ok []
  | used, slot :: slots =>
    match g.kp? papers.db slot.kpId with
    | none => .error .keyError
    | some kp =>
      let found := if slot.kpId ∉ covered ∨ kp.archived = true then none
        else pool.find? (usable papers slot.kpId slot.levels used)
      let used := match found with
        | some c => strip c.1.stem :: used
        | none => used
      let view := found.map (fun c => ⟨c.1.id, c.1.stem, c.1.fullScore, c.1.cogLevel, c.2.id, papers.columns.examName c.2.id, c.1.idx⟩)
      match selectSlots papers g covered pool used slots with
      | .error e => .error e
      | .ok rest => .ok (⟨slot.kpId, kp.name, slot.purpose, view⟩ :: rest)

/-- `digest` is the hash of the document that holds both. `kbVersion` is the version of the graph. -/
def diagnosticBlueprint [FloorRing K] (digest : Preview K × List (Option (Content K)) → String) (cfg : Config K) (papers : Papers K)
    (g : KpGraph K) (kbVersion : KbVersion) (student : Student) (kpId : Nat) (mode : DiagnosticMode) (attributionId : Option Nat)
    (asOf : DateTime) : Except DiagnosisError (Blueprint K) :=
  match slotsFor cfg papers.db g student kpId mode attributionId asOf with
  | .error e => .error e
  | .ok (slots, guidance) =>
    let pool := candidates papers student kbVersion.subject asOf
    match selectSlots papers g (coveredKpIds papers.db student.classId (some asOf)) pool (answeredStems papers.db student.id) slots with
    | .error e => .error e
    | .ok selected =>
      match g.kp? papers.db kpId with
      | none => .error .keyError
      | some kp =>
        let preview : Preview K := {
          studentId := student.id
          kpId := kpId
          kpName := kp.name
          subject := kbVersion.subject
          mode := mode
          attributionId := attributionId
          slots := selected
          ready := selected.all (fun slot => slot.question.isSome)
          guidance := guidance
          limitation := limitation }
        .ok ⟨preview, digest (preview, selected.map (contentOf papers))⟩

end

end KnowledgeGap.Diagnosis
