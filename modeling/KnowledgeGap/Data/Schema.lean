import KnowledgeGap.Relational.Table
import KnowledgeGap.Data.Time

namespace KnowledgeGap

open Relational

inductive ExamType
  | midterm
  | final
  | makeup
  | unit
  | practice
  | diagnostic
  | other (name : String)
  deriving DecidableEq, Repr

inductive CogLevel
  | recall
  | understand
  | apply
  | synthesize
  | other (name : String)
  deriving DecidableEq, Repr

inductive Importance
  | basic
  | core
  | extended
  | other (name : String)
  deriving DecidableEq, Repr

inductive RelationType
  | prerequisite
  | contains
  | confusable
  | spiral
  deriving DecidableEq, Repr

/-- The life of a knowledge-base version; an imported file may carry any other word. -/
inductive KbStatus
  | draft
  | reviewed
  | active
  | other (name : String)
  deriving DecidableEq, Repr

inductive ExamSource
  | diagnosticTask
  | other (name : String)
  deriving DecidableEq, Repr

inductive QuestionType
  | choice
  | other (name : String)
  deriving DecidableEq, Repr

inductive ResponseStatus
  | uploaded
  | parsing
  | pendingReview
  | submitted
  deriving DecidableEq, Repr

inductive AttributionType
  | prereq
  | forget
  | insufficient
  | confusable
  deriving DecidableEq, Repr

inductive AttributionStatus
  | active
  | overridden
  | resolved
  deriving DecidableEq, Repr

inductive InterventionKind
  | reteach
  | prereqBackfill
  | spacedReview
  | contrastPractice
  | evidenceBoost
  | tierDrill
  deriving DecidableEq, Repr

inductive Scope
  | wholeClass
  | group
  | student
  deriving DecidableEq, Repr

inductive InterventionStatus
  | suggested
  | done
  | skipped
  deriving DecidableEq, Repr

inductive DiagnosticMode
  | evidence
  | attribution
  deriving DecidableEq, Repr

structure Class where
  id : Nat
  grade : Int
  deriving DecidableEq, Repr

structure Student where
  id : Nat
  classId : Nat
  nameOrAlias : String
  deriving DecidableEq, Repr

structure Teacher where
  id : Nat
  admin : Bool
  kbEditor : Bool
  deriving DecidableEq, Repr

structure TeacherSubjectScope where
  id : Nat
  teacherId : Nat
  subject : String
  grade : Int
  deriving DecidableEq, Repr

structure KbVersion where
  id : Nat
  subject : String
  grade : Option Int
  textbookEdition : String
  version : String
  status : KbStatus
  deriving DecidableEq, Repr

structure TeachingProgress where
  id : Nat
  classId : Nat
  kpId : Nat
  taughtAt : Date
  deriving DecidableEq, Repr

structure ExamTemplate where
  id : Nat
  classId : Nat
  examDate : Date
  type : ExamType
  source : ExamSource
  deriving DecidableEq, Repr

structure DiagnosticTask where
  id : Nat
  examId : Nat
  studentId : Nat
  kpId : Nat
  mode : DiagnosticMode
  attributionId : Option Nat
  sourceQuestionIds : List Nat
  previewToken : String
  deriving DecidableEq, Repr

structure Intervention where
  id : Nat
  classId : Nat
  studentId : Option Nat
  kpId : Nat
  examId : Nat
  attributionId : Option Nat
  sourceReportId : Option Nat
  retestExamId : Option Nat
  retestDueDate : Option Date
  kind : InterventionKind
  scope : Scope
  groupRef : Option String
  baselineAsOf : DateTime
  status : InterventionStatus
  suggestedAt : DateTime
  doneAt : Option DateTime
  note : Option String
  deriving DecidableEq, Repr

structure StudyRecord where
  id : Nat
  classId : Nat
  studentId : Nat
  kpId : Nat
  interventionId : Option Nat
  generatedAt : DateTime
  selfMarkedAt : Option DateTime
  deriving DecidableEq, Repr

section
variable (K : Type)

structure KnowledgePoint where
  id : Nat
  kbVersionId : Nat
  code : String
  name : String
  description : String := ""
  grade : Int
  semester : Int := 0
  chapter : String := ""
  cogLevelsExpected : List CogLevel
  difficultyPrior : K
  masteryFloor : K
  importance : Importance
  archived : Bool
  deriving DecidableEq, Repr

structure KpRelation where
  id : Nat
  fromKpId : Nat
  toKpId : Nat
  type : RelationType
  weight : K
  deriving DecidableEq, Repr

structure TemplateQuestion where
  id : Nat
  examTemplateId : Nat
  idx : Int
  stem : String
  qType : QuestionType
  fullScore : K
  cogLevel : CogLevel
  difficultyEst : K
  nOptions : Option Nat
  deriving DecidableEq, Repr

structure QuestionKp where
  id : Nat
  templateQuestionId : Nat
  kpId : Nat
  weight : K
  deriving DecidableEq, Repr

structure ExamResponse where
  id : Nat
  examTemplateId : Nat
  studentId : Nat
  totalScore : K
  status : ResponseStatus
  deriving DecidableEq, Repr

structure ResponseAnswer where
  id : Nat
  examResponseId : Nat
  templateQuestionId : Nat
  score : K
  cascadeFlag : Bool
  deriving DecidableEq, Repr

structure BankQuestion where
  id : Nat
  kbVersionId : Option Nat
  stem : String
  qType : QuestionType
  fullScore : K
  difficulty : K
  sourceTemplateQuestionId : Option Nat
  deriving DecidableEq, Repr

structure EvidenceEvent where
  id : Nat
  studentId : Nat
  kpId : Nat
  responseAnswerId : Nat
  sourceType : ExamType
  value : K
  weight : K
  cogLevel : CogLevel
  classAvgRate : Option K
  occurredAt : DateTime
  deriving DecidableEq, Repr

/-- One entry of an attribution's `evidence_json`, a constructor for each document shape. -/
inductive EvidenceItem
  | insufficient (evidenceCount required : Nat)
  | ancestor (code name : String) (depth : Nat) (edgeWeight mastery : K)
  | peak (mastery : K) (date : Date)
  | current (mastery : K)
  | gap (days : Int)
  | confusedWith (code name : String) (mastery : K)
  | globalWeak (weakFraction : K) (note : String)
  deriving DecidableEq, Repr

structure Attribution where
  id : Nat
  studentId : Nat
  kpId : Nat
  type : AttributionType
  confidence : K
  rootKpId : Option Nat
  evidence : List (EvidenceItem K)
  prediction : String
  status : AttributionStatus
  teacherNote : Option String
  deriving DecidableEq, Repr

end

instance : Keyed Class := ⟨Class.id⟩
instance : Keyed Student := ⟨Student.id⟩
instance : Keyed Teacher := ⟨Teacher.id⟩
instance : Keyed TeacherSubjectScope := ⟨TeacherSubjectScope.id⟩
instance : Keyed KbVersion := ⟨KbVersion.id⟩
instance : Keyed TeachingProgress := ⟨TeachingProgress.id⟩
instance : Keyed ExamTemplate := ⟨ExamTemplate.id⟩
instance : Keyed DiagnosticTask := ⟨DiagnosticTask.id⟩
instance : Keyed Intervention := ⟨Intervention.id⟩
instance : Keyed StudyRecord := ⟨StudyRecord.id⟩
instance {K : Type} : Keyed (KnowledgePoint K) := ⟨KnowledgePoint.id⟩
instance {K : Type} : Keyed (KpRelation K) := ⟨KpRelation.id⟩
instance {K : Type} : Keyed (TemplateQuestion K) := ⟨TemplateQuestion.id⟩
instance {K : Type} : Keyed (QuestionKp K) := ⟨QuestionKp.id⟩
instance {K : Type} : Keyed (ExamResponse K) := ⟨ExamResponse.id⟩
instance {K : Type} : Keyed (ResponseAnswer K) := ⟨ResponseAnswer.id⟩
instance {K : Type} : Keyed (BankQuestion K) := ⟨BankQuestion.id⟩
instance {K : Type} : Keyed (EvidenceEvent K) := ⟨EvidenceEvent.id⟩
instance {K : Type} : Keyed (Attribution K) := ⟨Attribution.id⟩

/-- The tables the analysis reads and writes. -/
structure Db (K : Type) where
  classes : Table Class
  students : Table Student
  teachers : Table Teacher
  subjectScopes : Table TeacherSubjectScope
  kbVersions : Table KbVersion
  knowledgePoints : Table (KnowledgePoint K)
  relations : Table (KpRelation K)
  progress : Table TeachingProgress
  templates : Table ExamTemplate
  diagnosticTasks : Table DiagnosticTask
  questions : Table (TemplateQuestion K)
  questionKps : Table (QuestionKp K)
  responses : Table (ExamResponse K)
  answers : Table (ResponseAnswer K)
  bank : Table (BankQuestion K)
  events : Table (EvidenceEvent K)
  attributions : Table (Attribution K)
  interventions : Table Intervention
  studyRecords : Table StudyRecord

def Db.empty (K : Type) : Db K :=
  ⟨.empty, .empty, .empty, .empty, .empty, .empty, .empty, .empty, .empty, .empty, .empty, .empty,
    .empty, .empty, .empty, .empty, .empty, .empty, .empty⟩

def Db.classStudentIds {K : Type} (db : Db K) (classId : Nat) : List Nat :=
  (db.students.select (fun s => s.classId == classId)).map Student.id

end KnowledgeGap
