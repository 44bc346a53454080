import KnowledgeGap.Ingestion.PhotoScores

namespace KnowledgeGap.Ingestion.Template

open Relational

variable {K : Type}

abbrev Fields (K : Type) := List (String × Json K)

/-- What the language makes of values: how a string reads as a number, and how a value is written. -/
structure Language (K : Type) where
  number : String → Option (PyFloat K)
  str : Json K → String
  repr : Json K → String

inductive TemplateError
  | attributeError
  | integrity
  | python (error : PyError)
  deriving DecidableEq, Repr

inductive ParseStatus
  | running
  | done
  | failed
  deriving DecidableEq, Repr

structure ParseJob where
  id : Nat
  target : String
  status : ParseStatus
  deriving DecidableEq, Repr

structure PhotoExam where
  id : Nat
  classId : Nat
  subject : Option String
  name : String
  examDate : Date
  type : ExamType
  parseJobId : Nat
  deriving DecidableEq, Repr

section
variable (K : Type)

structure Question where
  examTemplateId : Nat
  idx : Int
  stem : String
  qType : QuestionType
  fullScore : PyFloat K
  cogLevel : CogLevel
  nOptions : Option Int
  deriving DecidableEq, Repr

structure StoredQuestion where
  id : Nat
  question : Question K
  deriving DecidableEq, Repr

structure Tag where
  templateQuestionId : Nat
  kpId : Nat
  weight : PyFloat K
  confidence : PyFloat K
  deriving DecidableEq, Repr

structure StoredTag where
  id : Nat
  tag : Tag K
  deriving DecidableEq, Repr

end

instance : Keyed ParseJob := ⟨ParseJob.id⟩
instance : Keyed PhotoExam := ⟨PhotoExam.id⟩
instance : Keyed (StoredQuestion K) := ⟨StoredQuestion.id⟩
instance : Keyed (StoredTag K) := ⟨StoredTag.id⟩

structure Desk (K : Type) where
  kbVersions : Table KbVersion
  points : Table (KnowledgePoint K)
  jobs : Table ParseJob
  exams : Table PhotoExam
  questions : Table (StoredQuestion K)
  tags : Table (StoredTag K)

structure PhotoParseResult where
  parseJobId : Nat
  examId : Option Nat := none
  questions : Nat := 0
  warnings : List String := []
  deriving DecidableEq, Repr

/-- The points a tag can name. -/
def kpRows (db : Desk K) (kbVersionId : Nat) : Dict String (KnowledgePoint K) :=
  Dict.ofList ((db.points.select (fun kp => kp.kbVersionId == kbVersionId && !kp.code.startsWith "C")).map
    (fun kp => (kp.code, kp)))

/-- `isinstance(v, int)`, which a truth value passes. -/
def wholeNumber : Json K → Option Int
  | .int n => some n
  | .bool b => some (if b then 1 else 0)
  | _ => none

def hashable : Json K → Bool
  | .arr _ | .obj _ => false
  | _ => true

def questionType : Json K → QuestionType
  | .str "选择" => .choice
  | .str "填空" => .other "填空"
  | _ => .other "解答"

def cogLevel : Json K → CogLevel
  | .str "识记" => .recall
  | .str "理解" => .understand
  | .str "综合" => .synthesize
  | _ => .apply

section
variable [Field K] [LinearOrder K] (r : Language K)

def numberRemark (q : Fields K) (fallbackIdx : Nat) : String :=
  "第" ++ toString fallbackIdx ++ "个题目题号非法(" ++ r.repr (field q "idx") ++ ")，改用 " ++ toString fallbackIdx

def scoreRemark (idx raw : Json K) : String :=
  "题" ++ r.str idx ++ "：满分非法(" ++ r.repr raw ++ ")，按 10 分处理，需教师核对"

def codeRemark (idx code : Json K) : String :=
  "题" ++ r.str idx ++ "：知识点编码 " ++ r.repr code ++ " 不在知识库闭集内，已丢弃"

def untaggedRemark (idx : Json K) : String := "题" ++ r.str idx ++ "：无有效知识点标注，需教师补标"

/-- The number a question gives itself, if it is one a question can have. -/
def ownNumber (q : Fields K) : Option Int := (wholeNumber (field q "idx")).filter (fun n => decide (0 < n))

/-- The number of a question, as the model wrote it or as the loop counts, and the remark on it. -/
def validateQuestion (q : Fields K) (seen : List Int) (fallbackIdx : Nat) : List String × Json K × Int :=
  match ownNumber q with
  | some n =>
    if n ∈ seen then ([numberRemark r q fallbackIdx], .int fallbackIdx, fallbackIdx) else ([], field q "idx", n)
  | none => ([numberRemark r q fallbackIdx], .int fallbackIdx, fallbackIdx)

/-- The score of a question whose own is none. -/
def fallbackScore : PyFloat K := .fin 10

def safeScore (raw idx : Json K) : Except PyError (PyFloat K × List String) :=
  match toFloat r.number raw with
  | .error .overflowError => .error .overflowError
  | .error _ => .ok (fallbackScore, [scoreRemark r idx raw])
  | .ok score => if score.le (.fin 0) = true then .ok (fallbackScore, [scoreRemark r idx raw]) else .ok (score, [])

/-- A question as it is added to the session. -/
structure Head (K : Type) where
  question : Question K
  idx : Json K
  confidence : PyFloat K
  numberRemarks : List String
  scoreRemarks : List String

def readQuestion (examId : Nat) (seen : List Int) (fallbackIdx : Nat) (q : Fields K) : Except PyError (Head K) :=
  let number := validateQuestion r q seen fallbackIdx
  match confidence r.number (field q "confidence") (.fin (ratio 1 2)) with
  | .error e => .error e
  | .ok conf =>
    if hashable (field q "q_type") = false then .error .typeError
    else
      match safeScore r (field q "full_score") number.2.1 with
      | .error e => .error e
      | .ok (fullScore, scoreRemarks) =>
        if hashable (field q "cog_level") = false then .error .typeError
        else
          let stem := String.ofList ((r.str ((q.lookup "stem").getD (.str ""))).toList.take 200)
          .ok ⟨⟨examId, number.2.2, stem, questionType (field q "q_type"), fullScore, cogLevel (field q "cog_level"),
            wholeNumber (field q "n_options")⟩, number.2.1, conf, number.1, scoreRemarks⟩

/-- `q.get("kp_tags") or []`, as a loop goes over it. -/
def tagItems (raw : Json K) : Except TemplateError (List (Json K)) :=
  if truthy raw = false then .ok []
  else
    match raw with
    | .arr items => .ok items
    | .str _ | .obj _ => .error .attributeError
    | _ => .error (.python .typeError)

/-- The point a code stands for, where it is one of the closed set. -/
def knownPoint (kps : Dict String (KnowledgePoint K)) : Json K → Option (KnowledgePoint K)
  | .str s => kps.get? s
  | _ => none

/-- The points of the tags that are kept with their weights, and the remarks on the others. -/
def readTags (kps : Dict String (KnowledgePoint K)) (idx : Json K) :
    List (Json K) → Except TemplateError (List (Nat × PyFloat K) × List String)
  | [] => .ok ([], [])
  | .obj tag :: rest =>
    let code := field tag "code"
    if hashable code = false then .error (.python .typeError)
    else
      match knownPoint kps code with
      | none =>
        match readTags kps idx rest with
        | .error e => .error e
        | .ok (kept, remarks) => .ok (kept, codeRemark r idx code :: remarks)
      | some kp =>
        match confidence r.number ((tag.lookup "weight").getD (.float (.fin 1))) (.fin 0) with
        | .error e => .error (.python e)
        | .ok weight =>
          match readTags kps idx rest with
          | .error e => .error e
          | .ok (kept, remarks) => .ok ((kp.id, weight) :: kept, remarks)
  | _ :: _ => .error .attributeError

end

/-- The integers a column holds. -/
def storable (n : Int) : Bool := decide (-2 ^ 63 ≤ n ∧ n < 2 ^ 63)

/-- The rows of the session: what is stored, and the tags that wait for the next flush. -/
structure Shelf (K : Type) where
  questions : Table (StoredQuestion K)
  tags : Table (StoredTag K)
  pending : List (Tag K)

/-- Every row belongs to one that is stored. -/
structure Desk.Linked (db : Desk K) : Prop where
  questions : ∀ s ∈ db.questions.rows, s.question.examTemplateId < db.exams.nextId
  tags : ∀ s ∈ db.tags.rows, s.tag.templateQuestionId < db.questions.nextId

def storedQuestion (q : Question K) (id : Nat) : StoredQuestion K := ⟨id, q⟩

theorem key_storedQuestion (q : Question K) (id : Nat) : Keyed.key (storedQuestion q id) = id := rfl

def storedTag (t : Tag K) (id : Nat) : StoredTag K := ⟨id, t⟩

theorem key_storedTag (t : Tag K) (id : Nat) : Keyed.key (storedTag t id) = id := rfl

/-- A score that is no number is stored as none, which the column refuses; then `uq_tpl_q`. -/
def addQuestion (questions : Table (StoredQuestion K)) (q : Question K) : Except TemplateError (Table (StoredQuestion K)) :=
  if storable q.idx = false ∨ q.nOptions.all storable = false then .error (.python .overflowError)
  else
    match q.fullScore with
    | .nan => .error .integrity
    | _ =>
      if questions.rows.any (fun s => s.question.examTemplateId == q.examTemplateId && s.question.idx == q.idx) then
        .error .integrity
      else .ok (questions.insert (storedQuestion q) (key_storedQuestion q))

/-- `uq_q_kp` for each tag in turn. -/
def flushTags : List (Tag K) → Table (StoredTag K) → Except TemplateError (Table (StoredTag K))
  | [], tags => .ok tags
  | t :: rest, tags =>
    if tags.rows.any (fun s => s.tag.templateQuestionId == t.templateQuestionId && s.tag.kpId == t.kpId) then .error .integrity
    else flushTags rest (tags.insert (storedTag t) (key_storedTag t))

/-- A new question goes into the table, and the tags of the one before it. -/
def store (shelf : Shelf K) (q : Question K) : Except TemplateError (Shelf K) :=
  match addQuestion shelf.questions q with
  | .error e => .error e
  | .ok questions =>
    match flushTags shelf.pending shelf.tags with
    | .error e => .error e
    | .ok tags => .ok ⟨questions, tags, []⟩

/-- Where the loop stands. `last` holds the remarks of the latest turn alone. -/
structure Stage (K : Type) where
  shelf : Shelf K
  seen : List Int
  last : List String
  warnings : List String
  questions : Nat

section
variable [Field K] [LinearOrder K] (r : Language K) (kps : Dict String (KnowledgePoint K)) (examId : Nat)

def turn (s : Stage K) (fallbackIdx : Nat) : Json K → Except TemplateError (Stage K)
  | .obj q =>
    match readQuestion r examId s.seen fallbackIdx q with
    | .error e => .error (.python e)
    | .ok head =>
      let questionId := s.shelf.questions.nextId
      match store s.shelf head.question with
      | .error e => .error e
      | .ok shelf =>
        match tagItems (field q "kp_tags") with
        | .error e => .error e
        | .ok items =>
          match readTags r kps head.idx items with
          | .error e => .error e
          | .ok (kept, remarks) =>
            .ok {
              shelf := { shelf with pending := kept.map (fun k => ⟨questionId, k.1, k.2, head.confidence⟩) }
              seen := head.question.idx :: s.seen
              last := head.numberRemarks ++ remarks ++ if kept.isEmpty then [untaggedRemark r head.idx] else []
              warnings := s.warnings ++ head.scoreRemarks
              questions := s.questions + 1 }
  | _ => .error .attributeError

def turns : Stage K → Nat → List (Json K) → Except TemplateError (Stage K)
  | s, _, [] => .ok s
  | s, fallbackIdx, item :: items =>
    match turn r kps examId s fallbackIdx item with
    | .error e => .error e
    | .ok s => turns s (fallbackIdx + 1) items

end

def newJob (name : String) (id : Nat) : ParseJob := ⟨id, "template:" ++ name, .running⟩

theorem key_newJob (name : String) (id : Nat) : Keyed.key (newJob name id) = id := rfl

def newExam (classId : Nat) (subject : Option String) (name : String) (examDate : Date) (type : ExamType) (parseJobId id : Nat) :
    PhotoExam := ⟨id, classId, subject, name, examDate, type, parseJobId⟩

theorem key_newExam (classId : Nat) (subject : Option String) (name : String) (examDate : Date) (type : ExamType)
    (parseJobId id : Nat) : Keyed.key (newExam classId subject name examDate type parseJobId id) = id := rfl

def endJob (status : ParseStatus) (job : ParseJob) : ParseJob := { job with status }

theorem key_endJob (status : ParseStatus) (job : ParseJob) : Keyed.key (endJob status job) = Keyed.key job := rfl

section
variable [Field K] [LinearOrder K] (r : Language K)

/-- `enumerate(questions, start=1)`: what a value that is no list gives the loop. -/
def questionItems : Json K → Except TemplateError (List (Json K))
  | .arr items => .ok items
  | .str _ | .obj _ => .error .attributeError
  | _ => .error (.python .typeError)

/-- `reply` is the model's answer, or the text of the error in its place. -/
def parseTemplateFromPhoto (reply : Except String (Fields K)) (db : Desk K) (kbVersionId classId : Nat) (name : String)
    (examDate : Date) (type : ExamType) : Except TemplateError (Desk K × PhotoParseResult) :=
  let jobId := db.jobs.nextId
  let jobs := db.jobs.insert (newJob name) (key_newJob name)
  let failed := jobs.modify jobId (endJob .failed) (key_endJob _)
  match reply with
  | .error e => .ok ({ db with jobs := failed }, { parseJobId := jobId, warnings := ["LLM 调用失败：" ++ e] })
  | .ok payload =>
    let questions := (payload.lookup "questions").getD (.arr [])
    if truthy questions = false then
      .ok ({ db with jobs := failed }, { parseJobId := jobId, warnings := ["模型未返回任何题目"] })
    else
      let subject := (db.kbVersions.get? kbVersionId).map KbVersion.subject
      let examId := db.exams.nextId
      let exams := db.exams.insert (newExam classId subject name examDate type jobId) (key_newExam _ _ _ _ _ _)
      match questionItems questions with
      | .error e => .error e
      | .ok items =>
        match turns r (kpRows db kbVersionId) examId ⟨⟨db.questions, db.tags, []⟩, [], [], [], 0⟩ 1 items with
        | .error e => .error e
        | .ok s =>
          match flushTags s.shelf.pending s.shelf.tags with
          | .error e => .error e
          | .ok tags =>
            .ok ({ db with
                jobs := jobs.modify jobId (endJob .done) (key_endJob _)
                exams := exams
                questions := s.shelf.questions
                tags := tags },
              { parseJobId := jobId, examId := some examId, questions := s.questions, warnings := s.warnings ++ s.last })

end

end KnowledgeGap.Ingestion.Template
