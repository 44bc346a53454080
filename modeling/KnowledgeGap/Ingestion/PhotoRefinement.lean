import KnowledgeGap.Ingestion.PhotoScores
import KnowledgeGap.Ingestion.ReadyCommit

namespace KnowledgeGap.Ingestion

open Relational

variable {K : Type}

def Warning.map {L : Type} (f : K → L) : Warning K → Warning L
  | .notReturned idx => .notReturned idx
  | .illegalScore idx => .illegalScore idx
  | .clippedScore idx score full => .clippedScore idx (f score) (f full)
  | .noOption idx => .noOption idx
  | .emptyName => .emptyName
  | .containedName => .containedName
  | .ambiguousName => .ambiguousName
  | .unknownName => .unknownName
  | .duplicateUpload => .duplicateUpload
  | .templateMissing => .templateMissing
  | .fileLost => .fileLost
  | .timedOut => .timedOut
  | .crashed error => .crashed error
  | .callFailed error => .callFailed error
  | .interrupted => .interrupted
  | .restarted => .restarted

def PersistError.filing : PersistError → FilingError
  | .scope _ => .scope
  | .integrity => .integrity

def idxJson : Option Int → Json K
  | none => .null
  | some n => .int n

def scoreJson : Option K → Json K
  | none => .null
  | some x => .float (.fin x)

def textJson : Option String → Json K
  | none => .null
  | some s => .str s

/-- The object an answer is read from. -/
def PayloadAnswer.fields (a : PayloadAnswer K) : List (String × Json K) :=
  [("idx", idxJson a.idx), ("score", scoreJson a.score), ("chosen_option", textJson a.chosenOption)]

def entryJson : Option (PayloadAnswer K) → Json K
  | none => .null
  | some a => .obj a.fields

/-- The document a payload is read from. -/
def Payload.fields (payload : Payload K) : List (String × Json K) :=
  [("student_name", textJson payload.studentName), ("answers", .arr (payload.answers.map entryJson))]

theorem mem_examStudents_iff {db : Db K} {exam : ExamTemplate} {studentId : Nat} :
    studentId ∈ (examStudents db exam).map Student.id ↔ assertExamStudent db exam studentId = .ok () := by
  constructor
  · exact assertExamStudent_of_mem
  · intro passed
    unfold assertExamStudent at passed
    split at passed
    · cases passed
    · rename_i student found
      have stored := Table.get?_mem found
      have key : student.id = studentId := Table.get?_key found
      split at passed
      · cases passed
      · rename_i same
        have place : student.classId = exam.classId := by simpa using same
        refine List.mem_map.mpr ⟨student, ?_, key⟩
        unfold examStudents
        split at passed
        · rename_i task target
          have named : task.studentId = studentId := by
            by_contra other
            simp [other] at passed
          simp [Table.select, stored, place, key, named]
        · rename_i untargeted
          have open_ : exam.source ≠ .diagnosticTask := by
            intro task
            simp [task] at passed
          simp [open_, Table.select, stored, place]

section
variable [Field K]

def keyOf : Option Int → AnswerKey K
  | none => .null
  | some n => .number (.fin n)

theorem keyOf_injective [LinearOrder K] [IsStrictOrderedRing K] : Function.Injective (keyOf : Option Int → AnswerKey K) := by
  intro a b same
  cases a <;> cases b <;> simp_all [keyOf]

theorem answerKey_idxJson (idx : Option Int) : answerKey (idxJson idx : Json K) = .ok (keyOf idx) := by
  cases idx <;> rfl

variable [DecidableEq K]

theorem keyedAnswers_fields (answers : List (PayloadAnswer K)) :
    keyedAnswers (answers.map PayloadAnswer.fields) = .ok (answers.map (fun a => (keyOf a.idx, a.fields))) := by
  induction answers with
  | nil => rfl
  | cons a answers ih =>
    have key : answerKey (field a.fields "idx") = .ok (keyOf a.idx) := answerKey_idxJson a.idx
    simp [keyedAnswers, key, ih]

end

theorem answerObjects_entries (entries : List (Option (PayloadAnswer K))) :
    answerObjects (some (.arr (entries.map entryJson))) = .ok ((entries.filterMap id).map PayloadAnswer.fields) := by
  unfold answerObjects
  induction entries with
  | nil => rfl
  | cons entry entries ih =>
    cases entry with
    | none => simpa [entryJson] using ih
    | some a => simpa [entryJson] using ih

section
variable [Field K] [LinearOrder K]

/-- The answers by question, as the exact reading keys them. -/
def Payload.keyed (payload : Payload K) : Dict (Option Int) (PayloadAnswer K) :=
  Dict.ofList ((payload.answers.filterMap id).map (fun a => (a.idx, a)))

theorem payloadAnswers_fields (payload : Payload K) :
    payloadAnswers payload.fields =
      .ok (Dict.ofList (((payload.answers.filterMap id).map (fun a => (a.idx, a))).map (fun e => (keyOf e.1, e.2.fields)))) := by
  have objects : answerObjects (payload.fields.lookup "answers") = .ok ((payload.answers.filterMap id).map PayloadAnswer.fields) :=
    answerObjects_entries payload.answers
  rw [List.map_map]
  simp only [payloadAnswers, objects, keyedAnswers_fields]
  rfl

variable (str : Json K → String)

/-- What is filed for a question, beside the exact score. -/
def scoredOf (answers : Dict (Option Int) (PayloadAnswer K)) (q : TemplateQuestion K) : Scored K where
  score := .fin (answerScore answers q).1
  parseConfidence := if (answers.get? (some q.idx)).isSome then .fin (ratio 1 2) else .fin 0
  chosenOption := (answers.get? (some q.idx)).bind (fun a =>
    if q.qType = .choice ∧ (a.chosenOption.getD "").isEmpty = false then
      some (String.ofList ((str (textJson a.chosenOption)).toList.take 10)) else none)
  warnings := (answerScore answers q).2.map (Warning.map .fin)

omit [Field K] in
theorem truthy_textJson (chosen : Option String) [Field K] :
    truthy (textJson chosen : Json K) = !(chosen.getD "").isEmpty := by
  cases chosen <;> rfl

variable (text : String → Option (PyFloat K))

theorem clampRaw_scoreJson (raw : Option K) (full : K) (idx : Int) :
    clampRaw text (scoreJson raw) (.fin full) idx =
      .ok (.fin (clampScore raw full idx).1, (clampScore raw full idx).2.map (Warning.map .fin)) := by
  cases raw with
  | none => rfl
  | some score =>
    have clipped : PyFloat.pyMax (.fin 0) (.pyMin (.fin full) (.fin score)) = .fin (max 0 (min full score)) := by
      unfold PyFloat.pyMax PyFloat.pyMin
      by_cases below : score < full
      · by_cases above : 0 < score
        · simp [below, above, le_of_lt below, le_of_lt above]
        · simp [below, above, le_of_lt below, not_lt.mp above]
      · by_cases above : 0 < full
        · simp [below, above, not_lt.mp below, le_of_lt above]
        · simp [below, above, not_lt.mp below, not_lt.mp above]
    by_cases outside : score < 0 ∨ full < score
    · simp [clampRaw, scoreJson, toFloat, clampScore, outside, clipped, Warning.map]
    · simp [clampRaw, scoreJson, toFloat, clampScore, outside]

theorem confidence_fields (a : PayloadAnswer K) :
    confidence text (field a.fields "confidence") (.fin (ratio 1 2)) = .ok (.fin (ratio 1 2)) := rfl

variable [IsStrictOrderedRing K]

theorem get?_fields (payload : Payload K) (idx : Int) :
    (Dict.ofList (((payload.answers.filterMap id).map (fun a => (a.idx, a))).map (fun e => (keyOf e.1, e.2.fields)))).get?
        (.number (.fin (idx : K))) = (payload.keyed.get? (some idx)).map PayloadAnswer.fields :=
  Dict.get?_ofList_map keyOf_injective PayloadAnswer.fields _ (some idx)

/-- Both readings of a sheet give a question the same score and the same remarks. -/
theorem scoreQuestion_fields (m : Margin K) (db : Db K) (payload : Payload K) (q : TemplateQuestion K)
    {answers : Dict (AnswerKey K) (List (String × Json K))} (read : payloadAnswers payload.fields = .ok answers) :
    scoreQuestion text str answers (m.question db q) = .ok (scoredOf str payload.keyed q) := by
  rw [payloadAnswers_fields, Except.ok.injEq] at read
  have reply := get?_fields payload q.idx
  rw [read] at reply
  unfold scoreQuestion scoredOf answerScore
  cases found : payload.keyed.get? (some q.idx) with
  | none =>
    rw [found, Option.map_none] at reply
    simp [Margin.question, reply, Warning.map]
  | some a =>
    rw [found, Option.map_some] at reply
    have score : field a.fields "score" = scoreJson a.score := rfl
    have option : field a.fields "chosen_option" = textJson a.chosenOption := rfl
    simp only [Margin.question, reply, score, option, clampRaw_scoreJson, confidence_fields, truthy_textJson, Option.bind_some]
    generalize (a.chosenOption.getD "").isEmpty = blank
    by_cases choice : q.qType = .choice
    · cases blank <;> simp [choice, Warning.map]
    · simp [choice]

theorem scoreQuestions_fields (m : Margin K) (db : Db K) (payload : Payload K)
    {answers : Dict (AnswerKey K) (List (String × Json K))} (read : payloadAnswers payload.fields = .ok answers)
    (questions : List (TemplateQuestion K)) :
    scoreQuestions text str answers (questions.map (m.question db)) =
      .ok (questions.map (fun q => (m.question db q, scoredOf str payload.keyed q))) := by
  induction questions with
  | nil => rfl
  | cons q questions ih => simp [scoreQuestions, scoreQuestion_fields str text m db payload q read, ih]

omit [Field K] [LinearOrder K] [IsStrictOrderedRing K] in
theorem orderedQuestions_intakeOf (m : Margin K) (db : Db K) (template : ExamTemplate) :
    (intakeOf m db template).orderedQuestions = (questionsOf db template.id).map (m.question db) := by
  symm
  apply List.map_insertionSort
  intro a _ b _
  rfl

/-- What stands beside the exact rows once a sheet is filed. -/
def Margin.file (m : Margin K) (db : Db K) (scored : List (Scored K)) : Margin K where
  reviewed := m.reviewed
  source := fun id => if id = db.responses.nextId then .photo else m.source id
  sourceWarnings := fun id => if id = db.responses.nextId then none else m.sourceWarnings id
  chosenOption := fun id =>
    if id < db.answers.nextId then m.chosenOption id
    else (scored[id - db.answers.nextId]?).bind Scored.chosenOption
  parseConfidence := fun id =>
    if id < db.answers.nextId then m.parseConfidence id
    else ((scored[id - db.answers.nextId]?).map Scored.parseConfidence).getD (.fin 0)

variable [FloorRing K]

omit [IsStrictOrderedRing K] in
/-- What the exact reading refuses the sheet is refused. -/
theorem persistPayload_refuses {m : Margin K} {db : Db K} {template : ExamTemplate} {studentId : Nat} {payload : Payload K}
    {error : PersistError} (refused : persistResponseFromPayload db template studentId payload = .error error) :
    persistPayload text str (intakeOf m db template) studentId payload.fields = .error error.filing := by
  unfold persistResponseFromPayload at refused
  unfold persistPayload
  split at refused
  · rename_i scope outside
    cases refused
    have absent : studentId ∉ (intakeOf m db template).roster.map Student.id := by
      intro member
      rw [assertExamStudent_of_mem member] at outside
      cases outside
    rw [if_pos absent]
    rfl
  · rename_i pupil
    have member : studentId ∈ (intakeOf m db template).roster.map Student.id := mem_examStudents_iff.mpr pupil
    rw [if_neg (not_not.mpr member)]
    split at refused
    · rename_i already
      cases refused
      have there : (intakeOf m db template).responses.rows.any (fun r => r.studentId == studentId) = true := by
        simpa [intakeOf, answered, Margin.response] using already
      rw [if_pos there]
      rfl
    · cases refused

omit [IsStrictOrderedRing K] [FloorRing K] [LinearOrder K] in
theorem responses_file (m : Margin K) (db after : Db K) (template : ExamTemplate) (scored : List (Scored K)) (studentId : Nat)
    (total : K) (added : after.responses = db.responses.insert (responseRow template.id studentId total) (key_responseRow _ _ _)) :
    (intakeOf m db template).responses.insert (photoRow studentId (.fin total)) (key_photoRow _ _) =
      (intakeOf (m.file db scored) after template).responses := by
  apply Table.ext
  · have old : ∀ r ∈ db.responses.rows.filter (fun r => r.examTemplateId == template.id),
        m.response r = (m.file db scored).response r := by
      intro r listed
      have issued : r.id < db.responses.nextId := db.responses.issued r (List.mem_of_mem_filter listed)
      have apart : r.id ≠ db.responses.nextId := by omega
      simp [Margin.response, Margin.file, apart]
    have new : (m.file db scored).response (responseRow template.id studentId total db.responses.nextId) =
        photoRow studentId (.fin total) db.responses.nextId := by
      simp [Margin.response, Margin.file, responseRow, photoRow]
    simp only [intakeOf, Table.rows_insert, Table.rows_view, added, List.filter_append, List.map_append]
    rw [List.map_congr_left old]
    simp [responseRow] at new ⊢
    exact new.symm
  · simp [intakeOf, Table.view, added]

omit [IsStrictOrderedRing K] [FloorRing K] in
theorem answers_file (m : Margin K) (db after : Db K) (template : ExamTemplate) (payload : Payload K)
    (questions : List (TemplateQuestion K))
    (added : after.answers = db.answers.insertAll (answerRow db.responses.nextId) (key_answerRow _)
      (questions.map (fun q => (q.id, (answerScore payload.keyed q).1)))) :
    (intakeOf m db template).answers.insertAll (scoredRow (intakeOf m db template).responses.nextId) (key_scoredRow _)
        (questions.map (fun q => (m.question db q, scoredOf str payload.keyed q))) =
      (intakeOf (m.file db (questions.map (scoredOf str payload.keyed))) after template).answers := by
  apply Table.ext
  · have old : ∀ a ∈ db.answers.rows, m.answer a = (m.file db (questions.map (scoredOf str payload.keyed))).answer a := by
      intro a stored
      have issued : a.id < db.answers.nextId := db.answers.issued a stored
      simp [Margin.answer, Margin.file, issued]
    simp only [intakeOf, Table.rows_insertAll, Table.rows_view, List.filter_true, added, List.map_append]
    rw [List.map_congr_left old]
    congr 1
    apply List.ext_getElem
    · simp
    · intro n left right
      simp only [List.getElem_mapIdx, List.getElem_map]
      have inside : n < questions.length := by simpa using left
      simp [scoredRow, answerRow, Margin.answer, Margin.file, Margin.question, scoredOf, inside, Table.view]
  · simp [intakeOf, Table.view, added]

omit [IsStrictOrderedRing K] [FloorRing K] in
/-- Filing a response and its answers in both readings leaves the same tables. -/
theorem intakeOf_file (m : Margin K) {db after : Db K} (template : ExamTemplate) (payload : Payload K)
    (questions : List (TemplateQuestion K)) (studentId : Nat) (total : K)
    (filed : { db with
      responses := db.responses.insert (responseRow template.id studentId total) (key_responseRow _ _ _)
      answers := db.answers.insertAll (answerRow db.responses.nextId) (key_answerRow _)
        (questions.map (fun q => (q.id, (answerScore payload.keyed q).1))) } = after) :
    intakeOf (m.file db (questions.map (scoredOf str payload.keyed))) after template =
      { intakeOf m db template with
        responses := (intakeOf m db template).responses.insert (photoRow studentId (.fin total)) (key_photoRow _ _)
        answers := (intakeOf m db template).answers.insertAll (scoredRow (intakeOf m db template).responses.nextId)
          (key_scoredRow _) (questions.map (fun q => (m.question db q, scoredOf str payload.keyed q))) } := by
  have responses := responses_file m db after template (questions.map (scoredOf str payload.keyed)) studentId total (by rw [← filed])
  have answers := answers_file str m db after template payload questions (by rw [← filed])
  rw [responses, answers, ← filed]
  rfl

/-- What the exact reading files is filed, and the tables afterwards are those it leaves. -/
theorem persistPayload_follows {m : Margin K} {db after : Db K} {template : ExamTemplate} {studentId responseId : Nat}
    {payload : Payload K} {remarks : List (Warning K)}
    (filed : persistResponseFromPayload db template studentId payload = .ok (after, responseId, remarks)) :
    ∃ m', persistPayload text str (intakeOf m db template) studentId payload.fields =
      .ok (intakeOf m' after template, responseId, remarks.map (Warning.map .fin)) := by
  refine ⟨m.file db ((questionsOf db template.id).map (scoredOf str payload.keyed)), ?_⟩
  unfold persistResponseFromPayload at filed
  unfold persistPayload
  split at filed
  · cases filed
  · rename_i pupil
    have member : studentId ∈ (intakeOf m db template).roster.map Student.id := mem_examStudents_iff.mpr pupil
    rw [if_neg (not_not.mpr member)]
    split at filed
    · cases filed
    · rename_i fresh
      have absent : ¬ (intakeOf m db template).responses.rows.any (fun r => r.studentId == studentId) = true := by
        simpa [intakeOf, answered, Margin.response] using fresh
      rw [if_neg absent, payloadAnswers_fields]
      dsimp only
      rw [orderedQuestions_intakeOf, scoreQuestions_fields str text m db payload (payloadAnswers_fields payload)]
      dsimp only
      have numbers : ((questionsOf db template.id).map (fun q => (m.question db q, scoredOf str payload.keyed q))).any
          (fun p => decide (p.2.score = .nan)) = false := by
        simp [scoredOf]
      rw [numbers]
      simp only [Bool.false_eq_true, if_false]
      have total : PyFloat.sum (((questionsOf db template.id).map
          (fun q => (m.question db q, scoredOf str payload.keyed q))).map (fun p => p.2.score)) =
            .fin (pySum ((questionsOf db template.id).map (fun q => (answerScore payload.keyed q).1))) := by
        rw [← PyFloat.sum_map_fin, List.map_map, List.map_map]
        rfl
      simp only [Except.ok.injEq, Prod.mk.injEq, List.map_map] at filed
      obtain ⟨same, rfl, rfl⟩ := filed
      rw [total, PyFloat.round_fin, intakeOf_file str m template payload (questionsOf db template.id) studentId _ same]
      refine congrArg Except.ok (Prod.ext rfl (Prod.ext rfl ?_))
      simp only [scoredOf, List.flatMap_map, List.map_flatMap]
      rfl

end

end KnowledgeGap.Ingestion
