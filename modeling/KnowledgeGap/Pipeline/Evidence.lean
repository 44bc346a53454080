import KnowledgeGap.Data.Config
import KnowledgeGap.Data.Schema
import KnowledgeGap.Relational.Dict
import KnowledgeGap.Relational.Upsert

namespace KnowledgeGap

open Relational

/-- The two `ValueError`s of the derivation, and the attribute error of a template that is gone. -/
inductive DeriveError
  | missing (responseId : Nat)
  | notSubmitted (status : ResponseStatus)
  | noTemplate (examId : Nat)
  deriving DecidableEq, Repr

variable {K : Type}

structure EventRow (K : Type) where
  studentId : Nat
  kpId : Nat
  responseAnswerId : Nat
  sourceType : ExamType
  value : K
  weight : K
  cogLevel : CogLevel
  classAvgRate : Option K
  occurredAt : DateTime

def EventRow.store (row : EventRow K) (id : Nat) : EvidenceEvent K :=
  { id := id, studentId := row.studentId, kpId := row.kpId, responseAnswerId := row.responseAnswerId,
    sourceType := row.sourceType, value := row.value, weight := row.weight, cogLevel := row.cogLevel,
    classAvgRate := row.classAvgRate, occurredAt := row.occurredAt }

def eventWriter (K : Type) : Table.Writer (EvidenceEvent K) (EventRow K) where
  target _ := none
  refresh _ := id
  refresh_key _ _ := rfl
  fresh := EventRow.store
  fresh_key _ _ := rfl

def answersOf (db : Db K) (responseId : Nat) : List (ResponseAnswer K) :=
  db.answers.select (fun a => a.examResponseId == responseId)

def alreadyDerived (db : Db K) (responseId : Nat) : Bool :=
  db.events.rows.any (fun ev => (answersOf db responseId).any (fun a => a.id == ev.responseAnswerId))

section
variable [Field K] [LinearOrder K]

def sourceTypeWeight : ExamType → K
  | .midterm | .final | .makeup => 1
  | .unit => ratio 8 10
  | .practice => ratio 5 10
  | .diagnostic => ratio 7 10
  | .other _ => ratio 8 10

/-- A sudden drop of the total against the pupil's earlier exams halves the weight of the evidence. -/
def anomalyFactor (db : Db K) (response : ExamResponse K) (template : ExamTemplate) : K :=
  let history := (db.responses.select (fun r => r.studentId == response.studentId &&
    decide (r.status = .submitted) && (db.templates.get? r.examTemplateId).any (fun t =>
      decide (t.examDate < template.examDate)))).map ExamResponse.totalScore
  if history.isEmpty then 1
  else
    let avgPrev := mean history
    if avgPrev ≤ 0 then 1
    else
      let drop := (avgPrev - response.totalScore) / avgPrev
      if anomalyScoreDrop K < drop then anomalyWeightFactor K else 1

def answerValue (question : TemplateQuestion K) (score : K) : K :=
  let rate := max 0 (min 1 (score / question.fullScore))
  match question.qType with
  | .choice =>
    let nOpt := match question.nOptions with
      | none | some 0 => defaultChoiceOptions
      | some n => n
    let g : K := 1 / (max 2 nOpt : Nat)
    max 0 ((rate - g) / (1 - g))
  | .other _ => rate

/-- `(1 / sqrt n) ** penalty` for a question on several points, when the penalty is on. -/
def mixFactor (cfg : Config K) (nKps : Nat) : K :=
  if 0 < cfg.evidenceMixPenalty ∧ 1 < nKps then cfg.mixPower nKps cfg.evidenceMixPenalty else 1

variable [FloorRing K]

def classQuestionRates (db : Db K) (template : ExamTemplate) : Dict Nat K :=
  let scored := db.answers.rows.filterMap (fun a =>
    match db.responses.get? a.examResponseId with
    | none => none
    | some r =>
      if r.examTemplateId = template.id ∧ r.status = .submitted then
        match db.questions.get? a.templateQuestionId with
        | none => none
        | some q =>
          if q.examTemplateId = template.id ∧ 0 < q.fullScore then some (q.id, a.score / q.fullScore)
          else none
      else none)
  (Dict.group Prod.fst scored).filterMapValues (fun rates => some (roundTo 4 (mean (rates.map Prod.snd))))

def eventsOfAnswer (cfg : Config K) (db : Db K) (response : ExamResponse K) (template : ExamTemplate)
    (answer : ResponseAnswer K) : List (EventRow K) :=
  match db.questions.get? answer.templateQuestionId with
  | none => []
  | some question =>
    let kps := db.questionKps.select (fun qkp => qkp.templateQuestionId == question.id)
    if question.fullScore ≤ 0 ∨ kps = [] then []
    else
      let cascade := if answer.cascadeFlag then cascadeWeightFactor K else 1
      kps.map (fun qkp =>
        { studentId := response.studentId
          kpId := qkp.kpId
          responseAnswerId := answer.id
          sourceType := template.type
          value := roundTo 6 (answerValue question answer.score)
          weight := roundTo 6 (sourceTypeWeight template.type * qkp.weight * cascade *
            anomalyFactor db response template * mixFactor cfg kps.length)
          cogLevel := question.cogLevel
          classAvgRate := (classQuestionRates db template).get? question.id
          occurredAt := noon template.examDate })

/-- The events a submitted response brings and their number; nothing when it brought them before. -/
def deriveEventsForResponse (cfg : Config K) (db : Db K) (responseId : Nat) :
    Except DeriveError (Table (EvidenceEvent K) × Nat) :=
  match db.responses.get? responseId with
  | none => .error (.missing responseId)
  | some response =>
    if response.status ≠ .submitted then .error (.notSubmitted response.status)
    else
      match db.templates.get? response.examTemplateId with
      | none => .error (.noTemplate response.examTemplateId)
      | some template =>
        if alreadyDerived db response.id then .ok (db.events, 0)
        else
          let rows := (answersOf db response.id).flatMap (eventsOfAnswer cfg db response template)
          .ok (db.events.upsertAll (eventWriter K) rows, rows.length)

end

def examOf? (db : Db K) (ev : EvidenceEvent K) : Option ExamTemplate :=
  match db.answers.get? ev.responseAnswerId with
  | none => none
  | some answer =>
    match db.responses.get? answer.examResponseId with
    | none => none
    | some response => db.templates.get? response.examTemplateId

/-- Every event is dated at noon of the exam it was derived from. -/
def Dated (db : Db K) : Prop :=
  ∀ ev ∈ db.events.rows, ∀ template, examOf? db ev = some template → ev.occurredAt = noon template.examDate

section
variable [Field K] [LinearOrder K] [FloorRing K]

theorem mem_eventsOfAnswer {cfg : Config K} {db : Db K} {response : ExamResponse K} {template : ExamTemplate}
    {answer : ResponseAnswer K} {row : EventRow K}
    (listed : row ∈ eventsOfAnswer cfg db response template answer) :
    row.studentId = response.studentId ∧ row.responseAnswerId = answer.id ∧
      row.occurredAt = noon template.examDate := by
  unfold eventsOfAnswer at listed
  split at listed
  · cases listed
  · dsimp only at listed
    split at listed
    · cases listed
    · obtain ⟨qkp, _, rfl⟩ := List.mem_map.mp listed
      exact ⟨rfl, rfl, rfl⟩

omit [Field K] [LinearOrder K] [FloorRing K] in
theorem rows_upsertAll_events (events : Table (EvidenceEvent K)) (rows : List (EventRow K)) :
    (events.upsertAll (eventWriter K) rows).rows =
      events.rows ++ (eventWriter K).added rows events.nextId := by
  have fixed : ∀ r ∈ events.rows, (eventWriter K).toPatch.refreshAll rows r = id r := by
    intro r _
    apply Table.Patch.refreshAll_of_missed
    intro _ _ aimed
    cases aimed
  rw [Table.rows_upsertAll, List.map_congr_left fixed, List.map_id]
  intro _ _ _ aimed
  cases aimed

/-- What a derivation can do: nothing, or append the events of the answers of its response. -/
theorem deriveEventsForResponse_cases {cfg : Config K} {db : Db K} {responseId n : Nat}
    {events : Table (EvidenceEvent K)}
    (derived : deriveEventsForResponse cfg db responseId = .ok (events, n)) :
    events = db.events ∨ ∃ response template, db.responses.get? responseId = some response ∧
      response.status = .submitted ∧ db.templates.get? response.examTemplateId = some template ∧
      events.rows = db.events.rows ++ (eventWriter K).added
        ((answersOf db response.id).flatMap (eventsOfAnswer cfg db response template)) db.events.nextId := by
  unfold deriveEventsForResponse at derived
  split at derived
  · cases derived
  · rename_i response found
    split at derived
    · cases derived
    · rename_i submitted
      split at derived
      · cases derived
      · rename_i template scheduled
        split at derived
        · cases derived
          exact Or.inl rfl
        · cases derived
          exact Or.inr ⟨response, template, found, not_not.mp submitted, scheduled,
            rows_upsertAll_events _ _⟩

theorem deriveEventsForResponse_dated {cfg : Config K} {db : Db K} {responseId n : Nat}
    {events : Table (EvidenceEvent K)} (dated : Dated db)
    (derived : deriveEventsForResponse cfg db responseId = .ok (events, n)) :
    Dated { db with events := events } := by
  rcases deriveEventsForResponse_cases derived with rfl | ⟨response, template, found, _, scheduled, rows⟩
  · exact dated
  · intro ev stored exam source
    have traced : examOf? db ev = some exam := source
    rw [rows] at stored
    rcases List.mem_append.mp stored with before | added
    · exact dated ev before exam traced
    · obtain ⟨row, listed, _, id, _, rfl⟩ := Table.Writer.mem_added _ added
      obtain ⟨answer, given, made⟩ := List.mem_flatMap.mp listed
      obtain ⟨_, ofAnswer, noonOf⟩ := mem_eventsOfAnswer made
      have owned : answer.examResponseId = response.id := by
        simpa using (List.mem_filter.mp given).2
      have stored_answer : db.answers.get? row.responseAnswerId = some answer := by
        rw [ofAnswer]
        exact Table.get?_of_mem (List.mem_of_mem_filter given)
      have stored_response : db.responses.get? answer.examResponseId = some response := by
        rw [owned]
        exact Table.get?_of_mem (Table.get?_mem found)
      have same : template = exam := by
        have source_row : examOf? db ((eventWriter K).fresh row id) = some template := by
          show examOf? db (row.store id) = some template
          simp only [examOf?, EventRow.store, stored_answer, stored_response, scheduled]
        exact Option.some.inj (source_row.symm.trans traced)
      rw [← same]
      exact noonOf

end

end KnowledgeGap
