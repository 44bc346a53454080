import KnowledgeGap.Data.Arithmetic
import KnowledgeGap.Data.Rounding
import KnowledgeGap.Pipeline.Evidence
import Mathlib.Algebra.BigOperators.Ring.List
import Mathlib.Data.Rat.Floor
import Mathlib.Tactic.FieldSimp
import Mathlib.Tactic.NormNum

namespace KnowledgeGap

open Relational

variable {K : Type} [Field K] [LinearOrder K]

/-- The exams the pupil handed in before the day of this one. -/
def earlierResponses (db : Db K) (response : ExamResponse K) (template : ExamTemplate) : List (ExamResponse K) :=
  db.responses.select (fun r => r.studentId == response.studentId && decide (r.status = .submitted) &&
    (db.templates.get? r.examTemplateId).any (fun t => decide (t.examDate < template.examDate)))

def averageTotal (db : Db K) (response : ExamResponse K) (template : ExamTemplate) : K :=
  mean ((earlierResponses db response template).map ExamResponse.totalScore)

def fullMarks (db : Db K) (examId : Nat) : K :=
  pySum ((db.questions.select (fun q => q.examTemplateId == examId)).map TemplateQuestion.fullScore)

def scoreRate (db : Db K) (response : ExamResponse K) : K := response.totalScore / fullMarks db response.examTemplateId

/-- `_anomaly_factor` where quotients are those of some arithmetic; `statistics.mean` rounds once. -/
def anomalyFactorIn (arith : Arithmetic K) (db : Db K) (response : ExamResponse K) (template : ExamTemplate) : K :=
  if (earlierResponses db response template).isEmpty then 1
  else
    let avgPrev := arith.fit (averageTotal db response template)
    if avgPrev.le (.fin 0) then 1
    else
      let drop := arith.div (arith.sub avgPrev (.fin response.totalScore)) avgPrev
      if (arith.fit (anomalyScoreDrop K)).lt drop then anomalyWeightFactor K else 1

theorem anomalyFactorIn_exact (db : Db K) (response : ExamResponse K) (template : ExamTemplate) :
    anomalyFactorIn .exact db response template = anomalyFactor db response template := by
  have drop : Arithmetic.exact.div (Arithmetic.exact.sub (.fin (averageTotal db response template)) (.fin response.totalScore))
      (.fin (averageTotal db response template)) =
        .fin ((averageTotal db response template - response.totalScore) / averageTotal db response template) := by
    simp [Arithmetic.div, Arithmetic.exact, Arithmetic.sub, Arithmetic.add, PyFloat.neg, sub_eq_add_neg]
  have unfolded : anomalyFactor db response template =
      if ((earlierResponses db response template).map ExamResponse.totalScore).isEmpty then 1
      else if averageTotal db response template ≤ 0 then 1
      else if anomalyScoreDrop K < (averageTotal db response template - response.totalScore) /
          averageTotal db response template then anomalyWeightFactor K else 1 := rfl
  have fitted : (Arithmetic.exact : Arithmetic K).fit = .fin := rfl
  rw [unfolded, anomalyFactorIn, fitted]
  dsimp only
  rw [drop]
  simp only [List.isEmpty_map, PyFloat.le_fin, PyFloat.lt_fin, decide_eq_true_eq]

section
variable [IsStrictOrderedRing K]

theorem anomalyWeightFactor_ne_one : anomalyWeightFactor K ≠ 1 := by
  unfold anomalyWeightFactor ratio
  norm_num

/-- The total has not dropped more than three tenths below the mean of the earlier totals. -/
def TotalHolds (db : Db K) (response : ExamResponse K) (template : ExamTemplate) : Prop :=
  earlierResponses db response template = [] ∨ averageTotal db response template ≤ 0 ∨
    ratio 7 10 * averageTotal db response template ≤ response.totalScore

theorem anomalyFactor_cases (db : Db K) (response : ExamResponse K) (template : ExamTemplate) :
    TotalHolds db response template ∧ anomalyFactor db response template = 1 ∨
      ¬ TotalHolds db response template ∧ anomalyFactor db response template = anomalyWeightFactor K := by
  have unfolded : anomalyFactor db response template =
      if ((earlierResponses db response template).map ExamResponse.totalScore).isEmpty then 1
      else if averageTotal db response template ≤ 0 then 1
      else if anomalyScoreDrop K < (averageTotal db response template - response.totalScore) /
          averageTotal db response template then anomalyWeightFactor K else 1 := rfl
  rw [unfolded]
  by_cases fresh : earlierResponses db response template = []
  · exact Or.inl ⟨Or.inl fresh, by simp [fresh]⟩
  · have some_ : ((earlierResponses db response template).map ExamResponse.totalScore).isEmpty = false := by
      simpa using fresh
    rw [some_, if_neg Bool.false_ne_true]
    by_cases low : averageTotal db response template ≤ 0
    · exact Or.inl ⟨Or.inr (Or.inl low), if_pos low⟩
    · have positive := not_le.mp low
      have drop : anomalyScoreDrop K < (averageTotal db response template - response.totalScore) /
          averageTotal db response template ↔ ¬ ratio 7 10 * averageTotal db response template ≤ response.totalScore := by
        rw [lt_div_iff₀ positive, not_le]
        unfold anomalyScoreDrop ratio
        push_cast
        constructor
        · intro held
          linarith
        · intro held
          linarith
      rw [if_neg low]
      by_cases kept : ratio 7 10 * averageTotal db response template ≤ response.totalScore
      · exact Or.inl ⟨Or.inr (Or.inr kept), if_neg (fun dropped => drop.mp dropped kept)⟩
      · refine Or.inr ⟨?_, if_pos (drop.mpr kept)⟩
        intro held
        rcases held with none_ | under | near
        · exact fresh none_
        · exact low under
        · exact kept near

theorem anomalyFactor_eq_one_iff {db : Db K} {response : ExamResponse K} {template : ExamTemplate} :
    anomalyFactor db response template = 1 ↔ TotalHolds db response template := by
  rcases anomalyFactor_cases db response template with held | dropped
  · simp [held]
  · simp [dropped, anomalyWeightFactor_ne_one]

theorem anomalyFactor_congr {db db' : Db K} {response response' : ExamResponse K} {template template' : ExamTemplate}
    (same : TotalHolds db' response' template' ↔ TotalHolds db response template) :
    anomalyFactor db' response' template' = anomalyFactor db response template := by
  rcases anomalyFactor_cases db response template with held | dropped
  · rw [held.2]
    exact anomalyFactor_eq_one_iff.mpr (same.mpr held.1)
  · rcases anomalyFactor_cases db' response' template' with held | too
    · exact absurd (same.mp held.1) dropped.1
    · rw [dropped.2, too.2]

/-- On papers of one size a pupil whose rate holds is not anomalous. -/
theorem anomalyFactor_of_rate {db : Db K} {response : ExamResponse K} {template : ExamTemplate} {full : K}
    (positive : 0 < full)
    (papers : ∀ r ∈ response :: earlierResponses db response template, fullMarks db r.examTemplateId = full)
    (held : mean ((earlierResponses db response template).map (scoreRate db)) ≤ scoreRate db response) :
    anomalyFactor db response template = 1 := by
  have own : scoreRate db response = response.totalScore / full := by
    rw [scoreRate, papers response (List.mem_cons_self ..)]
  have rates : (earlierResponses db response template).map (scoreRate db) =
      (earlierResponses db response template).map (fun r => full⁻¹ * r.totalScore) := by
    apply List.map_congr_left
    intro r listed
    rw [scoreRate, papers r (List.mem_cons_of_mem _ listed), div_eq_mul_inv, mul_comm]
  have scaled : mean ((earlierResponses db response template).map (scoreRate db)) =
      averageTotal db response template / full := by
    rw [rates, averageTotal, mean, mean, pySum_eq_sum, pySum_eq_sum, List.sum_map_mul_left, List.length_map,
      List.length_map]
    ring
  rw [own, scaled, div_le_div_iff_of_pos_right positive] at held
  rw [anomalyFactor_eq_one_iff, TotalHolds]
  by_cases low : averageTotal db response template ≤ 0
  · exact Or.inr (Or.inl low)
  · refine Or.inr (Or.inr ?_)
    have above := not_le.mp low
    unfold ratio
    push_cast
    linarith

end

section
omit [LinearOrder K]

/-- The marks of every exam multiplied by a factor of its own: the full scores, the answers and the totals. -/
def markFactor (c : Nat → K) (db : Db K) (questionId : Nat) : K :=
  match db.questions.get? questionId with
  | none => 1
  | some q => c q.examTemplateId

def rescaleQuestion (c : Nat → K) (q : TemplateQuestion K) : TemplateQuestion K :=
  { q with fullScore := c q.examTemplateId * q.fullScore }

theorem key_rescaleQuestion (c : Nat → K) (q : TemplateQuestion K) : Keyed.key (rescaleQuestion c q) = Keyed.key q := rfl

def rescaleAnswer (c : Nat → K) (db : Db K) (a : ResponseAnswer K) : ResponseAnswer K :=
  { a with score := markFactor c db a.templateQuestionId * a.score }

theorem key_rescaleAnswer (c : Nat → K) (db : Db K) (a : ResponseAnswer K) :
    Keyed.key (rescaleAnswer c db a) = Keyed.key a := rfl

def rescaleResponse (c : Nat → K) (r : ExamResponse K) : ExamResponse K :=
  { r with totalScore := c r.examTemplateId * r.totalScore }

theorem key_rescaleResponse (c : Nat → K) (r : ExamResponse K) : Keyed.key (rescaleResponse c r) = Keyed.key r := rfl

def rescale (c : Nat → K) (db : Db K) : Db K :=
  { db with
    questions := db.questions.map (rescaleQuestion c) (key_rescaleQuestion c)
    answers := db.answers.map (rescaleAnswer c db) (key_rescaleAnswer c db)
    responses := db.responses.map (rescaleResponse c) (key_rescaleResponse c) }

end

/-- The events of an answer under a given anomaly factor. -/
def eventsUnder [FloorRing K] (cfg : Config K) (db : Db K) (studentId : Nat) (template : ExamTemplate) (factor : K)
    (answer : ResponseAnswer K) : List (EventRow K) :=
  match db.questions.get? answer.templateQuestionId with
  | none => []
  | some question =>
    let kps := db.questionKps.select (fun qkp => qkp.templateQuestionId == question.id)
    if question.fullScore ≤ 0 ∨ kps = [] then []
    else
      let cascade := if answer.cascadeFlag then cascadeWeightFactor K else 1
      kps.map (fun qkp =>
        { studentId := studentId
          kpId := qkp.kpId
          responseAnswerId := answer.id
          sourceType := template.type
          value := roundTo 6 (answerValue question answer.score)
          weight := roundTo 6 (sourceTypeWeight template.type * qkp.weight * cascade * factor * mixFactor cfg kps.length)
          cogLevel := question.cogLevel
          classAvgRate := (classQuestionRates db template).get? question.id
          occurredAt := noon template.examDate })

/-- An event without its weight. -/
def unweighted (e : EvidenceEvent K) : EvidenceEvent K := { e with weight := 0 }

def EventRow.unweighted (row : EventRow K) : EventRow K := { row with weight := 0 }

section
variable [IsStrictOrderedRing K] {c : Nat → K} (positive : ∀ examId, 0 < c examId) (db : Db K)
include positive

omit positive [LinearOrder K] [IsStrictOrderedRing K] in
theorem answersOf_rescale (responseId : Nat) :
    answersOf (rescale c db) responseId = (answersOf db responseId).map (rescaleAnswer c db) := by
  unfold answersOf Table.select rescale
  rw [Table.rows_map, List.filter_map]
  rfl

omit positive [LinearOrder K] [IsStrictOrderedRing K] in
theorem alreadyDerived_rescale (responseId : Nat) :
    alreadyDerived (rescale c db) responseId = alreadyDerived db responseId := by
  unfold alreadyDerived
  rw [answersOf_rescale]
  simp only [List.any_map]
  rfl

omit positive [LinearOrder K] [IsStrictOrderedRing K] in
theorem question_rescale (questionId : Nat) :
    (rescale c db).questions.get? questionId = (db.questions.get? questionId).map (rescaleQuestion c) :=
  Table.get?_map _ _ (key_rescaleQuestion c) _

omit positive [LinearOrder K] [IsStrictOrderedRing K] in
theorem response_rescale (responseId : Nat) :
    (rescale c db).responses.get? responseId = (db.responses.get? responseId).map (rescaleResponse c) :=
  Table.get?_map _ _ (key_rescaleResponse c) _

omit [IsStrictOrderedRing K] in
theorem rate_rescale {q : TemplateQuestion K} {a : ResponseAnswer K}
    (asked : db.questions.get? a.templateQuestionId = some q) :
    (rescaleAnswer c db a).score / (rescaleQuestion c q).fullScore = a.score / q.fullScore := by
  have factor : markFactor c db a.templateQuestionId = c q.examTemplateId := by
    rw [markFactor, asked]
  dsimp only [rescaleAnswer, rescaleQuestion]
  rw [factor, mul_div_mul_left _ _ (positive _).ne']

theorem fullScore_rescale (q : TemplateQuestion K) : 0 < (rescaleQuestion c q).fullScore ↔ 0 < q.fullScore :=
  mul_pos_iff_of_pos_left (positive _)

variable [FloorRing K]

theorem classQuestionRates_rescale (template : ExamTemplate) :
    classQuestionRates (rescale c db) template = classQuestionRates db template := by
  unfold classQuestionRates
  dsimp only
  congr 2
  rw [show (rescale c db).answers.rows = db.answers.rows.map (rescaleAnswer c db) from rfl, List.filterMap_map]
  apply List.filterMap_congr
  intro a _
  rw [Function.comp_apply]
  have response := response_rescale (c := c) db a.examResponseId
  have question := question_rescale (c := c) db a.templateQuestionId
  dsimp only [rescaleAnswer]
  rw [response, question]
  cases db.responses.get? a.examResponseId with
  | none => rfl
  | some r =>
    cases asked : db.questions.get? a.templateQuestionId with
    | none => rfl
    | some q =>
      have rate := rate_rescale positive db asked
      dsimp only [rescaleAnswer] at rate
      simp only [Option.map_some, rate, fullScore_rescale positive]
      rfl

theorem eventsUnder_rescale (cfg : Config K) (studentId : Nat) (template : ExamTemplate) (factor : K)
    (a : ResponseAnswer K) :
    eventsUnder cfg (rescale c db) studentId template factor (rescaleAnswer c db a) =
      eventsUnder cfg db studentId template factor a := by
  unfold eventsUnder
  rw [show (rescale c db).questions.get? (rescaleAnswer c db a).templateQuestionId =
    (db.questions.get? a.templateQuestionId).map (rescaleQuestion c) from question_rescale db a.templateQuestionId]
  cases asked : db.questions.get? a.templateQuestionId with
  | none => rfl
  | some q =>
    have value : answerValue (rescaleQuestion c q) (rescaleAnswer c db a).score = answerValue q a.score := by
      unfold answerValue
      rw [rate_rescale positive db asked]
      rfl
    have empty : (rescaleQuestion c q).fullScore ≤ 0 ↔ q.fullScore ≤ 0 := by
      rw [← not_lt, ← not_lt, fullScore_rescale positive]
    dsimp only [Option.map_some]
    rw [value, classQuestionRates_rescale positive]
    simp only [empty]
    rfl

/-- The events with those of a response, under a given anomaly factor. -/
def filedUnder (cfg : Config K) (db : Db K) (response : ExamResponse K) (template : ExamTemplate) (factor : K) :
    Table (EvidenceEvent K) × Nat :=
  let rows := (answersOf db response.id).flatMap (eventsUnder cfg db response.studentId template factor)
  (db.events.upsertAll (eventWriter K) rows, rows.length)

theorem filedUnder_rescale (cfg : Config K) (response : ExamResponse K) (template : ExamTemplate) (factor : K) :
    filedUnder cfg (rescale c db) (rescaleResponse c response) template factor =
      filedUnder cfg db response template factor := by
  have rows : (answersOf (rescale c db) response.id).flatMap
      (eventsUnder cfg (rescale c db) response.studentId template factor) =
      (answersOf db response.id).flatMap (eventsUnder cfg db response.studentId template factor) := by
    rw [answersOf_rescale, List.flatMap_map]
    simp only [eventsUnder_rescale positive]
  unfold filedUnder
  dsimp only [rescaleResponse]
  rw [rows]
  rfl

/-- Other marks change a derivation only in the anomaly factor. -/
theorem derive_rescale_cases (cfg : Config K) (responseId : Nat) :
    deriveEventsForResponse cfg (rescale c db) responseId = deriveEventsForResponse cfg db responseId ∨
      ∃ response template, db.responses.get? responseId = some response ∧
        db.templates.get? response.examTemplateId = some template ∧
        deriveEventsForResponse cfg db responseId =
          .ok (filedUnder cfg db response template (anomalyFactor db response template)) ∧
        deriveEventsForResponse cfg (rescale c db) responseId = .ok (filedUnder cfg db response template
          (anomalyFactor (rescale c db) (rescaleResponse c response) template)) := by
  unfold deriveEventsForResponse
  rw [response_rescale]
  cases found : db.responses.get? responseId with
  | none => exact Or.inl rfl
  | some response =>
    dsimp only [Option.map_some]
    rw [show (rescaleResponse c response).status = response.status from rfl]
    by_cases submitted : response.status ≠ .submitted
    · rw [if_pos submitted, if_pos submitted]
      exact Or.inl rfl
    · rw [if_neg submitted, if_neg submitted]
      rw [show (rescale c db).templates.get? (rescaleResponse c response).examTemplateId =
        db.templates.get? response.examTemplateId from rfl]
      cases scheduled : db.templates.get? response.examTemplateId with
      | none => exact Or.inl rfl
      | some template =>
        dsimp only
        rw [show (rescaleResponse c response).id = response.id from rfl, alreadyDerived_rescale]
        by_cases before : alreadyDerived db response.id = true
        · rw [if_pos before, if_pos before]
          exact Or.inl rfl
        · rw [if_neg before, if_neg before]
          refine Or.inr ⟨response, template, rfl, scheduled, rfl, ?_⟩
          rw [← filedUnder_rescale positive db cfg response template]
          rfl

omit positive [LinearOrder K] [IsStrictOrderedRing K] [FloorRing K] in
theorem earlierResponses_rescale (response : ExamResponse K) (template : ExamTemplate) :
    earlierResponses (rescale c db) (rescaleResponse c response) template =
      (earlierResponses db response template).map (rescaleResponse c) := by
  unfold earlierResponses Table.select rescale
  rw [Table.rows_map, List.filter_map]
  rfl

omit [FloorRing K] in
/-- One factor for all the exams that are compared leaves the comparison. -/
theorem anomalyFactor_rescale {response : ExamResponse K} {template : ExamTemplate}
    (alike : ∀ r ∈ earlierResponses db response template, c r.examTemplateId = c response.examTemplateId) :
    anomalyFactor (rescale c db) (rescaleResponse c response) template = anomalyFactor db response template := by
  have heavy := positive response.examTemplateId
  have average : averageTotal (rescale c db) (rescaleResponse c response) template =
      c response.examTemplateId * averageTotal db response template := by
    have totals : (earlierResponses (rescale c db) (rescaleResponse c response) template).map ExamResponse.totalScore =
        (earlierResponses db response template).map (fun r => c response.examTemplateId * r.totalScore) := by
      rw [earlierResponses_rescale, List.map_map]
      apply List.map_congr_left
      intro r listed
      dsimp only [Function.comp_apply, rescaleResponse]
      rw [alike r listed]
    rw [averageTotal, totals, averageTotal, mean, mean, pySum_eq_sum, pySum_eq_sum, List.sum_map_mul_left,
      List.length_map, List.length_map, mul_div_assoc]
  have low : c response.examTemplateId * averageTotal db response template ≤ 0 ↔
      averageTotal db response template ≤ 0 := by
    rw [← not_lt, ← not_lt, mul_pos_iff_of_pos_left heavy]
  have near : ratio 7 10 * (c response.examTemplateId * averageTotal db response template) ≤
      (rescaleResponse c response).totalScore ↔
      ratio 7 10 * averageTotal db response template ≤ response.totalScore := by
    rw [mul_left_comm]
    exact mul_le_mul_iff_right₀ heavy
  apply anomalyFactor_congr
  rw [TotalHolds, TotalHolds, earlierResponses_rescale, List.map_eq_nil_iff, average, low, near]

end

/-- A derivation without the weights of its events. -/
def withoutWeights (filed : Table (EvidenceEvent K) × Nat) : List (EvidenceEvent K) × Nat :=
  (filed.1.rows.map unweighted, filed.2)

section
variable [FloorRing K]

theorem filedUnder_withoutWeights (cfg : Config K) (db : Db K) (response : ExamResponse K) (template : ExamTemplate)
    (f f' : K) : withoutWeights (filedUnder cfg db response template f) =
      withoutWeights (filedUnder cfg db response template f') := by
  have each : ∀ a, (eventsUnder cfg db response.studentId template f a).map EventRow.unweighted =
      (eventsUnder cfg db response.studentId template f' a).map EventRow.unweighted := by
    intro a
    unfold eventsUnder
    split
    · rfl
    · dsimp only
      split
      · rfl
      · rw [List.map_map, List.map_map]
        rfl
  have rows : ((answersOf db response.id).flatMap (eventsUnder cfg db response.studentId template f)).map
      EventRow.unweighted =
      ((answersOf db response.id).flatMap (eventsUnder cfg db response.studentId template f')).map
        EventRow.unweighted := by
    rw [List.map_flatMap, List.map_flatMap]
    simp only [each]
  have filed : ∀ (rows : List (EventRow K)) next, ((eventWriter K).added rows next).map unweighted =
      (rows.map EventRow.unweighted).mapIdx (fun n row => row.store (next + n)) := by
    intro rows next
    have all : rows.filter (fun row => ((eventWriter K).target row).isNone) = rows :=
      List.filter_eq_self.mpr (fun _ _ => rfl)
    unfold Table.Writer.added
    rw [all]
    apply List.ext_getElem
    · simp
    · intro n left right
      simp only [List.getElem_map, List.getElem_mapIdx]
      rfl
  have size := congrArg List.length rows
  rw [List.length_map, List.length_map] at size
  unfold withoutWeights filedUnder
  dsimp only
  rw [rows_upsertAll_events, rows_upsertAll_events, List.map_append, List.map_append, filed, filed, rows, size]

/-- Marks and evidence, as the totals are compared: what the factor is, when a rate that holds is enough, and what other
    marks change. -/
structure ComparesTotals (cfg : Config K) (db : Db K) : Prop where
  factor : ∀ response template, anomalyFactor db response template = 1 ↔ TotalHolds db response template
  rate : ∀ response template full, 0 < full →
    (∀ r ∈ response :: earlierResponses db response template, fullMarks db r.examTemplateId = full) →
    mean ((earlierResponses db response template).map (scoreRate db)) ≤ scoreRate db response →
    anomalyFactor db response template = 1
  values : ∀ c : Nat → K, (∀ examId, 0 < c examId) → ∀ responseId,
    (deriveEventsForResponse cfg (rescale c db) responseId).map withoutWeights =
      (deriveEventsForResponse cfg db responseId).map withoutWeights
  verdict : ∀ c : Nat → K, (∀ examId, 0 < c examId) → ∀ responseId,
    (∀ response template, db.responses.get? responseId = some response →
      db.templates.get? response.examTemplateId = some template →
      (TotalHolds (rescale c db) (rescaleResponse c response) template ↔ TotalHolds db response template)) →
    deriveEventsForResponse cfg (rescale c db) responseId = deriveEventsForResponse cfg db responseId
  weights : ∀ c : Nat → K, (∀ examId, 0 < c examId) → ∀ responseId,
    (∀ response template, db.responses.get? responseId = some response →
      ∀ r ∈ earlierResponses db response template, c r.examTemplateId = c response.examTemplateId) →
    deriveEventsForResponse cfg (rescale c db) responseId = deriveEventsForResponse cfg db responseId

/-- The verdict on an exam compares totals, whatever papers they come from. -/
theorem compares_totals [IsStrictOrderedRing K] (cfg : Config K) (db : Db K) : ComparesTotals cfg db where
  factor _ _ := anomalyFactor_eq_one_iff
  rate _ _ _ positive papers held := anomalyFactor_of_rate positive papers held
  values c positive responseId := by
    rcases derive_rescale_cases positive db cfg responseId with same | other
    · rw [same]
    · have ⟨response, template, _, _, before, after⟩ := other
      rw [before, after, Except.map, Except.map, filedUnder_withoutWeights]
  verdict c positive responseId holds := by
    rcases derive_rescale_cases positive db cfg responseId with same | other
    · exact same
    · have ⟨response, template, found, scheduled, before, after⟩ := other
      rw [before, after, anomalyFactor_congr (holds response template found scheduled)]
  weights c positive responseId alike := by
    rcases derive_rescale_cases positive db cfg responseId with same | other
    · exact same
    · have ⟨response, template, found, _, before, after⟩ := other
      rw [before, after, anomalyFactor_rescale positive db (alike response template found)]

end

/-- The marks of one exam multiplied. -/
def onlyExam (examId : Nat) (k : K) : Nat → K := fun e => if e = examId then k else 1

def finalExam : ExamTemplate := ⟨1, 1, 0, .final, .other "upload"⟩

def weekQuiz : ExamTemplate := ⟨2, 1, 7, .practice, .other "upload"⟩

def quizAnswers : ExamResponse ℚ := ⟨2, 2, 1, 20, .submitted⟩

/-- Ninety of a hundred in the final, and then all of a quiz of twenty. -/
def quizAfterFinal : Db ℚ :=
  { Db.empty ℚ with
    templates := .ofList [finalExam, weekQuiz]
    questions := .ofList [⟨1, 1, 0, "1", .other "填空", 100, .apply, 0, none⟩, ⟨2, 2, 0, "1", .other "填空", 20, .apply, 0, none⟩]
    questionKps := .ofList [⟨1, 1, 9, 1⟩, ⟨2, 2, 9, 1⟩]
    responses := .ofList [⟨1, 1, 1, 90, .submitted⟩, quizAnswers]
    answers := .ofList [⟨1, 1, 1, 90, false⟩, ⟨2, 2, 2, 20, false⟩] }

theorem compares_totals_quiz : ComparesTotals Config.rational quizAfterFinal :=
  compares_totals Config.rational quizAfterFinal

/-- Seven exams of one class, and then one with seven tenths of their mean; all totals multiplied. -/
def sevenTenths (k : ℚ) : Db ℚ :=
  { Db.empty ℚ with
    templates := .ofList ((List.range 8).map (fun n => ⟨n + 1, 1, n, .unit, .other "upload"⟩))
    responses := .ofList ([47, 47, 47, 47, 47, 47, 48, 33].mapIdx (fun n total => ⟨n + 1, n + 1, 1, k * total, .submitted⟩)) }

/-- The factor of the last of them. -/
def lastFactor (arith : Arithmetic ℚ) (k : ℚ) : ℚ :=
  anomalyFactorIn arith (sevenTenths k) ⟨8, 8, 1, k * 33, .submitted⟩ ⟨8, 1, 7, .unit, .other "upload"⟩

/-- A higher rate is called anomalous, and a longer paper at the same rate is not. With floats of 64 bits a total of
    exactly seven tenths of the mean counts as a drop or not with the unit the marks are given in. -/
theorem quiz_after_final_anomalous :
    (mean ((earlierResponses quizAfterFinal quizAnswers weekQuiz).map (scoreRate quizAfterFinal)) ≤
        scoreRate quizAfterFinal quizAnswers ∧
      anomalyFactor quizAfterFinal quizAnswers weekQuiz = 1 / 2) ∧
      (deriveEventsForResponse Config.rational quizAfterFinal 2).toOption.map
        (fun filed => filed.1.rows.map EvidenceEvent.weight) = some [1 / 4] ∧
      (deriveEventsForResponse Config.rational (rescale (onlyExam 2 5) quizAfterFinal) 2).toOption.map
        (fun filed => filed.1.rows.map EvidenceEvent.weight) = some [1 / 2] ∧
      lastFactor .exact 1 = 1 ∧ lastFactor binary64 1 = 1 / 2 ∧ lastFactor binary64 3 = 1 := by
  decide +kernel

end KnowledgeGap
