import KnowledgeGap.Ingestion.Bank
import KnowledgeGap.Ingestion.OrderFree
import KnowledgeGap.Ingestion.Preflight

namespace KnowledgeGap.Ingestion

open Relational

variable {K : Type}

/-- What the tables hold of an exam besides what the analysis reads, each column under the key of its row. -/
structure Margin (K : Type) where
  reviewed : Nat → Bool
  source : Nat → ResponseSource
  sourceWarnings : Nat → Option (List String)
  chosenOption : Nat → Option String
  parseConfidence : Nat → PyFloat K

def Margin.question (m : Margin K) (db : Db K) (q : TemplateQuestion K) : QuestionRow K :=
  ⟨q.id, q.idx, q.qType, .fin q.fullScore, (questionKpsOf db q.id).map (fun tag => m.reviewed tag.id)⟩

def Margin.response (m : Margin K) (r : ExamResponse K) : ResponseRow K :=
  ⟨r.id, r.studentId, .fin r.totalScore, m.source r.id, r.status, m.sourceWarnings r.id⟩

def Margin.answer (m : Margin K) (a : ResponseAnswer K) : AnswerRow K :=
  ⟨a.id, a.examResponseId, a.templateQuestionId, .fin a.score, m.chosenOption a.id, m.parseConfidence a.id⟩

theorem Margin.key_question (m : Margin K) (db : Db K) (q : TemplateQuestion K) : Keyed.key (m.question db q) = Keyed.key q := rfl

theorem Margin.key_response (m : Margin K) (r : ExamResponse K) : Keyed.key (m.response r) = Keyed.key r := rfl

theorem Margin.key_answer (m : Margin K) (a : ResponseAnswer K) : Keyed.key (m.answer a) = Keyed.key a := rfl

/-- What the preflight reads of an exam. -/
def intakeOf (m : Margin K) (db : Db K) (template : ExamTemplate) : Intake K where
  examId := template.id
  source := template.source
  targeted := (diagnosticTask db template).isSome
  roster := examStudents db template
  questions := db.questions.view (fun q => q.examTemplateId == template.id) (m.question db) (m.key_question db)
  responses := db.responses.view (fun r => r.examTemplateId == template.id) m.response m.key_response
  answers := db.answers.view (fun _ => true) m.answer m.key_answer

theorem answersOf_intakeOf (m : Margin K) (db : Db K) (template : ExamTemplate) (responseId : Nat) :
    (intakeOf m db template).answersOf responseId = (answersOf db responseId).map m.answer := by
  show ((db.answers.rows.filter (fun _ => true)).map m.answer).filter _ = (db.answers.rows.filter _).map m.answer
  rw [List.filter_true, List.filter_map]
  rfl

theorem mem_responsesOf {db : Db K} {templateId : Nat} {r : ExamResponse K} :
    r ∈ responsesOf db templateId ↔ r ∈ db.responses.rows ∧ r.examTemplateId = templateId := by
  rw [responsesOf, Table.select, List.mem_filter, beq_iff_eq]

theorem mem_answersOf_db {db : Db K} {responseId : Nat} {a : ResponseAnswer K} :
    a ∈ answersOf db responseId ↔ a ∈ db.answers.rows ∧ a.examResponseId = responseId := by
  rw [answersOf, Table.select, List.mem_filter, beq_iff_eq]

section
variable [Field K] [LinearOrder K]

/-- An answer to a question of some worth, within its bounds. -/
def Marked (db : Db K) (a : ResponseAnswer K) : Prop :=
  ∃ q, db.questions.get? a.templateQuestionId = some q ∧ 0 < q.fullScore ∧ 0 ≤ a.score ∧ a.score ≤ q.fullScore

/-- A response that a commit takes. -/
structure Fitting (db : Db K) (template : ExamTemplate) (r : ExamResponse K) : Prop where
  awaiting : r.status = .pendingReview
  pupil : assertExamStudent db template r.studentId = .ok ()
  marked : ∀ a ∈ answersOf db r.id, Marked db a

/-- What the preflight lets through, a commit can take. -/
theorem fitting_of_ready [IsStrictOrderedRing K] {m : Margin K} {db : Db K} {template : ExamTemplate}
    (ready : Ready (intakeOf m db template)) {r : ExamResponse K} (listed : r ∈ responsesOf db template.id)
    (open_ : r.status ≠ .submitted) : Fitting db template r := by
  have member : m.response r ∈ (intakeOf m db template).responses.rows := List.mem_map_of_mem listed
  have clear := ready.clear (m.response r) member open_
  refine ⟨clear.awaiting, assertExamStudent_of_mem clear.member, ?_⟩
  intro a given
  have among : m.answer a ∈ (intakeOf m db template).answersOf r.id := by
    rw [answersOf_intakeOf]
    exact List.mem_map_of_mem given
  obtain ⟨row, asked, range⟩ := (Option.any_eq_true _ _).mp (clear.answers _ among).1
  obtain ⟨q, found, _, rfl⟩ := Table.get?_view_eq_some (m.key_question db) asked
  have worth := (ready.worth _ (Table.get?_mem asked)).2
  have positive : 0 < q.fullScore := by simpa [Margin.question] using worth
  have bounds : ((PyFloat.fin a.score).isFinite = true ∧ 0 ≤ a.score) ∧ a.score ≤ q.fullScore := by
    simpa [scoreInRange, Margin.question, Margin.answer] using range
  exact ⟨q, found, positive, bounds.1.2, bounds.2⟩

def optionCount (q : TemplateQuestion K) : Nat :=
  match q.nOptions with
  | none | some 0 => defaultChoiceOptions
  | some n => n

/-- The part of the full score a pupil has earned, less what guessing alone would bring on a choice question. -/
def earned (q : TemplateQuestion K) (score : K) : K :=
  let rate := score / q.fullScore
  match q.qType with
  | .choice =>
    let g : K := 1 / (max 2 (optionCount q) : Nat)
    max 0 ((rate - g) / (1 - g))
  | .other _ => rate

theorem guess_bounds [IsStrictOrderedRing K] (n : Nat) : 0 < (1 : K) / (max 2 n : Nat) ∧ (1 : K) / (max 2 n : Nat) < 1 := by
  have two : 2 ≤ max 2 n := Nat.le_max_left 2 n
  have large : (1 : K) < (max 2 n : Nat) := by exact_mod_cast two
  have positive : (0 : K) < (max 2 n : Nat) := lt_trans one_pos large
  exact ⟨div_pos one_pos positive, (div_lt_one positive).mpr large⟩

theorem rate_bounds [IsStrictOrderedRing K] {full score : K} (worth : 0 < full) (low : 0 ≤ score) (high : score ≤ full) :
    0 ≤ score / full ∧ score / full ≤ 1 :=
  ⟨div_nonneg low (le_of_lt worth), (div_le_one worth).mpr high⟩

theorem earned_bounds [IsStrictOrderedRing K] {q : TemplateQuestion K} {score : K} (worth : 0 < q.fullScore) (low : 0 ≤ score)
    (high : score ≤ q.fullScore) : 0 ≤ earned q score ∧ earned q score ≤ 1 := by
  obtain ⟨above, below⟩ := rate_bounds worth low high
  unfold earned
  dsimp only
  split
  · obtain ⟨_, less⟩ := guess_bounds (K := K) (optionCount q)
    refine ⟨le_max_left _ _, max_le zero_le_one ?_⟩
    rw [div_le_one (sub_pos.mpr less)]
    exact sub_le_sub_right below _
  · exact ⟨above, below⟩

/-- The bounds on the rate never take effect. -/
theorem answerValue_eq_earned [IsStrictOrderedRing K] {q : TemplateQuestion K} {score : K} (worth : 0 < q.fullScore)
    (low : 0 ≤ score) (high : score ≤ q.fullScore) : answerValue q score = earned q score := by
  obtain ⟨above, below⟩ := rate_bounds worth low high
  unfold answerValue earned
  rw [min_eq_right below, max_eq_right above]
  rfl

end

/-- What is said of an event. -/
structure Fact (K : Type) where
  studentId : Nat
  kpId : Nat
  responseAnswerId : Nat
  value : K
  weight : K
  occurredAt : DateTime
  deriving DecidableEq, Repr

def factOf (ev : EvidenceEvent K) : Fact K := ⟨ev.studentId, ev.kpId, ev.responseAnswerId, ev.value, ev.weight, ev.occurredAt⟩

/-- The events that were derived from the answers of a response. -/
def eventsIn (db : Db K) (events : Table (EvidenceEvent K)) (responseId : Nat) : List (EvidenceEvent K) :=
  events.select (fun ev => (answersOf db responseId).any (fun a => a.id == ev.responseAnswerId))

def eventsOf (db : Db K) (responseId : Nat) : List (EvidenceEvent K) := eventsIn db db.events responseId

section
variable [Field K] [LinearOrder K] [FloorRing K] (cfg : Config K)

/-- The event one tag of a question makes of one answer. -/
def owedEvent (db : Db K) (template : ExamTemplate) (r : ExamResponse K) (a : ResponseAnswer K) (q : TemplateQuestion K)
    (tag : QuestionKp K) : Fact K where
  studentId := r.studentId
  kpId := tag.kpId
  responseAnswerId := a.id
  value := roundTo 6 (earned q a.score)
  weight := roundTo 6 (sourceTypeWeight template.type * tag.weight * (if a.cascadeFlag then cascadeWeightFactor K else 1) *
    anomalyFactor db r template * mixFactor cfg (questionKpsOf db q.id).length)
  occurredAt := noon template.examDate

def owedOf (db : Db K) (template : ExamTemplate) (r : ExamResponse K) (a : ResponseAnswer K) : List (Fact K) :=
  match db.questions.get? a.templateQuestionId with
  | none => []
  | some q => (questionKpsOf db q.id).map (owedEvent cfg db template r a q)

/-- One event for each answer and each tag of its question. -/
def owed (db : Db K) (template : ExamTemplate) (r : ExamResponse K) : List (Fact K) :=
  (answersOf db r.id).flatMap (owedOf cfg db template r)

variable {cfg}

theorem owed_value_bounds [IsStrictOrderedRing K] {db : Db K} {template : ExamTemplate} {r : ExamResponse K}
    (fitting : Fitting db template r) {fact : Fact K} (listed : fact ∈ owed cfg db template r) :
    0 ≤ fact.value ∧ fact.value ≤ 1 := by
  obtain ⟨a, given, made⟩ := List.mem_flatMap.mp listed
  obtain ⟨q, found, worth, low, high⟩ := fitting.marked a given
  unfold owedOf at made
  rw [found] at made
  obtain ⟨tag, _, rfl⟩ := List.mem_map.mp made
  obtain ⟨above, below⟩ := earned_bounds worth low high
  have zero : roundTo 6 (0 : K) = 0 := by simpa using roundTo_intCast (K := K) 6 0
  have one : roundTo 6 (1 : K) = 1 := by simpa using roundTo_intCast (K := K) 6 1
  exact ⟨zero ▸ roundTo_mono 6 above, one ▸ roundTo_mono 6 below⟩

end

/-- The tables while a commit is on its way: the responses in `done` are submitted. -/
def stage (db : Db K) (done : List Nat) (events : Table (EvidenceEvent K)) : Db K :=
  { db with
    responses := db.responses.updateWhere (fun r => decide (r.id ∈ done)) submit key_submit
    events := events }

theorem submitted_stage (db : Db K) (done : List Nat) (events : Table (EvidenceEvent K)) (id : Nat) :
    submitted (stage db done events) id = stage db (done ++ [id]) events := by
  have marks : (fun r : ExamResponse K => decide (r.id ∈ done) || Keyed.key r == id) =
      fun r => decide (r.id ∈ done ++ [id]) := by
    funext r
    rw [Bool.eq_iff_iff]
    simp [Keyed.key]
  have both := db.responses.modify_updateWhere (fun r => decide (r.id ∈ done)) key_submit (fun _ => rfl) id
  rw [marks] at both
  unfold submitted stage
  dsimp only
  rw [both]

section
variable [Field K] [LinearOrder K] [FloorRing K] {cfg : Config K}

omit [FloorRing K] in
/-- Only exams of earlier days count, so a commit does not see what it has done itself. -/
theorem anomalyFactor_stage {db : Db K} {template : ExamTemplate} (known : db.templates.get? template.id = some template)
    {done : List Nat} (own : ∀ id ∈ done, ∃ r ∈ responsesOf db template.id, r.id = id) (events : Table (EvidenceEvent K))
    (r : ExamResponse K) : anomalyFactor (stage db done events) (submit r) template = anomalyFactor db r template := by
  have past : (stage db done events).responses.select (fun s => s.studentId == r.studentId && decide (s.status = .submitted) &&
      (db.templates.get? s.examTemplateId).any (fun t => decide (t.examDate < template.examDate))) =
      db.responses.select (fun s => s.studentId == r.studentId && decide (s.status = .submitted) &&
        (db.templates.get? s.examTemplateId).any (fun t => decide (t.examDate < template.examDate))) := by
    have today : ∀ s ∈ db.responses.rows, s.id ∈ done → s.examTemplateId = template.id := by
      intro s stored marked
      obtain ⟨r, listed, same⟩ := own s.id marked
      obtain ⟨among, exam⟩ := mem_responsesOf.mp listed
      rw [← db.responses.key_inj among stored same]
      exact exam
    apply filter_map_of_fixed
    · intro s stored
      by_cases marked : s.id ∈ done
      · simp [marked, submit, today s stored marked, known]
      · simp [marked]
    · intro s stored counted
      by_cases marked : s.id ∈ done
      · simp [today s stored marked, known] at counted
      · simp [marked]
  unfold anomalyFactor
  rw [← past]
  rfl

def rowFact (row : EventRow K) : Fact K :=
  ⟨row.studentId, row.kpId, row.responseAnswerId, row.value, row.weight, row.occurredAt⟩

theorem eventsOfAnswer_stage [IsStrictOrderedRing K] {db : Db K} {template : ExamTemplate}
    (known : db.templates.get? template.id = some template) {done : List Nat}
    (own : ∀ id ∈ done, ∃ r ∈ responsesOf db template.id, r.id = id) (events : Table (EvidenceEvent K)) (r : ExamResponse K)
    {a : ResponseAnswer K} (marked : Marked db a) :
    (eventsOfAnswer cfg (stage db done events) (submit r) template a).map rowFact = owedOf cfg db template r a := by
  obtain ⟨q, found, worth, low, high⟩ := marked
  have asked : (stage db done events).questions.get? a.templateQuestionId = some q := found
  have tags : (stage db done events).questionKps.select (fun tag => tag.templateQuestionId == q.id) = questionKpsOf db q.id := rfl
  unfold eventsOfAnswer owedOf
  rw [asked, found]
  dsimp only
  rw [tags, anomalyFactor_stage known own]
  split
  · rename_i nothing
    have untagged := nothing.resolve_left (not_le.mpr worth)
    rw [untagged]
    rfl
  · rw [List.map_map]
    apply List.map_congr_left
    intro tag _
    simp only [Function.comp, rowFact, owedEvent, answerValue_eq_earned worth low high]
    rfl

variable (cfg) in
/-- The event rows that a commit makes of a response it has just submitted. -/
def newRows (db : Db K) (template : ExamTemplate) (done : List Nat) (events : Table (EvidenceEvent K)) (r : ExamResponse K) :
    List (EventRow K) :=
  (answersOf db r.id).flatMap (eventsOfAnswer cfg (stage db done events) (submit r) template)

theorem newRows_facts [IsStrictOrderedRing K] {db : Db K} {template : ExamTemplate}
    (known : db.templates.get? template.id = some template) {done : List Nat}
    (own : ∀ id ∈ done, ∃ r ∈ responsesOf db template.id, r.id = id) (events : Table (EvidenceEvent K)) {r : ExamResponse K}
    (fitting : Fitting db template r) : (newRows cfg db template done events r).map rowFact = owed cfg db template r := by
  unfold newRows owed
  rw [List.map_flatMap]
  apply List.flatMap_congr
  intro a given
  exact eventsOfAnswer_stage known own events r (fitting.marked a given)

variable (cfg) in
theorem deriveEventsForResponse_stage {db : Db K} {template : ExamTemplate}
    (known : db.templates.get? template.id = some template) {done : List Nat} {events : Table (EvidenceEvent K)}
    {r : ExamResponse K} (listed : r ∈ responsesOf db template.id) (marked : r.id ∈ done) (fresh : eventsIn db events r.id = []) :
    deriveEventsForResponse cfg (stage db done events) r.id =
      .ok (events.upsertAll (eventWriter K) (newRows cfg db template done events r), (newRows cfg db template done events r).length) := by
  obtain ⟨stored, exam⟩ := mem_responsesOf.mp listed
  have found : (stage db done events).responses.get? r.id = some (submit r) :=
    Table.get?_updateWhere_of_pos key_submit (Table.get?_of_mem stored) (by simpa using marked)
  have scheduled : (stage db done events).templates.get? (submit r).examTemplateId = some template := by
    rw [← known, ← exam]
    rfl
  have first : alreadyDerived (stage db done events) (submit r).id = false := by
    rw [alreadyDerived, List.any_eq_false]
    exact List.filter_eq_nil_iff.mp fresh
  unfold deriveEventsForResponse
  rw [found]
  dsimp only
  rw [if_neg (by simp [submit]), scheduled]
  dsimp only
  rw [first]
  rfl

omit [Field K] [LinearOrder K] [FloorRing K] in
/-- An answer belongs to one response. -/
theorem answersOf_apart {db : Db K} {id other : Nat} (apart : other ≠ id) {a b : ResponseAnswer K} (left : a ∈ answersOf db id)
    (right : b ∈ answersOf db other) : b.id ≠ a.id := by
  intro same
  obtain ⟨mine, owner⟩ := mem_answersOf_db.mp left
  obtain ⟨theirs, other_owner⟩ := mem_answersOf_db.mp right
  rw [db.answers.key_inj theirs mine same, owner] at other_owner
  exact apart other_owner.symm

theorem newRows_source {db : Db K} {template : ExamTemplate} {done : List Nat} {events : Table (EvidenceEvent K)}
    {r : ExamResponse K} {ev : EvidenceEvent K} {next : Nat}
    (new : ev ∈ (eventWriter K).added (newRows cfg db template done events r) next) :
    ∃ a ∈ answersOf db r.id, ev.responseAnswerId = a.id := by
  obtain ⟨row, listed, _, n, _, rfl⟩ := Table.Writer.mem_added _ new
  obtain ⟨a, given, made⟩ := List.mem_flatMap.mp listed
  exact ⟨a, given, (mem_eventsOfAnswer made).2.1⟩

theorem eventsIn_own {db : Db K} {template : ExamTemplate} {done : List Nat} {events : Table (EvidenceEvent K)}
    {r : ExamResponse K} (fresh : eventsIn db events r.id = []) :
    eventsIn db (events.upsertAll (eventWriter K) (newRows cfg db template done events r)) r.id =
      (eventWriter K).added (newRows cfg db template done events r) events.nextId := by
  unfold eventsIn Table.select at fresh ⊢
  rw [rows_upsertAll_events, List.filter_append, fresh, List.nil_append, List.filter_eq_self]
  intro ev new
  obtain ⟨a, given, origin⟩ := newRows_source new
  rw [List.any_eq_true]
  exact ⟨a, given, by simp [origin]⟩

theorem eventsIn_other {db : Db K} {template : ExamTemplate} {done : List Nat} {events : Table (EvidenceEvent K)}
    {r : ExamResponse K} {id : Nat} (apart : id ≠ r.id) :
    eventsIn db (events.upsertAll (eventWriter K) (newRows cfg db template done events r)) id = eventsIn db events id := by
  have none : ((eventWriter K).added (newRows cfg db template done events r) events.nextId).filter
      (fun ev => (answersOf db id).any (fun a => a.id == ev.responseAnswerId)) = [] := by
    rw [List.filter_eq_nil_iff]
    intro ev new counted
    obtain ⟨a, given, origin⟩ := newRows_source new
    obtain ⟨b, theirs, same⟩ := List.any_eq_true.mp counted
    exact answersOf_apart apart given theirs ((beq_iff_eq.mp same).trans origin)
  unfold eventsIn Table.select
  rw [rows_upsertAll_events, List.filter_append, none, List.append_nil]

variable (cfg) in
/-- How far a commit has come: the responses in `done` have their events, and all others have what they had. -/
structure Progress (db : Db K) (template : ExamTemplate) (done : List Nat) (events : Table (EvidenceEvent K)) : Prop where
  own : ∀ id ∈ done, ∃ r ∈ responsesOf db template.id, r.id = id
  appended : ∃ new, events.rows = db.events.rows ++ new
  derived : ∀ r ∈ responsesOf db template.id, r.id ∈ done → (eventsIn db events r.id).map factOf = owed cfg db template r
  others : ∀ id, id ∉ done → eventsIn db events id = eventsOf db id

theorem Progress.next [IsStrictOrderedRing K] {db : Db K} {template : ExamTemplate}
    (known : db.templates.get? template.id = some template) {done : List Nat} {events : Table (EvidenceEvent K)}
    (progress : Progress cfg db template done events) {r : ExamResponse K} (listed : r ∈ responsesOf db template.id)
    (fitting : Fitting db template r) (fresh : eventsOf db r.id = []) (first : r.id ∉ done) :
    Progress cfg db template (done ++ [r.id])
      (events.upsertAll (eventWriter K) (newRows cfg db template (done ++ [r.id]) events r)) := by
  have own : ∀ id ∈ done ++ [r.id], ∃ s ∈ responsesOf db template.id, s.id = id := by
    intro id marked
    rcases List.mem_append.mp marked with before | now
    · exact progress.own id before
    · exact ⟨r, listed, (List.mem_singleton.mp now).symm⟩
  have none : eventsIn db events r.id = [] := (progress.others r.id first).trans fresh
  refine ⟨own, ?_, ?_, ?_⟩
  · obtain ⟨new, rows⟩ := progress.appended
    rw [rows_upsertAll_events, rows, List.append_assoc]
    exact ⟨_, rfl⟩
  · intro s among marked
    by_cases same : s.id = r.id
    · have alike : s = r := db.responses.key_inj (mem_responsesOf.mp among).1 (mem_responsesOf.mp listed).1 same
      have every : (newRows cfg db template (done ++ [r.id]) events r).filter
          (fun row => ((eventWriter K).target row).isNone) = newRows cfg db template (done ++ [r.id]) events r :=
        List.filter_eq_self.mpr (fun _ _ => rfl)
      rw [alike, eventsIn_own none, Table.Writer.map_added _ _ _ factOf rowFact (fun _ _ => rfl), every]
      exact newRows_facts known own events fitting
    · rw [eventsIn_other same]
      rw [List.mem_append, List.mem_singleton] at marked
      exact progress.derived s among (marked.resolve_right same)
  · intro id unmarked
    rw [List.mem_append, List.mem_singleton, not_or] at unmarked
    rw [eventsIn_other unmarked.2]
    exact progress.others id unmarked.1

theorem Progress.commitRow [IsStrictOrderedRing K] {db : Db K} {template : ExamTemplate}
    (known : db.templates.get? template.id = some template) {done : List Nat} {events : Table (EvidenceEvent K)}
    (progress : Progress cfg db template done events) {r : ExamResponse K} (listed : r ∈ responsesOf db template.id)
    (fitting : Fitting db template r) (fresh : eventsOf db r.id = []) (first : r.id ∉ done) (result : CommitResult) :
    ∃ events' result', Ingestion.commitRow cfg (stage db done events, result) r =
        .ok (stage db (done ++ [r.id]) events', result') ∧ Progress cfg db template (done ++ [r.id]) events' := by
  have none : eventsIn db events r.id = [] := (progress.others r.id first).trans fresh
  have here : r.id ∈ done ++ [r.id] := by simp
  have derived := deriveEventsForResponse_stage cfg known listed here none
  rw [← submitted_stage] at derived
  have stepped := commitRow_pending cfg result fitting.awaiting derived
  rw [submitted_stage] at stepped
  exact ⟨_, _, stepped, progress.next known listed fitting fresh first⟩

end

def pendingIds (rows : List (ExamResponse K)) : List Nat :=
  (rows.filter (fun r => decide (r.status ≠ .submitted))).map ExamResponse.id

section
variable [Field K] [LinearOrder K] [FloorRing K] {cfg : Config K}

variable (cfg) in
theorem commitRow_submitted (state : Db K × CommitResult) {r : ExamResponse K} (done : r.status = .submitted) :
    ∃ result, commitRow cfg state r = .ok (state.1, result) := by
  unfold commitRow
  rw [done]
  exact ⟨_, rfl⟩

theorem Progress.commitRows [IsStrictOrderedRing K] {db : Db K} {template : ExamTemplate}
    (known : db.templates.get? template.id = some template) (rows : List (ExamResponse K))
    (listed : ∀ r ∈ rows, r ∈ responsesOf db template.id) (distinct : (rows.map ExamResponse.id).Nodup)
    (fitting : ∀ r ∈ rows, r.status ≠ .submitted → Fitting db template r)
    (fresh : ∀ r ∈ rows, r.status ≠ .submitted → eventsOf db r.id = []) (done : List Nat) (events : Table (EvidenceEvent K))
    (progress : Progress cfg db template done events) (first : ∀ r ∈ rows, r.id ∉ done) (result : CommitResult) :
    ∃ events' result', rows.foldlM (Ingestion.commitRow cfg) (stage db done events, result) =
        .ok (stage db (done ++ pendingIds rows) events', result') ∧
      Progress cfg db template (done ++ pendingIds rows) events' := by
  induction rows generalizing done events result with
  | nil =>
    refine ⟨events, result, ?_, ?_⟩
    · rw [pendingIds, List.filter_nil, List.map_nil, List.append_nil]
      rfl
    · rw [pendingIds, List.filter_nil, List.map_nil, List.append_nil]
      exact progress
  | cons r rows ih =>
    rw [List.map_cons, List.nodup_cons] at distinct
    have later := ih (fun s member => listed s (List.mem_cons_of_mem r member)) distinct.2
      (fun s member => fitting s (List.mem_cons_of_mem r member)) (fun s member => fresh s (List.mem_cons_of_mem r member))
    rw [List.foldlM_cons]
    by_cases submitted : r.status = .submitted
    · obtain ⟨result', skipped⟩ := commitRow_submitted cfg (stage db done events, result) submitted
      have same : pendingIds (r :: rows) = pendingIds rows := by simp [pendingIds, submitted]
      rw [skipped, same]
      exact later done events progress (fun s member => first s (List.mem_cons_of_mem r member)) result'
    · obtain ⟨events', result', taken, next⟩ := progress.commitRow known (listed r List.mem_cons_self)
        (fitting r List.mem_cons_self submitted) (fresh r List.mem_cons_self submitted) (first r List.mem_cons_self) result
      have longer : done ++ pendingIds (r :: rows) = (done ++ [r.id]) ++ pendingIds rows := by simp [pendingIds, submitted]
      rw [taken, longer]
      apply later (done ++ [r.id]) events' next
      intro s member marked
      rw [List.mem_append, List.mem_singleton] at marked
      rcases marked with before | now
      · exact first s (List.mem_cons_of_mem r member) before
      · apply distinct.1
        rw [← now]
        exact List.mem_map_of_mem member

omit [Field K] [LinearOrder K] [FloorRing K] in
theorem submit_of_submitted {r : ExamResponse K} (done : r.status = .submitted) : submit r = r := by
  cases r
  cases done
  rfl

omit [Field K] [LinearOrder K] [FloorRing K] in
/-- All the responses of the exam that were open, and only they, have been marked. -/
theorem rows_stage {db : Db K} {template : ExamTemplate} {rows : List (ExamResponse K)}
    (ordered : rows.Perm (responsesOf db template.id)) (events : Table (EvidenceEvent K)) :
    (stage db (pendingIds rows) events).responses.rows =
      db.responses.rows.map (fun r => if r.examTemplateId = template.id then submit r else r) := by
  have marked : ∀ r ∈ db.responses.rows, r.id ∈ pendingIds rows ↔ r.examTemplateId = template.id ∧ r.status ≠ .submitted := by
    intro r stored
    simp only [pendingIds, List.mem_map, List.mem_filter, decide_eq_true_eq, ordered.mem_iff, mem_responsesOf]
    constructor
    · intro among
      obtain ⟨s, ⟨⟨listed, exam⟩, open_⟩, same⟩ := among
      rw [← db.responses.key_inj listed stored same]
      exact ⟨exam, open_⟩
    · intro own
      exact ⟨r, ⟨⟨stored, own.1⟩, own.2⟩, rfl⟩
  apply List.map_congr_left
  intro r stored
  by_cases exam : r.examTemplateId = template.id
  · by_cases done : r.status = .submitted
    · simp [marked r stored, exam, done, submit_of_submitted done]
    · simp [marked r stored, exam, done]
  · simp [marked r stored, exam]

variable (cfg) in
/-- What a commit has done to the tables when all went well. -/
structure Committed (db : Db K) (template : ExamTemplate) (after : Db K) : Prop where
  responses : after.responses.rows = db.responses.rows.map (fun r => if r.examTemplateId = template.id then submit r else r)
  answers : after.answers = db.answers
  appended : ∃ new, after.events.rows = db.events.rows ++ new
  derived : ∀ r ∈ responsesOf db template.id, r.status ≠ .submitted →
    (eventsOf after r.id).map factOf = owed cfg db template r ∧ ∀ fact ∈ owed cfg db template r, 0 ≤ fact.value ∧ fact.value ≤ 1
  kept : ∀ r ∈ db.responses.rows, r.examTemplateId ≠ template.id ∨ r.status = .submitted → eventsOf after r.id = eventsOf db r.id
  bank : ∃ new, after.bank.rows = db.bank.rows ++ new ∧ ∀ b ∈ new, b.kbVersionId ≠ none

variable {db : Db K} {template : ExamTemplate}

omit [FloorRing K] in
theorem assert_of_ready [IsStrictOrderedRing K]
    (members : ∀ r ∈ responsesOf db template.id, r.status = .submitted → r.studentId ∈ (examStudents db template).map Student.id)
    (fitting : ∀ r ∈ responsesOf db template.id, r.status ≠ .submitted → Fitting db template r) {r : ExamResponse K}
    (listed : r ∈ responsesOf db template.id) : assertExamStudent db template r.studentId = .ok () := by
  by_cases done : r.status = .submitted
  · exact assertExamStudent_of_mem (members r listed done)
  · exact (fitting r listed done).pupil

/-- A commit whose responses are all submitted changes nothing once the bank has been seeded. -/
theorem commitExam_again (known : db.templates.get? template.id = some template) {rows : List (ExamResponse K)}
    (pupils : ∀ r ∈ rows, assertExamStudent db template r.studentId = .ok ()) (done : ∀ r ∈ rows, r.status = .submitted)
    (seeded : rows ≠ [] → bankEntries db template.id = []) : ∃ result, commitExam cfg db template.id rows = .ok (db, result) := by
  have loop : ∀ (rows : List (ExamResponse K)) (result : CommitResult), (∀ r ∈ rows, r.status = .submitted) →
      ∃ result', rows.foldlM (commitRow cfg) (db, result) = .ok (db, result') := by
    intro rows
    induction rows with
    | nil => exact fun result _ => ⟨result, rfl⟩
    | cons r rows ih =>
      intro result done
      obtain ⟨result', skipped⟩ := commitRow_submitted cfg (db, result) (done r List.mem_cons_self)
      rw [List.foldlM_cons, skipped]
      exact ih result' (fun s member => done s (List.mem_cons_of_mem r member))
  unfold commitExam
  rw [known]
  dsimp only
  cases rows with
  | nil => exact ⟨_, rfl⟩
  | cons r rows =>
    obtain ⟨result, looped⟩ := loop (r :: rows) {} done
    have same := seed_of_nothing (seeded (List.cons_ne_nil r rows))
    rw [forM_ok pupils, looped]
    dsimp only [List.isEmpty_cons]
    rw [same]
    exact ⟨_, rfl⟩

omit [Field K] [LinearOrder K] [FloorRing K] in
theorem stage_nil (db : Db K) : stage db [] db.events = db := by
  have same := db.responses.updateWhere_eq_self (fun r => decide (r.id ∈ ([] : List Nat))) submit key_submit (by simp)
  unfold stage
  rw [same]

variable (cfg) in
theorem progress_nil : Progress cfg db template [] db.events where
  own := by simp
  appended := ⟨[], (List.append_nil _).symm⟩
  derived := by simp
  others := fun _ _ => rfl

theorem Committed.responsesOf {after : Db K}
    (committed : Committed cfg db template after) {r : ExamResponse K} (listed : r ∈ Ingestion.responsesOf after template.id) :
    r.status = .submitted ∧ ∃ s ∈ Ingestion.responsesOf db template.id, s.studentId = r.studentId := by
  obtain ⟨stored, exam⟩ := mem_responsesOf.mp listed
  rw [committed.responses] at stored
  obtain ⟨s, before, rfl⟩ := List.mem_map.mp stored
  split at exam
  · rename_i own
    rw [if_pos own]
    exact ⟨rfl, s, mem_responsesOf.mpr ⟨before, own⟩, rfl⟩
  · rename_i other
    exact absurd exam other

theorem Progress.committed [IsStrictOrderedRing K]
    (tagged : ∀ tag ∈ db.questionKps.rows, ∃ kp ∈ db.knowledgePoints.rows, kp.id = tag.kpId)
    (fitting : ∀ r ∈ responsesOf db template.id, r.status ≠ .submitted → Fitting db template r)
    {rows : List (ExamResponse K)} (ordered : rows.Perm (responsesOf db template.id)) {events : Table (EvidenceEvent K)}
    (progress : Progress cfg db template (pendingIds rows) events) :
    Committed cfg db template (seedBankFromTemplate (stage db (pendingIds rows) events) template.id).1 where
  responses := rows_stage ordered events
  answers := rfl
  appended := progress.appended
  derived := by
    intro r listed open_
    refine ⟨?_, fun fact made => owed_value_bounds (fitting r listed open_) made⟩
    apply progress.derived r listed
    exact List.mem_map_of_mem (List.mem_filter.mpr ⟨ordered.mem_iff.mpr listed, by simpa using open_⟩)
  kept := by
    intro r stored apart
    apply progress.others
    intro marked
    obtain ⟨s, among, same⟩ := List.mem_map.mp marked
    obtain ⟨member, open_⟩ := List.mem_filter.mp among
    obtain ⟨listed, exam⟩ := mem_responsesOf.mp (ordered.mem_iff.mp member)
    have alike : s = r := db.responses.key_inj listed stored same
    rw [alike] at exam open_
    rcases apart with foreign | done
    · exact foreign exam
    · simp [done] at open_
  bank := ⟨_, rows_seed _ _, fun _ new => seeded_version tagged new⟩

theorem committed_of_none (none : responsesOf db template.id = []) : Committed cfg db template db where
  responses := by
    have other : ∀ r ∈ db.responses.rows, (if r.examTemplateId = template.id then submit r else r) = id r := by
      intro r stored
      rw [if_neg]
      · rfl
      · intro own
        have listed := mem_responsesOf.mpr ⟨stored, own⟩
        rw [none] at listed
        cases listed
    rw [List.map_congr_left other, List.map_id]
  answers := rfl
  appended := ⟨[], (List.append_nil _).symm⟩
  derived := by simp [none]
  kept := fun _ _ _ => rfl
  bank := ⟨[], (List.append_nil _).symm, by simp⟩

theorem commitExam_of_loop (known : db.templates.get? template.id = some template) {first : ExamResponse K}
    {rest : List (ExamResponse K)} (pupils : ∀ r ∈ first :: rest, assertExamStudent db template r.studentId = .ok ())
    {mid : Db K} {report : CommitResult} (looped : (first :: rest).foldlM (commitRow cfg) (db, {}) = .ok (mid, report)) :
    ∃ result, commitExam cfg db template.id (first :: rest) = .ok ((seedBankFromTemplate mid template.id).1, result) := by
  unfold commitExam
  rw [known]
  dsimp only [List.isEmpty_cons]
  rw [forM_ok pupils, looped]
  exact ⟨_, rfl⟩

/-- An exam that the preflight calls ready is committed whole, and only once. -/
theorem ready_commit [IsStrictOrderedRing K] (cfg : Config K) (render : PyFloat K → String) (m : Margin K) (db : Db K)
    (template : ExamTemplate) (known : db.templates.get? template.id = some template)
    (tagged : ∀ tag ∈ db.questionKps.rows, ∃ kp ∈ db.knowledgePoints.rows, kp.id = tag.kpId)
    (members : ∀ r ∈ responsesOf db template.id, r.status = .submitted → r.studentId ∈ (examStudents db template).map Student.id)
    (fresh : ∀ r ∈ responsesOf db template.id, r.status ≠ .submitted → eventsOf db r.id = [])
    (ready : (examPreflight render (intakeOf m db template)).ready = true) (rows : List (ExamResponse K))
    (ordered : rows.Perm (responsesOf db template.id)) :
    (∃ after result, commitExam cfg db template.id rows = .ok (after, result) ∧ Committed cfg db template after ∧
      ∀ again : List (ExamResponse K), again.Perm (responsesOf after template.id) →
        ∃ result', commitExam cfg after template.id again = .ok (after, result')) ∧
    ∀ later, Relation.ReflTransGen (Work cfg) db later → ∀ questionId, bankCount later questionId ≤ max 1 (bankCount db questionId) := by
  refine ⟨?_, fun later work => bankCount_of_work work⟩
  have fitting : ∀ r ∈ responsesOf db template.id, r.status ≠ .submitted → Fitting db template r :=
    fun r listed => fitting_of_ready ((ready_iff render).mp ready) listed
  have pupils : ∀ r ∈ responsesOf db template.id, assertExamStudent db template r.studentId = .ok () :=
    fun r => assert_of_ready members fitting
  cases rows with
  | nil =>
    have none : responsesOf db template.id = [] := ordered.nil_eq.symm
    refine ⟨db, { skipped := [.noResponses] }, ?_, committed_of_none none, ?_⟩
    · unfold commitExam
      rw [known]
      rfl
    · intro again order
      rw [none] at order
      rw [order.eq_nil]
      exact commitExam_again known (by simp) (by simp) (by simp)
  | cons first rest =>
    have distinct : ((first :: rest).map ExamResponse.id).Nodup :=
      (ordered.map ExamResponse.id).nodup_iff.mpr ((List.Sublist.map _ List.filter_sublist).nodup db.responses.nodup)
    have listed : ∀ r ∈ first :: rest, r ∈ responsesOf db template.id := fun r => ordered.mem_iff.mp
    obtain ⟨events, result, looped, progress⟩ := Progress.commitRows known (first :: rest) listed distinct
      (fun r among => fitting r (listed r among)) (fun r among => fresh r (listed r among)) [] db.events (progress_nil cfg)
      (by simp) ({} : CommitResult)
    rw [stage_nil, List.nil_append] at looped
    rw [List.nil_append] at progress
    have committed := progress.committed tagged fitting ordered
    obtain ⟨result, done⟩ := commitExam_of_loop known (fun r among => pupils r (listed r among)) looped
    refine ⟨_, result, done, committed, ?_⟩
    intro again order
    have still : (seedBankFromTemplate (stage db (pendingIds (first :: rest)) events) template.id).1.templates.get? template.id =
        some template := known
    apply commitExam_again still
    · intro r among
      obtain ⟨_, s, before, same⟩ := committed.responsesOf (order.mem_iff.mp among)
      rw [← same]
      exact pupils s before
    · intro r among
      exact (committed.responsesOf (order.mem_iff.mp among)).1
    · exact fun _ => bankEntries_seed _ _

end

/-- The quiz on its second day: one pupil's response is in, the other's waits. -/
def secondDay : Db ℚ :=
  { quizBase with
    knowledgePoints := .ofList [⟨9, 1, "K9", "计算", "", 7, 0, "", [], 1 / 2, 1 / 2, .core, false⟩]
    responses := .ofList [⟨1, 5, 1, 8, .submitted⟩, ⟨2, 5, 2, 6, .pendingReview⟩]
    answers := .ofList [⟨1, 1, 1, 8, false⟩, ⟨2, 2, 1, 6, false⟩]
    events := .ofList [⟨1, 1, 9, 1, .unit, 8 / 10, 8 / 10, .apply, none, noon 0⟩] }

def plainMargin : Margin ℚ := ⟨fun _ => true, fun _ => .manual, fun _ => none, fun _ => none, fun _ => .fin 1⟩

theorem ready_commit_second_day :
    (∃ after result, commitExam Config.rational secondDay quizExam.id (responsesOf secondDay quizExam.id) = .ok (after, result) ∧
      Committed Config.rational secondDay quizExam after ∧
      ∀ again : List (ExamResponse ℚ), again.Perm (responsesOf after quizExam.id) →
        ∃ result', commitExam Config.rational after quizExam.id again = .ok (after, result')) ∧
    (∀ later, Relation.ReflTransGen (Work Config.rational) secondDay later →
      ∀ questionId, bankCount later questionId ≤ max 1 (bankCount secondDay questionId)) ∧
    (owed Config.rational secondDay quizExam ⟨2, 5, 2, 6, .pendingReview⟩).map (fun fact => (fact.value, fact.weight)) =
      [(6 / 10, 8 / 10)] := by
  have settled := ready_commit Config.rational (fun _ => "") plainMargin secondDay quizExam (by decide +kernel) (by decide +kernel)
    (by decide +kernel) (by decide +kernel) (by decide +kernel) (responsesOf secondDay quizExam.id) (List.Perm.refl _)
  exact ⟨settled.1, settled.2, by decide +kernel⟩

end KnowledgeGap.Ingestion
