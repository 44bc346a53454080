import KnowledgeGap.Ingestion.Preflight
import KnowledgeGap.Protocol.Runs

namespace KnowledgeGap.Ingestion

open Relational Protocol

/-- A value of the document the model returned, as `json.loads` reads it. -/
inductive Json (K : Type)
  | null
  | bool (b : Bool)
  | int (n : Int)
  | float (x : PyFloat K)
  | str (s : String)
  | arr (items : List (Json K))
  | obj (fields : List (String × Json K))

inductive PyError
  | typeError
  | valueError
  | overflowError
  deriving DecidableEq, Repr

/-- What keeps a sheet from being filed. -/
inductive FilingError
  | scope
  | integrity
  | python (error : PyError)
  deriving DecidableEq, Repr

/-- A key of the dictionary of answers. Numbers compare by value, whatever they were written as. -/
inductive AnswerKey (K : Type)
  | null
  | number (x : PyFloat K)
  | text (s : String)
  deriving DecidableEq, Repr

variable {K : Type}

/-- The integers from here on round to no float. -/
def floatLimit : Nat := 2 ^ 1024 - 2 ^ 970

def field (fields : List (String × Json K)) (key : String) : Json K := (fields.lookup key).getD .null

section
variable [Field K]

/-- `float`; `text` is what it makes of a string. -/
def toFloat (text : String → Option (PyFloat K)) : Json K → Except PyError (PyFloat K)
  | .bool b => .ok (.fin (if b then 1 else 0))
  | .int n => if n.natAbs < floatLimit then .ok (.fin n) else .error .overflowError
  | .float x => .ok x
  | .str s =>
    match text s with
    | some x => .ok x
    | none => .error .valueError
  | .null | .arr _ | .obj _ => .error .typeError

def answerKey : Json K → Except PyError (AnswerKey K)
  | .null => .ok .null
  | .bool b => .ok (.number (.fin (if b then 1 else 0)))
  | .int n => .ok (.number (.fin n))
  | .float x => .ok (.number x)
  | .str s => .ok (.text s)
  | .arr _ | .obj _ => .error .typeError

def truthy [DecidableEq K] : Json K → Bool
  | .null => false
  | .bool b => b
  | .int n => n != 0
  | .float x => x != .fin 0
  | .str s => !s.isEmpty
  | .arr items => !items.isEmpty
  | .obj fields => !fields.isEmpty

end

/-- The entries of `answers` that are objects. Going over a string or an object yields strings only. -/
def answerObjects : Option (Json K) → Except PyError (List (List (String × Json K)))
  | none => .ok []
  | some (.arr items) => .ok (items.filterMap (fun item => match item with
    | .obj fields => some fields
    | _ => none))
  | some (.str _) | some (.obj _) => .ok []
  | some .null | some (.bool _) | some (.int _) | some (.float _) => .error .typeError

structure Scored (K : Type) where
  score : PyFloat K
  parseConfidence : PyFloat K
  chosenOption : Option String
  warnings : List (Warning (PyFloat K))
  deriving DecidableEq, Repr

def scoredRow (responseId : Nat) (entry : QuestionRow K × Scored K) (id : Nat) : AnswerRow K where
  id := id
  examResponseId := responseId
  templateQuestionId := entry.1.id
  score := entry.2.score
  chosenOption := entry.2.chosenOption
  parseConfidence := entry.2.parseConfidence

theorem key_scoredRow (responseId : Nat) (entry : QuestionRow K × Scored K) (id : Nat) :
    Keyed.key (scoredRow responseId entry id) = id := rfl

def photoRow (studentId : Nat) (totalScore : PyFloat K) (id : Nat) : ResponseRow K :=
  ⟨id, studentId, totalScore, .photo, .pendingReview, none⟩

theorem key_photoRow (studentId : Nat) (totalScore : PyFloat K) (id : Nat) :
    Keyed.key (photoRow studentId totalScore id) = id := rfl

/-- Every answer on file belongs to a response on file. -/
def Intake.Linked (e : Intake K) : Prop := ∀ a ∈ e.answers.rows, a.examResponseId < e.responses.nextId

theorem select_scored_own {e : Intake K} (linked : e.Linked) (scored : List (QuestionRow K × Scored K)) :
    (e.answers.insertAll (scoredRow e.responses.nextId) (key_scoredRow _) scored).select
        (fun a => a.examResponseId == e.responses.nextId) =
      scored.mapIdx (fun n p => scoredRow e.responses.nextId p (e.answers.nextId + n)) := by
  have old : e.answers.rows.filter (fun a => a.examResponseId == e.responses.nextId) = [] := by
    rw [List.filter_eq_nil_iff]
    intro a listed here
    have below := linked a listed
    have same := beq_iff_eq.mp here
    omega
  rw [Table.select, Table.rows_insertAll, List.filter_append, old, List.nil_append, List.filter_eq_self]
  intro a listed
  obtain ⟨n, inside, rfl⟩ := List.mem_mapIdx.mp listed
  simp [scoredRow]

theorem select_scored_other {answers : Table (AnswerRow K)} {responseId other : Nat} (apart : other ≠ responseId)
    (scored : List (QuestionRow K × Scored K)) :
    (answers.insertAll (scoredRow responseId) (key_scoredRow _) scored).select (fun a => a.examResponseId == other) =
      answers.select (fun a => a.examResponseId == other) := by
  rw [Table.select, Table.select, Table.rows_insertAll, List.filter_append, List.append_right_eq_self, List.filter_eq_nil_iff]
  intro a listed
  obtain ⟨n, inside, rfl⟩ := List.mem_mapIdx.mp listed
  simpa [scoredRow] using apart.symm

theorem scoredRows_questions (scored : List (QuestionRow K × Scored K)) (responseId next : Nat) :
    (scored.mapIdx (fun n p => scoredRow responseId p (next + n))).map AnswerRow.templateQuestionId =
      (scored.map Prod.fst).map QuestionRow.id := by
  apply List.ext_getElem
  · simp
  · intro n _ _
    simp [scoredRow]

theorem scoredRows_scores (scored : List (QuestionRow K × Scored K)) (responseId next : Nat) :
    (scored.mapIdx (fun n p => scoredRow responseId p (next + n))).map AnswerRow.score = scored.map (fun p => p.2.score) := by
  apply List.ext_getElem
  · simp
  · intro n _ _
    simp [scoredRow]

theorem mem_scoredRows {scored : List (QuestionRow K × Scored K)} {responseId next : Nat} {a : AnswerRow K}
    (listed : a ∈ scored.mapIdx (fun n p => scoredRow responseId p (next + n))) :
    ∃ p ∈ scored, a.templateQuestionId = p.1.id ∧ a.score = p.2.score ∧ a.parseConfidence = p.2.parseConfidence := by
  obtain ⟨n, inside, rfl⟩ := List.mem_mapIdx.mp listed
  exact ⟨scored[n], List.getElem_mem inside, rfl, rfl, rfl⟩

/-- The dictionary of answers: of two entries for one question the later counts. -/
def keyedAnswers [Field K] [DecidableEq K] :
    List (List (String × Json K)) → Except PyError (List (AnswerKey K × List (String × Json K)))
  | [] => .ok []
  | fields :: rest =>
    match answerKey (field fields "idx") with
    | .error e => .error e
    | .ok key =>
      match keyedAnswers rest with
      | .error e => .error e
      | .ok entries => .ok ((key, fields) :: entries)

section
variable [Field K] [LinearOrder K] (text : String → Option (PyFloat K)) (str : Json K → String)

/-- The score that is filed, and the remark on it. -/
def clampRaw (raw : Json K) (full : PyFloat K) (idx : Int) : Except PyError (PyFloat K × List (Warning (PyFloat K))) :=
  match toFloat text raw with
  | .error .overflowError => .error .overflowError
  | .error _ => .ok (.fin 0, [.illegalScore idx])
  | .ok score =>
    if score.lt (.fin 0) = true ∨ full.lt score = true then
      .ok (.pyMax (.fin 0) (.pyMin full score), [.clippedScore idx score full])
    else .ok (score, [])

def clamp01 (x : PyFloat K) : PyFloat K := .pyMax (.fin 0) (.pyMin (.fin 1) x)

/-- `_conf` -/
def confidence (raw : Json K) (default : PyFloat K) : Except PyError (PyFloat K) :=
  match toFloat text raw with
  | .error .overflowError => .error .overflowError
  | .error _ => .ok default
  | .ok x => .ok (clamp01 x)

/-- One turn of the loop over the questions; `str` is how the language writes a value. -/
def scoreQuestion (answers : Dict (AnswerKey K) (List (String × Json K))) (q : QuestionRow K) :
    Except PyError (Scored K) :=
  match answers.get? (.number (.fin q.idx)) with
  | none => .ok ⟨.fin 0, .fin 0, none, [.notReturned q.idx]⟩
  | some a =>
    match clampRaw text (field a "score") q.fullScore q.idx with
    | .error e => .error e
    | .ok (score, remarks) =>
      match confidence text (field a "confidence") (.fin (ratio 1 2)) with
      | .error e => .error e
      | .ok conf =>
        let option := field a "chosen_option"
        let chosen := if q.qType = .choice ∧ truthy option = true then
          some (String.ofList ((str option).toList.take 10)) else none
        .ok ⟨score, conf, chosen, remarks ++ if q.qType = .choice ∧ truthy option = false then [.noOption q.idx] else []⟩

def scoreQuestions (answers : Dict (AnswerKey K) (List (String × Json K))) :
    List (QuestionRow K) → Except PyError (List (QuestionRow K × Scored K))
  | [] => .ok []
  | q :: questions =>
    match scoreQuestion text str answers q with
    | .error e => .error e
    | .ok scored =>
      match scoreQuestions answers questions with
      | .error e => .error e
      | .ok rest => .ok ((q, scored) :: rest)

/-- The answers of a payload by question. -/
def payloadAnswers (payload : List (String × Json K)) : Except PyError (Dict (AnswerKey K) (List (String × Json K))) :=
  match answerObjects (payload.lookup "answers") with
  | .error e => .error e
  | .ok objects =>
    match keyedAnswers objects with
    | .error e => .error e
    | .ok entries => .ok (Dict.ofList entries)

/-- `_persist_response_from_payload`: the exam with the response filed, its key and the remarks. -/
def persistPayload [FloorRing K] (e : Intake K) (studentId : Nat) (payload : List (String × Json K)) :
    Except FilingError (Intake K × Nat × List (Warning (PyFloat K))) :=
  if studentId ∉ e.roster.map Student.id then .error .scope
  else if e.responses.rows.any (fun r => r.studentId == studentId) then .error .integrity
  else
    match payloadAnswers payload with
    | .error error => .error (.python error)
    | .ok answers =>
      match scoreQuestions text str answers e.orderedQuestions with
      | .error error => .error (.python error)
      | .ok scored =>
        -- `nan` is bound as a null, which the column refuses.
        if scored.any (fun p => decide (p.2.score = .nan)) then .error .integrity
        else
          let total := PyFloat.sum (scored.map (fun p => p.2.score))
          .ok ({ e with
              responses := e.responses.insert (photoRow studentId (total.round 2)) (key_photoRow _ _)
              answers := e.answers.insertAll (scoredRow e.responses.nextId) (key_scoredRow _) scored },
            e.responses.nextId, scored.flatMap (fun p => p.2.warnings))

theorem scoreQuestions_ok {answers : Dict (AnswerKey K) (List (String × Json K))} {questions : List (QuestionRow K)}
    {scored : List (QuestionRow K × Scored K)} (done : scoreQuestions text str answers questions = .ok scored) :
    scored.map Prod.fst = questions ∧ ∀ p ∈ scored, scoreQuestion text str answers p.1 = .ok p.2 := by
  induction questions generalizing scored with
  | nil =>
    cases done
    exact ⟨rfl, by simp⟩
  | cons q questions ih =>
    unfold scoreQuestions at done
    split at done
    · cases done
    · rename_i first here
      split at done
      · cases done
      · rename_i rest there
        cases done
        obtain ⟨keys, each⟩ := ih there
        refine ⟨by rw [List.map_cons, keys], ?_⟩
        intro p member
        rcases List.mem_cons.mp member with rfl | member
        · exact here
        · exact each p member

theorem scoreQuestions_of_each {answers : Dict (AnswerKey K) (List (String × Json K))} {questions : List (QuestionRow K)}
    (each : ∀ q ∈ questions, ∃ s, scoreQuestion text str answers q = .ok s) :
    ∃ scored, scoreQuestions text str answers questions = .ok scored := by
  induction questions with
  | nil => exact ⟨[], rfl⟩
  | cons q questions ih =>
    obtain ⟨s, here⟩ := each q List.mem_cons_self
    obtain ⟨rest, there⟩ := ih (fun r listed => each r (List.mem_cons_of_mem q listed))
    exact ⟨(q, s) :: rest, by simp [scoreQuestions, here, there]⟩

/-- The model's own number for a question, when it is one that could be a score. -/
def ownScore (answers : Dict (AnswerKey K) (List (String × Json K))) (q : QuestionRow K) : Option K :=
  match answers.get? (.number (.fin q.idx)) with
  | none => none
  | some a =>
    match toFloat text (field a "score") with
    | .ok (.fin x) => if (PyFloat.fin 0).le (.fin x) && (PyFloat.fin x).le q.fullScore then some x else none
    | _ => none

def ownConfidence (answers : Dict (AnswerKey K) (List (String × Json K))) (q : QuestionRow K) : Option K :=
  match answers.get? (.number (.fin q.idx)) with
  | none => none
  | some a =>
    match toFloat text (field a "confidence") with
    | .ok x => x.toFinite
    | .error _ => none

/-- The model doubts itself: it gives no confidence that can be read, or one below the threshold. -/
def doubted (a : List (String × Json K)) : Bool :=
  match toFloat text (field a "confidence") with
  | .ok (.fin c) => decide (c < ratio 6 10)
  | .ok .negInf | .error _ => true
  | .ok .nan | .ok .posInf => false

/-- The confidence of a reply is neither `nan` nor `inf`. -/
def definite (a : List (String × Json K)) : Bool :=
  match toFloat text (field a "confidence") with
  | .ok .nan | .ok .posInf => false
  | _ => true

/-- A reply that is safe to file: its confidence is neither `nan` nor `inf`, and where its score is no number inside
    the range it is doubted. -/
def trustworthy (answers : Dict (AnswerKey K) (List (String × Json K))) (q : QuestionRow K) : Bool :=
  match answers.get? (.number (.fin q.idx)) with
  | none => true
  | some a => definite text a && ((ownScore text answers q).isSome || doubted text a)

/-- Nothing in the reply to a question keeps the sheet from being filed: its score is not `nan`, and neither of its
    numbers is an integer that no float reaches. -/
def fileable (answers : Dict (AnswerKey K) (List (String × Json K))) (q : QuestionRow K) : Bool :=
  match answers.get? (.number (.fin q.idx)) with
  | none => true
  | some a =>
    (match toFloat text (field a "score") with
      | .ok .nan | .error .overflowError => false
      | _ => true) &&
    match toFloat text (field a "confidence") with
      | .error .overflowError => false
      | _ => true

end

section
variable [Field K] [LinearOrder K] [IsStrictOrderedRing K]

theorem clamp01_fin (c : K) : clamp01 (.fin c) = .fin (max 0 (min 1 c)) := by
  unfold clamp01 PyFloat.pyMax PyFloat.pyMin
  simp only [PyFloat.lt_fin, decide_eq_true_eq]
  by_cases below : c < 1
  · rw [if_pos below, min_eq_right (le_of_lt below)]
    by_cases above : 0 < c
    · simp [above, le_of_lt above]
    · simp [above, not_lt.mp above]
  · rw [if_neg below, min_eq_left (not_lt.mp below)]
    simp

theorem clamp01_nan : clamp01 (.nan : PyFloat K) = .fin 1 := by
  simp [clamp01, PyFloat.pyMax, PyFloat.pyMin, PyFloat.lt]

theorem clamp01_posInf : clamp01 (.posInf : PyFloat K) = .fin 1 := by
  simp [clamp01, PyFloat.pyMax, PyFloat.pyMin, PyFloat.lt]

omit [IsStrictOrderedRing K] in
theorem clamp01_negInf : clamp01 (.negInf : PyFloat K) = .fin 0 := by
  simp [clamp01, PyFloat.pyMax, PyFloat.pyMin, PyFloat.lt]

theorem threshold_bounds : (0 : K) < ratio 6 10 ∧ (ratio 6 10 : K) ≤ 1 ∧ (ratio 1 2 : K) < ratio 6 10 := by
  unfold ratio
  norm_num

/-- Clamping moves no confidence across the threshold. -/
theorem clamp01_low (c : K) : (clamp01 (.fin c)).lt (.fin (ratio 6 10)) = decide (c < ratio 6 10) := by
  obtain ⟨positive, below, _⟩ := threshold_bounds (K := K)
  rw [clamp01_fin, PyFloat.lt_fin]
  congr 1
  rw [max_lt_iff, min_lt_iff, eq_iff_iff]
  constructor
  · intro low
    rcases low.2 with one | own
    · exact absurd one (not_lt.mpr below)
    · exact own
  · exact fun low => ⟨positive, Or.inr low⟩

variable {text : String → Option (PyFloat K)} {str : Json K → String}
  {answers : Dict (AnswerKey K) (List (String × Json K))} {q : QuestionRow K} {s : Scored K}

omit [IsStrictOrderedRing K] in
theorem scoreQuestion_missing (absent : answers.get? (.number (.fin q.idx)) = none)
    (done : scoreQuestion text str answers q = .ok s) : s.score = .fin 0 ∧ s.parseConfidence = .fin 0 := by
  unfold scoreQuestion at done
  rw [absent] at done
  cases done
  exact ⟨rfl, rfl⟩

omit [IsStrictOrderedRing K] in
theorem scoreQuestion_reply {a : List (String × Json K)} (reply : answers.get? (.number (.fin q.idx)) = some a)
    (done : scoreQuestion text str answers q = .ok s) :
    (∃ remarks, clampRaw text (field a "score") q.fullScore q.idx = .ok (s.score, remarks)) ∧
      confidence text (field a "confidence") (.fin (ratio 1 2)) = .ok s.parseConfidence := by
  unfold scoreQuestion at done
  rw [reply] at done
  dsimp only at done
  split at done
  · cases done
  · rename_i score remarks clamped
    split at done
    · cases done
    · rename_i conf sure
      cases done
      exact ⟨⟨remarks, clamped⟩, sure⟩

omit [IsStrictOrderedRing K] in
/-- A score that is filed is a number inside the range, but for the one value that is neither above nor below it. -/
theorem clampRaw_range {raw : Json K} {full : K} (positive : 0 < full) {idx : Int} {score : PyFloat K}
    {remarks : List (Warning (PyFloat K))} (done : clampRaw text raw (.fin full) idx = .ok (score, remarks)) :
    (toFloat text raw = .ok .nan ∧ score = .nan) ∨ ∃ y, score = .fin y ∧ 0 ≤ y ∧ y ≤ full := by
  unfold clampRaw at done
  split at done
  · cases done
  · cases done
    exact Or.inr ⟨0, rfl, le_refl 0, le_of_lt positive⟩
  · rename_i given parsed
    split at done
    · rename_i outside
      cases done
      have number : given ≠ .nan := by
        intro unreadable
        simp [unreadable, PyFloat.lt] at outside
      exact Or.inr (PyFloat.clip_fin positive number)
    · rename_i inside
      cases done
      rw [not_or] at inside
      cases score with
      | nan => exact Or.inl ⟨parsed, rfl⟩
      | negInf => exact absurd rfl inside.1
      | posInf => exact absurd rfl inside.2
      | fin x =>
        refine Or.inr ⟨x, rfl, ?_, ?_⟩
        · simpa using inside.1
        · simpa using inside.2

omit [IsStrictOrderedRing K] in
theorem clampRaw_number_iff {raw : Json K} {full : K} (positive : 0 < full) {idx : Int} :
    (∃ score remarks, clampRaw text raw (.fin full) idx = .ok (score, remarks) ∧ score ≠ .nan) ↔
      toFloat text raw ≠ .ok .nan ∧ toFloat text raw ≠ .error .overflowError := by
  constructor
  · rintro ⟨score, remarks, done, number⟩
    constructor <;> intro parsed <;> unfold clampRaw at done <;> rw [parsed] at done
    · simp only [PyFloat.lt, Bool.false_eq_true, or_self, if_false, Except.ok.injEq, Prod.mk.injEq] at done
      exact number done.1.symm
    · cases done
  · rintro ⟨number, fits⟩
    have done : ∃ score remarks, clampRaw text raw (.fin full) idx = .ok (score, remarks) := by
      unfold clampRaw
      split
      · rename_i parsed
        exact absurd parsed fits
      · exact ⟨_, _, rfl⟩
      · split
        · exact ⟨_, _, rfl⟩
        · exact ⟨_, _, rfl⟩
    obtain ⟨score, remarks, done⟩ := done
    refine ⟨score, remarks, done, ?_⟩
    rcases clampRaw_range positive done with ⟨parsed, _⟩ | ⟨y, finite, _⟩
    · exact absurd parsed number
    · intro none_
      rw [finite] at none_
      cases none_

omit [IsStrictOrderedRing K] in
theorem confidence_ok_iff {raw : Json K} (default : PyFloat K) :
    (∃ conf, confidence text raw default = .ok conf) ↔ toFloat text raw ≠ .error .overflowError := by
  constructor
  · rintro ⟨conf, done⟩ parsed
    unfold confidence at done
    rw [parsed] at done
    cases done
  · intro fits
    unfold confidence
    split
    · rename_i parsed
      exact absurd parsed fits
    · exact ⟨_, rfl⟩
    · exact ⟨_, rfl⟩

omit [IsStrictOrderedRing K] in
theorem scoreQuestion_of_reply {a : List (String × Json K)} (reply : answers.get? (.number (.fin q.idx)) = some a)
    {score conf : PyFloat K} {remarks : List (Warning (PyFloat K))}
    (clamped : clampRaw text (field a "score") q.fullScore q.idx = .ok (score, remarks))
    (sure : confidence text (field a "confidence") (.fin (ratio 1 2)) = .ok conf) :
    ∃ s, scoreQuestion text str answers q = .ok s ∧ s.score = score := by
  unfold scoreQuestion
  rw [reply]
  dsimp only
  rw [clamped]
  dsimp only
  rw [sure]
  exact ⟨_, rfl, rfl⟩

omit [IsStrictOrderedRing K] in
theorem fileable_reply {a : List (String × Json K)} (reply : answers.get? (.number (.fin q.idx)) = some a) :
    fileable text answers q = true ↔
      (toFloat text (field a "score") ≠ .ok .nan ∧ toFloat text (field a "score") ≠ .error .overflowError) ∧
        toFloat text (field a "confidence") ≠ .error .overflowError := by
  unfold fileable
  rw [reply]
  dsimp only
  rw [Bool.and_eq_true]
  constructor
  · rintro ⟨score, conf⟩
    refine ⟨⟨?_, ?_⟩, ?_⟩
    · intro parsed
      rw [parsed] at score
      cases score
    · intro parsed
      rw [parsed] at score
      cases score
    · intro parsed
      rw [parsed] at conf
      cases conf
  · rintro ⟨⟨number, fits⟩, conf⟩
    constructor
    · split
      · rename_i parsed
        exact absurd parsed number
      · rename_i parsed
        exact absurd parsed fits
      · rfl
    · split
      · rename_i parsed
        exact absurd parsed conf
      · rfl

omit [IsStrictOrderedRing K] in
/-- A question gets a score that can be stored just where the reply to it can be filed. -/
theorem fileable_iff {full : K} (limit : q.fullScore = .fin full) (positive : 0 < full) :
    (∃ s, scoreQuestion text str answers q = .ok s ∧ s.score ≠ .nan) ↔ fileable text answers q = true := by
  cases reply : answers.get? (.number (.fin q.idx)) with
  | none =>
    refine iff_of_true ⟨⟨.fin 0, .fin 0, none, [.notReturned q.idx]⟩, ?_, by simp⟩ ?_
    · unfold scoreQuestion
      rw [reply]
    · unfold fileable
      rw [reply]
  | some a =>
    rw [fileable_reply reply, ← clampRaw_number_iff positive, ← confidence_ok_iff (.fin (ratio 1 2)), ← limit]
    constructor
    · rintro ⟨s, done, number⟩
      obtain ⟨⟨remarks, clamped⟩, sure⟩ := scoreQuestion_reply reply done
      exact ⟨⟨s.score, remarks, clamped, number⟩, s.parseConfidence, sure⟩
    · rintro ⟨⟨score, remarks, clamped, number⟩, conf, sure⟩
      obtain ⟨s, done, same⟩ := scoreQuestion_of_reply reply clamped sure
      exact ⟨s, done, same.symm ▸ number⟩

omit [IsStrictOrderedRing K] in
theorem ownScore_filed {full : K} (limit : q.fullScore = .fin full) {x : K} (own : ownScore text answers q = some x)
    (done : scoreQuestion text str answers q = .ok s) : s.score = .fin x ∧ 0 ≤ x ∧ x ≤ full := by
  unfold ownScore at own
  split at own
  · cases own
  · rename_i a reply
    obtain ⟨⟨remarks, clamped⟩, _⟩ := scoreQuestion_reply reply done
    split at own
    · rename_i y parsed
      rw [Option.ite_none_right_eq_some, limit] at own
      simp only [PyFloat.le_fin, Bool.and_eq_true, decide_eq_true_eq, Option.some.injEq] at own
      obtain ⟨inside, rfl⟩ := own
      unfold clampRaw at clamped
      rw [parsed, limit] at clamped
      dsimp only at clamped
      have kept : ¬ ((PyFloat.fin y).lt (.fin 0) = true ∨ (PyFloat.fin full).lt (.fin y) = true) := by
        simpa using inside
      rw [if_neg kept, Except.ok.injEq, Prod.mk.injEq] at clamped
      exact ⟨clamped.1.symm, inside⟩
    · cases own

theorem confidence_low {a : List (String × Json K)} {c : PyFloat K}
    (done : confidence text (field a "confidence") (.fin (ratio 1 2)) = .ok c) :
    c.lt (.fin (ratio 6 10)) = doubted text a := by
  obtain ⟨positive, below, half⟩ := threshold_bounds (K := K)
  unfold confidence at done
  unfold doubted
  split at done
  · cases done
  · rename_i unreadable
    cases done
    rw [unreadable]
    simpa using half
  · rename_i x parsed
    cases done
    rw [parsed]
    cases x with
    | nan => simpa [clamp01_nan] using below
    | posInf => simpa [clamp01_posInf] using below
    | negInf => simpa [clamp01_negInf] using positive
    | fin c => exact clamp01_low c

/-- What is filed of a confidence that is neither `nan` nor `inf`. -/
theorem confidence_own {a : List (String × Json K)} {c : PyFloat K}
    (done : confidence text (field a "confidence") (.fin (ratio 1 2)) = .ok c) :
    definite text a = true ↔
      (∃ x, toFloat text (field a "confidence") = .ok (.fin x) ∧ c = .fin (max 0 (min 1 x))) ∨
        c.lt (.fin (ratio 6 10)) = true := by
  obtain ⟨positive, below, half⟩ := threshold_bounds (K := K)
  unfold confidence at done
  unfold definite
  split at done
  · cases done
  · rename_i unreadable
    cases done
    rw [unreadable]
    simpa using half
  · rename_i x parsed
    cases done
    rw [parsed]
    cases x with
    | nan => simpa [clamp01_nan] using below
    | posInf => simpa [clamp01_posInf] using below
    | negInf => simpa [clamp01_negInf] using positive
    | fin c => simp [clamp01_fin]

end

end KnowledgeGap.Ingestion
