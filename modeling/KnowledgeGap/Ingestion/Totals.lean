import KnowledgeGap.Ingestion.ExcelRows

namespace KnowledgeGap.Ingestion

open Relational Protocol

variable {K : Type}

/-! Scores entered by hand. -/

inductive ManualError (K : Type)
  | scope
  | answered
  | incomplete
  | outOfRange (idx : Int) (score full : PyFloat K)
  deriving DecidableEq, Repr

/-- What a teacher reads; `write` is how the language writes a float. An error of scope has its text elsewhere. -/
def ManualError.text (write : PyFloat K → String) (scope : String) : ManualError K → String
  | .scope => scope
  | .answered => "该生已有本场考试的作答记录"
  | .incomplete => "题号不完整或包含未知题号；零分也需明确录入"
  | .outOfRange idx score full => "第" ++ toString idx ++ "题分数越界：" ++ write score ++ "（满分 " ++ write full ++ "）"

def manualRow (studentId : Nat) (totalScore : PyFloat K) (id : Nat) : ResponseRow K :=
  ⟨id, studentId, totalScore, .manual, .pendingReview, none⟩

theorem key_manualRow (studentId : Nat) (totalScore : PyFloat K) (id : Nat) :
    Keyed.key (manualRow studentId totalScore id) = id := rfl

/-- `set(scores) == {q.idx for q in questions}` -/
def sameIdx (scores : Dict Int (PyFloat K)) (questions : List (QuestionRow K)) : Bool :=
  scores.keys.all (fun idx => questions.any (fun q => q.idx == idx)) && questions.all (fun q => scores.keys.contains q.idx)

section
variable [Field K] [LinearOrder K]

def enterable (score full : PyFloat K) : Bool := score.isFinite && !score.lt (.fin 0) && !full.lt score

def manualScore (scores : Dict Int (PyFloat K)) (q : QuestionRow K) : PyFloat K := scores.getD q.idx (.fin 0)

/-- The first question whose score cannot be entered. -/
def firstRefused (scores : Dict Int (PyFloat K)) (questions : List (QuestionRow K)) : Option (QuestionRow K) :=
  questions.find? (fun q => !enterable (manualScore scores q) q.fullScore)

def manualAnswer (scores : Dict Int (PyFloat K)) (q : QuestionRow K) : QuestionRow K × Scored K :=
  (q, ⟨manualScore scores q, .fin 1, none, []⟩)

/-- `add_manual_response`: the exam afterwards, and the key of the response or what was raised. -/
def addManualResponseIn [FloorRing K] (arith : Arithmetic K) (e : Intake K) (studentId : Nat) (scores : Dict Int (PyFloat K)) :
    Intake K × Except (ManualError K) Nat :=
  if studentId ∉ e.roster.map Student.id then (e, .error .scope)
  else if e.responses.rows.any (fun r => r.studentId == studentId) then (e, .error .answered)
  else if sameIdx scores e.questions.rows = false then (e, .error .incomplete)
  else
    match firstRefused scores e.questions.rows with
    | some q => (e, .error (.outOfRange q.idx (manualScore scores q) q.fullScore))
    | none =>
      let total := arith.sum ((e.questions.rows.map (manualAnswer scores)).map (fun p => p.2.score))
      let responseId := e.responses.nextId
      ({ e with
          responses := e.responses.insert (manualRow studentId (arith.round 2 total)) (key_manualRow _ _)
          answers := e.answers.insertAll (scoredRow responseId) (key_scoredRow _) (e.questions.rows.map (manualAnswer scores)) },
        .ok responseId)

def addManualResponse [FloorRing K] (e : Intake K) (studentId : Nat) (scores : Dict Int (PyFloat K)) :
    Intake K × Except (ManualError K) Nat :=
  addManualResponseIn .exact e studentId scores

theorem addManualResponse_refused [FloorRing K] {e : Intake K} {studentId : Nat} {scores : Dict Int (PyFloat K)} {error : ManualError K}
    (refused : (addManualResponse e studentId scores).2 = .error error) : (addManualResponse e studentId scores).1 = e := by
  unfold addManualResponse addManualResponseIn at refused ⊢
  split
  · rfl
  · split
    · rfl
    · split
      · rfl
      · split
        · rfl
        · rename_i outside answered incomplete _ none_
          rw [if_neg outside, if_neg answered, if_neg incomplete, none_] at refused
          cases refused

/-! Every way a score gets on file or is changed there. -/

inductive Entry (K : Type)
  | manual (studentId : Nat) (scores : Dict Int (PyFloat K))
  | excel (sheet : List (List (Cell K)))
  | photo (studentId : Nat) (payload : List (String × Json K))
  | edit (change : Edit K)

/-- What the language does with texts and values, for all the writers. -/
structure Spelling (K : Type) where
  writing : Writing K
  externalCode : Nat → Option String
  text : String → Option (PyFloat K)
  str : Json K → String

def record [FloorRing K] (env : Spelling K) (e : Intake K) : Entry K → Intake K
  | .manual studentId scores => (addManualResponse e studentId scores).1
  | .excel sheet => uploadExcel env.writing env.externalCode e sheet
  | .photo studentId payload =>
    match persistPayload env.text env.str e studentId payload with
    | .error _ => e
    | .ok (after, _) => after
  | .edit change => Ingestion.edit e change

/-- The score of the answer is a number within the range of its question. -/
def WithinRange (questions : Table (QuestionRow K)) (questionId : Nat) (score : PyFloat K) : Prop :=
  ∃ q y full, questions.get? questionId = some q ∧ q.fullScore = .fin full ∧ score = .fin y ∧ 0 ≤ y ∧ y ≤ full

/-- The total is the sum of the answers, to half a hundredth. -/
def Tallies (total sum : PyFloat K) : Prop := ∃ t s, total = .fin t ∧ sum = .fin s ∧ |t - s| ≤ ratio 5 1000

structure Sums (e : Intake K) (r : ResponseRow K) : Prop where
  scores : ∀ a ∈ e.answersOf r.id, WithinRange e.questions a.templateQuestionId a.score
  total : Tallies r.totalScore (.sum ((e.answersOf r.id).map AnswerRow.score))

/-- Every response filed since the keys stood at `first` sums up. -/
structure Tallied (first : Nat) (questions : Table (QuestionRow K)) (e : Intake K) : Prop where
  questions : e.questions = questions
  linked : e.Linked
  grown : first ≤ e.responses.nextId
  sums : ∀ r ∈ e.responses.rows, first ≤ r.id → Sums e r

theorem WithinRange.finite {questions : Table (QuestionRow K)} {questionId : Nat} {score : PyFloat K}
    (within : WithinRange questions questionId score) : score.isFinite = true := by
  obtain ⟨_, _, _, _, _, number, _⟩ := within
  rw [number]
  rfl

end

section
variable [Field K] [LinearOrder K] [FloorRing K] [IsStrictOrderedRing K]

theorem tallies_self (x : K) : Tallies (.fin x) (.fin x) := by
  refine ⟨x, x, rfl, rfl, ?_⟩
  rw [sub_self, abs_zero, ratio]
  positivity

theorem tallies_round {values : List (PyFloat K)} (finite : ∀ v ∈ values, v.isFinite = true) :
    Tallies ((PyFloat.sum values).round 2) (.sum values) := by
  obtain ⟨s, total⟩ := PyFloat.sum_finite finite
  refine ⟨roundTo 2 s, s, by rw [total, PyFloat.round_fin], total, ?_⟩
  have near := roundTo_near 2 s
  have half : (ratio 1 2 : K) / ((10 : Nat) : K) ^ 2 = ratio 5 1000 := by
    unfold ratio
    norm_num
  rwa [half] at near

theorem Tallies.off {e : Intake K} {r : ResponseRow K} (tallies : Tallies r.totalScore (.sum ((e.answersOf r.id).map AnswerRow.score))) :
    totalOff e r = false := by
  obtain ⟨t, s, total, sum, near⟩ := tallies
  have wide : (ratio 5 1000 : K) ≤ ratio 11 1000 := by
    unfold ratio
    norm_num
  have abs_ : ((PyFloat.fin t).sub (.fin s)).abs = .fin |t - s| := by
    simp [PyFloat.sub, PyFloat.neg, PyFloat.abs, sub_eq_add_neg, abs_eq_max_neg]
  rw [totalOff_eq, total, sum, abs_]
  simp only [PyFloat.isFinite, Bool.not_true, Bool.false_or, PyFloat.lt_fin, decide_eq_false_iff_not, not_lt]
  exact le_trans near wide

omit [FloorRing K] [IsStrictOrderedRing K] in
/-- Nothing but the total of a response raises this issue. -/
theorem mismatch_totalOff {render : PyFloat K → String} {e : Intake K} {r : ResponseRow K} {i : PreflightIssue}
    (raised : i ∈ responseCheck render e r) (code : i.code = .totalMismatch) : totalOff e r = true := by
  simp only [responseCheck, responseCheckBy, List.mem_append, List.mem_ite_nil_left, List.mem_ite_nil_right, List.mem_singleton,
    List.mem_map, List.mem_flatMap] at raised
  rcases raised with (((((⟨_, rfl⟩ | ⟨_, rfl⟩) | ⟨_, rfl⟩) | ⟨_, _, rfl⟩) | ⟨q, _, covered⟩) | ⟨a, _, answer⟩) | ⟨off, rfl⟩
  · cases code
  · cases code
  · cases code
  · cases code
  · unfold coverage at covered
    split at covered
    · rw [List.mem_singleton.mp covered] at code
      cases code
    · cases covered
    · rw [List.mem_singleton.mp covered] at code
      cases code
  · unfold answerCheck at answer
    split at answer
    · rw [List.mem_singleton.mp answer] at code
      cases code
    · simp only [List.mem_append, List.mem_ite_nil_left, List.mem_ite_nil_right, List.mem_singleton] at answer
      rcases answer with ⟨_, rfl⟩ | ⟨_, rfl⟩ <;> cases code
  · exact (Bool.and_eq_true_iff.mp off).2

omit [FloorRing K] [IsStrictOrderedRing K] in
theorem mismatch_of_response {render : PyFloat K → String} {e : Intake K} {r : ResponseRow K} (stored : r ∈ e.responses.rows)
    {i : PreflightIssue} (raised : i ∈ (examPreflight render e).issues) (code : i.code = .totalMismatch)
    (names : i.responseId = some r.id) : totalOff e r = true := by
  simp only [examPreflight, examPreflightBy, preflightIssuesBy, List.mem_append, List.mem_ite_nil_left, List.mem_ite_nil_right,
    List.mem_singleton, List.mem_flatMap] at raised
  rcases raised with (((⟨_, rfl⟩ | ⟨_, rfl⟩) | ⟨_, _, question⟩) | ⟨other, waits, here⟩) | ⟨_, rfl⟩
  · cases names
  · cases names
  · rw [questionIssues_responseId question] at names
    cases names
  · rw [responseCheck_responseId render here, Option.some.injEq] at names
    rw [← e.responses.key_inj (mem_pending.mp waits).1 stored names]
    exact mismatch_totalOff here code
  · cases names

/-! A response filed anew. -/

theorem Tallied.filed {first : Nat} {questions : Table (QuestionRow K)} {e : Intake K} (before : Tallied first questions e)
    {mk : Nat → ResponseRow K} (keyed : ∀ n, Keyed.key (mk n) = n) {scored : List (QuestionRow K × Scored K)}
    (total : (mk e.responses.nextId).totalScore = (PyFloat.sum (scored.map (fun p => p.2.score))).round 2)
    (range : ∀ p ∈ scored, WithinRange questions p.1.id p.2.score) :
    Tallied first questions { e with
      responses := e.responses.insert mk keyed
      answers := e.answers.insertAll (scoredRow e.responses.nextId) (key_scoredRow _) scored } where
  questions := before.questions
  linked := by
    intro a among
    show a.examResponseId < e.responses.nextId + 1
    rw [Table.rows_insertAll, List.mem_append] at among
    rcases among with old | new
    · have below := before.linked a old
      omega
    · obtain ⟨n, inside, rfl⟩ := List.mem_mapIdx.mp new
      show e.responses.nextId < e.responses.nextId + 1
      omega
  grown := by
    have below := before.grown
    show first ≤ e.responses.nextId + 1
    omega
  sums := by
    intro r among beyond
    rw [Table.rows_insert, List.mem_append, List.mem_singleton] at among
    rcases among with old | rfl
    · have apart : r.id ≠ e.responses.nextId := Nat.ne_of_lt (e.responses.issued r old)
      obtain ⟨scores, sum⟩ := before.sums r old beyond
      have same : Table.select (e.answers.insertAll (scoredRow e.responses.nextId) (key_scoredRow _) scored)
          (fun a => a.examResponseId == r.id) = e.answersOf r.id := select_scored_other apart scored
      exact ⟨by unfold Intake.answersOf; rw [same]; exact scores, by unfold Intake.answersOf; rw [same]; exact sum⟩
    · have key : (mk e.responses.nextId).id = e.responses.nextId := keyed _
      have own : Table.select (e.answers.insertAll (scoredRow e.responses.nextId) (key_scoredRow _) scored)
          (fun a => a.examResponseId == (mk e.responses.nextId).id) =
            scored.mapIdx (fun n p => scoredRow e.responses.nextId p (e.answers.nextId + n)) := by
        rw [key]
        exact select_scored_own before.linked scored
      constructor
      · unfold Intake.answersOf
        rw [own]
        intro a made
        obtain ⟨p, listed, question, score, _⟩ := mem_scoredRows made
        rw [question, score]
        show WithinRange e.questions p.1.id p.2.score
        rw [before.questions]
        exact range p listed
      · unfold Intake.answersOf
        rw [own, scoredRows_scores, total]
        apply tallies_round
        intro v listed
        obtain ⟨p, member, rfl⟩ := List.mem_map.mp listed
        exact (range p member).finite

omit [FloorRing K] [IsStrictOrderedRing K] in
theorem withinRange_of_mem {questions : Table (QuestionRow K)} {q : QuestionRow K} (listed : q ∈ questions.rows) {full y : K}
    (limit : q.fullScore = .fin full) {score : PyFloat K} (number : score = .fin y) (low : 0 ≤ y) (high : y ≤ full) :
    WithinRange questions q.id score :=
  ⟨q, y, full, questions.get?_of_mem listed, limit, number, low, high⟩

omit [FloorRing K] [IsStrictOrderedRing K] in
theorem enterable_iff {score : PyFloat K} {full : K} :
    enterable score (.fin full) = true ↔ ∃ y, score = .fin y ∧ 0 ≤ y ∧ y ≤ full := by
  cases score with
  | nan | negInf | posInf => simp [enterable, PyFloat.isFinite]
  | fin x => simp [enterable, PyFloat.isFinite]

theorem Tallied.manual {first : Nat} {questions : Table (QuestionRow K)} {e : Intake K} (before : Tallied first questions e)
    (scorable : Scorable questions.rows) (studentId : Nat) (scores : Dict Int (PyFloat K)) :
    Tallied first questions (addManualResponse e studentId scores).1 := by
  unfold addManualResponse addManualResponseIn
  simp only [Arithmetic.exact_sum, Arithmetic.exact_round]
  split
  · exact before
  · split
    · exact before
    · split
      · exact before
      · split
        · exact before
        · rename_i none_
          apply before.filed
          · rfl
          · intro p listed
            obtain ⟨q, member, rfl⟩ := List.mem_map.mp listed
            rw [firstRefused, List.find?_eq_none] at none_
            have accepted : enterable (manualScore scores q) q.fullScore = true := by simpa using none_ q member
            rw [before.questions] at member
            obtain ⟨full, limit, _⟩ := scorable q member
            rw [limit, enterable_iff] at accepted
            obtain ⟨y, number, low, high⟩ := accepted
            exact withinRange_of_mem member limit number low high

/-! A sheet. -/

omit [FloorRing K] [IsStrictOrderedRing K] in
theorem Tallied.noted {first : Nat} {questions : Table (QuestionRow K)} {e : Intake K} (before : Tallied first questions e)
    (k : Nat) (warning : String) :
    Tallied first questions { e with responses := e.responses.modify k (note warning) (key_note _) } where
  questions := before.questions
  linked := before.linked
  grown := before.grown
  sums := by
    intro r among beyond
    obtain ⟨old, listed, same⟩ := of_mem_modify_note among
    obtain ⟨scores, sum⟩ := before.sums old listed (same.key ▸ beyond)
    constructor
    · rw [same.key]
      exact scores
    · rw [same.key, same.total]
      exact sum

theorem Tallied.row {first : Nat} {questions : Table (QuestionRow K)} {w : Writing K} {layout : Layout K}
    (sound : layout.columns.Sound questions.rows) (scorable : Scorable questions.rows) {row : List (Cell K)} {e e' : Intake K}
    (outcome : RowOutcome w layout row e e') (before : Tallied first questions e) : Tallied first questions e' := by
  cases outcome with
  | idle _ same =>
    rw [same]
    exact before
  | noted _ _ r _ _ warning after =>
    rw [after]
    exact before.noted r.id warning
  | filed student _ _ scored rowIdx name remarks warnings marked after =>
    rw [after]
    apply before.filed
    · rfl
    · intro p listed
      obtain ⟨_, cells⟩ := rowScores_spec (scorable.columns sound) marked
      obtain ⟨col, member, cell⟩ := cells p listed
      obtain ⟨y, full, number, limit, low, high⟩ := cell.range
      exact withinRange_of_mem (sound.known _ member) limit number low high

theorem Tallied.excel {first : Nat} {questions : Table (QuestionRow K)} {e : Intake K} (before : Tallied first questions e)
    (scorable : Scorable questions.rows) (w : Writing K) (externalCode : Nat → Option String) (sheet : List (List (Cell K))) :
    Tallied first questions (uploadExcel w externalCode e sheet) := by
  unfold uploadExcel
  split
  · exact before
  · rename_i after result done
    unfold importExcel at done
    split at done
    · cases done
    · rename_i heading rows
      split at done
      · cases done
      · rename_i layout laid
        have sound := layoutOf_sound laid
        rw [before.questions] at sound
        exact importRows_invariant rows (fun row _ e e' outcome kept => kept.row sound scorable outcome) before done

/-! A photo. -/

omit [IsStrictOrderedRing K] [FloorRing K] in
theorem scoreQuestion_range {env : Spelling K} {answers : Dict (AnswerKey K) (List (String × Json K))} {q : QuestionRow K}
    {full : K} (limit : q.fullScore = .fin full) (positive : 0 < full) {s : Scored K}
    (done : scoreQuestion env.text env.str answers q = .ok s) (number : s.score ≠ .nan) :
    ∃ y, s.score = .fin y ∧ 0 ≤ y ∧ y ≤ full := by
  cases found : answers.get? (.number (.fin q.idx)) with
  | none => exact ⟨0, (scoreQuestion_missing found done).1, le_refl 0, le_of_lt positive⟩
  | some a =>
    obtain ⟨⟨remarks, clamped⟩, _⟩ := scoreQuestion_reply found done
    rw [limit] at clamped
    exact (clampRaw_range positive clamped).resolve_left (fun unreadable => number unreadable.2)

theorem Tallied.photo {first : Nat} {questions : Table (QuestionRow K)} {e : Intake K} (before : Tallied first questions e)
    (scorable : Scorable questions.rows) (env : Spelling K) {studentId : Nat} {payload : List (String × Json K)} :
    Tallied first questions (record env e (.photo studentId payload)) := by
  dsimp only [record]
  split
  · exact before
  · rename_i after key remarks done
    unfold persistPayload at done
    split at done
    · cases done
    · split at done
      · cases done
      · split at done
        · cases done
        · rename_i answers read
          split at done
          · cases done
          · rename_i scored marked
            split at done
            · cases done
            · rename_i numbers
              cases done
              apply before.filed
              · rfl
              · intro p listed
                obtain ⟨asked, each⟩ := scoreQuestions_ok env.text env.str marked
                have member : p.1 ∈ questions.rows := by
                  rw [← before.questions, ← mem_orderedQuestions, ← asked]
                  exact List.mem_map_of_mem listed
                have number : p.2.score ≠ .nan := by
                  intro none_
                  exact numbers (List.any_eq_true.mpr ⟨p, listed, decide_eq_true none_⟩)
                obtain ⟨full, limit, positive⟩ := scorable p.1 member
                obtain ⟨y, score, low, high⟩ := scoreQuestion_range limit positive (each p listed) number
                exact withinRange_of_mem member limit score low high

/-! An edit. -/

omit [LinearOrder K] [FloorRing K] [IsStrictOrderedRing K] in
theorem select_confirm_other {answers : Table (AnswerRow K)} {a : AnswerRow K} (stored : a ∈ answers.rows) {id : Nat}
    (apart : id ≠ a.examResponseId) (score : Option (PyFloat K)) (chosenOption : Option String) :
    (answers.modify a.id (confirm score chosenOption) (key_confirm _ _)).select (fun b => b.examResponseId == id) =
      answers.select (fun b => b.examResponseId == id) := by
  rw [Table.select, Table.select, Table.rows_modify]
  apply filter_map_of_fixed
  · intro b _
    split <;> rfl
  · intro b listed own
    rw [if_neg]
    intro here
    rw [answers.key_inj listed stored (beq_iff_eq.mp here), beq_iff_eq] at own
    exact apart own.symm

omit [LinearOrder K] [FloorRing K] [IsStrictOrderedRing K] in
theorem of_mem_confirm {answers : Table (AnswerRow K)} {a : AnswerRow K} (stored : a ∈ answers.rows) {score : Option (PyFloat K)}
    {chosenOption : Option String} {b : AnswerRow K}
    (listed : b ∈ (answers.modify a.id (confirm score chosenOption) (key_confirm _ _)).rows) :
    b ∈ answers.rows ∨ b = confirm score chosenOption a := by
  rw [Table.rows_modify] at listed
  obtain ⟨old, before, rfl⟩ := List.mem_map.mp listed
  split
  · rename_i here
    rw [answers.key_inj before stored (beq_iff_eq.mp here)]
    exact Or.inr rfl
  · exact Or.inl before

/-- What is written over an exam when the answers of one response change. -/
def rescored (e : Intake K) (responseId : Nat) (answers : Table (AnswerRow K)) (total : PyFloat K) : Intake K :=
  { e with answers := answers, responses := e.responses.modify responseId (withTotal total) (key_withTotal _) }

omit [FloorRing K] [IsStrictOrderedRing K] in
theorem Tallied.rescored {first : Nat} {questions : Table (QuestionRow K)} {e : Intake K} (before : Tallied first questions e)
    {responseId : Nat} {answers : Table (AnswerRow K)} {total : PyFloat K}
    (linked : ∀ a ∈ answers.rows, a.examResponseId < e.responses.nextId)
    (others : ∀ id, id ≠ responseId → answers.select (fun a => a.examResponseId == id) = e.answersOf id)
    (scores : first ≤ responseId → ∀ a ∈ answers.rows, a.examResponseId = responseId →
      WithinRange questions a.templateQuestionId a.score)
    (sum : first ≤ responseId → Tallies total (scoreSum answers responseId)) :
    Tallied first questions (Ingestion.rescored e responseId answers total) where
  questions := before.questions
  linked := linked
  grown := before.grown
  sums := by
    intro r among beyond
    obtain ⟨old, listed, rfl⟩ := List.mem_map.mp among
    by_cases here : Keyed.key old = responseId
    · rw [if_pos (beq_iff_eq.mpr here)] at beyond ⊢
      have key : (withTotal total old).id = responseId := here
      rw [key] at beyond
      constructor
      · intro a member
        obtain ⟨there, own⟩ := mem_answersOf.mp member
        show WithinRange e.questions a.templateQuestionId a.score
        rw [before.questions]
        exact scores beyond a there (own.trans key)
      · rw [key]
        exact sum beyond
    · rw [if_neg (fun same => here (beq_iff_eq.mp same))] at beyond ⊢
      have same : (Ingestion.rescored e responseId answers total).answersOf old.id = e.answersOf old.id := others old.id here
      obtain ⟨within, sum⟩ := before.sums old listed beyond
      exact ⟨by rw [same]; exact within, by rw [same]; exact sum⟩

omit [FloorRing K] [IsStrictOrderedRing K] in
theorem Tallied.inRange {first : Nat} {questions : Table (QuestionRow K)} {e : Intake K} (before : Tallied first questions e)
    {r : ResponseRow K} (stored : r ∈ e.responses.rows) (beyond : first ≤ r.id) :
    ∀ a ∈ e.answers.rows, a.examResponseId = r.id → WithinRange questions a.templateQuestionId a.score := by
  intro a listed own
  have kept := (before.sums r stored beyond).scores a (mem_answersOf.mpr ⟨listed, own⟩)
  rwa [before.questions] at kept

omit [FloorRing K] [IsStrictOrderedRing K] in
theorem scores_finite {questions : Table (QuestionRow K)} {answers : Table (AnswerRow K)} {responseId : Nat}
    (scores : ∀ a ∈ answers.rows, a.examResponseId = responseId → WithinRange questions a.templateQuestionId a.score) :
    ∀ v ∈ (answers.select (fun a => a.examResponseId == responseId)).map AnswerRow.score, v.isFinite = true := by
  intro v summed
  obtain ⟨a, listed, rfl⟩ := List.mem_map.mp summed
  obtain ⟨there, own⟩ := List.mem_filter.mp listed
  exact (scores a there (beq_iff_eq.mp own)).finite

omit [FloorRing K] [IsStrictOrderedRing K] in
/-- One answer of a response is set, and the total with it. -/
theorem Tallied.confirmed {first : Nat} {questions : Table (QuestionRow K)} {e : Intake K} (before : Tallied first questions e)
    {r : ResponseRow K} (stored : r ∈ e.responses.rows) {a : AnswerRow K} (there : a ∈ e.answers.rows)
    (own : a.examResponseId = r.id) {score : Option (PyFloat K)} {chosenOption : Option String} {total : PyFloat K}
    (new : first ≤ r.id → WithinRange questions a.templateQuestionId (score.getD a.score))
    (sum : (∀ v ∈ ((e.answers.modify a.id (confirm score chosenOption) (key_confirm _ _)).select
        (fun b => b.examResponseId == r.id)).map AnswerRow.score, v.isFinite = true) →
      Tallies total (scoreSum (e.answers.modify a.id (confirm score chosenOption) (key_confirm _ _)) r.id)) :
    Tallied first questions
      (Ingestion.rescored e r.id (e.answers.modify a.id (confirm score chosenOption) (key_confirm _ _)) total) := by
  have scores : first ≤ r.id → ∀ b ∈ (e.answers.modify a.id (confirm score chosenOption) (key_confirm _ _)).rows,
      b.examResponseId = r.id → WithinRange questions b.templateQuestionId b.score := by
    intro beyond b listed belongs
    rcases of_mem_confirm there listed with same | rfl
    · exact before.inRange stored beyond b same belongs
    · exact new beyond
  refine before.rescored ?_ ?_ scores (fun beyond => sum (scores_finite (scores beyond)))
  · intro b listed
    rcases of_mem_confirm there listed with same | rfl
    · exact before.linked b same
    · exact before.linked a there
  · intro id apart
    exact select_confirm_other there (own.symm ▸ apart) _ _

/-- An answer is added to a response, and the total is that of all. -/
theorem Tallied.entered {first : Nat} {questions : Table (QuestionRow K)} {e : Intake K} (before : Tallied first questions e)
    {r : ResponseRow K} (stored : r ∈ e.responses.rows) {questionId : Nat} {score : K}
    (within : WithinRange questions questionId (.fin score)) :
    Tallied first questions
      (Ingestion.rescored e r.id (e.answers.insert (enteredRow r.id questionId score) (key_enteredRow _ _ _))
        ((scoreSum (e.answers.insert (enteredRow r.id questionId score) (key_enteredRow _ _ _)) r.id).round 2)) := by
  have scores : first ≤ r.id → ∀ b ∈ (e.answers.insert (enteredRow r.id questionId score) (key_enteredRow _ _ _)).rows,
      b.examResponseId = r.id → WithinRange questions b.templateQuestionId b.score := by
    intro beyond b listed belongs
    rw [Table.rows_insert, List.mem_append, List.mem_singleton] at listed
    rcases listed with same | rfl
    · exact before.inRange stored beyond b same belongs
    · exact within
  refine before.rescored ?_ ?_ scores (fun beyond => tallies_round (scores_finite (scores beyond)))
  · intro b listed
    rw [Table.rows_insert, List.mem_append, List.mem_singleton] at listed
    rcases listed with same | rfl
    · exact before.linked b same
    · exact e.responses.issued r stored
  · intro id apart
    rw [Table.select, Table.rows_insert, List.filter_append]
    have none_ : ((enteredRow r.id questionId score e.answers.nextId).examResponseId == id) = false := by
      simpa [enteredRow] using apart.symm
    simp [none_, Intake.answersOf, Table.select]

theorem Tallied.correct {first : Nat} {questions : Table (QuestionRow K)} {e : Intake K} (before : Tallied first questions e)
    (scorable : Scorable questions.rows) (responseId : Nat) (questionIdx : Int) (score : K) :
    Tallied first questions (correctScore e responseId questionIdx score) := by
  unfold correctScore
  split
  · rename_i r q filed asked
    split
    · exact before
    · rename_i accepted
      rw [not_or, not_or, not_lt] at accepted
      obtain ⟨low, _, fits⟩ := accepted
      have stored : r ∈ e.responses.rows := Table.get?_mem filed
      have key : r.id = responseId := Table.get?_key filed
      subst key
      have member : q ∈ questions.rows := by
        rw [← before.questions]
        exact List.mem_of_find?_eq_some asked
      obtain ⟨full, limit, _⟩ := scorable q member
      have high : score ≤ full := by simpa [limit] using fits
      have within : WithinRange questions q.id (.fin score) := withinRange_of_mem member limit rfl low high
      dsimp only
      split
      · rename_i a found
        obtain ⟨there, own⟩ := mem_answersOf.mp (List.mem_of_find?_eq_some found)
        have question : a.templateQuestionId = q.id := by simpa using List.find?_some found
        apply before.confirmed stored there own
        · intro _
          rw [question]
          exact within
        · exact tallies_round
      · exact before.entered stored within
  · exact before

theorem Tallied.update {first : Nat} {questions : Table (QuestionRow K)} {e : Intake K} (before : Tallied first questions e)
    (answerId : Nat) (score : Option (PyFloat K)) (chosenOption : Option String) :
    Tallied first questions (updateAnswer e answerId score chosenOption) := by
  unfold updateAnswer
  split
  · exact before
  · rename_i a found
    split
    · exact before
    · rename_i r filed
      split
      · exact before
      · split
        · exact before
        · rename_i accepted
          have there : a ∈ e.answers.rows := Table.get?_mem found
          have named : a.id = answerId := Table.get?_key found
          have stored : r ∈ e.responses.rows := Table.get?_mem filed
          have key : r.id = a.examResponseId := Table.get?_key filed
          subst named
          apply before.confirmed stored there key.symm
          · intro beyond
            have kept := before.inRange stored beyond a there key.symm
            cases score with
            | none => exact kept
            | some x =>
              obtain ⟨q, _, full, asked, limit, _, _, _⟩ := kept
              have inside : admissible e a x = true := by
                by_contra outside
                exact accepted (Or.inl (Bool.eq_false_of_not_eq_true outside))
              rw [admissible, before.questions, asked, Option.all_some, limit] at inside
              cases x with
              | nan | negInf | posInf => simp [PyFloat.le] at inside
              | fin y =>
                simp only [PyFloat.le_fin, Bool.and_eq_true, decide_eq_true_eq] at inside
                exact ⟨q, y, full, asked, limit, rfl, inside⟩
          · intro finite
            obtain ⟨s, sum⟩ := PyFloat.sum_finite finite
            rw [scoreSum, sum]
            exact tallies_self s

theorem Tallied.record {first : Nat} {questions : Table (QuestionRow K)} {e : Intake K} (before : Tallied first questions e)
    (scorable : Scorable questions.rows) (env : Spelling K) (entry : Entry K) :
    Tallied first questions (record env e entry) := by
  cases entry with
  | manual studentId scores => exact before.manual scorable studentId scores
  | excel sheet => exact before.excel scorable env.writing env.externalCode sheet
  | photo studentId payload => exact before.photo scorable env
  | edit change =>
    cases change with
    | correct responseId questionIdx score => exact before.correct scorable responseId questionIdx score
    | update answerId score chosenOption => exact before.update answerId score chosenOption

/-- Whatever is entered and edited, every response filed on the way sums up and is not held back for its total; and a
    response that is refused leaves nothing behind. -/
theorem totals_match (env : Spelling K) (render : PyFloat K → String) (e : Intake K) (linked : e.Linked)
    (scorable : Scorable e.questions.rows) (entries : List (Entry K)) :
    (∀ r ∈ (run (record env) e entries).responses.rows, e.responses.nextId ≤ r.id →
      Sums (run (record env) e entries) r ∧
        ∀ i ∈ (examPreflight render (run (record env) e entries)).issues, i.code = .totalMismatch → i.responseId ≠ some r.id) ∧
      ∀ (before : Intake K) (studentId : Nat) (scores : Dict Int (PyFloat K)) (error : ManualError K),
        (addManualResponse before studentId scores).2 = .error error → (addManualResponse before studentId scores).1 = before := by
  refine ⟨?_, fun _ _ _ _ refused => addManualResponse_refused refused⟩
  have start : Tallied e.responses.nextId e.questions e :=
    ⟨rfl, linked, le_refl _, fun r listed beyond => absurd (e.responses.issued r listed) (not_lt.mpr beyond)⟩
  have preserve : ∀ (e' : Intake K) (entry : Entry K), Tallied e.responses.nextId e.questions e' →
      Tallied e.responses.nextId e.questions (record env e' entry) := fun _ entry kept => kept.record scorable env entry
  have tallied := run_invariant preserve entries e start
  intro r listed beyond
  have sums := tallied.sums r listed beyond
  refine ⟨sums, ?_⟩
  intro i raised code names
  have off := mismatch_of_response listed raised code names
  rw [sums.total.off] at off
  cases off

end

def plainSpelling : Spelling ℚ := ⟨plainWriting, fun _ => none, fun _ => none, fun _ => ""⟩

def enteredScores : List (Entry ℚ) :=
  [.manual 2 (.ofList [(1, .fin (5 / 2)), (2, .fin 3)]), .edit (.correct 2 1 4), .excel markSheet]

/-- A first score by hand, a correction of it and a sheet in which the student comes again. -/
theorem totals_match_week_test :
    (run (record plainSpelling) weekTest enteredScores).responses.rows.map (fun r => (r.id, r.totalScore)) = [(1, .fin 3), (2, .fin 7)] ∧
      ∀ r ∈ (run (record plainSpelling) weekTest enteredScores).responses.rows, weekTest.responses.nextId ≤ r.id →
        Sums (run (record plainSpelling) weekTest enteredScores) r := by
  have linked : weekTest.Linked := by
    unfold Intake.Linked
    decide +kernel
  have scorable : Scorable weekTest.questions.rows := by
    intro q listed
    have full : q.fullScore = .fin 5 := by
      revert q
      decide +kernel
    exact ⟨5, full, by decide +kernel⟩
  refine ⟨by decide +kernel, ?_⟩
  intro r listed beyond
  exact ((totals_match plainSpelling (fun _ => "") weekTest linked scorable enteredScores).1 r listed beyond).1

/-- One student, and questions of the full scores given. -/
def onePaper (fulls : List ℚ) : Intake ℚ where
  examId := 1
  source := .other "考试"
  targeted := false
  roster := [⟨1, 1, "甲"⟩]
  questions := .ofList (fulls.mapIdx (fun n full => ⟨n + 1, n + 1, .other "解答", .fin full, [true]⟩))
  responses := .empty
  answers := .empty

/-- The float next to 1e308. -/
def enormous : ℚ := nearest (10 ^ 308)

/-- The exam after the scores of its only student were typed in, with floats of 64 bits. -/
def typedIn (fulls : List ℚ) (scores : List (Int × PyFloat ℚ)) : Intake ℚ :=
  (addManualResponseIn binary64 (onePaper fulls) 1 (.ofList scores)).1

def eighth : Intake ℚ := typedIn [1] [(1, .fin (1 / 8))]

def overflown : Intake ℚ := typedIn [enormous, enormous] [(1, .fin enormous), (2, .fin enormous)]

/-- With floats an eighth is filed as 0.12, more than half a hundredth away, and two scores of 1e308 add up to infinity,
    which the report holds against them. -/
theorem totals_drift :
    (∃ r ∈ eighth.responses.rows, ¬ Tallies r.totalScore (binary64.sum ((eighth.answersOf r.id).map AnswerRow.score))) ∧
      overflown.responses.rows.map ResponseRow.totalScore = [.posInf] ∧
      (∀ a ∈ overflown.answers.rows, WithinRange overflown.questions a.templateQuestionId a.score) ∧
      ∃ i ∈ (examPreflightIn (fun _ => "") binary64 overflown).issues, i.code = .totalMismatch ∧ i.responseId = some 1 := by
  have filed : eighth.responses.rows = [manualRow 1 (.fin (nearest (12 / 100))) 1] := by decide +kernel
  have sum : binary64.sum ((eighth.answersOf 1).map AnswerRow.score) = .fin (1 / 8) := by decide +kernel
  have far : ¬ |nearest (12 / 100) - 1 / 8| ≤ ratio 5 1000 := by decide +kernel
  refine ⟨⟨_, filed ▸ List.mem_singleton_self _, ?_⟩, by decide +kernel, ?_, by decide +kernel⟩
  · rintro ⟨t, s, total, own, near⟩
    cases total
    cases sum.symm.trans own
    exact far near
  · intro a listed
    have full : ∀ a ∈ overflown.answers.rows, a.score = .fin enormous ∧
        (overflown.questions.get? a.templateQuestionId).map QuestionRow.fullScore = some (.fin enormous) := by decide +kernel
    obtain ⟨score, limit⟩ := full a listed
    obtain ⟨q, asked, same⟩ := Option.map_eq_some_iff.mp limit
    exact ⟨q, enormous, enormous, asked, same, score, by decide +kernel, le_refl _⟩

end KnowledgeGap.Ingestion
