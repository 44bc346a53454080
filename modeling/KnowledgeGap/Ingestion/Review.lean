import KnowledgeGap.Ingestion.PhotoScores

namespace KnowledgeGap.Ingestion

open Relational Protocol

variable {K : Type}

/-- A teacher's work on the scores of an exam, one constructor an endpoint. -/
inductive Edit (K : Type)
  | correct (responseId : Nat) (questionIdx : Int) (score : K)
  | update (answerId : Nat) (score : Option (PyFloat K)) (chosenOption : Option String)

def withTotal (total : PyFloat K) (r : ResponseRow K) : ResponseRow K := { r with totalScore := total }

theorem key_withTotal (total : PyFloat K) (r : ResponseRow K) : Keyed.key (withTotal total r) = Keyed.key r := rfl

section
variable [Field K]

def confirm (score : Option (PyFloat K)) (chosenOption : Option String) (a : AnswerRow K) : AnswerRow K :=
  { a with score := score.getD a.score, chosenOption := chosenOption.or a.chosenOption, parseConfidence := .fin 1 }

theorem key_confirm (score : Option (PyFloat K)) (chosenOption : Option String) (a : AnswerRow K) :
    Keyed.key (confirm score chosenOption a) = Keyed.key a := rfl

def enteredRow (responseId questionId : Nat) (score : K) (id : Nat) : AnswerRow K :=
  ⟨id, responseId, questionId, .fin score, none, .fin 1⟩

theorem key_enteredRow (responseId questionId : Nat) (score : K) (id : Nat) :
    Keyed.key (enteredRow responseId questionId score id) = id := rfl

def scoreSum (answers : Table (AnswerRow K)) (responseId : Nat) : PyFloat K :=
  .sum ((answers.select (fun a => a.examResponseId == responseId)).map AnswerRow.score)

end

def Intake.question? (e : Intake K) (questionIdx : Int) : Option (QuestionRow K) :=
  e.questions.rows.find? (fun q => q.idx == questionIdx)

/-- The answer of a response to a question, when there is one. -/
def Intake.answer? (e : Intake K) (responseId questionId : Nat) : Option (AnswerRow K) :=
  (e.answersOf responseId).find? (fun a => a.templateQuestionId == questionId)

section
variable [Field K] [LinearOrder K]

/-- `correct_preflight_score` -/
def correctScore [FloorRing K] (e : Intake K) (responseId : Nat) (questionIdx : Int) (score : K) : Intake K :=
  match e.responses.get? responseId, e.question? questionIdx with
  | some r, some q =>
    if score < 0 ∨ r.status ≠ .pendingReview ∨ q.fullScore.lt (.fin score) = true then e
    else
      let answers :=
        match e.answer? responseId q.id with
        | some a => e.answers.modify a.id (confirm (some (.fin score)) none) (key_confirm _ _)
        | none => e.answers.insert (enteredRow responseId q.id score) (key_enteredRow _ _ _)
      { e with
        answers := answers
        responses := e.responses.modify responseId (withTotal ((scoreSum answers responseId).round 2)) (key_withTotal _) }
  | _, _ => e

/-- The range check; a question of another exam has a limit of its own, which is not looked at here. -/
def admissible (e : Intake K) (a : AnswerRow K) (score : PyFloat K) : Bool :=
  (e.questions.get? a.templateQuestionId).all (fun q => (PyFloat.fin 0).le score && score.le q.fullScore)

def updateAnswer (e : Intake K) (answerId : Nat) (score : Option (PyFloat K)) (chosenOption : Option String) : Intake K :=
  match e.answers.get? answerId with
  | none => e
  | some a =>
    match e.responses.get? a.examResponseId with
    | none => e
    | some r =>
      if r.status ≠ .pendingReview then e
      else if score.all (admissible e a) = false ∨ (score.isNone ∧ chosenOption.isNone) then e
      else
        let answers := e.answers.modify answerId (confirm score chosenOption) (key_confirm _ _)
        { e with
          answers := answers
          responses := e.responses.modify r.id (withTotal (scoreSum answers r.id)) (key_withTotal _) }

def edit [FloorRing K] (e : Intake K) : Edit K → Intake K
  | .correct responseId questionIdx score => correctScore e responseId questionIdx score
  | .update answerId score chosenOption => updateAnswer e answerId score chosenOption

/-- The answer on file that an edit confirms. -/
def Edit.target (e : Intake K) : Edit K → Option Nat
  | .correct responseId questionIdx _ =>
    (e.question? questionIdx).bind (fun q => (e.answer? responseId q.id).map AnswerRow.id)
  | .update answerId _ _ => some answerId

end

theorem mem_modify_other {ρ : Type} [Keyed ρ] {t : Table ρ} {k : Nat} {f : ρ → ρ} (keeps : ∀ r, Keyed.key (f r) = Keyed.key r)
    {r : ρ} (stored : r ∈ t.rows) (other : Keyed.key r ≠ k) : r ∈ (t.modify k f keeps).rows := by
  rw [Table.rows_modify, List.mem_map]
  exact ⟨r, stored, by simp [other]⟩

/-- Both endpoints leave every response where and as it was, but for its total. -/
theorem mem_modify_total {t : Table (ResponseRow K)} {k : Nat} {total : PyFloat K} {r : ResponseRow K} (stored : r ∈ t.rows) :
    ∃ r' ∈ (t.modify k (withTotal total) (key_withTotal _)).rows, r'.id = r.id ∧ r'.status = r.status := by
  rw [Table.rows_modify]
  by_cases here : Keyed.key r = k
  · exact ⟨withTotal total r, List.mem_map.mpr ⟨r, stored, by simp [here]⟩, rfl, rfl⟩
  · exact ⟨r, List.mem_map.mpr ⟨r, stored, by simp [here]⟩, rfl, rfl⟩

section
variable [Field K] [LinearOrder K] [FloorRing K]

theorem edit_response {e : Intake K} (ed : Edit K) {r : ResponseRow K} (stored : r ∈ e.responses.rows) :
    ∃ r' ∈ (edit e ed).responses.rows, r'.id = r.id ∧ r'.status = r.status := by
  cases ed with
  | correct responseId questionIdx score =>
    dsimp only [edit]
    unfold correctScore
    split
    · split
      · exact ⟨r, stored, rfl, rfl⟩
      · exact mem_modify_total stored
    · exact ⟨r, stored, rfl, rfl⟩
  | update answerId score chosenOption =>
    dsimp only [edit]
    unfold updateAnswer
    split
    · exact ⟨r, stored, rfl, rfl⟩
    · split
      · exact ⟨r, stored, rfl, rfl⟩
      · split
        · exact ⟨r, stored, rfl, rfl⟩
        · split
          · exact ⟨r, stored, rfl, rfl⟩
          · exact mem_modify_total stored

/-- An edit changes no answer but the one it confirms. -/
theorem edit_other {e : Intake K} {ed : Edit K} {a : AnswerRow K} (stored : a ∈ e.answers.rows)
    (other : ed.target e ≠ some a.id) : a ∈ (edit e ed).answers.rows := by
  cases ed with
  | correct responseId questionIdx score =>
    dsimp only [edit]
    unfold correctScore
    split
    · rename_i r q _ asked
      split
      · exact stored
      · dsimp only
        split
        · rename_i b found
          apply mem_modify_other (key_confirm _ _) stored
          intro same
          apply other
          rw [Edit.target, asked, Option.bind_some, found, Option.map_some]
          exact congrArg some same.symm
        · rw [Table.rows_insert]
          exact List.mem_append_left _ stored
    · exact stored
  | update answerId score chosenOption =>
    dsimp only [edit]
    unfold updateAnswer
    split
    · exact stored
    · split
      · exact stored
      · split
        · exact stored
        · split
          · exact stored
          · apply mem_modify_other (key_confirm _ _) stored
            intro same
            exact other (congrArg some same.symm)

variable (render : PyFloat K → String)

/-- Whatever the teacher does elsewhere, the response stays held back until this answer is confirmed. -/
def Gated (e : Intake K) (responseId answerId : Nat) : Prop :=
  ∀ edits : List (Edit K), Along edit (fun e ed => ed.target e ≠ some answerId) e edits →
    Blocked (examPreflight render (run edit e edits)) responseId

theorem gated_of_unchecked [IsStrictOrderedRing K] {e : Intake K} {a : AnswerRow K} {r : ResponseRow K}
    (stored : a ∈ e.answers.rows) (filed : r ∈ e.responses.rows) (own : a.examResponseId = r.id) (open_ : r.status ≠ .submitted)
    (doubtful : a.parseConfidence.lt (.fin (ratio 6 10)) = true ∨ a.score.isFinite = false) : Gated render e r.id a.id := by
  intro edits along
  have preserve : ∀ (e : Intake K) (ed : Edit K),
      (a ∈ e.answers.rows ∧ ∃ r' ∈ e.responses.rows, r'.id = r.id ∧ r'.status ≠ .submitted) → ed.target e ≠ some a.id →
      a ∈ (edit e ed).answers.rows ∧ ∃ r' ∈ (edit e ed).responses.rows, r'.id = r.id ∧ r'.status ≠ .submitted := by
    intro e ed held other
    obtain ⟨kept, r', listed, key, waits⟩ := held
    obtain ⟨r'', after, sameKey, sameStatus⟩ := edit_response ed listed
    exact ⟨edit_other kept other, r'', after, sameKey.trans key, sameStatus.symm ▸ waits⟩
  obtain ⟨kept, r', listed, key, waits⟩ := run_invariant_along preserve edits e along ⟨stored, r, filed, rfl, open_⟩
  rw [← key, blocked_iff_not_clear render listed waits]
  intro clear
  have among : a ∈ (run edit e edits).answersOf r'.id := mem_answersOf.mpr ⟨kept, own.trans key.symm⟩
  obtain ⟨range, sure⟩ := clear.answers a among
  rcases doubtful with low | infinite
  · rw [low] at sure
    cases sure
  · rw [Option.any_eq_true] at range
    obtain ⟨q, _, inside⟩ := range
    simp [scoreInRange, infinite] at inside

end

/-- A confirmation at zero points. -/
def zeroed [Field K] (a : AnswerRow K) : AnswerRow K := confirm (some (.fin 0)) none a

theorem key_zeroed [Field K] (a : AnswerRow K) : Keyed.key (zeroed a) = Keyed.key a := rfl

theorem zeroed_zeroed [Field K] (a : AnswerRow K) : zeroed (zeroed a) = zeroed a := rfl

/-- The exam after the answers `done` of one response were confirmed at zero points. -/
structure ZeroedIn [Field K] (e : Intake K) (r : ResponseRow K) (done : List Nat) (e' : Intake K) : Prop where
  questions : e'.questions = e.questions
  roster : e'.roster = e.roster
  answers : e'.answers = e.answers.updateWhere (fun b => done.contains b.id) zeroed key_zeroed
  responses : ∃ total, e'.responses = e.responses.modify r.id (withTotal total) (key_withTotal _) ∧
    (done ≠ [] → total = scoreSum e'.answers r.id)

theorem zeroedIn_nil [Field K] {e : Intake K} {r : ResponseRow K} (filed : r ∈ e.responses.rows) : ZeroedIn e r [] e := by
  refine ⟨rfl, rfl, ?_, r.totalScore, ?_, fun some => absurd rfl some⟩
  · rw [Table.updateWhere_eq_self]
    intro b _
    rfl
  · symm
    apply Table.modify_eq_self
    intro x listed here
    rw [e.responses.key_inj listed filed here]
    rfl

theorem ZeroedIn.response [Field K] {e e' : Intake K} {r : ResponseRow K} {done : List Nat} (after : ZeroedIn e r done e')
    (filed : r ∈ e.responses.rows) :
    ∃ total, e'.responses.get? r.id = some (withTotal total r) ∧ (done ≠ [] → total = scoreSum e'.answers r.id) := by
  obtain ⟨total, responses, last⟩ := after.responses
  refine ⟨total, ?_, last⟩
  rw [responses]
  exact Table.get?_modify_self _ (Table.get?_of_mem filed)

section
variable [Field K] [LinearOrder K] [FloorRing K] [IsStrictOrderedRing K]

omit [IsStrictOrderedRing K] in
theorem ZeroedIn.step {e e' : Intake K} {r : ResponseRow K} {done : List Nat} (after : ZeroedIn e r done e')
    (filed : r ∈ e.responses.rows) (awaiting : r.status = .pendingReview) {b : AnswerRow K} (stored : b ∈ e.answers.rows)
    (own : b.examResponseId = r.id) {q : QuestionRow K} (asked : e.questions.get? b.templateQuestionId = some q)
    {full : K} (limit : q.fullScore = .fin full) (positive : 0 < full) :
    ZeroedIn e r (done ++ [b.id]) (edit e' (.update b.id (some (.fin 0)) none)) := by
  obtain ⟨total, found, _⟩ := after.response filed
  have row : ∃ b', e'.answers.get? b.id = some b' ∧ b'.examResponseId = r.id ∧ b'.templateQuestionId = b.templateQuestionId := by
    rw [after.answers, Table.get?_updateWhere, show e.answers.get? b.id = some b from Table.get?_of_mem stored]
    refine ⟨_, rfl, ?_⟩
    dsimp only
    split
    · exact ⟨own, rfl⟩
    · exact ⟨own, rfl⟩
  obtain ⟨b', current, belongs, question⟩ := row
  have accepted : edit e' (.update b.id (some (.fin 0)) none) =
      { e' with
        answers := e'.answers.modify b.id zeroed key_zeroed
        responses := e'.responses.modify r.id
          (withTotal (scoreSum (e'.answers.modify b.id zeroed key_zeroed) r.id)) (key_withTotal _) } := by
    have inside : admissible e' b' (.fin 0) = true := by
      simp [admissible, question, after.questions, asked, limit, le_of_lt positive]
    dsimp only [edit]
    unfold updateAnswer
    simp only [current, belongs, found, withTotal, awaiting, ne_eq, not_true_eq_false, if_false, Option.all_some, inside,
      Option.isNone_some, Bool.true_eq_false, Bool.false_eq_true, false_and, or_self]
    rfl
  rw [accepted]
  obtain ⟨before, responses, _⟩ := after.responses
  refine ⟨after.questions, after.roster, ?_, _, ?_, fun _ => rfl⟩
  · dsimp only
    rw [after.answers, Table.modify_updateWhere _ _ _ zeroed_zeroed]
    congr 1
    funext x
    simp only [Keyed.key, List.contains_append, List.contains_cons, List.contains_nil, Bool.or_false]
  · dsimp only
    rw [responses]
    exact Table.modify_modify _ _ _ _ (fun _ => rfl)

/-- A response that lacks nothing but sound answers. -/
structure Complete (e : Intake K) (r : ResponseRow K) : Prop where
  filed : r ∈ e.responses.rows
  member : r.studentId ∈ e.roster.map Student.id
  single : e.responses.rows.countP (fun s => s.studentId == r.studentId) ≤ 1
  awaiting : r.status = .pendingReview
  covered : ∀ q ∈ e.questions.rows, (e.answersOf r.id).countP (fun a => a.templateQuestionId == q.id) = 1
  asked : ∀ b ∈ e.answersOf r.id, ∃ q full, e.questions.get? b.templateQuestionId = some q ∧ q.fullScore = .fin full ∧ 0 < full

def zeroEdit (b : AnswerRow K) : Edit K := .update b.id (some (.fin 0)) none

omit [IsStrictOrderedRing K] in
theorem Complete.zeroedIn {e : Intake K} {r : ResponseRow K} (complete : Complete e r) (bs : List (AnswerRow K))
    (own : ∀ b ∈ bs, b ∈ e.answersOf r.id) {done : List Nat} {e' : Intake K} (before : ZeroedIn e r done e') :
    ZeroedIn e r (done ++ bs.map AnswerRow.id) (run edit e' (bs.map zeroEdit)) := by
  induction bs generalizing done e' with
  | nil => simpa using before
  | cons b bs ih =>
    obtain ⟨stored, belongs⟩ := mem_answersOf.mp (own b List.mem_cons_self)
    obtain ⟨q, full, asked, limit, positive⟩ := complete.asked b (own b List.mem_cons_self)
    have next := before.step complete.filed complete.awaiting stored belongs asked limit positive
    have rest := ih (fun c member => own c (List.mem_cons_of_mem b member)) next
    simpa [zeroEdit] using rest

omit [IsStrictOrderedRing K] in
theorem along_zeroEdit {e : Intake K} {answerId : Nat} (bs : List (AnswerRow K)) (others : ∀ b ∈ bs, b.id ≠ answerId) :
    Along edit (fun e ed => Edit.target e ed ≠ some answerId) e (bs.map zeroEdit) := by
  induction bs generalizing e with
  | nil => trivial
  | cons b bs ih =>
    refine ⟨?_, ih (fun c member => others c (List.mem_cons_of_mem b member))⟩
    intro same
    exact others b List.mem_cons_self (Option.some.inj same)

omit [LinearOrder K] [FloorRing K] [IsStrictOrderedRing K] in
theorem ZeroedIn.answersOf {e e' : Intake K} {r : ResponseRow K} {done : List Nat} (after : ZeroedIn e r done e') :
    e'.answersOf r.id = (e.answersOf r.id).map (fun b => if done.contains b.id then zeroed b else b) := by
  unfold Intake.answersOf Table.select
  rw [after.answers, Table.rows_updateWhere, List.filter_map]
  congr 1
  apply List.filter_congr
  intro b _
  dsimp only [Function.comp]
  split <;> rfl

omit [FloorRing K] in
theorem zeroed_checked {e : Intake K} {b : AnswerRow K} {q : QuestionRow K} {full : K}
    (asked : e.questions.get? b.templateQuestionId = some q) (limit : q.fullScore = .fin full) (positive : 0 < full) :
    Checked e (zeroed b) := by
  refine ⟨?_, ?_⟩
  · rw [show (zeroed b).templateQuestionId = b.templateQuestionId from rfl, asked]
    simp [zeroed, confirm, scoreInRange, PyFloat.isFinite, limit, le_of_lt positive]
  · have below := (threshold_bounds (K := K)).2.1
    simpa [zeroed, confirm] using below

/-- A total that is the sum of sound scores is never off. -/
theorem totalOff_of_sum {e : Intake K} {r : ResponseRow K} (finite : ∀ b ∈ e.answersOf r.id, b.score.isFinite = true)
    (total : r.totalScore = scoreSum e.answers r.id) : totalOff e r = false := by
  have numbers : ∀ v ∈ (e.answersOf r.id).map AnswerRow.score, v.isFinite = true := by
    intro v member
    obtain ⟨b, own, rfl⟩ := List.mem_map.mp member
    exact finite b own
  obtain ⟨x, sum⟩ := PyFloat.sum_finite numbers
  have same : r.totalScore = .fin x := total.trans sum
  have positive : (0 : K) ≤ ratio 11 1000 := by
    unfold ratio
    positivity
  simpa [totalOff_eq, same, sum, PyFloat.isFinite, PyFloat.sub, PyFloat.neg, PyFloat.abs] using positive

/-- With every other answer confirmed, a response is clear when this one passes. -/
theorem Complete.clear {e e' : Intake K} {r : ResponseRow K} (complete : Complete e r) {a : AnswerRow K}
    (checked : Checked e a) {done : List Nat} (others : ∀ b ∈ e.answersOf r.id, b ≠ a → b.id ∈ done) (some : done ≠ [])
    (after : ZeroedIn e r done e') :
    ∃ r' ∈ e'.responses.rows, r'.id = r.id ∧ r'.status = r.status ∧ Clear e' r' := by
  obtain ⟨sum, found, last⟩ := after.response complete.filed
  obtain ⟨sum', responses, _⟩ := after.responses
  have answers := after.answersOf
  have sound : ∀ b ∈ e'.answersOf r.id, Checked e' b := by
    intro x among
    rw [answers, List.mem_map] at among
    obtain ⟨b, own, rfl⟩ := among
    obtain ⟨q, full, asked, limit, positive⟩ := complete.asked b own
    split
    · exact zeroed_checked (after.questions ▸ asked) limit positive
    · rename_i kept
      by_cases same : b = a
      · rw [same]
        unfold Checked
        rw [after.questions]
        exact checked
      · simp [others b own same] at kept
  refine ⟨withTotal sum r, Table.get?_mem found, rfl, rfl, ?_, ?_, complete.awaiting, ?_, sound, ?_⟩
  · rw [after.roster]
    exact complete.member
  · have counted : e'.responses.rows.countP (fun s => s.studentId == r.studentId) =
        e.responses.rows.countP (fun s => s.studentId == r.studentId) := by
      rw [responses, Table.rows_modify, List.countP_map]
      apply List.countP_congr
      intro s _
      dsimp only [Function.comp]
      split <;> rfl
    exact counted ▸ complete.single
  · intro q stored
    rw [after.questions] at stored
    show (e'.answersOf r.id).countP _ = 1
    rw [answers, List.countP_map, ← complete.covered q stored]
    apply List.countP_congr
    intro b _
    dsimp only [Function.comp]
    split <;> rfl
  · apply totalOff_of_sum
    · intro b own
      obtain ⟨q, _, inside⟩ := Option.any_eq_true _ _ |>.mp (sound b own).1
      simp only [scoreInRange, Bool.and_eq_true] at inside
      exact inside.1.1
    · exact last some

/-- An answer that passes does not hold its response back for long. -/
theorem Complete.not_gated (render : PyFloat K → String) {e : Intake K} {r : ResponseRow K} (complete : Complete e r)
    {a : AnswerRow K} (own : a ∈ e.answersOf r.id) (checked : Checked e a)
    (total : (∀ b ∈ e.answersOf r.id, b = a) → totalOff e r = false) : ¬ Gated render e r.id a.id := by
  intro gated
  by_cases alone : ∀ b ∈ e.answersOf r.id, b = a
  · have clear : Clear e r := by
      refine ⟨complete.member, complete.single, complete.awaiting, complete.covered, ?_, total alone⟩
      intro b member
      rw [alone b member]
      exact checked
    have open_ : r.status ≠ .submitted := by simp [complete.awaiting]
    exact (blocked_iff_not_clear render complete.filed open_).mp (gated [] trivial) clear
  · let others := (e.answersOf r.id).filter (fun b => decide (b ≠ a))
    have apart : ∀ b ∈ others, b ∈ e.answersOf r.id ∧ b ≠ a := by
      intro b member
      simpa [others] using member
    have missed : ∀ b ∈ others, b.id ≠ a.id := by
      intro b member same
      apply (apart b member).2
      exact e.answers.key_inj (mem_answersOf.mp (apart b member).1).1 (mem_answersOf.mp own).1 same
    have some : others.map AnswerRow.id ≠ [] := by
      intro nothing
      apply alone
      intro b member
      by_contra other
      have listed : b ∈ others := by simpa [others] using ⟨member, other⟩
      rw [List.map_eq_nil_iff.mp nothing] at listed
      cases listed
    have after := complete.zeroedIn others (fun b member => (apart b member).1) (zeroedIn_nil complete.filed)
    have confirmed : ∀ b ∈ e.answersOf r.id, b ≠ a → b.id ∈ others.map AnswerRow.id := by
      intro b member other
      exact List.mem_map.mpr ⟨b, by simpa [others] using ⟨member, other⟩, rfl⟩
    obtain ⟨r', listed, key, status, clear⟩ := complete.clear checked confirmed some after
    have open_ : r'.status ≠ .submitted := by simp [status, complete.awaiting]
    have blocked := gated (others.map zeroEdit) (along_zeroEdit others missed)
    rw [← key] at blocked
    exact (blocked_iff_not_clear render listed open_).mp blocked clear

variable (text : String → Option (PyFloat K)) (str : Json K → String)

/-- What a sheet leaves on file: one response, and one answer a question. -/
structure FiledSheet (e stored : Intake K) (studentId responseId : Nat)
    (answers : Dict (AnswerKey K) (List (String × Json K))) (scored : List (QuestionRow K × Scored K)) : Prop where
  member : studentId ∈ e.roster.map Student.id
  first : ∀ r ∈ e.responses.rows, r.studentId ≠ studentId
  key : responseId = e.responses.nextId
  questions : scored.map Prod.fst = e.orderedQuestions
  scores : ∀ p ∈ scored, scoreQuestion text str answers p.1 = .ok p.2
  numbers : ∀ p ∈ scored, p.2.score ≠ .nan
  after : stored = { e with
    responses := e.responses.insert (photoRow studentId ((PyFloat.sum (scored.map (fun p => p.2.score))).round 2))
      (key_photoRow _ _)
    answers := e.answers.insertAll (scoredRow e.responses.nextId) (key_scoredRow _) scored }

omit [IsStrictOrderedRing K] in
theorem persistPayload_filed {e stored : Intake K} {studentId responseId : Nat} {payload : List (String × Json K)}
    {warnings : List (Warning (PyFloat K))} {answers : Dict (AnswerKey K) (List (String × Json K))}
    (done : persistPayload text str e studentId payload = .ok (stored, responseId, warnings))
    (parsed : payloadAnswers payload = .ok answers) :
    ∃ scored, FiledSheet text str e stored studentId responseId answers scored := by
  unfold persistPayload at done
  split at done
  · cases done
  · rename_i member
    split at done
    · cases done
    · rename_i first
      rw [parsed] at done
      dsimp only at done
      split at done
      · cases done
      · rename_i scored marked
        split at done
        · cases done
        · rename_i numbers
          cases done
          obtain ⟨questions, scores⟩ := scoreQuestions_ok text str marked
          refine ⟨scored, not_not.mp member, ?_, rfl, questions, scores, ?_, rfl⟩
          · intro r listed same
            apply first
            rw [List.any_eq_true]
            exact ⟨r, listed, by simpa using same⟩
          · simpa using numbers

/-- The sheet is the first one of a student of the exam, and no reply keeps it from being filed. -/
structure Fileable (e : Intake K) (studentId : Nat) (answers : Dict (AnswerKey K) (List (String × Json K))) : Prop where
  member : studentId ∈ e.roster.map Student.id
  first : ∀ r ∈ e.responses.rows, r.studentId ≠ studentId
  replies : ∀ q ∈ e.questions.rows, fileable text answers q = true

omit [IsStrictOrderedRing K] in
theorem persistPayload_ok_iff {e : Intake K} (positive : ∀ q ∈ e.questions.rows, ∃ full, q.fullScore = .fin full ∧ 0 < full)
    {studentId : Nat} {payload : List (String × Json K)} {answers : Dict (AnswerKey K) (List (String × Json K))}
    (parsed : payloadAnswers payload = .ok answers) :
    (∃ filed, persistPayload text str e studentId payload = .ok filed) ↔ Fileable text e studentId answers := by
  constructor
  · rintro ⟨⟨stored, responseId, warnings⟩, done⟩
    obtain ⟨scored, filed⟩ := persistPayload_filed text str done parsed
    refine ⟨filed.member, filed.first, ?_⟩
    intro q asked
    obtain ⟨full, limit, above⟩ := positive q asked
    rw [← mem_orderedQuestions, ← filed.questions] at asked
    obtain ⟨p, listed, rfl⟩ := List.mem_map.mp asked
    exact (fileable_iff limit above).mp ⟨p.2, filed.scores p listed, filed.numbers p listed⟩
  · intro ready
    have marks : ∀ q ∈ e.orderedQuestions, ∃ s, scoreQuestion text str answers q = .ok s ∧ s.score ≠ .nan := by
      intro q asked
      rw [mem_orderedQuestions] at asked
      obtain ⟨full, limit, above⟩ := positive q asked
      exact (fileable_iff limit above).mpr (ready.replies q asked)
    obtain ⟨scored, marked⟩ := scoreQuestions_of_each text str (fun q asked => (marks q asked).imp fun _ held => held.1)
    have numbers : ¬ scored.any (fun p => decide (p.2.score = .nan)) = true := by
      intro some
      obtain ⟨p, listed, none_⟩ := List.any_eq_true.mp some
      obtain ⟨questions, scores⟩ := scoreQuestions_ok text str marked
      obtain ⟨s, here, number⟩ := marks p.1 (questions ▸ List.mem_map_of_mem listed)
      rw [scores p listed] at here
      cases here
      exact number (of_decide_eq_true none_)
    have first : ¬ e.responses.rows.any (fun r => r.studentId == studentId) = true := by
      intro some
      obtain ⟨r, listed, same⟩ := List.any_eq_true.mp some
      exact ready.first r listed (beq_iff_eq.mp same)
    unfold persistPayload
    rw [if_neg (not_not.mpr ready.member), if_neg first, parsed]
    dsimp only
    rw [marked]
    dsimp only
    rw [if_neg numbers]
    exact ⟨_, rfl⟩

variable {text str} {e stored : Intake K} {studentId responseId : Nat}
  {answers : Dict (AnswerKey K) (List (String × Json K))} {scored : List (QuestionRow K × Scored K)}

omit [IsStrictOrderedRing K] in
theorem FiledSheet.answersOf (filed : FiledSheet text str e stored studentId responseId answers scored) (linked : e.Linked) :
    stored.answersOf responseId = scored.mapIdx (fun n p => scoredRow responseId p (e.answers.nextId + n)) := by
  rw [filed.after, filed.key]
  exact select_scored_own linked scored

omit [IsStrictOrderedRing K] in
/-- The answer on file for a question, and what it was made from. -/
theorem FiledSheet.answer_of (filed : FiledSheet text str e stored studentId responseId answers scored) (linked : e.Linked)
    {a : AnswerRow K} (own : a ∈ stored.answersOf responseId) :
    ∃ q s, (q, s) ∈ scored ∧ q ∈ e.questions.rows ∧ scoreQuestion text str answers q = .ok s ∧
      a.templateQuestionId = q.id ∧ a.score = s.score ∧ a.parseConfidence = s.parseConfidence := by
  rw [filed.answersOf linked] at own
  obtain ⟨p, listed, question, score, sure⟩ := mem_scoredRows own
  refine ⟨p.1, p.2, listed, ?_, filed.scores p listed, question, score, sure⟩
  rw [← mem_orderedQuestions, ← filed.questions]
  exact List.mem_map.mpr ⟨p, listed, rfl⟩

omit [IsStrictOrderedRing K] in
theorem FiledSheet.countP_answers (filed : FiledSheet text str e stored studentId responseId answers scored)
    (linked : e.Linked) (q : QuestionRow K) (asked : q ∈ e.questions.rows) :
    (stored.answersOf responseId).countP (fun a => a.templateQuestionId == q.id) = 1 := by
  have ids : (stored.answersOf responseId).map AnswerRow.templateQuestionId = e.orderedQuestions.map QuestionRow.id := by
    rw [filed.answersOf linked, ← filed.questions]
    exact scoredRows_questions scored _ _
  have counted : (stored.answersOf responseId).countP (fun a => a.templateQuestionId == q.id) =
      (e.questions.rows.map QuestionRow.id).count q.id := by
    calc (stored.answersOf responseId).countP (fun a => a.templateQuestionId == q.id)
        = ((stored.answersOf responseId).map AnswerRow.templateQuestionId).count q.id := by
          rw [List.count, List.countP_map]
          rfl
      _ = (e.orderedQuestions.map QuestionRow.id).count q.id := by rw [ids]
      _ = (e.questions.rows.map QuestionRow.id).count q.id := ((perm_stableSort _ _).map _).count_eq _
  rw [counted]
  exact List.count_eq_one_of_mem e.questions.nodup (List.mem_map.mpr ⟨q, asked, rfl⟩)

omit [IsStrictOrderedRing K] in
theorem FiledSheet.complete (filed : FiledSheet text str e stored studentId responseId answers scored) (linked : e.Linked)
    (positive : ∀ q ∈ e.questions.rows, ∃ full, q.fullScore = .fin full ∧ 0 < full) :
    ∃ r, r.id = responseId ∧ r.totalScore = (PyFloat.sum (scored.map (fun p => p.2.score))).round 2 ∧ Complete stored r := by
  let r := photoRow studentId ((PyFloat.sum (scored.map (fun p => p.2.score))).round 2) responseId
  have questions : stored.questions = e.questions := by rw [filed.after]
  have roster : stored.roster = e.roster := by rw [filed.after]
  have responses : stored.responses.rows = e.responses.rows ++ [r] := by
    rw [filed.after, Table.rows_insert, ← filed.key]
  refine ⟨r, rfl, rfl, ?_, ?_, ?_, rfl, ?_, ?_⟩
  · rw [responses]
    exact List.mem_append_right _ (List.mem_singleton_self r)
  · rw [roster]
    exact filed.member
  · have none : e.responses.rows.countP (fun s => s.studentId == r.studentId) = 0 := by
      rw [List.countP_eq_zero]
      intro s listed same
      exact filed.first s listed (beq_iff_eq.mp same)
    rw [responses, List.countP_append, none]
    simp
  · rw [questions]
    exact fun q asked => filed.countP_answers linked q asked
  · intro b own
    obtain ⟨q, s, _, asked, _, question, _⟩ := filed.answer_of linked own
    obtain ⟨full, limit, above⟩ := positive q asked
    rw [questions, question]
    exact ⟨q, full, Table.get?_of_mem asked, limit, above⟩

theorem FiledSheet.total (filed : FiledSheet text str e stored studentId responseId answers scored) (linked : e.Linked)
    {r : ResponseRow K} (key : r.id = responseId)
    (total : r.totalScore = (PyFloat.sum (scored.map (fun p => p.2.score))).round 2)
    (finite : ∀ b ∈ stored.answersOf responseId, b.score.isFinite = true) : totalOff stored r = false := by
  have scores : (stored.answersOf responseId).map AnswerRow.score = scored.map (fun p => p.2.score) := by
    rw [filed.answersOf linked]
    exact scoredRows_scores scored _ _
  have numbers : ∀ v ∈ scored.map (fun p => p.2.score), v.isFinite = true := by
    rw [← scores]
    intro v member
    obtain ⟨b, own, rfl⟩ := List.mem_map.mp member
    exact finite b own
  obtain ⟨x, sum⟩ := PyFloat.sum_finite numbers
  have near := roundTo_near 2 x
  have small : ratio 1 2 / ((10 : Nat) : K) ^ 2 ≤ ratio 11 1000 := by
    unfold ratio
    norm_num
  rw [abs_eq_max_neg] at near
  have within := le_trans near small
  rw [sub_eq_add_neg] at within
  simpa [totalOff_eq, total, key, scores, sum, PyFloat.isFinite, PyFloat.sub, PyFloat.neg, PyFloat.abs] using within

/-- The score on file is the model's own number. -/
def Genuine (text : String → Option (PyFloat K)) (answers : Dict (AnswerKey K) (List (String × Json K))) (q : QuestionRow K)
    (a : AnswerRow K) : Prop :=
  ∃ x, ownScore text answers q = some x ∧ a.score = .fin x

/-- The confidence on file is the model's own number, clamped, or too low to pass. -/
def Confident (text : String → Option (PyFloat K)) (answers : Dict (AnswerKey K) (List (String × Json K)))
    (q : QuestionRow K) (a : AnswerRow K) : Prop :=
  (∃ c, ownConfidence text answers q = some c ∧ a.parseConfidence = .fin (max 0 (min 1 c))) ∨
    a.parseConfidence.lt (.fin (ratio 6 10)) = true

omit [FloorRing K] in
theorem confident_iff {q : QuestionRow K} {s : Scored K} (marked : scoreQuestion text str answers q = .ok s) {a : AnswerRow K}
    (sure : a.parseConfidence = s.parseConfidence) {reply : List (String × Json K)}
    (found : answers.get? (.number (.fin q.idx)) = some reply) :
    Confident text answers q a ↔ definite text reply = true := by
  obtain ⟨_, filed⟩ := scoreQuestion_reply found marked
  rw [confidence_own filed, ← sure, Confident, ownConfidence, found]
  apply or_congr_left
  constructor
  · intro own
    obtain ⟨c, number, stored⟩ := own
    cases parsed : toFloat text (field reply "confidence") with
    | error => simp [parsed] at number
    | ok x =>
      cases x with
      | fin y =>
        simp only [parsed, PyFloat.toFinite, Option.some.injEq] at number
        exact ⟨y, rfl, number ▸ stored⟩
      | nan | negInf | posInf => simp [parsed, PyFloat.toFinite] at number
  · intro own
    obtain ⟨c, number, stored⟩ := own
    exact ⟨c, by simp [number, PyFloat.toFinite], stored⟩

omit [FloorRing K] [IsStrictOrderedRing K] in
theorem genuine_iff {q : QuestionRow K} {s : Scored K} (marked : scoreQuestion text str answers q = .ok s) {full : K}
    (limit : q.fullScore = .fin full) {a : AnswerRow K} (score : a.score = s.score) :
    Genuine text answers q a ↔ (ownScore text answers q).isSome = true := by
  rw [Option.isSome_iff_exists]
  constructor
  · intro genuine
    obtain ⟨x, own, _⟩ := genuine
    exact ⟨x, own⟩
  · intro some
    obtain ⟨x, own⟩ := some
    exact ⟨x, own, score.trans (ownScore_filed limit own marked).1⟩

omit [FloorRing K] in
/-- What holds an answer back, of the replies the model can give. -/
theorem filed_doubtful {q : QuestionRow K} {s : Scored K} (marked : scoreQuestion text str answers q = .ok s)
    {reply : List (String × Json K)} (found : answers.get? (.number (.fin q.idx)) = some reply) :
    s.parseConfidence.lt (.fin (ratio 6 10)) = true ↔ doubted text reply = true := by
  obtain ⟨_, sure⟩ := scoreQuestion_reply found marked
  rw [confidence_low sure]

omit [FloorRing K] in
/-- A reply that is not doubted is filed as an answer that passes. -/
theorem filed_checked {q : QuestionRow K} {s : Scored K} (marked : scoreQuestion text str answers q = .ok s) {full : K}
    (limit : q.fullScore = .fin full) (positive : 0 < full) {reply : List (String × Json K)}
    (found : answers.get? (.number (.fin q.idx)) = some reply)
    (certain : ¬ doubted text reply = true) (readable : s.score ≠ .nan) {a : AnswerRow K}
    (asked : e.questions.get? a.templateQuestionId = some q) (score : a.score = s.score)
    (sure : a.parseConfidence = s.parseConfidence) : Checked e a := by
  rw [← filed_doubtful marked found] at certain
  obtain ⟨⟨remarks, clamped⟩, _⟩ := scoreQuestion_reply found marked
  rw [limit] at clamped
  rcases clampRaw_range positive clamped with ⟨_, unreadable⟩ | ⟨y, number, low, high⟩
  · exact absurd unreadable readable
  · refine ⟨?_, ?_⟩
    · rw [asked]
      simp [scoreInRange, score, number, limit, PyFloat.isFinite, low, high]
    · rw [sure]
      exact Bool.eq_false_of_not_eq_true certain

omit [IsStrictOrderedRing K] in
theorem FiledSheet.row (filed : FiledSheet text str e stored studentId responseId answers scored) (linked : e.Linked)
    {q : QuestionRow K} (asked : q ∈ e.questions.rows) {a : AnswerRow K} (own : a ∈ stored.answersOf responseId)
    (question : a.templateQuestionId = q.id) :
    ∃ s, scoreQuestion text str answers q = .ok s ∧ s.score ≠ .nan ∧ a.score = s.score ∧
      a.parseConfidence = s.parseConfidence := by
  obtain ⟨q', s, among, listed, marked, same, score, sure⟩ := filed.answer_of linked own
  have equal : q' = q := e.questions.key_inj listed asked (same.symm.trans question)
  rw [equal] at marked
  exact ⟨s, marked, filed.numbers (q', s) among, score, sure⟩

omit [IsStrictOrderedRing K] in
theorem FiledSheet.present (filed : FiledSheet text str e stored studentId responseId answers scored) (linked : e.Linked)
    {q : QuestionRow K} (asked : q ∈ e.questions.rows) : ∃ a ∈ stored.answersOf responseId, a.templateQuestionId = q.id := by
  have one : 0 < (stored.answersOf responseId).countP (fun a => a.templateQuestionId == q.id) := by
    rw [filed.countP_answers linked q asked]
    exact Nat.one_pos
  obtain ⟨a, own, same⟩ := List.countP_pos_iff.mp one
  exact ⟨a, own, beq_iff_eq.mp same⟩

variable (render : PyFloat K → String)

/-- A reply that is safe to file leaves an answer that is the model's own, or held back. -/
theorem FiledSheet.held (filed : FiledSheet text str e stored studentId responseId answers scored) (linked : e.Linked)
    (positive : ∀ q ∈ e.questions.rows, ∃ full, q.fullScore = .fin full ∧ 0 < full) {q : QuestionRow K}
    (asked : q ∈ e.questions.rows) (safe : trustworthy text answers q = true) {a : AnswerRow K}
    (own : a ∈ stored.answersOf responseId) (question : a.templateQuestionId = q.id) :
    (¬ Genuine text answers q a → Gated render stored responseId a.id) ∧ Confident text answers q a := by
  obtain ⟨r, key, _, complete⟩ := filed.complete linked positive
  obtain ⟨s, marked, _, score, sure⟩ := filed.row linked asked own question
  obtain ⟨full, limit, above⟩ := positive q asked
  have hold : a.parseConfidence.lt (.fin (ratio 6 10)) = true → Gated render stored responseId a.id := by
    intro doubtful
    obtain ⟨listed, belongs⟩ := mem_answersOf.mp own
    rw [← key] at belongs ⊢
    exact gated_of_unchecked render listed complete.filed belongs (by simp [complete.awaiting]) (Or.inl doubtful)
  unfold trustworthy at safe
  cases found : answers.get? (.number (.fin q.idx)) with
  | none =>
    obtain ⟨_, zero⟩ := scoreQuestion_missing found marked
    have low : a.parseConfidence.lt (.fin (ratio 6 10)) = true := by
      rw [sure, zero]
      simpa using (threshold_bounds (K := K)).1
    exact ⟨fun _ => hold low, Or.inr low⟩
  | some reply =>
    rw [found] at safe
    simp only [Bool.and_eq_true, Bool.or_eq_true] at safe
    refine ⟨?_, (confident_iff marked sure found).mpr safe.1⟩
    intro foreign
    rw [genuine_iff marked limit score] at foreign
    apply hold
    rw [sure, filed_doubtful marked found]
    exact safe.2.resolve_left foreign

/-- An answer that passes is no gate: once the others are confirmed nothing holds the response back. -/
theorem FiledSheet.not_gated (filed : FiledSheet text str e stored studentId responseId answers scored) (linked : e.Linked)
    (positive : ∀ q ∈ e.questions.rows, ∃ full, q.fullScore = .fin full ∧ 0 < full) {a : AnswerRow K}
    (own : a ∈ stored.answersOf responseId) (checked : Checked stored a) : ¬ Gated render stored responseId a.id := by
  obtain ⟨r, key, total, complete⟩ := filed.complete linked positive
  rw [← key] at own ⊢
  apply complete.not_gated render own checked
  intro alone
  apply filed.total linked key total
  intro b member
  rw [alone b (key.symm ▸ member)]
  obtain ⟨q, _, range⟩ := (Option.any_eq_true _ _).mp checked.1
  simp only [scoreInRange, Bool.and_eq_true] at range
  exact range.1.1

/-- An answer that is the model's own or held back comes of a reply that is safe to file. -/
theorem FiledSheet.trusted (filed : FiledSheet text str e stored studentId responseId answers scored) (linked : e.Linked)
    (positive : ∀ q ∈ e.questions.rows, ∃ full, q.fullScore = .fin full ∧ 0 < full) {q : QuestionRow K}
    (asked : q ∈ e.questions.rows) {a : AnswerRow K} (own : a ∈ stored.answersOf responseId)
    (question : a.templateQuestionId = q.id) (gate : ¬ Genuine text answers q a → Gated render stored responseId a.id)
    (confident : Confident text answers q a) : trustworthy text answers q = true := by
  obtain ⟨s, marked, readable, score, sure⟩ := filed.row linked asked own question
  obtain ⟨full, limit, above⟩ := positive q asked
  unfold trustworthy
  cases found : answers.get? (.number (.fin q.idx)) with
  | none => rfl
  | some reply =>
    dsimp only
    rw [(confident_iff marked sure found).mp confident, Bool.true_and]
    by_contra careless
    simp only [Bool.or_eq_true, not_or] at careless
    obtain ⟨foreign, certain⟩ := careless
    have gated := gate (fun genuine => foreign ((genuine_iff marked limit score).mp genuine))
    have known : stored.questions.get? a.templateQuestionId = some q := by
      rw [question, filed.after]
      exact Table.get?_of_mem asked
    have checked : Checked stored a :=
      filed_checked marked limit above found certain readable known score sure
    exact filed.not_gated render linked positive own checked gated

/-- Whatever sheet comes, every answer it leaves on file that is not the model's own number is held back until a teacher
    confirms it, and no confidence is made up, exactly when every reply on a sheet that can be filed is safe to file. -/
theorem photo_gate_iff (linked : e.Linked) (positive : ∀ q ∈ e.questions.rows, ∃ full, q.fullScore = .fin full ∧ 0 < full)
    {payload : List (String × Json K)} (parsed : payloadAnswers payload = .ok answers) :
    (∀ stored responseId warnings, persistPayload text str e studentId payload = .ok (stored, responseId, warnings) →
      ∀ q ∈ e.questions.rows, ∀ a ∈ stored.answersOf responseId, a.templateQuestionId = q.id →
        (¬ Genuine text answers q a → Gated render stored responseId a.id) ∧ Confident text answers q a) ↔
      (Fileable text e studentId answers → ∀ q ∈ e.questions.rows, trustworthy text answers q = true) := by
  rw [← persistPayload_ok_iff text str positive parsed]
  constructor
  · rintro held ⟨⟨stored, responseId, warnings⟩, done⟩ q asked
    obtain ⟨scored, filed⟩ := persistPayload_filed text str done parsed
    obtain ⟨a, own, question⟩ := filed.present linked asked
    obtain ⟨gate, confident⟩ := held stored responseId warnings done q asked a own question
    exact filed.trusted render linked positive asked own question gate confident
  · intro safe stored responseId warnings done q asked a own question
    obtain ⟨scored, filed⟩ := persistPayload_filed text str done parsed
    exact filed.held render linked positive asked (safe ⟨_, done⟩ q asked) own question

end

/-- One student, two questions of ten points, nothing handed in. -/
def twoQuestions : Intake ℚ where
  examId := 1
  source := .other "excel"
  targeted := false
  roster := [⟨1, 1, "甲"⟩]
  questions := Table.ofList [⟨1, 1, .other "解答", .fin 10, [true]⟩, ⟨2, 2, .other "解答", .fin 10, [true]⟩]
  responses := .empty
  answers := .empty

/-- The fixtures hold no number in a string. -/
def noNumber (_ : String) : Option (PyFloat ℚ) := none

def unwritten (_ : Json ℚ) : String := ""

def unwrittenFloat (_ : PyFloat ℚ) : String := ""

def reply (idx : Int) (score confidence : Json ℚ) : Json ℚ :=
  .obj [("idx", .int idx), ("score", score), ("confidence", confidence)]

/-- The second score is out of range, and the model says it is unsure of it. -/
def doubtedSheet : List (String × Json ℚ) :=
  [("answers", .arr [reply 1 (.int 7) (.float (.fin (9 / 10))), reply 2 (.int 12) (.float (.fin (3 / 10)))])]

theorem photo_gate_doubted_sheet :
    ∃ filed answers, persistPayload noNumber unwritten twoQuestions 1 doubtedSheet = .ok filed ∧
      payloadAnswers doubtedSheet = .ok answers ∧
      ∀ q ∈ twoQuestions.questions.rows, ∀ a ∈ filed.1.answersOf filed.2.1, a.templateQuestionId = q.id →
        (¬ Genuine noNumber answers q a → Gated unwrittenFloat filed.1 filed.2.1 a.id) ∧ Confident noNumber answers q a := by
  have linked : twoQuestions.Linked := by
    intro a listed
    cases listed
  have positive : ∀ q ∈ twoQuestions.questions.rows, ∃ full, q.fullScore = .fin full ∧ 0 < full := by
    have ten : ∀ q ∈ twoQuestions.questions.rows, q.fullScore = .fin 10 := by decide +kernel
    exact fun q listed => ⟨10, ten q listed, by norm_num⟩
  have safe : (payloadAnswers doubtedSheet).toOption.any
      (fun answers => twoQuestions.questions.rows.all (trustworthy noNumber answers)) = true := by decide +kernel
  have ran : (persistPayload noNumber unwritten twoQuestions 1 doubtedSheet).toOption.isSome = true := by decide +kernel
  cases parsed : payloadAnswers doubtedSheet with
  | error => simp [parsed, Except.toOption] at safe
  | ok answers =>
    cases done : persistPayload noNumber unwritten twoQuestions 1 doubtedSheet with
    | error => simp [done, Except.toOption] at ran
    | ok filed =>
      simp only [parsed, Except.toOption, Option.any_some, List.all_eq_true] at safe
      exact ⟨filed, answers, rfl, rfl,
        (photo_gate_iff unwrittenFloat linked positive parsed).mpr (fun _ => safe) filed.1 filed.2.1 filed.2.2 done⟩

/-- A score that is no number, one that is out of range, and a confidence that is no number, each read with
    confidence. -/
def certainSheet : List (String × Json ℚ) :=
  [("answers", .arr [reply 1 .null (.float (.fin (95 / 100))), reply 2 (.int 12) (.float .nan)])]

theorem silent_scores :
    (persistPayload noNumber unwritten twoQuestions 1 certainSheet).toOption.map
      (fun filed => (filed.1.answersOf filed.2.1).map (fun a => (a.score, a.parseConfidence))) =
        some [(.fin 0, .fin (95 / 100)), (.fin 10, .fin 1)] ∧
      (persistPayload noNumber unwritten twoQuestions 1 certainSheet).toOption.map
        (fun filed => (examPreflight unwrittenFloat filed.1).ready) = some true := by
  decide +kernel

end KnowledgeGap.Ingestion
