import KnowledgeGap.Ingestion.Excel
import KnowledgeGap.Ingestion.Review

namespace KnowledgeGap.Ingestion

open Relational

variable {K : Type}

section
variable [Field K] [LinearOrder K] (w : Writing K)

/-- The number in a cell, when it is one that could be the score of the question. -/
def validScore (row : List (Cell K)) (q : QuestionRow K) (col : Nat) : Option K :=
  if blank w (row.getD col .empty) then none
  else
    match cellFloat w (row.getD col .empty) with
    | .ok (.fin x) => if (PyFloat.fin 0).le (.fin x) && (PyFloat.fin x).le q.fullScore then some x else none
    | _ => none

/-- What a cell leaves on file: its own number with full confidence, or another with none at all. -/
structure CellAnswer (row : List (Cell K)) (q : QuestionRow K) (col : Nat) (score parseConfidence : PyFloat K) : Prop where
  kept : ∀ x, validScore w row q col = some x → score = .fin x ∧ parseConfidence = .fin 1
  replaced : validScore w row q col = none → parseConfidence = .fin 0
  range : ∃ y full, score = .fin y ∧ q.fullScore = .fin full ∧ 0 ≤ y ∧ y ≤ full

variable {w}

theorem validScore_eq_some_iff {row : List (Cell K)} {q : QuestionRow K} {full : K} (limit : q.fullScore = .fin full) {col : Nat}
    {x : K} : validScore w row q col = some x ↔
      blank w (row.getD col .empty) = false ∧ cellFloat w (row.getD col .empty) = .ok (.fin x) ∧ 0 ≤ x ∧ x ≤ full := by
  unfold validScore
  cases nothing : blank w (row.getD col .empty) with
  | true => simp
  | false =>
    rw [if_neg (by simp), limit]
    cases parsed : cellFloat w (row.getD col .empty) with
    | error => simp
    | ok given =>
      cases given with
      | nan | negInf | posInf => simp
      | fin y =>
        by_cases inside : 0 ≤ y ∧ y ≤ full
        · simp only [PyFloat.le_fin, inside, decide_true, Bool.and_self, if_true, Option.some.injEq, true_and, Except.ok.injEq,
            PyFloat.fin.injEq]
          constructor
          · intro same
            exact ⟨same, same ▸ inside⟩
          · exact fun own => own.1
        · have none : ((PyFloat.fin 0).le (.fin y) && (PyFloat.fin y).le (.fin full)) = false := by
            simpa [not_and_or, imp_iff_not_or] using inside
          simp only [none, Bool.false_eq_true, if_false, reduceCtorEq, false_iff, Except.ok.injEq, PyFloat.fin.injEq, true_and,
            not_and]
          intro same low high
          exact inside (same ▸ ⟨low, high⟩)

/-- A score is taken over without a remark exactly when the cell holds one. -/
theorem parseScore_spec {raw : Cell K} {full : K} (positive : 0 < full) {name : String} {idx : Int} {score : PyFloat K}
    {remarks : List String} (done : parseScore w raw (.fin full) name idx = .ok (score, remarks)) :
    (∃ y, score = .fin y ∧ 0 ≤ y ∧ y ≤ full) ∧
      ((∃ x, cellFloat w raw = .ok (.fin x) ∧ 0 ≤ x ∧ x ≤ full ∧ score = .fin x ∧ remarks = []) ∨
        (remarks ≠ [] ∧ ∀ x, cellFloat w raw = .ok (.fin x) → ¬ (0 ≤ x ∧ x ≤ full))) := by
  unfold parseScore at done
  split at done
  · cases done
  · rename_i unreadable
    cases done
    refine ⟨⟨0, rfl, le_refl 0, le_of_lt positive⟩, Or.inr ⟨by simp, ?_⟩⟩
    intro x number
    rw [unreadable] at number
    cases number
  · rename_i given parsed
    split at done
    · rename_i infinite
      cases done
      refine ⟨⟨0, rfl, le_refl 0, le_of_lt positive⟩, Or.inr ⟨by simp, ?_⟩⟩
      intro x number
      rw [parsed, Except.ok.injEq] at number
      rw [number] at infinite
      cases infinite
    · rename_i finite
      cases given with
      | nan | negInf | posInf => exact absurd rfl finite
      | fin x =>
        split at done
        · rename_i outside
          cases done
          refine ⟨PyFloat.clip_fin positive (by simp), Or.inr ⟨by simp, ?_⟩⟩
          intro y number inside
          rw [parsed, Except.ok.injEq, PyFloat.fin.injEq] at number
          simp only [PyFloat.lt_fin, decide_eq_true_eq] at outside
          rcases outside with low | high
          · exact absurd (number ▸ inside.1) (not_le.mpr low)
          · exact absurd (number ▸ inside.2) (not_le.mpr high)
        · rename_i inside
          cases done
          rw [not_or] at inside
          have low : 0 ≤ x := by simpa using inside.1
          have high : x ≤ full := by simpa using inside.2
          exact ⟨⟨x, rfl, low, high⟩, Or.inl ⟨x, parsed, low, high, rfl, rfl⟩⟩

theorem cellScore_spec {rowIdx : Nat} {name : String} {row : List (Cell K)} {q : QuestionRow K} {full : K}
    (limit : q.fullScore = .fin full) (positive : 0 < full) {col : Nat} {score : PyFloat K} {remarks : List String}
    (done : cellScore w rowIdx name row q col = .ok (score, remarks)) :
    CellAnswer w row q col score (if remarks.isEmpty then .fin 1 else .fin 0) := by
  unfold cellScore at done
  dsimp only at done
  split at done
  · rename_i nothing
    cases done
    refine ⟨?_, fun _ => rfl, 0, full, rfl, limit, le_refl 0, le_of_lt positive⟩
    intro x number
    unfold validScore at number
    rw [if_pos nothing] at number
    cases number
  · rename_i something
    rw [limit] at done
    obtain ⟨⟨y, number, low, high⟩, source⟩ := parseScore_spec positive done
    have some := Bool.eq_false_of_not_eq_true something
    refine ⟨?_, ?_, y, full, number, limit, low, high⟩
    · intro x own
      obtain ⟨_, parsed, inside⟩ := (validScore_eq_some_iff limit).mp own
      rcases source with ⟨z, read, _, _, same, clean⟩ | ⟨_, outside⟩
      · rw [parsed, Except.ok.injEq, PyFloat.fin.injEq] at read
        rw [clean, read]
        exact ⟨same, rfl⟩
      · exact absurd inside (outside x parsed)
    · intro foreign
      rcases source with ⟨z, read, above, below, _, _⟩ | ⟨remarked, _⟩
      · rw [(validScore_eq_some_iff limit).mpr ⟨some, read, above, below⟩] at foreign
        cases foreign
      · simp [remarked]

/-- Full scores are finite and positive. -/
def Scorable (questions : List (QuestionRow K)) : Prop := ∀ q ∈ questions, ∃ full, q.fullScore = .fin full ∧ 0 < full

theorem rowScores_spec {rowIdx : Nat} {name : String} {row : List (Cell K)} {columns : Columns K}
    (scorable : Scorable (columns.map Prod.fst)) {scored : List (QuestionRow K × Scored K)} {remarks : List String}
    (done : rowScores w rowIdx name row columns = .ok (scored, remarks)) :
    scored.map Prod.fst = columns.map Prod.fst ∧
      ∀ p ∈ scored, ∃ col, (p.1, col) ∈ columns ∧ CellAnswer w row p.1 col p.2.score p.2.parseConfidence := by
  induction columns generalizing scored remarks with
  | nil =>
    cases done
    exact ⟨rfl, by simp⟩
  | cons column columns ih =>
    obtain ⟨q, col⟩ := column
    unfold rowScores at done
    split at done
    · cases done
    · rename_i score own here
      split at done
      · cases done
      · rename_i rest others there
        cases done
        obtain ⟨full, limit, positive⟩ := scorable q (by simp)
        have later : Scorable (columns.map Prod.fst) := fun p listed => scorable p (List.mem_cons_of_mem q listed)
        obtain ⟨questions, cells⟩ := ih later there
        refine ⟨by rw [List.map_cons, List.map_cons, questions], ?_⟩
        intro p listed
        rcases List.mem_cons.mp listed with rfl | listed
        · exact ⟨col, List.mem_cons_self, cellScore_spec limit positive here⟩
        · obtain ⟨place, member, cell⟩ := cells p listed
          exact ⟨place, List.mem_cons_of_mem _ member, cell⟩

end

/-- Every question has one column at most, and is one of the exam. -/
structure Columns.Sound (questions : List (QuestionRow K)) (columns : Columns K) : Prop where
  distinct : (columns.map (fun p => p.1.id)).Nodup
  known : ∀ p ∈ columns, p.1 ∈ questions

theorem Columns.holds_iff {columns : Columns K} {q : QuestionRow K} :
    columns.holds q = true ↔ q.id ∈ columns.map (fun p => p.1.id) := by
  rw [Columns.holds, List.any_eq_true, List.mem_map]
  constructor
  · intro held
    obtain ⟨p, listed, same⟩ := held
    exact ⟨p, listed, beq_iff_eq.mp same⟩
  · intro held
    obtain ⟨p, listed, same⟩ := held
    exact ⟨p, listed, beq_iff_eq.mpr same⟩

theorem mapColumns_sound {w : Writing K} {all : List (QuestionRow K)} {questions : Dict Int (QuestionRow K)}
    (known : ∀ idx q, questions.get? idx = some q → q ∈ all) (headings : List (String × Nat)) {columns : Columns K}
    {warnings : List String} (sound : columns.Sound all) {result : Columns K × List String}
    (done : mapColumns w questions headings columns warnings = .ok result) : result.1.Sound all := by
  induction headings generalizing columns warnings with
  | nil =>
    cases done
    exact sound
  | cons heading headings ih =>
    obtain ⟨h, i⟩ := heading
    unfold mapColumns at done
    split at done
    · cases done
    · exact ih sound done
    · split at done
      · exact ih sound done
      · rename_i q found
        split at done
        · exact ih sound done
        · rename_i absent
          refine ih ⟨?_, ?_⟩ done
          · rw [List.map_append, List.nodup_append]
            refine ⟨sound.distinct, by simp, ?_⟩
            intro id listed other here same
            rw [List.map_singleton, List.mem_singleton] at here
            apply absent
            rw [Columns.holds_iff, ← here, ← same]
            exact listed
          · intro p listed
            rcases List.mem_append.mp listed with old | new
            · exact sound.known p old
            · rw [List.mem_singleton.mp new]
              exact known _ q found

theorem layoutOf_sound {w : Writing K} {externalCode : Nat → Option String} {e : Intake K} {heading : List (Cell K)}
    {layout : Layout K} (done : layoutOf w externalCode e heading = .ok layout) : layout.columns.Sound e.questions.rows := by
  unfold layoutOf mapQuestionColumns at done
  dsimp only at done
  split at done
  · cases done
  · rename_i columns warnings mapped
    cases done
    split at mapped
    · cases mapped
    · rename_i found
      cases mapped
      have start : Columns.Sound e.questions.rows ([] : Columns K) := ⟨List.nodup_nil, by simp⟩
      refine mapColumns_sound ?_ _ start found
      intro idx q known
      obtain ⟨q', listed, same⟩ := List.mem_map.mp (Dict.mem_of_get?_ofList known)
      cases same
      exact listed

/-- Two readings of one response that differ in its remarks at most. -/
structure SameScores (r r' : ResponseRow K) : Prop where
  key : r'.id = r.id
  student : r'.studentId = r.studentId
  total : r'.totalScore = r.totalScore
  source : r'.source = r.source
  status : r'.status = r.status

theorem SameScores.refl (r : ResponseRow K) : SameScores r r := ⟨rfl, rfl, rfl, rfl, rfl⟩

theorem note_same (warning : String) (r : ResponseRow K) : SameScores r (note warning r) := by
  unfold note
  split
  · exact ⟨rfl, rfl, rfl, rfl, rfl⟩
  · exact .refl r

section
variable [Field K] [LinearOrder K] [FloorRing K] (w : Writing K)

/-- A response made of one row: one answer a column, each made of its cell. -/
structure FiledRow (columns : Columns K) (row : List (Cell K)) (r : ResponseRow K) (answers : List (AnswerRow K)) : Prop where
  awaiting : r.status = .pendingReview
  questions : answers.map AnswerRow.templateQuestionId = columns.map (fun p => p.1.id)
  cells : ∀ a ∈ answers, ∃ q col, (q, col) ∈ columns ∧ a.templateQuestionId = q.id ∧
    CellAnswer w row q col a.score a.parseConfidence
  total : r.totalScore = (PyFloat.sum (answers.map AnswerRow.score)).round 2

/-- The student a row names. -/
def rowStudent (layout : Layout K) (row : List (Cell K)) : Except ImportError (Option Student) :=
  match rowName w layout.nameCol row with
  | .error error => .error error
  | .ok none => .ok none
  | .ok (some name) => .ok (layout.students.get? name)

/-- What one row can do to the exam. -/
inductive RowOutcome (layout : Layout K) (row : List (Cell K)) (e e' : Intake K) : Prop
  | idle (nobody : rowStudent w layout row = .ok none) (same : e' = e)
  | noted (student : Student) (named : rowStudent w layout row = .ok (some student)) (r : ResponseRow K)
      (listed : r ∈ e.responses.rows) (own : r.studentId = student.id) (warning : String)
      (after : e' = { e with responses := e.responses.modify r.id (note warning) (key_note _) })
  | filed (student : Student) (named : rowStudent w layout row = .ok (some student))
      (first : ∀ r ∈ e.responses.rows, r.studentId ≠ student.id) (scored : List (QuestionRow K × Scored K))
      (rowIdx : Nat) (name : String) (remarks warnings : List String)
      (marked : rowScores w rowIdx name row layout.columns = .ok (scored, remarks))
      (after : e' = { e with
        responses := e.responses.insert
          (excelRow student.id ((PyFloat.sum (scored.map (fun p => p.2.score))).round 2) warnings) (key_excelRow _ _ _)
        answers := e.answers.insertAll (scoredRow e.responses.nextId) (key_scoredRow _) scored })

variable {w}

theorem importRow_outcome {layout : Layout K} {state after : Intake K × ImportResult} {rowIdx : Nat} {row : List (Cell K)}
    (done : importRow w layout state rowIdx row = .ok after) : RowOutcome w layout row state.1 after.1 := by
  unfold importRow at done
  dsimp only at done
  split at done
  · cases done
  · rename_i nobody
    cases done
    exact .idle (by simp [rowStudent, nobody]) rfl
  · rename_i name named
    split at done
    · rename_i unknown
      cases done
      exact .idle (by simp [rowStudent, named, unknown]) rfl
    · rename_i student known
      have who : rowStudent w layout row = .ok (some student) := by simp [rowStudent, named, known]
      split at done
      · rename_i existing found
        cases done
        have own : existing.studentId = student.id := by simpa using List.find?_some found
        exact .noted student who existing (List.mem_of_find?_eq_some found) own _ rfl
      · rename_i absent
        have first : ∀ r ∈ state.1.responses.rows, r.studentId ≠ student.id := by
          simpa using List.find?_eq_none.mp absent
        split at done
        · cases done
        · rename_i finished filed
          cases done
          unfold fileRow at filed
          split at filed
          · cases filed
          · rename_i scored remarks marked
            dsimp only at filed
            split at filed
            · cases filed
            · cases filed
              exact .filed student who first scored rowIdx name remarks _ marked rfl

variable (w) in
/-- What an import has done to the exam so far: the old responses stand, and each new one is its student's only one and
    made of a row of the sheet. -/
structure Imported (columns : Columns K) (sheet : List (List (Cell K))) (e e' : Intake K) : Prop where
  questions : e'.questions = e.questions
  roster : e'.roster = e.roster
  linked : e'.Linked
  grown : e.responses.nextId ≤ e'.responses.nextId
  kept : ∀ r ∈ e.responses.rows, (∃ r' ∈ e'.responses.rows, SameScores r r') ∧ e'.answersOf r.id = e.answersOf r.id
  old : ∀ r' ∈ e'.responses.rows, r'.id < e.responses.nextId → ∃ r ∈ e.responses.rows, SameScores r r'
  sole : ∀ r ∈ e'.responses.rows, e.responses.nextId ≤ r.id → ∀ s ∈ e'.responses.rows, s.studentId = r.studentId → s.id = r.id
  filed : ∀ r ∈ e'.responses.rows, e.responses.nextId ≤ r.id → ∃ row ∈ sheet, FiledRow w columns row r (e'.answersOf r.id)

omit [LinearOrder K] [Field K] [FloorRing K] in
theorem mem_modify_note {t : Table (ResponseRow K)} {k : Nat} {warning : String} {r : ResponseRow K} (listed : r ∈ t.rows) :
    ∃ r' ∈ (t.modify k (note warning) (key_note _)).rows, SameScores r r' := by
  rw [Table.rows_modify]
  by_cases here : Keyed.key r = k
  · exact ⟨note warning r, List.mem_map.mpr ⟨r, listed, by simp [here]⟩, note_same warning r⟩
  · exact ⟨r, List.mem_map.mpr ⟨r, listed, by simp [here]⟩, .refl r⟩

omit [LinearOrder K] [Field K] [FloorRing K] in
theorem of_mem_modify_note {t : Table (ResponseRow K)} {k : Nat} {warning : String} {r' : ResponseRow K}
    (listed : r' ∈ (t.modify k (note warning) (key_note _)).rows) : ∃ r ∈ t.rows, SameScores r r' := by
  rw [Table.rows_modify] at listed
  obtain ⟨r, before, rfl⟩ := List.mem_map.mp listed
  refine ⟨r, before, ?_⟩
  split
  · exact note_same warning r
  · exact .refl r

omit [LinearOrder K] [Field K] [FloorRing K] in
theorem SameScores.trans {r s t : ResponseRow K} (first : SameScores r s) (second : SameScores s t) : SameScores r t :=
  ⟨second.key.trans first.key, second.student.trans first.student, second.total.trans first.total,
    second.source.trans first.source, second.status.trans first.status⟩

theorem FiledRow.same {columns : Columns K} {row : List (Cell K)} {r r' : ResponseRow K} {answers : List (AnswerRow K)}
    (filed : FiledRow w columns row r answers) (same : SameScores r r') : FiledRow w columns row r' answers :=
  ⟨same.status.trans filed.awaiting, filed.questions, filed.cells, same.total.trans filed.total⟩

theorem imported_refl {columns : Columns K} (sheet : List (List (Cell K))) {e : Intake K} (linked : e.Linked) :
    Imported w columns sheet e e where
  questions := rfl
  roster := rfl
  linked := linked
  grown := le_refl _
  kept := fun r listed => ⟨⟨r, listed, .refl r⟩, rfl⟩
  old := fun r listed _ => ⟨r, listed, .refl r⟩
  sole := fun r listed beyond => absurd (e.responses.issued r listed) (not_lt.mpr beyond)
  filed := fun r listed beyond => absurd (e.responses.issued r listed) (not_lt.mpr beyond)

theorem Imported.noted {columns : Columns K} {sheet : List (List (Cell K))} {e e' : Intake K}
    (before : Imported w columns sheet e e') (k : Nat) (warning : String) :
    Imported w columns sheet e { e' with responses := e'.responses.modify k (note warning) (key_note _) } where
  questions := before.questions
  roster := before.roster
  linked := before.linked
  grown := before.grown
  kept := by
    intro r listed
    obtain ⟨⟨r', filed, same⟩, answers⟩ := before.kept r listed
    obtain ⟨r'', after, again⟩ := mem_modify_note filed
    exact ⟨⟨r'', after, same.trans again⟩, answers⟩
  old := by
    intro r listed below
    obtain ⟨r', filed, again⟩ := of_mem_modify_note listed
    obtain ⟨r'', first, same⟩ := before.old r' filed (again.key ▸ below)
    exact ⟨r'', first, same.trans again⟩
  sole := by
    intro r listed beyond s other student
    obtain ⟨r', filed, same⟩ := of_mem_modify_note listed
    obtain ⟨s', found, alike⟩ := of_mem_modify_note other
    rw [same.key, alike.key]
    rw [same.student, alike.student] at student
    exact before.sole r' filed (same.key ▸ beyond) s' found student
  filed := by
    intro r listed beyond
    obtain ⟨r', filed, same⟩ := of_mem_modify_note listed
    obtain ⟨row, member, made⟩ := before.filed r' filed (same.key ▸ beyond)
    refine ⟨row, member, ?_⟩
    rw [same.key]
    exact made.same same

theorem Imported.added {columns : Columns K} {sheet : List (List (Cell K))} {e e' : Intake K}
    (before : Imported w columns sheet e e') (scorable : Scorable (columns.map Prod.fst)) {row : List (Cell K)}
    (listed : row ∈ sheet) {studentId : Nat} (first : ∀ r ∈ e'.responses.rows, r.studentId ≠ studentId)
    {scored : List (QuestionRow K × Scored K)} {rowIdx : Nat} {name : String} {remarks : List String}
    (marked : rowScores w rowIdx name row columns = .ok (scored, remarks)) (warnings : List String) :
    Imported w columns sheet e { e' with
      responses := e'.responses.insert
        (excelRow studentId ((PyFloat.sum (scored.map (fun p => p.2.score))).round 2) warnings) (key_excelRow _ _ _)
      answers := e'.answers.insertAll (scoredRow e'.responses.nextId) (key_scoredRow _) scored } := by
  let new := excelRow studentId ((PyFloat.sum (scored.map (fun p => p.2.score))).round 2) warnings e'.responses.nextId
  have cases_ : ∀ r ∈ e'.responses.rows ++ [new], r ∈ e'.responses.rows ∨ r = new := by
    intro r among
    simpa using among
  have other : ∀ r ∈ e'.responses.rows, (e'.answers.insertAll (scoredRow e'.responses.nextId) (key_scoredRow _) scored).select
      (fun a => a.examResponseId == r.id) = e'.answersOf r.id := by
    intro r among
    have below := e'.responses.issued r among
    exact select_scored_other (Nat.ne_of_lt below) scored
  refine ⟨before.questions, before.roster, ?_, ?_, ?_, ?_, ?_, ?_⟩
  · intro a among
    show a.examResponseId < e'.responses.nextId + 1
    rw [Table.rows_insertAll, List.mem_append] at among
    rcases among with old | new
    · have below := before.linked a old
      omega
    · obtain ⟨n, inside, rfl⟩ := List.mem_mapIdx.mp new
      show e'.responses.nextId < e'.responses.nextId + 1
      omega
  · show e.responses.nextId ≤ e'.responses.nextId + 1
    have below := before.grown
    omega
  · intro r among
    obtain ⟨⟨r', filed, same⟩, answers⟩ := before.kept r among
    refine ⟨⟨r', List.mem_append_left _ filed, same⟩, ?_⟩
    rw [← answers, ← same.key]
    exact other r' filed
  · intro r among below
    rcases cases_ r among with old | rfl
    · exact before.old r old below
    · have above := before.grown
      have here : e'.responses.nextId < e.responses.nextId := below
      omega
  · intro r among beyond s also student
    rcases cases_ r among with old | rfl
    · rcases cases_ s also with older | rfl
      · exact before.sole r old beyond s older student
      · exact absurd student.symm (first r old)
    · rcases cases_ s also with older | rfl
      · exact absurd student (first s older)
      · rfl
  · intro r among beyond
    rcases cases_ r among with old | rfl
    · obtain ⟨row', member, made⟩ := before.filed r old beyond
      refine ⟨row', member, ?_⟩
      show FiledRow w columns row' r (Table.select _ _)
      rw [other r old]
      exact made
    · refine ⟨row, listed, ?_⟩
      show FiledRow w columns row new (Table.select _ _)
      rw [show new.id = e'.responses.nextId from rfl, select_scored_own before.linked]
      obtain ⟨questions, cells⟩ := rowScores_spec scorable marked
      refine ⟨rfl, ?_, ?_, ?_⟩
      · rw [scoredRows_questions, questions, List.map_map]
        rfl
      · intro a made
        obtain ⟨p, here, question, score, sure⟩ := mem_scoredRows made
        obtain ⟨col, member, cell⟩ := cells p here
        rw [score, sure]
        exact ⟨p.1, col, member, question, cell⟩
      · rw [scoredRows_scores]
        rfl

theorem Imported.step {layout : Layout K} {sheet : List (List (Cell K))} {e e' e'' : Intake K}
    (before : Imported w layout.columns sheet e e') (scorable : Scorable (layout.columns.map Prod.fst)) {row : List (Cell K)}
    (listed : row ∈ sheet) (outcome : RowOutcome w layout row e' e'') : Imported w layout.columns sheet e e'' := by
  cases outcome with
  | idle _ same =>
    rw [same]
    exact before
  | noted _ _ r _ _ warning after =>
    rw [after]
    exact before.noted r.id warning
  | filed student _ first scored rowIdx name remarks warnings marked after =>
    rw [after]
    exact before.added scorable listed first marked warnings

/-- What every row keeps, the rows keep. -/
theorem importRows_invariant {layout : Layout K} {P : Intake K → Prop} (rows : List (List (Cell K)))
    (keeps : ∀ row ∈ rows, ∀ e e' : Intake K, RowOutcome w layout row e e' → P e → P e')
    {state after : Intake K × ImportResult} {rowIdx : Nat} (before : P state.1)
    (done : importRows w layout state rowIdx rows = .ok after) : P after.1 := by
  induction rows generalizing state rowIdx with
  | nil =>
    cases done
    exact before
  | cons row rows ih =>
    unfold importRows at done
    split at done
    · cases done
    · rename_i between here
      have next := keeps row List.mem_cons_self _ _ (importRow_outcome here) before
      exact ih (fun r member => keeps r (List.mem_cons_of_mem row member)) next done

theorem importRows_imported {layout : Layout K} (scorable : Scorable (layout.columns.map Prod.fst))
    {sheet : List (List (Cell K))} (rows : List (List (Cell K))) (part : ∀ row ∈ rows, row ∈ sheet) {e : Intake K}
    {state after : Intake K × ImportResult} {rowIdx : Nat} (before : Imported w layout.columns sheet e state.1)
    (done : importRows w layout state rowIdx rows = .ok after) : Imported w layout.columns sheet e after.1 := by
  apply importRows_invariant rows _ before done
  intro row listed e' e'' outcome imported
  exact imported.step scorable (part row listed) outcome

variable (w) in
/-- The row raises nothing, and the student it names has a response. -/
def Served (layout : Layout K) (row : List (Cell K)) (e : Intake K) : Prop :=
  ∃ who, rowStudent w layout row = .ok who ∧ ∀ student, who = some student → ∃ r ∈ e.responses.rows, r.studentId = student.id

theorem RowOutcome.students {layout : Layout K} {row : List (Cell K)} {e e' : Intake K} (outcome : RowOutcome w layout row e e')
    {r : ResponseRow K} (listed : r ∈ e.responses.rows) : ∃ r' ∈ e'.responses.rows, r'.studentId = r.studentId := by
  cases outcome with
  | idle _ same => exact ⟨r, same ▸ listed, rfl⟩
  | noted _ _ _ _ _ _ after =>
    obtain ⟨r', member, same⟩ := mem_modify_note listed
    rw [after]
    exact ⟨r', member, same.student⟩
  | filed _ _ _ _ _ _ _ _ _ after =>
    rw [after]
    exact ⟨r, List.mem_append_left _ listed, rfl⟩

theorem RowOutcome.served {layout : Layout K} {row other : List (Cell K)} {e e' : Intake K}
    (outcome : RowOutcome w layout row e e') (before : Served w layout other e) : Served w layout other e' := by
  obtain ⟨who, named, found⟩ := before
  refine ⟨who, named, ?_⟩
  intro student same
  obtain ⟨r, listed, own⟩ := found student same
  obtain ⟨r', member, again⟩ := outcome.students listed
  exact ⟨r', member, again.trans own⟩

theorem RowOutcome.own {layout : Layout K} {row : List (Cell K)} {e e' : Intake K} (outcome : RowOutcome w layout row e e') :
    Served w layout row e' := by
  cases outcome with
  | idle nobody _ => exact ⟨none, nobody, fun _ same => by cases same⟩
  | noted student named r listed own _ after =>
    refine ⟨some student, named, ?_⟩
    intro s same
    cases same
    obtain ⟨r', member, again⟩ := mem_modify_note listed
    rw [after]
    exact ⟨r', member, again.student.trans own⟩
  | filed student named _ _ _ _ _ _ _ after =>
    refine ⟨some student, named, ?_⟩
    intro s same
    cases same
    rw [after]
    exact ⟨_, List.mem_append_right _ (List.mem_singleton_self _), rfl⟩

theorem importRows_served {layout : Layout K} (rows : List (List (Cell K))) {state after : Intake K × ImportResult}
    {rowIdx : Nat} (done : importRows w layout state rowIdx rows = .ok after) : ∀ row ∈ rows, Served w layout row after.1 := by
  induction rows generalizing state rowIdx with
  | nil => simp
  | cons row rows ih =>
    unfold importRows at done
    split at done
    · cases done
    · rename_i between here
      intro other member
      rcases List.mem_cons.mp member with rfl | later
      · exact importRows_invariant rows (fun _ _ _ _ outcome served => outcome.served served) (importRow_outcome here).own done
      · exact ih done other later

/-- Two exams with the same responses, as far as their keys go, and the same answers. -/
structure NothingAdded (e e' : Intake K) : Prop where
  responses : e'.responses.rows.map ResponseRow.id = e.responses.rows.map ResponseRow.id
  answers : e'.answers = e.answers

/-- A row whose student has a response is never filed. -/
theorem importRow_again {layout : Layout K} {row : List (Cell K)} {state : Intake K × ImportResult} (rowIdx : Nat)
    (served : Served w layout row state.1) :
    ∃ after, importRow w layout state rowIdx row = .ok after ∧ NothingAdded state.1 after.1 := by
  obtain ⟨who, named, found⟩ := served
  unfold rowStudent at named
  cases called : rowName w layout.nameCol row with
  | error error =>
    rw [called] at named
    cases named
  | ok name? =>
    rw [called] at named
    cases name? with
    | none =>
      refine ⟨state, ?_, rfl, rfl⟩
      unfold importRow
      dsimp only
      rw [called]
    | some name =>
      dsimp only at named
      rw [Except.ok.injEq] at named
      unfold importRow
      dsimp only
      rw [called]
      dsimp only
      rw [named]
      cases who with
      | none => exact ⟨_, rfl, rfl, rfl⟩
      | some student =>
        obtain ⟨r, listed, own⟩ := found student rfl
        have present : ∃ x, state.1.responses.rows.find? (fun r => r.studentId == student.id) = some x := by
          rw [← Option.isSome_iff_exists, List.find?_isSome]
          exact ⟨r, listed, by simpa using own⟩
        obtain ⟨x, here⟩ := present
        dsimp only
        rw [here]
        refine ⟨_, rfl, ?_, rfl⟩
        rw [Table.rows_modify, List.map_map]
        apply List.map_congr_left
        intro s _
        dsimp only [Function.comp]
        split
        · exact key_note _ s
        · rfl

theorem importRows_again {layout : Layout K} (rows : List (List (Cell K))) {state : Intake K × ImportResult} (rowIdx : Nat)
    (served : ∀ row ∈ rows, Served w layout row state.1) :
    ∃ after, importRows w layout state rowIdx rows = .ok after ∧ NothingAdded state.1 after.1 := by
  induction rows generalizing state rowIdx with
  | nil => exact ⟨state, rfl, rfl, rfl⟩
  | cons row rows ih =>
    obtain ⟨between, here, first⟩ := importRow_again rowIdx (served row List.mem_cons_self)
    have outcome := importRow_outcome here
    have rest : ∀ r ∈ rows, Served w layout r between.1 :=
      fun r member => outcome.served (served r (List.mem_cons_of_mem row member))
    obtain ⟨after, there, second⟩ := ih (rowIdx + 1) rest
    refine ⟨after, ?_, second.responses.trans first.responses, second.answers.trans first.answers⟩
    unfold importRows
    rw [here]
    exact there

/-- A response that lacks an answer, or holds one without confidence, does not pass. -/
theorem FiledRow.blocked [IsStrictOrderedRing K] (render : PyFloat K → String) {columns : Columns K} {row : List (Cell K)}
    {r : ResponseRow K} {e : Intake K} (filed : FiledRow w columns row r (e.answersOf r.id)) (listed : r ∈ e.responses.rows)
    (flawed : (∃ q ∈ e.questions.rows, columns.holds q = false) ∨
      ∃ a ∈ e.answersOf r.id, a.parseConfidence = .fin 0) :
    Blocked (examPreflight render e) r.id := by
  rw [blocked_iff_not_clear render listed (by simp [filed.awaiting])]
  intro clear
  rcases flawed with ⟨q, asked, absent⟩ | ⟨a, own, none⟩
  · have one := clear.covered q asked
    have some : 0 < (e.answersOf r.id).countP (fun a => a.templateQuestionId == q.id) := by omega
    obtain ⟨a, own, same⟩ := List.countP_pos_iff.mp some
    have held : q.id ∈ columns.map (fun p => p.1.id) := by
      rw [← filed.questions, ← beq_iff_eq.mp same]
      exact List.mem_map.mpr ⟨a, own, rfl⟩
    rw [Columns.holds_iff.mpr held] at absent
    cases absent
  · have sure := (clear.answers a own).2
    rw [none] at sure
    simp at sure
    exact absurd (threshold_bounds (K := K)).1 (not_lt.mpr sure)

variable (w) in
/-- What a sheet must not do to an exam, and what it may add. -/
structure SoundImport (render : PyFloat K → String) (externalCode : Nat → Option String) (e after : Intake K)
    (sheet : List (List (Cell K))) : Prop where
  kept : ∀ r ∈ e.responses.rows, (∃ r' ∈ after.responses.rows, SameScores r r') ∧ after.answersOf r.id = e.answersOf r.id
  old : ∀ r' ∈ after.responses.rows, r'.id < e.responses.nextId → ∃ r ∈ e.responses.rows, SameScores r r'
  sole : ∀ r ∈ after.responses.rows, e.responses.nextId ≤ r.id →
    ∀ s ∈ after.responses.rows, s.studentId = r.studentId → s.id = r.id
  added : ∀ r ∈ after.responses.rows, e.responses.nextId ≤ r.id → ∃ heading rows layout, sheet = heading :: rows ∧
    layoutOf w externalCode e heading = .ok layout ∧ layout.columns.Sound e.questions.rows ∧
    (∃ row ∈ rows, FiledRow w layout.columns row r (after.answersOf r.id)) ∧
    ((∃ q ∈ e.questions.rows, layout.columns.holds q = false) ∨ (∃ a ∈ after.answersOf r.id, a.parseConfidence = .fin 0) →
      Blocked (examPreflight render after) r.id)

theorem SoundImport.unchanged (render : PyFloat K → String) (externalCode : Nat → Option String) {e : Intake K}
    (sheet : List (List (Cell K))) : SoundImport w render externalCode e e sheet where
  kept := fun r listed => ⟨⟨r, listed, .refl r⟩, rfl⟩
  old := fun r listed _ => ⟨r, listed, .refl r⟩
  sole := fun r listed beyond => absurd (e.responses.issued r listed) (not_lt.mpr beyond)
  added := fun r listed beyond => absurd (e.responses.issued r listed) (not_lt.mpr beyond)

omit [LinearOrder K] [Field K] [FloorRing K] in
theorem layoutOf_congr (w : Writing K) (externalCode : Nat → Option String) {e e' : Intake K} (questions : e'.questions = e.questions)
    (roster : e'.roster = e.roster) (heading : List (Cell K)) :
    layoutOf w externalCode e' heading = layoutOf w externalCode e heading := by
  unfold layoutOf mapQuestionColumns
  rw [questions, roster]

omit [FloorRing K] in
theorem Scorable.columns {questions : List (QuestionRow K)} (scorable : Scorable questions)
    {columns : Columns K} (sound : columns.Sound questions) : Scorable (columns.map Prod.fst) := by
  intro q listed
  obtain ⟨p, member, rfl⟩ := List.mem_map.mp listed
  exact scorable p.1 (sound.known p member)

theorem uploadExcel_sound [IsStrictOrderedRing K] (render : PyFloat K → String) (externalCode : Nat → Option String)
    {e : Intake K} (linked : e.Linked) (scorable : Scorable e.questions.rows) (sheet : List (List (Cell K))) :
    SoundImport w render externalCode e (uploadExcel w externalCode e sheet) sheet := by
  unfold uploadExcel
  split
  · exact SoundImport.unchanged render externalCode sheet
  · rename_i after result done
    unfold importExcel at done
    split at done
    · cases done
    · rename_i heading rows
      split at done
      · cases done
      · rename_i layout laid
        have sound := layoutOf_sound laid
        have import_ : Imported w layout.columns rows e after :=
          importRows_imported (scorable.columns sound) rows (fun _ listed => listed) (imported_refl rows linked) done
        refine ⟨import_.kept, import_.old, import_.sole, ?_⟩
        intro r listed beyond
        obtain ⟨row, member, filed⟩ := import_.filed r listed beyond
        refine ⟨heading, rows, layout, rfl, laid, sound, ⟨row, member, filed⟩, ?_⟩
        rw [← import_.questions]
        exact filed.blocked render listed

/-- A sheet that has been imported has nothing left to add. -/
theorem uploadExcel_again (externalCode : Nat → Option String) {e : Intake K} (linked : e.Linked)
    (scorable : Scorable e.questions.rows) (sheet : List (List (Cell K))) :
    NothingAdded (uploadExcel w externalCode e sheet) (uploadExcel w externalCode (uploadExcel w externalCode e sheet) sheet) := by
  cases first : importExcel w externalCode e sheet with
  | error error =>
    have same : uploadExcel w externalCode e sheet = e := by
      unfold uploadExcel
      rw [first]
    rw [same, same]
    exact ⟨rfl, rfl⟩
  | ok state =>
    have same : uploadExcel w externalCode e sheet = state.1 := by
      unfold uploadExcel
      rw [first]
    rw [same]
    unfold importExcel at first
    split at first
    · cases first
    · rename_i heading rows
      split at first
      · cases first
      · rename_i layout laid
        have import_ : Imported w layout.columns rows e state.1 :=
          importRows_imported (scorable.columns (layoutOf_sound laid)) rows (fun _ listed => listed)
            (imported_refl rows linked) first
        have laid_again : layoutOf w externalCode state.1 heading = .ok layout := by
          rw [layoutOf_congr w externalCode import_.questions import_.roster, laid]
        have served := importRows_served rows first
        let start : Intake K × ImportResult := (state.1, { warnings := layout.headerWarnings })
        obtain ⟨after, done, nothing⟩ : ∃ after, importRows w layout start 2 rows = .ok after ∧ NothingAdded start.1 after.1 :=
          importRows_again rows 2 served
        have again : uploadExcel w externalCode state.1 (heading :: rows) = after.1 := by
          unfold uploadExcel importExcel
          dsimp only
          rw [laid_again]
          dsimp only
          rw [done]
        rw [again]
        exact nothing

/-- A sheet changes nothing that is on file; what it adds is made of its own rows, cell by cell, and what it had to make up
    is held back; a second time it adds nothing. -/
theorem excel_import [IsStrictOrderedRing K] (w : Writing K) (render : PyFloat K → String) (externalCode : Nat → Option String)
    (e : Intake K) (linked : e.Linked) (scorable : Scorable e.questions.rows) (sheet : List (List (Cell K))) :
    SoundImport w render externalCode e (uploadExcel w externalCode e sheet) sheet ∧
      NothingAdded (uploadExcel w externalCode e sheet)
        (uploadExcel w externalCode (uploadExcel w externalCode e sheet) sheet) :=
  ⟨uploadExcel_sound render externalCode linked scorable sheet, uploadExcel_again externalCode linked scorable sheet⟩

end

def plainWriting : Writing ℚ where
  str
    | .int n => toString n
    | .text s => s
    | _ => ""
  repr
    | .text s => "'" ++ s ++ "'"
    | _ => ""
  float _ := ""
  number s := (s.toNat?).map (fun n => .fin n)
  digit c := if c.isDigit then some (c.toNat - 48) else none

/-- Two questions and two students, one of whom is on file already. -/
def weekTest : Intake ℚ where
  examId := 1
  source := .other "考试"
  targeted := false
  roster := [⟨1, 1, "甲"⟩, ⟨2, 1, "乙"⟩]
  questions := .ofList [⟨1, 1, .choice, .fin 5, [true]⟩, ⟨2, 2, .choice, .fin 5, [true]⟩]
  responses := .ofList [⟨1, 1, .fin 3, .manual, .submitted, none⟩]
  answers := .ofList [⟨1, 1, 1, .fin 3, none, .fin 1⟩]

/-- Nothing is said of the second question, the first student comes again and the other one twice. -/
def markSheet : List (List (Cell ℚ)) :=
  [[.text "姓名", .text "Q1", .text "1"], [.text "甲", .int 5, .int 5], [.text "乙", .int 9], [.text "乙", .text "缺"]]

theorem excel_import_week_test :
    (uploadExcel plainWriting (fun _ => none) weekTest markSheet).answers.rows.map (fun a => (a.score, a.parseConfidence)) =
        [(.fin 3, .fin 1), (.fin 5, .fin 0)] ∧
      SoundImport plainWriting (fun _ => "") (fun _ => none) weekTest (uploadExcel plainWriting (fun _ => none) weekTest markSheet)
        markSheet ∧
      NothingAdded (uploadExcel plainWriting (fun _ => none) weekTest markSheet)
        (uploadExcel plainWriting (fun _ => none) (uploadExcel plainWriting (fun _ => none) weekTest markSheet) markSheet) := by
  have linked : weekTest.Linked := by
    unfold Intake.Linked
    decide +kernel
  have scorable : Scorable weekTest.questions.rows := by
    intro q listed
    have full : q.fullScore = .fin 5 := by
      revert q
      decide +kernel
    exact ⟨5, full, by decide +kernel⟩
  exact ⟨by decide +kernel, excel_import plainWriting (fun _ => "") (fun _ => none) weekTest linked scorable markSheet⟩

end KnowledgeGap.Ingestion
