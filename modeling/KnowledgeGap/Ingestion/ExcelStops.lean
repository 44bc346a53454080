import KnowledgeGap.Ingestion.ExcelRows

namespace KnowledgeGap.Ingestion

open Relational

variable {K : Type}

/-- An integer that no float reaches. -/
def tooLarge : Cell K → Bool
  | .int n => decide (floatLimit ≤ n.natAbs)
  | _ => false

/-- The student has a response on file. -/
def HasResponse (e : Intake K) (studentId : Nat) : Prop := ∃ r ∈ e.responses.rows, r.studentId = studentId

section
variable (w : Writing K) (layout : Layout K)

/-- Such an integer stands where a score or the total of a row is read. -/
def unscorable (row : List (Cell K)) : Bool :=
  layout.columns.any (fun p => !blank w (row.getD p.2 .empty) && tooLarge (row.getD p.2 .empty)) ||
    (layout.totalCol.bind (fun col => row[col]?)).any tooLarge

/-- What stops an import at a row below the rows `before`, when the students `known` have a response: the row ends before
    the name, or it is the first of a student without a response and its scores cannot be read. -/
inductive Stops (known : Nat → Prop) (before : List (List (Cell K))) (row : List (Cell K)) : Prop
  | nameless (error : ImportError) (short : rowName w layout.nameCol row = .error error)
  | overflow (student : Student) (named : rowStudent w layout row = .ok (some student)) (new : ¬ known student.id)
      (first : ∀ above ∈ before, ∀ s, rowStudent w layout above = .ok (some s) → s.id ≠ student.id)
      (large : unscorable w layout row = true)

/-- Some row stops the import. -/
def Halts (known : Nat → Prop) (rows : List (List (Cell K))) : Prop :=
  ∃ before row after, rows = before ++ row :: after ∧ Stops w layout known before row

variable {w layout}

theorem rowStudent_some {layout : Layout K} {row : List (Cell K)} {student : Student}
    (named : rowStudent w layout row = .ok (some student)) :
    ∃ name, rowName w layout.nameCol row = .ok (some name) ∧ layout.students.get? name = some student := by
  unfold rowStudent at named
  split at named
  · cases named
  · cases named
  · rename_i name given
    rw [Except.ok.injEq] at named
    exact ⟨name, given, named⟩

theorem stops_cons_iff {known : Nat → Prop} {before : List (List (Cell K))} {above row : List (Cell K)} :
    Stops w layout known (above :: before) row ↔
      Stops w layout (fun id => known id ∨ ∃ s, rowStudent w layout above = .ok (some s) ∧ s.id = id) before row := by
  constructor
  · intro stops
    cases stops with
    | nameless error short => exact .nameless error short
    | overflow student named new first large =>
      refine .overflow student named ?_ (fun earlier listed => first earlier (by simp [listed])) large
      rintro (old | ⟨s, given, same⟩)
      · exact new old
      · exact first above (by simp) s given same
  · intro stops
    cases stops with
    | nameless error short => exact .nameless error short
    | overflow student named new first large =>
      refine .overflow student named (fun old => new (.inl old)) ?_ large
      intro earlier listed s given same
      rcases List.mem_cons.mp listed with rfl | listed
      · exact new (.inr ⟨s, given, same⟩)
      · exact first earlier listed s given same

theorem halts_cons_iff {known : Nat → Prop} {row : List (Cell K)} {rows : List (List (Cell K))} :
    Halts w layout known (row :: rows) ↔ Stops w layout known [] row ∨
      Halts w layout (fun id => known id ∨ ∃ s, rowStudent w layout row = .ok (some s) ∧ s.id = id) rows := by
  constructor
  · rintro ⟨before, stopped, after, split, stops⟩
    cases before with
    | nil =>
      simp only [List.nil_append, List.cons.injEq] at split
      obtain ⟨rfl, rfl⟩ := split
      exact .inl stops
    | cons above before =>
      simp only [List.cons_append, List.cons.injEq] at split
      obtain ⟨rfl, rfl⟩ := split
      exact .inr ⟨before, stopped, after, rfl, stops_cons_iff.mp stops⟩
  · rintro (stops | ⟨before, stopped, after, rfl, stops⟩)
    · exact ⟨[], row, rows, rfl, stops⟩
    · exact ⟨row :: before, stopped, after, rfl, stops_cons_iff.mpr stops⟩

variable [Field K]

variable (w) in
theorem cellFloat_overflow_iff {c : Cell K} : cellFloat w c = .error .overflowError ↔ tooLarge c = true := by
  cases c with
  | int n => simp [cellFloat, tooLarge]
  | text s =>
    unfold cellFloat tooLarge
    cases read : w.number s <;> simp [read]
  | empty | bool | float | other => simp [cellFloat, tooLarge]

variable [LinearOrder K]

theorem parseScore_ok_iff {raw : Cell K} {full : PyFloat K} {name : String} {idx : Int} :
    (∃ out, parseScore w raw full name idx = .ok out) ↔ tooLarge raw = false := by
  rw [← Bool.not_eq_true, ← cellFloat_overflow_iff w]
  unfold parseScore
  cases parsed : cellFloat w raw with
  | error error => cases error <;> simp
  | ok score =>
    simp only [reduceCtorEq, not_false_eq_true, iff_true]
    split
    · exact ⟨_, rfl⟩
    · split
      · exact ⟨_, rfl⟩
      · exact ⟨_, rfl⟩

variable (w) in
theorem cellScore_ok_iff (rowIdx : Nat) (name : String) {row : List (Cell K)} (q : QuestionRow K) {col : Nat} :
    (∃ out, cellScore w rowIdx name row q col = .ok out) ↔
      (!blank w (row.getD col .empty) && tooLarge (row.getD col .empty)) = false := by
  unfold cellScore
  dsimp only
  generalize row.getD col .empty = raw
  cases nothing : blank w raw with
  | true => simp
  | false => simpa using parseScore_ok_iff

variable (w) in
theorem rowScores_ok_iff (rowIdx : Nat) (name : String) {row : List (Cell K)} {columns : Columns K} :
    (∃ out, rowScores w rowIdx name row columns = .ok out) ↔
      columns.any (fun p => !blank w (row.getD p.2 .empty) && tooLarge (row.getD p.2 .empty)) = false := by
  induction columns with
  | nil => simp [rowScores]
  | cons column columns ih =>
    obtain ⟨q, col⟩ := column
    rw [List.any_cons, Bool.or_eq_false_iff, ← ih, ← cellScore_ok_iff w rowIdx name q]
    rw [rowScores]
    cases cellScore w rowIdx name row q col with
    | error error => simp
    | ok here => cases rowScores w rowIdx name row columns <;> simp

variable (w) in
theorem totalRemarks_ok_iff (rowIdx : Nat) (name : String) {totalCol : Option Nat} {row : List (Cell K)} (computed : PyFloat K) :
    (∃ out, totalRemarks w rowIdx name totalCol row computed = .ok out) ↔
      (totalCol.bind (fun col => row[col]?)).any tooLarge = false := by
  unfold totalRemarks
  cases totalCol.bind (fun col => row[col]?) with
  | none => simp
  | some c =>
    rw [Option.any_some, ← Bool.not_eq_true, ← cellFloat_overflow_iff w]
    cases c with
    | empty => simp [cellFloat]
    | bool | int | float | text | other =>
      dsimp only
      split
      · rename_i parsed
        simp [parsed]
      · rename_i parsed
        simp_all
      · rename_i parsed
        simp only [parsed, reduceCtorEq, not_false_eq_true, iff_true]
        split
        · exact ⟨_, rfl⟩
        · split
          · exact ⟨_, rfl⟩
          · exact ⟨_, rfl⟩

variable [FloorRing K]

theorem fileRow_ok_iff (rowIdx : Nat) (name : String) {row : List (Cell K)} (student : Student) (state : Intake K × ImportResult) :
    (∃ out, fileRow w layout rowIdx name row student state = .ok out) ↔ unscorable w layout row = false := by
  rw [unscorable, Bool.or_eq_false_iff, ← rowScores_ok_iff w rowIdx name]
  unfold fileRow
  cases marked : rowScores w rowIdx name row layout.columns with
  | error error => simp
  | ok scored =>
    rw [← totalRemarks_ok_iff w rowIdx name (PyFloat.sum (scored.1.map (fun p => p.2.score)))]
    dsimp only
    cases totalRemarks w rowIdx name layout.totalCol row (PyFloat.sum (scored.1.map (fun p => p.2.score))) <;> simp

theorem importRow_error_iff {state : Intake K × ImportResult} (rowIdx : Nat) {row : List (Cell K)} :
    (∃ error, importRow w layout state rowIdx row = .error error) ↔ Stops w layout (HasResponse state.1) [] row := by
  constructor
  · rintro ⟨error, failed⟩
    unfold importRow at failed
    dsimp only at failed
    split at failed
    · rename_i short
      exact .nameless _ short
    · cases failed
    · rename_i name named
      split at failed
      · cases failed
      · rename_i student known
        split at failed
        · cases failed
        · rename_i absent
          split at failed
          · rename_i raised
            have large : unscorable w layout row = true := by
              by_contra small
              rw [Bool.not_eq_true, ← fileRow_ok_iff rowIdx name student state, raised] at small
              simp at small
            refine .overflow student (by simp [rowStudent, named, known]) ?_ (by simp) large
            rintro ⟨r, listed, own⟩
            simpa [own] using List.find?_eq_none.mp absent r listed
          · cases failed
  · intro stops
    cases stops with
    | nameless error short =>
      unfold importRow
      rw [short]
      exact ⟨error, rfl⟩
    | overflow student named new first large =>
      obtain ⟨name, given, known⟩ := rowStudent_some named
      have absent : state.1.responses.rows.find? (fun r => r.studentId == student.id) = none := by
        rw [List.find?_eq_none]
        intro r listed own
        exact new ⟨r, listed, beq_iff_eq.mp own⟩
      unfold importRow
      simp only [given, known, absent]
      cases filed : fileRow w layout rowIdx name row student state with
      | error error => exact ⟨_, rfl⟩
      | ok out =>
        have small := (fileRow_ok_iff rowIdx name student state).mp ⟨out, filed⟩
        rw [large] at small
        cases small

/-- After a row the students with a response are those before and the one it names. -/
theorem importRow_known {state after : Intake K × ImportResult} {rowIdx : Nat} {row : List (Cell K)}
    (done : importRow w layout state rowIdx row = .ok after) :
    HasResponse after.1 = fun id => HasResponse state.1 id ∨ ∃ s, rowStudent w layout row = .ok (some s) ∧ s.id = id := by
  funext id
  have outcome := importRow_outcome done
  rw [eq_iff_iff]
  cases outcome with
  | idle nobody same => simp [nobody, same]
  | noted student named r listed own warning changed =>
    have kept : HasResponse after.1 id ↔ HasResponse state.1 id := by
      rw [changed]
      constructor
      · rintro ⟨t, member, rfl⟩
        obtain ⟨t', earlier, same⟩ := of_mem_modify_note member
        exact ⟨t', earlier, same.student.symm⟩
      · rintro ⟨t, member, rfl⟩
        obtain ⟨t', later, same⟩ := mem_modify_note member
        exact ⟨t', later, same.student⟩
    rw [kept]
    constructor
    · exact .inl
    · rintro (old | ⟨s, given, rfl⟩)
      · exact old
      · rw [named, Except.ok.injEq, Option.some.injEq] at given
        exact ⟨r, listed, given ▸ own⟩
  | filed student named _ _ _ _ _ _ _ changed =>
    simp [HasResponse, changed, named, excelRow, or_and_right, exists_or]

/-- An import goes through exactly when no row stops it. -/
theorem importRows_ok_iff (state : Intake K × ImportResult) (rowIdx : Nat) {rows : List (List (Cell K))} :
    (∃ after, importRows w layout state rowIdx rows = .ok after) ↔ ¬ Halts w layout (HasResponse state.1) rows := by
  induction rows generalizing state rowIdx with
  | nil => simp [importRows, Halts]
  | cons row rows ih =>
    rw [halts_cons_iff, ← importRow_error_iff rowIdx]
    unfold importRows
    cases here : importRow w layout state rowIdx row with
    | error error => simp
    | ok between =>
      rw [← importRow_known here]
      simpa using ih between (rowIdx + 1)

end

end KnowledgeGap.Ingestion
