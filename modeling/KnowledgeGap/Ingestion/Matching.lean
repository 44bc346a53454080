import KnowledgeGap.Ingestion.ExcelStops

namespace KnowledgeGap.Ingestion

open Relational

variable {K : Type}

/-- The name on the sheet as the roster is searched for it. -/
def wanted (roster : Roster) (detectedName : Option String) : String := normalizeName roster (detectedName.getD "")

/-- Everybody who matches at the best level that anybody reaches. -/
def bestMatches (roster : Roster) (students : List Student) (dn : String) : List Student :=
  if students.any (namesExactly roster dn) then students.filter (namesExactly roster dn)
  else students.filter (namesPartly roster dn)

section
variable [Field K] (roster : Roster) (students : List Student) (detectedName : Option String)

variable (K) in
/-- The order of the roster does not matter. -/
def SameInAnyOrder : Prop :=
  ∀ other, other.Perm students → matchStudent (K := K) roster other detectedName = matchStudent roster students detectedName

variable (K) in
/-- The student who is returned has no rival at the best level. -/
def SoleMatch : Prop :=
  ∀ studentId confidence warnings, matchStudent (K := K) roster students detectedName = (some (studentId, confidence), warnings) →
    (∃ stu ∈ bestMatches roster students (wanted roster detectedName), stu.id = studentId) ∧
      ∀ stu ∈ bestMatches roster students (wanted roster detectedName), stu.id = studentId

/-- Nothing legible, or one student at most who matches exactly. -/
def OneNamed : Prop :=
  wanted roster detectedName = "" ∨
    ∀ s ∈ students, ∀ t ∈ students, namesExactly roster (wanted roster detectedName) s = true →
      namesExactly roster (wanted roster detectedName) t = true → s.id = t.id

variable {roster students detectedName}

theorem matchStudent_empty (nothing : wanted roster detectedName = "") :
    matchStudent (K := K) roster students detectedName = (none, [.emptyName]) := by
  unfold wanted at nothing
  simp [matchStudent, nothing]

theorem matchStudent_exactly (something : wanted roster detectedName ≠ "") {stu : Student}
    (first : students.find? (namesExactly roster (wanted roster detectedName)) = some stu) :
    matchStudent (K := K) roster students detectedName = (some (stu.id, 1), []) := by
  unfold wanted at something first
  simp [matchStudent, something, first]

/-- What becomes of the students a name matches in part. -/
def partlyMatched (hits : List Student) : Option (Nat × K) × List (Warning K) :=
  match hits with
  | [stu] => (some (stu.id, ratio 8 10), [.containedName])
  | [] => (none, [.unknownName])
  | _ => (none, [.ambiguousName])

theorem matchStudent_partly (something : wanted roster detectedName ≠ "")
    (nobody : students.find? (namesExactly roster (wanted roster detectedName)) = none) :
    matchStudent (K := K) roster students detectedName =
      partlyMatched (students.filter (namesPartly roster (wanted roster detectedName))) := by
  unfold wanted at something nobody
  have legible : (normalizeName roster (detectedName.getD "")).isEmpty = false := by simpa using something
  simp only [matchStudent, legible, nobody, Bool.false_eq_true, if_false]
  rfl

theorem partlyMatched_perm {hits others : List Student} (same : hits.Perm others) :
    partlyMatched (K := K) hits = partlyMatched others := by
  match hits, others, same with
  | [], others, same =>
    rw [same.nil_eq]
  | [stu], others, same =>
    rw [List.perm_singleton.mp same.symm]
  | _ :: _ :: _, [], same => exact absurd same.length_eq (by simp)
  | _ :: _ :: _, [_], same => exact absurd same.length_eq (by simp)
  | _ :: _ :: _, _ :: _ :: _, _ => rfl

theorem partlyMatched_some {hits : List Student} {studentId : Nat} {confidence : K} {warnings : List (Warning K)}
    (returned : partlyMatched hits = (some (studentId, confidence), warnings)) : ∃ stu, hits = [stu] ∧ stu.id = studentId := by
  match hits with
  | [stu] =>
    simp only [partlyMatched, Prod.mk.injEq, Option.some.injEq] at returned
    exact ⟨stu, rfl, returned.1.1⟩
  | [] => simp [partlyMatched] at returned
  | _ :: _ :: _ => simp [partlyMatched] at returned

theorem sameInAnyOrder_of_oneNamed (one : OneNamed roster students detectedName) : SameInAnyOrder K roster students detectedName := by
  intro other same
  by_cases nothing : wanted roster detectedName = ""
  · rw [matchStudent_empty nothing, matchStudent_empty nothing]
  · have together := one.resolve_left nothing
    cases mine : students.find? (namesExactly roster (wanted roster detectedName)) with
    | some stu =>
      have named := List.find?_some mine
      have listed := List.mem_of_find?_eq_some mine
      obtain ⟨first, yours⟩ : ∃ first, other.find? (namesExactly roster (wanted roster detectedName)) = some first := by
        rw [← Option.isSome_iff_exists, List.find?_isSome]
        exact ⟨stu, same.mem_iff.mpr listed, named⟩
      have alike := together first (same.mem_iff.mp (List.mem_of_find?_eq_some yours)) stu listed (List.find?_some yours) named
      rw [matchStudent_exactly nothing mine, matchStudent_exactly nothing yours, alike]
    | none =>
      have yours : other.find? (namesExactly roster (wanted roster detectedName)) = none := by
        rw [List.find?_eq_none]
        intro stu listed
        exact List.find?_eq_none.mp mine stu (same.mem_iff.mp listed)
      rw [matchStudent_partly nothing mine, matchStudent_partly nothing yours]
      exact partlyMatched_perm (same.filter _)

/-- Whoever of two namesakes comes first is returned. -/
theorem oneNamed_of_sameInAnyOrder (free : SameInAnyOrder K roster students detectedName) : OneNamed roster students detectedName := by
  by_cases nothing : wanted roster detectedName = ""
  · exact .inl nothing
  · have ahead : ∀ s ∈ students, namesExactly roster (wanted roster detectedName) s = true →
        matchStudent (K := K) roster students detectedName = (some (s.id, 1), []) := by
      intro s listed named
      rw [← free (s :: students.erase s) (List.perm_cons_erase listed).symm]
      exact matchStudent_exactly nothing (by rw [List.find?_cons_of_pos named])
    refine .inr ?_
    intro s first t second named again
    have same := (ahead s first named).symm.trans (ahead t second again)
    simpa using same

theorem soleMatch_of_oneNamed (one : OneNamed roster students detectedName) : SoleMatch K roster students detectedName := by
  intro studentId confidence warnings returned
  by_cases nothing : wanted roster detectedName = ""
  · rw [matchStudent_empty nothing] at returned
    cases returned
  · have together := one.resolve_left nothing
    cases mine : students.find? (namesExactly roster (wanted roster detectedName)) with
    | some stu =>
      have named := List.find?_some mine
      have listed := List.mem_of_find?_eq_some mine
      rw [matchStudent_exactly nothing mine, Prod.mk.injEq, Option.some.injEq, Prod.mk.injEq] at returned
      have best : bestMatches roster students (wanted roster detectedName) =
          students.filter (namesExactly roster (wanted roster detectedName)) := by
        rw [bestMatches, if_pos (List.any_eq_true.mpr ⟨stu, listed, named⟩)]
      rw [best, ← returned.1.1]
      refine ⟨⟨stu, List.mem_filter.mpr ⟨listed, named⟩, rfl⟩, ?_⟩
      intro other rival
      obtain ⟨among, also⟩ := List.mem_filter.mp rival
      exact together other among stu listed also named
    | none =>
      rw [matchStudent_partly nothing mine] at returned
      obtain ⟨stu, hits, same⟩ := partlyMatched_some returned
      have best : bestMatches roster students (wanted roster detectedName) = [stu] := by
        rw [bestMatches, if_neg (by simpa using List.find?_eq_none.mp mine), hits]
      rw [best]
      simpa using same

theorem oneNamed_of_soleMatch (sole : SoleMatch K roster students detectedName) : OneNamed roster students detectedName := by
  by_cases nothing : wanted roster detectedName = ""
  · exact .inl nothing
  · refine .inr ?_
    intro s first t second named again
    obtain ⟨stu, found⟩ : ∃ stu, students.find? (namesExactly roster (wanted roster detectedName)) = some stu := by
      rw [← Option.isSome_iff_exists, List.find?_isSome]
      exact ⟨s, first, named⟩
    have rivals := (sole stu.id 1 [] (matchStudent_exactly nothing found)).2
    rw [bestMatches, if_pos (List.any_eq_true.mpr ⟨s, first, named⟩)] at rivals
    rw [rivals s (List.mem_filter.mpr ⟨first, named⟩), rivals t (List.mem_filter.mpr ⟨second, again⟩)]

end

/-- The name of a row is a student's alias or code. -/
def carries (externalCode : Nat → Option String) (name : String) (s : Student) : Bool :=
  s.nameOrAlias == name || (externalCode s.id).any (fun code => !code.isEmpty && code == name)

theorem mem_studentPairs_iff {externalCode : Nat → Option String} {roster : List Student} {name : String} {s : Student} :
    ((name, s) ∈ roster.map (fun s => (s.nameOrAlias, s)) ++
        roster.filterMap (fun s => (externalCode s.id).bind (fun code => if code.isEmpty then none else some (code, s)))) ↔
      s ∈ roster ∧ carries externalCode name s = true := by
  have coded : ∀ t : Student, ((externalCode t.id).bind (fun code => if code.isEmpty then none else some (code, t))) = some (name, s) ↔
      t = s ∧ (externalCode s.id).any (fun code => !code.isEmpty && code == name) = true := by
    intro t
    constructor
    · intro made
      obtain ⟨code, known, made⟩ := Option.bind_eq_some_iff.mp made
      split at made
      · cases made
      · rename_i nonempty
        cases made
        exact ⟨rfl, by simpa [known] using nonempty⟩
    · intro own
      obtain ⟨rfl, own⟩ := own
      cases known : externalCode t.id with
      | none =>
        rw [known] at own
        cases own
      | some code =>
        rw [known, Option.any_some, Bool.and_eq_true, beq_iff_eq] at own
        obtain ⟨nonempty, rfl⟩ := own
        simpa using nonempty
  rw [List.mem_append, List.mem_map, List.mem_filterMap]
  constructor
  · intro filed
    rcases filed with ⟨t, listed, same⟩ | ⟨t, listed, same⟩
    · cases same
      exact ⟨listed, by simp [carries]⟩
    · obtain ⟨rfl, own⟩ := (coded t).mp same
      exact ⟨listed, by simp [carries, own]⟩
  · intro own
    obtain ⟨listed, own⟩ := own
    rw [carries, Bool.or_eq_true, beq_iff_eq] at own
    rcases own with alias_ | code
    · exact .inl ⟨s, listed, by rw [alias_]⟩
    · exact .inr ⟨s, listed, (coded s).mpr ⟨rfl, code⟩⟩

theorem carries_of_studentIndex {externalCode : Nat → Option String} {roster : List Student} {name : String} {s : Student}
    (found : (studentIndex externalCode roster).get? name = some s) : s ∈ roster ∧ carries externalCode name s = true :=
  mem_studentPairs_iff.mp (Dict.mem_of_get?_ofList found)

theorem studentIndex_of_carries {externalCode : Nat → Option String} {roster : List Student} {name : String} {s : Student}
    (listed : s ∈ roster) (own : carries externalCode name s = true) : ∃ t, (studentIndex externalCode roster).get? name = some t := by
  have filed := mem_studentPairs_iff.mpr ⟨listed, own⟩
  rw [← Option.isSome_iff_exists]
  exact (Dict.get?_ofList_isSome_iff _ name).mpr ⟨(name, s), filed, rfl⟩

section
variable (w : Writing K) (externalCode : Nat → Option String)

/-- The row gives a name, and the student alone on the roster has it. -/
def SoleCarrier (roster : List Student) (nameCol : Nat) (row : List (Cell K)) (student : Student) : Prop :=
  ∃ name, rowName w nameCol row = .ok (some name) ∧ student ∈ roster ∧ carries externalCode name student = true ∧
    ∀ other ∈ roster, carries externalCode name other = true → other.id = student.id

/-- No row is given to a student who shares the name. -/
def RowsSole (e : Intake K) (heading : List (Cell K)) (rows : List (List (Cell K))) : Prop :=
  ∀ layout, layoutOf w externalCode e heading = .ok layout → ∀ row ∈ rows, ∀ student, rowStudent w layout row = .ok (some student) →
    SoleCarrier w externalCode e.roster (findNameColumn (heading.map (headerText w))) row student

/-- Every name in the sheet is that of one student at most, where the headings can be read. -/
def OneCarrier (e : Intake K) (heading : List (Cell K)) (rows : List (List (Cell K))) : Prop :=
  (∃ error, mapQuestionColumns w e (heading.map (headerText w)) = .error error) ∨
    ∀ row ∈ rows, ∀ name, rowName w (findNameColumn (heading.map (headerText w))) row = .ok (some name) →
      ∀ s ∈ e.roster, ∀ t ∈ e.roster, carries externalCode name s = true → carries externalCode name t = true → s.id = t.id

/-- Some row stops the import of the sheet. -/
def Interrupted (e : Intake K) (heading : List (Cell K)) (rows : List (List (Cell K))) : Prop :=
  ∃ layout, layoutOf w externalCode e heading = .ok layout ∧ Halts w layout (HasResponse e) rows

/-- A new response belongs to a student a row of the sheet is given to. -/
def GivenByRow (e e' : Intake K) (heading : List (Cell K)) (rows : List (List (Cell K))) : Prop :=
  ∀ r ∈ e'.responses.rows, e.responses.nextId ≤ r.id → ∃ layout, layoutOf w externalCode e heading = .ok layout ∧
    ∃ row ∈ rows, ∃ student, rowStudent w layout row = .ok (some student) ∧ r.studentId = student.id

variable {w externalCode}

theorem layoutOf_ok {e : Intake K} {heading : List (Cell K)} {layout : Layout K}
    (laid : layoutOf w externalCode e heading = .ok layout) :
    layout.nameCol = findNameColumn (heading.map (headerText w)) ∧ layout.students = studentIndex externalCode e.roster := by
  unfold layoutOf at laid
  dsimp only at laid
  split at laid
  · cases laid
  · cases laid
    exact ⟨rfl, rfl⟩

variable (externalCode) in
theorem layoutOf_mapped {e : Intake K} {heading : List (Cell K)} {columns : Columns K × List String}
    (mapped : mapQuestionColumns w e (heading.map (headerText w)) = .ok columns) :
    ∃ layout, layoutOf w externalCode e heading = .ok layout := by
  unfold layoutOf
  dsimp only
  rw [mapped]
  exact ⟨_, rfl⟩

theorem rowsSole_iff {e : Intake K} {heading : List (Cell K)} {rows : List (List (Cell K))} :
    RowsSole w externalCode e heading rows ↔ OneCarrier w externalCode e heading rows := by
  constructor
  · intro sole
    cases mapped : mapQuestionColumns w e (heading.map (headerText w)) with
    | error error => exact .inl ⟨error, mapped⟩
    | ok columns =>
      refine .inr ?_
      intro row member name given s first t second named again
      obtain ⟨layout, laid⟩ := layoutOf_mapped externalCode mapped
      obtain ⟨column, index⟩ := layoutOf_ok laid
      obtain ⟨student, found⟩ := studentIndex_of_carries first named
      have assigned : rowStudent w layout row = .ok (some student) := by
        simp only [rowStudent, column, given, index, found]
      obtain ⟨name', given', _, _, alone⟩ := sole layout laid row member student assigned
      rw [given, Except.ok.injEq, Option.some.injEq] at given'
      subst given'
      rw [alone s first named, alone t second again]
  · intro one layout laid row member student assigned
    obtain ⟨column, index⟩ := layoutOf_ok laid
    obtain ⟨name, given, found⟩ := rowStudent_some assigned
    rw [column] at given
    rw [index] at found
    obtain ⟨listed, own⟩ := carries_of_studentIndex found
    refine ⟨name, given, listed, own, ?_⟩
    intro other among also
    rcases one with unread | together
    · obtain ⟨error, unread⟩ := unread
      unfold layoutOf at laid
      dsimp only at laid
      rw [unread] at laid
      cases laid
    · exact together row member name given other among student listed also own

variable [Field K] [LinearOrder K] [FloorRing K]

variable (w externalCode) in
/-- An import that goes through gives no row to a student who shares the name. -/
def ImportSole (e : Intake K) (heading : List (Cell K)) (rows : List (List (Cell K))) : Prop :=
  ∀ after, importExcel w externalCode e (heading :: rows) = .ok after → RowsSole w externalCode e heading rows

theorem importSole_iff {e : Intake K} {heading : List (Cell K)} {rows : List (List (Cell K))} :
    ImportSole w externalCode e heading rows ↔
      Interrupted w externalCode e heading rows ∨ OneCarrier w externalCode e heading rows := by
  constructor
  · intro sole
    by_cases interrupted : Interrupted w externalCode e heading rows
    · exact .inl interrupted
    · refine .inr (rowsSole_iff.mp ?_)
      intro layout laid
      have whole : ¬ Halts w layout (HasResponse e) rows := fun halts => interrupted ⟨layout, laid, halts⟩
      obtain ⟨after, done⟩ := (importRows_ok_iff (e, { warnings := layout.headerWarnings }) 2).mpr whole
      refine sole after ?_ layout laid
      unfold importExcel
      simpa [laid] using done
  · rintro (⟨layout, laid, halts⟩ | one)
    · intro after done
      unfold importExcel at done
      simp only [laid] at done
      exact absurd halts ((importRows_ok_iff _ 2).mp ⟨after, done⟩)
    · exact fun _ _ => rowsSole_iff.mpr one

theorem uploadExcel_givenByRow (e : Intake K) (heading : List (Cell K)) (rows : List (List (Cell K))) :
    GivenByRow w externalCode e (uploadExcel w externalCode e (heading :: rows)) heading rows := by
  have start : ∀ r ∈ e.responses.rows, e.responses.nextId ≤ r.id → False :=
    fun r listed beyond => absurd (e.responses.issued r listed) (not_lt.mpr beyond)
  intro r listed beyond
  unfold uploadExcel at listed
  split at listed
  · exact (start r listed beyond).elim
  · rename_i after result done
    unfold importExcel at done
    dsimp only at done
    split at done
    · cases done
    · rename_i layout laid
      refine ⟨layout, laid, ?_⟩
      have invariant : ∀ r ∈ after.responses.rows, e.responses.nextId ≤ r.id →
          ∃ row ∈ rows, ∃ student, rowStudent w layout row = .ok (some student) ∧ r.studentId = student.id := by
        refine importRows_invariant (P := fun e' => ∀ r ∈ e'.responses.rows, e.responses.nextId ≤ r.id →
          ∃ row ∈ rows, ∃ student, rowStudent w layout row = .ok (some student) ∧ r.studentId = student.id) rows ?_ ?_ done
        · intro row member e' e'' outcome before s filed above
          cases outcome with
          | idle _ same => exact before s (same ▸ filed) above
          | noted _ _ _ _ _ _ outcome =>
            subst outcome
            obtain ⟨t, earlier, same⟩ := of_mem_modify_note filed
            rw [same.student]
            exact before t earlier (same.key ▸ above)
          | filed student named _ _ _ _ _ _ _ outcome =>
            subst outcome
            rcases List.mem_append.mp filed with old | new
            · exact before s old above
            · rw [List.mem_singleton.mp new]
              exact ⟨row, member, student, named, rfl⟩
        · exact fun s filed above => (start s filed above).elim
      exact invariant r listed beyond

variable (K) in
/-- Name matching never guesses as long as no two students of the roster have the name that is looked for. -/
theorem never_guesses_iff (roster : Roster) (students : List Student) (detectedName : Option String) (w : Writing K)
    (externalCode : Nat → Option String) (e : Intake K) (heading : List (Cell K)) (rows : List (List (Cell K))) :
    (SameInAnyOrder K roster students detectedName ↔ OneNamed roster students detectedName) ∧
      (SoleMatch K roster students detectedName ↔ OneNamed roster students detectedName) ∧
      (RowsSole w externalCode e heading rows ↔ OneCarrier w externalCode e heading rows) ∧
      (ImportSole w externalCode e heading rows ↔
        Interrupted w externalCode e heading rows ∨ OneCarrier w externalCode e heading rows) ∧
      GivenByRow w externalCode e (uploadExcel w externalCode e (heading :: rows)) heading rows :=
  ⟨⟨oneNamed_of_sameInAnyOrder, sameInAnyOrder_of_oneNamed⟩, ⟨oneNamed_of_soleMatch, soleMatch_of_oneNamed⟩, rowsSole_iff,
    importSole_iff, uploadExcel_givenByRow e heading rows⟩

end

/-- Two students whose names differ by a blank. -/
def namesakes : List Student := [⟨1, 1, "王 芳"⟩, ⟨2, 1, "王芳"⟩]

def namesakeRoster : Roster := ⟨id, fun _ => none⟩

/-- Two students with one alias. -/
def twinTest : Intake ℚ where
  examId := 1
  source := .other "考试"
  targeted := false
  roster := [⟨1, 1, "王芳"⟩, ⟨2, 1, "王芳"⟩]
  questions := .ofList [⟨1, 1, .choice, .fin 5, [true]⟩]
  responses := .ofList []
  answers := .ofList []

theorem matching_counterexample :
    ¬ SameInAnyOrder ℚ namesakeRoster namesakes (some "王芳") ∧ ¬ SoleMatch ℚ namesakeRoster namesakes (some "王芳") ∧
      ¬ RowsSole plainWriting (fun _ => none) twinTest [.text "姓名", .text "Q1"] [[.text "王芳", .int 5]] ∧
      ¬ ImportSole plainWriting (fun _ => none) twinTest [.text "姓名", .text "Q1"] [[.text "王芳", .int 5]] ∧
      (uploadExcel plainWriting (fun _ => none) twinTest [[.text "姓名", .text "Q1"], [.text "王芳", .int 5]]).responses.rows.map
        (fun r => r.studentId) = [2] := by
  have shared : ¬ RowsSole plainWriting (fun _ => none) twinTest [.text "姓名", .text "Q1"] [[.text "王芳", .int 5]] := by
    intro sole
    rw [rowsSole_iff] at sole
    rcases sole with unread | together
    · obtain ⟨error, unread⟩ := unread
      have read : (mapQuestionColumns plainWriting twinTest
          ([.text "姓名", .text "Q1"].map (headerText plainWriting))).toOption.isSome = true := by decide +kernel
      rw [unread] at read
      cases read
    · have same := together [.text "王芳", .int 5] (by simp) "王芳" (by decide +kernel) ⟨1, 1, "王芳"⟩ (by decide +kernel)
        ⟨2, 1, "王芳"⟩ (by decide +kernel) (by decide +kernel) (by decide +kernel)
      revert same
      decide +kernel
  refine ⟨?_, ?_, shared, ?_, by decide +kernel⟩
  · intro free
    have turned := free [⟨2, 1, "王芳"⟩, ⟨1, 1, "王 芳"⟩] (.swap _ _ _)
    revert turned
    decide +kernel
  · intro sole
    have rivals := (sole 1 1 [] (by decide +kernel)).2
    revert rivals
    decide +kernel
  · intro sole
    cases done : importExcel plainWriting (fun _ => none) twinTest [[.text "姓名", .text "Q1"], [.text "王芳", .int 5]] with
    | error error =>
      have through : (importExcel plainWriting (fun _ => none) twinTest
          [[.text "姓名", .text "Q1"], [.text "王芳", .int 5]]).toOption.isSome = true := by decide +kernel
      rw [done] at through
      cases through
    | ok after => exact shared (sole after done)

end KnowledgeGap.Ingestion
