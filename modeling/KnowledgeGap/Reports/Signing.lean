import KnowledgeGap.Protocol.Runs
import KnowledgeGap.Reports.Regeneration

namespace KnowledgeGap.Reports

open Relational Protocol Auth

variable {K : Type}

/-- The calls that write reports, and those that present one as the document on a pupil or a class. -/
inductive DeskCall (K : Type)
  | draft (ctx : AccessContext) (req : DraftRequest) (now : DateTime)
  | transition (reportId : Nat) (action : SigningAction) (note : Option String) (now : DateTime)
  | examReports (write : Writer K) (examId : Nat) (now : DateTime)
  | diagnosis (write : Writer K) (g : KpGraph K) (studentId : Nat) (examId : Option Nat) (asOf : Option Date) (today : Date)
      (now : DateTime)
  | sheet (classId : Nat)

section
variable [Field K] [LinearOrder K] [FloorRing K] (env : Setting K)

/-- What a call shows, and the office after it. A call that fails is rolled back. -/
def handle (s : Office K) : DeskCall K → Option FiledReport × Office K
  | .draft ctx req now => (none, (Session.savepoint (createReportDraft env ctx req now) s).2)
  | .transition reportId action note now => (none, (Session.savepoint (transition env reportId action note now) s).2)
  | .examReports write examId now => (none, (generateExamReports env write examId now s).2)
  | .diagnosis write g studentId examId asOf today now =>
    match Session.savepoint (getOrGenerateDiagnosis env write g studentId examId asOf today now) s with
    | (.ok (report, _), after) => (some report, after)
    | (.error _, after) => (none, after)
  | .sheet classId => (latestAdvice s classId, s)

def serve (s : Office K) (call : DeskCall K) : Office K := (handle env s call).2

/-- Each unsigned row has a signed one before it. -/
def SignedFirst {α : Type} (le : α → α → Bool) (status : α → SigningStatus) (rows : List α) : Prop :=
  ∀ r ∈ rows, status r ≠ .issued → ∃ q ∈ rows, status q = .issued ∧ le q r = true

/-- The rows a call selects from are in such an order. -/
def ReadsSigned (s : Office K) : DeskCall K → Prop
  | .diagnosis _ _ studentId (some examId) _ _ _ => SignedFirst idOrder FiledReport.status (storedDiagnoses s studentId examId)
  | .diagnosis _ _ studentId none none _ _ => SignedFirst newestExam (fun row => row.2.status) (datedDiagnoses s studentId)
  | .sheet classId =>
    if (submittedExams s classId).isEmpty then SignedFirst newestReport FiledReport.status (adviceOf s classId)
    else SignedFirst newestExam (fun row => row.2.status) (joinExams s (adviceOf s classId))
  | _ => True

end

theorem first_signed_iff {α : Type} {le : α → α → Bool} (cmp : Comparison le) {status : α → SigningStatus} {rows : List α}
    (antisymm : ∀ a ∈ rows, ∀ b ∈ rows, le a b = true → le b a = true → a = b) :
    (∀ x, first le rows = some x → status x = .issued) ↔ SignedFirst le status rows := by
  constructor
  · intro signed r stored unsigned
    cases found : first le rows with
    | none =>
      rw [first_eq_none_iff.mp found] at stored
      cases stored
    | some x => exact ⟨x, first_mem found, signed x found, first_le cmp found r stored⟩
  · intro ranked x found
    by_contra unsigned
    obtain ⟨q, stored, signed, before⟩ := ranked x (first_mem found) unsigned
    have same := antisymm q stored x (first_mem found) before (first_le cmp found q stored)
    rw [same] at signed
    exact unsigned signed

theorem newestExam_comparison : Comparison newestExam :=
  Comparison.lexicographic (Comparison.ofKey (fun a : Date × FiledReport => OrderDual.toDual a.1))
    (Comparison.ofKey (fun a : Date × FiledReport => OrderDual.toDual a.2.id))

theorem newestReport_comparison : Comparison newestReport :=
  Comparison.lexicographic (Comparison.ofKey (fun a : FiledReport => OrderDual.toDual a.generatedAt))
    (Comparison.ofKey (fun a : FiledReport => OrderDual.toDual a.id))

theorem newestExam_tie {a b : Date × FiledReport} (forward : newestExam a b = true) (backward : newestExam b a = true) :
    a.1 = b.1 ∧ a.2.id = b.2.id := by
  have tie := lexicographic_tie forward backward
  simp only [decide_eq_true_eq] at tie
  exact ⟨le_antisymm tie.1.2 tie.1.1, le_antisymm tie.2.2 tie.2.1⟩

theorem newestReport_tie {a b : FiledReport} (forward : newestReport a b = true) (backward : newestReport b a = true) :
    a.id = b.id := by
  have tie := lexicographic_tie forward backward
  simp only [decide_eq_true_eq] at tie
  omega

theorem mem_joinExams {s : Office K} {rows : List FiledReport} {row : Date × FiledReport} (member : row ∈ joinExams s rows) :
    row.2 ∈ rows := by
  obtain ⟨r, stored, joined⟩ := List.mem_filterMap.mp member
  obtain ⟨exam, _, same⟩ := Option.map_eq_some_iff.mp joined
  rw [← same]
  exact stored

theorem diagnosis_first_iff {s : Office K} {studentId examId : Nat} :
    (∀ x, first idOrder (storedDiagnoses s studentId examId) = some x → x.status = .issued) ↔
      SignedFirst idOrder FiledReport.status (storedDiagnoses s studentId examId) := by
  apply first_signed_iff (Comparison.ofKey FiledReport.id)
  intro a left b right forward backward
  apply s.reports.key_inj (List.mem_of_mem_filter left) (List.mem_of_mem_filter right)
  exact Nat.le_antisymm (of_decide_eq_true forward) (of_decide_eq_true backward)

theorem joined_first_iff {s : Office K} {p : FiledReport → Bool} :
    (∀ x, (first newestExam (joinExams s (s.reports.select p))).map Prod.snd = some x → x.status = .issued) ↔
      SignedFirst newestExam (fun row => row.2.status) (joinExams s (s.reports.select p)) := by
  have distinct : ∀ a ∈ joinExams s (s.reports.select p), ∀ b ∈ joinExams s (s.reports.select p),
      newestExam a b = true → newestExam b a = true → a = b := by
    intro a left b right forward backward
    have tie := newestExam_tie forward backward
    exact Prod.ext tie.1 (s.reports.key_inj (List.mem_of_mem_filter (mem_joinExams left))
      (List.mem_of_mem_filter (mem_joinExams right)) tie.2)
  rw [← first_signed_iff newestExam_comparison distinct]
  simp only [Option.map_eq_some_iff, forall_exists_index, and_imp]
  constructor
  · intro signed row found
    exact signed row.2 row found rfl
  · intro signed x row found same
    rw [← same]
    exact signed row found

theorem advice_first_iff {s : Office K} {classId : Nat} :
    (∀ x, first newestReport (adviceOf s classId) = some x → x.status = .issued) ↔
      SignedFirst newestReport FiledReport.status (adviceOf s classId) := by
  apply first_signed_iff newestReport_comparison
  intro a left b right forward backward
  exact s.reports.key_inj (List.mem_of_mem_filter left) (List.mem_of_mem_filter right) (newestReport_tie forward backward)

theorem generateForStudent_signed {type : ReportType} {write : Writer K} {g : KpGraph K} {studentId : Nat} {asOf : DateTime}
    {batch : Option (Batch K)} {examId : Option Nat} {now : DateTime} {s t : Office K} {report : FiledReport}
    (through : generateForStudent type write g studentId asOf batch examId now s = (.ok report, t)) : report.status = .issued := by
  cases known : s.db.students.get? studentId with
  | none =>
    unfold generateForStudent at through
    rw [Session.current_bind, known] at through
    cases through
  | some student =>
    rw [generateForStudent_eq write g type now asOf batch examId known] at through
    obtain ⟨w, _, _, filed⟩ := Session.bind_ok through
    cases filed
    rfl

/-- The report on file that a call for a diagnosis returns as it is. -/
def onFile (s : Office K) (studentId : Nat) : Option Nat → Option Date → Option FiledReport
  | some examId, _ => first idOrder (storedDiagnoses s studentId examId)
  | none, some _ => none
  | none, none => latestStoredDiagnosis s studentId

section
variable [Field K] [LinearOrder K] [FloorRing K] (env : Setting K) {write : Writer K} {g : KpGraph K} {studentId : Nat}
  {examId : Option Nat} {asOf : Option Date} {today : Date} {now : DateTime} {s t : Office K} {report : FiledReport} {new : Bool}

/-- What is generated for the call is signed. -/
theorem diagnose_signed {cutoff : DateTime}
    (through : diagnose env write g studentId examId cutoff now s = (.ok (report, new), t)) : report.status = .issued := by
  obtain ⟨filed, _, generated, through⟩ := Session.bind_ok through
  obtain ⟨_, _, _, returned⟩ := Session.bind_ok through
  cases returned
  exact generateForStudent_signed generated

theorem getOrGenerateDiagnosis_stored (found : onFile s studentId examId asOf = some report) :
    getOrGenerateDiagnosis env write g studentId examId asOf today now s = (.ok (report, false), s) := by
  unfold getOrGenerateDiagnosis
  rw [Session.current_bind]
  cases examId with
  | some examId =>
    change first idOrder (storedDiagnoses s studentId examId) = some report at found
    dsimp only
    rw [found]
    rfl
  | none =>
    cases asOf with
    | some date => cases found
    | none =>
      change latestStoredDiagnosis s studentId = some report at found
      dsimp only
      rw [found]
      rfl

theorem getOrGenerateDiagnosis_new (missing : onFile s studentId examId asOf = none)
    (through : getOrGenerateDiagnosis env write g studentId examId asOf today now s = (.ok (report, new), t)) :
    report.status = .issued := by
  unfold getOrGenerateDiagnosis at through
  rw [Session.current_bind] at through
  cases examId with
  | some examId =>
    change first idOrder (storedDiagnoses s studentId examId) = none at missing
    dsimp only at through
    rw [missing] at through
    cases exam : s.db.templates.get? examId with
    | none =>
      rw [exam] at through
      cases through
    | some template =>
      rw [exam] at through
      exact diagnose_signed env through
  | none =>
    cases asOf with
    | some date => exact diagnose_signed env through
    | none =>
      change latestStoredDiagnosis s studentId = none at missing
      dsimp only at through
      rw [missing] at through
      exact diagnose_signed env through

theorem diagnosis_shown_iff : (handle env s (.diagnosis write g studentId examId asOf today now)).1 = some report ↔
    ∃ new t, getOrGenerateDiagnosis env write g studentId examId asOf today now s = (.ok (report, new), t) := by
  cases outcome : getOrGenerateDiagnosis env write g studentId examId asOf today now s with
  | mk result t =>
    cases result with
    | ok pair =>
      rw [handle, Session.savepoint_of_ok outcome]
      constructor
      · intro shown
        exact ⟨pair.2, t, by rw [← Option.some.inj shown]⟩
      · intro found
        obtain ⟨new, after, same⟩ := found
        cases same
        rfl
    | error e =>
      rw [handle, Session.savepoint_of_error outcome]
      exact ⟨nofun, fun found => nomatch found.choose_spec.choose_spec⟩

theorem diagnosis_signed_iff :
    (∀ report, (handle env s (.diagnosis write g studentId examId asOf today now)).1 = some report → report.status = .issued) ↔
      ∀ report, onFile s studentId examId asOf = some report → report.status = .issued := by
  constructor
  · intro signed report found
    exact signed report ((diagnosis_shown_iff env).mpr ⟨false, s, getOrGenerateDiagnosis_stored env found⟩)
  · intro signed report shown
    obtain ⟨new, t, through⟩ := (diagnosis_shown_iff env).mp shown
    cases found : onFile s studentId examId asOf with
    | none => exact getOrGenerateDiagnosis_new env found through
    | some stored =>
      rw [getOrGenerateDiagnosis_stored env found] at through
      cases through
      exact signed report found

theorem silent_iff {shown : Option FiledReport} (silent : shown = none) :
    (∀ report, shown = some report → report.status = .issued) ↔ True := by
  refine ⟨fun _ => trivial, ?_⟩
  intro _ report some_
  rw [silent] at some_
  cases some_

/-- One call shows nothing unsigned exactly when the rows it selects from are in order. -/
theorem shown_signed_iff (s : Office K) (call : DeskCall K) :
    (∀ report, (handle env s call).1 = some report → report.status = .issued) ↔ ReadsSigned s call := by
  cases call with
  | draft ctx req now => exact silent_iff rfl
  | transition reportId action note now => exact silent_iff rfl
  | examReports write examId now => exact silent_iff rfl
  | sheet classId =>
    change (∀ report, latestAdvice s classId = some report → report.status = .issued) ↔ ite _ _ _
    unfold latestAdvice
    split
    · exact advice_first_iff
    · exact joined_first_iff
  | diagnosis write g studentId examId asOf today now =>
    rw [diagnosis_signed_iff]
    cases examId with
    | some examId => exact diagnosis_first_iff
    | none =>
      cases asOf with
      | some date => exact silent_iff rfl
      | none => exact joined_first_iff

/-- Along a run, no draft and no archived report is presented as the document, exactly when before each unsigned report
    that competes for the place there is a signed one. -/
theorem run_signed_iff (env : Setting K) (s : Office K) (calls : List (DeskCall K)) :
    (∀ done call rest, calls = done ++ call :: rest → ∀ report, (handle env (run (serve env) s done) call).1 = some report →
      report.status = .issued) ↔
    Along (serve env) ReadsSigned s calls := by
  rw [along_iff_every]
  constructor
  · intro signed done call rest split
    exact (shown_signed_iff env _ call).mp (signed done call rest split)
  · intro ranked done call rest split
    exact (shown_signed_iff env _ call).mpr (ranked done call rest split)

end

/-! ### Whose reports bear the agent's mark -/

theorem transition_ok {env : Setting K} {s : Office K} {reportId : Nat} {action : SigningAction} {note : Option String} {now : DateTime} {receipt : TransitionReceipt}
    {t : Office K} (through : transition env reportId action note now s = (.ok receipt, t)) : ∃ report target,
      s.reports.get? reportId = some report ∧ receipt.reportId = report.id ∧
        t = s.withReports (s.reports.modify reportId (signed target note now) (key_signed target note now)) := by
  obtain ⟨_, _, here, through⟩ := Session.bind_ok through
  cases here
  obtain ⟨report, _, checked, through⟩ := Session.bind_ok through
  obtain ⟨checked, here⟩ := Session.lift_ok checked
  cases here
  obtain ⟨target, _, allowed, through⟩ := Session.bind_ok through
  obtain ⟨_, here⟩ := Session.lift_ok allowed
  cases here
  obtain ⟨_, _, changed, through⟩ := Session.bind_ok through
  cases changed
  cases through
  refine ⟨report, target, ?_, rfl, rfl⟩
  unfold getReportChecked at checked
  split at checked
  · cases checked
  · rename_i found
    cases checked
    exact found

/-- What a signing leaves of the rows. -/
theorem mem_signed {s : Office K} {reportId : Nat} {target : SigningStatus} {note : Option String} {now : DateTime} {r : FiledReport}
    (stored : r ∈ (s.reports.modify reportId (signed target note now) (key_signed target note now)).rows) :
    ∃ q ∈ s.reports.rows, r.id = q.id ∧ r.examId = q.examId ∧ r.byAgent = q.byAgent := by
  rw [Table.rows_modify] at stored
  obtain ⟨q, before, same⟩ := List.mem_map.mp stored
  refine ⟨q, before, ?_⟩
  rw [← same]
  split <;> exact ⟨rfl, rfl, rfl⟩

theorem createReportDraft_ok {env : Setting K} {ctx : AccessContext} {req : DraftRequest} {now : DateTime} {s t : Office K}
    {receipt : DraftReceipt} (through : createReportDraft env ctx req now s = (.ok receipt, t)) : ∃ draft : FiledReport,
      t.reports.rows = s.reports.rows ++ [draft] ∧ receipt.reportId = draft.id ∧ draft.byAgent = true ∧ draft.status = .draft := by
  obtain ⟨md, _, written, through⟩ := Session.bind_ok through
  rw [(Session.lift_ok written).2] at through
  obtain ⟨_, _, here, through⟩ := Session.bind_ok through
  cases here
  obtain ⟨clazz, _, found, through⟩ := Session.bind_ok through
  rw [(Session.lift_ok found).2] at through
  obtain ⟨target, _, aimed, through⟩ := Session.bind_ok through
  rw [(Session.lift_ok aimed).2] at through
  obtain ⟨_, _, guarded, through⟩ := Session.bind_ok through
  rw [(Session.lift_ok guarded).2] at through
  obtain ⟨_, _, examined, through⟩ := Session.bind_ok through
  rw [(Session.lift_ok examined).2] at through
  obtain ⟨draft, u, added, returned⟩ := Session.bind_ok through
  cases added
  cases returned
  exact ⟨_, rfl, rfl, rfl, rfl⟩

section
variable [Field K] [LinearOrder K] [FloorRing K] (env : Setting K)

theorem diagnose_grown (write : Writer K) (g : KpGraph K) (studentId : Nat) (examId : Option Nat) (cutoff now : DateTime) :
    Session.Keeps Grown (diagnose env write g studentId examId cutoff now) := by
  apply Session.Keeps.bind Grown.trans (generateForStudent_grown ..)
  intro _
  apply Session.Keeps.bind Grown.trans
  · apply Session.Keeps.bind Grown.trans (Session.Keeps.current Grown.refl)
    intro s
    split
    · exact Session.Keeps.fail Grown.refl _
    · exact withAttributions_grown _
  · intro _
    exact Session.Keeps.pure Grown.refl _

theorem getOrGenerateDiagnosis_grown (write : Writer K) (g : KpGraph K) (studentId : Nat) (examId : Option Nat) (asOf : Option Date)
    (today : Date) (now : DateTime) :
    Session.Keeps Grown (getOrGenerateDiagnosis env write g studentId examId asOf today now) := by
  apply Session.Keeps.bind Grown.trans (Session.Keeps.current Grown.refl)
  intro s
  cases examId with
  | some examId =>
    dsimp only
    split
    · exact Session.Keeps.pure Grown.refl _
    · split
      · exact Session.Keeps.fail Grown.refl _
      · exact diagnose_grown ..
  | none =>
    cases asOf with
    | some date => exact diagnose_grown ..
    | none =>
      dsimp only
      split
      · exact Session.Keeps.pure Grown.refl _
      · exact diagnose_grown ..

theorem serve_diagnosis (s : Office K) (write : Writer K) (g : KpGraph K) (studentId : Nat) (examId : Option Nat)
    (asOf : Option Date) (today : Date) (now : DateTime) :
    serve env s (.diagnosis write g studentId examId asOf today now) =
      (Session.savepoint (getOrGenerateDiagnosis env write g studentId examId asOf today now) s).2 := by
  cases outcome : getOrGenerateDiagnosis env write g studentId examId asOf today now s with
  | mk result t =>
    cases result with
    | ok pair => rw [serve, handle, Session.savepoint_of_ok outcome]
    | error e => rw [serve, handle, Session.savepoint_of_error outcome]

/-- A report with the mark is an old one, or the call drafted it. -/
theorem serve_marked (s : Office K) (call : DeskCall K) {r : FiledReport} (stored : r ∈ (serve env s call).reports.rows)
    (drafted : r.byAgent = true) :
    (∃ q ∈ s.reports.rows, q.id = r.id ∧ q.byAgent = true) ∨
      ∃ ctx req now receipt t, call = .draft ctx req now ∧ createReportDraft env ctx req now s = (.ok receipt, t) ∧
        receipt.reportId = r.id := by
  cases call with
  | draft ctx req now =>
    cases outcome : createReportDraft env ctx req now s with
    | mk result t =>
      change r ∈ (Session.savepoint (createReportDraft env ctx req now) s).2.reports.rows at stored
      cases result with
      | error e =>
        rw [Session.savepoint_of_error outcome] at stored
        exact .inl ⟨r, stored, rfl, drafted⟩
      | ok receipt =>
        rw [Session.savepoint_of_ok outcome] at stored
        obtain ⟨draft, rows, named, _⟩ := createReportDraft_ok outcome
        rw [rows] at stored
        rcases List.mem_append.mp stored with early | late
        · exact .inl ⟨r, early, rfl, drafted⟩
        · exact .inr ⟨ctx, req, now, receipt, t, rfl, outcome, by rw [named, List.mem_singleton.mp late]⟩
  | transition reportId action note now =>
    cases outcome : transition env reportId action note now s with
    | mk result t =>
      change r ∈ (Session.savepoint (transition env reportId action note now) s).2.reports.rows at stored
      cases result with
      | error e =>
        rw [Session.savepoint_of_error outcome] at stored
        exact .inl ⟨r, stored, rfl, drafted⟩
      | ok receipt =>
        obtain ⟨report, target, _, _, after⟩ := transition_ok outcome
        rw [Session.savepoint_of_ok outcome, after] at stored
        obtain ⟨q, before, same, _, mark⟩ := mem_signed stored
        exact .inl ⟨q, before, same.symm, mark.symm.trans drafted⟩
  | examReports write examId now =>
    refine .inl ⟨r, ?_, rfl, drafted⟩
    change r ∈ (generateExamReports env write examId now s).2.reports.rows at stored
    by_cases regenerates : Regenerates env write now s examId
    · exact (mem_purged.mp ((generateExamReports_grown env write now regenerates).marked stored drafted)).1
    · rw [generateExamReports_idle env write now regenerates] at stored
      exact stored
  | diagnosis write g studentId examId asOf today now =>
    refine .inl ⟨r, ?_, rfl, drafted⟩
    have grown := (getOrGenerateDiagnosis_grown env write g studentId examId asOf today now).savepoint Grown.refl
    apply (grown.inside s).marked ?_ drafted
    rw [serve_diagnosis] at stored
    exact stored
  | sheet classId => exact .inl ⟨r, stored, rfl, drafted⟩

/-- What bears the mark after a run that started without any was drafted in the run. -/
theorem marked_drafted (s : Office K) (calls : List (DeskCall K)) (clean : ∀ q ∈ s.reports.rows, q.byAgent = false)
    {r : FiledReport} (stored : r ∈ (run (serve env) s calls).reports.rows) (drafted : r.byAgent = true) :
    ∃ done ctx req now rest receipt t, calls = done ++ .draft ctx req now :: rest ∧
      createReportDraft env ctx req now (run (serve env) s done) = (.ok receipt, t) ∧ receipt.reportId = r.id := by
  induction calls using List.reverseRecOn generalizing r with
  | nil =>
    rw [clean r stored] at drafted
    cases drafted
  | append_singleton calls call ih =>
    rw [run_append] at stored
    rcases serve_marked env (run (serve env) s calls) call stored drafted with old | new
    · obtain ⟨q, before, same, mark⟩ := old
      obtain ⟨done, ctx, req, now, rest, receipt, t, split, through, named⟩ := ih before mark
      exact ⟨done, ctx, req, now, rest ++ [call], receipt, t, by rw [split, List.append_assoc]; rfl, through, named.trans same⟩
    · obtain ⟨ctx, req, now, receipt, t, here, through, named⟩ := new
      exact ⟨calls, ctx, req, now, [], receipt, t, by rw [here], through, named⟩

end

/-- The agent's draft on the pupil and the first exam. -/
def pupilDraft : DeskCall ℚ := .draft ⟨some admin⟩ ⟨.studentDiagnosis, none, some 1, some 1, "# 诊断"⟩ 5

def classDraft : DeskCall ℚ := .draft ⟨some admin⟩ ⟨.classImprovementAdvice, some 1, none, some 1, "# 改进"⟩ 6

def diagnosisOf (examId : Option Nat) : DeskCall ℚ := .diagnosis plainWriter (.discrete [] List.nodup_nil) 1 examId none 0 7

/-- A draft in the place of the diagnosis of an exam, the same draft after it was sent back, a draft over the diagnosis
    on file, and a draft as the advice of the class. -/
theorem drafts_shown :
    (handle securedSetting (run (serve securedSetting) newOffice [pupilDraft]) (diagnosisOf (some 1))).1.map FiledReport.status =
      some .draft ∧
    (handle securedSetting (run (serve securedSetting) newOffice
      [pupilDraft, .transition 1 .reject (some "证据不足") 8]) (diagnosisOf (some 1))).1.map FiledReport.status = some .archived ∧
    (handle securedSetting (run (serve securedSetting) newOffice [diagnosisOf (some 1), pupilDraft]) (diagnosisOf none)).1.map
      FiledReport.status = some .draft ∧
    (handle securedSetting (run (serve securedSetting) newOffice [classDraft]) (.sheet 1)).1.map FiledReport.status = some .draft := by
  decide +kernel

end KnowledgeGap.Reports
