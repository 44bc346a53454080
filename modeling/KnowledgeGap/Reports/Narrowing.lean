import KnowledgeGap.Auth.Agreement
import KnowledgeGap.Reports.Desk
import KnowledgeGap.Reports.Signing

namespace KnowledgeGap.Reports

open Relational Protocol Auth

variable {K : Type}

/-- The calls that answer with reports or with what is made of them. -/
inductive ReportCall
  | list (classId studentId examId : Option Nat) (offset limit : Int)
  | detail (reportId : Nat)
  | full (reportId : Nat)
  | issue (reportId : Nat) (note : Option String) (now : DateTime)
  | reject (reportId : Nat) (note : Option String) (now : DateTime)
  | diagnosis (studentId : Nat) (examId : Option Nat) (asOf : Option Date) (narrate : Option (String × Narrator)) (today : Date)
      (now : DateTime)
  | examSummary (classId : Nat) (examId : Option Nat) (now : DateTime)

inductive DeskAnswer
  | page (page : ReportPage)
  | view (view : ReportView)
  | receipt (receipt : TransitionReceipt)
  | sheet (sheet : DiagnosisView)
  | summary (summary : ExamSummary)

/-- The reports an answer tells something of. -/
def DeskAnswer.reportIds : DeskAnswer → List Nat
  | .page p => p.reports.map ReportItem.reportId
  | .view v => [v.reportId]
  | .receipt r => [r.reportId]
  | .sheet d => [d.reportId]
  | .summary x => [x.reportId]

/-- A request in its transaction. -/
def request {α : Type} (answer : α → DeskAnswer) (x : Endpoint K α) (s : Office K) : Except Refusal DeskAnswer × Office K :=
  match Session.savepoint x s with
  | (.ok a, t) => (.ok (answer a), t)
  | (.error e, t) => (.error e, t)

section
variable [Field K] [LinearOrder K] [FloorRing K] (env : Setting K) (ctx : AccessContext) (write : Writer K)

def serveReports (s : Office K) : ReportCall → Except Refusal DeskAnswer × Office K
  | .list classId studentId examId offset limit => ((listReports env ctx classId studentId examId offset limit s).map .page, s)
  | .detail reportId => ((reportDetail env ctx reportId s).map .view, s)
  | .full reportId => ((reportFull env ctx reportId s).map .view, s)
  | .issue reportId note now => request .receipt (doAction env ctx reportId .issue note now) s
  | .reject reportId note now => request .receipt (doAction env ctx reportId .reject note now) s
  | .diagnosis studentId examId asOf narrate today now =>
    request .sheet (diagnosis env ctx write studentId examId asOf narrate today now) s
  | .examSummary classId examId now =>
    request .summary (Session.mapError toolRefusal (getExamSummary env ctx write classId examId now)) s

/-- Diagnoses and summaries are asked for the exam; the other calls take any arguments. -/
def Concerns (exam : Exam) : ReportCall → Prop
  | .diagnosis _ examId _ _ _ _ => examId = some exam.id
  | .examSummary classId examId _ => classId = exam.classId ∧ examId = some exam.id
  | _ => True

def FiledReport.ofExam (examId : Nat) (r : FiledReport) : Bool := r.examId == some examId

/-- A call tells something of a report of the exam, or changes one. -/
def Touches (s : Office K) (call : ReportCall) (examId : Nat) : Prop :=
  (∃ a, (serveReports env ctx write s call).1 = .ok a ∧
    ∃ r ∈ (serveReports env ctx write s call).2.reports.rows, r.id ∈ a.reportIds ∧ r.examId = some examId) ∨
  (serveReports env ctx write s call).2.reports.select (FiledReport.ofExam examId) ≠ s.reports.select (FiledReport.ofExam examId)

/-- The class check lets the caller through. -/
def Opens (s : Office K) (classId : Nat) : Prop := guardClass env ctx s classId = .ok ()

/-- No report of the exam is where the class checks let the caller look, and none can be had on demand. -/
structure OutOfReach (s : Office K) (exam : Exam) : Prop where
  listed : ∀ r ∈ s.reports.rows, r.examId = some exam.id → ∀ classId, r.classId = some classId → ¬ Opens env ctx s classId
  opened : ∀ r ∈ s.reports.rows, r.examId = some exam.id → guardReport env ctx s r ≠ .ok ()
  diagnosed : ∀ student ∈ s.db.students.rows, Opens env ctx s student.classId → ∀ kb, classKb env ctx s student.classId = .ok kb →
    (write s.db (KpGraph.load s.db kb.id) .studentDiagnosis (some student.id) (some exam.id) (dayEnd exam.examDate) none).isOk = false
  summarized : ∀ kb, resolveKb env ctx s exam.classId = .ok kb → exam.source = .diagnosticTask ∨
    storedQuality s exam.id = [] ∧
      (write s.db (KpGraph.load s.db kb.id) .qualityAnalysis none (some exam.id) (dayEnd exam.examDate) none).isOk = false

end

/-- A teacher of one subject in the class of an exam in another. -/
structure BoundAway (env : Setting K) (s : Office K) (teacher : Account) (exam : Exam) : Prop where
  plain : teacher.admin = false
  bound : ∃ g ∈ s.access.grantsOf teacher.id exam.classId, g.subject.isSome
  led : ∀ clazz, s.access.classes.get? exam.classId = some clazz → clazz.ledBy teacher.id = false
  denied : ∃ e, Auth.assertExamAccess s.access env.deployment.securityMode ⟨some teacher⟩ exam = .error e

section
variable {env : Setting K} {ctx : AccessContext} {s : Office K} {classId : Nat}

theorem opens_iff : Opens env ctx s classId ↔
    ∃ clazz, Auth.assertClassAccess s.access env.deployment.securityMode ctx classId = .ok clazz := by
  unfold Opens guardClass
  cases Auth.assertClassAccess s.access env.deployment.securityMode ctx classId with
  | ok clazz => exact ⟨fun _ => ⟨clazz, rfl⟩, fun _ => rfl⟩
  | error e => cases e <;> exact ⟨nofun, nofun⟩

theorem mcpGuard_iff : mcpGuard env ctx s classId = .ok () ↔ Opens env ctx s classId := by
  rw [opens_iff]
  unfold mcpGuard
  cases Auth.assertClassAccess s.access env.deployment.securityMode ctx classId with
  | ok clazz => exact ⟨fun _ => ⟨clazz, rfl⟩, fun _ => rfl⟩
  | error e => cases e <;> exact ⟨nofun, nofun⟩

/-- The bound grant is enough for the class. -/
theorem BoundAway.opens {teacher : Account} {exam : Exam} (away : BoundAway env s teacher exam) :
    Opens env ⟨some teacher⟩ s exam.classId := by
  obtain ⟨g, held, _⟩ := away.bound
  obtain ⟨stored, _, for_⟩ := mem_grantsOf.mp held
  obtain ⟨clazz, found⟩ := Option.isSome_iff_exists.mp (s.access.refers g stored)
  rw [for_] at found
  exact opens_iff.mpr ⟨clazz, Auth.assertClassAccess_ok.mpr ⟨found, .inr (.inr ⟨g, held⟩)⟩⟩

/-! ### The list -/

theorem listsClass_iff (env : Setting K) {teacher : Account} (plain : teacher.admin = false) {r : FiledReport} :
    listsClass ⟨some teacher⟩ s none r = true ↔ ∃ classId, r.classId = some classId ∧ Opens env ⟨some teacher⟩ s classId := by
  have inside : ∃ allowed, allowedClassIds s.access ⟨some teacher⟩ = some allowed ∧
      ∀ classId, classId ∈ allowed ↔ Opens env ⟨some teacher⟩ s classId := by
    simp only [opens_iff]
    exact allowedClassIds_of_teacher plain
  obtain ⟨allowed, listed, same⟩ := inside
  unfold listsClass
  dsimp only
  rw [listed]
  dsimp only
  cases filed : r.classId with
  | none => exact ⟨nofun, fun found => nomatch found.choose_spec.1⟩
  | some classId =>
    rw [Option.any_some, decide_eq_true_eq, same]
    constructor
    · intro opens
      exact ⟨classId, rfl, opens⟩
    · intro found
      obtain ⟨other, here, opens⟩ := found
      rw [Option.some.inj here]
      exact opens

theorem mem_pageOf {rows : List FiledReport} {offset limit : Int} {id : Nat}
    (shown : id ∈ (pageOf rows offset limit).reports.map ReportItem.reportId) : ∃ r ∈ rows, r.id = id := by
  obtain ⟨item, listed, same⟩ := List.mem_map.mp shown
  obtain ⟨r, taken, made⟩ := List.mem_map.mp listed
  refine ⟨r, mem_stableSort.mp (List.mem_of_mem_drop (List.mem_of_mem_take taken)), ?_⟩
  rw [← same, ← made]
  rfl

/-- Some page of one row shows a given row. -/
theorem exists_page {rows : List FiledReport} {r : FiledReport} (member : r ∈ rows) :
    ∃ n : Nat, r.id ∈ (pageOf rows n 1).reports.map ReportItem.reportId := by
  have sorted : r ∈ stableSort newestReport rows := mem_stableSort.mpr member
  obtain ⟨n, short, same⟩ := List.getElem_of_mem sorted
  refine ⟨n, List.mem_map.mpr ⟨reportItem r, List.mem_map.mpr ⟨r, ?_, rfl⟩, rfl⟩⟩
  rw [Int.toNat_natCast, List.drop_eq_getElem_cons short, same]
  exact List.mem_cons_self

/-! ### One report -/

theorem openReport_iff {missing : String} {reportId : Nat} {r : FiledReport} :
    openReport env ctx missing reportId s = .ok r ↔ s.reports.get? reportId = some r ∧ guardReport env ctx s r = .ok () := by
  unfold openReport
  cases found : s.reports.get? reportId with
  | none => exact ⟨nofun, fun both => nomatch both.1⟩
  | some stored =>
    dsimp only
    cases guarded : guardReport env ctx s stored with
    | ok _ =>
      constructor
      · intro opened
        cases opened
        exact ⟨rfl, guarded⟩
      · intro both
        cases both.1
        rfl
    | error e =>
      refine ⟨nofun, ?_⟩
      intro both
      cases both.1
      rw [guarded] at both
      cases both.2

theorem signed_apart {reportId examId : Nat} {target : SigningStatus} {note : Option String} {now : DateTime} {report : FiledReport}
    (found : s.reports.get? reportId = some report) (apart : report.examId ≠ some examId) :
    (s.reports.modify reportId (signed target note now) (key_signed target note now)).select (FiledReport.ofExam examId) =
      s.reports.select (FiledReport.ofExam examId) := by
  rw [Table.select, Table.rows_modify]
  apply filter_map_of_fixed
  · intro r _
    split <;> rfl
  · intro r stored ofExam
    refine if_neg ?_
    intro here
    have same : r = report := by
      apply s.reports.key_inj stored (Table.get?_mem found)
      rw [beq_iff_eq.mp here, Table.get?_key found]
    rw [same] at ofExam
    exact apart (beq_iff_eq.mp ofExam)

end

section
variable [Field K] [LinearOrder K] [FloorRing K] {env : Setting K} {ctx : AccessContext} {write : Writer K} {s : Office K} {exam : Exam}

/-- What a call that changes nothing tells of is on file. -/
theorem not_touches {call : ReportCall} {examId : Nat}
    (same : (serveReports env ctx write s call).2.reports.select (FiledReport.ofExam examId) =
      s.reports.select (FiledReport.ofExam examId))
    (apart : ∀ a, (serveReports env ctx write s call).1 = .ok a →
      ∀ r ∈ (serveReports env ctx write s call).2.reports.rows, r.id ∈ a.reportIds → r.examId ≠ some examId) :
    ¬ Touches env ctx write s call examId := by
  intro touches
  rcases touches with told | changed
  · obtain ⟨a, answered, r, stored, named, ofExam⟩ := told
    exact apart a answered r stored named ofExam
  · exact changed same

omit [Field K] [LinearOrder K] [FloorRing K] in
theorem request_of_ok {α : Type} {answer : α → DeskAnswer} {x : Endpoint K α} {t : Office K} {a : α} (through : x s = (.ok a, t)) :
    request answer x s = (.ok (answer a), t) := by
  rw [request, Session.savepoint_of_ok through]

omit [Field K] [LinearOrder K] [FloorRing K] in
theorem request_of_error {α : Type} {answer : α → DeskAnswer} {x : Endpoint K α} {t : Office K} {e : Refusal}
    (failed : x s = (.error e, t)) : request answer x s = (.error e, s) := by
  rw [request, Session.savepoint_of_error failed]

theorem list_apart {teacher : Account} (plain : teacher.admin = false) (out : OutOfReach env ⟨some teacher⟩ write s exam)
    {classId studentId examId : Option Nat} {offset limit : Int} :
    ¬ Touches env ⟨some teacher⟩ write s (.list classId studentId examId offset limit) exam.id := by
  apply not_touches rfl
  intro a answered r stored named ofExam
  obtain ⟨page, listed, made⟩ := map_ok answered
  rw [← made] at named
  unfold listReports at listed
  split at listed
  · cases listed
  · split at listed
    · cases listed
    · split at listed
      · cases listed
        cases named
      · obtain ⟨_, guarded, listed⟩ := bind_ok listed
        obtain ⟨_, _, listed⟩ := bind_ok listed
        cases listed
        obtain ⟨q, selected, same⟩ := mem_pageOf named
        obtain ⟨before, passes⟩ := List.mem_filter.mp selected
        have here : q = r := s.reports.key_inj before stored same
        rw [here] at passes
        simp only [listFilter, Bool.and_eq_true] at passes
        cases classId with
        | none =>
          obtain ⟨classId, filed, opens⟩ := (listsClass_iff env plain).mp passes.1.1
          exact out.listed r stored ofExam classId filed opens
        | some classId => exact out.listed r stored ofExam classId (beq_iff_eq.mp passes.1.1) guarded

omit [Field K] [LinearOrder K] [FloorRing K] in
theorem open_apart (out : OutOfReach env ctx write s exam) {missing : String} {reportId : Nat} {report : FiledReport}
    (opened : openReport env ctx missing reportId s = .ok report) :
    s.reports.get? reportId = some report ∧ report.examId ≠ some exam.id := by
  obtain ⟨found, guarded⟩ := openReport_iff.mp opened
  exact ⟨found, fun ofExam => out.opened report (Table.get?_mem found) ofExam guarded⟩

omit [Field K] [LinearOrder K] [FloorRing K] in
/-- A page on one report is not on one of the exam. -/
theorem view_apart (out : OutOfReach env ctx write s exam) {missing : String} {reportId : Nat} {view : FiledReport → ReportView}
    (naming : ∀ r, (view r).reportId = r.id) {a : DeskAnswer}
    (answered : ((openReport env ctx missing reportId s).map view).map .view = .ok a) :
    ∀ r ∈ s.reports.rows, r.id ∈ a.reportIds → r.examId ≠ some exam.id := by
  obtain ⟨v, viewed, made⟩ := map_ok answered
  obtain ⟨report, opened, shown⟩ := map_ok viewed
  obtain ⟨found, apart⟩ := open_apart out opened
  intro r stored named
  rw [← made, ← shown] at named
  have same : r = report := by
    apply s.reports.key_inj stored (Table.get?_mem found)
    exact (List.mem_singleton.mp named).trans (naming report)
  rw [same]
  exact apart

theorem action_apart (out : OutOfReach env ctx write s exam) {reportId : Nat} {action : SigningAction} {note : Option String}
    {now : DateTime} {call : ReportCall}
    (served : serveReports env ctx write s call = request .receipt (doAction env ctx reportId action note now) s) :
    ¬ Touches env ctx write s call exam.id := by
  cases outcome : doAction env ctx reportId action note now s with
  | mk result t =>
    cases result with
    | error e =>
      rw [request_of_error outcome] at served
      apply not_touches (by rw [served])
      intro a answered
      rw [served] at answered
      cases answered
    | ok receipt =>
      rw [request_of_ok outcome] at served
      obtain ⟨_, _, here, through⟩ := Session.bind_ok outcome
      cases here
      obtain ⟨report, u, opened, through⟩ := Session.bind_ok through
      obtain ⟨entered, stays⟩ := Session.lift_ok opened
      rw [stays] at through
      obtain ⟨found, apart⟩ := open_apart out entered
      obtain ⟨report', target, found', named', after⟩ := transition_ok (Session.mapError_ok through)
      rw [found, Option.some.injEq] at found'
      rw [after] at served
      apply not_touches
      · rw [served]
        exact signed_apart found apart
      · intro a answered r stored named
        rw [served] at answered stored
        cases answered
        obtain ⟨q, before, same, exams, _⟩ := mem_signed stored
        have here : q = report := by
          apply s.reports.key_inj before (Table.get?_mem found)
          change q.id = report.id
          rw [← same, List.mem_singleton.mp named, named', ← found']
        rw [exams, here]
        exact apart

/-! ### Diagnoses and summaries -/

variable {g : KpGraph K} {studentId examId : Nat} {now : DateTime}

/-- A diagnosis for an exam was on file or could be written. -/
theorem diagnosis_source {asOf : Option Date} {today : Date} {report : FiledReport} {new : Bool} {t : Office K}
    (through : getOrGenerateDiagnosis env write g studentId (some examId) asOf today now s = (.ok (report, new), t)) :
    (∃ r ∈ s.reports.rows, r.examId = some examId ∧ r.studentId = some studentId) ∨
      ∃ template, s.db.templates.get? examId = some template ∧
        (write s.db g .studentDiagnosis (some studentId) (some examId) (examAsOf template) none).isOk = true := by
  unfold getOrGenerateDiagnosis at through
  rw [Session.current_bind] at through
  dsimp only at through
  cases stored : first idOrder (storedDiagnoses s studentId examId) with
  | some r =>
    obtain ⟨before, selected⟩ := List.mem_filter.mp (first_mem stored)
    simp only [Bool.and_eq_true, beq_iff_eq] at selected
    exact .inl ⟨r, before, selected.1.1, selected.2⟩
  | none =>
    rw [stored] at through
    cases known : s.db.templates.get? examId with
    | none =>
      rw [known] at through
      cases through
    | some template =>
      rw [known] at through
      refine .inr ⟨template, rfl, ?_⟩
      obtain ⟨filed, u, generated, _⟩ := Session.bind_ok through
      cases pupil : s.db.students.get? studentId with
      | none =>
        unfold generateStudentDiagnosis generateForStudent at generated
        rw [Session.current_bind, pupil] at generated
        cases generated
      | some student =>
        rw [generateStudentDiagnosis, generateForStudent_eq write g _ now _ _ _ pupil] at generated
        obtain ⟨w, _, written, _⟩ := Session.bind_ok generated
        rw [(Session.lift_ok written).1]
        rfl

/-- A diagnosis that can be written is filed under the exam. -/
theorem diagnose_files (env : Setting K) (now : DateTime) {student : Student} {cutoff : DateTime} {w : Writing} (pupil : s.db.students.get? studentId = some student)
    (writes : write s.db g .studentDiagnosis (some studentId) (some examId) cutoff none = .ok w) : ∃ report t,
      diagnose env write g studentId (some examId) cutoff now s = (.ok (report, true), t) ∧
        report ∈ t.reports.rows ∧ report.examId = some examId := by
  let report := generatedReport .studentDiagnosis (some student.classId) (some studentId) (some examId) now w s.reports.nextId
  let filed := (addGenerated .studentDiagnosis (some student.classId) (some studentId) (some examId) now w s).2
  let judged := filed.withAttributions (materializeAttributionVerdicts env.cfg s.db g studentId student.classId cutoff none).1
  have generated : generateStudentDiagnosis write g studentId cutoff none (some examId) now s = (.ok report, filed) := by
    rw [generateStudentDiagnosis, generateForStudent_eq write g _ now _ _ _ pupil, writes]
    rfl
  have written : materializeVerdicts env g studentId cutoff filed = (.ok (), judged) := by
    unfold materializeVerdicts
    rw [Session.current_bind, show filed.db.students.get? studentId = some student from pupil]
    rfl
  refine ⟨report, judged, ?_, ?_, rfl⟩
  · unfold diagnose
    rw [Session.bind_of_ok generated, Session.bind_of_ok written]
    rfl
  · change report ∈ s.reports.rows ++ [report]
    exact List.mem_append_right _ (List.mem_singleton_self _)

theorem diagnosis_files (env : Setting K) (asOf : Option Date) (today : Date) (now : DateTime) {student : Student} {template : ExamTemplate} {w : Writing}
    (pupil : s.db.students.get? studentId = some student) (known : s.db.templates.get? examId = some template)
    (writes : write s.db g .studentDiagnosis (some studentId) (some examId) (examAsOf template) none = .ok w) :
    ∃ report new t, getOrGenerateDiagnosis env write g studentId (some examId) asOf today now s = (.ok (report, new), t) ∧
      report ∈ t.reports.rows ∧ report.examId = some examId := by
  cases stored : first idOrder (storedDiagnoses s studentId examId) with
  | some r =>
    obtain ⟨before, selected⟩ := List.mem_filter.mp (first_mem stored)
    simp only [Bool.and_eq_true, beq_iff_eq] at selected
    have found : onFile s studentId (some examId) asOf = some r := stored
    exact ⟨r, false, s, getOrGenerateDiagnosis_stored env found, before, selected.1.1⟩
  | none =>
    obtain ⟨report, t, through, filed, ofExam⟩ := diagnose_files env now pupil writes
    refine ⟨report, true, t, ?_, filed, ofExam⟩
    unfold getOrGenerateDiagnosis
    rw [Session.current_bind]
    dsimp only
    rw [stored, known]
    exact through

omit [Field K] [LinearOrder K] [FloorRing K] in
/-- A summary of an exam was on file or could be written. -/
theorem quality_source {report : FiledReport} {t : Office K} {classId : Nat}
    (through : getOrGenerateQualityReport write g classId examId now s = (.ok report, t)) : ∃ template,
      s.db.templates.get? examId = some template ∧ template.source ≠ .diagnosticTask ∧
        (storedQuality s examId ≠ [] ∨ (write s.db g .qualityAnalysis none (some examId) (examAsOf template) none).isOk = true) := by
  unfold getOrGenerateQualityReport at through
  rw [Session.current_bind] at through
  cases kept : (s.db.templates.get? examId).filter (fun t => t.classId == classId) with
  | none =>
    rw [kept] at through
    cases through
  | some template =>
    rw [kept] at through
    have known := (Option.filter_eq_some_iff.mp kept).1
    dsimp only at through
    by_cases individual : template.source = .diagnosticTask
    · rw [if_pos individual] at through
      cases through
    · rw [if_neg individual] at through
      refine ⟨template, known, individual, ?_⟩
      cases stored : first idOrder (storedQuality s examId) with
      | some r => exact .inl (List.ne_nil_of_mem (first_mem stored))
      | none =>
        rw [stored] at through
        have generated := Session.mapError_ok through
        rw [generateQualityAnalysis, generateForClass_eq write g _ now classId none known] at generated
        obtain ⟨w, _, written, _⟩ := Session.bind_ok generated
        rw [(Session.lift_ok written).1]
        exact .inr rfl

omit [Field K] [LinearOrder K] [FloorRing K] in
theorem quality_files (write : Writer K) (g : KpGraph K) (now : DateTime) {template : ExamTemplate}
    (known : s.db.templates.get? examId = some template) (whole : template.source ≠ .diagnosticTask)
    (had : storedQuality s examId ≠ [] ∨ (write s.db g .qualityAnalysis none (some examId) (examAsOf template) none).isOk = true) :
    ∃ report t, getOrGenerateQualityReport write g template.classId examId now s = (.ok report, t) ∧
      report ∈ t.reports.rows ∧ report.examId = some examId := by
  have kept : (s.db.templates.get? examId).filter (fun t => t.classId == template.classId) = some template :=
    Option.filter_eq_some_iff.mpr ⟨known, beq_self_eq_true _⟩
  unfold getOrGenerateQualityReport
  simp only [Session.current_bind, kept, if_neg whole]
  cases stored : first idOrder (storedQuality s examId) with
  | some r =>
    obtain ⟨before, selected⟩ := List.mem_filter.mp (first_mem stored)
    simp only [Bool.and_eq_true, beq_iff_eq] at selected
    exact ⟨r, s, rfl, before, selected.1⟩
  | none =>
    cases written : write s.db g .qualityAnalysis none (some examId) (examAsOf template) none with
    | error e =>
      rw [written] at had
      exact had.elim (fun some_ => absurd (first_eq_none_iff.mp stored) some_) nofun
    | ok w =>
      let report := generatedReport .qualityAnalysis (some template.classId) none (some examId) now w s.reports.nextId
      let filed := (addGenerated .qualityAnalysis (some template.classId) none (some examId) now w s).2
      have generated : generateQualityAnalysis write g template.classId examId none now s = (.ok report, filed) := by
        rw [generateQualityAnalysis, generateForClass_eq write g _ now _ _ known, written]
        rfl
      refine ⟨report, filed, Session.mapError_of_ok asValue generated, ?_, rfl⟩
      change report ∈ s.reports.rows ++ [report]
      exact List.mem_append_right _ (List.mem_singleton_self _)

omit [Field K] [LinearOrder K] [FloorRing K] in
theorem template_of_exam (found : s.access.exams.get? exam.id = some exam) : ∃ template,
    s.db.templates.get? exam.id = some template ∧ template.classId = exam.classId ∧ examAsOf template = dayEnd exam.examDate ∧
      template.source = exam.source := by
  have agree := s.exams_agree exam.id
  rw [found, Option.map_some] at agree
  obtain ⟨template, known, columns⟩ := Option.map_eq_some_iff.mp agree
  simp only [Prod.mk.injEq] at columns
  exact ⟨template, known, columns.1, by rw [examAsOf, columns.2.1], columns.2.2⟩

theorem diagnosis_ok {narrate : Option (String × Narrator)} {asOf : Option Date} {today : Date} {view : DiagnosisView} {t : Office K}
    (through : diagnosis env ctx write studentId (some examId) asOf narrate today now s = (.ok view, t)) : ∃ stu kb found u,
      s.db.students.get? studentId = some stu ∧ Opens env ctx s stu.classId ∧ classKb env ctx s stu.classId = .ok kb ∧
        getOrGenerateDiagnosis env write (KpGraph.load s.db kb.id) studentId (some examId) asOf today now s = (.ok found, u) := by
  unfold diagnosis at through
  rw [Session.current_bind] at through
  cases pupil : s.db.students.get? studentId with
  | none =>
    rw [pupil] at through
    cases through
  | some stu =>
    rw [pupil] at through
    obtain ⟨_, u, guarded, through⟩ := Session.bind_ok through
    obtain ⟨opens, stays⟩ := Session.lift_ok guarded
    rw [stays] at through
    obtain ⟨kb, v, resolved, through⟩ := Session.bind_ok through
    obtain ⟨active, stays⟩ := Session.lift_ok resolved
    rw [stays] at through
    obtain ⟨found, w, served, _⟩ := Session.bind_ok through
    exact ⟨stu, kb, found, w, rfl, opens, active, Session.mapError_ok served⟩

theorem diagnosis_apart (out : OutOfReach env ctx write s exam) (found : s.access.exams.get? exam.id = some exam)
    (narrate : Option (String × Narrator)) (asOf : Option Date) (today : Date) :
    ¬ Touches env ctx write s (.diagnosis studentId (some exam.id) asOf narrate today now) exam.id := by
  cases outcome : diagnosis env ctx write studentId (some exam.id) asOf narrate today now s with
  | mk result t =>
    cases result with
    | error e =>
      have served : serveReports env ctx write s (.diagnosis studentId (some exam.id) asOf narrate today now) = (.error e, s) :=
        request_of_error outcome
      apply not_touches (by rw [served])
      intro a answered
      rw [served] at answered
      cases answered
    | ok view =>
      obtain ⟨stu, kb, ⟨report, new⟩, u, pupil, opens, active, served⟩ := diagnosis_ok outcome
      exfalso
      rcases diagnosis_source served with stored | written
      · obtain ⟨r, before, ofExam, ofPupil⟩ := stored
        apply out.opened r before ofExam
        unfold guardReport
        rw [ofPupil]
        dsimp only
        rw [pupil]
        exact opens
      · obtain ⟨template, known, writes⟩ := written
        obtain ⟨template', known', _, date, _⟩ := template_of_exam found
        rw [known, Option.some.injEq] at known'
        rw [known', date] at writes
        have kept := out.diagnosed stu (Table.get?_mem pupil) opens kb active
        rw [show stu.id = studentId from Table.get?_key pupil, writes] at kept
        cases kept

omit [Field K] [LinearOrder K] [FloorRing K] in
theorem examSummary_ok {classId : Nat} {summary : ExamSummary} {t : Office K}
    (through : getExamSummary env ctx write classId (some examId) now s = (.ok summary, t)) : ∃ kb report u,
      resolveKb env ctx s classId = .ok kb ∧
        getOrGenerateQualityReport write (KpGraph.load s.db kb.id) classId examId now s = (.ok report, u) := by
  unfold getExamSummary at through
  rw [Session.current_bind] at through
  obtain ⟨_, u, guarded, through⟩ := Session.bind_ok through
  rw [(Session.lift_ok guarded).2] at through
  obtain ⟨kb, v, resolved, through⟩ := Session.bind_ok through
  obtain ⟨active, stays⟩ := Session.lift_ok resolved
  rw [stays] at through
  obtain ⟨_, w, required, through⟩ := Session.bind_ok through
  rw [(Session.lift_ok required).2] at through
  obtain ⟨chosen, x, asked, through⟩ := Session.bind_ok through
  obtain ⟨asked, stays'⟩ := Session.lift_ok asked
  rw [stays'] at through
  have same : chosen = examId := by
    rw [summaryExam] at asked
    split at asked
    · exact (Except.ok.inj asked).symm
    · cases asked
  rw [same] at through
  obtain ⟨report, y, served, _⟩ := Session.bind_ok through
  exact ⟨kb, report, y, active, served⟩

theorem summary_apart (out : OutOfReach env ctx write s exam) (found : s.access.exams.get? exam.id = some exam) :
    ¬ Touches env ctx write s (.examSummary exam.classId (some exam.id) now) exam.id := by
  cases outcome : getExamSummary env ctx write exam.classId (some exam.id) now s with
  | mk result t =>
    cases result with
    | error e =>
      have failed : Session.mapError toolRefusal (getExamSummary env ctx write exam.classId (some exam.id) now) s =
        (.error (toolRefusal e), t) := by rw [Session.mapError, outcome]
      have served : serveReports env ctx write s (.examSummary exam.classId (some exam.id) now) = (.error (toolRefusal e), s) :=
        request_of_error failed
      apply not_touches (by rw [served])
      intro a answered
      rw [served] at answered
      cases answered
    | ok summary =>
      obtain ⟨kb, report, u, active, served⟩ := examSummary_ok outcome
      obtain ⟨template, known, whole, had⟩ := quality_source served
      obtain ⟨template', known', _, date, source⟩ := template_of_exam found
      rw [known, Option.some.injEq] at known'
      rw [known', date] at had
      rw [known', source] at whole
      exfalso
      rcases out.summarized kb active with individual | bare
      · exact whole individual
      · rcases had with stored | writes
        · exact stored bare.1
        · rw [bare.2] at writes
          cases writes

/-! ### What the exam check would have kept back -/

theorem out_of_reach_apart {teacher : Account} (plain : teacher.admin = false) (out : OutOfReach env ⟨some teacher⟩ write s exam)
    (found : s.access.exams.get? exam.id = some exam) (call : ReportCall) (concerns : Concerns exam call) :
    ¬ Touches env ⟨some teacher⟩ write s call exam.id := by
  cases call with
  | list classId studentId examId offset limit => exact list_apart plain out
  | detail reportId =>
    exact not_touches rfl (fun a answered => view_apart out (fun _ => rfl) answered)
  | full reportId =>
    exact not_touches rfl (fun a answered => view_apart out (fun _ => rfl) answered)
  | issue reportId note now => exact action_apart out rfl
  | reject reportId note now => exact action_apart out rfl
  | diagnosis studentId examId asOf narrate today now =>
    rw [show examId = some exam.id from concerns]
    exact diagnosis_apart out found narrate asOf today
  | examSummary classId examId now =>
    rw [concerns.1, concerns.2]
    exact summary_apart out found

theorem told {call : ReportCall} {a : DeskAnswer} {t : Office K} {r : FiledReport} {examId : Nat}
    (served : serveReports env ctx write s call = (.ok a, t)) (stored : r ∈ t.reports.rows) (named : r.id ∈ a.reportIds)
    (ofExam : r.examId = some examId) : Touches env ctx write s call examId := by
  unfold Touches
  rw [served]
  exact .inl ⟨a, rfl, r, stored, named, ofExam⟩

theorem out_of_reach_of_apart {teacher : Account} (away : BoundAway env s teacher exam)
    (found : s.access.exams.get? exam.id = some exam)
    (apart : ∀ call, Concerns exam call → ¬ Touches env ⟨some teacher⟩ write s call exam.id) :
    OutOfReach env ⟨some teacher⟩ write s exam where
  listed := by
    intro r stored ofExam classId filed opens
    have passes : listFilter ⟨some teacher⟩ s none none (some exam.id) r = true := by
      simp only [listFilter, (listsClass_iff env away.plain).mpr ⟨classId, filed, opens⟩, Option.all_none, Option.all_some, ofExam,
        beq_self_eq_true, Bool.and_self]
    obtain ⟨n, shown⟩ := exists_page (List.mem_filter.mpr ⟨stored, passes⟩)
    have listed : listReports env ⟨some teacher⟩ none none (some exam.id) n 1 s =
        .ok (pageOf (s.reports.select (listFilter ⟨some teacher⟩ s none none (some exam.id))) n 1) := by
      rw [listReports, if_neg (by omega), if_neg (by decide), Option.any_none, if_neg Bool.false_ne_true]
      rfl
    have served : serveReports env ⟨some teacher⟩ write s (.list none none (some exam.id) n 1) =
        (.ok (.page (pageOf (s.reports.select (listFilter ⟨some teacher⟩ s none none (some exam.id))) n 1)), s) := by
      rw [serveReports, listed]
      rfl
    exact apart (.list none none (some exam.id) n 1) trivial (told served stored shown ofExam)
  opened := by
    intro r stored ofExam guarded
    have opened : openReport env ⟨some teacher⟩ "报告不存在" r.id s = .ok r :=
      openReport_iff.mpr ⟨Table.get?_of_mem stored, guarded⟩
    have served : serveReports env ⟨some teacher⟩ write s (.detail r.id) = (.ok (.view (detailView r)), s) := by
      rw [serveReports, reportDetail, opened]
      rfl
    exact apart (.detail r.id) trivial (told served stored (List.mem_singleton_self _) ofExam)
  diagnosed := by
    intro student stored opens kb active
    rw [Bool.eq_false_iff]
    intro writes
    obtain ⟨template, known, _, date, _⟩ := template_of_exam found
    cases written : write s.db (KpGraph.load s.db kb.id) .studentDiagnosis (some student.id) (some exam.id) (dayEnd exam.examDate) none with
    | error e =>
      rw [written] at writes
      cases writes
    | ok w =>
      rw [← date] at written
      have pupil : s.db.students.get? student.id = some student := Table.get?_of_mem stored
      obtain ⟨report, new, t, through, filed, ofExam⟩ := diagnosis_files env none 0 0 pupil known written
      have answered : diagnosis env ⟨some teacher⟩ write student.id (some exam.id) none none 0 0 s =
          (.ok ⟨report.id, report.contentMarkdown ++ "", report.snapshot.asOf⟩, t) := by
        unfold diagnosis
        rw [Session.current_bind, pupil]
        dsimp only
        rw [Session.bind_of_ok (Session.lift_of_ok s opens), Session.bind_of_ok (Session.lift_of_ok s active),
          Session.bind_of_ok (Session.mapError_of_ok diagnosisRefusal through)]
        rfl
      have served : serveReports env ⟨some teacher⟩ write s (.diagnosis student.id (some exam.id) none none 0 0) = (.ok _, t) :=
        request_of_ok answered
      exact apart (.diagnosis student.id (some exam.id) none none 0 0) rfl (told served filed (List.mem_singleton_self _) ofExam)
  summarized := by
    intro kb active
    by_contra had
    rw [not_or, not_and_or, Bool.not_eq_false] at had
    obtain ⟨template, known, class_, date, source⟩ := template_of_exam found
    have opens := away.opens
    obtain ⟨report, t, through, filed, ofExam⟩ := quality_files write (KpGraph.load s.db kb.id) 0 known (by rw [source]; exact had.1)
      (by rw [date]; exact had.2)
    rw [class_] at through
    obtain ⟨clazz, access⟩ := opens_iff.mp opens
    have required : requireClass s exam.classId = .ok clazz := by
      unfold requireClass
      rw [(Auth.assertClassAccess_ok.mp access).1]
    have asked : summaryExam s exam.classId (some exam.id) = .ok exam.id := by
      rw [summaryExam, if_pos (by rw [known, Option.any_some, class_, beq_self_eq_true])]
    have answered : getExamSummary env ⟨some teacher⟩ write exam.classId (some exam.id) 0 s =
        (.ok ⟨exam.id, exam.classId, report.id, report.contentMarkdown, report.snapshot⟩, t) := by
      unfold getExamSummary
      rw [Session.current_bind, Session.bind_of_ok (Session.lift_of_ok s (mcpGuard_iff.mpr opens)),
        Session.bind_of_ok (Session.lift_of_ok s active), Session.bind_of_ok (Session.lift_of_ok s required),
        Session.bind_of_ok (Session.lift_of_ok s asked), Session.bind_of_ok through]
      rfl
    have served : serveReports env ⟨some teacher⟩ write s (.examSummary exam.classId (some exam.id) 0) = (.ok _, t) :=
      request_of_ok (Session.mapError_of_ok toolRefusal answered)
    exact apart (.examSummary exam.classId (some exam.id) 0) ⟨rfl, rfl⟩ (told served filed (List.mem_singleton_self _) ofExam)

end

/-- A teacher whom the exam check keeps from an exam is kept from its reports exactly when the class checks happen to
    leave none within reach. -/
theorem narrowing_iff [Field K] [LinearOrder K] [FloorRing K] (env : Setting K) (write : Writer K) (s : Office K) (teacher : Account)
    (exam : Exam) (found : s.access.exams.get? exam.id = some exam) (away : BoundAway env s teacher exam) :
    (∀ call, Concerns exam call → ¬ Touches env ⟨some teacher⟩ write s call exam.id) ↔
      OutOfReach env ⟨some teacher⟩ write s exam :=
  ⟨out_of_reach_of_apart away found, fun out call concerns => out_of_reach_apart away.plain out found call concerns⟩

def physicsTeacher : Account := ⟨7, "王", false⟩

/-- The exam in mathematics. -/
def mathsExam : Exam := ⟨1, 1, none, "期中", 0, .other "excel"⟩

theorem physics_away (reports : Table FiledReport) :
    BoundAway securedSetting (newOffice.withReports reports) physicsTeacher mathsExam where
  plain := rfl
  bound := by
    refine ⟨⟨2, 7, 1, some "物理"⟩, ?_, rfl⟩
    change _ ∈ newOffice.access.grantsOf 7 1
    decide +kernel
  led := by
    intro clazz found
    cases found
    rfl
  denied := ⟨_, rfl⟩

/-- With nothing on file and no knowledge base in physics the class checks suffice. -/
theorem narrowing_new : BoundAway securedSetting newOffice physicsTeacher mathsExam ∧
    ∀ call, Concerns mathsExam call → ¬ Touches securedSetting ⟨some physicsTeacher⟩ plainWriter newOffice call mathsExam.id := by
  have away : BoundAway securedSetting newOffice physicsTeacher mathsExam := physics_away newOffice.reports
  refine ⟨away, (narrowing_iff securedSetting plainWriter newOffice physicsTeacher mathsExam rfl away).mpr ?_⟩
  have closed : (classKb securedSetting ⟨some physicsTeacher⟩ newOffice 1).isOk = false := by decide +kernel
  have resolved : (resolveKb securedSetting ⟨some physicsTeacher⟩ newOffice 1).isOk = false := by decide +kernel
  have class_ : ∀ student ∈ newOffice.db.students.rows, student.classId = 1 := by decide +kernel
  refine ⟨fun _ stored => absurd stored List.not_mem_nil, fun _ stored => absurd stored List.not_mem_nil, ?_, ?_⟩
  · intro student stored _ kb active
    rw [class_ student stored] at active
    rw [active] at closed
    cases closed
  · intro kb active
    change resolveKb securedSetting ⟨some physicsTeacher⟩ newOffice 1 = .ok kb at active
    rw [active] at resolved
    cases resolved

/-- The office once the advice on the exam in mathematics is drafted. -/
def draftedOffice : Office ℚ := serve securedSetting newOffice classDraft

/-- The teacher of physics, kept from the exam in mathematics, reads the draft on it and signs it. -/
theorem physics_reads_maths :
    BoundAway securedSetting draftedOffice physicsTeacher mathsExam ∧
    Touches securedSetting ⟨some physicsTeacher⟩ plainWriter draftedOffice (.full 1) mathsExam.id ∧
    ((serveReports securedSetting ⟨some physicsTeacher⟩ plainWriter draftedOffice (.issue 1 none 9)).2.reports.rows.map
      (fun r => (r.id, r.examId, r.status)), draftedOffice.reports.rows.map (fun r => (r.id, r.examId, r.status))) =
        ([(1, some 1, .issued)], [(1, some 1, .draft)]) := by
  refine ⟨physics_away draftedOffice.reports, ?_, by decide +kernel⟩
  exact .inl ⟨_, rfl, _, List.mem_singleton_self _, List.mem_singleton_self _, rfl⟩

end KnowledgeGap.Reports
