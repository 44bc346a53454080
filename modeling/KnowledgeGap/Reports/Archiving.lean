import KnowledgeGap.Reports.Regeneration

namespace KnowledgeGap.Reports

open Relational Protocol

variable {K : Type}

def FiledReport.brief (r : FiledReport) : Report := reportRow r.type r.studentId r.examId r.id

/-- An office as the verdicts are told of it: of a report only what it is about. -/
def Office.archive (s : Office K) : Archive K :=
  ⟨s.db, s.reports.view (fun _ => true) FiledReport.brief (fun _ => rfl)⟩

/-- Reports lie in the order they were filed in. -/
def Office.InOrder (s : Office K) : Prop := s.reports.rows.Pairwise (fun a b => idOrder a b = true)

@[simp] theorem archive_db (s : Office K) : s.archive.db = s.db := rfl

theorem archive_rows (s : Office K) : s.archive.reports.rows = s.reports.rows.map FiledReport.brief := by
  simp [Office.archive, Table.view]

theorem archive_select (s : Office K) {p : Report → Bool} {q : FiledReport → Bool} (same : ∀ r, p r.brief = q r) :
    s.archive.reports.select p = (s.reports.select q).map FiledReport.brief := by
  unfold Table.select
  rw [archive_rows, List.filter_map]
  congr 2
  funext r
  exact same r

section
variable {s t : Office K}

theorem addGenerated_archive {type : ReportType} {classId studentId examId : Option Nat} {now : DateTime} {w : Writing}
    {report : FiledReport} (through : addGenerated type classId studentId examId now w s = (.ok report, t)) :
    t.archive = ⟨s.db, fileReport type studentId examId s.archive.reports⟩ ∧ report.id = s.reports.nextId ∧ t.db = s.db := by
  cases through
  refine ⟨?_, rfl, rfl⟩
  unfold Office.archive fileReport
  congr 1
  apply Table.ext
  · change ((s.reports.rows ++ [_]).filter (fun _ => true)).map FiledReport.brief = _
    rw [List.filter_append, List.map_append]
    rfl
  · rfl

theorem addGenerated_inOrder {type : ReportType} {classId studentId examId : Option Nat} {now : DateTime} {w : Writing}
    {report : FiledReport} (through : addGenerated type classId studentId examId now w s = (.ok report, t))
    (order : s.InOrder) : t.InOrder := by
  cases through
  refine List.pairwise_append.mpr ⟨order, List.pairwise_singleton _ _, ?_⟩
  intro r stored new listed
  rw [List.mem_singleton.mp listed]
  have issued := s.reports.issued r stored
  exact decide_eq_true (Nat.le_of_lt issued)

theorem generateForStudent_archive {type : ReportType} {write : Writer K} {g : KpGraph K} {studentId : Nat}
    {asOf : DateTime} {batch : Option (Batch K)} {examId : Option Nat} {now : DateTime} {report : FiledReport}
    (through : generateForStudent type write g studentId asOf batch examId now s = (.ok report, t)) :
    t.archive = ⟨s.db, fileReport type (some studentId) examId s.archive.reports⟩ ∧ report.id = s.reports.nextId ∧
      t.db = s.db ∧ (s.InOrder → t.InOrder) ∧ (s.db.students.get? studentId).isSome := by
  cases known : s.db.students.get? studentId with
  | none =>
    unfold generateForStudent at through
    rw [Session.current_bind, known] at through
    cases through
  | some student =>
    rw [generateForStudent_eq write g type now asOf batch examId known] at through
    obtain ⟨w, u, written, filed⟩ := Session.bind_ok through
    have same := (Session.lift_ok written).2
    subst same
    obtain ⟨archived, id, db⟩ := addGenerated_archive filed
    exact ⟨archived, id, db, addGenerated_inOrder filed, rfl⟩

theorem generateForClass_archive {type : ReportType} {write : Writer K} {g : KpGraph K} {classId examId : Nat}
    {batch : Option (Batch K)} {now : DateTime} {report : FiledReport}
    (through : generateForClass type write g classId examId batch now s = (.ok report, t)) :
    t.archive = ⟨s.db, fileReport type none (some examId) s.archive.reports⟩ ∧ t.db = s.db ∧ (s.InOrder → t.InOrder) := by
  cases known : s.db.templates.get? examId with
  | none =>
    unfold generateForClass at through
    rw [Session.current_bind, known] at through
    cases through
  | some template =>
    rw [generateForClass_eq write g type now classId batch known] at through
    obtain ⟨w, u, written, filed⟩ := Session.bind_ok through
    have same := (Session.lift_ok written).2
    subst same
    obtain ⟨archived, _, db⟩ := addGenerated_archive filed
    exact ⟨archived, db, addGenerated_inOrder filed⟩

/-! What is on file. -/

theorem storedDiagnosis_archive (order : s.InOrder) (studentId examId : Nat) :
    storedDiagnosis s.archive studentId examId =
      (first idOrder (storedDiagnoses s studentId examId)).map FiledReport.brief := by
  have sorted : (storedDiagnoses s studentId examId).Pairwise (fun a b => idOrder a b = true) :=
    List.Pairwise.sublist List.filter_sublist order
  rw [first, stableSort_eq_self sorted, ← List.head?_map]
  unfold storedDiagnosis storedDiagnoses
  rw [archive_select]
  intro r
  rfl

theorem latestStoredDiagnosis_archive (s : Office K) (studentId : Nat) :
    KnowledgeGap.latestStoredDiagnosis s.archive studentId = (latestStoredDiagnosis s studentId).map FiledReport.brief := by
  have rows : s.archive.reports.select (fun r => r.studentId == some studentId && decide (r.type = .studentDiagnosis)) =
      (s.reports.select (fun r => r.studentId == some studentId && decide (r.type = .studentDiagnosis))).map
        FiledReport.brief := archive_select s (fun _ => rfl)
  have dated : (s.archive.reports.select (fun r => r.studentId == some studentId && decide (r.type = .studentDiagnosis))).filterMap
        (fun r => (r.examId.bind s.archive.db.templates.get?).map (fun exam => (exam.examDate, r))) =
      (datedDiagnoses s studentId).map (fun p => (p.1, p.2.brief)) := by
    rw [rows, List.filterMap_map]
    unfold datedDiagnoses joinExams
    rw [List.map_filterMap]
    congr 1
    funext r
    rw [Option.map_map]
    rfl
  have picked : first newestFirst ((datedDiagnoses s studentId).map (fun p => (p.1, p.2.brief))) =
      (first newestExam (datedDiagnoses s studentId)).map (fun p => (p.1, p.2.brief)) := first_map (fun _ _ => rfl) _
  unfold KnowledgeGap.latestStoredDiagnosis latestStoredDiagnosis
  dsimp only
  rw [dated, ← first, picked, Option.map_map, Option.map_map]
  rfl

end

section
variable [Field K] [LinearOrder K] [FloorRing K] {env : Setting K} {write : Writer K} {g : KpGraph K} {now : DateTime}
  {s t : Office K}

/-! A diagnosis, and the reports of an exam, told of both. -/

theorem diagnose_archive {studentId : Nat} {examId : Option Nat} {cutoff : DateTime} {report : FiledReport} {new : Bool}
    (through : diagnose env write g studentId examId cutoff now s = (.ok (report, new), t)) :
    KnowledgeGap.diagnose env.cfg s.archive g studentId examId cutoff = .ok (t.archive, report.id, new) ∧
      (s.InOrder → t.InOrder) := by
  obtain ⟨filed, u, written, rest⟩ := Session.bind_ok through
  obtain ⟨archived, id, db, order, known⟩ := generateForStudent_archive written
  obtain ⟨student, found⟩ := Option.isSome_iff_exists.mp known
  obtain ⟨_, v, materialized, last⟩ := Session.bind_ok rest
  unfold materializeVerdicts at materialized
  rw [Session.current_bind, db, found] at materialized
  cases materialized
  cases last
  refine ⟨?_, order⟩
  have stored : u.archive.reports = fileReport .studentDiagnosis (some studentId) examId s.archive.reports := by
    rw [archived]
  unfold KnowledgeGap.diagnose
  rw [archive_db, found, ← stored]
  dsimp only
  rw [id]
  unfold Office.archive Office.withAttributions
  dsimp only
  rw [db]
  rfl

/-- A diagnosis that comes through is the one that the verdicts are told of. -/
theorem getOrGenerateDiagnosis_archive {studentId : Nat} {examId : Option Nat} {asOf : Option Date} {today : Date}
    {report : FiledReport} {new : Bool} (order : s.InOrder)
    (through : getOrGenerateDiagnosis env write g studentId examId asOf today now s = (.ok (report, new), t)) :
    KnowledgeGap.getOrGenerateDiagnosis env.cfg s.archive g studentId examId asOf today = .ok (t.archive, report.id, new) ∧
      t.InOrder := by
  unfold getOrGenerateDiagnosis at through
  rw [Session.current_bind] at through
  unfold KnowledgeGap.getOrGenerateDiagnosis
  cases examId with
  | some examId =>
    dsimp only at through ⊢
    rw [storedDiagnosis_archive order]
    cases stored : first idOrder (storedDiagnoses s studentId examId) with
    | some filed =>
      rw [stored] at through
      cases through
      exact ⟨rfl, order⟩
    | none =>
      rw [stored] at through
      dsimp only [Option.map_none] at through ⊢
      cases known : s.db.templates.get? examId with
      | none =>
        rw [known] at through
        cases through
      | some exam =>
        rw [known] at through
        obtain ⟨told, kept⟩ := diagnose_archive through
        rw [archive_db, known]
        exact ⟨told, kept order⟩
  | none =>
    cases asOf with
    | some date =>
      obtain ⟨told, kept⟩ := diagnose_archive through
      exact ⟨told, kept order⟩
    | none =>
      dsimp only at through ⊢
      rw [latestStoredDiagnosis_archive]
      cases stored : latestStoredDiagnosis s studentId with
      | some filed =>
        rw [stored] at through
        cases through
        exact ⟨rfl, order⟩
      | none =>
        rw [stored] at through
        obtain ⟨told, kept⟩ := diagnose_archive through
        exact ⟨told, kept order⟩

theorem reportStudent_archive {template : ExamTemplate} {batch : Batch K} {studentId : Nat}
    (through : reportStudent env write g template batch now studentId s = (.ok (), t)) :
    t.archive = KnowledgeGap.reportStudent env.cfg g template batch s.archive studentId ∧ (s.InOrder → t.InOrder) := by
  obtain ⟨_, u, diagnosis, rest⟩ := Session.bind_ok through
  obtain ⟨_, v, plan, last⟩ := Session.bind_ok rest
  obtain ⟨first_, _, db, order, _⟩ := generateForStudent_archive diagnosis
  obtain ⟨second_, _, db', order', _⟩ := generateForStudent_archive plan
  cases last
  refine ⟨?_, fun sorted => order' (order sorted)⟩
  have stored : v.archive.reports = fileReport .studentActionPlan (some studentId) (some template.id)
      (fileReport .studentDiagnosis (some studentId) (some template.id) s.archive.reports) := by
    rw [second_, first_]
  unfold KnowledgeGap.reportStudent
  rw [← stored]
  unfold Office.archive Office.withAttributions
  dsimp only
  rw [db', db]

theorem students_archive {template : ExamTemplate} {batch : Batch K} {ids : List Nat}
    (through : Session.forEach ids (reportStudent env write g template batch now) s = (.ok (), t)) :
    t.archive = ids.foldl (KnowledgeGap.reportStudent env.cfg g template batch) s.archive ∧ (s.InOrder → t.InOrder) := by
  induction ids generalizing s with
  | nil =>
    cases through
    exact ⟨rfl, id⟩
  | cons id ids ih =>
    obtain ⟨_, u, head, rest⟩ := Session.bind_ok through
    obtain ⟨told, order⟩ := reportStudent_archive head
    obtain ⟨tail, order'⟩ := ih rest
    rw [List.foldl_cons, ← told]
    exact ⟨tail, fun sorted => order' (order sorted)⟩

theorem reportClass_archive {template : ExamTemplate} {batch : Batch K} {count : Nat}
    (through : reportClass env write g template batch now s = (.ok count, t)) :
    t.archive = KnowledgeGap.reportClass env.cfg g template batch now s.archive ∧ (s.InOrder → t.InOrder) := by
  unfold reportClass at through
  rw [Session.current_bind, Session.update_bind] at through
  obtain ⟨_, u, quality, rest⟩ := Session.bind_ok through
  obtain ⟨_, v, advice, last⟩ := Session.bind_ok rest
  obtain ⟨first_, db, order⟩ := generateForClass_archive quality
  obtain ⟨second_, db', order'⟩ := generateForClass_archive advice
  cases last
  refine ⟨?_, fun sorted => order' (order sorted)⟩
  rw [second_, first_, db]
  rfl

/-- What is written about an exam, where it comes through, is what the verdicts are told of. -/
theorem writeExamReports_archive {template : ExamTemplate} {result : ExamReportResult} (order : s.InOrder)
    (known : s.db.templates.get? template.id = some template)
    (through : writeExamReports env write g template now s = (.ok result, t)) :
    t.archive = KnowledgeGap.generateExamReports env.cfg s.archive g template.id now ∧ t.InOrder := by
  unfold KnowledgeGap.generateExamReports
  rw [archive_db, known]
  dsimp only
  unfold writeExamReports at through
  rw [Session.current_bind] at through
  split at through
  · rename_i none_
    cases through
    rw [if_pos none_]
    exact ⟨rfl, order⟩
  · rename_i some_
    obtain ⟨_, u, purged, rest⟩ := Session.bind_ok through
    obtain ⟨_, v, students, rest⟩ := Session.bind_ok rest
    have cleared : u = s.withReports (s.reports.deleteWhere (FiledReport.purgedBy template.id)) := by
      unfold purgeReports at purged
      rw [Session.current_bind] at purged
      split at purged
      · cases purged
      · cases purged
        rfl
    have sorted : u.InOrder := by
      rw [cleared]
      exact List.Pairwise.sublist List.filter_sublist order
    have told : u.archive = ⟨s.db, s.archive.reports.deleteWhere (fun r =>
        r.examId == some template.id && r.type.ofExam)⟩ := by
      rw [cleared]
      unfold Office.archive
      congr 1
      apply Table.ext
      · simp only [Table.view, Table.deleteWhere, Office.withReports, List.filter_true, List.filter_map]
        rfl
      · rfl
    obtain ⟨reported, order'⟩ := students_archive students
    rw [told] at reported
    rw [if_neg some_, ← reported]
    split at rest
    · rename_i task
      cases rest
      rw [if_pos task]
      exact ⟨rfl, order' sorted⟩
    · rename_i whole
      obtain ⟨count, w, classes, last⟩ := Session.bind_ok rest
      cases last
      obtain ⟨added, order''⟩ := reportClass_archive classes
      rw [if_neg whole]
      exact ⟨added, order'' (order' sorted)⟩

/-- The reports of an exam leave the archive as it was, or as the verdicts are told of them. -/
theorem generateExamReports_archive (order : s.InOrder) (examId : Nat) :
    ((generateExamReports env write examId now s).2 = s ∨ ∃ template g, s.examGraph env examId = some (template, g) ∧
        (generateExamReports env write examId now s).2.archive =
          KnowledgeGap.generateExamReports env.cfg s.archive g examId now) ∧
      (generateExamReports env write examId now s).2.InOrder := by
  cases found : s.examGraph env examId with
  | none =>
    unfold generateExamReports
    rw [found]
    exact ⟨Or.inl rfl, order⟩
  | some pair =>
    obtain ⟨template, g⟩ := pair
    obtain ⟨known, same⟩ := examGraph_template g template found
    cases outcome : writeExamReports env write g template now s with
    | mk result t =>
      cases result with
      | error e =>
        rw [generateExamReports_rolled_back env write g template now found outcome]
        exact ⟨Or.inl rfl, order⟩
      | ok result =>
        rw [← same] at known
        obtain ⟨told, sorted⟩ := writeExamReports_archive order known outcome
        unfold generateExamReports
        rw [found]
        dsimp only
        rw [Session.savepoint_of_ok outcome, ← same]
        exact ⟨Or.inr ⟨template, g, rfl, told⟩, sorted⟩

end

end KnowledgeGap.Reports
