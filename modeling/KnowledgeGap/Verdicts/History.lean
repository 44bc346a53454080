import KnowledgeGap.Reports.Diagnosis
import KnowledgeGap.Verdicts.Refinement

namespace KnowledgeGap.Verdicts

open Relational

variable {K : Type}

/-- The class, the moment and the prefetch with which a pass derives a pupil's findings. -/
structure Pass (K : Type) where
  classId : Nat
  asOf : DateTime
  eventsBySk : Option (Batch K)

inductive Request
  | diagnosis (studentId : Nat) (examId : Option Nat) (asOf : Option Date) (today : Date)
  | examReports (examId : Nat) (now : DateTime)
  deriving DecidableEq, Repr

/-- The evidence cutoff of a diagnosis; nothing where a stored report answers. -/
def cutoffOf (a : Archive K) (studentId : Nat) (examId : Option Nat) (asOf : Option Date) (today : Date) :
    Option DateTime :=
  match examId with
  | some exam =>
    if (storedDiagnosis a studentId exam).isSome then none else (a.db.templates.get? exam).map examAsOf
  | none =>
    match asOf with
    | some date => some (dayEnd date)
    | none => if (latestStoredDiagnosis a studentId).isSome then none else some (dayEnd today)

/-- The pass a request makes over a pupil, if it makes one. -/
def passOf (g : KpGraph K) (a : Archive K) (studentId : Nat) : Request → Option (Pass K)
  | .diagnosis who examId asOf today =>
    if who = studentId then
      (a.db.students.get? who).bind (fun student =>
        (cutoffOf a who examId asOf today).map (fun cutoff => ⟨student.classId, cutoff, none⟩))
    else none
  | .examReports examId _ =>
    (a.db.templates.get? examId).bind (fun template =>
      if studentId ∈ reportStudentIds a.db examId then
        some ⟨template.classId, examAsOf template, some (examBatch a.db g template)⟩
      else none)

theorem nodup_reportStudentIds (db : Db K) (examId : Nat) : (reportStudentIds db examId).Nodup :=
  (List.Sublist.map Student.id List.filter_sublist).nodup db.students.nodup

def ofStudent (studentId : Nat) (r : Attribution K) : Bool := r.studentId == studentId

theorem select_verdictOf (t : Table (Attribution K)) (g : KpGraph K) (studentId : Nat)
    (statuses : List AttributionStatus) :
    t.select (verdictOf g studentId statuses) = (t.select (ofStudent studentId)).filter (verdictOf g studentId statuses) := by
  unfold Table.select
  rw [List.filter_filter]
  apply List.filter_congr
  intro r _
  by_cases own : r.studentId = studentId
  · simp [ofStudent, own]
  · simp [ofStudent, verdictOf, own]

section
variable {t : Table (Attribution K)} {g : KpGraph K} {studentId : Nat} {findings : List (AttributionFinding K)}

/-- Writing one pupil's verdicts leaves the rows of the others alone. -/
theorem select_other_writeVerdicts (unique : OnePerCause t) (distinct : (findings.map AttributionFinding.key).Nodup)
    {other : Nat} (apart : studentId ≠ other) :
    (writeVerdicts t g studentId findings).1.select (ofStudent other) = t.select (ofStudent other) := by
  have none_added : (addedVerdicts t g studentId findings).filter (ofStudent other) = [] := by
    rw [List.filter_eq_nil_iff]
    intro r added
    obtain ⟨f, _, _, n, _, rfl⟩ := mem_addedVerdicts added
    simpa [ofStudent, newVerdict] using apart
  unfold Table.select
  rw [rows_writeVerdicts unique distinct, List.filter_append, none_added, List.append_nil]
  apply filter_map_of_fixed
  · intro r _
    simp only [ofStudent, (settle_frame g studentId findings r).2.1]
  · intro r _ owned
    have owner : r.studentId = other := by simpa [ofStudent] using owned
    exact settle_of_outside findings (Or.inl (by rw [owner]; exact apart.symm))

def unvetoed (t : Table (Attribution K)) (g : KpGraph K) (studentId : Nat) (f : AttributionFinding K) : Bool :=
  ((overriddenVerdicts t g studentId).get? f.key).isNone

theorem unvetoed_of_select {t u : Table (Attribution K)} {g : KpGraph K} {studentId : Nat}
    (same : t.select (ofStudent studentId) = u.select (ofStudent studentId)) :
    unvetoed t g studentId = unvetoed u g studentId := by
  unfold unvetoed overriddenVerdicts
  rw [select_verdictOf t, select_verdictOf u, same]

theorem unvetoed_writeVerdicts {t : Table (Attribution K)} {g : KpGraph K} {studentId : Nat}
    {findings : List (AttributionFinding K)} (unique : OnePerCause t)
    (distinct : (findings.map AttributionFinding.key).Nodup) :
    unvetoed (writeVerdicts t g studentId findings).1 g studentId = unvetoed t g studentId := by
  unfold unvetoed overriddenVerdicts
  rw [select_overridden_writeVerdicts unique distinct]

theorem mem_of_select {t u : Table (Attribution K)} {studentId : Nat}
    (same : t.select (ofStudent studentId) = u.select (ofStudent studentId)) {r : Attribution K}
    (owner : r.studentId = studentId) : r ∈ t.rows ↔ r ∈ u.rows := by
  have member : r ∈ t.select (ofStudent studentId) ↔ r ∈ u.select (ofStudent studentId) := by rw [same]
  simpa [Table.select, ofStudent, owner] using member

variable (studentId) in
/-- The active rows after a write are the findings nobody vetoed. -/
theorem active_findings (unique : OnePerCause t) (distinct : (findings.map AttributionFinding.key).Nodup)
    (inside : ∀ f ∈ findings, f.kpId ∈ g.kpIds) :
    (((writeVerdicts t g studentId findings).1.select (verdictOf g studentId [.active])).map Attribution.finding).Perm
      (findings.filter (unvetoed t g studentId)) := by
  have returned : ((writeVerdicts t g studentId findings).2.map Attribution.finding).Perm
      (((writeVerdicts t g studentId findings).1.select (verdictOf g studentId [.active])).map Attribution.finding) :=
    (returned_perm unique distinct inside).map Attribution.finding
  rw [returned_findings unique distinct inside] at returned
  exact returned.symm

/-- A row whose own finding is derived again is left as it is. -/
theorem mem_writeVerdicts_of_finding (unique : OnePerCause t) (distinct : (findings.map AttributionFinding.key).Nodup)
    {r : Attribution K} (stored : r ∈ t.rows) (active : r.status = .active) (again : r.finding ∈ findings) :
    r ∈ (writeVerdicts t g studentId findings).1.rows := by
  have fixed : settle g studentId findings r = r := by
    rcases settle_cases g studentId findings r with ⟨f, listed, key, _, settled⟩ | ⟨_, unseen, _⟩ | ⟨_, settled⟩
    · have same : f = r.finding := List.inj_on_of_nodup_map distinct listed again key
      rw [settled, refreshVerdict, if_neg (by simp [active]), same]
      rfl
    · exact absurd (List.mem_map.mpr ⟨r.finding, again, rfl⟩) unseen
    · exact settled
  rw [rows_writeVerdicts unique distinct]
  exact List.mem_append_left _ (List.mem_map.mpr ⟨r, stored, fixed⟩)

/-- A write on top of recorded findings disturbs none of them and leaves no other exactly when it brings the same. -/
theorem write_undisturbed_iff (unique : OnePerCause t) (distinct : (findings.map AttributionFinding.key).Nodup)
    (inside : ∀ f ∈ findings, f.kpId ∈ g.kpIds) {recorded : List (AttributionFinding K)}
    (held : ((t.select (verdictOf g studentId [.active])).map Attribution.finding).Perm recorded) :
    ((∀ r ∈ t.rows, verdictOf g studentId [.active] r = true → r ∈ (writeVerdicts t g studentId findings).1.rows) ∧
      (((writeVerdicts t g studentId findings).1.select (verdictOf g studentId [.active])).map
        Attribution.finding).Perm recorded) ↔
      (findings.filter (unvetoed t g studentId)).Perm recorded := by
  have written := active_findings studentId unique distinct inside
  constructor
  · intro undisturbed
    exact written.symm.trans undisturbed.2
  · intro same
    refine ⟨?_, written.trans same⟩
    intro r stored active
    have listed : r.finding ∈ (t.select (verdictOf g studentId [.active])).map Attribution.finding :=
      List.mem_map_of_mem (List.mem_filter.mpr ⟨stored, active⟩)
    have again := same.mem_iff.mpr (held.mem_iff.mp listed)
    exact mem_writeVerdicts_of_finding unique distinct stored (verdictOf_active_standing active)
      (List.mem_filter.mp again).1

end

section
variable [Field K] [LinearOrder K] [FloorRing K] (cfg : Config K)

def serve (g : KpGraph K) (a : Archive K) : Request → Archive K
  | .diagnosis studentId examId asOf today =>
    match getOrGenerateDiagnosis cfg a g studentId examId asOf today with
    | .ok (after, _) => after
    | .error _ => a
  | .examReports examId now => generateExamReports cfg a g examId now

/-- The findings that the read path shows as the system's own, as of a pass. -/
def standing (db : Db K) (g : KpGraph K) (studentId : Nat) (p : Pass K) : List (AttributionFinding K) :=
  ((resolveAttributions cfg db g studentId p.classId p.asOf p.eventsBySk).filter
    (fun e => decide (e.verdict = .active))).map ResolvedAttribution.toAttributionFinding

/-- What a request must leave of the verdicts that a pass has recorded: every active row as it is, and no other
    active finding than the pass derives. -/
structure Undisturbed (g : KpGraph K) (studentId : Nat) (later : Pass K) (before after : Db K) : Prop where
  kept : ∀ r ∈ before.attributions.rows, verdictOf g studentId [.active] r = true → r ∈ after.attributions.rows
  current : ((after.attributions.select (verdictOf g studentId [.active])).map Attribution.finding).Perm
    (standing cfg after g studentId later)

/-- A database that differs in what no finding is derived from. -/
def updated (db : Db K) (attributions : Table (Attribution K)) (interventions : Table Intervention) : Db K :=
  { db with attributions := attributions, interventions := interventions }

def findingsAt (db : Db K) (g : KpGraph K) (studentId : Nat) (p : Pass K) : List (AttributionFinding K) :=
  findingsFor cfg db g studentId p.classId p.asOf p.eventsBySk

theorem findingsAt_nodup (db : Db K) (g : KpGraph K) (studentId : Nat) (p : Pass K) :
    ((findingsAt cfg db g studentId p).map AttributionFinding.key).Nodup :=
  findingsFor_nodup cfg db g studentId p.classId p.asOf p.eventsBySk

theorem findingsAt_inside (db : Db K) (g : KpGraph K) (studentId : Nat) (p : Pass K) :
    ∀ f ∈ findingsAt cfg db g studentId p, f.kpId ∈ g.kpIds :=
  findingsFor_inside cfg db g studentId p.classId p.asOf p.eventsBySk

theorem standing_updated (db : Db K) (g : KpGraph K) (studentId : Nat) (p : Pass K)
    (attributions : Table (Attribution K)) (interventions : Table Intervention) :
    standing cfg (updated db attributions interventions) g studentId p =
      (findingsAt cfg db g studentId p).filter (unvetoed attributions g studentId) :=
  resolved_findings _ _

/-- The verdicts of several pupils written one after the other. -/
def writeAll (db : Db K) (g : KpGraph K) (p : Pass K) (t : Table (Attribution K)) (students : List Nat) :
    Table (Attribution K) :=
  students.foldl (fun t studentId => (writeVerdicts t g studentId (findingsAt cfg db g studentId p)).1) t

theorem pass_onePerCause (db : Db K) (g : KpGraph K) (studentId : Nat) (p : Pass K) {t : Table (Attribution K)}
    (unique : OnePerCause t) : OnePerCause (writeVerdicts t g studentId (findingsAt cfg db g studentId p)).1 :=
  writeVerdicts_onePerCause unique (findingsAt_nodup cfg db g studentId p) (findingsAt_inside cfg db g studentId p)

theorem writeAll_onePerCause (db : Db K) (g : KpGraph K) (p : Pass K) (students : List Nat) {t : Table (Attribution K)}
    (unique : OnePerCause t) : OnePerCause (writeAll cfg db g p t students) := by
  induction students generalizing t with
  | nil => exact unique
  | cons studentId students ih =>
    exact ih (pass_onePerCause cfg db g studentId p unique)

theorem select_writeAll (db : Db K) (g : KpGraph K) (p : Pass K) {students : List Nat} {t : Table (Attribution K)}
    (unique : OnePerCause t) {studentId : Nat} (absent : studentId ∉ students) :
    (writeAll cfg db g p t students).select (ofStudent studentId) = t.select (ofStudent studentId) := by
  induction students generalizing t with
  | nil => rfl
  | cons other students ih =>
    simp only [List.mem_cons, not_or] at absent
    have distinct := findingsAt_nodup cfg db g other p
    have rest := ih (pass_onePerCause cfg db g other p unique) absent.2
    exact rest.trans (select_other_writeVerdicts unique distinct (Ne.symm absent.1))

section
variable {db : Db K} {g : KpGraph K} {studentId : Nat} {later : Pass K} {t u : Table (Attribution K)}
  {ivs ivs' : Table Intervention}

/-- Whether a pass is undisturbed is a matter of the pupil's own rows. -/
theorem undisturbed_congr {t' u' : Table (Attribution K)}
    (before : t.select (ofStudent studentId) = t'.select (ofStudent studentId))
    (after : u.select (ofStudent studentId) = u'.select (ofStudent studentId)) :
    Undisturbed cfg g studentId later (updated db t ivs) (updated db u ivs') ↔
      Undisturbed cfg g studentId later (updated db t' ivs) (updated db u' ivs') := by
  have owner : ∀ {r : Attribution K}, verdictOf g studentId [.active] r = true → r.studentId = studentId :=
    fun active => (verdictOf_iff.mp active).1
  have derived : standing cfg (updated db u ivs') g studentId later =
      standing cfg (updated db u' ivs') g studentId later := by
    rw [standing_updated, standing_updated, unvetoed_of_select after]
  have shown : (updated db u ivs').attributions.select (verdictOf g studentId [.active]) =
      (updated db u' ivs').attributions.select (verdictOf g studentId [.active]) := by
    show u.select _ = u'.select _
    rw [select_verdictOf u, select_verdictOf u', after]
  constructor
  · intro undisturbed
    refine ⟨?_, ?_⟩
    · intro r stored active
      exact (mem_of_select after (owner active)).mp
        (undisturbed.kept r ((mem_of_select before (owner active)).mpr stored) active)
    · rw [← derived, ← shown]
      exact undisturbed.current
  · intro undisturbed
    refine ⟨?_, ?_⟩
    · intro r stored active
      exact (mem_of_select after (owner active)).mpr
        (undisturbed.kept r ((mem_of_select before (owner active)).mp stored) active)
    · rw [derived, shown]
      exact undisturbed.current

/-- The table records what a pass derives. -/
def Records (db : Db K) (g : KpGraph K) (studentId : Nat) (later : Pass K) (t : Table (Attribution K)) : Prop :=
  ((t.select (verdictOf g studentId [.active])).map Attribution.finding).Perm
    ((findingsAt cfg db g studentId later).filter (unvetoed t g studentId))

theorem Records.congr (same : t.select (ofStudent studentId) = u.select (ofStudent studentId))
    (records : Records cfg db g studentId later t) : Records cfg db g studentId later u := by
  unfold Records at records ⊢
  rw [select_verdictOf u, ← same, ← select_verdictOf t, ← unvetoed_of_select same]
  exact records

theorem undisturbed_self (records : Records cfg db g studentId later t) :
    Undisturbed cfg g studentId later (updated db t ivs) (updated db t ivs') where
  kept := fun _ stored _ => stored
  current := by
    rw [standing_updated]
    exact records

theorem undisturbed_write_iff (unique : OnePerCause t) (records : Records cfg db g studentId later t) (earlier : Pass K) :
    Undisturbed cfg g studentId later (updated db t ivs)
        (updated db (writeVerdicts t g studentId (findingsAt cfg db g studentId earlier)).1 ivs') ↔
      (standing cfg (updated db t ivs) g studentId earlier).Perm
        (standing cfg (updated db t ivs) g studentId later) := by
  have distinct := findingsAt_nodup cfg db g studentId earlier
  have written := write_undisturbed_iff unique distinct (findingsAt_inside cfg db g studentId earlier) records
  have derived : standing cfg (updated db (writeVerdicts t g studentId (findingsAt cfg db g studentId earlier)).1 ivs')
      g studentId later = (findingsAt cfg db g studentId later).filter (unvetoed t g studentId) := by
    rw [standing_updated, unvetoed_writeVerdicts unique distinct]
  rw [standing_updated, standing_updated]
  refine Iff.trans ?_ written
  constructor
  · intro undisturbed
    exact ⟨undisturbed.kept, derived ▸ undisturbed.current⟩
  · intro undisturbed
    exact ⟨undisturbed.1, derived ▸ undisturbed.2⟩

/-- A run over a class disturbs a pupil's verdicts as its pass over this pupil alone does. -/
theorem undisturbed_writeAll_iff (unique : OnePerCause t) (records : Records cfg db g studentId later t) (earlier : Pass K)
    {students : List Nat} (once : students.Nodup) :
    Undisturbed cfg g studentId later (updated db t ivs) (updated db (writeAll cfg db g earlier t students) ivs') ↔
      (studentId ∈ students → (standing cfg (updated db t ivs) g studentId earlier).Perm
        (standing cfg (updated db t ivs) g studentId later)) := by
  by_cases member : studentId ∈ students
  · obtain ⟨first, rest, rfl⟩ := List.append_of_mem member
    obtain ⟨_, absentRest, absentFirst⟩ : first.Nodup ∧ studentId ∉ rest ∧ studentId ∉ first := by
      rw [List.nodup_append, List.nodup_cons] at once
      exact ⟨once.1, once.2.1.1, fun early => once.2.2 studentId early studentId (by simp) rfl⟩
    have uniqueMid : OnePerCause (writeAll cfg db g earlier t first) := writeAll_onePerCause cfg db g earlier first unique
    have before : (writeAll cfg db g earlier t first).select (ofStudent studentId) = t.select (ofStudent studentId) :=
      select_writeAll cfg db g earlier unique absentFirst
    have split : writeAll cfg db g earlier t (first ++ studentId :: rest) =
        writeAll cfg db g earlier (writeVerdicts (writeAll cfg db g earlier t first) g studentId
          (findingsAt cfg db g studentId earlier)).1 rest := by
      unfold writeAll
      rw [List.foldl_append]
      rfl
    have after := select_writeAll cfg db g earlier (pass_onePerCause cfg db g studentId earlier uniqueMid) absentRest
    rw [split, undisturbed_congr cfg before.symm after,
      undisturbed_write_iff cfg uniqueMid (records.congr cfg before.symm) earlier, standing_updated, standing_updated,
      standing_updated, standing_updated, unvetoed_of_select before]
    simp
  · have same := select_writeAll cfg db g earlier unique member
    rw [undisturbed_congr cfg rfl same]
    exact ⟨fun _ asked => absurd asked member, fun _ => undisturbed_self cfg records⟩

end

theorem diagnose_db (a : Archive K) (g : KpGraph K) (studentId : Nat) (examId : Option Nat) (cutoff : DateTime) :
    (∃ student, a.db.students.get? studentId = some student ∧ ∃ after report,
        diagnose cfg a g studentId examId cutoff = .ok (after, report, true) ∧
        after.db = updated a.db (writeVerdicts a.db.attributions g studentId
          (findingsAt cfg a.db g studentId ⟨student.classId, cutoff, none⟩)).1 a.db.interventions) ∨
      a.db.students.get? studentId = none ∧ diagnose cfg a g studentId examId cutoff = .error (.noStudent studentId) := by
  unfold diagnose
  cases a.db.students.get? studentId with
  | none => exact Or.inr ⟨rfl, rfl⟩
  | some student => exact Or.inl ⟨student, rfl, _, _, rfl, rfl⟩

/-- A diagnosis writes the verdicts of its pass, if it makes one, and nothing else of the database. -/
theorem diagnosis_db (a : Archive K) (g : KpGraph K) (studentId : Nat) (examId : Option Nat) (asOf : Option Date)
    (today : Date) :
    (serve cfg g a (.diagnosis studentId examId asOf today)).db =
      match passOf g a studentId (.diagnosis studentId examId asOf today) with
      | none => a.db
      | some p =>
        updated a.db (writeVerdicts a.db.attributions g studentId (findingsAt cfg a.db g studentId p)).1
          a.db.interventions := by
  have answered : ∀ exam cutoff, (match diagnose cfg a g studentId exam cutoff with
      | .ok (after, _) => after
      | .error _ => a).db =
        match (a.db.students.get? studentId).bind (fun student =>
          (some cutoff).map (fun cutoff => (⟨student.classId, cutoff, none⟩ : Pass K))) with
        | none => a.db
        | some p =>
          updated a.db (writeVerdicts a.db.attributions g studentId (findingsAt cfg a.db g studentId p)).1
            a.db.interventions := by
    intro exam cutoff
    rcases diagnose_db cfg a g studentId exam cutoff with ⟨student, known, after, report, done, written⟩ | ⟨absent, failed⟩
    · rw [done, known]
      exact written
    · rw [failed, absent]
      rfl
  have silent : (match (a.db.students.get? studentId).bind (fun student =>
      (none : Option DateTime).map (fun cutoff => (⟨student.classId, cutoff, none⟩ : Pass K))) with
        | none => a.db
        | some p =>
          updated a.db (writeVerdicts a.db.attributions g studentId (findingsAt cfg a.db g studentId p)).1
            a.db.interventions) = a.db := by
    cases a.db.students.get? studentId <;> rfl
  simp only [serve, passOf, getOrGenerateDiagnosis, cutoffOf, if_true]
  cases examId with
  | some exam =>
    dsimp only
    cases storedDiagnosis a studentId exam with
    | some report => exact silent.symm
    | none =>
      dsimp only [Option.isSome_none, Bool.false_eq_true, if_false]
      cases a.db.templates.get? exam with
      | none => exact silent.symm
      | some template => exact answered (some exam) (examAsOf template)
  | none =>
    dsimp only
    cases asOf with
    | some date => exact answered none (dayEnd date)
    | none =>
      dsimp only
      cases latestStoredDiagnosis a studentId with
      | some report => exact silent.symm
      | none => exact answered none (dayEnd today)

theorem reportStudents_db (g : KpGraph K) (template : ExamTemplate) (eventsBySk : Batch K) (students : List Nat)
    (a : Archive K) :
    (students.foldl (reportStudent cfg g template eventsBySk) a).db =
      updated a.db (writeAll cfg a.db g ⟨template.classId, examAsOf template, some eventsBySk⟩ a.db.attributions students)
        a.db.interventions := by
  induction students generalizing a with
  | nil => rfl
  | cons studentId students ih =>
    rw [List.foldl_cons, ih]
    rfl

theorem examReports_db (a : Archive K) (g : KpGraph K) (examId : Nat) (now : DateTime) :
    (a.db.templates.get? examId = none ∧ serve cfg g a (.examReports examId now) = a) ∨
      ∃ template interventions, a.db.templates.get? examId = some template ∧
        (serve cfg g a (.examReports examId now)).db =
          updated a.db (writeAll cfg a.db g ⟨template.classId, examAsOf template, some (examBatch a.db g template)⟩
            a.db.attributions (reportStudentIds a.db examId)) interventions := by
  unfold serve generateExamReports
  dsimp only
  cases a.db.templates.get? examId with
  | none => exact Or.inl ⟨rfl, rfl⟩
  | some template =>
    refine Or.inr ⟨template, ?_⟩
    dsimp only
    split
    · rename_i unanswered
      have nobody : reportStudentIds a.db examId = [] := by
        unfold reportStudentIds
        rw [List.isEmpty_iff.mp unanswered]
        simp [Table.select]
      rw [nobody]
      exact ⟨a.db.interventions, rfl, rfl⟩
    · split
      · exact ⟨_, rfl, reportStudents_db cfg g template _ _ _⟩
      · have suggested : ∀ b : Archive K, ∃ interventions,
            (reportClass cfg g template (examBatch a.db g template) now b).db =
              updated b.db b.db.attributions interventions := fun b => ⟨_, rfl⟩
        obtain ⟨interventions, written⟩ := suggested ((reportStudentIds a.db examId).foldl
          (reportStudent cfg g template (examBatch a.db g template))
          { a with reports := a.reports.deleteWhere (fun r => r.examId == some examId && r.type.ofExam) })
        refine ⟨interventions, rfl, ?_⟩
        rw [written, reportStudents_db]
        rfl

/-- A request disturbs what a pass has recorded unless its own pass, if it makes one, finds the same. -/
theorem undisturbed_serve_iff {a : Archive K} {g : KpGraph K} {studentId : Nat} {later : Pass K}
    (unique : OnePerCause a.db.attributions) (records : Records cfg a.db g studentId later a.db.attributions)
    (request : Request) :
    Undisturbed cfg g studentId later a.db (serve cfg g a request).db ↔
      ∀ earlier, passOf g a studentId request = some earlier →
        (standing cfg a.db g studentId earlier).Perm (standing cfg a.db g studentId later) := by
  cases request with
  | diagnosis who examId asOf today =>
    rw [diagnosis_db]
    by_cases own : who = studentId
    · subst own
      cases made : passOf g a who (.diagnosis who examId asOf today) with
      | none =>
        refine ⟨fun _ => nofun, fun _ => ?_⟩
        exact undisturbed_self cfg records
      | some p =>
        refine Iff.trans (undisturbed_write_iff cfg unique records p) ?_
        exact ⟨fun same earlier found => Option.some.inj found ▸ same, fun same => same p rfl⟩
    · have elsewhere : passOf g a studentId (.diagnosis who examId asOf today) = none := by
        simp only [passOf, if_neg own]
      have untouched : Undisturbed cfg g studentId later a.db
          (match passOf g a who (.diagnosis who examId asOf today) with
            | none => a.db
            | some p => updated a.db (writeVerdicts a.db.attributions g who (findingsAt cfg a.db g who p)).1
                a.db.interventions) := by
        cases passOf g a who (.diagnosis who examId asOf today) with
        | none => exact undisturbed_self cfg records
        | some p =>
          have same := select_other_writeVerdicts (g := g) unique (findingsAt_nodup cfg a.db g who p) own
          exact (undisturbed_congr cfg rfl same).mpr (undisturbed_self cfg records)
      rw [elsewhere]
      exact ⟨fun _ => nofun, fun _ => untouched⟩
  | examReports examId now =>
    rcases examReports_db cfg a g examId now with ⟨missing, same⟩ | ⟨template, interventions, known, written⟩
    · rw [same]
      simp only [passOf, missing, Option.bind_none]
      exact ⟨fun _ => nofun, fun _ => undisturbed_self cfg records⟩
    · rw [written]
      refine Iff.trans (undisturbed_writeAll_iff cfg unique records _ (nodup_reportStudentIds a.db examId)) ?_
      simp only [passOf, known, Option.bind_some]
      constructor
      · intro same earlier found
        split at found
        · rename_i reported
          exact Option.some.inj found ▸ same reported
        · cases found
      · intro same reported
        exact same _ (if_pos reported)

/-- Whatever the verdicts were and whatever passes were made before: a request that follows a pass leaves what the
    pass recorded exactly when the request makes no pass of its own over the pupil, or one that derives the same. -/
theorem historical_pass_iff (actions : List (Action K)) (env : Db K) (reports : Table Report) (g : KpGraph K)
    (studentId : Nat) (later : Pass K) (request : Request) :
    let db := { env with attributions := Protocol.run (step cfg) Table.empty actions }
    let verdicts := materializeAttributionVerdicts cfg db g studentId later.classId later.asOf later.eventsBySk
    let before : Archive K := ⟨{ db with attributions := verdicts.1 }, reports⟩
    Undisturbed cfg g studentId later before.db (serve cfg g before request).db ↔
      ∀ earlier, passOf g before studentId request = some earlier →
        (standing cfg before.db g studentId earlier).Perm (standing cfg before.db g studentId later) := by
  intro db verdicts before
  have unique : OnePerCause db.attributions := run_onePerCause cfg actions
  have distinct := findingsAt_nodup cfg db g studentId later
  have inside := findingsAt_inside cfg db g studentId later
  have uniqueAfter : OnePerCause before.db.attributions := writeVerdicts_onePerCause unique distinct inside
  have records : Records cfg before.db g studentId later before.db.attributions := by
    have recorded := active_findings studentId unique distinct inside
    rw [← unvetoed_writeVerdicts unique distinct] at recorded
    exact recorded
  exact undisturbed_serve_iff cfg uniqueAfter records request

end

/-- A point that the class is taught on day 3 and nobody has answered on yet. -/
def taughtLater : Db ℚ :=
  { Db.empty ℚ with
    classes := .ofList [⟨1, 7⟩]
    students := .ofList [⟨1, 1, "甲"⟩]
    progress := .ofList [⟨1, 1, 9, 3⟩] }

def fifthDay : Pass ℚ := ⟨1, dayEnd 5, none⟩

def diagnosedFifth : Archive ℚ :=
  ⟨{ taughtLater with
      attributions := (materializeAttributionVerdicts Config.rational taughtLater comparedGraph 1 1 (dayEnd 5) none).1 },
    .empty⟩

/-- Reading the diagnosis as of day 1 resolves the hypothesis that holds since day 3. -/
theorem historical_read_resolves :
    dayEnd 1 < fifthDay.asOf ∧
    passOf comparedGraph diagnosedFifth 1 (.diagnosis 1 none (some 1) 5) = some ⟨1, dayEnd 1, none⟩ ∧
    diagnosedFifth.db.attributions.rows.map (fun r => (r.id, r.kpId, r.type, r.status)) =
      [(1, 9, .insufficient, .active)] ∧
    (serve Config.rational comparedGraph diagnosedFifth (.diagnosis 1 none (some 1) 5)).db.attributions.rows.map
      (fun r => (r.id, r.kpId, r.type, r.status)) = [(1, 9, .insufficient, .resolved)] ∧
    ¬ Undisturbed Config.rational comparedGraph 1 fifthDay diagnosedFifth.db
      (serve Config.rational comparedGraph diagnosedFifth (.diagnosis 1 none (some 1) 5)).db := by
  have resolved : (serve Config.rational comparedGraph diagnosedFifth (.diagnosis 1 none (some 1) 5)).db.attributions.rows.map
      (fun r => (r.id, r.kpId, r.type, r.status)) = [(1, 9, .insufficient, .resolved)] := by decide +kernel
  refine ⟨by decide, rfl, by decide +kernel, resolved, ?_⟩
  intro undisturbed
  have active : ∀ r ∈ diagnosedFifth.db.attributions.rows, verdictOf comparedGraph 1 [.active] r = true := by
    decide +kernel
  have some_row : ∃ r, r ∈ diagnosedFifth.db.attributions.rows := by
    refine List.exists_mem_of_ne_nil _ ?_
    decide +kernel
  obtain ⟨r, stored⟩ := some_row
  have kept := undisturbed.kept r stored (active r stored)
  have listed := List.mem_map_of_mem (f := fun r => (r.id, r.kpId, r.type, r.status)) kept
  rw [resolved, List.mem_singleton] at listed
  have status := verdictOf_active_standing (active r stored)
  have gone : r.status = .resolved := congrArg (fun e => e.2.2.2) listed
  rw [gone] at status
  cases status

end KnowledgeGap.Verdicts
