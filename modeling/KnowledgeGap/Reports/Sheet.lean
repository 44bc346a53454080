import KnowledgeGap.Intervention.Summary
import KnowledgeGap.Intervention.View
import KnowledgeGap.Reports.Generation
import KnowledgeGap.Reports.Quality

namespace KnowledgeGap.Reports

open Relational

/-- An entry of `common_weak`. -/
structure SheetWeak where
  kp : String
  weakSharePct : Int
  classAvgMasteryPct : Int
  deriving DecidableEq, Repr

/-- `trend`, with the exam for its name. -/
structure Trend where
  prevExam : Nat
  entered : List String
  exited : List String
  deriving DecidableEq, Repr

structure SheetStatus where
  studentCount : Nat
  examCount : Nat
  dataAsOf : Option Date
  weakKpTotal : Nat
  commonWeak : List SheetWeak
  trend : Option Trend
  deriving DecidableEq, Repr

structure PastExam where
  examId : Nat
  examDate : Date
  type : ExamType
  deriving DecidableEq, Repr

structure DiagnosisSheet (K : Type) where
  classId : Nat
  status : SheetStatus
  improvementAdvice : Option FiledReport
  pendingConfirm : Nat
  rows : List ViewRow
  interventionSummary : InterventionSummary K
  pastExams : List PastExam

/-- A value of `per_class_common`. -/
structure WeakValues (K : Type) where
  name : String
  values : List K

variable {K : Type}

def WeakValues.add (st : WeakValues K) (a : KpAssessment K) : WeakValues K :=
  { st with values := st.values ++ a.mastery.toList }

/-- `ORDER BY exam_date DESC, id DESC` -/
def newestTemplate : ExamTemplate → ExamTemplate → Bool :=
  lexicographic (fun a b => decide (b.examDate ≤ a.examDate)) (fun a b => decide (b.id ≤ a.id))

def datedExams (s : Office K) (classId : Nat) : List ExamTemplate :=
  stableSort newestTemplate (submittedExams s classId)

def nameOf (db : Db K) (g : KpGraph K) (kpId : Nat) : Except EffectError String :=
  match g.kp? db kpId with
  | some p => .ok p.name
  | none => .error (.unknownPoint kpId)

def byName (a b : String) : Bool := decide (a ≤ b)

def byMasteryPct (a b : SheetWeak) : Bool := decide (a.classAvgMasteryPct ≤ b.classAvgMasteryPct)

section
variable [Field K] [LinearOrder K] [FloorRing K]

/-- The evidence of a class up to the end of an exam's day. -/
def classBatch (db : Db K) (g : KpGraph K) (classId : Nat) (exam : ExamTemplate) : Batch K :=
  getEventsBatch db (db.classStudentIds classId) (g.gradeKpIds (classGrade db classId)) (examAsOf exam)

/-- The assessments of some pupils that count, at an exam. -/
def countedAt (cfg : Config K) (db : Db K) (g : KpGraph K) (classId : Nat) (exam : ExamTemplate) (ids : List Nat) :
    List (KpAssessment K) :=
  (ids.flatMap (fun sid =>
    assessStudentKps cfg db g sid classId (examAsOf exam) (some (classBatch db g classId exam)))).filter KpAssessment.valid

def submitters (db : Db K) (exam : ExamTemplate) : List Nat :=
  (db.responses.select (fun r => r.examTemplateId == exam.id && decide (r.status = .submitted))).map
    ExamResponse.studentId

/-- `_common_weak_of_exam`; the second component is the average rate, which it leaves open. -/
def commonWeakOfExam (cfg : Config K) (db : Db K) (g : KpGraph K) (classId : Nat) (exam : ExamTemplate) :
    Except EffectError (List String × Option K) :=
  let committed := submitters db exam
  if committed.isEmpty then .ok ([], none)
  else do
    let counted := countedAt cfg db g classId exam committed
    let nAssessed := Dict.count KpAssessment.kpId counted
    let weakCount := Dict.count KpAssessment.kpId (counted.filter KpAssessment.isWeak)
    let common := weakCount.entries.filter (fun e => decide (4 ≤ nAssessed.getD e.1 0) &&
      decide (classCommonWeakRatio K ≤ (e.2 : K) / (nAssessed.getD e.1 0 : Nat)))
    let names ← common.mapM (fun e => nameOf db g e.1)
    return (stableSort byName names, none)

/-- The points weak in common at the latest exam, the lowest first. -/
def commonOfLatest (counted : List (KpAssessment K)) : List SheetWeak :=
  let nAssessed := Dict.count KpAssessment.kpId counted
  let weak := counted.filter KpAssessment.isWeak
  let weakCount := Dict.count KpAssessment.kpId weak
  let perClassCommon := Dict.accumulate KpAssessment.kpId (fun a => (⟨a.kpName, []⟩ : WeakValues K)) WeakValues.add weak
  stableSort byMasteryPct (perClassCommon.entries.filterMap (fun e =>
    let share := ((weakCount.getD e.1 0 : Nat) : K) / (max (nAssessed.getD e.1 1) 1 : Nat)
    if 4 ≤ nAssessed.getD e.1 0 ∧ classCommonWeakRatio K ≤ share then
      some ⟨e.2.name, roundHalfEven (share * ((100 : Nat) : K)), roundHalfEven (mean e.2.values * ((100 : Nat) : K))⟩
    else none))

def trendOf (prevExam : Nat) (currNames prevNames : List String) : Trend where
  prevExam := prevExam
  entered := stableSort byName (currNames.dedup.filter (fun name => decide (name ∉ prevNames)))
  exited := stableSort byName (prevNames.dedup.filter (fun name => decide (name ∉ currNames)))

def sheetStatus (cfg : Config K) (s : Office K) (g : KpGraph K) (classId : Nat) : Except EffectError SheetStatus := do
  let exams := datedExams s classId
  let studentIds := s.db.classStudentIds classId
  let base : SheetStatus :=
    { studentCount := studentIds.length, examCount := exams.length, dataAsOf := exams.head?.map ExamTemplate.examDate,
      weakKpTotal := 0, commonWeak := [], trend := none }
  match exams with
  | [] => return base
  | latest :: earlier =>
    let committed := submitters s.db latest
    let counted := countedAt cfg s.db g classId latest (studentIds.filter (fun sid => decide (sid ∈ committed)))
    let status := { base with
      weakKpTotal := ((counted.filter KpAssessment.isWeak).map KpAssessment.kpId).dedup.length
      commonWeak := (commonOfLatest counted).take 5 }
    match earlier with
    | [] => return status
    | prev :: _ =>
      let (prevNames, _) ← commonWeakOfExam cfg s.db g classId prev
      return { status with trend := some (trendOf prev.id (status.commonWeak.map SheetWeak.kp) prevNames) }

/-- `class_diagnosis_sheet`; `now` is the local time of the queue and of the summary. -/
def classDiagnosisSheet (cfg : Config K) (s : Office K) (g : KpGraph K) (classId : Nat) (now : DateTime) :
    Except EffectError (DiagnosisSheet K) := do
  let status ← sheetStatus cfg s g classId
  let plan := actionPlanView cfg s.db g classId none none now
  let summary ← interventionSummary cfg s.db g classId none now
  return { classId := classId
           status := status
           improvementAdvice := latestAdvice s classId
           pendingConfirm := plan.pendingConfirm
           rows := plan.rows
           interventionSummary := summary
           pastExams := ((datedExams s classId).take 12).map (fun e => ⟨e.id, e.examDate, e.type⟩) }

variable (cfg : Config K) (db : Db K) (g : KpGraph K) (classId : Nat) (exam : ExamTemplate)

/-- The assessments that count at an exam, of the pupils of the class who submitted it. -/
def classAssessments : List (KpAssessment K) :=
  (((db.classStudentIds classId).filter (fun sid => decide (sid ∈ submitters db exam))).flatMap (fun sid =>
    assessStudentKps cfg db g sid classId (examAsOf exam) none)).filter KpAssessment.valid

/-- A point is weak in common at an exam. -/
def CommonAt (kpId : Nat) : Prop := CommonNeed (classAssessments cfg db g classId exam) kpId

instance (kpId : Nat) : Decidable (CommonAt cfg db g classId exam kpId) :=
  inferInstanceAs (Decidable (CommonNeed _ _))

def commonPoints : List (KnowledgePoint K) :=
  g.points.filter (fun p => decide (CommonAt cfg db g classId exam p.id))

/-- A pupil has one answer sheet for an exam, as `uq_tpl_student` says. -/
def OneResponse (db : Db K) : Prop := (db.responses.rows.map (fun r => (r.examTemplateId, r.studentId))).Nodup

theorem countedAt_class : countedAt cfg db g classId exam
    ((db.classStudentIds classId).filter (fun sid => decide (sid ∈ submitters db exam))) =
      classAssessments cfg db g classId exam := rfl

variable {cfg db g classId exam}

/-- Who has left the class has no evidence in the batch. -/
theorem assess_outsider {sid : Nat} (left : sid ∉ db.classStudentIds classId) :
    (assessStudentKps cfg db g sid classId (examAsOf exam) (some (classBatch db g classId exam))).filter
      KpAssessment.valid = [] := by
  rw [List.filter_eq_nil_iff]
  intro a assessed valid
  have ⟨p, _, made⟩ := List.mem_map.mp assessed
  have silent : (classBatch db g classId exam).getD (sid, p.id) [] = [] := by
    unfold classBatch
    rw [getD_getEventsBatch, if_neg (fun asked => left asked.1)]
  have same := assessKp_same cfg (coveredKpIds db classId (some (examAsOf exam))) (examAsOf exam)
    (db.classStudentIds classId) (fun s k => (classBatch db g classId exam).getD (s, k) []) sid p
  rw [made, silent] at same
  have gated : a.gate ≠ none := by
    rw [same.gate]
    unfold measure
    dsimp only
    split <;> simp
  unfold KpAssessment.valid at valid
  simp [gated] at valid

omit [Field K] [LinearOrder K] [FloorRing K] in
theorem nodup_submitters (one : OneResponse db) : (submitters db exam).Nodup := by
  unfold submitters Table.select
  have pairs := (List.filter_sublist (p := fun r : ExamResponse K => r.examTemplateId == exam.id &&
    decide (r.status = .submitted)) (l := db.responses.rows)).map (fun r => (r.examTemplateId, r.studentId))
  have owners : (db.responses.rows.filter (fun r => r.examTemplateId == exam.id && decide (r.status = .submitted))).map
        (fun r => (r.examTemplateId, r.studentId)) =
      ((db.responses.rows.filter (fun r => r.examTemplateId == exam.id && decide (r.status = .submitted))).map
        ExamResponse.studentId).map (fun sid => (exam.id, sid)) := by
    rw [List.map_map]
    apply List.map_congr_left
    intro r listed
    have chosen := (List.mem_filter.mp listed).2
    simp only [Bool.and_eq_true, beq_iff_eq] at chosen
    rw [chosen.1]
    rfl
  have distinct := pairs.nodup one
  rw [owners] at distinct
  exact List.Nodup.of_map _ distinct

variable (cfg g classId exam) in
/-- Both ways of going through an exam come to the same assessments. -/
theorem countedAt_perm (one : OneResponse db) :
    (countedAt cfg db g classId exam (submitters db exam)).Perm (classAssessments cfg db g classId exam) := by
  have enrolled : ((submitters db exam).filter (fun sid => decide (sid ∈ db.classStudentIds classId))).Perm
      ((db.classStudentIds classId).filter (fun sid => decide (sid ∈ submitters db exam))) := by
    rw [List.perm_ext_iff_of_nodup ((nodup_submitters one).filter _) ((nodup_classStudentIds db classId).filter _)]
    intro sid
    rw [List.mem_filter, List.mem_filter, decide_eq_true_eq, decide_eq_true_eq]
    exact and_comm
  have kept : ∀ ids : List Nat, countedAt cfg db g classId exam ids =
      countedAt cfg db g classId exam (ids.filter (fun sid => decide (sid ∈ db.classStudentIds classId))) := by
    intro ids
    unfold countedAt
    rw [List.filter_flatMap, List.filter_flatMap]
    induction ids with
    | nil => rfl
    | cons sid ids ih =>
      by_cases inside : sid ∈ db.classStudentIds classId
      · rw [List.filter_cons_of_pos (by simpa using inside), List.flatMap_cons, List.flatMap_cons, ih]
      · rw [List.filter_cons_of_neg (by simpa using inside), List.flatMap_cons, ih, assess_outsider inside, List.nil_append]
  rw [kept, ← countedAt_class]
  exact (enrolled.flatMap_right _).filter _

omit [FloorRing K] in
theorem commonNeed_congr {left right : List (KpAssessment K)} (same : left.Perm right) (kpId : Nat) :
    CommonNeed left kpId ↔ CommonNeed right kpId := by
  unfold CommonNeed
  dsimp only
  rw [same.countP_eq, (same.filter KpAssessment.isWeak).countP_eq]

theorem commonAt_known {kpId : Nat} (common : CommonAt cfg db g classId exam kpId) :
    ∃ p ∈ commonPoints cfg db g classId exam, p.id = kpId := by
  have ⟨a, listed, own⟩ := List.countP_pos_iff.mp common.1
  have assessed := List.mem_of_mem_filter (List.mem_of_mem_filter listed)
  have ⟨sid, _, judged⟩ := List.mem_flatMap.mp assessed
  have ⟨p, known, id, _⟩ := assessStudentKps_point judged
  have same : p.id = kpId := id.trans (of_decide_eq_true own)
  refine ⟨p, List.mem_filter.mpr ⟨known, decide_eq_true ?_⟩, same⟩
  rw [same]
  exact common

variable (cfg db g classId exam) in
/-- Any list of the points weak in common, once each. -/
theorem perm_commonPoints {ids : List Nat} (distinct : ids.Nodup)
    (listed : ∀ kpId, kpId ∈ ids ↔ CommonAt cfg db g classId exam kpId) :
    ids.Perm ((commonPoints cfg db g classId exam).map KnowledgePoint.id) := by
  have distinct' : ((commonPoints cfg db g classId exam).map KnowledgePoint.id).Nodup :=
    (List.filter_sublist.map KnowledgePoint.id).nodup g.nodup
  rw [List.perm_ext_iff_of_nodup distinct distinct']
  intro kpId
  rw [listed]
  constructor
  · intro common
    have ⟨p, known, own⟩ := commonAt_known common
    exact List.mem_map.mpr ⟨p, known, own⟩
  · intro known
    have ⟨p, chosen, own⟩ := List.mem_map.mp known
    rw [← own]
    exact of_decide_eq_true (List.mem_filter.mp chosen).2

/-- `graph.kp(kp_id).name` for a point of the graph. -/
def nameIn (g : KpGraph K) (kpId : Nat) : String := ((g.find? kpId).map KnowledgePoint.name).getD ""

omit [Field K] [LinearOrder K] [FloorRing K] in
theorem nameIn_of_mem {p : KnowledgePoint K} (known : p ∈ g.points) : nameIn g p.id = p.name := by
  rw [nameIn, KpGraph.find?_of_mem known]
  rfl

theorem map_nameIn_commonPoints : ((commonPoints cfg db g classId exam).map KnowledgePoint.id).map (nameIn g) =
    (commonPoints cfg db g classId exam).map KnowledgePoint.name := by
  rw [List.map_map]
  apply List.map_congr_left
  intro p listed
  exact nameIn_of_mem (List.mem_of_mem_filter listed)

omit [Field K] [LinearOrder K] [FloorRing K] in
theorem nameOf_of_mem {p : KnowledgePoint K} (known : p ∈ g.points) : nameOf db g p.id = .ok p.name := by
  unfold nameOf KpGraph.kp?
  rw [KpGraph.find?_of_mem known]
  rfl

omit [FloorRing K] in
theorem mem_weakCount {counted : List (KpAssessment K)} {kpId : Nat} :
    kpId ∈ ((Dict.count KpAssessment.kpId (counted.filter KpAssessment.isWeak)).entries.filter (fun e =>
        decide (4 ≤ (Dict.count KpAssessment.kpId counted).getD e.1 0) &&
          decide (classCommonWeakRatio K ≤ (e.2 : K) / ((Dict.count KpAssessment.kpId counted).getD e.1 0 : Nat)))).map
            Prod.fst ↔
      CommonNeed counted kpId := by
  rw [List.mem_map]
  constructor
  · intro listed
    have ⟨e, chosen, own⟩ := listed
    have ⟨entry, held⟩ := List.mem_filter.mp chosen
    have ⟨positive, weak⟩ := (Dict.mem_entries_count _ _ e.1 e.2).mp entry
    rw [Dict.getD_count, Bool.and_eq_true, decide_eq_true_eq, decide_eq_true_eq, own] at held
    rw [own] at weak
    rw [weak] at positive held
    exact ⟨positive, held.1, held.2⟩
  · intro need
    refine ⟨(kpId, _), List.mem_filter.mpr ⟨(Dict.mem_entries_count _ _ _ _).mpr ⟨need.1, rfl⟩, ?_⟩, rfl⟩
    rw [Dict.getD_count, Bool.and_eq_true, decide_eq_true_eq, decide_eq_true_eq]
    exact need.2

variable (cfg g classId exam) in
theorem commonWeakOfExam_ok (one : OneResponse db) :
    ∃ names, commonWeakOfExam cfg db g classId exam = .ok (names, none) ∧
      names.Perm ((commonPoints cfg db g classId exam).map KnowledgePoint.name) := by
  have same := countedAt_perm cfg g classId exam one
  unfold commonWeakOfExam
  dsimp only
  split
  · rename_i empty
    rw [List.isEmpty_iff.mp empty] at same
    have none_ : classAssessments cfg db g classId exam = [] := same.symm.eq_nil
    have nothing : commonPoints cfg db g classId exam = [] := by
      rw [commonPoints, List.filter_eq_nil_iff]
      intro p _ common
      have weak := (of_decide_eq_true common : CommonAt cfg db g classId exam p.id).1
      rw [none_] at weak
      exact Nat.lt_irrefl 0 weak
    rw [nothing]
    exact ⟨[], rfl, List.Perm.refl _⟩
  · generalize counts : countedAt cfg db g classId exam (submitters db exam) = counted at same ⊢
    generalize kept : (Dict.count KpAssessment.kpId (counted.filter KpAssessment.isWeak)).entries.filter _ = common
    have distinct : (common.map Prod.fst).Nodup := by
      rw [← kept]
      exact (List.filter_sublist.map Prod.fst).nodup (Dict.count KpAssessment.kpId _).nodup
    have listed : ∀ kpId, kpId ∈ common.map Prod.fst ↔ CommonAt cfg db g classId exam kpId := by
      intro kpId
      rw [CommonAt, ← commonNeed_congr same, ← kept]
      exact mem_weakCount
    have ids := perm_commonPoints cfg db g classId exam distinct listed
    have named : common.mapM (fun e => nameOf db g e.1) = .ok ((common.map Prod.fst).map (nameIn g)) := by
      rw [List.map_map]
      apply mapM_ok
      intro e member
      rcases commonAt_known ((listed e.1).mp (List.mem_map_of_mem member)) with ⟨p, point, own⟩
      have known := List.mem_of_mem_filter point
      rw [Function.comp_apply, ← own, nameIn_of_mem known]
      exact nameOf_of_mem known
    rw [named]
    refine ⟨_, rfl, ?_⟩
    rw [← map_nameIn_commonPoints]
    exact (perm_stableSort byName _).trans (ids.map _)

/-- The test an entry of `per_class_common` has to pass. -/
def isCommon (counted : List (KpAssessment K)) (e : Nat × WeakValues K) : Bool :=
  decide (4 ≤ (Dict.count KpAssessment.kpId counted).getD e.1 0 ∧
    classCommonWeakRatio K ≤
      (((Dict.count KpAssessment.kpId (counted.filter KpAssessment.isWeak)).getD e.1 0 : Nat) : K) /
        (max ((Dict.count KpAssessment.kpId counted).getD e.1 1) 1 : Nat))

def perClassCommon (counted : List (KpAssessment K)) : Dict Nat (WeakValues K) :=
  Dict.accumulate KpAssessment.kpId (fun a => (⟨a.kpName, []⟩ : WeakValues K)) WeakValues.add
    (counted.filter KpAssessment.isWeak)

theorem filterMap_ite {α β : Type} (c : α → Prop) [DecidablePred c] (f : α → β) (xs : List α) :
    xs.filterMap (fun x => if c x then some (f x) else none) = (xs.filter (fun x => decide (c x))).map f := by
  induction xs with
  | nil => rfl
  | cons x xs ih =>
    by_cases held : c x
    · simp [held, ih]
    · simp [held, ih]

theorem perm_commonOfLatest (counted : List (KpAssessment K)) : ((commonOfLatest counted).map SheetWeak.kp).Perm
    (((perClassCommon counted).entries.filter (isCommon counted)).map (fun e => e.2.name)) := by
  unfold commonOfLatest
  dsimp only
  rw [filterMap_ite]
  refine ((perm_stableSort byMasteryPct _).map SheetWeak.kp).trans ?_
  rw [List.map_map]
  exact List.Perm.refl _

omit [Field K] [LinearOrder K] [FloorRing K] in
theorem foldl_name (as : List (KpAssessment K)) (st : WeakValues K) : (as.foldl WeakValues.add st).name = st.name := by
  induction as generalizing st with
  | nil => rfl
  | cons a as ih => exact ih (st.add a)

omit [Field K] [LinearOrder K] [FloorRing K] in
theorem getD_present {d : Dict Nat Nat} {k n : Nat} (present : 0 < d.getD k 0) : d.getD k n = d.getD k 0 := by
  unfold Dict.getD at present ⊢
  cases found : d.get? k with
  | none =>
    rw [found] at present
    exact absurd present (Nat.lt_irrefl 0)
  | some m => rfl

omit [FloorRing K] in
theorem isCommon_iff (counted : List (KpAssessment K)) (e : Nat × WeakValues K) : isCommon counted e = true ↔
    4 ≤ counted.countP (fun a => decide (a.kpId = e.1)) ∧ classCommonWeakRatio K ≤
      (((counted.filter KpAssessment.isWeak).countP (fun a => decide (a.kpId = e.1)) : Nat) : K) /
        (counted.countP (fun a => decide (a.kpId = e.1)) : Nat) := by
  unfold isCommon
  rw [decide_eq_true_eq, Dict.getD_count, Dict.getD_count]
  apply and_congr_right
  intro enough
  have present : 0 < (Dict.count KpAssessment.kpId counted).getD e.1 0 := by
    rw [Dict.getD_count]
    omega
  rw [getD_present present, Dict.getD_count, Nat.max_eq_left (by omega)]

variable (cfg db g classId exam) in
/-- The names of the points weak in common at the latest exam, before the list is cut. -/
theorem commonOfLatest_names : ((commonOfLatest (classAssessments cfg db g classId exam)).map SheetWeak.kp).Perm
    ((commonPoints cfg db g classId exam).map KnowledgePoint.name) := by
  generalize counts : classAssessments cfg db g classId exam = counted
  have known : ∀ a ∈ counted, nameIn g a.kpId = a.kpName := by
    intro a listed
    rw [← counts] at listed
    have ⟨sid, _, judged⟩ := List.mem_flatMap.mp (List.mem_of_mem_filter listed)
    have ⟨p, member, id, _, name⟩ := assessStudentKps_point judged
    rw [← id, ← name]
    exact nameIn_of_mem member
  have value : ∀ kpId, (perClassCommon counted).get? kpId = ((counted.filter KpAssessment.isWeak).filter
      (fun a => decide (a.kpId = kpId))).head?.map (fun a => ((counted.filter KpAssessment.isWeak).filter
        (fun a => decide (a.kpId = kpId))).foldl WeakValues.add ⟨a.kpName, []⟩) :=
    Dict.get?_accumulate _ _ _ _
  have named : ∀ e ∈ (perClassCommon counted).entries, e.2.name = nameIn g e.1 := by
    intro e entry
    have found := (Dict.get?_eq_some_iff (perClassCommon counted) e.1 e.2).mpr entry
    rw [value] at found
    have ⟨a, first, made⟩ := Option.map_eq_some_iff.mp found
    have ⟨listed, own⟩ := List.mem_filter.mp (List.mem_of_head? first)
    rw [← made, foldl_name, ← of_decide_eq_true own]
    exact (known a (List.mem_of_mem_filter listed)).symm
  have listed : ∀ kpId, kpId ∈ ((perClassCommon counted).entries.filter (isCommon counted)).map Prod.fst ↔
      CommonAt cfg db g classId exam kpId := by
    intro kpId
    rw [CommonAt, counts, List.mem_map]
    constructor
    · intro held
      have ⟨e, chosen, own⟩ := held
      have ⟨entry, common⟩ := List.mem_filter.mp chosen
      have found := (Dict.get?_eq_some_iff (perClassCommon counted) e.1 e.2).mpr entry
      rw [value] at found
      have ⟨a, first, _⟩ := Option.map_eq_some_iff.mp found
      have ⟨weak, same⟩ := List.mem_filter.mp (List.mem_of_head? first)
      rw [← own]
      exact ⟨List.countP_pos_iff.mpr ⟨a, weak, same⟩, (isCommon_iff counted e).mp common⟩
    · intro need
      have ⟨a, weak, same⟩ := List.countP_pos_iff.mp need.1
      have some_ : ((perClassCommon counted).get? kpId).isSome = true := by
        rw [value, Option.isSome_map, List.isSome_head?]
        exact List.ne_nil_of_mem (List.mem_filter.mpr ⟨weak, same⟩)
      have ⟨st, found⟩ := Option.isSome_iff_exists.mp some_
      exact ⟨(kpId, st), List.mem_filter.mpr ⟨(Dict.get?_eq_some_iff _ _ _).mp found,
        (isCommon_iff counted (kpId, st)).mpr need.2⟩, rfl⟩
  have ids := perm_commonPoints cfg db g classId exam
    ((List.filter_sublist.map Prod.fst).nodup (perClassCommon counted).nodup) listed
  have renamed : ((perClassCommon counted).entries.filter (isCommon counted)).map (fun e => e.2.name) =
      (((perClassCommon counted).entries.filter (isCommon counted)).map Prod.fst).map (nameIn g) := by
    rw [List.map_map]
    apply List.map_congr_left
    intro e chosen
    exact named e (List.mem_of_mem_filter chosen)
  refine (perm_commonOfLatest counted).trans ?_
  rw [renamed, ← map_nameIn_commonPoints]
  exact ids.map _

variable (cfg g) in
/-- The trend that the two exams of a class have between them. -/
structure ExactTrend (db : Db K) (classId : Nat) (latest prev : ExamTemplate) (trend : Trend) : Prop where
  entered : ∀ name, name ∈ trend.entered ↔ ∃ p ∈ g.points, p.name = name ∧
    CommonAt cfg db g classId latest p.id ∧ ¬ CommonAt cfg db g classId prev p.id
  exited : ∀ name, name ∈ trend.exited ↔ ∃ p ∈ g.points, p.name = name ∧
    CommonAt cfg db g classId prev p.id ∧ ¬ CommonAt cfg db g classId latest p.id

omit [Field K] [LinearOrder K] [FloorRing K] in
/-- What a list cut to its first entries leaves of the two differences. -/
theorem cut_exact_iff {all : List String} (distinct : all.Nodup) (prev : List String) (n : Nat) :
    (∀ x, (x ∈ all.take n ∧ x ∉ prev ↔ x ∈ all ∧ x ∉ prev) ∧ (x ∈ prev ∧ x ∉ all.take n ↔ x ∈ prev ∧ x ∉ all)) ↔
      all.length ≤ n := by
  constructor
  · intro exact_
    by_contra longer
    rw [Nat.not_le] at longer
    have split := List.take_append_drop n all
    have ⟨x, dropped⟩ := List.exists_mem_of_ne_nil (all.drop n) (by
      intro none_
      have length := congrArg List.length none_
      rw [List.length_drop, List.length_nil] at length
      omega)
    have present : x ∈ all := List.mem_of_mem_drop dropped
    have cut : x ∉ all.take n := by
      intro kept
      rw [← split, List.nodup_append] at distinct
      exact distinct.2.2 x kept x dropped rfl
    by_cases before : x ∈ prev
    · exact ((exact_ x).2.mp ⟨before, cut⟩).2 present
    · exact cut ((exact_ x).1.mpr ⟨present, before⟩).1
  · intro short x
    rw [List.take_of_length_le short]
    exact ⟨Iff.rfl, Iff.rfl⟩

omit [Field K] [LinearOrder K] [FloorRing K] in
theorem mem_trendOf {prevExam : Nat} {curr prev : List String} {name : String} :
    (name ∈ (trendOf prevExam curr prev).entered ↔ name ∈ curr ∧ name ∉ prev) ∧
      (name ∈ (trendOf prevExam curr prev).exited ↔ name ∈ prev ∧ name ∉ curr) := by
  simp [trendOf, mem_stableSort]

theorem mem_commonNames {name : String} : name ∈ (commonPoints cfg db g classId exam).map KnowledgePoint.name ↔
    ∃ p ∈ g.points, p.name = name ∧ CommonAt cfg db g classId exam p.id := by
  rw [List.mem_map]
  constructor
  · intro listed
    have ⟨p, chosen, own⟩ := listed
    have ⟨known, common⟩ := List.mem_filter.mp chosen
    exact ⟨p, known, own, of_decide_eq_true common⟩
  · intro held
    have ⟨p, known, own, common⟩ := held
    exact ⟨p, List.mem_filter.mpr ⟨known, decide_eq_true common⟩, own⟩

/-- With one name a point, a difference of names is one of points. -/
theorem mem_difference (names : (g.points.map KnowledgePoint.name).Nodup) (left right : ExamTemplate) (name : String) :
    name ∈ (commonPoints cfg db g classId left).map KnowledgePoint.name ∧
        name ∉ (commonPoints cfg db g classId right).map KnowledgePoint.name ↔
      ∃ p ∈ g.points, p.name = name ∧ CommonAt cfg db g classId left p.id ∧ ¬ CommonAt cfg db g classId right p.id := by
  rw [mem_commonNames, mem_commonNames]
  constructor
  · intro held
    have ⟨⟨p, known, own, common⟩, absent⟩ := held
    exact ⟨p, known, own, common, fun still => absent ⟨p, known, own, still⟩⟩
  · intro held
    have ⟨p, known, own, common, gone⟩ := held
    refine ⟨⟨p, known, own, common⟩, ?_⟩
    intro still
    have ⟨q, known', own', common'⟩ := still
    rw [List.inj_on_of_nodup_map names known' known (own'.trans own.symm)] at common'
    exact gone common'

variable (cfg g classId) in
theorem sheetStatus_trend {s : Office K} (one : OneResponse s.db) {latest prev : ExamTemplate}
    {earlier : List ExamTemplate} (exams : datedExams s classId = latest :: prev :: earlier) :
    ∃ status prevNames, sheetStatus cfg s g classId = .ok status ∧
      prevNames.Perm ((commonPoints cfg s.db g classId prev).map KnowledgePoint.name) ∧
      status.trend = some (trendOf prev.id
        (((commonOfLatest (classAssessments cfg s.db g classId latest)).take 5).map SheetWeak.kp) prevNames) := by
  have ⟨prevNames, read, perm⟩ := commonWeakOfExam_ok cfg g classId prev one
  unfold sheetStatus
  rw [exams]
  dsimp only
  rw [read, countedAt_class]
  exact ⟨_, prevNames, rfl, perm, rfl⟩

/-- The trend is exact just when the list of the latest exam is not cut. -/
theorem trend_exact_iff (cfg : Config K) (s : Office K) (g : KpGraph K) (classId : Nat) (now : DateTime)
    (names : (g.points.map KnowledgePoint.name).Nodup) (one : OneResponse s.db) {sheet : DiagnosisSheet K}
    (made : classDiagnosisSheet cfg s g classId now = .ok sheet) {latest prev : ExamTemplate}
    {earlier : List ExamTemplate} (exams : datedExams s classId = latest :: prev :: earlier) :
    ∃ trend, sheet.status.trend = some trend ∧ trend.prevExam = prev.id ∧
      (ExactTrend cfg g s.db classId latest prev trend ↔ (commonPoints cfg s.db g classId latest).length ≤ 5) := by
  have ⟨status, prevNames, read, perm, trended⟩ := sheetStatus_trend cfg g classId one exams
  have own : sheet.status = status := by
    have ⟨status', read', rest⟩ := bind_ok made
    have ⟨summary, _, finished⟩ := bind_ok rest
    rw [← Except.ok.inj finished]
    exact Except.ok.inj (read'.symm.trans read)
  have all := commonOfLatest_names cfg s.db g classId latest
  have distinct : ((commonOfLatest (classAssessments cfg s.db g classId latest)).map SheetWeak.kp).Nodup :=
    all.nodup_iff.mpr ((List.filter_sublist.map KnowledgePoint.name).nodup names)
  have length := all.length_eq.trans (List.length_map KnowledgePoint.name)
  rw [own, trended]
  refine ⟨_, rfl, rfl, ?_⟩
  rw [← length, ← cut_exact_iff distinct prevNames 5, ← List.map_take]
  have entered : ∀ name, (name ∈ (commonOfLatest (classAssessments cfg s.db g classId latest)).map SheetWeak.kp ∧
      name ∉ prevNames) ↔ ∃ p ∈ g.points, p.name = name ∧ CommonAt cfg s.db g classId latest p.id ∧
        ¬ CommonAt cfg s.db g classId prev p.id := by
    intro name
    rw [all.mem_iff, perm.mem_iff]
    exact mem_difference names latest prev name
  have exited : ∀ name, (name ∈ prevNames ∧ name ∉ (commonOfLatest (classAssessments cfg s.db g classId latest)).map
      SheetWeak.kp) ↔ ∃ p ∈ g.points, p.name = name ∧ CommonAt cfg s.db g classId prev p.id ∧
        ¬ CommonAt cfg s.db g classId latest p.id := by
    intro name
    rw [all.mem_iff, perm.mem_iff]
    exact mem_difference names prev latest name
  constructor
  · intro exact_ name
    rw [entered, exited, ← exact_.entered, ← exact_.exited]
    exact ⟨mem_trendOf.1.symm, mem_trendOf.2.symm⟩
  · intro exact_
    refine { entered := ?_, exited := ?_ }
    · intro name
      rw [← entered, ← (exact_ name).1]
      exact mem_trendOf.1
    · intro name
      rw [← exited, ← (exact_ name).2]
      exact mem_trendOf.2

end

/-! A class of four that does everything wrong in two exams, on so many points. -/

def weakPoint (n : Nat) : KnowledgePoint ℚ :=
  { id := n + 11, kbVersionId := 1, code := "N" ++ toString n, name := "知识点" ++ toString n, grade := 8,
    cogLevelsExpected := [], difficultyPrior := 1 / 2, masteryFloor := 6 / 10, importance := .core, archived := false }

def weakGraph (n : Nat) : KpGraph ℚ := .discrete ((List.range n).map weakPoint) (by
  rw [List.map_map]
  exact List.Nodup.map (fun a b same => Nat.add_right_cancel same) List.nodup_range)

def weakOffice (n : Nat) : Office ℚ :=
  { newOffice with
    db := { Db.empty ℚ with
      classes := .ofList [⟨1, 8⟩]
      students := .ofList [⟨1, 1, "甲"⟩, ⟨2, 1, "乙"⟩, ⟨3, 1, "丙"⟩, ⟨4, 1, "丁"⟩]
      templates := .ofList [⟨1, 1, 0, .midterm, .other "excel"⟩, ⟨2, 1, 0, .midterm, .other "excel"⟩]
      progress := .ofList ((List.range n).map (fun p => ⟨p + 1, 1, p + 11, 0⟩))
      responses := .ofList ((List.range 8).map (fun r => ⟨r + 1, r / 4 + 1, r % 4 + 1, 0, .submitted⟩))
      events := .ofList ((List.range (8 * n)).map (fun e =>
        { id := e + 1, studentId := e % 4 + 1, kpId := e / 8 + 11, responseAnswerId := e + 1, sourceType := .unit,
          value := 0, weight := 1, cogLevel := .apply, classAvgRate := none, occurredAt := noon 0 })) }
    exams_agree := newOffice.exams_agree
    classes_agree := newOffice.classes_agree }

/-- Five points are listed whole, and nothing has moved. -/
theorem five_points_exact : ∃ sheet trend,
    classDiagnosisSheet Config.rational (weakOffice 5) (weakGraph 5) 1 (noon 1) = .ok sheet ∧
      sheet.status.trend = some trend ∧
      ExactTrend Config.rational (weakGraph 5) (weakOffice 5).db 1 ⟨2, 1, 0, .midterm, .other "excel"⟩
        ⟨1, 1, 0, .midterm, .other "excel"⟩ trend := by
  have exams : datedExams (weakOffice 5) 1 =
      [⟨2, 1, 0, .midterm, .other "excel"⟩, ⟨1, 1, 0, .midterm, .other "excel"⟩] := by decide +kernel
  have made : (classDiagnosisSheet Config.rational (weakOffice 5) (weakGraph 5) 1 (noon 1)).toOption.isSome = true := by
    decide +kernel
  cases read : classDiagnosisSheet Config.rational (weakOffice 5) (weakGraph 5) 1 (noon 1) with
  | error e =>
    rw [read] at made
    cases made
  | ok sheet =>
    have ⟨trend, trended, _, exact_⟩ := trend_exact_iff Config.rational (weakOffice 5) (weakGraph 5) 1 (noon 1)
      (by decide +kernel) (by unfold OneResponse; decide +kernel) read exams
    exact ⟨sheet, trend, rfl, trended, exact_.mpr (by decide +kernel)⟩

/-- Of six points that stay weak in common the sixth is told to have recovered. -/
theorem sixth_point_exits :
    (classDiagnosisSheet Config.rational (weakOffice 6) (weakGraph 6) 1 (noon 1)).toOption.bind
        (fun sheet => sheet.status.trend) = some ⟨1, [], ["知识点5"]⟩ ∧
      ∀ p ∈ (weakGraph 6).points, CommonAt Config.rational (weakOffice 6).db (weakGraph 6) 1
        ⟨2, 1, 0, .midterm, .other "excel"⟩ p.id := by
  constructor
  · decide +kernel
  · decide +kernel

end KnowledgeGap.Reports
