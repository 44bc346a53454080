import KnowledgeGap.Data.Outcome
import KnowledgeGap.Ingestion.Commit
import KnowledgeGap.Intervention.Recovery
import KnowledgeGap.Reports.Prefetch

namespace KnowledgeGap.Reports

open Relational Ingestion

variable {K : Type}

inductive QualityError
  | noExam (examId : Nat)
  | noClass (classId : Nat)
  | noPoint (kpId : Nat)
  deriving DecidableEq, Repr

/-- An entry of `question_rates`. -/
structure QuestionRate (K : Type) where
  idx : Int
  qType : QuestionType
  fullScore : K
  rate : Option K
  kps : String
  low : Bool
  deriving DecidableEq, Repr

/-- An entry of `kp_stats`. -/
structure KpStat (K : Type) where
  code : String
  name : String
  values : List K
  weak : Nat
  n : Nat
  deriving DecidableEq, Repr

/-- An entry of `common_weak`. -/
structure CommonWeak (K : Type) where
  code : String
  name : String
  classAvg : K
  weakShare : K
  n : Nat
  deriving DecidableEq, Repr

/-- `QualityReportModel`, less the names of class and exam and the actions, which are only handed through. -/
structure QualityModel (K : Type) where
  examType : ExamType
  examDate : Date
  committed : Nat
  pending : Int
  totals : List K
  fullTotal : K
  questionRates : List (QuestionRate K)
  kpStats : Dict Nat (KpStat K)
  commonWeak : List (CommonWeak K)

/-- The submitted responses of an exam by pupil, those of the pupils it is for. -/
def committedResponses (db : Db K) (students : List Student) (examId : Nat) : Dict Nat (ExamResponse K) :=
  Dict.ofList ((db.responses.select (fun r => r.examTemplateId == examId && decide (r.status = .submitted) &&
    decide (r.studentId ∈ students.map Student.id))).map (fun r => (r.studentId, r)))

def answersByKey (db : Db K) (committed : List (ExamResponse K)) (questions : List (TemplateQuestion K)) :
    Dict (Nat × Nat) (ResponseAnswer K) :=
  if committed.isEmpty || questions.isEmpty then .empty
  else Dict.ofList ((db.answers.select (fun a => decide (a.examResponseId ∈ committed.map ExamResponse.id) &&
    decide (a.templateQuestionId ∈ questions.map TemplateQuestion.id))).map
      (fun a => ((a.examResponseId, a.templateQuestionId), a)))

def pointName (db : Db K) (g : KpGraph K) (tag : QuestionKp K) : Except QualityError String :=
  match g.kp? db tag.kpId with
  | some p => .ok p.name
  | none => .error (.noPoint tag.kpId)

def KpStat.start (a : KpAssessment K) : KpStat K := ⟨a.kpCode, a.kpName, [], 0, 0⟩

def KpStat.add (st : KpStat K) (a : KpAssessment K) : KpStat K :=
  { st with
    values := st.values ++ a.mastery.toList
    n := st.n + 1
    weak := if a.isWeak then st.weak + 1 else st.weak }

def kpStatsOf (assessments : List (KpAssessment K)) : Dict Nat (KpStat K) :=
  Dict.accumulate KpAssessment.kpId KpStat.start KpStat.add (assessments.filter KpAssessment.valid)

section
variable [Field K] [LinearOrder K]

def questionRate (db : Db K) (g : KpGraph K) (committed : List (ExamResponse K))
    (answers : Dict (Nat × Nat) (ResponseAnswer K)) (q : TemplateQuestion K) : Except QualityError (QuestionRate K) := do
  let rates := committed.filterMap (fun r =>
    match answers.get? (r.id, q.id) with
    | some ans => if 0 < q.fullScore then some (ans.score / q.fullScore) else none
    | none => none)
  let rate := if rates.isEmpty then none else some (mean rates)
  let names ← (questionKpsOf db q.id).mapM (pointName db g)
  return { idx := q.idx, qType := q.qType, fullScore := q.fullScore, rate := rate,
           kps := String.intercalate ", " names, low := rate.any (fun rate => decide (rate < ratio 60 100)) }

def commonWeakOf (st : KpStat K) : Option (CommonWeak K) :=
  if 4 ≤ st.n then
    let share := (st.weak : K) / st.n
    let avg := mean st.values
    if classCommonWeakRatio K ≤ share then some ⟨st.code, st.name, avg, share, st.n⟩ else none
  else none

def byClassAvg (a b : CommonWeak K) : Bool := decide (a.classAvg ≤ b.classAvg)

variable [FloorRing K]

/-- The batch a report is computed over: the caller's, or the evidence of the pupils the exam is for. -/
def qualityBatch (db : Db K) (g : KpGraph K) (template : ExamTemplate) (classId : Nat) (eventsBySk : Option (Batch K)) :
    Batch K :=
  match eventsBySk with
  | some batch => batch
  | none => getEventsBatch db ((examStudents db template).map Student.id) (g.gradeKpIds (classGrade db classId))
      (examAsOf template)

def computeQualityModel (cfg : Config K) (db : Db K) (g : KpGraph K) (classId examId : Nat)
    (eventsBySk : Option (Batch K)) : Except QualityError (QualityModel K) := do
  match db.templates.get? examId with
  | none => .error (.noExam examId)
  | some template =>
    let students := examStudents db template
    let committed := committedResponses db students examId
    let responses := committed.entries.map Prod.snd
    let questions := questionsOf db examId
    let answers := answersByKey db responses questions
    let rates ← questions.mapM (questionRate db g responses answers)
    let batch := qualityBatch db g template classId eventsBySk
    let stats := kpStatsOf (committed.keys.flatMap (fun sid =>
      assessStudentKps cfg db g sid classId (examAsOf template) (some batch)))
    match db.classes.get? classId with
    | none => .error (.noClass classId)
    | some _ =>
      return { examType := template.type
               examDate := template.examDate
               committed := committed.entries.length
               pending := students.length - committed.entries.length
               totals := responses.map ExamResponse.totalScore
               fullTotal := pySum (questions.map TemplateQuestion.fullScore)
               questionRates := rates
               kpStats := stats
               commonWeak := stableSort byClassAvg (stats.entries.filterMap (fun e => commonWeakOf e.2)) }

end

theorem mem_committedResponses {db : Db K} {students : List Student} {examId sid : Nat} :
    sid ∈ (committedResponses db students examId).keys ↔
      sid ∈ committedIds db examId ∧ sid ∈ students.map Student.id := by
  have keyed : sid ∈ (committedResponses db students examId).keys ↔
      ((committedResponses db students examId).get? sid).isSome = true := by
    rw [← Option.ne_none_iff_isSome, ne_eq, Dict.get?_eq_none_iff, not_not]
  rw [keyed, committedResponses, Dict.get?_ofList_isSome_iff, mem_committedIds]
  constructor
  · intro held
    have ⟨e, listed, same⟩ := held
    have ⟨r, chosen, made⟩ := List.mem_map.mp listed
    subst made
    have own : r.studentId = sid := same
    have ⟨stored, filter⟩ := List.mem_filter.mp chosen
    simp only [Bool.and_eq_true, beq_iff_eq, decide_eq_true_eq] at filter
    exact ⟨⟨r, stored, filter.1.1, filter.1.2, own⟩, own ▸ filter.2⟩
  · intro held
    have ⟨⟨r, stored, exam, status, own⟩, member⟩ := held
    refine ⟨(r.studentId, r), List.mem_map.mpr ⟨r, List.mem_filter.mpr ⟨stored, ?_⟩, rfl⟩, own⟩
    simp only [Bool.and_eq_true, beq_iff_eq, decide_eq_true_eq]
    exact ⟨⟨exam, status⟩, own ▸ member⟩

/-- Where the exam is for all who submitted it, the report is on the pupils that the suggestions are for. -/
theorem perm_committedResponses {db : Db K} {students : List Student} {examId : Nat}
    (members : ∀ sid ∈ committedIds db examId, sid ∈ students.map Student.id) :
    (committedResponses db students examId).keys.Perm (committedIds db examId) := by
  have distinct : (committedResponses db students examId).keys.Nodup := (committedResponses db students examId).nodup
  rw [List.perm_ext_iff_of_nodup distinct (nodup_committedIds db examId)]
  intro sid
  rw [mem_committedResponses]
  exact ⟨fun held => held.1, fun committed => ⟨committed, members sid committed⟩⟩

section
variable (assessments : List (KpAssessment K)) (kpId : Nat)

/-- The assessments on a point that count. -/
def validOn : List (KpAssessment K) :=
  (assessments.filter KpAssessment.valid).filter (fun a => decide (a.kpId = kpId))

variable {assessments kpId}

theorem foldl_add (st : KpStat K) (as : List (KpAssessment K)) :
    as.foldl KpStat.add st = ⟨st.code, st.name, st.values ++ as.flatMap (fun a => a.mastery.toList),
      st.weak + as.countP KpAssessment.isWeak, st.n + as.length⟩ := by
  induction as generalizing st with
  | nil => simp
  | cons a as ih =>
    rw [List.foldl_cons, ih, List.countP_cons, List.flatMap_cons, List.length_cons]
    have weak : (if a.isWeak = true then st.weak + 1 else st.weak) + as.countP KpAssessment.isWeak =
        st.weak + (as.countP KpAssessment.isWeak + if a.isWeak = true then 1 else 0) := by
      split <;> omega
    have count : st.n + 1 + as.length = st.n + (as.length + 1) := by omega
    unfold KpStat.add
    dsimp only
    rw [List.append_assoc, weak, count]

theorem get?_kpStatsOf : (kpStatsOf assessments).get? kpId = (validOn assessments kpId).head?.map (fun a =>
    ⟨a.kpCode, a.kpName, (validOn assessments kpId).flatMap (fun a => a.mastery.toList),
      (validOn assessments kpId).countP KpAssessment.isWeak, (validOn assessments kpId).length⟩) := by
  unfold kpStatsOf
  rw [Dict.get?_accumulate]
  congr 1
  funext a
  rw [show List.filter _ _ = validOn assessments kpId from rfl, foldl_add, KpStat.start, List.nil_append, Nat.zero_add,
    Nat.zero_add]

end

section
variable [Field K] [LinearOrder K] [FloorRing K]

theorem assessStudentKps_point {cfg : Config K} {db : Db K} {g : KpGraph K} {sid classId : Nat} {asOf : DateTime}
    {eventsBySk : Option (Batch K)} {a : KpAssessment K}
    (assessed : a ∈ assessStudentKps cfg db g sid classId asOf eventsBySk) :
    ∃ p ∈ g.points, p.id = a.kpId ∧ p.code = a.kpCode ∧ p.name = a.kpName := by
  have ⟨p, taught, made⟩ := List.mem_map.mp assessed
  subst made
  have same := fun eventsFor => assessKp_same cfg (coveredKpIds db classId (some asOf)) asOf
    (db.classStudentIds classId) eventsFor sid p
  have named := fun events => measure_named cfg (coveredKpIds db classId (some asOf)) asOf events p
  exact ⟨p, (KpGraph.gradeKps_sublist g _).subset taught, ((same _).kpId.trans (named _).1).symm,
    ((same _).kpCode.trans (named _).2.1).symm, ((same _).kpName.trans (named _).2.2).symm⟩

section
variable (cfg : Config K) (db : Db K) (g : KpGraph K) (classId examId : Nat) (asOf : DateTime)
  (eventsBySk : Option (Batch K))

theorem assessedOn_validOn (kpId : Nat) : assessedOn cfg db g classId examId asOf eventsBySk kpId =
    (validOn ((committedIds db examId).flatMap
      (fun sid => assessStudentKps cfg db g sid classId asOf eventsBySk)) kpId).length := by
  unfold assessedOn judged validOn
  rw [List.filter_flatMap, List.countP_eq_length_filter]

theorem weakOn_validOn (kpId : Nat) : weakOn cfg db g classId examId asOf eventsBySk kpId =
    (validOn ((committedIds db examId).flatMap
      (fun sid => assessStudentKps cfg db g sid classId asOf eventsBySk)) kpId).countP KpAssessment.isWeak := by
  have kept : ((committedIds db examId).flatMap (fun sid =>
      assessStudentKps cfg db g sid classId asOf eventsBySk)).filter KpAssessment.valid =
        judged cfg db g classId examId asOf eventsBySk := List.filter_flatMap ..
  unfold weakOn validOn
  rw [kept, List.countP_filter, List.countP_filter]
  apply List.countP_congr
  intro a _
  rw [Bool.and_comm]

/-- A pupil counts once for a point. -/
theorem validOn_le (ids : List Nat) (kpId : Nat) :
    (validOn (ids.flatMap (fun sid => assessStudentKps cfg db g sid classId asOf eventsBySk)) kpId).length ≤
      ids.length := by
  induction ids with
  | nil => exact Nat.le_refl _
  | cons sid ids ih =>
    have once : (validOn (assessStudentKps cfg db g sid classId asOf eventsBySk) kpId).length ≤ 1 := by
      have distinct : ((assessStudentKps cfg db g sid classId asOf eventsBySk).map KpAssessment.kpId).Nodup := by
        rw [assessStudentKps_kpIds]
        exact g.nodup_gradeKpIds _
      have most := List.nodup_iff_count_le_one.mp distinct kpId
      rw [List.count, List.countP_map] at most
      have kept : (assessStudentKps cfg db g sid classId asOf eventsBySk).countP (fun a => decide (a.kpId = kpId)) ≤ 1 :=
        most
      unfold validOn
      rw [← List.countP_eq_length_filter]
      exact Nat.le_trans (List.Sublist.countP_le List.filter_sublist) kept
    unfold validOn at once ih ⊢
    rw [List.flatMap_cons, List.filter_append, List.filter_append, List.length_append, List.length_cons]
    omega

end

omit [Field K] [LinearOrder K] [FloorRing K] in
/-- An exam that several pupils sat is for the whole class. -/
theorem examStudents_of_many {db : Db K} {template : ExamTemplate} {examId : Nat}
    (members : ∀ sid ∈ committedIds db examId, sid ∈ (examStudents db template).map Student.id)
    (many : 1 < (committedIds db examId).length) :
    examStudents db template = stableSort byStudentId (db.students.select (fun s => s.classId == template.classId)) := by
  have few : ∀ target, (∀ sid ∈ committedIds db examId, sid = target) → False := by
    intro target same
    have only : committedIds db examId = List.replicate (committedIds db examId).length target :=
      List.eq_replicate_iff.mpr ⟨rfl, same⟩
    have distinct := nodup_committedIds db examId
    rw [only, List.nodup_replicate] at distinct
    omega
  unfold examStudents at members ⊢
  split
  · rename_i task found
    rw [found] at members
    exfalso
    apply few task.studentId
    intro sid committed
    have ⟨s, listed, own⟩ := List.mem_map.mp (members sid committed)
    have chosen := (List.mem_filter.mp ((perm_stableSort byStudentId _).mem_iff.mp listed)).2
    simp only [Bool.and_eq_true, beq_iff_eq] at chosen
    exact own.symm.trans chosen.2
  · rename_i found
    rw [found] at members
    split
    · rename_i targeted
      simp only [targeted, ↓reduceIte] at members
      exfalso
      apply few 0
      intro sid committed
      exact absurd (members sid committed) List.not_mem_nil
    · rfl

/-- On an exam of the whole class the report is computed over what the class is assessed on. -/
theorem assess_qualityBatch (cfg : Config K) {db : Db K} (g : KpGraph K) {template : ExamTemplate}
    (whole : examStudents db template = stableSort byStudentId (db.students.select (fun s => s.classId == template.classId)))
    (eventsBySk : Option (Batch K)) (sid : Nat) :
    assessStudentKps cfg db g sid template.classId (examAsOf template)
        (some (qualityBatch db g template template.classId eventsBySk)) =
      assessStudentKps cfg db g sid template.classId (examAsOf template) eventsBySk := by
  cases eventsBySk with
  | some batch => rfl
  | none =>
    have same : ∀ s, s ∈ (examStudents db template).map Student.id ↔ s ∈ db.classStudentIds template.classId := by
      intro s
      rw [whole, ((perm_stableSort byStudentId _).map Student.id).mem_iff]
      rfl
    unfold assessStudentKps qualityBatch
    dsimp only
    congr 2
    funext s k
    rw [getD_getEventsBatch, getD_getEventsBatch]
    simp only [same]

section
variable (cfg : Config K) (db : Db K) (g : KpGraph K) (template : ExamTemplate) (examId : Nat)
  (eventsBySk : Option (Batch K))

/-- The assessments that a report goes through. -/
def reportAssessments : List (KpAssessment K) :=
  (committedResponses db (examStudents db template) examId).keys.flatMap (fun sid =>
    assessStudentKps cfg db g sid template.classId (examAsOf template)
      (some (qualityBatch db g template template.classId eventsBySk)))

def commonWeakList : List (CommonWeak K) :=
  stableSort byClassAvg ((kpStatsOf (reportAssessments cfg db g template examId eventsBySk)).entries.filterMap
    (fun e => commonWeakOf e.2))

variable {cfg db g template examId eventsBySk}

omit [FloorRing K] in
theorem questionRate_ok (tagged : ∀ tag ∈ db.questionKps.rows, (db.knowledgePoints.get? tag.kpId).isSome = true)
    (committed : List (ExamResponse K)) (answers : Dict (Nat × Nat) (ResponseAnswer K)) (q : TemplateQuestion K) :
    ∃ rate, questionRate db g committed answers q = .ok rate := by
  have named : ∀ tag ∈ questionKpsOf db q.id, ∃ name, pointName db g tag = .ok name := by
    intro tag listed
    have found : (g.kp? db tag.kpId).isSome = true := by
      rw [KpGraph.kp?, Option.isSome_or, tagged tag (List.mem_of_mem_filter listed), Bool.or_true]
    rcases Option.isSome_iff_exists.mp found with ⟨p, point⟩
    exact ⟨p.name, by rw [pointName, point]⟩
  rcases mapM_succeeds named with ⟨names, read⟩
  unfold questionRate
  rw [read]
  exact ⟨_, rfl⟩

variable (cfg g eventsBySk) in
theorem computeQualityModel_ok (exam : db.templates.get? examId = some template)
    (known : (db.classes.get? template.classId).isSome = true)
    (tagged : ∀ tag ∈ db.questionKps.rows, (db.knowledgePoints.get? tag.kpId).isSome = true) :
    ∃ model, computeQualityModel cfg db g template.classId examId eventsBySk = .ok model ∧
      model.commonWeak = commonWeakList cfg db g template examId eventsBySk := by
  have rated : ∀ committed answers, ∀ questions : List (TemplateQuestion K),
      ∃ rates, questions.mapM (questionRate db g committed answers) = .ok rates := by
    intro committed answers questions
    apply mapM_succeeds
    intro q _
    exact questionRate_ok tagged committed answers q
  have ⟨c, found⟩ := Option.isSome_iff_exists.mp known
  have ⟨rates, read⟩ := rated ((committedResponses db (examStudents db template) examId).entries.map Prod.snd)
    (answersByKey db ((committedResponses db (examStudents db template) examId).entries.map Prod.snd)
      (questionsOf db examId)) (questionsOf db examId)
  unfold computeQualityModel
  rw [exam]
  dsimp only
  rw [read, found]
  exact ⟨_, rfl, rfl⟩

omit [FloorRing K] in
theorem mem_commonWeak {stats : Dict Nat (KpStat K)} {d : CommonWeak K} :
    d ∈ stableSort byClassAvg (stats.entries.filterMap (fun e => commonWeakOf e.2)) ↔
      ∃ kpId st, stats.get? kpId = some st ∧ commonWeakOf st = some d := by
  rw [(perm_stableSort byClassAvg _).mem_iff, List.mem_filterMap]
  constructor
  · intro listed
    have ⟨e, entry, made⟩ := listed
    exact ⟨e.1, e.2, (Dict.get?_eq_some_iff _ _ _).mpr entry, made⟩
  · intro held
    have ⟨kpId, st, found, made⟩ := held
    exact ⟨(kpId, st), (Dict.get?_eq_some_iff _ _ _).mp found, made⟩

omit [FloorRing K] in
variable (K) in
theorem classCommonWeakRatio_pos [IsStrictOrderedRing K] : 0 < classCommonWeakRatio K := by
  unfold classCommonWeakRatio ratio
  positivity

/-- An entry of a report on a point, with so many of the assessed pupils weak there. -/
structure Describes (g : KpGraph K) (weak assessed kpId : Nat) (d : CommonWeak K) : Prop where
  point : ∃ p ∈ g.points, p.id = kpId ∧ p.code = d.code ∧ p.name = d.name
  count : d.n = assessed
  share : d.weakShare = (weak : K) / assessed

section
variable (members : ∀ sid ∈ committedIds db examId, sid ∈ (examStudents db template).map Student.id)
include members

variable (cfg g eventsBySk) in
theorem length_stats_le (kpId : Nat) :
    (validOn (reportAssessments cfg db g template examId eventsBySk) kpId).length ≤ (committedIds db examId).length := by
  rw [← (perm_committedResponses members).length_eq]
  exact validOn_le cfg db g template.classId (examAsOf template) _ _ kpId

variable (cfg g eventsBySk) in
theorem stats_counts (many : 1 < (committedIds db examId).length) (kpId : Nat) :
    (validOn (reportAssessments cfg db g template examId eventsBySk) kpId).length =
        assessedOn cfg db g template.classId examId (examAsOf template) eventsBySk kpId ∧
      (validOn (reportAssessments cfg db g template examId eventsBySk) kpId).countP KpAssessment.isWeak =
        weakOn cfg db g template.classId examId (examAsOf template) eventsBySk kpId := by
  have whole := examStudents_of_many members many
  have same : reportAssessments cfg db g template examId eventsBySk =
      (committedResponses db (examStudents db template) examId).keys.flatMap (fun sid =>
        assessStudentKps cfg db g sid template.classId (examAsOf template) eventsBySk) :=
    List.flatMap_congr (fun sid _ => assess_qualityBatch cfg g whole eventsBySk sid)
  have exchanged := (perm_committedResponses members).flatMap_right (fun sid =>
    assessStudentKps cfg db g sid template.classId (examAsOf template) eventsBySk)
  have counted := (exchanged.filter KpAssessment.valid).filter (fun a => decide (a.kpId = kpId))
  rw [assessedOn_validOn, weakOn_validOn, same]
  exact ⟨counted.length_eq, counted.countP_eq _⟩

omit [FloorRing K] members in
theorem commonWeakOf_some {st : KpStat K} {d : CommonWeak K} (made : commonWeakOf st = some d) :
    (4 ≤ st.n ∧ classCommonWeakRatio K ≤ (st.weak : K) / st.n) ∧ d.code = st.code ∧ d.name = st.name ∧ d.n = st.n ∧
      d.weakShare = (st.weak : K) / st.n := by
  unfold commonWeakOf at made
  split at made
  · rename_i enough
    dsimp only at made
    split at made
    · rename_i reached
      rw [← Option.some.inj made]
      exact ⟨⟨enough, reached⟩, rfl, rfl, rfl, rfl⟩
    · cases made
  · cases made

theorem need_of_commonWeak [IsStrictOrderedRing K] {d : CommonWeak K} (listed : d ∈ commonWeakList cfg db g template examId eventsBySk) :
    ∃ kpId, CommonNeed (judged cfg db g template.classId examId (examAsOf template) eventsBySk) kpId ∧
      Describes g (weakOn cfg db g template.classId examId (examAsOf template) eventsBySk kpId)
        (assessedOn cfg db g template.classId examId (examAsOf template) eventsBySk kpId) kpId d := by
  have ⟨kpId, st, found, made⟩ := mem_commonWeak.mp listed
  rw [get?_kpStatsOf] at found
  have ⟨a, first, filled⟩ := Option.map_eq_some_iff.mp found
  subst filled
  have ⟨⟨enough, reached⟩, code, name, count, share⟩ := commonWeakOf_some made
  dsimp only at enough reached code name count share
  have most := length_stats_le cfg g eventsBySk members kpId
  have ⟨assessed, weak⟩ := stats_counts cfg g eventsBySk members (by omega) kpId
  rw [assessed] at enough reached count share
  rw [weak] at reached share
  have positive : 0 < weakOn cfg db g template.classId examId (examAsOf template) eventsBySk kpId := by
    by_contra none_
    rw [Nat.eq_zero_of_not_pos none_, Nat.cast_zero, zero_div] at reached
    exact absurd reached (not_le.mpr (classCommonWeakRatio_pos K))
  refine ⟨kpId, ⟨positive, enough, reached⟩, ?_, count, share⟩
  have among := List.mem_filter.mp (List.mem_of_mem_head? first)
  have ⟨sid, _, own⟩ := List.mem_flatMap.mp (List.mem_of_mem_filter among.1)
  have ⟨p, inside, id, pointCode, pointName⟩ := assessStudentKps_point own
  exact ⟨p, inside, id.trans (of_decide_eq_true among.2), pointCode.trans code.symm, pointName.trans name.symm⟩

theorem commonWeak_of_need {kpId : Nat}
    (need : CommonNeed (judged cfg db g template.classId examId (examAsOf template) eventsBySk) kpId) :
    ∃ d ∈ commonWeakList cfg db g template examId eventsBySk,
      Describes g (weakOn cfg db g template.classId examId (examAsOf template) eventsBySk kpId)
        (assessedOn cfg db g template.classId examId (examAsOf template) eventsBySk kpId) kpId d := by
  have ⟨_, enough, reached⟩ := need
  have enough : 4 ≤ assessedOn cfg db g template.classId examId (examAsOf template) eventsBySk kpId := enough
  have most := validOn_le cfg db g template.classId (examAsOf template) eventsBySk (committedIds db examId) kpId
  rw [← assessedOn_validOn] at most
  have ⟨assessed, weak⟩ := stats_counts cfg g eventsBySk members (by omega) kpId
  cases first : (validOn (reportAssessments cfg db g template examId eventsBySk) kpId).head? with
  | none =>
    rw [List.head?_eq_none_iff.mp first, List.length_nil] at assessed
    omega
  | some a =>
    have found : (kpStatsOf (reportAssessments cfg db g template examId eventsBySk)).get? kpId = some _ :=
      get?_kpStatsOf.trans (congrArg (Option.map _) first)
    rw [assessed, weak] at found
    have among := List.mem_filter.mp (List.mem_of_mem_head? first)
    have ⟨sid, _, own⟩ := List.mem_flatMap.mp (List.mem_of_mem_filter among.1)
    have ⟨p, inside, id, pointCode, pointName⟩ := assessStudentKps_point own
    refine ⟨_, mem_commonWeak.mpr ⟨kpId, _, found, (if_pos enough).trans (if_pos reached)⟩, ?_, rfl, rfl⟩
    exact ⟨p, inside, id.trans (of_decide_eq_true among.2), pointCode, pointName⟩

end

end

/-- The open suggestions to a class that an exam has left, on the points of the graph. -/
def classSuggestions (t : Table Intervention) (g : KpGraph K) (classId examId : Nat) : List Intervention :=
  t.select (fun iv => pendingIn g classId iv && iv.examId == examId && decide (iv.kind = .reteach) &&
    decide (iv.scope = .wholeClass))

/-- An entry of a report and a suggestion to the class are on one point, and name the same share of weak pupils. -/
structure SameWeakness (g : KpGraph K) (d : CommonWeak K) (iv : Intervention) : Prop where
  point : ∃ p ∈ g.points, p.id = iv.kpId ∧ p.code = d.code ∧ p.name = d.name
  share : ∃ weak : Nat, d.weakShare = (weak : K) / d.n ∧
    iv.note = some (toString weak ++ "/" ++ toString d.n ++ " 人待加强" ++ "，建议下节课前 15 分钟重讲 + 变式训练")

omit [LinearOrder K] [FloorRing K] in
theorem SameWeakness.of_describes {weak assessed kpId : Nat} {d : CommonWeak K} {iv : Intervention}
    (describes : Describes g weak assessed kpId d) (key : iv.key = (none, kpId))
    (note : iv.note = filedNote (commonRow weak assessed kpId)) : SameWeakness g d iv where
  point := by
    have same : iv.kpId = kpId := congrArg Prod.snd key
    rw [same]
    exact describes.point
  share := by
    refine ⟨weak, ?_, ?_⟩
    · rw [describes.share, describes.count]
    · rw [note, describes.count]
      rfl

/-- Where somebody submitted the exam and it is for all who did, the report on it names the common weaknesses that the
    queue is given, and the queue those of the report. -/
theorem report_matches_queue [IsStrictOrderedRing K] (cfg : Config K) (db : Db K) (g : KpGraph K)
    {template : ExamTemplate} {examId : Nat} (exam : db.templates.get? examId = some template)
    (known : (db.classes.get? template.classId).isSome = true)
    (tagged : ∀ tag ∈ db.questionKps.rows, (db.knowledgePoints.get? tag.kpId).isSome = true)
    (enabled : cfg.actionPlanEnable = true) (submitted : committedIds db examId ≠ [])
    (members : ∀ sid ∈ committedIds db examId, sid ∈ (examStudents db template).map Student.id)
    (eventsBySk : Option (Batch K)) (sourceReportId : Option Nat) (now : DateTime) :
    let after := (generateInterventions cfg db g template.classId examId (examAsOf template) sourceReportId now
      eventsBySk).1
    ∃ model, computeQualityModel cfg db g template.classId examId eventsBySk = .ok model ∧
      (∀ d ∈ model.commonWeak, ∃ iv ∈ classSuggestions after g template.classId examId, SameWeakness g d iv) ∧
      ∀ iv ∈ classSuggestions after g template.classId examId, ∃ d ∈ model.commonWeak, SameWeakness g d iv := by
  intro after
  have ⟨model, computed, listed⟩ := computeQualityModel_ok cfg g eventsBySk exam known tagged
  refine ⟨model, computed, ?_, ?_⟩
  · rw [listed]
    intro d named
    have ⟨kpId, need, describes⟩ := need_of_commonWeak members named
    have planned := (mem_makePlan_class cfg db g template.classId examId (examAsOf template) eventsBySk
      (keptDone db.interventions g template.classId)).mpr ⟨kpId, need, rfl⟩
    have ⟨iv, stored, filed⟩ := generate_filed g template.classId (examAsOf template) sourceReportId now eventsBySk
      enabled submitted planned.1
    have ⟨pending, key, own⟩ := filed.frame (commonNeed_inside need)
    have ⟨kind, scope, note⟩ := filed.marks
    refine ⟨iv, List.mem_filter.mpr ⟨stored, ?_⟩, SameWeakness.of_describes describes key note⟩
    simp [pending, own, kind, scope, commonRow]
  · rw [listed]
    intro iv chosen
    have ⟨stored, kept⟩ := List.mem_filter.mp chosen
    simp only [Bool.and_eq_true, beq_iff_eq, decide_eq_true_eq] at kept
    have ⟨⟨⟨pending, own⟩, _⟩, whole⟩ := kept
    have ⟨row, planned, filed⟩ := filed_of_exam g template.classId (examAsOf template) sourceReportId now eventsBySk
      enabled submitted stored pending own
    have ⟨_, scope, note⟩ := filed.marks
    have ⟨kpId, need, same⟩ := (mem_makePlan_class cfg db g template.classId examId (examAsOf template) eventsBySk
      (keptDone db.interventions g template.classId)).mp ⟨planned, scope.symm.trans whole⟩
    subst same
    have key := (filed.frame (commonNeed_inside need)).2.1
    have ⟨d, named, describes⟩ := commonWeak_of_need members need
    exact ⟨d, named, SameWeakness.of_describes describes key note⟩

end

/-- The exam of day 5, entered by a teacher or for a task whose pupil is not known; two of four pupils have no marks on
    the one point. -/
def halfWeak (source : ExamSource) : Db ℚ :=
  { retaken 0 with
    knowledgePoints := .ofList [crowdedPoint]
    templates := .ofList [examOn 4 0, ⟨5, 1, 5, .unit, source⟩]
    answers := .ofList ((List.range 12).map (fun n => ⟨n + 1, n / 3 + 1, n % 3 + 1, if n < 6 then 0 else 5, false⟩))
    events := .ofList ((List.range 12).map (fun n =>
      { id := n + 1, studentId := n / 3 + 1, kpId := 9, responseAnswerId := n + 1, sourceType := .unit,
        value := if n < 6 then 0 else 1, weight := 1, cogLevel := .apply, classAvgRate := none,
        occurredAt := noon 5 })) }

theorem report_matches_queue_half :
    ((computeQualityModel Config.rational (halfWeak (.other "upload")) crowdedGraph 1 5 none).toOption.map
        (fun model => model.commonWeak.map (fun d => (d.code, d.weakShare)))) = some [("N1", 1 / 2)] ∧
      ∃ model, computeQualityModel Config.rational (halfWeak (.other "upload")) crowdedGraph 1 5 none = .ok model ∧
        (∀ d ∈ model.commonWeak, ∃ iv ∈ classSuggestions (generateInterventions Config.rational
          (halfWeak (.other "upload")) crowdedGraph 1 5 (examAsOf ⟨5, 1, 5, .unit, .other "upload"⟩) none (noon 6)
            none).1 crowdedGraph 1 5, SameWeakness crowdedGraph d iv) ∧
        ∀ iv ∈ classSuggestions (generateInterventions Config.rational
          (halfWeak (.other "upload")) crowdedGraph 1 5 (examAsOf ⟨5, 1, 5, .unit, .other "upload"⟩) none (noon 6)
            none).1 crowdedGraph 1 5, ∃ d ∈ model.commonWeak, SameWeakness crowdedGraph d iv := by
  refine ⟨by decide +kernel, ?_⟩
  have exam : (halfWeak (.other "upload")).templates.get? 5 = some ⟨5, 1, 5, .unit, .other "upload"⟩ := by decide
  exact report_matches_queue Config.rational (halfWeak (.other "upload")) crowdedGraph exam (by decide) (by decide) rfl
    (by decide) (by decide) none none (noon 6)

/-- The codes that the report on exam 5 names. -/
def reported (db : Db ℚ) : Option (List String) :=
  (computeQualityModel Config.rational db crowdedGraph 1 5 none).toOption.map (fun model => model.commonWeak.map CommonWeak.code)

/-- The reteach rows for the whole class that a run for exam 5 leaves, whatever has become of them. -/
def queued (cfg : Config ℚ) (db : Db ℚ) (source : ExamSource) : List (Nat × InterventionStatus) :=
  ((generateInterventions cfg db crowdedGraph 1 5 (examAsOf ⟨5, 1, 5, .unit, source⟩) none (noon 6) none).1.select
    (fun iv => iv.examId == 5 && decide (iv.kind = .reteach) && decide (iv.scope = .wholeClass))).map
      (fun iv => (iv.kpId, iv.status))

def classRow (status : InterventionStatus) : Table Intervention :=
  .ofList [{ openRow 1 5 status with studentId := none, kind := .reteach, scope := .wholeClass }]

/-- The sheets of exam 5 await review, with a suggestion that an earlier run for the exam has left. -/
def unsubmitted : Db ℚ :=
  { retaken 1 with
    responses := .ofList ((List.range 4).map (fun n => ⟨n + 1, 5, n + 1, 0, .pendingReview⟩))
    events := .empty
    interventions := classRow .suggested }

/-- The record of an old task says of nobody that he was to sit it: the report counts none of its pupils, and the queue
    all of them. The switch leaves the queue empty, a run before anybody has submitted leaves it as it stood, and a
    suggestion that was carried out stays when the class has got over the weakness. -/
theorem old_task_queued_only :
    ((∀ sid ∈ committedIds (halfWeak .diagnosticTask) 5, sid ∈ (halfWeak .diagnosticTask).classStudentIds 1) ∧
      ((computeQualityModel Config.rational (halfWeak .diagnosticTask) crowdedGraph 1 5 none).toOption.map
        QualityModel.commonWeak) = some [] ∧
      (classSuggestions (generateInterventions Config.rational (halfWeak .diagnosticTask) crowdedGraph 1 5
        (examAsOf ⟨5, 1, 5, .unit, .diagnosticTask⟩) none (noon 6) none).1 crowdedGraph 1 5).map
          (fun iv => (iv.kpId, iv.note)) = [(9, some "2/4 人待加强，建议下节课前 15 分钟重讲 + 变式训练")]) ∧
    (reported (halfWeak (.other "upload")) = some ["N1"] ∧
      queued { Config.rational with actionPlanEnable := false } (halfWeak (.other "upload")) (.other "upload") = []) ∧
    (reported unsubmitted = some [] ∧ queued Config.rational unsubmitted (.other "upload") = [(9, .suggested)]) ∧
    reported { retaken 1 with interventions := classRow .done } = some [] ∧
      queued Config.rational { retaken 1 with interventions := classRow .done } (.other "upload") = [(9, .done)] := by
  decide +kernel

end KnowledgeGap.Reports
