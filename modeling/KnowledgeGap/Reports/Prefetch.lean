import KnowledgeGap.Pipeline.Weakness
import Mathlib.Algebra.Order.Floor.Ring
import Mathlib.Tactic.Linarith

namespace KnowledgeGap

open Relational

variable {K : Type}

def reportStudentIds (db : Db K) (examId : Nat) : List Nat :=
  let studentIds := (db.responses.select (fun r =>
    r.examTemplateId == examId && decide (r.status = .submitted))).map ExamResponse.studentId
  (db.students.select (fun s => decide (s.id ∈ studentIds))).map Student.id

def examAsOf (template : ExamTemplate) : DateTime := dayEnd template.examDate

/-- `events_by_sk` of `_generate_exam_reports`, shared by every pupil of the run. -/
def examBatch (db : Db K) (g : KpGraph K) (template : ExamTemplate) : Batch K :=
  getEventsBatch db (reportStudentIds db template.id) (g.gradeKpIds (classGrade db template.classId))
    (examAsOf template)

def ownBatch (db : Db K) (g : KpGraph K) (studentId classId : Nat) (asOf : DateTime) : Batch K :=
  getEventsBatch db [studentId] (g.gradeKpIds (classGrade db classId)) asOf

def weakKps (assessments : List (KpAssessment K)) : List Nat :=
  (assessments.filter KpAssessment.isWeak).map KpAssessment.kpId

theorem nodup_classStudentIds (db : Db K) (classId : Nat) : (db.classStudentIds classId).Nodup :=
  (List.Sublist.map Student.id List.filter_sublist).nodup db.students.nodup

theorem mem_reportStudentIds {db : Db K} {examId classId studentId : Nat}
    (enrolled : studentId ∈ db.classStudentIds classId)
    (submitted : ∃ r ∈ db.responses.rows, r.examTemplateId = examId ∧ r.status = .submitted ∧
      r.studentId = studentId) : studentId ∈ reportStudentIds db examId := by
  obtain ⟨s, member, rfl⟩ := List.mem_map.mp enrolled
  obtain ⟨r, stored, exam, status, owner⟩ := submitted
  refine List.mem_map.mpr ⟨s, List.mem_filter.mpr ⟨List.mem_of_mem_filter member, ?_⟩, rfl⟩
  rw [decide_eq_true_eq]
  exact List.mem_map.mpr ⟨r, List.mem_filter.mpr ⟨stored, by simp [exam, status]⟩, owner⟩

section
variable [Field K] [LinearOrder K]

/-- The mastery a pupil enters the distribution of a point with, if his evidence is enough for it. -/
def rating (cfg : Config K) (db : Db K) (kp : KnowledgePoint K) (asOf : DateTime) (studentId : Nat) :
    Option K :=
  if cfg.minEvidenceCount ≤ (getEvents db studentId kp.id asOf).length then
    gradedMastery cfg kp (getEvents db studentId kp.id asOf) asOf
  else none

def comparable (cfg : Config K) (db : Db K) (kp : KnowledgePoint K) (asOf : DateTime) (classId : Nat) : Nat :=
  (db.classStudentIds classId).countP (fun sid => (rating cfg db kp asOf sid).isSome)

theorem classMasteryDist_batch (cfg : Config K) (db : Db K) {covered : List Nat} (asOf : DateTime)
    (roster fetched kps : List Nat) {kp : KnowledgePoint K} (taught : kp.id ∈ covered)
    (listed : kp.id ∈ kps) :
    classMasteryDist cfg covered asOf roster
        (fun s k => (getEventsBatch db fetched kps asOf).getD (s, k) []) kp =
      (roster.filter (fun sid => decide (sid ∈ fetched))).filterMap (rating cfg db kp asOf) := by
  have positive := cfg.minEvidence_pos
  unfold classMasteryDist
  rw [if_neg (not_not.mpr taught), List.filterMap_filter]
  congr 1
  funext sid
  dsimp only
  rw [getD_getEventsBatch]
  by_cases asked : sid ∈ fetched
  · have held : sid ∈ fetched ∧ kp.id ∈ kps := ⟨asked, listed⟩
    simp only [held, and_self, ↓reduceIte, decide_true]
    rfl
  · have none_fetched : ¬ cfg.minEvidenceCount ≤ 0 := by omega
    simp only [asked, false_and, ↓reduceIte, List.length_nil, none_fetched, decide_false,
      Bool.false_eq_true]

variable [FloorRing K]

theorem measure_valid (cfg : Config K) (db : Db K) {covered : List Nat} (asOf : DateTime) (studentId : Nat)
    {kp : KnowledgePoint K} :
    (measure cfg covered asOf (getEvents db studentId kp.id asOf) kp).valid = true ↔
      kp.id ∈ covered ∧ (rating cfg db kp asOf studentId).isSome := by
  have positive := cfg.minEvidence_pos
  unfold measure rating KpAssessment.valid
  dsimp only
  by_cases taught : kp.id ∈ covered
  · rw [if_neg (not_not.mpr taught)]
    cases last : (getEvents db studentId kp.id asOf).getLast? with
    | none =>
      have empty : getEvents db studentId kp.id asOf = [] := List.getLast?_eq_none_iff.mp last
      have few : ¬ cfg.minEvidenceCount ≤ (getEvents db studentId kp.id asOf).length := by
        rw [empty, List.length_nil]
        omega
      simp [few]
    | some e =>
      dsimp only
      by_cases few : (getEvents db studentId kp.id asOf).length < cfg.minEvidenceCount
      · rw [if_pos few, if_neg (not_le.mpr few)]
        simp
      · rw [if_neg few, if_pos (not_lt.mp few)]
        simp [taught]
  · simp [taught]

theorem judge_invalid (cfg : Config K) (distribution : List K) {a : KpAssessment K}
    (invalid : a.valid = false) : judgeCommon distribution (judgeWeak cfg distribution a) = a := by
  have unjudged : judgeWeak cfg distribution a = a := by
    unfold judgeWeak
    split
    · rename_i m mastery gate
      simp [KpAssessment.valid, mastery, gate] at invalid
    · rfl
  rw [unjudged, judgeCommon, invalid]
  rfl

theorem judge_short (cfg : Config K) {distribution : List K} (short : distribution.length < 4)
    (a : KpAssessment K) :
    judgeCommon distribution (judgeWeak cfg distribution a) = judgeCommon [] (judgeWeak cfg [] a) := by
  have bound : ¬ 4 ≤ distribution.length := by omega
  have weak : judgeWeak cfg distribution a = judgeWeak cfg [] a := by
    have none_left : ¬ 4 ≤ ([] : List K).length := by simp
    simp only [judgeWeak, if_neg bound, if_neg none_left]
  rw [weak]
  simp [judgeCommon, bound]

theorem judge_classP25 (cfg : Config K) (distribution : List K) {a : KpAssessment K} (valid : a.valid = true) :
    (judgeCommon distribution (judgeWeak cfg distribution a)).classP25 =
      if 4 ≤ distribution.length then percentile distribution (classPercentile K) else none := by
  have common : ∀ b : KpAssessment K, (judgeCommon distribution b).classP25 = b.classP25 := by
    intro b
    unfold judgeCommon
    split <;> rfl
  rw [common]
  unfold judgeWeak
  split
  · dsimp only
    split <;> rfl
  · rename_i judged
    obtain ⟨mastery, gate⟩ : a.mastery.isSome = true ∧ a.gate = none := by
      simpa [KpAssessment.valid] using valid
    obtain ⟨m, found⟩ := Option.isSome_iff_exists.mp mastery
    exact absurd gate (judged m found)

theorem assessKp_batch (cfg : Config K) (db : Db K) {covered : List Nat} (asOf : DateTime)
    (roster fetched kps : List Nat) {studentId : Nat} (asked : studentId ∈ fetched) {kp : KnowledgePoint K}
    (listed : kp.id ∈ kps) (taught : kp.id ∈ covered) :
    assessKp cfg covered asOf roster (fun s k => (getEventsBatch db fetched kps asOf).getD (s, k) [])
        studentId kp =
      judgeCommon ((roster.filter (fun sid => decide (sid ∈ fetched))).filterMap (rating cfg db kp asOf))
        (judgeWeak cfg ((roster.filter (fun sid => decide (sid ∈ fetched))).filterMap (rating cfg db kp asOf))
          (measure cfg covered asOf (getEvents db studentId kp.id asOf) kp)) := by
  unfold assessKp
  dsimp only
  rw [classMasteryDist_batch cfg db asOf roster fetched kps taught listed, getD_getEventsBatch,
    if_pos ⟨asked, listed⟩]

theorem assessKp_batch_congr (cfg : Config K) (db : Db K) {covered : List Nat} (asOf : DateTime)
    (roster left right kps : List Nat) {studentId : Nat} (inLeft : studentId ∈ left)
    (inRight : studentId ∈ right) {kp : KnowledgePoint K} (listed : kp.id ∈ kps)
    (few : kp.id ∈ covered → (rating cfg db kp asOf studentId).isSome →
      roster.countP (fun sid => (rating cfg db kp asOf sid).isSome) < 4) :
    assessKp cfg covered asOf roster (fun s k => (getEventsBatch db left kps asOf).getD (s, k) [])
        studentId kp =
      assessKp cfg covered asOf roster (fun s k => (getEventsBatch db right kps asOf).getD (s, k) [])
        studentId kp := by
  by_cases taught : kp.id ∈ covered
  · rw [assessKp_batch cfg db asOf roster left kps inLeft listed taught,
      assessKp_batch cfg db asOf roster right kps inRight listed taught]
    cases valid : (measure cfg covered asOf (getEvents db studentId kp.id asOf) kp).valid with
    | false => rw [judge_invalid cfg _ valid, judge_invalid cfg _ valid]
    | true =>
      have rated := ((measure_valid cfg db asOf studentId).mp valid).2
      have short : ∀ fetched : List Nat, ((roster.filter (fun sid => decide (sid ∈ fetched))).filterMap
          (rating cfg db kp asOf)).length < 4 := by
        intro fetched
        rw [List.length_filterMap_eq_countP]
        exact lt_of_le_of_lt (List.Sublist.countP_le List.filter_sublist) (few taught rated)
      rw [judge_short cfg (short left), judge_short cfg (short right)]
  · unfold assessKp classMasteryDist
    dsimp only
    rw [if_pos taught, if_pos taught, getD_getEventsBatch, getD_getEventsBatch, if_pos ⟨inLeft, listed⟩,
      if_pos ⟨inRight, listed⟩]

theorem assessStudentKps_none (cfg : Config K) (db : Db K) (g : KpGraph K) (studentId classId : Nat)
    (asOf : DateTime) :
    assessStudentKps cfg db g studentId classId asOf none =
      assessStudentKps cfg db g studentId classId asOf
        (some (getEventsBatch db (db.classStudentIds classId) (g.gradeKpIds (classGrade db classId)) asOf)) :=
  rfl

/-- Four pupils of the class can never be compared on a point where this one can. -/
def NeverCompared (cfg : Config K) (db : Db K) (g : KpGraph K) (studentId classId : Nat)
    (asOf : DateTime) : Prop :=
  ∀ kp ∈ g.gradeKps (classGrade db classId), kp.id ∈ coveredKpIds db classId (some asOf) →
    (rating cfg db kp asOf studentId).isSome → comparable cfg db kp asOf classId < 4

theorem assessStudentKps_batch_congr {cfg : Config K} {db : Db K} {g : KpGraph K} {studentId classId : Nat}
    {asOf : DateTime} (alone : NeverCompared cfg db g studentId classId asOf)
    (enrolled : studentId ∈ db.classStudentIds classId) {fetched : List Nat} (asked : studentId ∈ fetched) :
    assessStudentKps cfg db g studentId classId asOf
        (some (getEventsBatch db fetched (g.gradeKpIds (classGrade db classId)) asOf)) =
      assessStudentKps cfg db g studentId classId asOf none := by
  rw [assessStudentKps_none]
  unfold assessStudentKps
  dsimp only
  apply List.map_congr_left
  intro kp listed
  exact assessKp_batch_congr cfg db asOf _ _ _ _ asked enrolled (List.mem_map_of_mem listed)
    (alone kp listed)

end

section
variable [Field K] [LinearOrder K] [IsStrictOrderedRing K] [FloorRing K]

theorem percentile_isSome {values : List K} (nonempty : values ≠ []) {p : K} (low : 0 ≤ p) (high : p ≤ 100) :
    (percentile values p).isSome := by
  have same : (stableSort (fun a b => decide (a ≤ b)) values).length = values.length :=
    (perm_stableSort _ values).length_eq
  unfold percentile
  dsimp only
  generalize stableSort (fun a b => decide (a ≤ b)) values = xs at same ⊢
  have full : xs ≠ [] := by
    intro empty
    rw [empty, List.length_nil] at same
    exact nonempty (List.length_eq_zero_iff.mp same.symm)
  have size : 1 ≤ xs.length := List.length_pos_iff.mpr full
  have sizeK : (1 : K) ≤ (xs.length : K) := by exact_mod_cast size
  have pos_nonneg : 0 ≤ ((xs.length : K) - 1) * p / 100 := by
    apply div_nonneg (mul_nonneg (by linarith) low)
    norm_num
  have pos_le : ((xs.length : K) - 1) * p / 100 ≤ (xs.length : K) - 1 := by
    rw [div_le_iff₀ (by norm_num)]
    exact mul_le_mul_of_nonneg_left high (by linarith)
  generalize ((xs.length : K) - 1) * p / 100 = pos at pos_nonneg pos_le ⊢
  have top : ⌈pos⌉ ≤ (xs.length : Int) - 1 := by
    rw [Int.ceil_le]
    push_cast
    exact pos_le
  have bottom : 0 ≤ ⌊pos⌋ := Int.floor_nonneg.mpr pos_nonneg
  have order : ⌊pos⌋ ≤ ⌈pos⌉ := Int.floor_le_ceil pos
  have below : ⌊pos⌋.toNat < xs.length := by omega
  have above : ⌈pos⌉.toNat < xs.length := by omega
  split
  · exact absurd rfl full
  · rfl
  · split
    · rw [List.getElem?_eq_getElem below]
      rfl
    · rw [List.getElem?_eq_getElem below, List.getElem?_eq_getElem above]
      rfl

theorem neverCompared_of_own {cfg : Config K} {db : Db K} {g : KpGraph K} {studentId classId : Nat}
    {asOf : DateTime} (enrolled : studentId ∈ db.classStudentIds classId)
    (same : assessStudentKps cfg db g studentId classId asOf (some (ownBatch db g studentId classId asOf)) =
      assessStudentKps cfg db g studentId classId asOf none) :
    NeverCompared cfg db g studentId classId asOf := by
  intro kp listed taught rated
  by_contra many
  have point : kp.id ∈ g.gradeKpIds (classGrade db classId) := List.mem_map_of_mem listed
  rw [assessStudentKps_none] at same
  unfold assessStudentKps ownBatch at same
  dsimp only at same
  have equal := (List.map_inj_left.mp same) kp listed
  rw [assessKp_batch cfg db asOf _ _ _ (List.mem_singleton.mpr rfl) point taught,
    assessKp_batch cfg db asOf _ _ _ enrolled point taught] at equal
  have valid := (measure_valid cfg db asOf studentId).mpr ⟨taught, rated⟩
  have quartiles := congrArg KpAssessment.classP25 equal
  rw [judge_classP25 cfg _ valid, judge_classP25 cfg _ valid] at quartiles
  have whole : (db.classStudentIds classId).filter (fun sid => decide (sid ∈ db.classStudentIds classId)) =
      db.classStudentIds classId := by
    rw [List.filter_eq_self]
    intro sid member
    simpa using member
  have wide : 4 ≤ ((db.classStudentIds classId).filterMap (rating cfg db kp asOf)).length := by
    rw [List.length_filterMap_eq_countP]
    exact Nat.le_of_not_lt many
  have single : ¬ 4 ≤ (((db.classStudentIds classId).filter (fun sid => decide (sid ∈ [studentId]))).filterMap
      (rating cfg db kp asOf)).length := by
    have once : (db.classStudentIds classId).countP (fun sid => decide (sid ∈ [studentId])) ≤ 1 := by
      have counted := List.nodup_iff_count_le_one.mp (nodup_classStudentIds db classId) studentId
      rw [List.count_eq_countP] at counted
      refine le_trans (List.countP_mono_left ?_) counted
      intro sid _ same
      simpa using same
    have bound := List.length_filterMap_le (rating cfg db kp asOf)
      ((db.classStudentIds classId).filter (fun sid => decide (sid ∈ [studentId])))
    rw [← List.countP_eq_length_filter] at bound
    omega
  rw [whole, if_pos wide, if_neg single] at quartiles
  have filled : (db.classStudentIds classId).filterMap (rating cfg db kp asOf) ≠ [] := by
    intro empty
    rw [empty] at wide
    simp at wide
  have some_quartile := percentile_isSome filled (p := classPercentile K) (by norm_num [classPercentile])
    (by norm_num [classPercentile])
  rw [← quartiles] at some_quartile
  cases some_quartile

/-- The report run, the pupil's graph and the assessment without a prefetch agree exactly when the
    pupil is never compared with four pupils of the class. -/
theorem prefetch_agrees_iff (cfg : Config K) (db : Db K) (g : KpGraph K) (template : ExamTemplate)
    (studentId : Nat) (enrolled : studentId ∈ db.classStudentIds template.classId)
    (submitted : ∃ r ∈ db.responses.rows, r.examTemplateId = template.id ∧ r.status = .submitted ∧
      r.studentId = studentId) :
    (assessStudentKps cfg db g studentId template.classId (examAsOf template)
        (some (examBatch db g template)) =
      assessStudentKps cfg db g studentId template.classId (examAsOf template) none ∧
    (∀ asOf, assessStudentKps cfg db g studentId template.classId asOf
        (some (ownBatch db g studentId template.classId asOf)) =
      assessStudentKps cfg db g studentId template.classId asOf none) ∧
    weakKps (assessStudentKps cfg db g studentId template.classId (examAsOf template)
        (some (examBatch db g template))) =
      weakKps (assessStudentKps cfg db g studentId template.classId (examAsOf template)
        (some (ownBatch db g studentId template.classId (examAsOf template))))) ↔
    ∀ asOf, NeverCompared cfg db g studentId template.classId asOf := by
  constructor
  · intro agree asOf
    exact neverCompared_of_own enrolled (agree.2.1 asOf)
  · intro alone
    have fetched := mem_reportStudentIds enrolled submitted
    have exam : assessStudentKps cfg db g studentId template.classId (examAsOf template)
        (some (examBatch db g template)) =
          assessStudentKps cfg db g studentId template.classId (examAsOf template) none :=
      assessStudentKps_batch_congr (alone (examAsOf template)) enrolled fetched
    have own : ∀ asOf, assessStudentKps cfg db g studentId template.classId asOf
        (some (ownBatch db g studentId template.classId asOf)) =
          assessStudentKps cfg db g studentId template.classId asOf none := by
      intro asOf
      exact assessStudentKps_batch_congr (alone asOf) enrolled (List.mem_singleton.mpr rfl)
    refine ⟨exam, own, ?_⟩
    rw [exam, own]

end

def comparedPoint : KnowledgePoint ℚ :=
  { id := 9, kbVersionId := 1, code := "N1", name := "有理数", grade := 7, cogLevelsExpected := [],
    difficultyPrior := 1 / 2, masteryFloor := 6 / 10, importance := .core, archived := false }

def comparedGraph : KpGraph ℚ := .discrete [comparedPoint] (by decide)

def comparedEvent (id studentId : Nat) (value : ℚ) : EvidenceEvent ℚ :=
  { id := id, studentId := studentId, kpId := 9, responseAnswerId := id, sourceType := .unit, value := value,
    weight := 1, cogLevel := .apply, classAvgRate := none, occurredAt := noon 0 }

def comparedExam : ExamTemplate := ⟨5, 1, 0, .unit, .other "upload"⟩

def comparedDb : Db ℚ :=
  { Db.empty ℚ with
    classes := .ofList [⟨1, 7⟩]
    students := .ofList [⟨1, 1, "甲"⟩, ⟨2, 1, "乙"⟩, ⟨3, 1, "丙"⟩, ⟨4, 1, "丁"⟩, ⟨5, 1, "戊"⟩]
    progress := .ofList [⟨1, 1, 9, 0⟩]
    templates := .ofList [comparedExam]
    responses := .ofList [⟨1, 5, 1, 0, .submitted⟩]
    events := .ofList [comparedEvent 1 1 (65 / 100), comparedEvent 2 1 (65 / 100), comparedEvent 3 2 (9 / 10),
      comparedEvent 4 2 (9 / 10), comparedEvent 5 3 (9 / 10), comparedEvent 6 3 (9 / 10),
      comparedEvent 7 4 (9 / 10), comparedEvent 8 4 (9 / 10), comparedEvent 9 5 (9 / 10),
      comparedEvent 10 5 (9 / 10)] }

theorem prefetch_hides_absent_classmates :
    weakKps (assessStudentKps Config.rational comparedDb comparedGraph 1 1 (examAsOf comparedExam) none) = [9] ∧
    weakKps (assessStudentKps Config.rational comparedDb comparedGraph 1 1 (examAsOf comparedExam)
      (some (examBatch comparedDb comparedGraph comparedExam))) = [] ∧
    weakKps (assessStudentKps Config.rational comparedDb comparedGraph 1 1 (examAsOf comparedExam)
      (some (ownBatch comparedDb comparedGraph 1 1 (examAsOf comparedExam)))) = [] := by
  decide +kernel

def soleDb : Db ℚ := { comparedDb with students := .ofList [⟨1, 1, "甲"⟩] }

theorem prefetch_agrees_sole :
    (1 ∈ soleDb.classStudentIds 1 ∧ ∀ asOf, NeverCompared Config.rational soleDb comparedGraph 1 1 asOf) ∧
    ∀ asOf, assessStudentKps Config.rational soleDb comparedGraph 1 1 asOf
      (some (ownBatch soleDb comparedGraph 1 1 asOf)) =
        assessStudentKps Config.rational soleDb comparedGraph 1 1 asOf none := by
  have alone : ∀ asOf, NeverCompared Config.rational soleDb comparedGraph 1 1 asOf := by
    intro asOf kp _ _ _
    have roster := List.countP_le_length
      (p := fun sid => (rating Config.rational soleDb kp asOf sid).isSome) (l := soleDb.classStudentIds 1)
    exact lt_of_le_of_lt roster (by decide)
  exact ⟨⟨by decide, alone⟩, ((prefetch_agrees_iff Config.rational soleDb comparedGraph comparedExam 1
    (by decide) (by decide)).mpr alone).2.1⟩

end KnowledgeGap
