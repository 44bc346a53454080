import KnowledgeGap.Numeric.OrderStatistic
import KnowledgeGap.Pipeline.Weakness
import Mathlib.Data.List.Sort

namespace KnowledgeGap

open Relational Numeric

variable {K : Type} [Field K] [LinearOrder K]

/-- `sorted(values)` -/
def sortedValues (values : List K) : List K := stableSort (fun a b => decide (a ≤ b)) values

omit [Field K] in
theorem perm_sortedValues (values : List K) : (sortedValues values).Perm values := perm_stableSort _ values

omit [Field K] in
theorem sortedValues_sorted (values : List K) : (sortedValues values).Pairwise (fun a b => a ≤ b) :=
  (pairwise_stableSort (Comparison.ofKey id) values).imp of_decide_eq_true

omit [Field K] in
theorem sortedValues_ne_nil {values : List K} (nonempty : values ≠ []) : sortedValues values ≠ [] := by
  intro empty
  have perm := perm_sortedValues values
  rw [empty] at perm
  exact nonempty perm.nil_eq.symm

omit [Field K] in
theorem sortedValues_perm {values values' : List K} (perm : values'.Perm values) :
    sortedValues values' = sortedValues values :=
  (((perm_sortedValues values').trans perm).trans (perm_sortedValues values).symm).eq_of_pairwise'
    (sortedValues_sorted values') (sortedValues_sorted values)

variable [IsStrictOrderedRing K] [FloorRing K]

/-- Where between the ranks the percentile is read. -/
def position (count : Nat) (p : K) : K := ((count : K) - 1) * p / (100 : Nat)

omit [FloorRing K] in
theorem position_bounds {count : Nat} (some_ : 1 ≤ count) {p : K} (low : 0 ≤ p) (high : p ≤ 100) :
    0 ≤ position count p ∧ position count p ≤ (count : K) - 1 := by
  have size : (1 : K) ≤ (count : K) := by exact_mod_cast some_
  have most : ((count : K) - 1) * p ≤ ((count : K) - 1) * 100 := mul_le_mul_of_nonneg_left high (by linarith)
  constructor
  · exact div_nonneg (mul_nonneg (by linarith) low) (by norm_num)
  · rw [position, div_le_iff₀ (by norm_num)]
    push_cast
    exact most

omit [FloorRing K] in
theorem position_mono (count : Nat) (some_ : 1 ≤ count) {p p' : K} (below : p ≤ p') : position count p ≤ position count p' := by
  have size : (1 : K) ≤ (count : K) := by exact_mod_cast some_
  exact div_le_div_of_nonneg_right (mul_le_mul_of_nonneg_left below (by linarith)) (by norm_num)

theorem ceil_position_lt {count : Nat} (some_ : 1 ≤ count) {p : K} (low : 0 ≤ p) (high : p ≤ 100) :
    ⌈position count p⌉.toNat < count := by
  have bound : ⌈position count p⌉ ≤ (count : Int) - 1 := by
    rw [Int.ceil_le]
    push_cast
    exact (position_bounds some_ low high).2
  omega

/-- The percentile is the sorted list, read between two ranks. -/
theorem percentile_eq {values : List K} (nonempty : values ≠ []) {p : K} (low : 0 ≤ p) (high : p ≤ 100) :
    percentile values p =
      some (lerp (ranked (sortedValues values) (sortedValues_ne_nil nonempty)) (position values.length p)) := by
  have size : (sortedValues values).length = values.length := (perm_sortedValues values).length_eq
  have full := sortedValues_ne_nil nonempty
  have some_ : 1 ≤ values.length := List.length_pos_iff.mpr nonempty
  have above : ⌈position values.length p⌉.toNat < (sortedValues values).length := by
    rw [size]
    exact ceil_position_lt some_ low high
  have below : ⌊position values.length p⌋.toNat < (sortedValues values).length :=
    Nat.lt_of_le_of_lt (floor_le_ceil_toNat _) above
  have start : 0 ≤ ⌊position values.length p⌋ := Int.floor_nonneg.mpr (position_bounds some_ low high).1
  have order := Int.floor_le_ceil (position values.length p)
  rw [lerp, ranked_of_lt full below, ranked_of_lt full above]
  unfold percentile
  dsimp only
  rw [show stableSort (fun a b => decide (a ≤ b)) values = sortedValues values from rfl]
  split
  · rename_i empty
    exact absurd empty full
  · rename_i x single
    have here : ∀ k (inside : k < (sortedValues values).length), (sortedValues values)[k] = x := by
      intro k inside
      have zero : k = 0 := by
        rw [single, List.length_singleton] at inside
        omega
      simp only [single, zero, List.getElem_cons_zero]
    rw [here _ below, here _ above]
    congr 1
    ring
  · rw [size]
    rw [show ((values.length : K) - 1) * p / (100 : Nat) = position values.length p from rfl]
    split
    · rename_i integral
      have flat : position values.length p - (⌊position values.length p⌋ : K) = 0 := by
        have exact_ : (⌊position values.length p⌋ : K) = position values.length p := by
          apply le_antisymm (Int.floor_le _)
          rw [integral]
          exact Int.le_ceil _
        rw [exact_, sub_self]
      rw [List.getElem?_eq_getElem below, flat]
      simp
    · rw [List.getElem?_eq_getElem below, List.getElem?_eq_getElem above]

/-- What a percentile of these values can be. -/
structure PercentileLaws (values : List K) : Prop where
  between : ∀ p, 0 ≤ p → p ≤ 100 → ∃ q, percentile values p = some q ∧
    (∃ least ∈ values, (∀ v ∈ values, least ≤ v) ∧ least ≤ q) ∧ ∃ most ∈ values, (∀ v ∈ values, v ≤ most) ∧ q ≤ most
  unordered : ∀ values', values'.Perm values → ∀ p, percentile values' p = percentile values p
  rising : ∀ p p', 0 ≤ p → p ≤ p' → p' ≤ 100 → ∀ q q', percentile values p = some q → percentile values p' = some q' → q ≤ q'
  raised : ∀ values', List.Forall₂ (fun v v' => v ≤ v') values values' → ∀ p, 0 ≤ p → p ≤ 100 →
    ∀ q q', percentile values p = some q → percentile values' p = some q' → q ≤ q'
  below : ∀ p, 0 ≤ p → p ≤ 100 → ∀ q, percentile values p = some q →
    (values.countP (fun v => decide (v < q)) : Int) ≤ ⌈((values.length : K) - 1) * p / 100⌉

theorem percentile_between {values : List K} (nonempty : values ≠ []) {p : K} (low : 0 ≤ p) (high : p ≤ 100) :
    ∃ q, percentile values p = some q ∧
      (∃ least ∈ values, (∀ v ∈ values, least ≤ v) ∧ least ≤ q) ∧
      ∃ most ∈ values, (∀ v ∈ values, v ≤ most) ∧ q ≤ most := by
  have full := sortedValues_ne_nil nonempty
  have climbs := ranked_monotone full (sortedValues_sorted values)
  have size : 0 < (sortedValues values).length := List.length_pos_iff.mpr full
  have inside : ∀ k, ranked (sortedValues values) full k ∈ values := fun k =>
    (perm_sortedValues values).mem_iff.mp (ranked_mem _ full k)
  have rank : ∀ v ∈ values, ∃ k, k < (sortedValues values).length ∧ ranked (sortedValues values) full k = v := by
    intro v listed
    obtain ⟨k, within, same⟩ := List.getElem_of_mem ((perm_sortedValues values).mem_iff.mpr listed)
    exact ⟨k, within, by rw [ranked_of_lt full within, same]⟩
  refine ⟨_, percentile_eq nonempty low high, ⟨_, inside 0, ?_, ?_⟩, ⟨_, inside ((sortedValues values).length - 1), ?_, ?_⟩⟩
  · intro v listed
    obtain ⟨k, _, same⟩ := rank v listed
    rw [← same]
    exact climbs (Nat.zero_le k)
  · exact le_trans (climbs (Nat.zero_le _)) (le_lerp climbs _)
  · intro v listed
    obtain ⟨k, within, same⟩ := rank v listed
    rw [← same]
    exact climbs (by omega)
  · refine le_trans (lerp_le climbs _) (climbs ?_)
    have top := ceil_position_lt (List.length_pos_iff.mpr nonempty) low high
    rw [(perm_sortedValues values).length_eq]
    omega

theorem percentile_below {values : List K} (nonempty : values ≠ []) {p q : K} (low : 0 ≤ p) (high : p ≤ 100)
    (found : percentile values p = some q) :
    (values.countP (fun v => decide (v < q)) : Int) ≤ ⌈position values.length p⌉ := by
  rw [percentile_eq nonempty low high, Option.some.injEq] at found
  have full := sortedValues_ne_nil nonempty
  have some_ : 1 ≤ values.length := List.length_pos_iff.mpr nonempty
  have size : (sortedValues values).length = values.length := (perm_sortedValues values).length_eq
  have within : ⌈position values.length p⌉.toNat < (sortedValues values).length := by
    rw [size]
    exact ceil_position_lt some_ low high
  have climbs := ranked_monotone full (sortedValues_sorted values)
  have bound : q ≤ (sortedValues values)[⌈position values.length p⌉.toNat] := by
    rw [← found, ← ranked_of_lt full within]
    exact lerp_le climbs _
  have down : ∀ a b : K, a ≤ b → decide (b < q) = true → decide (a < q) = true := by
    intro a b less holds
    exact decide_eq_true (lt_of_le_of_lt less (of_decide_eq_true holds))
  have few : ¬ ⌈position values.length p⌉.toNat < (sortedValues values).countP (fun v => decide (v < q)) := by
    intro many
    have under := (lt_countP_iff (sortedValues_sorted values) down _ within).mp many
    exact absurd (of_decide_eq_true under) (not_lt.mpr bound)
  rw [← (perm_sortedValues values).countP_eq]
  have start : 0 ≤ ⌈position values.length p⌉ := Int.ceil_nonneg (position_bounds some_ low high).1
  omega

theorem percentile_laws {values : List K} (nonempty : values ≠ []) : PercentileLaws values where
  between _ low high := percentile_between nonempty low high
  unordered values' perm p := by
    have same : stableSort (fun a b => decide (a ≤ b)) values' = stableSort (fun a b => decide (a ≤ b)) values :=
      sortedValues_perm perm
    unfold percentile
    rw [same]
  rising p p' low below high q q' left right := by
    rw [percentile_eq nonempty low (le_trans below high), Option.some.injEq] at left
    rw [percentile_eq nonempty (le_trans low below) high, Option.some.injEq] at right
    rw [← left, ← right]
    exact lerp_monotone (ranked_monotone _ (sortedValues_sorted values))
      (position_mono values.length (List.length_pos_iff.mpr nonempty) below)
  raised values' higher p low high q q' left right := by
    have full : values' ≠ [] := by
      intro empty
      rw [empty] at higher
      exact nonempty (List.forall₂_nil_right_iff.mp higher)
    rw [percentile_eq nonempty low high, Option.some.injEq] at left
    rw [percentile_eq full low high, Option.some.injEq, ← higher.length_eq] at right
    rw [← left, ← right]
    exact lerp_le_lerp (ranked_le_ranked higher (perm_sortedValues values) (perm_sortedValues values') _ _
      (sortedValues_sorted values) (sortedValues_sorted values')) _
  below _ low high _ found := by
    have few := percentile_below nonempty low high found
    rw [position] at few
    exact_mod_cast few

/-- The assessment calls the point weak by the quartile of the class. -/
def markedByP25 (a : KpAssessment K) : Bool :=
  decide (a.weakCriterion = some .classP25) || decide (a.weakCriterion = some .both)

/-- The events `assess_student_kps` reads. -/
def eventsRead (db : Db K) (g : KpGraph K) (classId : Nat) (asOf : DateTime) (prefetched : Option (Batch K))
    (studentId kpId : Nat) : List (EvidenceEvent K) :=
  (match prefetched with
    | some batch => batch
    | none => getEventsBatch db (db.classStudentIds classId) (g.gradeKpIds (classGrade db classId)) asOf).getD
      (studentId, kpId) []

def classDistribution (cfg : Config K) (db : Db K) (g : KpGraph K) (classId : Nat) (asOf : DateTime)
    (prefetched : Option (Batch K)) (kp : KnowledgePoint K) : List K :=
  classMasteryDist cfg (coveredKpIds db classId (some asOf)) asOf (db.classStudentIds classId)
    (eventsRead db g classId asOf prefetched) kp

omit [IsStrictOrderedRing K] in
theorem assessStudentKps_eq (cfg : Config K) (db : Db K) (g : KpGraph K) (studentId classId : Nat) (asOf : DateTime)
    (prefetched : Option (Batch K)) :
    assessStudentKps cfg db g studentId classId asOf prefetched =
      (g.gradeKps (classGrade db classId)).map (assessKp cfg (coveredKpIds db classId (some asOf)) asOf
        (db.classStudentIds classId) (eventsRead db g classId asOf prefetched) studentId) := by
  cases prefetched <;> rfl

omit [IsStrictOrderedRing K] in
theorem measure_graded {cfg : Config K} {covered : List Nat} {asOf : DateTime} {events : List (EvidenceEvent K)}
    {kp : KnowledgePoint K} (passed : (measure cfg covered asOf events kp).gate = none) :
    (measure cfg covered asOf events kp).mastery = gradedMastery cfg kp events asOf := by
  unfold measure at passed ⊢
  dsimp only at passed ⊢
  split at passed
  · cases passed
  · rename_i taught
    rw [if_neg taught]
    split at passed
    · cases passed
    · split at passed
      · cases passed
      · rename_i enough
        rw [if_neg enough]

omit [IsStrictOrderedRing K] in
theorem measure_unmarked (cfg : Config K) (covered : List Nat) (asOf : DateTime) (events : List (EvidenceEvent K))
    (kp : KnowledgePoint K) : (measure cfg covered asOf events kp).weakCriterion = none := by
  unfold measure
  dsimp only
  split
  · rfl
  · split
    · rfl
    · split <;> rfl

omit [FloorRing K] [IsStrictOrderedRing K] in
theorem judgeCommon_weakCriterion (distribution : List K) (a : KpAssessment K) :
    (judgeCommon distribution a).weakCriterion = a.weakCriterion := by
  unfold judgeCommon
  split <;> rfl

omit [IsStrictOrderedRing K] in
/-- Whom the quartile marks has a mastery strictly below it. -/
theorem judgeWeak_marked {cfg : Config K} {distribution : List K} {a : KpAssessment K} (fresh : a.weakCriterion = none)
    (marked : markedByP25 (judgeWeak cfg distribution a) = true) :
    a.gate = none ∧ ∃ m q, a.mastery = some m ∧ percentile distribution (classPercentile K) = some q ∧ m < q := by
  unfold judgeWeak at marked
  split at marked
  · rename_i m mastery gate
    refine ⟨gate, m, ?_⟩
    by_cases enough : 4 ≤ distribution.length
    · simp only [if_pos enough] at marked
      cases found : percentile distribution (classPercentile K) with
      | none =>
        rw [found] at marked
        cases mode : cfg.weaknessMode <;> cases floor : decide (m < a.floor) <;>
          simp [markedByP25, mode, floor, fresh] at marked
      | some q =>
        refine ⟨q, mastery, rfl, ?_⟩
        by_contra above
        rw [found] at marked
        cases mode : cfg.weaknessMode <;> cases floor : decide (m < a.floor) <;>
          simp [markedByP25, mode, floor, fresh, above] at marked
    · simp only [if_neg enough] at marked
      cases mode : cfg.weaknessMode <;> cases floor : decide (m < a.floor) <;>
        simp [markedByP25, mode, floor, fresh] at marked
  · simp [markedByP25, fresh] at marked

omit [IsStrictOrderedRing K] in
theorem assessKp_marked {cfg : Config K} {covered : List Nat} {asOf : DateTime} {classStudentIds : List Nat}
    {eventsFor : Nat → Nat → List (EvidenceEvent K)} {studentId : Nat} {kp : KnowledgePoint K}
    (marked : markedByP25 (assessKp cfg covered asOf classStudentIds eventsFor studentId kp) = true) :
    kp.id ∈ covered ∧ cfg.minEvidenceCount ≤ (eventsFor studentId kp.id).length ∧
      ∃ m q, gradedMastery cfg kp (eventsFor studentId kp.id) asOf = some m ∧
        percentile (classMasteryDist cfg covered asOf classStudentIds eventsFor kp) (classPercentile K) = some q ∧
        m < q := by
  have judged : markedByP25 (judgeWeak cfg (classMasteryDist cfg covered asOf classStudentIds eventsFor kp)
      (measure cfg covered asOf (eventsFor studentId kp.id) kp)) = true := by
    rw [assessKp, markedByP25, judgeCommon_weakCriterion] at marked
    exact marked
  obtain ⟨passed, m, q, mastery, found, under⟩ := judgeWeak_marked (measure_unmarked _ _ _ _ _) judged
  obtain ⟨taught, enough⟩ := measure_gate_none passed
  rw [measure_graded passed] at mastery
  exact ⟨taught, enough, m, q, mastery, found, under⟩

/-- The quartile marks no more pupils than may stand below it. -/
theorem p25_marks_few (cfg : Config K) (covered : List Nat) (asOf : DateTime) (classStudentIds : List Nat)
    (eventsFor : Nat → Nat → List (EvidenceEvent K)) (kp : KnowledgePoint K) :
    (classStudentIds.countP (fun sid =>
        markedByP25 (assessKp cfg covered asOf classStudentIds eventsFor sid kp)) : Int) ≤
      ⌈(((classMasteryDist cfg covered asOf classStudentIds eventsFor kp).length : K) - 1) / 4⌉ := by
  by_cases some_ : ∃ sid ∈ classStudentIds, markedByP25 (assessKp cfg covered asOf classStudentIds eventsFor sid kp) = true
  · obtain ⟨one, listed, marked⟩ := some_
    obtain ⟨taught, _, _, q, _, found, _⟩ := assessKp_marked marked
    have filled : classMasteryDist cfg covered asOf classStudentIds eventsFor kp ≠ [] := by
      intro empty
      rw [empty] at found
      cases found
    have few := percentile_below filled (by norm_num [classPercentile]) (by norm_num [classPercentile]) found
    have quarter : position (classMasteryDist cfg covered asOf classStudentIds eventsFor kp).length (classPercentile K) =
        (((classMasteryDist cfg covered asOf classStudentIds eventsFor kp).length : K) - 1) / 4 := by
      rw [position, classPercentile]
      push_cast
      ring
    rw [quarter] at few
    refine le_trans ?_ few
    -- whoever is marked stands in the distribution with a value below the quartile
    have within : classStudentIds.countP (fun sid =>
          markedByP25 (assessKp cfg covered asOf classStudentIds eventsFor sid kp)) ≤
        (classMasteryDist cfg covered asOf classStudentIds eventsFor kp).countP (fun v => decide (v < q)) := by
      conv_rhs => rw [classMasteryDist, if_neg (not_not.mpr taught), List.countP_filterMap]
      apply List.countP_mono_left
      intro sid _ marked
      obtain ⟨_, enough, m, q', graded, found', under⟩ := assessKp_marked marked
      have same : q' = q := Option.some.inj (found'.symm.trans found)
      rw [same] at under
      dsimp only
      rw [if_pos enough, graded]
      simpa using under
    exact_mod_cast within
  · have none_ : classStudentIds.countP (fun sid =>
        markedByP25 (assessKp cfg covered asOf classStudentIds eventsFor sid kp)) = 0 := by
      rw [List.countP_eq_zero]
      intro sid listed marked
      exact some_ ⟨sid, listed, marked⟩
    rw [none_, Nat.cast_zero]
    have size : (0 : K) ≤ ((classMasteryDist cfg covered asOf classStudentIds eventsFor kp).length : K) := Nat.cast_nonneg _
    have low : (-1 : K) < (((classMasteryDist cfg covered asOf classStudentIds eventsFor kp).length : K) - 1) / 4 := by
      rw [lt_div_iff₀ (by norm_num)]
      linarith
    have above : (-1 : Int) < ⌈(((classMasteryDist cfg covered asOf classStudentIds eventsFor kp).length : K) - 1) / 4⌉ := by
      rw [Int.lt_ceil]
      push_cast
      exact low
    omega

/-- The percentile of a class bounds how many of its pupils it can mark. -/
theorem class_percentile_bounds :
    (∀ values : List K, values ≠ [] → PercentileLaws values) ∧
    ∀ (cfg : Config K) (db : Db K) (g : KpGraph K) classId asOf prefetched,
      ∀ kp ∈ g.gradeKps (classGrade db classId),
        ((db.classStudentIds classId).countP (fun sid =>
            (assessStudentKps cfg db g sid classId asOf prefetched).any (fun a => a.kpId == kp.id && markedByP25 a)) : Int) ≤
          ⌈(((classDistribution cfg db g classId asOf prefetched kp).length : K) - 1) / 4⌉ := by
  refine ⟨fun _ nonempty => percentile_laws nonempty, ?_⟩
  intro cfg db g classId asOf prefetched kp graded
  have only : ∀ sid, (assessStudentKps cfg db g sid classId asOf prefetched).any
        (fun a => a.kpId == kp.id && markedByP25 a) =
      markedByP25 (assessKp cfg (coveredKpIds db classId (some asOf)) asOf (db.classStudentIds classId)
        (eventsRead db g classId asOf prefetched) sid kp) := by
    intro sid
    rw [assessStudentKps_eq, List.any_map]
    rw [Bool.eq_iff_iff, List.any_eq_true]
    constructor
    · intro some_
      obtain ⟨other, listed, holds⟩ := some_
      rw [Function.comp_apply, Bool.and_eq_true, beq_iff_eq, (assessKp_same _ _ _ _ _ _ _).kpId, measure_kpId] at holds
      have same : other = kp := List.inj_on_of_nodup_map (g.nodup_gradeKpIds _) listed graded holds.1
      rw [← same]
      exact holds.2
    · intro marked
      refine ⟨kp, graded, ?_⟩
      rw [Function.comp_apply, Bool.and_eq_true, beq_iff_eq, (assessKp_same _ _ _ _ _ _ _).kpId, measure_kpId]
      exact ⟨rfl, marked⟩
  simp only [only]
  exact p25_marks_few cfg _ asOf _ _ kp

def quartilePoint : KnowledgePoint ℚ :=
  { id := 9, kbVersionId := 1, code := "N1", name := "有理数", grade := 7, cogLevelsExpected := [],
    difficultyPrior := 1 / 2, masteryFloor := 6 / 10, importance := .core, archived := false }

/-- Two answers to the point by one pupil. -/
def twoAnswers (studentId : Nat) (value : ℚ) : List (EvidenceEvent ℚ) :=
  [⟨2 * studentId, studentId, 9, 2 * studentId, .unit, value, 1, .apply, none, noon 0⟩,
    ⟨2 * studentId + 1, studentId, 9, 2 * studentId + 1, .unit, value, 1, .apply, none, noon 0⟩]

/-- Five pupils, of whom one is behind. -/
def quartileClass : Db ℚ :=
  { Db.empty ℚ with
    classes := .ofList [⟨1, 7⟩]
    students := .ofList [⟨1, 1, "甲"⟩, ⟨2, 1, "乙"⟩, ⟨3, 1, "丙"⟩, ⟨4, 1, "丁"⟩, ⟨5, 1, "戊"⟩]
    progress := .ofList [⟨1, 1, 9, 0⟩]
    events := .ofList (twoAnswers 1 (1 / 2) ++ twoAnswers 2 (8 / 10) ++ twoAnswers 3 (8 / 10) ++ twoAnswers 4 (9 / 10) ++
      twoAnswers 5 1) }

def quartileGraph : KpGraph ℚ := .discrete [quartilePoint] (by decide)

theorem class_percentile_bounds_quartile :
    PercentileLaws [(3 : ℚ), 1, 1, 2] ∧
    ((quartileClass.classStudentIds 1).countP (fun sid =>
        (assessStudentKps Config.rational quartileClass quartileGraph sid 1 (noon 0) none).any
          (fun a => a.kpId == quartilePoint.id && markedByP25 a)) : Int) ≤
      ⌈(((classDistribution Config.rational quartileClass quartileGraph 1 (noon 0) none quartilePoint).length : ℚ) - 1) / 4⌉ := by
  have bounds := class_percentile_bounds (K := ℚ)
  exact ⟨bounds.1 _ (by decide),
    bounds.2 Config.rational quartileClass quartileGraph 1 (noon 0) none quartilePoint (by decide +kernel)⟩

/-- The bound is met: of five pupils one may be marked, and one is. -/
example : (quartileClass.classStudentIds 1).countP (fun sid =>
    (assessStudentKps Config.rational quartileClass quartileGraph sid 1 (noon 0) none).any
      (fun a => a.kpId == quartilePoint.id && markedByP25 a)) = 1 := by
  decide +kernel

end KnowledgeGap
