import KnowledgeGap.Intervention.Effect

namespace KnowledgeGap

open Relational

variable {K : Type}

theorem eventsFor_peer (db : Db K) (g : KpGraph K) {classId studentId kpId : Nat} (asOf : DateTime)
    (enrolled : studentId ∈ db.classStudentIds classId)
    (listed : kpId ∈ g.gradeKpIds (classGrade db classId)) :
    (getEventsBatch db (db.classStudentIds classId) (g.gradeKpIds (classGrade db classId)) asOf).getD
      (studentId, kpId) [] = getEvents db studentId kpId asOf := by
  rw [getD_getEventsBatch, if_pos ⟨enrolled, listed⟩]

section
variable [Field K] [LinearOrder K]

theorem masteryUpTo_getEvents (cfg : Config K) (db : Db K) (s k : Nat) {asOf t : DateTime}
    (earlier : t ≤ asOf) : masteryUpTo cfg (getEvents db s k asOf) t = masteryAt cfg db s k t := by
  rw [masteryUpTo, filter_getEvents db s k earlier, masteryAt]

omit [Field K] in
theorem verdict_effect (cfg : Config K) (adjusted : K) :
    (verdictOfDelta cfg adjusted = .closed ↔ effectOfDelta cfg adjusted = .improved) ∧
      (verdictOfDelta cfg adjusted = .flat ↔ effectOfDelta cfg adjusted = .flat) ∧
      (verdictOfDelta cfg adjusted = .unclosed ↔ effectOfDelta cfg adjusted = .declined) ∧
      (verdictOfDelta cfg adjusted = .awaiting ∨ verdictOfDelta cfg adjusted = .selfReported ↔
        effectOfDelta cfg adjusted = .awaitingRetest) := by
  unfold verdictOfDelta effectOfDelta
  split
  · simp
  · split <;> simp

theorem verdictFromEvents_eq (cfg : Config K) (db : Db K) (g : KpGraph K) (iv : Intervention) {sid : Nat}
    {asOf lastT : DateTime} (owner : iv.studentId = some sid)
    (listed : iv.kpId ∈ g.gradeKpIds (classGrade db iv.classId)) (baseline : iv.baselineAsOf ≤ asOf)
    (within : lastT ≤ asOf) :
    verdictFromEvents cfg (getEvents db sid iv.kpId asOf) iv.baselineAsOf lastT
        (db.classStudentIds iv.classId) sid iv.kpId
        (fun s k => (getEventsBatch db (db.classStudentIds iv.classId)
          (g.gradeKpIds (classGrade db iv.classId)) asOf).getD (s, k) []) =
      verdictOfDelta cfg (adjust
        (gain ((masteryAt cfg db sid iv.kpId iv.baselineAsOf).getD 0) (masteryAt cfg db sid iv.kpId lastT))
        (classWindowDelta cfg db iv iv.baselineAsOf lastT)) := by
  have peers : (db.classStudentIds iv.classId).filter (fun pid => decide (pid ≠ sid)) =
      (db.classStudentIds iv.classId).filter (fun pid => decide (some pid ≠ iv.studentId)) := by
    apply List.filter_congr
    intro pid _
    simp [owner]
  have deltas : ((db.classStudentIds iv.classId).filter (fun pid => decide (pid ≠ sid))).filterMap
      (fun pid => change
        (masteryUpTo cfg ((getEventsBatch db (db.classStudentIds iv.classId)
          (g.gradeKpIds (classGrade db iv.classId)) asOf).getD (pid, iv.kpId) []) iv.baselineAsOf)
        (masteryUpTo cfg ((getEventsBatch db (db.classStudentIds iv.classId)
          (g.gradeKpIds (classGrade db iv.classId)) asOf).getD (pid, iv.kpId) []) lastT)) =
      ((db.classStudentIds iv.classId).filter (fun pid => decide (some pid ≠ iv.studentId))).filterMap
        (fun pid => change (masteryAt cfg db pid iv.kpId iv.baselineAsOf)
          (masteryAt cfg db pid iv.kpId lastT)) := by
    rw [peers]
    apply List.filterMap_congr
    intro pid member
    rw [eventsFor_peer db g asOf (List.mem_of_mem_filter member) listed,
      masteryUpTo_getEvents cfg db pid iv.kpId baseline, masteryUpTo_getEvents cfg db pid iv.kpId within]
  unfold verdictFromEvents classWindowDelta
  dsimp only
  rw [deltas, masteryUpTo_getEvents cfg db sid iv.kpId baseline,
    masteryUpTo_getEvents cfg db sid iv.kpId within]
  congr 1
  split
  · rename_i enough
    rw [if_neg (not_lt.mpr enough)]
    rfl
  · rename_i few
    rw [if_pos (not_le.mp few)]
    rfl

end

theorem lastAfter_le {db : Db K} {s k : Nat} {asOf since lastT : DateTime}
    (found : lastAfter (getEvents db s k asOf) since = some lastT) : lastT ≤ asOf := by
  have member := List.max?_mem found
  obtain ⟨e, kept, rfl⟩ := List.mem_map.mp member
  exact (mem_getEvents.mp (List.mem_of_mem_filter kept)).2.2.2

section
variable [Field K] [LinearOrder K] [FloorRing K]

/-- The row was executed strictly after every other row that affects the pupil on its point. -/
def LatestExecuted (db : Db K) (iv : Intervention) (sid : Nat) (done : DateTime) : Prop :=
  ∀ r ∈ db.interventions.rows, r.classId = iv.classId → (r.studentId = none ∨ r.studentId = some sid) →
    r.kpId = iv.kpId → r ≠ iv → r.status = .done → ∀ other, r.doneAt = some other → other < done

def AssessedWeak (cfg : Config K) (db : Db K) (g : KpGraph K) (classId sid kpId : Nat) (asOf : DateTime) :
    Prop :=
  ∃ a ∈ assessStudentKps cfg db g sid classId asOf none, a.kpId = kpId ∧ a.isWeak = true

theorem AssessedWeak.listed {cfg : Config K} {db : Db K} {g : KpGraph K} {classId sid kpId : Nat}
    {asOf : DateTime} (weak : AssessedWeak cfg db g classId sid kpId asOf) :
    sid ∈ db.classStudentIds classId ∧ kpId ∈ g.gradeKpIds (classGrade db classId) ∧
      getEvents db sid kpId asOf ≠ [] := by
  obtain ⟨a, assessed, rfl, isWeak⟩ := weak
  obtain ⟨gate, _⟩ := mem_assessStudentKps_weak assessed isWeak
  obtain ⟨enrolled, enough⟩ := assessed_on_evidence assessed gate
  have positive := cfg.minEvidence_pos
  refine ⟨enrolled, mem_assessStudentKps assessed, ?_⟩
  intro empty
  rw [empty, List.length_nil] at enough
  omega

theorem loopState_of_latest {cfg : Config K} {db : Db K} {g : KpGraph K} {iv : Intervention} {sid : Nat}
    {done asOf : DateTime} (stored : iv ∈ db.interventions.rows)
    (affects : iv.studentId = none ∨ iv.studentId = some sid)
    (carried : iv.status = .done ∧ iv.doneAt = some done) (latest : LatestExecuted db iv sid done)
    (weak : AssessedWeak cfg db g iv.classId sid iv.kpId asOf) :
    ∃ state, (loopStatesForStudent cfg db g sid iv.classId asOf).get? iv.kpId = some state ∧
      match lastAfter (getEvents db sid iv.kpId asOf) done with
      | none => state = .awaiting ∨ state = .selfReported
      | some lastT => state = verdictFromEvents cfg (getEvents db sid iv.kpId asOf) iv.baselineAsOf lastT
          (db.classStudentIds iv.classId) sid iv.kpId
          (fun s k => (getEventsBatch db (db.classStudentIds iv.classId)
            (g.gradeKpIds (classGrade db iv.classId)) asOf).getD (s, k) []) := by
  obtain ⟨enrolled, listed, _⟩ := weak.listed
  obtain ⟨a, assessed, point, isWeak⟩ := weak
  obtain ⟨gate, _⟩ := mem_assessStudentKps_weak assessed isWeak
  have judged : latestDone (rowsOf db iv.classId sid iv.kpId) = some (iv, done) := by
    apply latestDone_of_strict
    · exact mem_rowsOf.mpr ⟨stored, rfl, affects, rfl⟩
    · exact carried
    · intro r member other execution apart
      obtain ⟨held, cls, concerns, same⟩ := mem_rowsOf.mp member
      exact latest r held cls concerns same apart execution.1 other execution.2
  have state := loopStatesForStudent_get? assessed
  rw [point] at state
  simp only [loopState, gate, isWeak, Bool.not_true, Bool.false_eq_true, ↓reduceIte, judged, point,
    eventsFor_peer db g asOf enrolled listed] at state
  refine ⟨_, state, ?_⟩
  cases window : lastAfter (getEvents db sid iv.kpId asOf) done with
  | none =>
    dsimp only
    split
    · split
      · exact Or.inr rfl
      · exact Or.inl rfl
    · exact Or.inl rfl
  | some lastT => rfl

/-- The fold and the effect of the row it judges give the same verdict. -/
theorem effect_judges_agree (cfg : Config K) (db : Db K) (g : KpGraph K) (iv : Intervention)
    (sid : Nat) (done asOf : DateTime) (stored : iv ∈ db.interventions.rows)
    (owner : iv.studentId = some sid) (carried : iv.status = .done ∧ iv.doneAt = some done)
    (latest : ∀ r ∈ db.interventions.rows, r.classId = iv.classId →
      (r.studentId = none ∨ r.studentId = some sid) → r.kpId = iv.kpId → r ≠ iv →
        r.status = .done → ∀ other, r.doneAt = some other → other < done)
    (baseline : iv.baselineAsOf ≤ asOf)
    (weak : ∃ a ∈ assessStudentKps cfg db g sid iv.classId asOf none,
      a.kpId = iv.kpId ∧ a.isWeak = true) :
    ∃ state effect,
      (loopStatesForStudent cfg db g sid iv.classId asOf).get? iv.kpId = some state ∧
      interventionEffect cfg db g iv.id asOf = .ok effect ∧
      (state = .closed ↔ effect.effectStatus = .improved) ∧
      (state = .flat ↔ effect.effectStatus = .flat) ∧
      (state = .unclosed ↔ effect.effectStatus = .declined) ∧
      (state = .awaiting ∨ state = .selfReported ↔ effect.effectStatus = .awaitingRetest) := by
  obtain ⟨_, listed, _⟩ := AssessedWeak.listed weak
  obtain ⟨kp, inGraph, named⟩ := List.mem_map.mp (KpGraph.mem_kpIds_of_mem_gradeKpIds listed)
  have known : g.kp? db iv.kpId = some kp := named ▸ KpGraph.kp?_of_mem db inGraph
  obtain ⟨effect, computed, status⟩ :=
    interventionEffect_done asOf stored known carried.1 carried.2
  obtain ⟨state, folded, verdict⟩ :=
    loopState_of_latest stored (Or.inr owner) carried latest weak
  refine ⟨state, effect, folded, computed, ?_⟩
  rw [status, judgedEffect, owner]
  simp only [eventsOf, masteryOf]
  cases window : lastAfter (getEvents db sid iv.kpId asOf) done with
  | none =>
    rw [window] at verdict
    rcases verdict with rfl | rfl <;> simp
  | some lastT =>
    rw [window] at verdict
    dsimp only at verdict ⊢
    rw [verdict, verdictFromEvents_eq cfg db g iv owner listed baseline (lastAfter_le window)]
    exact verdict_effect cfg _

end

def retestedPoint : KnowledgePoint ℚ :=
  { id := 9, kbVersionId := 1, code := "N1", name := "有理数", grade := 7, cogLevelsExpected := [],
    difficultyPrior := 1 / 2, masteryFloor := 6 / 10, importance := .core, archived := false }

def retestedEvent (id : Nat) (value : ℚ) (occurredAt : DateTime) : EvidenceEvent ℚ :=
  { id := id, studentId := 1, kpId := 9, responseAnswerId := id, sourceType := .midterm, value := value,
    weight := 1, cogLevel := .apply, classAvgRate := none, occurredAt := occurredAt }

def retestedRow : Intervention :=
  { id := 1, classId := 1, studentId := some 1, kpId := 9, examId := 5, attributionId := none,
    sourceReportId := none, retestExamId := none, retestDueDate := none, kind := .spacedReview,
    scope := .student, groupRef := none, baselineAsOf := 0, status := .done, suggestedAt := 0,
    doneAt := some day, note := none }

def retestedDb : Db ℚ :=
  { Db.empty ℚ with
    classes := .ofList [⟨1, 7⟩]
    students := .ofList [⟨1, 1, "甲"⟩]
    progress := .ofList [⟨1, 1, 9, 0⟩]
    events := .ofList [retestedEvent 1 (2 / 10) 0, retestedEvent 2 (2 / 10) 0,
      retestedEvent 3 (8 / 10) (60 * day)]
    interventions := .ofList [retestedRow] }

theorem effect_judges_agree_retested :
    ∃ state effect,
      (loopStatesForStudent Config.rational retestedDb (.discrete [retestedPoint] (by decide)) 1 1
        (60 * day)).get? 9 = some state ∧
      interventionEffect Config.rational retestedDb (.discrete [retestedPoint] (by decide)) 1
        (60 * day) = .ok effect ∧
      (state = .closed ↔ effect.effectStatus = .improved) ∧
      (state = .flat ↔ effect.effectStatus = .flat) ∧
      (state = .unclosed ↔ effect.effectStatus = .declined) ∧
      (state = .awaiting ∨ state = .selfReported ↔ effect.effectStatus = .awaitingRetest) :=
  effect_judges_agree Config.rational retestedDb (.discrete [retestedPoint] (by decide)) retestedRow 1 day
    (60 * day) (by decide) rfl ⟨rfl, rfl⟩
    (by
      intro r stored _ _ _ apart
      exact absurd (List.mem_singleton.mp stored) apart)
    (by decide +kernel) (by decide +kernel)

end KnowledgeGap
