import KnowledgeGap.Kb.Graph
import KnowledgeGap.Pipeline.Mastery

namespace KnowledgeGap

open Relational

inductive Trajectory
  | stable
  | rising
  | declining
  | volatile
  deriving DecidableEq, Repr

inductive Gate
  | notLearned
  | insufficient
  deriving DecidableEq, Repr

inductive WeakCriterion
  | absoluteFloor
  | classP25
  | both
  deriving DecidableEq, Repr

structure KpAssessment (K : Type) where
  kpId : Nat
  kpCode : String
  kpName : String
  mastery : Option K
  evidenceCount : Nat
  lastEvidenceAt : Option DateTime
  gate : Option Gate
  stale : Bool
  trajectory : Option Trajectory
  isWeak : Bool
  weakCriterion : Option WeakCriterion
  floor : K
  classP25 : Option K
  isClassCommon : Bool
  lowEvidence : Bool
  perCogMastery : Option (Dict CogLevel K)

variable {K : Type}

def KpAssessment.valid (a : KpAssessment K) : Bool := a.mastery.isSome && a.gate.isNone

def coveredKpIds (db : Db K) (classId : Nat) (asOf : Option DateTime) : List Nat :=
  (db.progress.select (fun p => p.classId == classId &&
    match asOf with
    | none => true
    | some t => decide (p.taughtAt ≤ dateOf t))).map TeachingProgress.kpId

def classGrade (db : Db K) (classId : Nat) : Option Int := (db.classes.get? classId).map Class.grade

section
variable [Field K] [LinearOrder K]

def slope (xs ys : List K) : Option K :=
  let n := xs.length
  if n < 2 then none
  else
    let mx := pySum xs / n
    let my := pySum ys / n
    let den := pySum (xs.map (fun x => (x - mx) ^ 2))
    if den = 0 then none
    else some (pySum (List.zipWith (fun x y => (x - mx) * (y - my)) xs ys) / den)

/-- The square of `_std`, which keeps the comparison with a threshold inside the field. -/
def variance (ys : List K) : K :=
  if ys.length < 2 then 0
  else
    let my := pySum ys / ys.length
    pySum (ys.map (fun y => (y - my) ^ 2)) / ys.length

def cogFloorDefault : CogLevel → K
  | .recall => ratio 70 100
  | .understand => ratio 65 100
  | .apply => ratio 60 100
  | .synthesize => ratio 55 100
  | .other _ => defaultMasteryFloor K

def effectiveFloor (kp : KnowledgePoint K) : K :=
  if kp.masteryFloor ≠ defaultMasteryFloor K then kp.masteryFloor
  else
    match [CogLevel.synthesize, .apply, .understand, .recall].find?
        (fun cog => decide (cog ∈ kp.cogLevelsExpected)) with
    | some cog => cogFloorDefault cog
    | none => defaultMasteryFloor K

def masteryPrior (cfg : Config K) (kp : KnowledgePoint K) : Option K :=
  if cfg.masteryPriorStrength ≤ 0 then none else some (1 - kp.difficultyPrior)

def classifyTrajectory (events : List (EvidenceEvent K)) : Option Trajectory :=
  match events with
  | [] => none
  | [_] => some .stable
  | first :: _ =>
    let xs := events.map (fun e => ((e.occurredAt - first.occurredAt : Int) : K) / (day : K) / (30 : Nat))
    let ys := events.map EvidenceEvent.value
    match slope xs ys with
    | some v =>
      if trajectoryTrendPerMonth K < v then some .rising
      else if v < -trajectoryTrendPerMonth K then some .declining
      else if trajectoryVolatility K ^ 2 < variance ys then some .volatile
      else some .stable
    | none => if trajectoryVolatility K ^ 2 < variance ys then some .volatile else some .stable

/-- The scale both the student and the class are measured on: two-event evidence is shrunk towards
    the prior, more evidence is taken as observed. -/
def gradedMastery (cfg : Config K) (kp : KnowledgePoint K) (events : List (EvidenceEvent K))
    (asOf : DateTime) : Option K :=
  masteryOfEvents cfg events asOf
    (if events.length < evidenceLowWatermark then masteryPrior cfg kp else none)
    cfg.masteryPriorStrength

section
variable [FloorRing K]

/-- Linear interpolation; `none` is the `ValueError` of an empty list. -/
def percentile (values : List K) (p : K) : Option K :=
  let xs := stableSort (fun a b => decide (a ≤ b)) values
  match xs with
  | [] => none
  | [x] => some x
  | _ =>
    let pos := ((xs.length : K) - 1) * p / (100 : Nat)
    let lo := ⌊pos⌋
    let hi := ⌈pos⌉
    if lo = hi then xs[lo.toNat]?
    else
      let frac := pos - lo
      match xs[lo.toNat]?, xs[hi.toNat]? with
      | some below, some above => some (below * (1 - frac) + above * frac)
      | _, _ => none

def perCogMasteryOf (cfg : Config K) (kp : KnowledgePoint K) (events : List (EvidenceEvent K))
    (asOf : DateTime) : Option (Dict CogLevel K) :=
  if kp.cogLevelsExpected.length < 2 then none
  else
    let perCog := Dict.ofList (kp.cogLevelsExpected.filterMap (fun cog =>
      let cogEvents := events.filter (fun e => e.cogLevel == cog)
      if cogEvents.length < cfg.minEvidenceCount then none
      else (observedMastery cfg cogEvents asOf).map (fun m => (cog, roundTo 3 m))))
    if perCog.entries.isEmpty then none else some perCog

def measure (cfg : Config K) (covered : List Nat) (asOf : DateTime) (events : List (EvidenceEvent K))
    (kp : KnowledgePoint K) : KpAssessment K :=
  let a : KpAssessment K :=
    { kpId := kp.id, kpCode := kp.code, kpName := kp.name, mastery := none, evidenceCount := 0,
      lastEvidenceAt := none, gate := none, stale := false, trajectory := none, isWeak := false,
      weakCriterion := none, floor := effectiveFloor kp, classP25 := none, isClassCommon := false,
      lowEvidence := false, perCogMastery := none }
  if kp.id ∉ covered then { a with gate := some .notLearned }
  else
    match events.getLast? with
    | none => { a with gate := some .insufficient }
    | some last =>
      let a := { a with
        evidenceCount := events.length
        lastEvidenceAt := some last.occurredAt
        trajectory := classifyTrajectory events
        stale := decide (staleDays < daysOf (asOf - last.occurredAt)) }
      if events.length < cfg.minEvidenceCount then
        { a with gate := some .insufficient, mastery := observedMastery cfg events asOf }
      else
        { a with
          mastery := gradedMastery cfg kp events asOf
          lowEvidence := decide (events.length < evidenceLowWatermark)
          perCogMastery := perCogMasteryOf cfg kp events asOf }

def classMasteryDist (cfg : Config K) (covered : List Nat) (asOf : DateTime) (classStudentIds : List Nat)
    (eventsFor : Nat → Nat → List (EvidenceEvent K)) (kp : KnowledgePoint K) : List K :=
  if kp.id ∉ covered then []
  else classStudentIds.filterMap (fun sid =>
    let events := eventsFor sid kp.id
    if cfg.minEvidenceCount ≤ events.length then gradedMastery cfg kp events asOf else none)

def judgeWeak (cfg : Config K) (distribution : List K) (a : KpAssessment K) : KpAssessment K :=
  match a.mastery, a.gate with
  | some m, none =>
    let classP25 := if 4 ≤ distribution.length then percentile distribution (classPercentile K) else none
    let belowFloor := decide (m < a.floor)
    let belowP25 := match classP25 with
      | some p => decide (m < p)
      | none => false
    let belowP25 := match cfg.weaknessMode with
      | .strict => belowP25 && decide (m < a.floor + cfg.weaknessP25Margin)
      | .standard => belowP25
    let a := { a with classP25 := classP25 }
    match belowFloor, belowP25 with
    | true, true => { a with isWeak := true, weakCriterion := some .both }
    | true, false => { a with isWeak := true, weakCriterion := some .absoluteFloor }
    | false, true => { a with isWeak := true, weakCriterion := some .classP25 }
    | false, false => a
  | _, _ => a

def judgeCommon (distribution : List K) (a : KpAssessment K) : KpAssessment K :=
  if a.valid && a.isWeak && decide (4 ≤ distribution.length) then
    let weak := distribution.countP (fun m => decide (m < a.floor))
    { a with isClassCommon := decide (classCommonWeakRatio K ≤ (weak : K) / distribution.length) }
  else a

/-- The three passes of `assess_student_kps` over one point. -/
def assessKp (cfg : Config K) (covered : List Nat) (asOf : DateTime) (classStudentIds : List Nat)
    (eventsFor : Nat → Nat → List (EvidenceEvent K)) (studentId : Nat) (kp : KnowledgePoint K) :
    KpAssessment K :=
  let distribution := classMasteryDist cfg covered asOf classStudentIds eventsFor kp
  judgeCommon distribution (judgeWeak cfg distribution
    (measure cfg covered asOf (eventsFor studentId kp.id) kp))

def assessStudentKps (cfg : Config K) (db : Db K) (g : KpGraph K) (studentId classId : Nat)
    (asOf : DateTime) (prefetched : Option (Batch K)) : List (KpAssessment K) :=
  let covered := coveredKpIds db classId (some asOf)
  let grade := classGrade db classId
  let classStudentIds := db.classStudentIds classId
  let eventsBySk :=
    match prefetched with
    | some batch => batch
    | none => getEventsBatch db classStudentIds (g.gradeKpIds grade) asOf
  (g.gradeKps grade).map
    (assessKp cfg covered asOf classStudentIds (fun s k => eventsBySk.getD (s, k) []) studentId)

/-- What the two comparisons with the class leave as they found it. -/
structure SameMeasure (a b : KpAssessment K) : Prop where
  kpId : b.kpId = a.kpId
  kpCode : b.kpCode = a.kpCode
  kpName : b.kpName = a.kpName
  mastery : b.mastery = a.mastery
  evidenceCount : b.evidenceCount = a.evidenceCount
  gate : b.gate = a.gate
  floor : b.floor = a.floor
  lowEvidence : b.lowEvidence = a.lowEvidence
  perCogMastery : b.perCogMastery = a.perCogMastery

theorem judgeWeak_same (cfg : Config K) (distribution : List K) (a : KpAssessment K) :
    SameMeasure a (judgeWeak cfg distribution a) := by
  unfold judgeWeak
  split
  · dsimp only
    split <;> exact ⟨rfl, rfl, rfl, rfl, rfl, rfl, rfl, rfl, rfl⟩
  · exact ⟨rfl, rfl, rfl, rfl, rfl, rfl, rfl, rfl, rfl⟩

omit [FloorRing K] in
theorem judgeCommon_same (distribution : List K) (a : KpAssessment K) :
    SameMeasure a (judgeCommon distribution a) := by
  unfold judgeCommon
  split <;> exact ⟨rfl, rfl, rfl, rfl, rfl, rfl, rfl, rfl, rfl⟩

omit [FloorRing K] in
theorem judgeCommon_isWeak (distribution : List K) (a : KpAssessment K) :
    (judgeCommon distribution a).isWeak = a.isWeak := by
  unfold judgeCommon
  split <;> rfl

theorem measure_isWeak (cfg : Config K) (covered : List Nat) (asOf : DateTime)
    (events : List (EvidenceEvent K)) (kp : KnowledgePoint K) :
    (measure cfg covered asOf events kp).isWeak = false := by
  unfold measure
  dsimp only
  split
  · rfl
  · split
    · rfl
    · split <;> rfl

theorem measure_gate_none {cfg : Config K} {covered : List Nat} {asOf : DateTime}
    {events : List (EvidenceEvent K)} {kp : KnowledgePoint K}
    (passed : (measure cfg covered asOf events kp).gate = none) :
    kp.id ∈ covered ∧ cfg.minEvidenceCount ≤ events.length := by
  unfold measure at passed
  dsimp only at passed
  split at passed
  · cases passed
  · rename_i taught
    split at passed
    · cases passed
    · split at passed
      · cases passed
      · rename_i enough
        exact ⟨by simpa using taught, by omega⟩

theorem measure_named (cfg : Config K) (covered : List Nat) (asOf : DateTime)
    (events : List (EvidenceEvent K)) (kp : KnowledgePoint K) :
    (measure cfg covered asOf events kp).kpId = kp.id ∧ (measure cfg covered asOf events kp).kpCode = kp.code ∧
      (measure cfg covered asOf events kp).kpName = kp.name := by
  unfold measure
  dsimp only
  split
  · exact ⟨rfl, rfl, rfl⟩
  · split
    · exact ⟨rfl, rfl, rfl⟩
    · split <;> exact ⟨rfl, rfl, rfl⟩

theorem measure_kpId (cfg : Config K) (covered : List Nat) (asOf : DateTime)
    (events : List (EvidenceEvent K)) (kp : KnowledgePoint K) :
    (measure cfg covered asOf events kp).kpId = kp.id := (measure_named cfg covered asOf events kp).1

theorem assessKp_same (cfg : Config K) (covered : List Nat) (asOf : DateTime) (classStudentIds : List Nat)
    (eventsFor : Nat → Nat → List (EvidenceEvent K)) (studentId : Nat) (kp : KnowledgePoint K) :
    SameMeasure (measure cfg covered asOf (eventsFor studentId kp.id) kp)
      (assessKp cfg covered asOf classStudentIds eventsFor studentId kp) := by
  have first := judgeWeak_same cfg (classMasteryDist cfg covered asOf classStudentIds eventsFor kp)
    (measure cfg covered asOf (eventsFor studentId kp.id) kp)
  have second := judgeCommon_same (classMasteryDist cfg covered asOf classStudentIds eventsFor kp)
    (judgeWeak cfg (classMasteryDist cfg covered asOf classStudentIds eventsFor kp)
      (measure cfg covered asOf (eventsFor studentId kp.id) kp))
  exact ⟨second.kpId.trans first.kpId, second.kpCode.trans first.kpCode, second.kpName.trans first.kpName,
    second.mastery.trans first.mastery, second.evidenceCount.trans first.evidenceCount,
    second.gate.trans first.gate, second.floor.trans first.floor,
    second.lowEvidence.trans first.lowEvidence, second.perCogMastery.trans first.perCogMastery⟩

theorem assessKp_weak_valid {cfg : Config K} {covered : List Nat} {asOf : DateTime}
    {classStudentIds : List Nat} {eventsFor : Nat → Nat → List (EvidenceEvent K)} {studentId : Nat}
    {kp : KnowledgePoint K}
    (weak : (assessKp cfg covered asOf classStudentIds eventsFor studentId kp).isWeak = true) :
    (assessKp cfg covered asOf classStudentIds eventsFor studentId kp).gate = none ∧
      (assessKp cfg covered asOf classStudentIds eventsFor studentId kp).mastery.isSome := by
  have same := assessKp_same cfg covered asOf classStudentIds eventsFor studentId kp
  rw [same.gate, same.mastery]
  have start := measure_isWeak cfg covered asOf (eventsFor studentId kp.id) kp
  rw [assessKp, judgeCommon_isWeak] at weak
  unfold judgeWeak at weak
  split at weak
  · rename_i m mastery gate
    exact ⟨gate, by simp [mastery]⟩
  · rw [start] at weak
    cases weak

theorem assessStudentKps_kpIds (cfg : Config K) (db : Db K) (g : KpGraph K) (studentId classId : Nat)
    (asOf : DateTime) (prefetched : Option (Batch K)) :
    (assessStudentKps cfg db g studentId classId asOf prefetched).map KpAssessment.kpId =
      g.gradeKpIds (classGrade db classId) := by
  unfold assessStudentKps KpGraph.gradeKpIds
  dsimp only
  rw [List.map_map]
  apply List.map_congr_left
  intro kp _
  rw [Function.comp_apply, (assessKp_same _ _ _ _ _ _ _).kpId, measure_kpId]

theorem mem_assessStudentKps {cfg : Config K} {db : Db K} {g : KpGraph K} {studentId classId : Nat}
    {asOf : DateTime} {prefetched : Option (Batch K)} {a : KpAssessment K}
    (member : a ∈ assessStudentKps cfg db g studentId classId asOf prefetched) :
    a.kpId ∈ g.gradeKpIds (classGrade db classId) := by
  rw [← assessStudentKps_kpIds cfg db g studentId classId asOf prefetched]
  exact List.mem_map_of_mem member

theorem mem_assessStudentKps_weak {cfg : Config K} {db : Db K} {g : KpGraph K} {studentId classId : Nat}
    {asOf : DateTime} {prefetched : Option (Batch K)} {a : KpAssessment K}
    (member : a ∈ assessStudentKps cfg db g studentId classId asOf prefetched) (weak : a.isWeak = true) :
    a.gate = none ∧ a.mastery.isSome := by
  obtain ⟨kp, _, rfl⟩ := List.mem_map.mp member
  exact assessKp_weak_valid weak

theorem assessed_on_evidence {cfg : Config K} {db : Db K} {g : KpGraph K} {studentId classId : Nat}
    {asOf : DateTime} {a : KpAssessment K}
    (member : a ∈ assessStudentKps cfg db g studentId classId asOf none) (passed : a.gate = none) :
    studentId ∈ db.classStudentIds classId ∧
      cfg.minEvidenceCount ≤ (getEvents db studentId a.kpId asOf).length := by
  obtain ⟨kp, listed, rfl⟩ := List.mem_map.mp member
  have same := assessKp_same cfg (coveredKpIds db classId (some asOf)) asOf (db.classStudentIds classId)
    (fun s k => (getEventsBatch db (db.classStudentIds classId)
      (g.gradeKpIds (classGrade db classId)) asOf).getD (s, k) []) studentId kp
  rw [same.gate] at passed
  rw [same.kpId, measure_kpId]
  have enough := (measure_gate_none passed).2
  have positive := cfg.minEvidence_pos
  rw [getD_getEventsBatch] at enough
  split at enough
  · rename_i asked
    exact ⟨asked.1, enough⟩
  · simp only [List.length_nil] at enough
    omega

end

end

end KnowledgeGap
