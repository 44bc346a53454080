import KnowledgeGap.Pipeline.Progress

namespace KnowledgeGap

open Relational

inductive EffectStatus
  | notExecuted
  | awaitingRetest
  | improved
  | flat
  | declined
  deriving DecidableEq, Repr

/-- `LookupError`, the `KeyError` of the graph, and the `TypeError` of comparing a moment with `None`. -/
inductive EffectError
  | missing
  | unknownPoint (kpId : Nat)
  | undatedExecution
  deriving DecidableEq, Repr

structure Effect (K : Type) where
  interventionId : Nat
  kind : InterventionKind
  scope : Scope
  status : InterventionStatus
  studentId : Option Nat
  kp : String
  baselineAsOf : Date
  effectStatus : EffectStatus
  preMastery : Option K
  postMastery : Option K
  delta : Option K
  evaluatedAt : Option Date
  classDelta : Option K
  adjustedDelta : Option K
  adjustedNote : Option String

variable {K : Type}

/-- `EvidenceEvent.student_id == None` selects nothing. -/
def eventsOf (db : Db K) (studentId : Option Nat) (kpId : Nat) (asOf : DateTime) : List (EvidenceEvent K) :=
  match studentId with
  | some sid => getEvents db sid kpId asOf
  | none => []

section
variable [Field K] [LinearOrder K]

def masteryOf (cfg : Config K) (db : Db K) (studentId : Option Nat) (kpId : Nat) (asOf : DateTime) :
    Option K :=
  observedMastery cfg (eventsOf db studentId kpId asOf) asOf

def classWindowDelta (cfg : Config K) (db : Db K) (iv : Intervention) (start finish : DateTime) :
    Option K :=
  let deltas := ((db.classStudentIds iv.classId).filter
    (fun pid => decide (some pid ≠ iv.studentId))).filterMap (fun pid =>
      change (masteryAt cfg db pid iv.kpId start) (masteryAt cfg db pid iv.kpId finish))
  if deltas.length < 4 then none else some (mean deltas)

def effectOfDelta (cfg : Config K) (adjusted : K) : EffectStatus :=
  if cfg.interventionMinDelta ≤ adjusted then .improved
  else if cfg.interventionFlatFloor ≤ adjusted then .flat
  else .declined

variable [FloorRing K]

def interventionEffect (cfg : Config K) (db : Db K) (g : KpGraph K) (interventionId : Nat)
    (now : DateTime) : Except EffectError (Effect K) :=
  match db.interventions.get? interventionId with
  | none => .error .missing
  | some iv =>
    match g.kp? db iv.kpId with
    | none => .error (.unknownPoint iv.kpId)
    | some kp =>
      let base : Effect K :=
        { interventionId := iv.id, kind := iv.kind, scope := iv.scope, status := iv.status,
          studentId := iv.studentId, kp := kp.name, baselineAsOf := dateOf iv.baselineAsOf,
          effectStatus := .notExecuted, preMastery := none, postMastery := none, delta := none,
          evaluatedAt := none, classDelta := none, adjustedDelta := none,
          adjustedNote := none }
      if iv.status ≠ .done then .ok base
      else
        let preV := (masteryOf cfg db iv.studentId iv.kpId iv.baselineAsOf).getD 0
        let awaiting := { base with effectStatus := .awaitingRetest, preMastery := some (roundTo 3 preV) }
        let events := eventsOf db iv.studentId iv.kpId now
        match iv.doneAt with
        | none => if events.isEmpty then .ok awaiting else .error .undatedExecution
        | some doneAt =>
          match lastAfter events doneAt with
          | none => .ok awaiting
          | some lastT =>
            let post := masteryOf cfg db iv.studentId iv.kpId lastT
            let delta := gain preV post
            let classDelta := classWindowDelta cfg db iv iv.baselineAsOf lastT
            let adjusted := adjust delta classDelta
            .ok { base with
              effectStatus := effectOfDelta cfg adjusted
              preMastery := some (roundTo 3 preV)
              postMastery := post.map (roundTo 3)
              delta := some (roundTo 3 delta)
              evaluatedAt := some (dateOf lastT)
              classDelta := classDelta.map (roundTo 3)
              adjustedDelta := classDelta.map (fun _ => roundTo 3 adjusted)
              adjustedNote := if classDelta.isSome then none
                else some "班级数据不足，未做基线调整（原始差值）" }

def judgedEffect (cfg : Config K) (db : Db K) (iv : Intervention) (done now : DateTime) : EffectStatus :=
  match lastAfter (eventsOf db iv.studentId iv.kpId now) done with
  | none => .awaitingRetest
  | some lastT =>
    effectOfDelta cfg (adjust
      (gain ((masteryOf cfg db iv.studentId iv.kpId iv.baselineAsOf).getD 0)
        (masteryOf cfg db iv.studentId iv.kpId lastT))
      (classWindowDelta cfg db iv iv.baselineAsOf lastT))

theorem interventionEffect_done {cfg : Config K} {db : Db K} {g : KpGraph K} {iv : Intervention}
    {kp : KnowledgePoint K} {done : DateTime} (now : DateTime) (stored : iv ∈ db.interventions.rows)
    (known : g.kp? db iv.kpId = some kp) (status : iv.status = .done) (dated : iv.doneAt = some done) :
    ∃ effect, interventionEffect cfg db g iv.id now = .ok effect ∧
      effect.effectStatus = judgedEffect cfg db iv done now := by
  have found : db.interventions.get? iv.id = some iv := Table.get?_of_mem stored
  unfold judgedEffect
  cases window : lastAfter (eventsOf db iv.studentId iv.kpId now) done with
  | none =>
    simp only [interventionEffect, found, known, status, dated, window, ne_eq, not_true_eq_false,
      ↓reduceIte]
    exact ⟨_, rfl, rfl⟩
  | some lastT =>
    simp only [interventionEffect, found, known, status, dated, window, ne_eq, not_true_eq_false,
      ↓reduceIte]
    exact ⟨_, rfl, rfl⟩

end

end KnowledgeGap
