import KnowledgeGap.Intervention.Actions
import KnowledgeGap.Pipeline.Progress
import Mathlib.Data.String.Basic

namespace KnowledgeGap

open Relational

structure ViewRow where
  id : Nat
  kind : InterventionKind
  scope : Scope
  status : InterventionStatus
  groupRef : Option String
  kpCode : String
  kpName : String
  note : Option String
  loopState : Option LoopState
  retestExamId : Option Nat
  suggestedAt : DateTime
  doneAt : Option DateTime
  taught : Bool
  groupSize : Option Nat
  studentId : Option Nat
  nameOrAlias : Option String
  deriving DecidableEq, Repr

structure ActionPlanView where
  classId : Nat
  examId : Option Nat
  pendingConfirm : Nat
  rows : List ViewRow
  classCount : Nat
  groupCount : Nat
  studentCount : Nat
  deriving DecidableEq, Repr

variable {K : Type}

def importanceRank : Importance → Nat
  | .basic => 0
  | .core => 1
  | .extended => 2
  | .other _ => 1

def viewRows (db : Db K) (g : KpGraph K) (classId : Nat) (examId : Option Nat) (examIds : Option (List Nat)) :
    List Intervention :=
  db.interventions.select (fun r => r.classId == classId && decide (r.kpId ∈ g.kpIds) &&
    examIds.all (fun ids => decide (r.examId ∈ ids)) && examId.all (fun id => r.examId == id))

def groupSizes (rows : List Intervention) : Dict (Option String) Nat :=
  Dict.count Intervention.groupRef (rows.filter (fun r => decide (r.scope = .group)))

def kpImportance (g : KpGraph K) (kpId : Nat) : Nat :=
  match g.find? kpId with
  | some kp => importanceRank kp.importance
  | none => 1

def classOrder (g : KpGraph K) : Intervention → Intervention → Bool :=
  lexicographic (fun a b => decide (kpImportance g a.kpId ≤ kpImportance g b.kpId))
    (fun a b => decide (a.id ≤ b.id))

def groupOrder (sizes : Dict (Option String) Nat) : Intervention → Intervention → Bool :=
  lexicographic (fun a b => decide (sizes.getD b.groupRef 0 ≤ sizes.getD a.groupRef 0))
    (fun a b => decide (a.groupRef.getD "" ≤ b.groupRef.getD ""))

section
variable [Field K] [LinearOrder K]

def gapKey (cfg : Config K) (db : Db K) (r : Intervention) : K :=
  match r.studentId with
  | none => 0
  | some sid => -(1 - (masteryAt cfg db sid r.kpId r.baselineAsOf).getD 1)

def studentOrder (cfg : Config K) (db : Db K) (g : KpGraph K) : Intervention → Intervention → Bool :=
  lexicographic (fun a b => decide (kpImportance g a.kpId ≤ kpImportance g b.kpId))
    (fun a b => decide (gapKey cfg db a ≤ gapKey cfg db b))

def leverOrder (cfg : Config K) (db : Db K) (g : KpGraph K) (rows : List Intervention) : List Intervention :=
  stableSort (classOrder g) (rows.filter (fun r => decide (r.scope = .wholeClass))) ++
    stableSort (groupOrder (groupSizes rows)) (rows.filter (fun r => decide (r.scope = .group))) ++
    stableSort (studentOrder cfg db g) (rows.filter (fun r => decide (r.scope = .student)))

variable [FloorRing K]

def viewLoopState (cfg : Config K) (db : Db K) (g : KpGraph K) (classId : Nat) (now : DateTime)
    (r : Intervention) : Option LoopState :=
  match r.studentId with
  | some sid => (loopStatesForStudent cfg db g sid classId now).get? r.kpId
  | none => some (rowLoopState r)

def serialize (cfg : Config K) (db : Db K) (g : KpGraph K) (classId : Nat) (now : DateTime)
    (sizes : Dict (Option String) Nat) (r : Intervention) : ViewRow where
  id := r.id
  kind := r.kind
  scope := r.scope
  status := r.status
  groupRef := r.groupRef
  kpCode := ((g.find? r.kpId).map KnowledgePoint.code).getD ""
  kpName := ((g.find? r.kpId).map KnowledgePoint.name).getD ""
  note := r.note
  loopState := viewLoopState cfg db g classId now r
  retestExamId := r.retestExamId
  suggestedAt := r.suggestedAt
  doneAt := r.doneAt
  taught := decide (r.kpId ∈ coveredKpIds db classId none)
  groupSize := if r.scope = .group then some (sizes.getD r.groupRef 0) else none
  studentId := r.studentId
  nameOrAlias := r.studentId.bind (fun sid => (db.students.get? sid).map Student.nameOrAlias)

end

def queueInclude (state : Option LoopState) : Bool :=
  decide (state = some .suggested ∨ state = some .insufficient)

def classPendingCodes (serialized : List ViewRow) : List String :=
  (serialized.filter (fun s => decide (s.scope = .wholeClass ∧ s.status = .suggested))).map ViewRow.kpCode

def standalone (pendingCodes : List String) (s : ViewRow) : Bool :=
  queueInclude s.loopState && decide (s.kpCode ∉ pendingCodes)

/-- One step of the fold into a queue: the groups that have their row, and the candidates. -/
def dedupeStep (pendingCodes : List String) (state : List String × List ViewRow) (s : ViewRow) :
    List String × List ViewRow :=
  if s.status ≠ .suggested then state
  else
    match s.scope with
    | .wholeClass => (state.1, state.2 ++ [s])
    | .student => if standalone pendingCodes s then (state.1, state.2 ++ [s]) else state
    | .group =>
      if standalone pendingCodes s then
        match s.groupRef with
        | none => state
        | some ref => if ref ∈ state.1 then state else (state.1 ++ [ref], state.2 ++ [s])
      else state

def candidates (serialized : List ViewRow) : List ViewRow :=
  (serialized.foldl (dedupeStep (classPendingCodes serialized)) ([], [])).2

inductive QueueKey
  | ofClass (kpCode : String)
  | ofStudent (studentId : Option Nat) (kpCode : String)
  deriving DecidableEq, Repr

def ViewRow.queueKey (s : ViewRow) : QueueKey :=
  match s.scope with
  | .wholeClass => .ofClass s.kpCode
  | .group | .student => .ofStudent s.studentId s.kpCode

def dedupe (rows : List ViewRow) : List ViewRow :=
  let keepIds := (Dict.newest ViewRow.queueKey ViewRow.id rows).entries.map (fun e => e.2.id)
  rows.filter (fun s => decide (s.id ∈ keepIds))

def actionPlanView [Field K] [LinearOrder K] [FloorRing K] (cfg : Config K) (db : Db K) (g : KpGraph K)
    (classId : Nat) (examId : Option Nat) (examIds : Option (List Nat)) (now : DateTime) : ActionPlanView :=
  let rows := viewRows db g classId examId examIds
  let serialized := (leverOrder cfg db g rows).map (serialize cfg db g classId now (groupSizes rows))
  { classId := classId
    examId := examId
    pendingConfirm := serialized.countP (fun s => decide (s.status = .suggested))
    rows := (dedupe (candidates serialized)).take actionQueueMax
    classCount := rows.countP (fun r => decide (r.scope = .wholeClass))
    groupCount := rows.countP (fun r => decide (r.scope = .group))
    studentCount := rows.countP (fun r => decide (r.scope = .student)) }

end KnowledgeGap
