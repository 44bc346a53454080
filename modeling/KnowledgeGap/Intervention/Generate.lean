import KnowledgeGap.Intervention.Actions

namespace KnowledgeGap

open Relational

variable {K : Type}

def Intervention.key (iv : Intervention) : Option Nat × Nat := (iv.studentId, iv.kpId)

def mergedNote : String := "系统合并：同一需求仅保留最新建议"
def secondRoundNote : String := "二次干预：首次干预后复测仍待加强"
def archivedNote : String := "系统归档：最新评估不再支持此建议"

def committedIds (db : Db K) (examId : Nat) : List Nat :=
  stableSort (fun a b => decide (a ≤ b))
    ((db.responses.select (fun r => r.examTemplateId == examId && decide (r.status = .submitted))).map
      ExamResponse.studentId).dedup

/-- The open suggestions of a class inside a graph. -/
def pendingIn (g : KpGraph K) (classId : Nat) (iv : Intervention) : Bool :=
  iv.classId == classId && decide (iv.kpId ∈ g.kpIds) && decide (iv.status = .suggested)

def purge (t : Table Intervention) (g : KpGraph K) (classId examId : Nat) : Table Intervention :=
  t.deleteWhere (fun iv => iv.examId == examId && pendingIn g classId iv)

def byId (a b : Intervention) : Bool := decide (a.id ≤ b.id)

def pendingGrouped (t : Table Intervention) (g : KpGraph K) (classId : Nat) :
    Dict (Option Nat × Nat) (List Intervention) :=
  Dict.group Intervention.key (t.select (pendingIn g classId))

def pendingByKey (t : Table Intervention) (g : KpGraph K) (classId : Nat) : Dict (Option Nat × Nat) Nat :=
  (pendingGrouped t g classId).filterMapValues (fun rows =>
    (stableSort byId rows).getLast?.map Intervention.id)

def duplicates (t : Table Intervention) (g : KpGraph K) (classId : Nat) : List Nat :=
  (pendingGrouped t g classId).entries.flatMap (fun e =>
    (stableSort byId e.2).dropLast.map Intervention.id)

def mergeOut (iv : Intervention) : Intervention := { iv with status := .skipped, note := some mergedNote }

def mergePatch : Table.Patch Intervention Nat where
  target id := some id
  refresh _ := mergeOut
  refresh_key _ _ := rfl

def mergeDuplicates (t : Table Intervention) (g : KpGraph K) (classId : Nat) : Table Intervention :=
  t.patchAll mergePatch (duplicates t g classId)

def keptDone (t : Table Intervention) (g : KpGraph K) (classId : Nat) :
    Dict (Nat × Nat × InterventionKind) Intervention :=
  Dict.ofList ((t.select (fun iv => iv.classId == classId && decide (iv.kpId ∈ g.kpIds) &&
    decide (iv.status = .done))).filterMap
      (fun iv => iv.studentId.map (fun sid => ((sid, iv.kpId, iv.kind), iv))))

/-- A suggestion already carried out is repeated only when evidence has come in since. -/
def keepRow (db : Db K) (done : Dict (Nat × Nat × InterventionKind) Intervention) (asOf : DateTime)
    (studentId : Nat) (row : ActionRow) : Option ActionRow :=
  match (done.get? (studentId, row.kpId, row.kind)).bind Intervention.doneAt with
  | none => some row
  | some doneAt =>
    if (getEvents db studentId row.kpId asOf).any (fun e => decide (doneAt < e.occurredAt)) then
      some { row with note := some secondRoundNote }
    else none

def groupNote (size : Nat) : String := toString size ++ " 人同根源薄弱，建议小组补学"

def sharesRoot (root : Nat) (row : ActionRow) : Bool :=
  decide (row.kind = .prereqBackfill) && decide (row.rootKpId = some root)

def joinGroup (root size : Nat) (rows : List ActionRow) : List ActionRow :=
  rows.modify (rows.findIdx (sharesRoot root))
    (fun row => { row with scope := .group, note := some (groupNote size) })

def groupMembers (committed : List Nat) (individual : Dict Nat (List ActionRow)) :
    Dict Nat (List (Nat × Nat)) :=
  Dict.group Prod.fst (committed.flatMap (fun sid => (individual.getD sid []).filterMap (fun row =>
    if row.kind = .prereqBackfill then row.rootKpId.map (fun root => (root, sid)) else none)))

def joinMembers (root size : Nat) (members : List (Nat × Nat)) (individual : Dict Nat (List ActionRow)) :
    Dict Nat (List ActionRow) :=
  members.foldl (fun ind m => ind.set m.2 (joinGroup root size (ind.getD m.2 []))) individual

def clusterRows (groupMin : Nat) (groups : Dict Nat (List (Nat × Nat)))
    (individual : Dict Nat (List ActionRow)) : Dict Nat (List ActionRow) :=
  groups.entries.foldl (fun ind e =>
    if e.2.length < groupMin then ind else joinMembers e.1 e.2.length e.2 ind) individual

/-- Everything one run decides before it writes. -/
structure Plan where
  rows : List ActionRow
  stillAsk : Dict Nat (List Nat)
  disproven : List Nat
  groups : Nat

def Plan.gone (plan : Plan) (key : Option Nat × Nat) : Bool :=
  match key.1 with
  | none => decide (key.2 ∈ plan.disproven)
  | some sid =>
    match plan.stillAsk.get? sid with
    | none => false
    | some kps => decide (key.2 ∉ kps)

def groupRef (sourceReportId : Option Nat) (row : ActionRow) : Option String :=
  if row.scope = .group then
    some ("r" ++ toString (sourceReportId.getD 0) ++ ":" ++
      match row.rootKpId with
      | some root => toString root
      | none => "None")
  else none

def filedNote (row : ActionRow) : Option String :=
  match row.studentId with
  | none => some (row.note.getD "None" ++ "，建议下节课前 15 分钟重讲 + 变式训练")
  | some _ => row.note

def refreshSuggestion (examId : Nat) (sourceReportId : Option Nat) (asOf : DateTime) (row : ActionRow)
    (iv : Intervention) : Intervention :=
  { iv with
    examId := examId
    sourceReportId := sourceReportId
    kind := row.kind
    attributionId := row.attributionId
    scope := row.scope
    groupRef := groupRef sourceReportId row
    baselineAsOf := asOf
    note := filedNote row }

def newSuggestion (classId examId : Nat) (sourceReportId : Option Nat) (asOf now : DateTime)
    (row : ActionRow) (id : Nat) : Intervention where
  id := id
  classId := classId
  studentId := row.studentId
  kpId := row.kpId
  examId := examId
  attributionId := row.attributionId
  sourceReportId := sourceReportId
  retestExamId := none
  retestDueDate := none
  kind := row.kind
  scope := row.scope
  groupRef := groupRef sourceReportId row
  baselineAsOf := asOf
  status := .suggested
  suggestedAt := now
  doneAt := none
  note := filedNote row

def suggestionWriter (pending : Dict (Option Nat × Nat) Nat) (classId examId : Nat)
    (sourceReportId : Option Nat) (asOf now : DateTime) : Table.Writer Intervention ActionRow where
  target row := pending.get? row.key
  refresh := refreshSuggestion examId sourceReportId asOf
  refresh_key _ _ := rfl
  fresh := newSuggestion classId examId sourceReportId asOf now
  fresh_key _ _ := rfl

def archive (iv : Intervention) : Intervention :=
  if iv.status = .suggested then { iv with status := .skipped, note := some archivedNote } else iv

@[simp] theorem archive_id (iv : Intervention) : (archive iv).id = iv.id := by
  unfold archive
  split <;> rfl

def archivePatch (plan : Plan) : Table.Patch Intervention ((Option Nat × Nat) × Nat) where
  target e := if plan.gone e.1 then some e.2 else none
  refresh _ := archive
  refresh_key _ := archive_id

/-- The writes of a run, once the table is purged and the plan is made. -/
def applyPlan (t : Table Intervention) (g : KpGraph K) (classId examId : Nat)
    (sourceReportId : Option Nat) (asOf now : DateTime) (plan : Plan) : Table Intervention :=
  let pending := pendingByKey t g classId
  ((mergeDuplicates t g classId).upsertAll
    (suggestionWriter pending classId examId sourceReportId asOf now) plan.rows).patchAll
      (archivePatch plan) pending.entries

structure GenerationStats where
  suggested : Nat
  groups : Nat
  archived : Nat
  deriving DecidableEq, Repr

section
variable [Field K] [LinearOrder K] [FloorRing K]

def keptRows (cfg : Config K) (db : Db K) (g : KpGraph K)
    (done : Dict (Nat × Nat × InterventionKind) Intervention) (classId : Nat) (asOf : DateTime)
    (eventsBySk : Option (Batch K)) (studentId : Nat) : List ActionRow :=
  (studentActionRows cfg db g studentId classId asOf eventsBySk).filterMap
    (keepRow db done asOf studentId)

def classRow (nAssessed : Dict Nat Nat) (e : Nat × Nat) : Option ActionRow :=
  let n := nAssessed.getD e.1 0
  if 4 ≤ n ∧ classCommonWeakRatio K ≤ (e.2 : K) / n then
    some { studentId := none, kpId := e.1, kind := .reteach, scope := .wholeClass, attributionId := none,
           rootKpId := none, note := some (toString e.2 ++ "/" ++ toString n ++ " 人待加强") }
  else none

def byKpCount (a b : Nat × Nat) : Bool :=
  lexicographic (fun a b => decide (a.1 ≤ b.1)) (fun a b => decide (a.2 ≤ b.2)) a b

def makePlan (cfg : Config K) (db : Db K) (g : KpGraph K)
    (done : Dict (Nat × Nat × InterventionKind) Intervention) (classId examId : Nat) (asOf : DateTime)
    (eventsBySk : Option (Batch K)) : Plan :=
  let committed := committedIds db examId
  let individual := Dict.ofList
    (committed.map (fun sid => (sid, keptRows cfg db g done classId asOf eventsBySk sid)))
  let assessed := committed.flatMap (fun sid =>
    (assessStudentKps cfg db g sid classId asOf eventsBySk).filter KpAssessment.valid)
  let nAssessed := Dict.count KpAssessment.kpId assessed
  let weakCount := Dict.count KpAssessment.kpId (assessed.filter KpAssessment.isWeak)
  let groups := groupMembers committed individual
  let clustered := clusterRows cfg.actionGroupMin groups individual
  let classRows := (stableSort byKpCount weakCount.entries).filterMap (classRow (K := K) nAssessed)
  { rows := classRows ++ committed.flatMap (fun sid => clustered.getD sid [])
    stillAsk := Dict.ofList (committed.map (fun sid =>
      (sid, (keptRows cfg db g done classId asOf eventsBySk sid).map ActionRow.kpId)))
    disproven := (weakCount.entries.filter (fun e =>
      decide (e.1 ∉ classRows.map ActionRow.kpId) && decide (4 ≤ nAssessed.getD e.1 0) &&
        decide ((e.2 : K) / nAssessed.getD e.1 0 < classCommonWeakRatio K))).map Prod.fst
    groups := (groups.entries.filter (fun e => decide (cfg.actionGroupMin ≤ e.2.length))).length }

/-- `now` is the reading of `utcnow` that dates the rows of the run. -/
def generateInterventions (cfg : Config K) (db : Db K) (g : KpGraph K) (classId examId : Nat)
    (asOf : DateTime) (sourceReportId : Option Nat) (now : DateTime) (eventsBySk : Option (Batch K)) :
    Table Intervention × GenerationStats :=
  if !cfg.actionPlanEnable || (committedIds db examId).isEmpty then (db.interventions, ⟨0, 0, 0⟩)
  else
    let purged := purge db.interventions g classId examId
    let plan := makePlan cfg db g (keptDone (mergeDuplicates purged g classId) g classId) classId examId
      asOf eventsBySk
    (applyPlan purged g classId examId sourceReportId asOf now plan,
      { suggested := plan.rows.length
        groups := plan.groups
        archived := ((pendingByKey purged g classId).entries.filter (fun e => plan.gone e.1)).length })

end

end KnowledgeGap
