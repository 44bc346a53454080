import KnowledgeGap.Intervention.Operate
import KnowledgeGap.Pipeline.Progress

namespace KnowledgeGap

open Relational
open Kb (AccessContext)

inductive StudyError
  | lookup (detail : String)
  | value (detail : String)
  /-- `KeyError`: a point of neither the graph nor the tables. -/
  | key (kpId : Nat)
  deriving DecidableEq, Repr

def newerSuggestion (a b : Intervention) : Bool := decide (b.id ≤ a.id)

def newerRecord (a b : StudyRecord) : Bool := decide (b.id ≤ a.id)

variable {K : Type}

/-- `_pending_row`: of the open suggestions to the pupil, or to his class, the one filed last. -/
def pendingRow (db : Db K) (student : Student) (kpId : Nat) : Option Intervention :=
  first newerSuggestion (db.interventions.select (fun r => r.classId == student.classId && r.kpId == kpId &&
    decide (r.status = .suggested) && affecting student.id r))

def existingRecord (db : Db K) (student : Student) (kpId : Nat) : Option StudyRecord :=
  first newerRecord (db.studyRecords.select (fun r => r.studentId == student.id && r.kpId == kpId))

def sameRound (existing : StudyRecord) (pending : Option Intervention) : Bool :=
  pending.all (fun row => decide (row.suggestedAt ≤ existing.generatedAt))

def newRecord (student : Student) (kpId : Nat) (pending : Option Intervention) (now : DateTime) (id : Nat) :
    StudyRecord where
  id := id
  classId := student.classId
  studentId := student.id
  kpId := kpId
  interventionId := pending.map Intervention.id
  generatedAt := now
  selfMarkedAt := none

theorem newRecord_key (student : Student) (kpId : Nat) (pending : Option Intervention) (now : DateTime) (id : Nat) :
    Keyed.key (newRecord student kpId pending now id) = id := rfl

section
variable [Field K] [LinearOrder K] [FloorRing K]

/-- The record shown, and the records stored. -/
def getOrGenerateStudyRecord (cfg : Config K) (db : Db K) (g : KpGraph K) (student : Student) (kpId : Nat)
    (allowGenerate : Bool) (now : DateTime) : Except StudyError (StudyRecord × Table StudyRecord) :=
  if kpId ∉ g.gradeKpIds (classGrade db student.classId) then .error (.lookup "知识点不存在")
  else
    let byKp := Dict.ofList ((assessStudentKps cfg db g student.id student.classId now none).map (fun a => (a.kpId, a)))
    let a := byKp.get? kpId
    let pending := pendingRow db student kpId
    let generate : Except StudyError (StudyRecord × Table StudyRecord) :=
      if !allowGenerate then .error (.lookup "该知识点还没有生成过学习方案")
      else if a.isNone then .error (.value "该知识点暂无评估数据，无法生成学习方案")
      else .ok (newRecord student kpId pending now db.studyRecords.nextId,
        db.studyRecords.insert (newRecord student kpId pending now) (newRecord_key student kpId pending now))
    if a.all (fun a => !a.isWeak) && pending.isNone then .error (.value "该知识点当前不在你的待加强清单里")
    else
      match existingRecord db student kpId with
      | some existing => if sameRound existing pending then .ok (existing, db.studyRecords) else generate
      | none => generate

end

structure SelfMark where
  id : Nat
  selfMarkedAt : DateTime
  rowDone : Bool
  deriving DecidableEq, Repr

/-- The pupil's own suggestion that his report settles. -/
def openOwnRow (db : Db K) (student : Student) (kpId : Nat) : Option Intervention :=
  first newerSuggestion (db.interventions.select (fun r => r.classId == student.classId &&
    decide (r.studentId = some student.id) && r.kpId == kpId && decide (r.scope = .student) &&
    decide (r.status = .suggested)))

def markLearned (now : DateTime) (r : StudyRecord) : StudyRecord := { r with selfMarkedAt := some now }

def settledByReport (now : DateTime) (name : String) (r : Intervention) : Intervention :=
  { r with status := .done, doneAt := some now, note := some ("学生自报：已自学「" ++ name ++ "」") }

theorem markLearned_key (now : DateTime) (r : StudyRecord) : Keyed.key (markLearned now r) = Keyed.key r := rfl

theorem settledByReport_key (now : DateTime) (name : String) (r : Intervention) :
    Keyed.key (settledByReport now name r) = Keyed.key r := rfl

def selfMarkLearned (db : Db K) (g : KpGraph K) (student : Student) (recordId : Nat) (now : DateTime) :
    Except StudyError (Db K × SelfMark) :=
  match db.studyRecords.get? recordId with
  | none => .error (.lookup "学习记录不存在")
  | some rec =>
    if rec.studentId ≠ student.id then .error (.lookup "学习记录不存在")
    else
      match rec.selfMarkedAt with
      | some earlier => .ok (db, ⟨rec.id, earlier, false⟩)
      | none =>
        let reported := { db with studyRecords := db.studyRecords.modify recordId (markLearned now) (markLearned_key now) }
        match openOwnRow db student rec.kpId with
        | none => .ok (reported, ⟨rec.id, now, false⟩)
        | some row =>
          match g.kp? db rec.kpId with
          | none => .error (.key rec.kpId)
          | some p =>
            .ok ({ reported with
                interventions := db.interventions.modify row.id (settledByReport now p.name)
                  (settledByReport_key now p.name) },
              ⟨rec.id, now, true⟩)

inductive ToolError
  | input (detail : String)
  | lookup (detail : String)
  deriving DecidableEq, Repr

/-- The key and the label of a kind. -/
def kindLabels : List (InterventionKind × String × String) :=
  [(.reteach, "reteach", "全班重讲"), (.prereqBackfill, "prereq_backfill", "回补基础点"),
    (.spacedReview, "spaced_review", "间隔复习"), (.contrastPractice, "contrast_practice", "概念辨析"),
    (.evidenceBoost, "evidence_boost", "补证据练习"), (.tierDrill, "tier_drill", "层级补强")]

structure RegisteredIntervention where
  interventionId : Nat
  status : InterventionStatus
  kind : InterventionKind
  kindLabel : String
  studentAlias : String
  kpName : String
  next : String
  deriving DecidableEq, Repr

def registeredRow (student : Student) (kpId : Nat) (kind : InterventionKind) (examId : Nat) (note : Option String)
    (now : DateTime) (id : Nat) : Intervention where
  id := id
  classId := student.classId
  studentId := some student.id
  kpId := kpId
  examId := examId
  attributionId := none
  sourceReportId := none
  retestExamId := none
  retestDueDate := none
  kind := kind
  scope := .student
  groupRef := none
  baselineAsOf := now
  status := .suggested
  suggestedAt := now
  doneAt := none
  note := (note.map Kb.strip).filter (fun text => text != "")

theorem registeredRow_key (student : Student) (kpId : Nat) (kind : InterventionKind) (examId : Nat) (note : Option String)
    (now : DateTime) (id : Nat) : Keyed.key (registeredRow student kpId kind examId note now id) = id := rfl

/-- `_mcp_guard`, which rewords a refusal and lets a class that does not exist pass as it is. -/
def toolGuard (dir : Directory) (ctx : AccessContext) (classId : Nat) : Except ToolError Unit :=
  match assertClassAccess dir ctx classId with
  | .ok _ => .ok ()
  | .error (.http _ detail) => .error (.input ("无权访问该班级：" ++ detail))
  | .error (.lookup detail) => .error (.lookup detail)

/-- `quoted` is the `repr` of a string. -/
def recordIntervention (quoted : String → String) (dir : Directory) (ctx : AccessContext) (db : Db K) (g : KpGraph K)
    (studentId : Nat) (kpCode kind : String) (examId : Nat) (note : Option String) (now : DateTime) :
    Except ToolError (Table Intervention × RegisteredIntervention) :=
  match kindLabels.find? (fun e => e.2.1 == kind) with
  | none => .error (.input ("kind 必须是 " ++ "/".intercalate (kindLabels.map (fun e => e.2.1)) ++ "，收到 " ++ quoted kind))
  | some (kind, _, label) =>
    match db.students.get? studentId with
    | none => .error (.lookup ("学生 " ++ toString studentId ++ " 不存在"))
    | some stu =>
      match toolGuard dir ctx stu.classId with
      | .error e => .error e
      | .ok () =>
        if (db.templates.get? examId).all (fun tpl => tpl.classId != stu.classId) then
          .error (.input ("考试 " ++ toString examId ++ " 不属于学生所在班级 " ++ toString stu.classId))
        else
          match (g.code? (Kb.strip kpCode)).bind g.find? with
          | none => .error (.input ("知识点编码不存在: " ++ kpCode))
          | some p =>
            if !db.progress.rows.any (fun r => r.classId == stu.classId && r.kpId == p.id) then
              .error (.input ("知识点 " ++ kpCode ++ " 未列入该班教学进度，不能产生干预建议"))
            else
              .ok (db.interventions.insert (registeredRow stu p.id kind examId note now)
                  (registeredRow_key stu p.id kind examId note now),
                { interventionId := db.interventions.nextId
                  status := .suggested
                  kind := kind
                  kindLabel := label
                  studentAlias := stu.nameOrAlias
                  kpName := p.name
                  next := "干预建议已登记，等待教师在行动明细中确认执行；复测后可查效果" })

theorem pendingRow_mem {db : Db K} {student : Student} {kpId : Nat} {row : Intervention}
    (found : pendingRow db student kpId = some row) : row ∈ db.interventions.rows :=
  List.mem_of_mem_filter (first_mem found)

theorem existingRecord_mem {db : Db K} {student : Student} {kpId : Nat} {rec : StudyRecord}
    (found : existingRecord db student kpId = some rec) : rec ∈ db.studyRecords.rows :=
  List.mem_of_mem_filter (first_mem found)

section
variable [Field K] [LinearOrder K] [FloorRing K]

/-- A plan is only ever shown from the stored ones, or added to them. -/
theorem getOrGenerateStudyRecord_ok {cfg : Config K} {db : Db K} {g : KpGraph K} {student : Student} {kpId : Nat}
    {allowGenerate : Bool} {now : DateTime} {rec : StudyRecord} {records : Table StudyRecord}
    (shown : getOrGenerateStudyRecord cfg db g student kpId allowGenerate now = .ok (rec, records)) :
    records = db.studyRecords ∨ (rec.id = db.studyRecords.nextId ∧
      records = db.studyRecords.insert (newRecord student kpId (pendingRow db student kpId) now)
        (newRecord_key student kpId (pendingRow db student kpId) now)) := by
  unfold getOrGenerateStudyRecord at shown
  grind [newRecord]

/-- Once there is a plan and an open suggestion, the plan is shown again exactly when it is stamped no earlier. -/
theorem reuse_iff {cfg : Config K} {db : Db K} {g : KpGraph K} {student : Student} {kpId : Nat}
    {allowGenerate : Bool} {now : DateTime} {existing : StudyRecord} {pending : Intervention}
    (inside : kpId ∈ g.gradeKpIds (classGrade db student.classId))
    (stored : existingRecord db student kpId = some existing) (open_ : pendingRow db student kpId = some pending) :
    getOrGenerateStudyRecord cfg db g student kpId allowGenerate now = .ok (existing, db.studyRecords) ↔
      pending.suggestedAt ≤ existing.generatedAt := by
  have eligible : ∀ weak : Bool, (weak && (some pending).isNone) = false := by simp
  constructor
  · intro shown
    by_contra earlier
    have apart : sameRound existing (some pending) = false := by simp [sameRound, earlier]
    have issued := db.studyRecords.issued existing (existingRecord_mem stored)
    simp only [getOrGenerateStudyRecord, inside, not_true_eq_false, ↓reduceIte, stored, open_, eligible,
      Bool.false_eq_true, apart] at shown
    split at shown
    · cases shown
    · split at shown
      · cases shown
      · have same : existing.id = db.studyRecords.nextId := by
          rw [← (Prod.mk.inj (Except.ok.inj shown)).1]
          rfl
        exact absurd issued (by rw [show Keyed.key existing = existing.id from rfl, same]; exact Nat.lt_irrefl _)
  · intro later
    have same : sameRound existing (some pending) = true := by simp [sameRound, later]
    simp only [getOrGenerateStudyRecord, inside, not_true_eq_false, ↓reduceIte, stored, open_, eligible,
      Bool.false_eq_true, same]

end

/-- The suggestion is made to the pupil himself. -/
def OwnSuggestion (student : Student) (kpId : Nat) (r : Intervention) : Prop :=
  r.classId = student.classId ∧ r.studentId = some student.id ∧ r.kpId = kpId ∧ r.scope = .student ∧ r.status = .suggested

theorem openOwnRow_own {db : Db K} {student : Student} {kpId : Nat} {row : Intervention}
    (found : openOwnRow db student kpId = some row) : row ∈ db.interventions.rows ∧ OwnSuggestion student kpId row := by
  obtain ⟨stored, own⟩ := List.mem_filter.mp (first_mem found)
  simp only [Bool.and_eq_true, beq_iff_eq, decide_eq_true_eq] at own
  obtain ⟨⟨⟨⟨sameClass, pupil⟩, point⟩, scope⟩, open_⟩ := own
  exact ⟨stored, sameClass, pupil, point, scope, open_⟩

theorem selfMarkLearned_ok {db after : Db K} {g : KpGraph K} {student : Student} {recordId : Nat} {now : DateTime}
    {mark : SelfMark} (reported : selfMarkLearned db g student recordId now = .ok (after, mark)) :
    after = db ∨ ((∀ rec, db.studyRecords.get? recordId = some rec → rec.selfMarkedAt = none) ∧
      after.studyRecords = db.studyRecords.modify recordId (markLearned now) (markLearned_key now) ∧
      (after.interventions = db.interventions ∨
        ∃ row ∈ db.interventions.rows, row.status = .suggested ∧ ∃ name, after.interventions =
          db.interventions.modify row.id (settledByReport now name) (settledByReport_key now name))) := by
  unfold selfMarkLearned at reported
  split at reported
  · cases reported
  · rename_i rec found
    have unmarked : ∀ other, db.studyRecords.get? recordId = some other → other = rec := by
      intro other same
      exact Option.some.inj (same.symm.trans found)
    split at reported
    · cases reported
    · split at reported
      · cases reported
        exact Or.inl rfl
      · rename_i fresh
        have first_ : ∀ other, db.studyRecords.get? recordId = some other → other.selfMarkedAt = none := by
          intro other same
          rw [unmarked other same, fresh]
        split at reported
        · cases reported
          exact Or.inr ⟨first_, rfl, Or.inl rfl⟩
        · rename_i row open_
          split at reported
          · cases reported
          · cases reported
            obtain ⟨stored, own⟩ := openOwnRow_own open_
            exact Or.inr ⟨first_, rfl, Or.inr ⟨row, stored, own.2.2.2.2, _, rfl⟩⟩

theorem recordIntervention_ok {quoted : String → String} {dir : Directory} {ctx : AccessContext} {db : Db K}
    {g : KpGraph K} {studentId : Nat} {kpCode kind : String} {examId : Nat} {note : Option String} {now : DateTime}
    {after : Table Intervention} {registered : RegisteredIntervention}
    (accepted : recordIntervention quoted dir ctx db g studentId kpCode kind examId note now = .ok (after, registered)) :
    ∃ student kpId kind, after =
      db.interventions.insert (registeredRow student kpId kind examId note now)
        (registeredRow_key student kpId kind examId note now) := by
  unfold recordIntervention at accepted
  split at accepted
  · cases accepted
  · split at accepted
    · cases accepted
    · split at accepted
      · cases accepted
      · split at accepted
        · cases accepted
        · split at accepted
          · cases accepted
          · split at accepted
            · cases accepted
            · cases accepted
              exact ⟨_, _, _, rfl⟩

end KnowledgeGap
