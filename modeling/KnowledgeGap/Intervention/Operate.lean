import KnowledgeGap.Kb.Requests

namespace KnowledgeGap

open Relational
open Kb (AccessContext)

/-- The columns of a class that authorization reads. -/
structure ClassOffice where
  name : String
  subject : String
  homeroomTeacherId : Option Nat
  deriving DecidableEq, Repr

/-- A grant of a class to a teacher; one without a subject covers all of them. -/
structure TeacherClass where
  teacherId : Nat
  classId : Nat
  subject : Option String
  deriving DecidableEq, Repr

structure Directory where
  teacherName : Nat → String
  office : Nat → Option ClassOffice
  grants : List TeacherClass
  exams : Table ExamTemplate
  examSubject : Nat → Option String
  securityMode : Bool

/-- A refusal with its status code, and the `LookupError` of a class that does not exist. -/
inductive ActionError
  | http (code : Nat) (detail : String)
  | lookup (detail : String)
  deriving DecidableEq, Repr

def Directory.grantsOf (dir : Directory) (teacherId classId : Nat) : List TeacherClass :=
  dir.grants.filter (fun row => row.teacherId == teacherId && row.classId == classId)

def assertClassAccess (dir : Directory) (ctx : AccessContext) (classId : Nat) : Except ActionError ClassOffice :=
  match dir.office classId with
  | none => .error (.lookup ("班级 " ++ toString classId ++ " 不存在"))
  | some clazz =>
    match ctx.teacher with
    | none =>
      if dir.securityMode then .error (.http 403 "匿名身份无班级访问权限（安全模式）")
      else .ok clazz
    | some teacher =>
      if teacher.admin then .ok clazz
      else if clazz.homeroomTeacherId = some teacher.id then .ok clazz
      else if dir.grantsOf teacher.id classId = [] then
        .error (.http 403 ("教师 " ++ dir.teacherName teacher.id ++ " 无班级 " ++ clazz.name ++ " 的访问权限"))
      else .ok clazz

/-- `exam_template.subject or clazz.subject`: an empty subject counts as none here. -/
def subjectOrClass (subject : Option String) (clazz : ClassOffice) : String :=
  match subject with
  | none => clazz.subject
  | some name => if name = "" then clazz.subject else name

def assertExamAccess (dir : Directory) (ctx : AccessContext) (exam : ExamTemplate) : Except ActionError Unit :=
  match assertClassAccess dir ctx exam.classId with
  | .error e => .error e
  | .ok clazz =>
    match ctx.teacher with
    | none => .ok ()
    | some teacher =>
      if teacher.admin then .ok ()
      else if clazz.homeroomTeacherId = some teacher.id then .ok ()
      else
        let examSubject := subjectOrClass (dir.examSubject exam.id) clazz
        let bound := (dir.grantsOf teacher.id exam.classId).filterMap TeacherClass.subject
        if bound ≠ [] ∧ examSubject ∉ bound then
          .error (.http 403 ("教师 " ++ dir.teacherName teacher.id ++ " 对班级 " ++ clazz.name ++ " 仅有 " ++
            "、".intercalate bound ++ " 学科视野，该考试学科为 " ++ examSubject))
        else .ok ()

/-- Whether `allowed_exam_ids` selects the exam; `coalesce` takes an empty subject for a subject. -/
def allowedExam (dir : Directory) (ctx : AccessContext) (exam : ExamTemplate) : Bool :=
  match dir.office exam.classId with
  | none => false
  | some clazz =>
    match ctx.teacher with
    | none => true
    | some teacher =>
      teacher.admin || decide (clazz.homeroomTeacherId = some teacher.id) ||
        (dir.grantsOf teacher.id exam.classId).any (fun row =>
          decide (row.subject = none ∨ row.subject = some ((dir.examSubject exam.id).getD clazz.subject)))

def guardIntervention (dir : Directory) (ctx : AccessContext) (iv : Intervention) : Except ActionError Unit :=
  match assertClassAccess dir ctx iv.classId with
  | .error e => .error e
  | .ok _ =>
    match dir.exams.get? iv.examId with
    | none => .error (.http 404 "干预来源考试不存在")
    | some exam =>
      if exam.classId ≠ iv.classId then .error (.http 404 "干预记录与来源考试班级不一致")
      else assertExamAccess dir ctx exam

def interventionAccess (dir : Directory) (ctx : AccessContext) (iv : Intervention) : Bool :=
  match dir.exams.get? iv.examId with
  | none => false
  | some exam => exam.classId == iv.classId && allowedExam dir ctx exam

theorem assertClassAccess_ok {dir : Directory} {ctx : AccessContext} {classId : Nat} {clazz : ClassOffice}
    (passes : assertClassAccess dir ctx classId = .ok clazz) :
    dir.office classId = some clazz ∧ ∀ teacher, ctx.teacher = some teacher → teacher.admin = false →
      clazz.homeroomTeacherId ≠ some teacher.id → dir.grantsOf teacher.id classId ≠ [] := by
  unfold assertClassAccess at passes
  cases found : dir.office classId with
  | none =>
    rw [found] at passes
    cases passes
  | some office =>
    rw [found] at passes
    cases caller : ctx.teacher with
    | none =>
      rw [caller] at passes
      dsimp only at passes
      split at passes
      · cases passes
      · cases passes
        exact ⟨rfl, nofun⟩
    | some teacher =>
      rw [caller] at passes
      dsimp only at passes
      split at passes
      · rename_i admin
        cases passes
        refine ⟨rfl, ?_⟩
        intro other same plain
        cases same
        rw [admin] at plain
        cases plain
      · split at passes
        · rename_i homeroom
          cases passes
          refine ⟨rfl, ?_⟩
          intro other same _ apart
          cases same
          exact absurd homeroom apart
        · split at passes
          · cases passes
          · rename_i granted
            cases passes
            refine ⟨rfl, ?_⟩
            intro other same _ _
            cases same
            exact granted

/-- The filter over the rows admits every exam that the guard admits, but for one with an empty subject. -/
theorem allowedExam_of_access {dir : Directory} {ctx : AccessContext} {exam : ExamTemplate}
    (passes : assertExamAccess dir ctx exam = .ok ()) (named : dir.examSubject exam.id ≠ some "") :
    allowedExam dir ctx exam = true := by
  unfold assertExamAccess at passes
  cases admitted : assertClassAccess dir ctx exam.classId with
  | error e =>
    rw [admitted] at passes
    cases passes
  | ok clazz =>
    obtain ⟨office, granted⟩ := assertClassAccess_ok admitted
    rw [admitted] at passes
    unfold allowedExam
    rw [office]
    cases caller : ctx.teacher with
    | none => rfl
    | some teacher =>
      rw [caller] at passes
      dsimp only at passes ⊢
      cases admin : teacher.admin with
      | true => rfl
      | false =>
        by_cases homeroom : clazz.homeroomTeacherId = some teacher.id
        · simp [homeroom]
        · have held := granted teacher caller admin homeroom
          have subject : subjectOrClass (dir.examSubject exam.id) clazz =
              (dir.examSubject exam.id).getD clazz.subject := by
            cases set : dir.examSubject exam.id with
            | none => rfl
            | some name =>
              have full : name ≠ "" := fun empty => named (set.trans (congrArg some empty))
              simp only [subjectOrClass, full, ↓reduceIte, Option.getD_some]
          rw [admin, if_neg (by simp), if_neg homeroom, subject] at passes
          rw [decide_eq_false homeroom, Bool.false_or, Bool.false_or, List.any_eq_true]
          by_cases all : ∃ row ∈ dir.grantsOf teacher.id exam.classId, row.subject = none
          · obtain ⟨row, listed, open_⟩ := all
            exact ⟨row, listed, by simp [open_]⟩
          · obtain ⟨first, listed⟩ := List.exists_mem_of_ne_nil _ held
            have bound : ((dir.grantsOf teacher.id exam.classId).filterMap TeacherClass.subject) ≠ [] := by
              intro empty
              have free : first.subject = none := List.filterMap_eq_nil_iff.mp empty first listed
              exact all ⟨first, listed, free⟩
            by_cases covered : (dir.examSubject exam.id).getD clazz.subject ∈
                (dir.grantsOf teacher.id exam.classId).filterMap TeacherClass.subject
            · obtain ⟨row, member, same⟩ := List.mem_filterMap.mp covered
              exact ⟨row, member, by simp [same]⟩
            · rw [if_pos ⟨bound, covered⟩] at passes
              cases passes

theorem guardIntervention_ok {dir : Directory} {ctx : AccessContext} {iv : Intervention}
    (passes : guardIntervention dir ctx iv = .ok ()) :
    ∃ exam, dir.exams.get? iv.examId = some exam ∧ exam.classId = iv.classId ∧ assertExamAccess dir ctx exam = .ok () := by
  unfold guardIntervention at passes
  split at passes
  · cases passes
  · split at passes
    · cases passes
    · rename_i exam found
      split at passes
      · cases passes
      · rename_i own
        exact ⟨exam, found, not_not.mp own, passes⟩

theorem interventionAccess_of_guard {dir : Directory} {ctx : AccessContext} {iv : Intervention}
    (passes : guardIntervention dir ctx iv = .ok ()) (named : dir.examSubject iv.examId ≠ some "") :
    interventionAccess dir ctx iv = true := by
  rcases guardIntervention_ok passes with ⟨exam, found, cls, access⟩
  have id : exam.id = iv.examId := Table.get?_key found
  unfold interventionAccess
  rw [found]
  dsimp only
  rw [beq_iff_eq.mpr cls, allowedExam_of_access access (id ▸ named), Bool.and_self]

def defaultRetestDate (doneAt : DateTime) : Date := dateOf doneAt + 7

def validRetestDate (due today : Date) : Bool := decide (today ≤ due ∧ due ≤ today + 90)

def InterventionStatus.text : InterventionStatus → String
  | .suggested => "suggested"
  | .done => "done"
  | .skipped => "skipped"

/-- The row asks for its whole group. -/
def actsOnGroup (withGroup : Bool) (iv : Intervention) : Bool :=
  withGroup && decide (iv.scope = .group) && iv.groupRef.any (fun ref => ref != "")

/-- The rows an operation on `iv` is carried out on. -/
def isTarget (dir : Directory) (ctx : AccessContext) (withGroup : Bool) (required : InterventionStatus)
    (iv r : Intervention) : Bool :=
  if actsOnGroup withGroup iv then
    r.classId == iv.classId && r.groupRef == iv.groupRef && decide (r.status = required) && interventionAccess dir ctx r
  else r.id == iv.id

/-- What the three endpoints have in common; the number is that of the rows changed. -/
def act (dir : Directory) (ctx : AccessContext) (t : Table Intervention) (id : Nat) (withGroup : Bool)
    (required : InterventionStatus) (refusal : InterventionStatus → String) (dated : Bool)
    (update : Intervention → Intervention) (keeps : ∀ r, Keyed.key (update r) = Keyed.key r) :
    Except ActionError (Table Intervention × Nat) :=
  match t.get? id with
  | none => .error (.http 404 "干预记录不存在")
  | some iv =>
    match guardIntervention dir ctx iv with
    | .error e => .error e
    | .ok () =>
      if iv.status ≠ required then .error (.http 400 (refusal iv.status))
      else if dated = false then .error (.http 400 "复测日期须在今天至未来 90 天内")
      else .ok (t.updateWhere (isTarget dir ctx withGroup required iv) update keeps,
        t.rowcount (isTarget dir ctx withGroup required iv))

structure InterventionActionRequest where
  note : Option String
  retestDueDate : Option Date
  deriving DecidableEq, Repr

def noteOf (req : Option InterventionActionRequest) : Option String :=
  (req.bind InterventionActionRequest.note).filter (fun text => text != "")

def annotated (note : Option String) (iv : Intervention) : Intervention := { iv with note := note.or iv.note }

def confirmed (now : DateTime) (due : Date) (note : Option String) (iv : Intervention) : Intervention :=
  { annotated note iv with status := .done, doneAt := some now, retestDueDate := some due }

def skipped (note : Option String) (iv : Intervention) : Intervention := { annotated note iv with status := .skipped }

def rescheduled (due : Date) (iv : Intervention) : Intervention := { iv with retestDueDate := some due }

def dueOf (req : Option InterventionActionRequest) (now : DateTime) : Date :=
  (req.bind InterventionActionRequest.retestDueDate).getD (defaultRetestDate now)

section
variable (dir : Directory) (ctx : AccessContext) (t : Table Intervention) (id : Nat)

def confirmIntervention (req : Option InterventionActionRequest) (withGroup : Bool) (now : DateTime) :
    Except ActionError (Table Intervention × Nat) :=
  act dir ctx t id withGroup .suggested (fun status => "干预记录状态为 " ++ status.text ++ "，不能再确认")
    (validRetestDate (dueOf req now) (dateOf now)) (confirmed now (dueOf req now) (noteOf req)) (fun _ => rfl)

def rescheduleRetest (due : Date) (withGroup : Bool) (now : DateTime) : Except ActionError (Table Intervention × Nat) :=
  act dir ctx t id withGroup .done (fun _ => "只有已执行干预可以安排复测") (validRetestDate due (dateOf now))
    (rescheduled due) (fun _ => rfl)

def skipIntervention (req : Option InterventionActionRequest) (withGroup : Bool) :
    Except ActionError (Table Intervention × Nat) :=
  act dir ctx t id withGroup .suggested (fun status => "干预记录状态为 " ++ status.text ++ "，不能再跳过") true
    (skipped (noteOf req)) (fun _ => rfl)

end

inductive Operation
  | confirm (req : Option InterventionActionRequest)
  | skip (req : Option InterventionActionRequest)
  | reschedule (due : Date)
  deriving DecidableEq, Repr

def Operation.required : Operation → InterventionStatus
  | .confirm _ => .suggested
  | .skip _ => .suggested
  | .reschedule _ => .done

def Operation.update (now : DateTime) : Operation → Intervention → Intervention
  | .confirm req => confirmed now (dueOf req now) (noteOf req)
  | .skip req => skipped (noteOf req)
  | .reschedule due => rescheduled due

def operate (dir : Directory) (ctx : AccessContext) (t : Table Intervention) (id : Nat) (withGroup : Bool)
    (now : DateTime) : Operation → Except ActionError (Table Intervention × Nat)
  | .confirm req => confirmIntervention dir ctx t id req withGroup now
  | .skip req => skipIntervention dir ctx t id req withGroup
  | .reschedule due => rescheduleRetest dir ctx t id due withGroup now

section
variable {dir : Directory} {ctx : AccessContext} {t after : Table Intervention} {id count : Nat} {withGroup : Bool}
  {now : DateTime} {op : Operation}

theorem act_ok {required : InterventionStatus} {refusal : InterventionStatus → String} {dated : Bool}
    {update : Intervention → Intervention} {keeps : ∀ r, Keyed.key (update r) = Keyed.key r}
    (accepted : act dir ctx t id withGroup required refusal dated update keeps = .ok (after, count)) :
    ∃ iv, t.get? id = some iv ∧ guardIntervention dir ctx iv = .ok () ∧ iv.status = required ∧
      after.rows = t.rows.map (fun r => if isTarget dir ctx withGroup required iv r then update r else r) := by
  unfold act at accepted
  split at accepted
  · cases accepted
  · rename_i iv found
    split at accepted
    · cases accepted
    · rename_i passes
      split at accepted
      · cases accepted
      · rename_i status
        split at accepted
        · cases accepted
        · cases accepted
          exact ⟨iv, found, passes, not_not.mp status, rfl⟩

theorem operate_ok (accepted : operate dir ctx t id withGroup now op = .ok (after, count)) :
    ∃ iv, t.get? id = some iv ∧ guardIntervention dir ctx iv = .ok () ∧ iv.status = op.required ∧
      after.rows = t.rows.map (fun r => if isTarget dir ctx withGroup op.required iv r then op.update now r else r) := by
  cases op with
  | confirm req =>
    unfold operate confirmIntervention at accepted
    exact act_ok accepted
  | skip req =>
    unfold operate skipIntervention at accepted
    exact act_ok accepted
  | reschedule due =>
    unfold operate rescheduleRetest at accepted
    exact act_ok accepted

variable (now op) in
theorem update_frame (r : Intervention) :
    (op.update now r).id = r.id ∧ (op.update now r).classId = r.classId ∧ (op.update now r).groupRef = r.groupRef ∧
      (op.update now r).examId = r.examId := by
  cases op with
  | confirm req => exact ⟨rfl, rfl, rfl, rfl⟩
  | skip req => exact ⟨rfl, rfl, rfl, rfl⟩
  | reschedule due => exact ⟨rfl, rfl, rfl, rfl⟩

theorem required_standing (op : Operation) : op.required ≠ .skipped := by
  cases op <;> nofun

end

end KnowledgeGap
