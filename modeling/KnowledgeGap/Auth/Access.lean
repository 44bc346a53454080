import KnowledgeGap.Data.Schema
import KnowledgeGap.Relational.StableSort

namespace KnowledgeGap.Auth

open Relational

structure SchoolClass where
  id : Nat
  name : String
  grade : Int
  subject : String
  homeroomTeacherId : Option Nat
  deriving DecidableEq, Repr

structure Exam where
  id : Nat
  classId : Nat
  subject : Option String
  name : String
  examDate : Date
  source : ExamSource
  deriving DecidableEq, Repr

structure Account where
  id : Nat
  name : String
  admin : Bool
  deriving DecidableEq, Repr

/-- `teacher_class`; a grant without a subject is for all of them. -/
structure TeacherClass where
  id : Nat
  teacherId : Nat
  classId : Nat
  subject : Option String
  deriving DecidableEq, Repr

instance : Keyed SchoolClass := ⟨SchoolClass.id⟩
instance : Keyed Exam := ⟨Exam.id⟩
instance : Keyed TeacherClass := ⟨TeacherClass.id⟩

/-- The tables authorization reads, with the constraints the schema puts on them. -/
structure AccessDb where
  classes : Table SchoolClass
  exams : Table Exam
  grants : Table TeacherClass
  /-- `uq_teacher_class` -/
  unique : ∀ g ∈ grants.rows, ∀ h ∈ grants.rows, g.teacherId = h.teacherId → g.classId = h.classId → g = h
  /-- The foreign key of a grant. -/
  refers : ∀ g ∈ grants.rows, (classes.get? g.classId).isSome

/-- Who calls: a teacher, or nobody known. -/
structure AccessContext where
  teacher : Option Account
  deriving DecidableEq

inductive AccessError
  | lookup (text : String)
  | permission (text : String)
  deriving DecidableEq

def AccessContext.isAdmin (ctx : AccessContext) : Bool := ctx.teacher.any Account.admin

section
variable (db : AccessDb) (secure : Bool)

def AccessDb.grantsOf (teacherId classId : Nat) : List TeacherClass :=
  db.grants.select (fun g => g.teacherId == teacherId && g.classId == classId)

def SchoolClass.ledBy (c : SchoolClass) (teacherId : Nat) : Bool := c.homeroomTeacherId == some teacherId

/-- `secure` is the security mode. -/
def assertClassAccess (ctx : AccessContext) (classId : Nat) : Except AccessError SchoolClass :=
  match db.classes.get? classId with
  | none => .error (.lookup ("班级 " ++ toString classId ++ " 不存在"))
  | some clazz =>
    match ctx.teacher with
    | none => if secure then .error (.permission "匿名身份无班级访问权限（安全模式）") else .ok clazz
    | some teacher =>
      if teacher.admin then .ok clazz
      else if clazz.ledBy teacher.id then .ok clazz
      else if (db.grantsOf teacher.id classId).isEmpty then
        .error (.permission ("教师 " ++ teacher.name ++ " 无班级 " ++ clazz.name ++ " 的访问权限"))
      else .ok clazz

/-- `exam.subject or clazz.subject` -/
def examSubject (exam : Exam) (clazz : SchoolClass) : String :=
  match exam.subject with
  | none => clazz.subject
  | some subject => if subject = "" then clazz.subject else subject

/-- The subjects the grants of a teacher are bound to. -/
def AccessDb.bound (teacherId classId : Nat) : List String := (db.grantsOf teacherId classId).filterMap TeacherClass.subject

def assertExamAccess (ctx : AccessContext) (exam : Exam) : Except AccessError Unit :=
  (assertClassAccess db secure ctx exam.classId).bind fun clazz =>
    match ctx.teacher with
    | none => .ok ()
    | some teacher =>
      if teacher.admin then .ok ()
      else if clazz.ledBy teacher.id then .ok ()
      else if !(db.bound teacher.id clazz.id).isEmpty && !(db.bound teacher.id clazz.id).contains (examSubject exam clazz) then
        .error (.permission ("教师 " ++ teacher.name ++ " 对班级 " ++ clazz.name ++ " 仅有 " ++
          "、".intercalate (db.bound teacher.id clazz.id) ++ " 学科视野，该考试学科为 " ++ examSubject exam clazz))
      else .ok ()

/-- SQL's `=`: nothing equals NULL. -/
def sqlEquals (a b : Option String) : Bool :=
  match a, b with
  | some a, some b => a == b
  | _, _ => false

/-- The subquery on the grants, for an exam and its class. -/
def AccessDb.granted (teacherId : Nat) (exam : Exam) (clazz : SchoolClass) : Bool :=
  db.grants.rows.any fun g =>
    g.teacherId == teacherId && g.classId == clazz.id &&
      (g.subject.isNone || sqlEquals g.subject (exam.subject.or (some clazz.subject)))

def AccessDb.allowsExam (ctx : AccessContext) (exam : Exam) (clazz : SchoolClass) : Bool :=
  match ctx.teacher with
  | none => true
  | some teacher => teacher.admin || (clazz.ledBy teacher.id || db.granted teacher.id exam clazz)

/-- The exams joined with their classes. -/
def allowedExamIds (ctx : AccessContext) : List Nat :=
  (db.exams.select (fun exam => (db.classes.get? exam.classId).any (db.allowsExam ctx exam))).map Exam.id

/-- Nothing means no limit. -/
def allowedClassIds (ctx : AccessContext) : Option (List Nat) :=
  match ctx.teacher with
  | none => none
  | some teacher =>
    if teacher.admin then none
    else some (stableSort (fun a b => decide (a ≤ b))
      (((db.grants.select (fun g => g.teacherId == teacher.id)).map TeacherClass.classId) ++
        ((db.classes.select (fun c => c.ledBy teacher.id)).map SchoolClass.id)).dedup)

end

end KnowledgeGap.Auth
