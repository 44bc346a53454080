import KnowledgeGap.Auth.Passwords
import KnowledgeGap.Kb.Requests
import KnowledgeGap.Protocol.Runs
import KnowledgeGap.Relational.Table
import Mathlib.Logic.Function.Basic

namespace KnowledgeGap.Auth

open Relational Text Protocol

/-! The rows. -/

structure Credentials where
  username : Option String
  passwordHash : Option Bytes
  salt : Option Bytes
  deriving DecidableEq

structure TeacherRow where
  id : Nat
  schoolId : Int
  name : String
  credentials : Credentials
  admin : Bool
  kbEditor : Bool
  deriving DecidableEq

structure StudentRow where
  id : Nat
  schoolId : Int
  classId : Nat
  nameOrAlias : String
  externalCode : String
  credentials : Credentials
  deriving DecidableEq

/-- A row somebody may log in with. -/
class LoginRow (ρ : Type) extends Keyed ρ where
  credentials : ρ → Credentials
  withCredentials : ρ → Credentials → ρ
  key_with : ∀ r c, key (withCredentials r c) = key r
  credentials_with : ∀ r c, credentials (withCredentials r c) = c

instance : LoginRow TeacherRow where
  key := TeacherRow.id
  credentials := TeacherRow.credentials
  withCredentials r c := { r with credentials := c }
  key_with := fun _ _ => rfl
  credentials_with := fun _ _ => rfl

instance : LoginRow StudentRow where
  key := StudentRow.id
  credentials := StudentRow.credentials
  withCredentials r c := { r with credentials := c }
  key_with := fun _ _ => rfl
  credentials_with := fun _ _ => rfl

inductive Principal
  | teacher (id : Nat)
  | student (id : Nat)
  deriving DecidableEq

structure AccountDb where
  teachers : Table TeacherRow
  students : Table StudentRow
  deriving DecidableEq

section
variable {ρ : Type} [LoginRow ρ]

/-- `select(..).where(username == ..)` -/
def holder (t : Table ρ) (username : String) : Option ρ :=
  t.rows.find? (fun r => decide ((LoginRow.credentials r).username = some username))

def setCredentials (t : Table ρ) (k : Nat) (c : Credentials) : Table ρ :=
  t.modify k (fun r => LoginRow.withCredentials r c) (fun r => LoginRow.key_with r c)

/-- The credentials under every key. -/
def credentialsAt (t : Table ρ) (k : Nat) : Option Credentials := (t.get? k).map LoginRow.credentials

end

def AccountDb.accounts (db : AccountDb) : Principal → Option Credentials
  | .teacher k => credentialsAt db.teachers k
  | .student k => credentialsAt db.students k

/-- Credentials written to the row of an account. -/
def AccountDb.write (db : AccountDb) (p : Principal) (c : Credentials) : AccountDb :=
  match p with
  | .teacher k => { db with teachers := setCredentials db.teachers k c }
  | .student k => { db with students := setCredentials db.students k c }

/-! Logging in. -/

def authError : String := "用户名或密码错误"

/-- What a login yields, with the iterations of the derivation it has cost. -/
structure Attempt where
  who : Except String Principal
  spent : Nat
  db : AccountDb

section
variable (kdf : Pbkdf2)

def Credentials.check (c : Credentials) (password : String) : Checked :=
  verifyPassword kdf password (c.salt.getD []) (c.passwordHash.getD [])

/-- `_verify_row_password`, with the salt drawn where the row is upgraded. -/
def Credentials.verifyRowPassword (c : Credentials) (password : String) (fresh : Bytes) : Checked × Credentials :=
  let checked := c.check kdf password
  (checked,
    if checked.valid && checked.needsUpgrade then
      { c with salt := some fresh, passwordHash := some (hashPasswordForStorage kdf password fresh currentPbkdf2Iters) }
    else c)

/-- The check of a row that has been found. -/
def AccountDb.enter (db : AccountDb) (p : Principal) (checked : Checked × Credentials) : Attempt :=
  if checked.1.valid then ⟨.ok p, checked.1.spent, db.write p checked.2⟩ else ⟨.error authError, checked.1.spent, db⟩

/-- Nobody has the name: a derivation at the current cost all the same. -/
def AccountDb.equalize (db : AccountDb) : Attempt := ⟨.error authError, currentPbkdf2Iters, db⟩

variable (db : AccountDb) (username password : String) (fresh : Bytes)

def authenticate : Attempt :=
  match holder db.teachers username with
  | none => db.equalize
  | some row => db.enter (.teacher row.id) (row.credentials.verifyRowPassword kdf password fresh)

def authenticateStudent : Attempt :=
  match holder db.students username with
  | none => db.equalize
  | some row => db.enter (.student row.id) (row.credentials.verifyRowPassword kdf password fresh)

/-- Teachers come first. -/
def authenticateAny : Attempt :=
  match holder db.teachers username with
  | some row => db.enter (.teacher row.id) (row.credentials.verifyRowPassword kdf password fresh)
  | none =>
    match holder db.students username with
    | some row => db.enter (.student row.id) (row.credentials.verifyRowPassword kdf password fresh)
    | none => db.equalize

end

/-! Opening accounts. -/

inductive AccountError
  | unprocessable
  | http (status : Nat) (detail : String)
  /-- `ValueError` -/
  | value (text : String)
  /-- The unique constraint of a table. -/
  | integrity
  deriving DecidableEq

structure LoginRequest where
  username : String
  password : String

def LoginRequest.wellFormed (req : LoginRequest) : Bool := decide (req.username.length ≤ 64 ∧ req.password.length ≤ 128)

structure TeacherCreate where
  name : String
  username : String
  password : String
  schoolId : Int
  admin : Bool := false
  kbEditor : Bool := false

def TeacherCreate.wellFormed (req : TeacherCreate) : Bool :=
  decide (1 ≤ req.name.length ∧ req.name.length ≤ 100 ∧ 2 ≤ req.username.length ∧ req.username.length ≤ 64 ∧
    6 ≤ req.password.length ∧ req.password.length ≤ 128)

structure StudentEnableRequest where
  password : String
  username : Option String := none

def StudentEnableRequest.wellFormed (req : StudentEnableRequest) : Bool :=
  decide (6 ≤ req.password.length ∧ req.password.length ≤ 128) &&
    req.username.all (fun username => decide (2 ≤ username.length ∧ username.length ≤ 64))

/-- `_unique_username` -/
def uniqueUsername (db : AccountDb) (username : String) : Bool :=
  (holder db.teachers username).isNone && (holder db.students username).isNone

section
variable (kdf : Pbkdf2) (db : AccountDb)

/-- A name and a password, as they are stored. -/
def stored (username password : String) (salt : Bytes) : Credentials :=
  ⟨some username, some (hashPasswordForStorage kdf password salt currentPbkdf2Iters), some salt⟩

def addTeacher (req : TeacherCreate) (salt : Bytes) : AccountDb :=
  { db with
    teachers := db.teachers.insert
      (fun id => ⟨id, req.schoolId, req.name, stored kdf req.username req.password salt, req.admin, req.kbEditor⟩)
      (fun _ => rfl) }

/-- `POST /auth/teachers` -/
def createTeacher (req : TeacherCreate) (salt : Bytes) : Except AccountError Nat × AccountDb :=
  if req.wellFormed then
    if uniqueUsername db req.username then (.ok db.teachers.nextId, addTeacher kdf db req salt)
    else (.error (.http 400 ("用户名已存在: " ++ req.username)), db)
  else (.error .unprocessable, db)

/-- The command line: it looks at no other table. -/
def createTeacherScript (name username password : String) (school : Int) (admin : Bool) (salt : Bytes) :
    Except AccountError Nat × AccountDb :=
  if (holder db.teachers username).isNone then
    (.ok db.teachers.nextId, addTeacher kdf db ⟨name, username, password, school, admin, false⟩ salt)
  else (.error .integrity, db)

def enableStudentLogin (studentId : Nat) (password : String) (username : Option String) (salt : Bytes) :
    Except AccountError String × AccountDb :=
  match db.students.get? studentId with
  | none => (.error (.value ("学生 " ++ toString studentId ++ " 不存在")), db)
  | some stu =>
    let asked := Kb.strip (username.getD "")
    let uname := if asked = "" then Kb.strip stu.externalCode else asked
    if uname = "" then (.error (.value "学生无学籍号（external_code），请显式指定 username"), db)
    else if stu.credentials.username.getD "" ≠ uname && !uniqueUsername db uname then
      (.error (.value ("用户名已被占用: " ++ uname)), db)
    else (.ok uname, db.write (.student studentId) (stored kdf uname password salt))

/-- `POST /auth/students/{id}/enable`; `allowed` is the verdict of `can_enable_student`. -/
def enableStudent (allowed : Bool) (studentId : Nat) (req : StudentEnableRequest) (salt : Bytes) :
    Except AccountError String × AccountDb :=
  if req.wellFormed then
    if (db.students.get? studentId).isNone then (.error (.http 404 "学生不存在"), db)
    else if !allowed then (.error (.http 403 "学生账号开通需要管理员或本班班主任权限"), db)
    else
      match enableStudentLogin kdf db studentId req.password req.username salt with
      | (.error (.value text), _) => (.error (.http 400 text), db)
      | other => other
  else (.error .unprocessable, db)

/-- A pupil of a new class; nobody logs in with the row yet. -/
def addStudent (schoolId : Int) (classId : Nat) (nameOrAlias externalCode : String) : AccountDb :=
  { db with
    students := db.students.insert (fun id => ⟨id, schoolId, classId, nameOrAlias, externalCode, ⟨none, none, none⟩⟩) (fun _ => rfl) }

/-! The system. -/

/-- What reaches the accounts, with the salt drawn on the way. -/
inductive AccountEvent
  | login (req : LoginRequest) (salt : Bytes)
  | createTeacher (req : TeacherCreate) (salt : Bytes)
  | createTeacherScript (name username password : String) (school : Int) (admin : Bool) (salt : Bytes)
  | enableStudent (allowed : Bool) (studentId : Nat) (req : StudentEnableRequest) (salt : Bytes)
  | enableStudentScript (studentId : Nat) (password : String) (username : Option String) (salt : Bytes)
  | addStudent (schoolId : Int) (classId : Nat) (nameOrAlias externalCode : String)

/-- An account and the name and password that are good for it. -/
structure Opened where
  who : Principal
  username : String
  password : String
  deriving DecidableEq

def opened {ε α : Type} (result : Except ε α) (mk : α → Opened) : Option Opened := result.toOption.map mk

/-- What an event shows to be good for an account, and the accounts after it. -/
def AccountDb.perform : AccountEvent → Option Opened × AccountDb
  | .login req salt =>
    if req.wellFormed then
      let attempt := authenticateAny kdf db req.username req.password salt
      (opened attempt.who (⟨·, req.username, req.password⟩), attempt.db)
    else (none, db)
  | .createTeacher req salt =>
    let made := createTeacher kdf db req salt
    (opened made.1 (fun id => ⟨.teacher id, req.username, req.password⟩), made.2)
  | .createTeacherScript name username password school admin salt =>
    let made := createTeacherScript kdf db name username password school admin salt
    (opened made.1 (fun id => ⟨.teacher id, username, password⟩), made.2)
  | .enableStudent allowed studentId req salt =>
    let made := enableStudent kdf db allowed studentId req salt
    (opened made.1 (fun username => ⟨.student studentId, username, req.password⟩), made.2)
  | .enableStudentScript studentId password username salt =>
    let made := enableStudentLogin kdf db studentId password username salt
    (opened made.1 (fun username => ⟨.student studentId, username, password⟩), made.2)
  | .addStudent schoolId classId nameOrAlias externalCode => (none, addStudent db schoolId classId nameOrAlias externalCode)

def AccountDb.step (e : AccountEvent) : AccountDb := (db.perform kdf e).2

end

/-- Whether an event gives an account a password anew. -/
def AccountEvent.Resets : AccountEvent → Principal → Prop
  | .enableStudent _ studentId _ _, p | .enableStudentScript studentId _ _ _, p => p = .student studentId
  | _, _ => False

/-- The command line asks only the teachers' table, so whoever runs it chooses a name no student has. -/
def AccountDb.Allowed (db : AccountDb) : AccountEvent → Prop
  | .createTeacherScript _ username _ _ _ _ => holder db.students username = none
  | _ => True

instance (db : AccountDb) : ∀ e, Decidable (db.Allowed e)
  | .createTeacherScript _ username _ _ _ _ => inferInstanceAs (Decidable (holder db.students username = none))
  | .login .. | .createTeacher .. | .enableStudent .. | .enableStudentScript .. | .addStudent .. => inferInstanceAs (Decidable True)

end KnowledgeGap.Auth
