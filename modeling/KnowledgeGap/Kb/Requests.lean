import KnowledgeGap.Kb.Exchange
import KnowledgeGap.Protocol.Runs

namespace KnowledgeGap.Kb

open Relational

/-- Who makes a call to a teacher's endpoint; nobody in particular in the open mode. -/
structure AccessContext where
  teacher : Option Teacher
  deriving DecidableEq, Repr

def AccessContext.isAdmin (ctx : AccessContext) : Bool := ctx.teacher.any Teacher.admin

def AccessContext.isKbEditor (ctx : AccessContext) : Bool := ctx.teacher.any Teacher.kbEditor

variable {K : Type}

/-- `none` for those no scope restricts. -/
def subjectScopes (db : Db K) (ctx : AccessContext) : Option (List (String × Int)) :=
  match ctx.teacher with
  | none => none
  | some teacher =>
    if teacher.admin then none
    else some ((db.subjectScopes.select (fun row => row.teacherId == teacher.id)).map
      (fun row => (row.subject, row.grade)))

def scopeCovers (db : Db K) (ctx : AccessContext) (subject : String) (grade : Option Int) : Bool :=
  let scopes := (subjectScopes db ctx).getD []
  match grade with
  | none => scopes.any (fun scope => scope.1 == subject)
  | some g => decide ((subject, g) ∈ scopes)

section
variable (env : Deployment)

def canWriteKb (db : Db K) (ctx : AccessContext) (subject : String) (grade : Option Int) : Bool :=
  if ctx.teacher.isNone then !env.securityMode
  else ctx.isAdmin || ctx.isKbEditor || scopeCovers db ctx subject grade

def canGovernKb (db : Db K) (ctx : AccessContext) (subject : String) (grade : Option Int) : Bool :=
  if ctx.teacher.isNone then !env.securityMode
  else ctx.isAdmin || scopeCovers db ctx subject grade

/-- The coarse gate in front of every write to the knowledge base. -/
def passesKbEditor (db : Db K) (ctx : AccessContext) : Bool :=
  match ctx.teacher with
  | none => !env.securityMode
  | some _ => ctx.isAdmin || ctx.isKbEditor || !env.securityMode || decide ((subjectScopes db ctx).getD [] ≠ [])

end

/-- The white space `str.strip` removes. -/
def isSpace (c : Char) : Bool :=
  let n := c.toNat
  (decide (9 ≤ n) && decide (n ≤ 13)) || (decide (28 ≤ n) && decide (n ≤ 32)) || n == 133 || n == 160 ||
    n == 5760 || (decide (8192 ≤ n) && decide (n ≤ 8202)) || n == 8232 || n == 8233 || n == 8239 ||
    n == 8287 || n == 12288

def strip (s : String) : String :=
  String.ofList (((s.toList.dropWhile isSpace).reverse.dropWhile isSpace).reverse)

structure KbVersionCreateRequest where
  subject : String
  grade : Option Int
  textbookEdition : String
  version : String
  deriving DecidableEq, Repr

/-- The lengths the request model allows. -/
def KbVersionCreateRequest.wellFormed (req : KbVersionCreateRequest) : Bool :=
  decide (1 ≤ req.subject.length ∧ req.subject.length ≤ 20 ∧ 1 ≤ req.textbookEdition.length ∧
    req.textbookEdition.length ≤ 100 ∧ req.version.length ≤ 20)

def KbVersionCreateRequest.newVersion (req : KbVersionCreateRequest) (id : Nat) : KbVersion where
  id := id
  subject := strip req.subject
  grade := req.grade
  textbookEdition := strip req.textbookEdition
  version := strip req.version
  status := .draft

theorem KbVersionCreateRequest.key_newVersion (req : KbVersionCreateRequest) (id : Nat) :
    Keyed.key (req.newVersion id) = id := rfl

inductive KbRequest (K : Type)
  | create (req : KbVersionCreateRequest)
  | fork (sourceVersionId : Option Nat)
  | patch (versionId : Nat) (status : KbStatus) (confirm force : Bool)
  | import (doc : KbDoc K)

inductive KbHttpError
  | forbidden
  | malformed
  | notFound
  | illegalStatus
  | notActive (e : KbNotActiveError)
  | noVersion
  | edit (e : KbEditError)
  | invalidFile (e : KbImportError)
  deriving DecidableEq, Repr

section
variable (env : Deployment)

def createEndpoint (db : Db K) (ctx : AccessContext) (req : KbVersionCreateRequest) : Except KbHttpError (Db K) :=
  if req.wellFormed = false then .error .malformed
  else if canWriteKb env db ctx (strip req.subject) req.grade = false then .error .forbidden
  else .ok { db with kbVersions := db.kbVersions.insert req.newVersion req.key_newVersion }

/-- The version a fork starts from: the one named, else the active one of all subjects. -/
def forkSource (db : Db K) : Option Nat → Except KbHttpError KbVersion
  | some id =>
    match db.kbVersions.get? id with
    | some src => .ok src
    | none => .error .notFound
  | none =>
    match activeKb env db.kbVersions none none with
    | .error e => .error (.notActive e)
    | .ok none => .error .noVersion
    | .ok (some src) => .ok src

def forkEndpoint (db : Db K) (ctx : AccessContext) (sourceVersionId : Option Nat) : Except KbHttpError (Db K) :=
  match forkSource env db sourceVersionId with
  | .error e => .error e
  | .ok src =>
    if canWriteKb env db ctx src.subject src.grade then .ok (forkKbVersion db src).1
    else .error .forbidden

section
variable [DecidableEq K]

/-- The version an activation replaces: the active one of the same subject, or a fallback for it. -/
def replacedBy (db : Db K) (target : KbVersion) : Except KbNotActiveError (Option KbVersion) :=
  match activeKb env db.kbVersions (some target.subject) none with
  | .error e => .error e
  | .ok active => .ok (active.filter (fun kb => decide (kb.id ≠ target.id)))

def activateEndpoint (db : Db K) (target : KbVersion) (confirm force : Bool) : Except KbHttpError (Db K) :=
  match replacedBy env db target with
  | .error e => .error (.notActive e)
  | .ok active =>
    match activateKbVersion db target active force confirm with
    | .error e => .error (.edit e)
    | .ok (versions, _) => .ok { db with kbVersions := versions }

def patchEndpoint (db : Db K) (ctx : AccessContext) (versionId : Nat) (status : KbStatus)
    (confirm force : Bool) : Except KbHttpError (Db K) :=
  match db.kbVersions.get? versionId with
  | none => .error .notFound
  | some target =>
    match status with
    | .other _ => .error .illegalStatus
    | .active =>
      if canGovernKb env db ctx target.subject target.grade then activateEndpoint env db target confirm force
      else .error .forbidden
    | status =>
      if canWriteKb env db ctx target.subject target.grade then
        .ok { db with kbVersions := setStatus db.kbVersions target.id status }
      else .error .forbidden

end

section
variable [Field K] [LinearOrder K]

def importEndpoint (db : Db K) (ctx : AccessContext) (doc : KbDoc K) : Except KbHttpError (Db K) :=
  match importKb db doc with
  | (_, .error e) => .error (.invalidFile e)
  | (after, .ok id) =>
    match after.kbVersions.get? id with
    | none => .error .notFound
    | some kb => if canWriteKb env after ctx kb.subject kb.grade then .ok after else .error .forbidden

def handle (db : Db K) (ctx : AccessContext) (req : KbRequest K) : Except KbHttpError (Db K) :=
  if passesKbEditor env db ctx = false then .error .forbidden
  else
    match req with
    | .create req => createEndpoint env db ctx req
    | .fork sourceVersionId => forkEndpoint env db ctx sourceVersionId
    | .patch versionId status confirm force => patchEndpoint env db ctx versionId status confirm force
    | .import doc => importEndpoint env db ctx doc

/-- A request that fails is rolled back. -/
def step (db : Db K) (call : AccessContext × KbRequest K) : Db K :=
  match handle env db call.1 call.2 with
  | .ok after => after
  | .error _ => db

end

end

end KnowledgeGap.Kb
