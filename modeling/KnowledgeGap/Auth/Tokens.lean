import KnowledgeGap.Data.Integer

namespace KnowledgeGap.Auth

variable {K : Type}

inductive TokenError
  /-- `AuthError` of the backend, `ValueError` of the gateway. -/
  | invalid (text : String)
  | typeError (text : String)
  deriving DecidableEq

/-- `split(".")` -/
def pieces (s : String) : List String := (s.toList.splitOn '.').map String.ofList

/-- `hmac.compare_digest` of two strings. -/
def compareDigest (expect sig : String) : Except TokenError Bool :=
  if expect.toList.all (fun c => decide (c.toNat < 128)) && sig.toList.all (fun c => decide (c.toNat < 128)) then
    .ok (decide (expect = sig))
  else .error (.typeError "comparing strings with non-ASCII characters is not supported")

/-- The two services share the key derivation: `hmac.new(secret, body, sha256).hexdigest()`. -/
abbrev Hmac := String → String → String

structure Deployment where
  /-- `SC_AUTH_SECRET`, and what the backend draws where there is none. -/
  configured : String
  drawn : String

/-- `_secret` -/
def Deployment.secret (d : Deployment) : String := if d.configured = "" then d.drawn else d.configured

/-! Signing. -/

def tokenBody (kind uid exp : String) : String := kind ++ "." ++ uid ++ "." ++ exp

structure Issue where
  kind : String
  uid : Int
  exp : Int
  deriving DecidableEq

/-- `f"{kind}.{uid}.{exp}"` -/
def Issue.body (i : Issue) : Option String :=
  (writeInt i.uid).bind fun uid => (writeInt i.exp).map fun exp => tokenBody i.kind uid exp

def Issue.token (hmac : Hmac) (secret : String) (i : Issue) : Option String :=
  i.body.map fun body => body ++ "." ++ hmac secret body

def schoolTokenTtl : Int := 7 * 24 * 3600

/-- A call of a signer, with `int(time.time())` as it found it. -/
inductive Signing
  | sign (kind : String) (uid ttl : Int) (seconds : Int)
  | signSchoolToken (teacherId : Int) (seconds : Int)
  deriving DecidableEq

def Signing.issue : Signing → Issue
  | .sign kind uid ttl seconds => ⟨kind, uid, seconds + ttl⟩
  | .signSchoolToken teacherId seconds => ⟨"t", teacherId, seconds + schoolTokenTtl⟩

/-! Verifying. -/

section
variable [IntCast K] [LT K] [DecidableLT K] (t : Characters) (hmac : Hmac) (d : Deployment) (now : K)

/-- What both verifiers do once a token is taken apart. -/
def verifySigned (secret body uidRaw expRaw sig : String) : Except TokenError Int :=
  (compareDigest (hmac secret body) sig).bind fun same =>
    if same then
      match t.readInt uidRaw, t.readInt expRaw with
      | some uid, some exp => if (exp : K) < now then .error (.invalid "token 已过期") else .ok uid
      | _, _ => .error (.invalid "token 格式非法")
    else .error (.invalid "token 无效")

/-- `_parse_token` -/
def parseToken (token : String) : Except TokenError (String × Int) :=
  match pieces token with
  | [kind, uidRaw, expRaw, sig] =>
    if kind = "t" ∨ kind = "s" then
      (verifySigned t hmac now d.secret (tokenBody kind uidRaw expRaw) uidRaw expRaw sig).map (kind, ·)
    else .error (.invalid "token 格式非法")
  | [uidRaw, expRaw, sig] =>
    (verifySigned t hmac now d.secret (uidRaw ++ "." ++ expRaw) uidRaw expRaw sig).map ("t", ·)
  | _ => .error (.invalid "token 格式非法")

def verifyPrincipalToken (token : String) : Except TokenError (String × Int) := parseToken t hmac d now token

def verifyToken (token : String) : Except TokenError Int :=
  (parseToken t hmac d now token).bind fun who =>
    if who.1 = "t" then .ok who.2 else .error (.invalid "非教师 token")

/-- `_verify_backend_token` of the gateway. -/
def verifyBackendToken (token : String) : Except TokenError Int :=
  if d.configured = "" then .error (.invalid "SC_AUTH_SECRET 未配置，无法校验后端 token")
  else
    match pieces token with
    | [kind, uidRaw, expRaw, sig] =>
      if kind = "t" then verifySigned t hmac now d.configured (tokenBody kind uidRaw expRaw) uidRaw expRaw sig
      else .error (.invalid "非教师 token")
    | [uidRaw, expRaw, sig] => verifySigned t hmac now d.configured (uidRaw ++ "." ++ expRaw) uidRaw expRaw sig
    | _ => .error (.invalid "token 格式非法")

end

end KnowledgeGap.Auth
