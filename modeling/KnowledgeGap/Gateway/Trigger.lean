import KnowledgeGap.Gateway.Scope
import KnowledgeGap.Protocol.SingleFlight

namespace KnowledgeGap.Gateway

open Relational Ingestion Protocol

variable {K T : Type}

/-- What the handler and the turns it starts read of a request. -/
structure TriggerReq where
  kind : String
  classId : Int
  teacherId : Option Int
  idempotencyKey : String
  message : String
  templateVersion : String
  deriving DecidableEq

/-- `teacher_id or 0` -/
def TriggerReq.teacher (req : TriggerReq) : Int := req.teacherId.getD 0

structure Receipt (K : Type) where
  threadId : Json K
  templateVersion : String

structure Answer (K : Type) where
  receipt : Receipt K
  duplicate : Bool

/-- `_thread_key` -/
def TriggerReq.threadKey (req : TriggerReq) : String := toString req.classId ++ "." ++ toString req.teacher

structure TriggerConfig (T : Type) where
  secure : Bool
  ttl : T
  budget : BudgetConfig T

/-- The checks before anything is looked up. -/
def TriggerConfig.check (env : ScopeEnv K) (cfg : TriggerConfig T) (req : TriggerReq) : Except HttpError Unit :=
  if req.kind ≠ "post_exam_analysis" then .error ⟨400, "unknown trigger kind " ++ env.repr req.kind⟩
  else if cfg.secure ∧ req.teacher = 0 then .error ⟨400, "安全模式下考后分析需要提交教师身份"⟩
  else .ok ()

/-- Where a call stands: the waits of `_start_trigger_turn`, the wait for another call's attempt, or none. -/
inductive Stage (K : Type)
  | joined
  | locking
  | bridging
  | starting (bridge : Nat)
  | resuming (bridge : Nat) (threadId : Json K)
  | turning (threadId : Json K)
  | done

structure TriggerCall (K : Type) where
  req : TriggerReq
  stage : Stage K

/-- What a reply rests on. -/
inductive Via
  | refused
  | replay
  | attempt (owner : Nat)
  deriving DecidableEq

/-- What is on record of a run, in order: the requests to the app-server, the receipts and the replies. -/
inductive Entry (K T : Type)
  | start (c : Nat) (threadKey : String)
  | turn (c : Nat) (key : String) (at_ : T) (threadId : Json K) (message : String)
  | accepted (c : Nat) (key : String) (at_ : T) (receipt : Receipt K)
  | failed (c : Nat) (key : String) (error : RpcError)
  | replied (c : Nat) (key : String) (at_ : T) (via : Via) (reply : Except RpcError (Answer K))

structure TriggerDesk (K T : Type) where
  clock : T
  recent : Dict String (T × Receipt K)
  flights : Flights String (Except RpcError (Receipt K))
  calls : Dict Nat (TriggerCall K)
  locks : Dict String Nat
  threads : Dict String (Json K)
  loaded : Dict Nat (List String)
  scopes : Scopes
  guard : BudgetGuard T
  log : List (Entry K T)

namespace TriggerDesk

def init (clock : T) (threads : Dict String (Json K)) (scopes : Scopes) : TriggerDesk K T :=
  ⟨clock, .empty, .empty, .empty, .empty, threads, .empty, scopes, .init, []⟩

variable (s : TriggerDesk K T)

def record (e : Entry K T) : TriggerDesk K T := { s with log := s.log ++ [e] }

def stand (c : Nat) (req : TriggerReq) (stage : Stage K) : TriggerDesk K T :=
  { s with calls := s.calls.set c ⟨req, stage⟩ }

/-- `async with lock` is left. -/
def unlock (c : Nat) (req : TriggerReq) : TriggerDesk K T :=
  { s with locks := s.locks.keep (fun key holder => !(key == req.threadKey && holder == c)) }

def reply (c : Nat) (req : TriggerReq) (via : Via) (reply : Except RpcError (Answer K)) : TriggerDesk K T :=
  (s.record (.replied c req.idempotencyKey s.clock via reply)).stand c req .done

/-- The attempt ends in an exception: its future is resolved with it, and nothing is cached. -/
def fail (c : Nat) (req : TriggerReq) (e : RpcError) : TriggerDesk K T :=
  ({ s with flights := s.flights.land c req.idempotencyKey (.error e) }.unlock c req |>.record
    (.failed c req.idempotencyKey e)).reply c req (.attempt c) (.error e)

def accept (c : Nat) (req : TriggerReq) (receipt : Receipt K) : TriggerDesk K T :=
  ({ s with
      recent := s.recent.set req.idempotencyKey (s.clock, receipt)
      flights := s.flights.land c req.idempotencyKey (.ok receipt) }.unlock c req |>.record
    (.accepted c req.idempotencyKey s.clock receipt)).reply c req (.attempt c) (.ok ⟨receipt, false⟩)

def isLoaded (b : Nat) (threadId : String) : Bool := (s.loaded.getD b []).contains threadId

def load (b : Nat) (threadId : String) : TriggerDesk K T :=
  { s with loaded := s.loaded.set b (threadId :: s.loaded.getD b []) }

section
variable [Sub T] [LT T] [DecidableLT T]

/-- `_trigger_replay` forgets what is past its time first. -/
def pruned (ttl : T) : TriggerDesk K T :=
  { s with recent := s.recent.keep (fun _ e => !decide (ttl < s.clock - e.1)) }

def joinedFlight (c : Nat) (req : TriggerReq) : TriggerDesk K T :=
  { s with flights := s.flights.board c req.idempotencyKey }.stand c req
    (if (s.flights.inflight.get? req.idempotencyKey).isSome then .joined else .locking)

/-- `internal_trigger`, up to its first await. -/
def arrive (env : ScopeEnv K) (cfg : TriggerConfig T) (c : Nat) (req : TriggerReq) : TriggerDesk K T :=
  match cfg.check env req with
  | .error e => s.reply c req .refused (.error (.http e))
  | .ok _ =>
    match (s.pruned cfg.ttl).recent.get? req.idempotencyKey with
    | some cached => (s.pruned cfg.ttl).reply c req .replay (.ok ⟨cached.2, true⟩)
    | none => (s.pruned cfg.ttl).joinedFlight c req

end

section
variable [Field K] [DecidableEq K] [Sub T] [LT T] [DecidableLT T] (env : ScopeEnv K) (cfg : TriggerConfig T)

/-- The thread is known to the app-server: the scope, the budget, and the turn. -/
def proceed (c : Nat) (req : TriggerReq) (threadId : Json K) (m : Moments T) : TriggerDesk K T :=
  match (s.scopes.bind req.teacher (env.str threadId) req.classId).2 with
  | .error e => { s with scopes := (s.scopes.bind req.teacher (env.str threadId) req.classId).1 }.fail c req e
  | .ok _ =>
    match (checkTurnStart cfg.budget s.guard (env.str threadId) m).2 with
    | .error e =>
      { s with
        scopes := (s.scopes.bind req.teacher (env.str threadId) req.classId).1
        guard := (checkTurnStart cfg.budget s.guard (env.str threadId) m).1 }.fail c req (.budget e)
    | .ok _ =>
      ({ s with
        scopes := (s.scopes.bind req.teacher (env.str threadId) req.classId).1
        guard := (checkTurnStart cfg.budget s.guard (env.str threadId) m).1 }.record
          (.turn c req.idempotencyKey s.clock threadId req.message)).stand c req (.turning threadId)

/-- The stored thread of the request, where there is one that counts. -/
def stored (threadKey : String) : Option (Json K) := (s.threads.get? threadKey).filter Ingestion.truthy

/-- The bridge is there: the stored thread is used, resumed, or a new one started. -/
def bridged (c : Nat) (req : TriggerReq) (b : Nat) (m : Moments T) : TriggerDesk K T :=
  match s.stored req.threadKey with
  | none => (s.record (.start c req.threadKey)).stand c req (.starting b)
  | some threadId =>
    if s.isLoaded b (env.str threadId) then s.proceed env cfg c req threadId m
    else s.stand c req (.resuming b threadId)

end

def typeName : Json K → String
  | .null => "NoneType"
  | .bool _ => "bool"
  | .int _ => "int"
  | .float _ => "float"
  | .str _ => "str"
  | .arr _ => "list"
  | .obj _ => "dict"

section
variable [Field K] [DecidableEq K]

/-- `(value or {}).get(name)` -/
def getOf (value : Json K) (name : String) : Except RpcError (Json K) :=
  if Ingestion.truthy value then
    match value with
    | .obj fields => .ok (field fields name)
    | other => .error (.failed ("'" ++ typeName other ++ "' object has no attribute 'get'"))
  else .ok .null

def startedThread (result : Json K) : Except RpcError (Json K) :=
  ((getOf result "thread").bind (getOf · "id")).bind fun threadId =>
    if Ingestion.truthy threadId then .ok threadId else .error (.http ⟨502, "thread/start returned no thread id"⟩)

end

/-- An await of an attempt raises: the call was cancelled, or what it waited for failed. -/
inductive Fault
  | cancelled
  | raised (error : RpcError)

inductive Event (K T : Type)
  | tick (now : T)
  | arrive (c : Nat) (req : TriggerReq)
  | lock (c : Nat)
  | bridged (c : Nat) (bridge : Nat) (m : Moments T)
  | answered (c : Nat) (result : Json K) (m : Moments T)
  | fault (c : Nat) (fault : Fault)
  | resume (c : Nat)
  | leave (c : Nat)
  | bind (teacherId : Int) (threadId : String) (classId : Int)
  | spend (call : Call T)

section
variable [Field K] [DecidableEq K] [LinearOrder T] [Sub T] (env : ScopeEnv K) (cfg : TriggerConfig T)

def atCall (c : Nat) (go : TriggerCall K → TriggerDesk K T) : TriggerDesk K T :=
  match s.calls.get? c with
  | none => s
  | some call => go call

def lockStep (c : Nat) (call : TriggerCall K) : TriggerDesk K T :=
  match call.stage with
  | .locking =>
    match s.locks.get? call.req.threadKey with
    | none => { s with locks := s.locks.set call.req.threadKey c }.stand c call.req .bridging
    | some _ => s
  | _ => s

def bridgedStep (c b : Nat) (m : Moments T) (call : TriggerCall K) : TriggerDesk K T :=
  match call.stage with
  | .bridging => s.bridged env cfg c call.req b m
  | _ => s

/-- The mapping is read anew and written with the thread added. -/
def newThread (c : Nat) (req : TriggerReq) (b : Nat) (threadId : Json K) (m : Moments T) : TriggerDesk K T :=
  ({ s with threads := s.threads.set req.threadKey threadId }.load b (env.str threadId)).proceed env cfg c req threadId m

def answeredStep (c : Nat) (result : Json K) (m : Moments T) (call : TriggerCall K) : TriggerDesk K T :=
  match call.stage with
  | .starting b =>
    match startedThread result with
    | .error e => s.fail c call.req e
    | .ok threadId => s.newThread env cfg c call.req b threadId m
  | .resuming b threadId => (s.load b (env.str threadId)).proceed env cfg c call.req threadId m
  | .turning threadId => s.accept c call.req ⟨threadId, call.req.templateVersion⟩
  | _ => s

/-- The handler of `turn/start` has its own error for what is no cancellation. -/
def faultError (stage : Stage K) : Fault → RpcError
  | .cancelled => .failed "CancelledError"
  | .raised e =>
    match stage with
    | .turning _ => .http ⟨502, "turn/start failed"⟩
    | _ => e

def faultStep (c : Nat) (fault : Fault) (call : TriggerCall K) : TriggerDesk K T :=
  match call.stage with
  | .joined | .done => s
  | stage => s.fail c call.req (faultError stage fault)

/-- A call that waited for another's attempt goes on. -/
def resumeStep (c : Nat) (call : TriggerCall K) : TriggerDesk K T :=
  match call.stage with
  | .joined =>
    match s.flights.seats.get? c with
    | none => s
    | some seat =>
      match s.flights.futures.get? seat.flight with
      | none => s
      | some outcome =>
        { s with flights := s.flights.take c seat.key seat.flight outcome }.reply c call.req (.attempt seat.flight)
          (outcome.map (fun receipt => ⟨receipt, true⟩))
  | _ => s

def leaveStep (c : Nat) (call : TriggerCall K) : TriggerDesk K T :=
  match call.stage with
  | .joined =>
    match s.flights.seats.get? c with
    | none => s
    | some seat => { s with flights := s.flights.leave c seat.key seat.flight }.stand c call.req .done
  | _ => s

end

section
variable [Field K] [DecidableEq K] [LinearOrder T] [Sub T]

def step (env : ScopeEnv K) (cfg : TriggerConfig T) (s : TriggerDesk K T) : Event K T → TriggerDesk K T
  | .tick now => { s with clock := max s.clock now }
  | .arrive c req => if (s.calls.get? c).isSome then s else s.arrive env cfg c req
  | .lock c => s.atCall c (s.lockStep c)
  | .bridged c b m => s.atCall c (s.bridgedStep env cfg c b m)
  | .answered c result m => s.atCall c (s.answeredStep env cfg c result m)
  | .fault c fault => s.atCall c (s.faultStep c fault)
  | .resume c => s.atCall c (s.resumeStep c)
  | .leave c => s.atCall c (s.leaveStep c)
  | .bind teacherId threadId classId => { s with scopes := (s.scopes.bind teacherId threadId classId).1 }
  | .spend call => { s with guard := s.guard.call cfg.budget call }

end

end TriggerDesk

end KnowledgeGap.Gateway
