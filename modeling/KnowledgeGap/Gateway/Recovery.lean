import KnowledgeGap.Gateway.Triggering

namespace KnowledgeGap.Gateway

open Relational Ingestion Protocol

variable {K T : Type}

/-! Retention. -/

/-- A rollout file: the thread whose memory it holds, and when it was last written. -/
structure Rollout (T : Type) where
  threadId : String
  mtime : T
  deriving DecidableEq

/-- `clean_rollouts`; with no days set it deletes nothing. -/
def cleanRollouts [Sub T] [LT T] [DecidableLT T] (maxAge : Option T) (now : T) (rollouts : List (Rollout T)) : List (Rollout T) :=
  match maxAge with
  | none => rollouts
  | some age => rollouts.filter (fun r => !decide (r.mtime < now - age))

/-- The runtime takes a thread up again from its rollout. -/
def resumesFrom (rollouts : List (Rollout T)) (threadId : String) : Bool := rollouts.any (fun r => r.threadId == threadId)

/-- A thread is lost once all that was written of it is older than the retention. -/
theorem lost_iff [Sub T] [LT T] [DecidableLT T] {age now : T} {rollouts : List (Rollout T)} {threadId : String} :
    resumesFrom (cleanRollouts (some age) now rollouts) threadId = false ↔
      ∀ r ∈ rollouts, r.threadId = threadId → r.mtime < now - age := by
  rw [resumesFrom, cleanRollouts, List.any_eq_false]
  constructor
  · intro none r listed same
    by_contra recent
    exact none r (List.mem_filter.mpr ⟨listed, by simp [recent]⟩) (by simp [same])
  · intro old r listed same
    obtain ⟨listed, recent⟩ := List.mem_filter.mp listed
    have early := old r listed (by simpa using same)
    simp [early] at recent

/-! The app-server that a trigger meets. -/

/-- What the app-server answers: to `thread/start`, and whether it takes a thread up again or runs a turn on it. -/
structure Runtime (K : Type) where
  newThread : Json K
  resumes : String → Bool
  runs : String → Bool
  unknown : String

namespace TriggerDesk

/-- The call that an event is about. -/
def Event.caller : Event K T → Option Nat
  | .arrive c _ | .lock c | .bridged c _ _ | .answered c _ _ | .fault c _ | .resume c | .leave c => some c
  | _ => none

/-- The call that an event brings the end of a wait for the app-server. -/
def Event.answers : Event K T → Option Nat
  | .answered c _ _ | .fault c _ => some c
  | _ => none

section
variable [Field K] [DecidableEq K] [LinearOrder T] [Sub T] (env : ScopeEnv K) (cfg : TriggerConfig T) (r : Runtime K) (s : TriggerDesk K T)

/-- The answer to what a call waits for. -/
def answer (c : Nat) (m : Moments T) : Stage K → Option (Event K T)
  | .starting _ => some (.answered c r.newThread m)
  | .resuming _ threadId =>
    some (if r.resumes (env.str threadId) then .answered c .null m else .fault c (.raised (.failed r.unknown)))
  | .turning threadId =>
    some (if r.runs (env.str threadId) then .answered c .null m else .fault c (.raised (.failed r.unknown)))
  | _ => none

/-- What comes back to the call is what the app-server answers it. -/
def Heeds (c : Nat) (s : TriggerDesk K T) (e : Event K T) : Prop :=
  e.answers = some c → ∀ call, s.calls.get? c = some call → ∃ m, answer env r c m call.stage = some e

/-- A request leaves the threads of other classes and teachers alone. -/
def Apart (s : TriggerDesk K T) (e : Event K T) : Prop :=
  ∀ c call, e.caller = some c → s.calls.get? c = some call → ∀ threadKey, threadKey ≠ call.req.threadKey →
    (s.step env cfg e).threads.get? threadKey = s.threads.get? threadKey

/-- The request is accepted on a thread that the runtime runs, to which the mapping and the class binding then refer. -/
def Recovered (t : TriggerDesk K T) (req : TriggerReq) (reply : Except RpcError (Answer K)) : Prop :=
  ∃ answer, reply = .ok answer ∧ r.runs (env.str answer.receipt.threadId) = true ∧
    t.threads.get? req.threadKey = some answer.receipt.threadId ∧
    t.scopes.lookup req.teacher (env.str answer.receipt.threadId) = some req.classId

/-- A turn on the thread is allowed. -/
structure Permitted (req : TriggerReq) (threadId : Json K) (m : Moments T) : Prop where
  bound : (s.scopes.bind req.teacher (env.str threadId) req.classId).2 = .ok ()
  affordable : ∃ allowance, (checkTurnStart cfg.budget s.guard (env.str threadId) m).2 = .ok allowance

/-- What a reply rests on: a refusal is an error, a replay is a receipt again, and every other is the outcome of an
    attempt. -/
def Rests (s : TriggerDesk K T) : Entry K T → Prop
  | .replied _ _ _ .refused reply => ∃ e, reply = .error e
  | .replied _ k _ .replay reply => ∃ c t receipt, .accepted c k t receipt ∈ s.log ∧ reply = .ok ⟨receipt, true⟩
  | .replied _ _ _ (.attempt c) reply => ∃ outcome duplicate, s.flights.futures.get? c = some outcome ∧
      reply = outcome.map (fun receipt => ⟨receipt, duplicate⟩)
  | _ => True

end

/-! The steps of one call. -/

variable {s t : TriggerDesk K T} {c o : Nat} {req : TriggerReq}

/-- What a step of a call leaves alone. -/
structure Touches (s t : TriggerDesk K T) (c : Nat) (req : TriggerReq) : Prop where
  calls : ∃ stage, t.calls = s.calls.set c ⟨req, stage⟩
  scopes : ∀ key held, s.scopes.get? key = some held → t.scopes.get? key = some held
  threads : ∀ threadKey, threadKey ≠ req.threadKey → t.threads.get? threadKey = s.threads.get? threadKey

theorem Touches.since {s' : TriggerDesk K T} (touches : Touches s' t c req) (calls : s'.calls = s.calls)
    (scopes : ∀ key held, s.scopes.get? key = some held → s'.scopes.get? key = some held)
    (threads : ∀ threadKey, threadKey ≠ req.threadKey → s'.threads.get? threadKey = s.threads.get? threadKey) :
    Touches s t c req where
  calls := by
    obtain ⟨stage, moved⟩ := touches.calls
    exact ⟨stage, calls ▸ moved⟩
  scopes key held bound := touches.scopes key held (scopes key held bound)
  threads threadKey other := (touches.threads threadKey other).trans (threads threadKey other)

theorem Touches.of_same (calls : ∃ stage, t.calls = s.calls.set c ⟨req, stage⟩) (scopes : t.scopes = s.scopes)
    (threads : t.threads = s.threads) : Touches s t c req where
  calls := calls
  scopes key held bound := by rw [scopes, bound]
  threads threadKey _ := by rw [threads]

section
variable [Field K] [DecidableEq K] [LinearOrder T] [Sub T] {env : ScopeEnv K} {cfg : TriggerConfig T} {r : Runtime K} {b : Nat}
  {m : Moments T} {stage : Stage K} {e : Event K T}

omit [Field K] [DecidableEq K] in
theorem arrive_touches : Touches s (s.arrive env cfg c req) c req := by
  unfold TriggerDesk.arrive
  split
  · exact .of_same ⟨_, rfl⟩ rfl rfl
  · split
    · exact .of_same ⟨_, rfl⟩ rfl rfl
    · exact .of_same ⟨_, rfl⟩ rfl rfl

omit [Field K] [DecidableEq K] in
theorem proceed_touches (threadId : Json K) : Touches s (s.proceed env cfg c req threadId m) c req := by
  have bound : ∀ key held, s.scopes.get? key = some held →
      (s.scopes.bind req.teacher (env.str threadId) req.classId).1.get? key = some held :=
    fun _ _ known => bind_kept s.scopes req.teacher (env.str threadId) req.classId known
  unfold TriggerDesk.proceed
  split
  · exact ⟨⟨_, rfl⟩, bound, fun _ _ => rfl⟩
  · split
    · exact ⟨⟨_, rfl⟩, bound, fun _ _ => rfl⟩
    · exact ⟨⟨_, rfl⟩, bound, fun _ _ => rfl⟩

theorem bridged_touches : Touches s (s.bridged env cfg c req b m) c req := by
  unfold TriggerDesk.bridged
  split
  · exact .of_same ⟨_, rfl⟩ rfl rfl
  · split
    · exact proceed_touches _
    · exact .of_same ⟨_, rfl⟩ rfl rfl

theorem answered_touches (result : Json K) : s.answeredStep env cfg c result m ⟨req, stage⟩ = s ∨
    Touches s (s.answeredStep env cfg c result m ⟨req, stage⟩) c req := by
  unfold TriggerDesk.answeredStep
  cases stage with
  | starting b =>
    dsimp only
    split
    · exact .inr (.of_same ⟨_, rfl⟩ rfl rfl)
    · refine .inr ((proceed_touches _).since rfl (fun _ _ bound => bound) ?_)
      intro threadKey other
      exact (Dict.get?_set _ _ _ _).trans (if_neg other)
  | resuming b threadId => exact .inr ((proceed_touches threadId).since rfl (fun _ _ bound => bound) (fun _ _ => rfl))
  | turning threadId => exact .inr (.of_same ⟨_, rfl⟩ rfl rfl)
  | joined => exact .inl rfl
  | locking => exact .inl rfl
  | bridging => exact .inl rfl
  | done => exact .inl rfl

variable (s env cfg) in
/-- A step about a call moves that call, or does nothing. -/
theorem step_touches (about : e.caller = some c) : s.step env cfg e = s ∨ ∃ req, Touches s (s.step env cfg e) c req ∧
    ∀ call, s.calls.get? c = some call → call.req = req := by
  have at_call : ∀ go : TriggerCall K → TriggerDesk K T, (∀ call, go call = s ∨ Touches s (go call) c call.req) →
      s.atCall c go = s ∨ ∃ req, Touches s (s.atCall c go) c req ∧ ∀ call, s.calls.get? c = some call → call.req = req := by
    intro go all
    unfold TriggerDesk.atCall
    cases found : s.calls.get? c with
    | none => exact .inl rfl
    | some call =>
      rcases all call with still | touches
      · exact .inl still
      · exact .inr ⟨call.req, touches, fun other same => by rw [Option.some.inj same]⟩
  cases e with
  | tick now => cases about
  | bind teacherId threadId classId => cases about
  | spend call => cases about
  | arrive d req =>
    cases about
    dsimp only [TriggerDesk.step]
    cases found : s.calls.get? c with
    | some call => exact .inl rfl
    | none => exact .inr ⟨req, arrive_touches, nofun⟩
  | lock d =>
    cases about
    apply at_call
    intro call
    unfold TriggerDesk.lockStep
    split
    · split
      · exact .inr (.of_same ⟨_, rfl⟩ rfl rfl)
      · exact .inl rfl
    · exact .inl rfl
  | bridged d b m =>
    cases about
    apply at_call
    intro call
    unfold TriggerDesk.bridgedStep
    split
    · exact .inr bridged_touches
    · exact .inl rfl
  | answered d result m =>
    cases about
    apply at_call
    exact fun call => answered_touches result
  | fault d fault =>
    cases about
    apply at_call
    intro call
    unfold TriggerDesk.faultStep
    split
    · exact .inl rfl
    · exact .inl rfl
    · exact .inr (.of_same ⟨_, rfl⟩ rfl rfl)
  | resume d =>
    cases about
    apply at_call
    intro call
    unfold TriggerDesk.resumeStep
    split
    · split
      · exact .inl rfl
      · split
        · exact .inl rfl
        · exact .inr (.of_same ⟨_, rfl⟩ rfl rfl)
    · exact .inl rfl
  | leave d =>
    cases about
    apply at_call
    intro call
    unfold TriggerDesk.leaveStep
    split
    · split
      · exact .inl rfl
      · exact .inr (.of_same ⟨_, rfl⟩ rfl rfl)
    · exact .inl rfl

theorem step_aside (nobody : e.caller = none) : (s.step env cfg e).calls = s.calls ∧
    (s.step env cfg e).threads = s.threads ∧
      ∀ key held, s.scopes.get? key = some held → (s.step env cfg e).scopes.get? key = some held := by
  cases e with
  | tick now => exact ⟨rfl, rfl, fun _ _ bound => bound⟩
  | bind teacherId threadId classId =>
    exact ⟨rfl, rfl, fun _ _ known => bind_kept s.scopes teacherId threadId classId known⟩
  | spend call => exact ⟨rfl, rfl, fun _ _ bound => bound⟩
  | _ => cases nobody

theorem step_elsewhere (other : e.caller ≠ some o) : (s.step env cfg e).calls.get? o = s.calls.get? o := by
  cases about : e.caller with
  | none => rw [(step_aside about).1]
  | some c =>
    have apart : o ≠ c := by
      intro same
      rw [about, same] at other
      exact other rfl
    rcases step_touches s env cfg about with still | ⟨req, touches, _⟩
    · rw [still]
    · obtain ⟨stage, moved⟩ := touches.calls
      rw [moved, Dict.get?_set, if_neg apart]

/-- A class binding stays. -/
theorem lookup_step {teacherId classId : Int} {threadId : String} (e : Event K T)
    (bound : s.scopes.lookup teacherId threadId = some classId) :
    (s.step env cfg e).scopes.lookup teacherId threadId = some classId := by
  cases about : e.caller with
  | none => exact (step_aside about).2.2 _ _ bound
  | some c =>
    rcases step_touches s env cfg about with still | ⟨req, touches, _⟩
    · rw [still, bound]
    · exact touches.scopes _ _ bound

theorem step_apart (s : TriggerDesk K T) (e : Event K T) : Apart env cfg s e := by
  intro c call about found threadKey other
  rcases step_touches s env cfg about with still | ⟨req, touches, own⟩
  · rw [still]
  · rw [own call found] at other
    exact touches.threads threadKey other

/-- A call that waits for the app-server waits until it is answered. -/
theorem stage_kept (found : s.calls.get? o = some ⟨req, stage⟩) (waits : (answer env r o m stage).isSome)
    (other : e.answers ≠ some o) : (s.step env cfg e).calls.get? o = some ⟨req, stage⟩ := by
  by_cases about : e.caller = some o
  · have still : s.step env cfg e = s := by
      cases e with
      | arrive d req' =>
        cases about
        dsimp only [TriggerDesk.step]
        rw [found]
        rfl
      | lock d =>
        cases about
        rw [TriggerDesk.step, atCall, found]
        cases stage <;> first | rfl | cases waits
      | bridged d b' m' =>
        cases about
        rw [TriggerDesk.step, atCall, found]
        cases stage <;> first | rfl | cases waits
      | resume d =>
        cases about
        rw [TriggerDesk.step, atCall, found]
        cases stage <;> first | rfl | cases waits
      | leave d =>
        cases about
        rw [TriggerDesk.step, atCall, found]
        cases stage <;> first | rfl | cases waits
      | answered d result m' => exact absurd about other
      | fault d fault => exact absurd about other
      | _ => cases about
    rw [still, found]
  · rw [step_elsewhere about, found]

end

/-! What replies rest on. -/

/-- The record goes on, what an attempt came to stays, and what is new on record rests on it. -/
structure Adds (s t : TriggerDesk K T) : Prop where
  record : ∃ tail, t.log = s.log ++ tail ∧ ∀ e ∈ tail, Rests t e
  futures : ∀ c outcome, s.flights.futures.get? c = some outcome → t.flights.futures.get? c = some outcome

theorem Adds.of_same (log : t.log = s.log) (futures : t.flights.futures = s.flights.futures) : Adds s t where
  record := ⟨[], by rw [log, List.append_nil], by simp⟩
  futures c outcome known := by rw [futures, known]

theorem Adds.since {s' : TriggerDesk K T} (adds : Adds s' t) (log : s'.log = s.log)
    (futures : s'.flights.futures = s.flights.futures) : Adds s t where
  record := log ▸ adds.record
  futures c outcome known := adds.futures c outcome (by rw [futures, known])

theorem Rests.kept {e : Entry K T} (adds : Adds s t) (rests : Rests s e) : Rests t e := by
  obtain ⟨tail, log, _⟩ := adds.record
  unfold Rests at rests ⊢
  split
  · exact rests
  · obtain ⟨c, at_, receipt, listed, same⟩ := rests
    exact ⟨c, at_, receipt, log ▸ List.mem_append_left _ listed, same⟩
  · obtain ⟨outcome, duplicate, known, same⟩ := rests
    exact ⟨outcome, duplicate, adds.futures _ _ known, same⟩
  · trivial

def Grounded (s : TriggerDesk K T) : Prop := ∀ e ∈ s.log, Rests s e

theorem Grounded.adds (grounded : s.Grounded) (adds : Adds s t) : t.Grounded := by
  obtain ⟨tail, log, rests⟩ := adds.record
  intro e listed
  rw [log] at listed
  rcases List.mem_append.mp listed with old | new
  · exact (grounded e old).kept adds
  · exact rests e new

section
variable [AddCommGroup T] [LinearOrder T] {ttl : T}

/-- What a call lands with is what its attempt comes to. -/
theorem land_futures (sound : s.Sound ttl) (flies : s.flights.Flies c req.idempotencyKey)
    (w : Except RpcError (Receipt K)) :
    (∀ d outcome, s.flights.futures.get? d = some outcome →
      (s.flights.land c req.idempotencyKey w).futures.get? d = some outcome) ∧
      (s.flights.land c req.idempotencyKey w).futures.get? c = some w := by
  have open_ := (sound.flights.flying c _ flies).2
  refine ⟨?_, (Dict.get?_set _ _ _ _).trans (if_pos rfl)⟩
  intro d outcome known
  have other : d ≠ c := by
    intro same
    rw [same, open_] at known
    cases known
  exact (Dict.get?_set _ _ _ _).trans ((if_neg other).trans known)

theorem fail_adds (sound : s.Sound ttl) (flies : s.flights.Flies c req.idempotencyKey) (e : RpcError) :
    Adds s (s.fail c req e) := by
  have landed := land_futures sound flies (.error e)
  refine ⟨⟨[_, _], List.append_assoc _ _ _, ?_⟩, landed.1⟩
  simp only [List.mem_cons, List.not_mem_nil, or_false, forall_eq_or_imp, forall_eq]
  exact ⟨trivial, _, false, landed.2, rfl⟩

theorem accept_adds (sound : s.Sound ttl) (flies : s.flights.Flies c req.idempotencyKey) (receipt : Receipt K) :
    Adds s (s.accept c req receipt) := by
  have landed := land_futures sound flies (.ok receipt)
  refine ⟨⟨[_, _], List.append_assoc _ _ _, ?_⟩, landed.1⟩
  simp only [List.mem_cons, List.not_mem_nil, or_false, forall_eq_or_imp, forall_eq]
  exact ⟨trivial, _, false, landed.2, rfl⟩

variable {env : ScopeEnv K} {cfg : TriggerConfig T}

theorem arrive_adds (sound : s.Sound cfg.ttl) : Adds s (s.arrive env cfg c req) := by
  unfold TriggerDesk.arrive
  split
  · refine ⟨⟨[_], rfl, ?_⟩, fun _ _ known => known⟩
    simp only [List.mem_singleton, forall_eq]
    exact ⟨_, rfl⟩
  · split
    · rename_i cached found
      obtain ⟨d, listed⟩ := sound.pruned.cached _ _ _ found
      refine ⟨⟨[_], rfl, ?_⟩, fun _ _ known => known⟩
      simp only [List.mem_singleton, forall_eq]
      exact ⟨d, cached.1, cached.2, List.mem_append_left _ listed, rfl⟩
    · exact Adds.of_same rfl Flights.board_futures

theorem proceed_adds (sound : s.Sound cfg.ttl) (flies : s.flights.Flies c req.idempotencyKey) (threadId : Json K)
    (m : Moments T) : Adds s (s.proceed env cfg c req threadId m) := by
  have aside := fun guard => sound.aside s.threads s.loaded (s.scopes.bind req.teacher (env.str threadId) req.classId).1 guard
  unfold TriggerDesk.proceed
  split
  · exact (fail_adds (aside s.guard) flies _).since rfl rfl
  · split
    · exact (fail_adds (aside _) flies _).since rfl rfl
    · refine ⟨⟨[_], rfl, ?_⟩, fun _ _ known => known⟩
      simp only [List.mem_singleton, forall_eq]
      trivial

variable [Field K] [DecidableEq K] {e : Event K T}

theorem change_adds (sound : s.Sound cfg.ttl) (change : Change env cfg s e t) : Adds s t := by
  cases change with
  | same => exact Adds.of_same rfl rfl
  | tick _ now => exact Adds.of_same rfl rfl
  | arrive c req new => exact arrive_adds sound
  | lock _ c req waits free => exact Adds.of_same rfl rfl
  | start _ c req b waits absent =>
    refine ⟨⟨[_], rfl, ?_⟩, fun _ _ known => known⟩
    simp only [List.mem_singleton, forall_eq]
    trivial
  | ask _ c req b threadId waits => exact Adds.of_same rfl rfl
  | use _ c req stage threadId loaded m waits critical =>
    exact (proceed_adds (sound.aside s.threads loaded s.scopes s.guard)
      (sound.trying c req stage waits critical.trying) threadId m).since rfl rfl
  | store _ c req b threadId loaded m waits real =>
    exact (proceed_adds (sound.aside (s.threads.set req.threadKey threadId) loaded s.scopes s.guard)
      (sound.trying c req _ waits trivial) threadId m).since rfl rfl
  | accept _ c req stage receipt waits trying => exact accept_adds sound (sound.trying c req stage waits trying) receipt
  | fail _ c req stage error waits trying => exact fail_adds sound (sound.trying c req stage waits trying) error
  | resumed _ c req seat outcome waits seated landed =>
    refine ⟨⟨[_], rfl, ?_⟩, fun _ _ known => known⟩
    simp only [List.mem_singleton, forall_eq]
    exact ⟨outcome, true, landed, rfl⟩
  | left _ c req seat waits seated => exact Adds.of_same rfl rfl
  | aside _ scopes guard => exact Adds.of_same rfl rfl

variable [IsOrderedAddMonoid T]

omit [IsOrderedAddMonoid T] in
theorem step_adds (orderly : s.Orderly cfg.ttl) (e : Event K T) : Adds s (s.step env cfg e) :=
  change_adds orderly.1 (step_change env cfg s e)

/-- What holds of the desk between any two events. -/
theorem run_sound (env : ScopeEnv K) (cfg : TriggerConfig T) (clock : T) (threads : Dict String (Json K)) (scopes : Scopes)
    (events : List (Event K T)) : (run (TriggerDesk.step env cfg) (init clock threads scopes) events).Orderly cfg.ttl ∧
      (run (TriggerDesk.step env cfg) (init clock threads scopes) events).Grounded := by
  have preserve : ∀ (s : TriggerDesk K T) (e : Event K T), s.Orderly cfg.ttl ∧ s.Grounded →
      (s.step env cfg e).Orderly cfg.ttl ∧ (s.step env cfg e).Grounded :=
    fun s e held => ⟨held.1.step e, held.2.adds (step_adds held.1 e)⟩
  exact run_invariant preserve events _ ⟨init_orderly cfg.ttl clock threads scopes, nofun⟩

/-- What an attempt came to stays. -/
theorem outcome_kept (orderly : s.Orderly cfg.ttl) {outcome : Except RpcError (Receipt K)}
    (known : s.flights.futures.get? o = some outcome) (events : List (Event K T)) :
    (run (TriggerDesk.step env cfg) s events).flights.futures.get? o = some outcome := by
  have preserve : ∀ (s : TriggerDesk K T) (e : Event K T), s.Orderly cfg.ttl ∧ s.flights.futures.get? o = some outcome →
      (s.step env cfg e).Orderly cfg.ttl ∧ (s.step env cfg e).flights.futures.get? o = some outcome :=
    fun s e held => ⟨held.1.step e, (step_adds held.1 e).futures o outcome held.2⟩
  exact (run_invariant preserve events s ⟨orderly, known⟩).2

variable {r : Runtime K}

/-- Where every answer that a waiting call may get ends its attempt in one way, the attempt can only come to that. -/
theorem settles {stage : Stage K} {m : Moments T} {w outcome : Except RpcError (Receipt K)}
    (ends : ∀ u : TriggerDesk K T, u.calls.get? o = some ⟨req, stage⟩ → ∀ m e, answer env r o m stage = some e →
      (u.step env cfg e).flights.futures.get? o = some w)
    (orderly : s.Orderly cfg.ttl) (found : s.calls.get? o = some ⟨req, stage⟩)
    (waits : (answer env r o m stage).isSome) (trying : stage.Trying) {events : List (Event K T)}
    (heeds : Along (TriggerDesk.step env cfg) (Heeds env r o) s events)
    (known : (run (TriggerDesk.step env cfg) s events).flights.futures.get? o = some outcome) : outcome = w := by
  have preserve : ∀ (u : TriggerDesk K T) (e : Event K T),
      u.Orderly cfg.ttl ∧ (u.calls.get? o = some ⟨req, stage⟩ ∨ u.flights.futures.get? o = some w) → Heeds env r o u e →
        (u.step env cfg e).Orderly cfg.ttl ∧ ((u.step env cfg e).calls.get? o = some ⟨req, stage⟩ ∨
          (u.step env cfg e).flights.futures.get? o = some w) := by
    intro u e held heed
    refine ⟨held.1.step e, ?_⟩
    rcases held.2 with waiting | ended
    · by_cases mine : e.answers = some o
      · obtain ⟨m', answered⟩ := heed mine _ waiting
        exact Or.inr (ends u waiting m' e answered)
      · exact Or.inl (stage_kept waiting waits mine)
    · exact Or.inr ((step_adds held.1 e).futures o w ended)
  obtain ⟨later, standing⟩ := run_invariant_along preserve events s heeds ⟨orderly, Or.inl found⟩
  rcases standing with waiting | ended
  · have flying := later.1.flights.flying o _ (later.1.trying o req stage waiting trying)
    rw [flying.2] at known
    cases known
  · exact Option.some.inj (known.symm.trans ended)

/-! From the bridge on. -/

omit [AddCommGroup T] [IsOrderedAddMonoid T] [LinearOrder T] [Field K] [DecidableEq K] in
theorem stand_at (s : TriggerDesk K T) (c : Nat) (req : TriggerReq) (stage : Stage K) :
    (s.stand c req stage).calls.get? c = some ⟨req, stage⟩ := (stand_get s c c req stage).trans (if_pos rfl)

omit [AddCommGroup T] [IsOrderedAddMonoid T] [LinearOrder T] [Field K] [DecidableEq K] in
theorem fail_outcome (s : TriggerDesk K T) (c : Nat) (req : TriggerReq) (e : RpcError) :
    (s.fail c req e).flights.futures.get? c = some (.error e) := (Dict.get?_set _ _ _ _).trans (if_pos rfl)

omit [AddCommGroup T] [IsOrderedAddMonoid T] [LinearOrder T] [Field K] [DecidableEq K] in
theorem accept_outcome (s : TriggerDesk K T) (c : Nat) (req : TriggerReq) (receipt : Receipt K) :
    (s.accept c req receipt).flights.futures.get? c = some (.ok receipt) := (Dict.get?_set _ _ _ _).trans (if_pos rfl)

variable {b : Nat} {m : Moments T} {stage : Stage K} {v : Json K}

omit [IsOrderedAddMonoid T] in
theorem fault_at {fault : Fault} (found : s.calls.get? c = some ⟨req, stage⟩) (trying : stage.Trying) :
    s.step env cfg (.fault c fault) = s.fail c req (faultError stage fault) := by
  rw [TriggerDesk.step, atCall, found]
  cases stage <;> first | rfl | exact trying.elim

omit [IsOrderedAddMonoid T] in
theorem bridged_at (found : s.calls.get? c = some ⟨req, .bridging⟩) :
    s.step env cfg (.bridged c b m) = s.bridged env cfg c req b m := by
  rw [TriggerDesk.step, atCall, found]
  rfl

omit [IsOrderedAddMonoid T] in
/-- A stored thread that is not loaded is resumed. -/
theorem bridged_unloaded (stored : s.stored req.threadKey = some v) (unloaded : s.isLoaded b (env.str v) = false) :
    s.bridged env cfg c req b m = s.stand c req (.resuming b v) := by
  rw [TriggerDesk.bridged, stored]
  dsimp only
  rw [unloaded, if_neg Bool.false_ne_true]

omit [IsOrderedAddMonoid T] in
/-- On a loaded thread the turn is started at once. -/
theorem bridged_loaded (stored : s.stored req.threadKey = some v) (loaded : s.isLoaded b (env.str v) = true) :
    s.bridged env cfg c req b m = s.proceed env cfg c req v m := by
  rw [TriggerDesk.bridged, stored]
  dsimp only
  rw [if_pos loaded]

/-- The desk as a turn on the thread is started. -/
def turned (s : TriggerDesk K T) (env : ScopeEnv K) (cfg : TriggerConfig T) (c : Nat) (req : TriggerReq) (v : Json K) (m : Moments T) :
    TriggerDesk K T :=
  ({ s with
    scopes := (s.scopes.bind req.teacher (env.str v) req.classId).1
    guard := (checkTurnStart cfg.budget s.guard (env.str v) m).1 }.record
      (.turn c req.idempotencyKey s.clock v req.message)).stand c req (.turning v)

variable (s c req env cfg m v) in
omit [Field K] [DecidableEq K] [IsOrderedAddMonoid T] in
theorem proceed_cases : (¬ Permitted env cfg s req v m ∧
      ∃ e, (s.proceed env cfg c req v m).flights.futures.get? c = some (.error e)) ∨
    (Permitted env cfg s req v m ∧ s.proceed env cfg c req v m = s.turned env cfg c req v m) := by
  cases bound : (s.scopes.bind req.teacher (env.str v) req.classId).2 with
  | error e =>
    refine Or.inl ⟨fun permitted => ?_, e, ?_⟩
    · have ok := permitted.bound
      rw [bound] at ok
      cases ok
    · rw [proceed, bound]
      exact fail_outcome _ c req e
  | ok _ =>
    cases checked : (checkTurnStart cfg.budget s.guard (env.str v) m).2 with
    | error e =>
      refine Or.inl ⟨fun permitted => ?_, .budget e, ?_⟩
      · obtain ⟨allowance, ok⟩ := permitted.affordable
        rw [checked] at ok
        cases ok
      · rw [proceed, bound]
        dsimp only
        rw [checked]
        exact fail_outcome _ c req (.budget e)
    | ok allowance =>
      refine Or.inr ⟨⟨bound, allowance, checked⟩, ?_⟩
      rw [proceed, bound]
      dsimp only
      rw [checked]
      rfl

omit [Field K] [DecidableEq K] [LinearOrder T] [AddCommGroup T] [IsOrderedAddMonoid T] in
theorem lookup_bind {scopes : Scopes} {teacherId classId : Int} {threadId : String}
    (bound : (scopes.bind teacherId threadId classId).2 = .ok ()) :
    (scopes.bind teacherId threadId classId).1.lookup teacherId threadId = some classId := by
  unfold Scopes.bind at bound ⊢
  split
  · rename_i fits
    rw [if_pos fits] at bound
    dsimp only at bound
    split at bound
    · rename_i same
      exact same
    · cases bound
  · rename_i wide
    rw [if_neg wide] at bound
    cases bound

/-- What the attempt on a lost thread comes to, once there is a bridge: nothing where the thread has to be resumed, and
    on a loaded thread what the turn comes to. -/
theorem bridged_outcome (orderly : s.Orderly cfg.ttl) (waits : s.calls.get? o = some ⟨req, .bridging⟩)
    (stored : s.stored req.threadKey = some v) (lost : r.resumes (env.str v) = false) {rest : List (Event K T)}
    (heeds : Along (TriggerDesk.step env cfg) (Heeds env r o) (s.step env cfg (.bridged o b m)) rest)
    {outcome : Except RpcError (Receipt K)}
    (known : (run (TriggerDesk.step env cfg) (s.step env cfg (.bridged o b m)) rest).flights.futures.get? o = some outcome) :
    ((Permitted env cfg s req v m ∧ s.isLoaded b (env.str v) = true ∧ r.runs (env.str v) = true) ∧
        outcome = .ok ⟨v, req.templateVersion⟩) ∨
      (¬ (Permitted env cfg s req v m ∧ s.isLoaded b (env.str v) = true ∧ r.runs (env.str v) = true) ∧
        ∃ e, outcome = .error e) := by
  have next : (s.step env cfg (.bridged o b m)).Orderly cfg.ttl := orderly.step _
  rw [bridged_at waits] at heeds known next
  cases loaded : s.isLoaded b (env.str v) with
  | false =>
    rw [bridged_unloaded stored loaded] at heeds known next
    have found := stand_at s o req (.resuming b v)
    refine Or.inr ⟨fun all => Bool.false_ne_true all.2.1, .failed r.unknown, settles ?_ next found (m := m) rfl trivial heeds known⟩
    intro u waiting m' e answered
    rw [answer, lost, if_neg Bool.false_ne_true] at answered
    rw [← Option.some.inj answered, fault_at waiting trivial]
    exact fail_outcome u o req _
  | true =>
    rw [bridged_loaded stored loaded] at heeds known next
    rcases proceed_cases s o req env cfg m v with barred | permitted
    · obtain ⟨barred, e, failed⟩ := barred
      rw [outcome_kept next failed rest] at known
      exact Or.inr ⟨fun all => barred all.1, e, (Option.some.inj known).symm⟩
    · obtain ⟨permitted, turning⟩ := permitted
      rw [turning] at heeds known next
      have found : (s.turned env cfg o req v m).calls.get? o = some ⟨req, .turning v⟩ := stand_at _ o req _
      cases runs : r.runs (env.str v) with
      | false =>
        refine Or.inr ⟨fun all => Bool.false_ne_true all.2.2, .http ⟨502, "turn/start failed"⟩, settles ?_ next found (m := m) rfl trivial heeds known⟩
        intro u waiting m' e answered
        rw [answer, runs, if_neg Bool.false_ne_true] at answered
        rw [← Option.some.inj answered, fault_at waiting trivial]
        exact fail_outcome u o req _
      | true =>
        refine Or.inl ⟨⟨permitted, rfl, rfl⟩, settles ?_ next found (m := m) rfl trivial heeds known⟩
        intro u waiting m' e answered
        rw [answer, runs, if_pos rfl] at answered
        rw [← Option.some.inj answered, TriggerDesk.step, atCall, waiting]
        exact accept_outcome u o req _

omit [IsOrderedAddMonoid T] in
theorem lookup_run {teacherId classId : Int} {threadId : String} (events : List (Event K T))
    (bound : s.scopes.lookup teacherId threadId = some classId) :
    (run (TriggerDesk.step env cfg) s events).scopes.lookup teacherId threadId = some classId := by
  have preserve : ∀ (u : TriggerDesk K T) (e : Event K T), u.scopes.lookup teacherId threadId = some classId →
      (u.step env cfg e).scopes.lookup teacherId threadId = some classId := fun _ e bound => lookup_step e bound
  exact run_invariant preserve events s bound

omit [IsOrderedAddMonoid T] in
/-- A turn that is permitted on a loaded thread binds the thread to the class. -/
theorem bridged_binds (waits : s.calls.get? o = some ⟨req, .bridging⟩) (stored : s.stored req.threadKey = some v)
    (permitted : Permitted env cfg s req v m) (loaded : s.isLoaded b (env.str v) = true) :
    (s.step env cfg (.bridged o b m)).scopes.lookup req.teacher (env.str v) = some req.classId := by
  rw [bridged_at waits, bridged_loaded stored loaded]
  rcases proceed_cases s o req env cfg m v with barred | turning
  · exact absurd permitted barred.1
  · rw [turning.2]
    exact lookup_bind permitted.bound

theorem recovered_iff (orderly : s.Orderly cfg.ttl) (waits : s.calls.get? o = some ⟨req, .bridging⟩)
    (stored : s.stored req.threadKey = some v) (lost : r.resumes (env.str v) = false) {rest : List (Event K T)}
    (heeds : Along (TriggerDesk.step env cfg) (Heeds env r o) (s.step env cfg (.bridged o b m)) rest)
    {reply : Except RpcError (Answer K)} {key : String} {at_ : T}
    (rests : Rests (run (TriggerDesk.step env cfg) s (.bridged o b m :: rest)) (.replied c key at_ (.attempt o) reply)) :
    Recovered env r (run (TriggerDesk.step env cfg) s (.bridged o b m :: rest)) req reply ↔
      Permitted env cfg s req v m ∧ s.isLoaded b (env.str v) = true ∧ r.runs (env.str v) = true := by
  obtain ⟨outcome, duplicate, known, same⟩ := rests
  rw [same]
  rcases bridged_outcome orderly waits stored lost heeds known with accepted | failed
  · obtain ⟨all, ok⟩ := accepted
    obtain ⟨there, real⟩ := Option.filter_eq_some_iff.mp stored
    have mapped : (run (TriggerDesk.step env cfg) s (.bridged o b m :: rest)).threads.get? req.threadKey = some v :=
      ((run_stored _ orderly there).2 real).1
    have bound : (run (TriggerDesk.step env cfg) s (.bridged o b m :: rest)).scopes.lookup req.teacher (env.str v) =
        some req.classId := lookup_run rest (bridged_binds waits stored all.1 all.2.1)
    rw [ok]
    exact iff_of_true ⟨_, rfl, all.2.2, mapped, bound⟩ all
  · obtain ⟨barred, e, error⟩ := failed
    rw [error]
    refine iff_of_false ?_ barred
    intro recovered
    obtain ⟨answer, ok, _⟩ := recovered
    cases ok

/-- Whatever else goes on before and after: once a request for a lost thread has the lock of the thread and a bridge, it
    and all that have joined it are accepted exactly when the bridge has the thread loaded and the runtime runs it still. -/
theorem lost_thread_recovered_iff (env : ScopeEnv K) (cfg : TriggerConfig T) (r : Runtime K) (clock : T)
    (threads : Dict String (Json K)) (scopes : Scopes) (first rest : List (Event K T)) (o b : Nat) (m : Moments T)
    (req : TriggerReq) (v : Json K)
    (waits : (run (step env cfg) (init clock threads scopes) first).calls.get? o = some ⟨req, .bridging⟩)
    (stored : (run (step env cfg) (init clock threads scopes) first).stored req.threadKey = some v)
    (lost : r.resumes (env.str v) = false)
    (heeds : Along (step env cfg) (Heeds env r o)
      ((run (step env cfg) (init clock threads scopes) first).step env cfg (.bridged o b m)) rest) :
    (∀ c key at_ reply, .replied c key at_ (.attempt o) reply ∈
        (run (step env cfg) (init clock threads scopes) (first ++ .bridged o b m :: rest)).log →
      (Recovered env r (run (step env cfg) (init clock threads scopes) (first ++ .bridged o b m :: rest)) req reply ↔
        Permitted env cfg (run (step env cfg) (init clock threads scopes) first) req v m ∧
          (run (step env cfg) (init clock threads scopes) first).isLoaded b (env.str v) = true ∧
          r.runs (env.str v) = true)) ∧
    (∀ entry ∈ (run (step env cfg) (init clock threads scopes) (first ++ .bridged o b m :: rest)).log,
      Rests (run (step env cfg) (init clock threads scopes) (first ++ .bridged o b m :: rest)) entry) ∧
    Along (step env cfg) (Apart env cfg) (init clock threads scopes) (first ++ .bridged o b m :: rest) := by
  have grounded := (run_sound env cfg clock threads scopes (first ++ .bridged o b m :: rest)).2
  refine ⟨?_, grounded, along_of_forall (fun e _ s => step_apart s e) _⟩
  intro c key at_ reply listed
  have rests := grounded _ listed
  rw [run_append] at rests ⊢
  exact recovered_iff (run_sound env cfg clock threads scopes first).1 waits stored lost heeds rests

end

def examTrigger (examId : Nat) : TriggerReq :=
  { examRequest (some 5) with idempotencyKey := "post_exam_analysis:" ++ toString examId }

/-- The files are cleaned, and the thread was last written more than a day before. -/
def cleaned (runs : List String) : Runtime ℚ where
  newThread := .obj [("thread", .obj [("id", .str "th-2")])]
  resumes := resumesFrom (cleanRollouts (some 86400) 200000 [⟨"th-1", (0 : ℤ)⟩])
  runs := fun threadId => runs.contains threadId
  unknown := "rpc error: thread not found"

/-- Two requests for exam 8 come while one for exam 7 starts the thread of the class, and the first of them is next. -/
def behindLock : List (Event ℚ ℤ) :=
  [.arrive 0 (examTrigger 7), .lock 0, .bridged 0 9 still, .arrive 1 (examTrigger 8), .lock 1, .arrive 2 (examTrigger 8),
    .answered 0 (.obj [("thread", .obj [("id", .str "th-1")])]) still, .lock 1, .answered 0 .null still, .lock 1]

def behindLockEnd : TriggerDesk ℚ ℤ :=
  run (step plainEnv secureConfig) (init 0 .empty .empty)
    (behindLock ++ .bridged 1 9 still :: [.answered 1 .null still, .resume 2])

/-- The bridge has the thread loaded since, and both go on with it. -/
theorem lost_thread_recovered_iff_loaded :
    (cleaned ["th-1", "th-2"]).resumes "th-1" = false ∧
      Recovered plainEnv (cleaned ["th-1", "th-2"]) behindLockEnd (examTrigger 8) (.ok ⟨threadOne, false⟩) ∧
      Recovered plainEnv (cleaned ["th-1", "th-2"]) behindLockEnd (examTrigger 8) (.ok ⟨threadOne, true⟩) := by
  have heeds : Along (step plainEnv secureConfig) (Heeds plainEnv (cleaned ["th-1", "th-2"]) 1)
      ((run (step plainEnv secureConfig) (init 0 .empty .empty) behindLock).step plainEnv secureConfig (.bridged 1 9 still))
      [.answered 1 .null still, .resume 2] := by
    have turning : ((run (step plainEnv secureConfig) (init 0 .empty .empty) behindLock).step plainEnv secureConfig
        (.bridged 1 9 still)).calls.get? 1 = some ⟨examTrigger 8, .turning (.str "th-1")⟩ := rfl
    refine ⟨?_, ?_, trivial⟩
    · intro _ call found
      rw [turning] at found
      rw [← Option.some.inj found]
      exact ⟨still, rfl⟩
    · intro answers
      cases answers
  have waits : (run (step plainEnv secureConfig) (init 0 .empty .empty) behindLock).calls.get? 1 =
      some ⟨examTrigger 8, .bridging⟩ := rfl
  have stored : (run (step plainEnv secureConfig) (init 0 .empty .empty) behindLock).stored (examTrigger 8).threadKey =
      some (.str "th-1") := rfl
  have lost : (cleaned ["th-1", "th-2"]).resumes (plainEnv.str (.str "th-1")) = false := rfl
  have recovered := (lost_thread_recovered_iff plainEnv secureConfig (cleaned ["th-1", "th-2"]) 0 .empty .empty behindLock
    [.answered 1 .null still, .resume 2] 1 9 still (examTrigger 8) (.str "th-1") waits stored lost heeds).1
  have both : Entry.replied 1 (examTrigger 8).idempotencyKey 0 (.attempt 1) (.ok ⟨threadOne, false⟩) ∈ behindLockEnd.log ∧
      Entry.replied 2 (examTrigger 8).idempotencyKey 0 (.attempt 1) (.ok ⟨threadOne, true⟩) ∈ behindLockEnd.log := by
    have log : behindLockEnd.log.drop 4 =
        [.turn 1 (examTrigger 8).idempotencyKey 0 (.str "th-1") "", .accepted 1 (examTrigger 8).idempotencyKey 0 threadOne,
          .replied 1 (examTrigger 8).idempotencyKey 0 (.attempt 1) (.ok ⟨threadOne, false⟩),
          .replied 2 (examTrigger 8).idempotencyKey 0 (.attempt 1) (.ok ⟨threadOne, true⟩)] := rfl
    constructor
    · apply List.mem_of_mem_drop (i := 4)
      rw [log]
      simp
    · apply List.mem_of_mem_drop (i := 4)
      rw [log]
      simp
  exact ⟨rfl, (recovered 1 _ 0 _ both.1).mpr ⟨⟨rfl, _, rfl⟩, rfl, rfl⟩,
    (recovered 2 _ 0 _ both.2).mpr ⟨⟨rfl, _, rfl⟩, rfl, rfl⟩⟩

/-- The request comes to a bridge that has not loaded the lost thread. -/
def lostRun : TriggerDesk ℚ ℤ :=
  run (step plainEnv secureConfig) (init 0 (.ofList [("3.5", .str "th-1")]) .empty)
    [.arrive 0 (examTrigger 7), .lock 0, .bridged 0 9 still, .fault 0 (.raised (.failed "rpc error: thread not found"))]

/-- A new thread could be started, and the runtime would run it, but the request fails. -/
theorem lost_thread_counterexample :
    ((cleaned ["th-2"]).resumes "th-1" = false ∧ startedThread (cleaned ["th-2"]).newThread = .ok (.str "th-2") ∧
      (cleaned ["th-2"]).runs "th-2" = true) ∧
    lostRun.log = [.failed 0 "post_exam_analysis:7" (.failed "rpc error: thread not found"),
      .replied 0 "post_exam_analysis:7" 0 (.attempt 0) (.error (.failed "rpc error: thread not found"))] ∧
    ¬ Recovered plainEnv (cleaned ["th-2"]) lostRun (examTrigger 7) (.error (.failed "rpc error: thread not found")) := by
  refine ⟨⟨rfl, rfl, rfl⟩, rfl, ?_⟩
  intro recovered
  obtain ⟨answer, ok, _⟩ := recovered
  cases ok

end TriggerDesk

end KnowledgeGap.Gateway
