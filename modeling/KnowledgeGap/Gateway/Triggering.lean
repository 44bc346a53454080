import KnowledgeGap.Gateway.Receipts

namespace KnowledgeGap.Gateway

open Relational Ingestion Protocol

variable {K T : Type}

/-- The thread key a `thread/start` was sent for. -/
def Entry.started : Entry K T → Option String
  | .start _ threadKey => some threadKey
  | _ => none

namespace TriggerDesk

variable {s t : TriggerDesk K T} {c : Nat} {req : TriggerReq}

/-- The record grows, by no `thread/start`. -/
def Extends (s t : TriggerDesk K T) : Prop := ∃ tail, t.log = s.log ++ tail ∧ ∀ e ∈ tail, e.started = none

/-- Call `c` moves on, not to the wait for a new thread. -/
def Passes (s t : TriggerDesk K T) (c : Nat) (req : TriggerReq) : Prop :=
  ∃ stage, t.calls = s.calls.set c ⟨req, stage⟩ ∧ ∀ b, stage ≠ .starting b

/-- The calls and the record go on, and the mapping stays. -/
structure Steady (s t : TriggerDesk K T) (c : Nat) (req : TriggerReq) : Prop where
  threads : t.threads = s.threads
  passes : Passes s t c req
  extends_ : Extends s t

theorem Steady.since {s' : TriggerDesk K T} (steady : Steady s' t c req) (threads : s'.threads = s.threads)
    (calls : s'.calls = s.calls) (log : s'.log = s.log) : Steady s t c req where
  threads := steady.threads.trans threads
  passes := by
    obtain ⟨stage, moved, other⟩ := steady.passes
    exact ⟨stage, calls ▸ moved, other⟩
  extends_ := by
    obtain ⟨tail, grown, plain⟩ := steady.extends_
    exact ⟨tail, log ▸ grown, plain⟩

theorem fail_steady (s : TriggerDesk K T) (c : Nat) (req : TriggerReq) (e : RpcError) : Steady s (s.fail c req e) c req where
  threads := rfl
  passes := ⟨.done, rfl, nofun⟩
  extends_ := ⟨[_, _], List.append_assoc _ _ _, by simp [Entry.started]⟩

theorem accept_steady (s : TriggerDesk K T) (c : Nat) (req : TriggerReq) (r : Receipt K) : Steady s (s.accept c req r) c req where
  threads := rfl
  passes := ⟨.done, rfl, nofun⟩
  extends_ := ⟨[_, _], List.append_assoc _ _ _, by simp [Entry.started]⟩

theorem reply_steady (s : TriggerDesk K T) (c : Nat) (req : TriggerReq) (via : Via) (reply : Except RpcError (Answer K)) :
    Steady s (s.reply c req via reply) c req where
  threads := rfl
  passes := ⟨.done, rfl, nofun⟩
  extends_ := ⟨[_], rfl, by simp [Entry.started]⟩

theorem stand_steady (s : TriggerDesk K T) (c : Nat) (req : TriggerReq) {stage : Stage K} (other : ∀ b, stage ≠ .starting b) :
    Steady s (s.stand c req stage) c req := ⟨rfl, ⟨stage, rfl, other⟩, [], (List.append_nil _).symm, nofun⟩

section
variable [Field K] [DecidableEq K] [Sub T] [LT T] [DecidableLT T] {env : ScopeEnv K} {cfg : TriggerConfig T}

omit [Field K] [DecidableEq K] in
theorem arrive_steady (env : ScopeEnv K) (cfg : TriggerConfig T) (s : TriggerDesk K T) (c : Nat) (req : TriggerReq) : Steady s (s.arrive env cfg c req) c req := by
  unfold TriggerDesk.arrive
  split
  · exact reply_steady s c req _ _
  · split
    · exact (reply_steady (s.pruned cfg.ttl) c req _ _).since rfl rfl rfl
    · refine ⟨rfl, ⟨_, rfl, ?_⟩, [], (List.append_nil _).symm, nofun⟩
      intro b starts
      split at starts <;> cases starts

omit [Field K] [DecidableEq K] in
theorem proceed_steady (env : ScopeEnv K) (cfg : TriggerConfig T) (s : TriggerDesk K T) (c : Nat) (req : TriggerReq) (threadId : Json K) (m : Moments T) :
    Steady s (s.proceed env cfg c req threadId m) c req := by
  unfold TriggerDesk.proceed
  split
  · exact (fail_steady _ c req _).since rfl rfl rfl
  · split
    · exact (fail_steady _ c req _).since rfl rfl rfl
    · exact ⟨rfl, ⟨_, rfl, nofun⟩, [_], rfl, by simp [Entry.started]⟩

end

section
variable [Field K] [DecidableEq K]

/-- A `thread/start` is sent, where no thread is stored. -/
structure Starts (s t : TriggerDesk K T) (c : Nat) (req : TriggerReq) (b : Nat) : Prop where
  absent : s.stored req.threadKey = none
  threads : t.threads = s.threads
  calls : t.calls = s.calls.set c ⟨req, .starting b⟩
  log : t.log = s.log ++ [.start c req.threadKey]

/-- The thread that was started is stored. -/
structure Stores (s t : TriggerDesk K T) (c : Nat) (req : TriggerReq) (b : Nat) (threadId : Json K) : Prop where
  starting : s.calls.get? c = some ⟨req, .starting b⟩
  real : Ingestion.truthy threadId = true
  threads : t.threads = s.threads.set req.threadKey threadId
  passes : Passes s t c req
  extends_ : Extends s t

end

section
variable [Field K] [DecidableEq K] [AddCommGroup T] [LinearOrder T] {env : ScopeEnv K} {cfg : TriggerConfig T} {e : Event K T}

/-- All a step can do to the calls, the mapping and the record. -/
theorem change_cases (change : Change env cfg s e t) :
    (t.threads = s.threads ∧ t.calls = s.calls ∧ t.log = s.log) ∨
    (∃ c req, Steady s t c req) ∨
    (∃ c req b, Starts s t c req b) ∨
    (∃ c req b threadId, Stores s t c req b threadId) := by
  cases change with
  | same => exact .inl ⟨rfl, rfl, rfl⟩
  | tick _ now => exact .inl ⟨rfl, rfl, rfl⟩
  | arrive c req new => exact .inr (.inl ⟨c, req, arrive_steady env cfg s c req⟩)
  | lock _ c req waits free => exact .inr (.inl ⟨c, req, rfl, ⟨_, rfl, nofun⟩, [], (List.append_nil _).symm, nofun⟩)
  | start _ c req b waits absent => exact .inr (.inr (.inl ⟨c, req, b, absent, rfl, rfl, rfl⟩))
  | ask _ c req b threadId waits => exact .inr (.inl ⟨c, req, stand_steady s c req nofun⟩)
  | use _ c req stage threadId loaded m waits critical =>
    exact .inr (.inl ⟨c, req, (proceed_steady env cfg _ c req threadId m).since rfl rfl rfl⟩)
  | store _ c req b threadId loaded m waits real =>
    have steady := proceed_steady env cfg { s with loaded, threads := s.threads.set req.threadKey threadId } c req threadId m
    exact .inr (.inr (.inr ⟨c, req, b, threadId, waits, real, steady.threads, steady.passes, steady.extends_⟩))
  | accept _ c req stage receipt waits trying => exact .inr (.inl ⟨c, req, accept_steady s c req receipt⟩)
  | fail _ c req stage error waits trying => exact .inr (.inl ⟨c, req, fail_steady s c req error⟩)
  | resumed _ c req seat outcome waits seated landed =>
    exact .inr (.inl ⟨c, req, (reply_steady _ c req _ _).since rfl rfl rfl⟩)
  | left _ c req seat waits seated => exact .inr (.inl ⟨c, req, rfl, ⟨_, rfl, nofun⟩, [], (List.append_nil _).symm, nofun⟩)
  | aside _ scopes guard => exact .inl ⟨rfl, rfl, rfl⟩

end

section
variable [Field K] [DecidableEq K] [AddCommGroup T] [LinearOrder T] {env : ScopeEnv K} {cfg : TriggerConfig T} {e : Event K T}

/-- Nothing is stored for the thread key of a call that waits for a new thread. -/
def Unwritten (s : TriggerDesk K T) : Prop :=
  ∀ c req b, s.calls.get? c = some ⟨req, .starting b⟩ → s.stored req.threadKey = none

omit [Field K] [DecidableEq K] [AddCommGroup T] [LinearOrder T] in
theorem passes_starting (passes : Passes s t c req) {d : Nat} {req' : TriggerReq} {b : Nat}
    (starts : t.calls.get? d = some ⟨req', .starting b⟩) : d ≠ c ∧ s.calls.get? d = some ⟨req', .starting b⟩ := by
  obtain ⟨stage, moved, other⟩ := passes
  rw [moved, Dict.get?_set] at starts
  by_cases same : d = c
  · rw [if_pos same] at starts
    cases starts
    exact absurd rfl (other b)
  · rw [if_neg same] at starts
    exact ⟨same, starts⟩

omit [AddCommGroup T] [LinearOrder T] in
theorem stored_same (threads : t.threads = s.threads) (threadKey : String) : t.stored threadKey = s.stored threadKey :=
  congrArg (fun d => (Dict.get? d threadKey).filter Ingestion.truthy) threads

theorem Unwritten.change (unwritten : s.Unwritten) (sound : s.Sound cfg.ttl) (change : Change env cfg s e t) : t.Unwritten := by
  intro d req' b' waits
  rcases change_cases change with still | steady | starts | stores
  · rw [still.2.1] at waits
    exact (stored_same still.1 _).trans (unwritten d req' b' waits)
  · obtain ⟨c, req, steady⟩ := steady
    exact (stored_same steady.threads _).trans (unwritten d req' b' (passes_starting steady.passes waits).2)
  · obtain ⟨c, req, b, starts⟩ := starts
    rw [starts.calls, Dict.get?_set] at waits
    by_cases same : d = c
    · rw [if_pos same] at waits
      cases waits
      exact (stored_same starts.threads _).trans starts.absent
    · rw [if_neg same] at waits
      exact (stored_same starts.threads _).trans (unwritten d req' b' waits)
  · obtain ⟨c, req, b, threadId, stores⟩ := stores
    obtain ⟨apart, before⟩ := passes_starting stores.passes waits
    -- Both calls would hold the lock of the thread key.
    have other : req'.threadKey ≠ req.threadKey := by
      intro same
      have one := sound.held c req _ stores.starting trivial
      rw [← same, sound.held d req' _ before trivial, Option.some.injEq] at one
      exact apart one
    rw [stored, stores.threads, Dict.get?_set, if_neg other]
    exact unwritten d req' b' before

/-- What is stored for a thread key stays, and stays as it is once it is the id of a thread. -/
theorem stored_kept (unwritten : s.Unwritten) (change : Change env cfg s e t) {threadKey : String} {v : Json K}
    (found : s.threads.get? threadKey = some v) :
    (∃ w, t.threads.get? threadKey = some w) ∧
      (Ingestion.truthy v = true → t.threads.get? threadKey = some v) := by
  have same : t.threads = s.threads → (∃ w, t.threads.get? threadKey = some w) ∧
      (Ingestion.truthy v = true → t.threads.get? threadKey = some v) := by
    intro same
    rw [same]
    exact ⟨⟨v, found⟩, fun _ => found⟩
  rcases change_cases change with still | steady | starts | stores
  · exact same still.1
  · obtain ⟨c, req, steady⟩ := steady
    exact same steady.threads
  · obtain ⟨c, req, b, starts⟩ := starts
    exact same starts.threads
  · obtain ⟨c, req, b, threadId, stores⟩ := stores
    rw [stores.threads, Dict.get?_set]
    by_cases here : threadKey = req.threadKey
    · rw [if_pos here]
      refine ⟨⟨threadId, rfl⟩, ?_⟩
      intro real
      have absent := unwritten c req b stores.starting
      rw [stored, ← here, found] at absent
      simp [Option.filter, real] at absent
    · rw [if_neg here]
      exact ⟨⟨v, found⟩, fun _ => found⟩

/-- No `thread/start` is sent for a thread key under which a thread is stored. -/
theorem stored_not_started (change : Change env cfg s e t) {threadKey : String} {v : Json K}
    (found : s.threads.get? threadKey = some v) (real : Ingestion.truthy v = true) :
    ∃ tail, t.log = s.log ++ tail ∧ ∀ entry ∈ tail, entry.started ≠ some threadKey := by
  have plain : Extends s t →
      ∃ tail, t.log = s.log ++ tail ∧ ∀ entry ∈ tail, entry.started ≠ some threadKey := by
    intro grown
    obtain ⟨tail, log, none_⟩ := grown
    refine ⟨tail, log, ?_⟩
    intro entry member
    rw [none_ entry member]
    exact nofun
  rcases change_cases change with still | steady | starts | stores
  · exact plain ⟨[], still.2.2.trans (List.append_nil _).symm, nofun⟩
  · obtain ⟨c, req, steady⟩ := steady
    exact plain steady.extends_
  · obtain ⟨c, req, b, starts⟩ := starts
    refine ⟨_, starts.log, ?_⟩
    intro entry member named
    rw [List.mem_singleton.mp member, Entry.started, Option.some.injEq] at named
    have absent := starts.absent
    rw [stored, named, found] at absent
    simp [Option.filter, real] at absent
  · obtain ⟨c, req, b, threadId, stores⟩ := stores
    exact plain stores.extends_

/-! Failed attempts. -/

/-- Neither a receipt nor an attempt stands under the key. -/
structure Quiet (k : String) (s : TriggerDesk K T) : Prop where
  forgotten : s.recent.get? k = none
  landed : s.flights.inflight.get? k = none

omit [Field K] [DecidableEq K] [AddCommGroup T] [LinearOrder T] in
theorem Quiet.fail {k : String} (quiet : s.Quiet k) (e : RpcError) : (s.fail c req e).Quiet k where
  forgotten := quiet.forgotten
  landed := by
    refine (Dict.get?_pop _ _ _).trans ?_
    split
    · rfl
    · exact quiet.landed

omit [Field K] [DecidableEq K] in
theorem fail_quiet (sound : s.Sound cfg.ttl) (flies : s.flights.Flies c req.idempotencyKey) (e : RpcError) :
    (s.fail c req e).Quiet req.idempotencyKey where
  forgotten := sound.idle c _ flies
  landed := (Dict.get?_pop _ _ _).trans (if_pos rfl)

omit [Field K] [DecidableEq K] in
theorem Quiet.accept {k : String} (quiet : s.Quiet k) (sound : s.Sound cfg.ttl)
    (flies : s.flights.Flies c req.idempotencyKey) (r : Receipt K) : (s.accept c req r).Quiet k := by
  have other : k ≠ req.idempotencyKey := by
    intro same
    have busy := (sound.flights.flying c _ flies).1
    rw [← same, quiet.landed] at busy
    cases busy
  exact ⟨(Dict.get?_set _ _ _ _).trans ((if_neg other).trans quiet.forgotten),
    (Dict.get?_pop _ _ _).trans ((if_neg other).trans quiet.landed)⟩

omit [Field K] [DecidableEq K] in
theorem Quiet.arrive {k : String} (quiet : s.Quiet k) (other : req.idempotencyKey ≠ k) :
    (s.arrive env cfg c req).Quiet k := by
  have pruned : (s.pruned cfg.ttl).recent.get? k = none :=
    (Dict.get?_keep _ _ _).trans ((congrArg (Option.filter _) quiet.forgotten).trans rfl)
  unfold TriggerDesk.arrive
  split
  · exact ⟨quiet.forgotten, quiet.landed⟩
  · split
    · exact ⟨pruned, quiet.landed⟩
    · exact ⟨pruned, (Flights.board_inflight other.symm).trans quiet.landed⟩

omit [Field K] [DecidableEq K] in
theorem Quiet.proceed {k : String} (quiet : s.Quiet k) (threadId : Json K) (m : Moments T) :
    (s.proceed env cfg c req threadId m).Quiet k := by
  unfold TriggerDesk.proceed
  split
  · apply Quiet.fail
    exact ⟨quiet.forgotten, quiet.landed⟩
  · split
    · apply Quiet.fail
      exact ⟨quiet.forgotten, quiet.landed⟩
    · exact ⟨quiet.forgotten, quiet.landed⟩

/-- A key stays quiet until a request with it arrives. -/
theorem Quiet.change {k : String} (quiet : s.Quiet k) (sound : s.Sound cfg.ttl) (change : Change env cfg s e t)
    (other : ∀ c req, e = .arrive c req → req.idempotencyKey ≠ k) : t.Quiet k := by
  cases change with
  | same => exact quiet
  | arrive c req new => exact quiet.arrive (other c req rfl)
  | use _ c req stage threadId loaded m waits critical =>
    apply Quiet.proceed
    exact ⟨quiet.forgotten, quiet.landed⟩
  | store _ c req b threadId loaded m waits real =>
    apply Quiet.proceed
    exact ⟨quiet.forgotten, quiet.landed⟩
  | accept _ c req stage receipt waits trying => exact quiet.accept sound (sound.trying c req stage waits trying) receipt
  | fail _ c req stage error waits trying => exact quiet.fail error
  | _ => exact ⟨quiet.forgotten, quiet.landed⟩

theorem Quiet.attempts {k : String} (quiet : s.Quiet k) (new : s.calls.get? c = none) (named : req.idempotencyKey = k)
    (valid : cfg.check env req = .ok ()) : (s.step env cfg (.arrive c req)).flights.Flies c k := by
  have pruned : (s.pruned cfg.ttl).recent.get? req.idempotencyKey = none := by
    rw [named]
    exact (Dict.get?_keep _ _ _).trans ((congrArg (Option.filter _) quiet.forgotten).trans rfl)
  have free : s.flights.inflight.get? req.idempotencyKey = none := named ▸ quiet.landed
  dsimp only [TriggerDesk.step]
  rw [new, if_neg nofun, TriggerDesk.arrive, valid]
  dsimp only
  rw [pruned, ← named]
  exact Flights.board_flies free

omit [Field K] [DecidableEq K] [AddCommGroup T] [LinearOrder T] in
theorem fail_noted {d : Nat} {k : String} {e err : RpcError} (noted : .failed d k err ∈ (s.fail c req e).log)
    (new : .failed d k err ∉ s.log) : k = req.idempotencyKey := by
  rcases List.mem_append.mp noted with before | reply
  · rcases List.mem_append.mp before with old | failure
    · exact absurd old new
    · cases List.mem_singleton.mp failure
      rfl
  · cases List.mem_singleton.mp reply

omit [Field K] [DecidableEq K] in
theorem proceed_noted {d : Nat} {k : String} {err : RpcError} {threadId : Json K} {m : Moments T} (sound : s.Sound cfg.ttl)
    (flies : s.flights.Flies c req.idempotencyKey) (noted : .failed d k err ∈ (s.proceed env cfg c req threadId m).log)
    (new : .failed d k err ∉ s.log) : (s.proceed env cfg c req threadId m).Quiet k := by
  unfold TriggerDesk.proceed at noted ⊢
  split at noted
  · rw [fail_noted noted new]
    have aside := sound.aside s.threads s.loaded (s.scopes.bind req.teacher (env.str threadId) req.classId).1 s.guard
    exact fail_quiet aside flies _
  · split at noted
    · rw [fail_noted noted new]
      have aside := sound.aside s.threads s.loaded (s.scopes.bind req.teacher (env.str threadId) req.classId).1
        (checkTurnStart cfg.budget s.guard (env.str threadId) m).1
      exact fail_quiet aside flies _
    · rcases List.mem_append.mp noted with old | turn
      · exact absurd old new
      · cases List.mem_singleton.mp turn

omit [Field K] [DecidableEq K] in
theorem arrive_noted {d : Nat} {k : String} {err : RpcError} (noted : .failed d k err ∈ (s.arrive env cfg c req).log) :
    .failed d k err ∈ s.log := by
  have replied : ∀ via reply, .failed d k err ∈ s.log ++ [.replied c req.idempotencyKey s.clock via reply] →
      .failed d k err ∈ s.log := by
    intro via reply member
    rcases List.mem_append.mp member with old | new
    · exact old
    · cases List.mem_singleton.mp new
  unfold TriggerDesk.arrive at noted
  split at noted
  · exact replied _ _ noted
  · split at noted
    · exact replied _ _ noted
    · exact noted

/-- The step that ends an attempt in an error leaves its key quiet. -/
theorem failed_quiet (sound : s.Sound cfg.ttl) (change : Change env cfg s e t) {d : Nat} {k : String} {err : RpcError}
    (noted : .failed d k err ∈ t.log) (new : .failed d k err ∉ s.log) : t.Quiet k := by
  have only : ∀ tail, .failed d k err ∈ s.log ++ tail → .failed d k err ∈ tail :=
    fun tail member => (List.mem_append.mp member).resolve_left new
  cases change with
  | arrive c req fresh => exact absurd (arrive_noted noted) new
  | start _ c req b waits absent => cases List.mem_singleton.mp (only _ noted)
  | use _ c req stage threadId loaded m waits critical =>
    exact proceed_noted (sound.aside s.threads loaded s.scopes s.guard) (sound.trying c req stage waits critical.trying) noted new
  | store _ c req b threadId loaded m waits real =>
    exact proceed_noted (sound.aside (s.threads.set req.threadKey threadId) loaded s.scopes s.guard)
      (sound.trying c req _ waits trivial) noted new
  | accept _ c req stage receipt waits trying =>
    rcases List.mem_append.mp noted with before | reply
    · cases List.mem_singleton.mp (only _ before)
    · cases List.mem_singleton.mp reply
  | fail _ c req stage error waits trying =>
    rw [fail_noted noted new]
    exact fail_quiet sound (sound.trying c req stage waits trying) error
  | resumed _ c req seat outcome waits seated landed => cases List.mem_singleton.mp (only _ noted)
  | _ => exact absurd noted new

end

section
variable [Field K] [DecidableEq K] [AddCommGroup T] [LinearOrder T] [IsOrderedAddMonoid T]

/-- The bookkeeping of one step and of the next. -/
def Orderly (ttl : T) (s : TriggerDesk K T) : Prop := s.Sound ttl ∧ s.Unwritten

theorem Orderly.step {env : ScopeEnv K} {cfg : TriggerConfig T} (orderly : s.Orderly cfg.ttl) (e : Event K T) :
    (s.step env cfg e).Orderly cfg.ttl :=
  ⟨orderly.1.step e, orderly.2.change orderly.1 (step_change env cfg s e)⟩

omit [IsOrderedAddMonoid T] in
theorem init_orderly (ttl clock : T) (threads : Dict String (Json K)) (scopes : Scopes) :
    (init clock threads scopes : TriggerDesk K T).Orderly ttl := ⟨init_sound clock threads scopes, nofun⟩

theorem run_quiet (env : ScopeEnv K) {cfg : TriggerConfig T} {k : String} (events : List (Event K T)) (orderly : s.Orderly cfg.ttl)
    (quiet : s.Quiet k) (none_ : ∀ c req, .arrive c req ∈ events → req.idempotencyKey ≠ k) :
    (run (TriggerDesk.step env cfg) s events).Quiet k := by
  induction events generalizing s with
  | nil => exact quiet
  | cons e events ih =>
    apply ih (orderly.step e)
    · apply quiet.change orderly.1 (step_change env cfg s e)
      intro c req arrives
      exact none_ c req (arrives ▸ List.mem_cons_self)
    · intro c req member
      exact none_ c req (List.mem_cons_of_mem _ member)

theorem run_stored {env : ScopeEnv K} {cfg : TriggerConfig T} {threadKey : String} {v : Json K} (events : List (Event K T))
    (orderly : s.Orderly cfg.ttl) (found : s.threads.get? threadKey = some v) :
    (∃ w, (run (TriggerDesk.step env cfg) s events).threads.get? threadKey = some w) ∧
      (Ingestion.truthy v = true → (run (TriggerDesk.step env cfg) s events).threads.get? threadKey = some v ∧
        ∃ tail, (run (TriggerDesk.step env cfg) s events).log = s.log ++ tail ∧
          ∀ entry ∈ tail, entry.started ≠ some threadKey) := by
  induction events generalizing s v with
  | nil => exact ⟨⟨v, found⟩, fun _ => ⟨found, [], (List.append_nil _).symm, nofun⟩⟩
  | cons e events ih =>
    have change := step_change env cfg s e
    have kept := stored_kept orderly.2 change found
    obtain ⟨w, still⟩ := kept.1
    refine ⟨(ih (orderly.step e) still).1, ?_⟩
    intro real
    have later := (ih (orderly.step e) (kept.2 real)).2 real
    obtain ⟨first, grown, apart⟩ := stored_not_started change found real
    obtain ⟨rest, more, apart'⟩ := later.2
    refine ⟨later.1, first ++ rest, ?_, ?_⟩
    · rw [run_cons, more, grown, List.append_assoc]
    · intro entry member
      rcases List.mem_append.mp member with early | late
      · exact apart entry early
      · exact apart' entry late

/-- However requests, answers and failures interleave: within its time a receipt is the last word on its key, a failed
    attempt leaves room for the next, and a thread once stored stays the thread of its class and teacher. -/
theorem trigger_idempotent (env : ScopeEnv K) (cfg : TriggerConfig T) (clock : T) (threads : Dict String (Json K))
    (scopes : Scopes) (events : List (Event K T)) :
    (run (step env cfg) (init clock threads scopes) events).log.Pairwise (Follows cfg.ttl) ∧
    (∀ k t r, (run (step env cfg) (init clock threads scopes) events).recent.get? k = some (t, r) →
      ∃ c, .accepted c k t r ∈ (run (step env cfg) (init clock threads scopes) events).log) ∧
    (∀ first e rest d k err c req, events = first ++ e :: rest →
      .failed d k err ∉ (run (step env cfg) (init clock threads scopes) first).log →
      .failed d k err ∈ ((run (step env cfg) (init clock threads scopes) first).step env cfg e).log →
      (∀ c' req', .arrive c' req' ∈ rest → req'.idempotencyKey ≠ k) →
      (run (step env cfg) (init clock threads scopes) events).calls.get? c = none →
      req.idempotencyKey = k → cfg.check env req = .ok () →
      ((run (step env cfg) (init clock threads scopes) events).step env cfg (.arrive c req)).flights.Flies c k) ∧
    (∀ first rest threadKey v, events = first ++ rest →
      (run (step env cfg) (init clock threads scopes) first).threads.get? threadKey = some v →
      (∃ w, (run (step env cfg) (init clock threads scopes) events).threads.get? threadKey = some w) ∧
      (Ingestion.truthy v = true →
        (run (step env cfg) (init clock threads scopes) events).threads.get? threadKey = some v ∧
        ∃ tail, (run (step env cfg) (init clock threads scopes) events).log =
          (run (step env cfg) (init clock threads scopes) first).log ++ tail ∧
          ∀ entry ∈ tail, entry.started ≠ some threadKey)) := by
  have orderly : ∀ events, (run (step env cfg) (init clock threads scopes) events).Orderly cfg.ttl :=
    fun events => run_invariant (fun _ e orderly => orderly.step e) events _ (init_orderly cfg.ttl clock threads scopes)
  refine ⟨(orderly events).1.ordered, (orderly events).1.cached, ?_, ?_⟩
  · intro first e rest d k err c req split new noted none_ fresh named valid
    have failed := failed_quiet (orderly first).1 (step_change env cfg _ e) noted new
    have quiet := run_quiet env rest ((orderly first).step e) failed none_
    rw [split, run_append, run_cons] at fresh ⊢
    exact quiet.attempts fresh named valid
  · intro first rest threadKey v split found
    rw [split, run_append]
    exact run_stored rest (orderly first) found

end

/-! What every other reply cannot be. -/

/-- Every reply for the key of a receipt, within its time and to another call, is the receipt again. -/
def Repeats [Sub T] [LT T] (ttl : T) : Entry K T → Entry K T → Prop
  | .accepted c k t r, .replied c' k' t' _ reply => k' = k → c' ≠ c → ttl < t' - t ∨ reply = .ok ⟨r, true⟩
  | _, _ => True

/-- Texts are themselves, whatever else is read of a value. -/
def plainEnv : ScopeEnv ℚ where
  dumps := fun _ => ""
  str := fun v => match v with
    | .str text => text
    | _ => ""
  repr := fun text => "'" ++ text ++ "'"
  publicThreadResult := id
  publicPreview := id

def secureConfig : TriggerConfig ℤ := ⟨true, 600, ⟨20, 0, 3600⟩⟩

def examRequest (teacherId : Option Int) : TriggerReq := ⟨"post_exam_analysis", 3, teacherId, "post_exam_analysis:7", "", "v1"⟩

def still : Moments ℤ := ⟨fun _ => 0, 0, 0, 0⟩

def startedTurn (c : Nat) : List (Event ℚ ℤ) :=
  [.arrive c (examRequest (some 5)), .lock c, .bridged c 9 still,
    .answered c (.obj [("thread", .obj [("id", .str "th-1")])]) still, .answered c .null still]

/-- A request without a teacher comes within the time of the receipt. -/
def refusedRun : List (Event ℚ ℤ) := startedTurn 0 ++ [.arrive 1 (examRequest none)]

/-- A request still waits for an attempt that failed when the next one is accepted. -/
def waitingRun : List (Event ℚ ℤ) :=
  [.arrive 0 (examRequest (some 5)), .arrive 1 (examRequest (some 5)), .lock 0, .fault 0 .cancelled] ++ startedTurn 2 ++
    [.resume 1]

theorem trigger_idempotent_waiting :
    (run (step plainEnv secureConfig) (init 0 .empty .empty) waitingRun).log.Pairwise (Follows 600) :=
  (trigger_idempotent plainEnv secureConfig 0 .empty .empty waitingRun).1

def threadOne : Receipt ℚ := ⟨.str "th-1", "v1"⟩

theorem refusedRun_log : (run (step plainEnv secureConfig) (init 0 .empty .empty) refusedRun).log =
    [.start 0 "3.5", .turn 0 "post_exam_analysis:7" 0 (.str "th-1") "",
      .accepted 0 "post_exam_analysis:7" 0 threadOne,
      .replied 0 "post_exam_analysis:7" 0 (.attempt 0) (.ok ⟨threadOne, false⟩),
      .replied 1 "post_exam_analysis:7" 0 .refused (.error (.http ⟨400, "安全模式下考后分析需要提交教师身份"⟩))] := by
  rfl

theorem waitingRun_log : (run (step plainEnv secureConfig) (init 0 .empty .empty) waitingRun).log =
    [.failed 0 "post_exam_analysis:7" (.failed "CancelledError"),
      .replied 0 "post_exam_analysis:7" 0 (.attempt 0) (.error (.failed "CancelledError")),
      .start 2 "3.5", .turn 2 "post_exam_analysis:7" 0 (.str "th-1") "",
      .accepted 2 "post_exam_analysis:7" 0 threadOne,
      .replied 2 "post_exam_analysis:7" 0 (.attempt 2) (.ok ⟨threadOne, false⟩),
      .replied 1 "post_exam_analysis:7" 0 (.attempt 0) (.error (.failed "CancelledError"))] := by
  rfl

theorem other_replies : ¬ (run (step plainEnv secureConfig) (init 0 .empty .empty) refusedRun).log.Pairwise (Repeats 600) ∧
    ¬ (run (step plainEnv secureConfig) (init 0 .empty .empty) waitingRun).log.Pairwise (Repeats 600) := by
  constructor
  · rw [refusedRun_log]
    simp [Repeats]
  · rw [waitingRun_log]
    simp [Repeats]

end TriggerDesk

end KnowledgeGap.Gateway
