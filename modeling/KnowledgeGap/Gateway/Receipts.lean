import Mathlib.Algebra.Order.Group.Defs
import KnowledgeGap.Gateway.Trigger
import KnowledgeGap.Gateway.Scoping

namespace KnowledgeGap.Gateway

open Relational Ingestion Protocol

variable {K T : Type}

/-- An attempt is under way. -/
def Stage.Trying : Stage K → Prop
  | .joined | .done => False
  | _ => True

/-- The thread's lock is held. -/
def Stage.Critical : Stage K → Prop
  | .joined | .done | .locking => False
  | _ => True

theorem Stage.Critical.trying {stage : Stage K} (critical : stage.Critical) : stage.Trying := by
  cases stage with
  | joined | done | locking => exact critical.elim
  | _ => trivial

/-- What may come on record after a receipt: no turn of its key within its time, and no reply to another call for its key
    within its time but the receipt again, marked duplicate. Calls that are refused at once, and those that still wait for
    another attempt, are left out. -/
def Follows [Sub T] [LT T] (ttl : T) : Entry K T → Entry K T → Prop
  | .accepted _ k t _, .turn _ k' t' _ _ => k' = k → ttl < t' - t
  | .accepted c k t r, .replied c' k' t' via reply => k' = k → c' ≠ c → ttl < t' - t ∨ via = .refused ∨
      (∃ f, via = .attempt f ∧ f ≠ c ∧ f ≠ c') ∨ reply = .ok ⟨r, true⟩
  | _, _ => True

def Plain : Entry K T → Prop
  | .accepted _ _ _ _ => False
  | _ => True

namespace TriggerDesk

/-- What holds of the receipts, the attempts and the locks between two steps. -/
structure Sound [Sub T] [LT T] (ttl : T) (s : TriggerDesk K T) : Prop where
  flights : s.flights.Sound
  fresh : ∀ c, s.calls.get? c = none → s.flights.seats.get? c = none
  trying : ∀ c req stage, s.calls.get? c = some ⟨req, stage⟩ → stage.Trying → s.flights.Flies c req.idempotencyKey
  joined : ∀ c req, s.calls.get? c = some ⟨req, .joined⟩ → ∃ f, f ≠ c ∧ s.flights.seats.get? c = some ⟨req.idempotencyKey, f, .aboard⟩
  held : ∀ c req stage, s.calls.get? c = some ⟨req, stage⟩ → stage.Critical → s.locks.get? req.threadKey = some c
  idle : ∀ c k, s.flights.Flies c k → s.recent.get? k = none
  remembered : ∀ c k t r, .accepted c k t r ∈ s.log → s.recent.get? k = some (t, r) ∨ ttl < s.clock - t
  resolved : ∀ c k t r, .accepted c k t r ∈ s.log → s.flights.futures.get? c = some (.ok r)
  cached : ∀ k t r, s.recent.get? k = some (t, r) → ∃ c, .accepted c k t r ∈ s.log
  ordered : s.log.Pairwise (Follows ttl)

section
variable {s : TriggerDesk K T} {c : Nat} {req : TriggerReq} {stage : Stage K} {ttl : T}

section
variable [Sub T] [LT T]

theorem init_sound (clock : T) (threads : Dict String (Json K)) (scopes : Scopes) :
    (init clock threads scopes : TriggerDesk K T).Sound ttl where
  flights := Flights.empty_sound
  fresh := fun _ _ => rfl
  trying := nofun
  joined := nofun
  held := nofun
  idle := fun _ _ _ => rfl
  remembered := nofun
  resolved := nofun
  cached := nofun
  ordered := .nil

/-- What the bookkeeping does not look at. -/
theorem Sound.aside (sound : s.Sound ttl) (threads : Dict String (Json K)) (loaded : Dict Nat (List String))
    (scopes : Scopes) (guard : BudgetGuard T) : ({ s with threads, loaded, scopes, guard } : TriggerDesk K T).Sound ttl :=
  ⟨sound.flights, sound.fresh, sound.trying, sound.joined, sound.held, sound.idle, sound.remembered, sound.resolved,
    sound.cached, sound.ordered⟩

theorem Sound.record (sound : s.Sound ttl) {e : Entry K T} (plain : Plain e) (follows : ∀ a ∈ s.log, Follows ttl a e) :
    (s.record e).Sound ttl := by
  have before : ∀ {c k t r}, Entry.accepted c k t r ∈ s.log ++ [e] → Entry.accepted c k t r ∈ s.log := by
    intro c k t r member
    rcases List.mem_append.mp member with old | new
    · exact old
    · rw [List.mem_singleton] at new
      rw [← new] at plain
      exact plain.elim
  exact { sound with
    remembered := fun c k t r member => sound.remembered c k t r (before member)
    resolved := fun c k t r member => sound.resolved c k t r (before member)
    cached := by
      intro k t r found
      obtain ⟨c, member⟩ := sound.cached k t r found
      exact ⟨c, List.mem_append_left _ member⟩
    ordered := by
      rw [TriggerDesk.record, List.pairwise_append]
      refine ⟨sound.ordered, List.pairwise_singleton _ _, ?_⟩
      intro a member b last
      rw [List.mem_singleton.mp last]
      exact follows a member }

omit [Sub T] [LT T] in
theorem stand_get (s : TriggerDesk K T) (c d : Nat) (req : TriggerReq) (stage : Stage K) :
    (s.stand c req stage).calls.get? d = if d = c then some ⟨req, stage⟩ else s.calls.get? d := Dict.get?_set _ _ _ _

theorem Sound.stand (sound : s.Sound ttl) (trying : stage.Trying → s.flights.Flies c req.idempotencyKey)
    (joined : stage = .joined → ∃ f, f ≠ c ∧ s.flights.seats.get? c = some ⟨req.idempotencyKey, f, .aboard⟩)
    (held : stage.Critical → s.locks.get? req.threadKey = some c) : (s.stand c req stage).Sound ttl :=
  { sound with
    fresh := by
      intro d absent
      rw [stand_get] at absent
      by_cases same : d = c
      · rw [if_pos same] at absent
        cases absent
      · rw [if_neg same] at absent
        exact sound.fresh d absent
    trying := by
      intro d req' stage' found
      rw [stand_get] at found
      by_cases same : d = c
      · rw [if_pos same] at found
        cases found
        rw [same]
        exact trying
      · rw [if_neg same] at found
        exact sound.trying d req' stage' found
    joined := by
      intro d req' found
      rw [stand_get] at found
      by_cases same : d = c
      · rw [if_pos same] at found
        cases found
        rw [same]
        exact joined rfl
      · rw [if_neg same] at found
        exact sound.joined d req' found
    held := by
      intro d req' stage' found
      rw [stand_get] at found
      by_cases same : d = c
      · rw [if_pos same] at found
        cases found
        rw [same]
        exact held
      · rw [if_neg same] at found
        exact sound.held d req' stage' found }

theorem Sound.finish (sound : s.Sound ttl) : (s.stand c req .done).Sound ttl := sound.stand False.elim nofun False.elim

theorem Sound.unlock (sound : s.Sound ttl) (out : ∀ req' stage, s.calls.get? c = some ⟨req', stage⟩ → ¬ stage.Critical) :
    (s.unlock c req).Sound ttl :=
  { sound with
    held := by
      intro d req' stage found critical
      have other : d ≠ c := by
        intro same
        rw [same] at found
        exact out req' stage found critical
      change (s.locks.keep _).get? req'.threadKey = some d
      rw [Dict.get?_keep, sound.held d req' stage found critical]
      simp [Option.filter, other] }

theorem Sound.lock (sound : s.Sound ttl) (free : s.locks.get? req.threadKey = none) :
    ({ s with locks := s.locks.set req.threadKey c } : TriggerDesk K T).Sound ttl :=
  { sound with
    held := by
      intro d req' stage found critical
      have before := sound.held d req' stage found critical
      have other : req'.threadKey ≠ req.threadKey := by
        intro same
        rw [same, free] at before
        cases before
      exact (Dict.get?_set _ _ _ _).trans ((if_neg other).trans before) }

/-- The attempt of a call whose stage is behind it is landed. -/
theorem Sound.land (sound : s.Sound ttl) {k : String} (flies : s.flights.Flies c k)
    (out : ∀ req stage, s.calls.get? c = some ⟨req, stage⟩ → stage = .done) (w : Except RpcError (Receipt K)) :
    ({ s with flights := s.flights.land c k w } : TriggerDesk K T).Sound ttl :=
  have elsewhere : ∀ d, d ≠ c → (s.flights.land c k w).seats.get? d = s.flights.seats.get? d :=
    fun d other => (Dict.get?_set _ _ _ _).trans (if_neg other)
  have open_ := (sound.flights.flying c k flies).2
  { sound with
    flights := Flights.land_sound sound.flights flies
    fresh := by
      intro d absent
      have other : d ≠ c := by
        intro same
        rw [same] at absent
        have unseated := sound.fresh c absent
        rw [Flights.Flies, unseated] at flies
        cases flies
      exact (elsewhere d other).trans (sound.fresh d absent)
    trying := by
      intro d req stage found trying
      have other : d ≠ c := by
        intro same
        rw [same] at found
        rw [out req stage found] at trying
        exact trying
      exact (elsewhere d other).trans (sound.trying d req stage found trying)
    joined := by
      intro d req found
      have other : d ≠ c := by
        intro same
        rw [same] at found
        cases out req _ found
      rw [elsewhere d other]
      exact sound.joined d req found
    idle := by
      intro d j flying
      by_cases same : d = c
      · rw [same, Flights.Flies] at flying
        cases ((Dict.get?_set _ _ _ _).trans (if_pos rfl)).symm.trans flying
      · exact sound.idle d j ((elsewhere d same).symm.trans flying)
    resolved := by
      intro d j t r member
      have before := sound.resolved d j t r member
      have other : d ≠ c := by
        intro same
        rw [same, open_] at before
        cases before
      exact (Dict.get?_set _ _ _ _).trans ((if_neg other).trans before) }

/-- The receipt of a landed attempt is cached. -/
theorem Sound.receipt (sound : s.Sound ttl) {k : String} {r : Receipt K} (landed : s.flights.inflight.get? k = none)
    (forgotten : s.recent.get? k = none) (resolved : s.flights.futures.get? c = some (.ok r)) :
    ({ s with recent := s.recent.set k (s.clock, r) }.record (.accepted c k s.clock r)).Sound ttl :=
  have set : ∀ j, (s.recent.set k (s.clock, r)).get? j = if j = k then some (s.clock, r) else s.recent.get? j :=
    fun j => Dict.get?_set _ _ _ _
  { sound with
    idle := by
      intro d j flying
      have other : j ≠ k := by
        intro same
        have busy := (sound.flights.flying d j flying).1
        rw [same, landed] at busy
        cases busy
      exact (set j).trans ((if_neg other).trans (sound.idle d j flying))
    remembered := by
      intro d j t r' member
      rw [TriggerDesk.record, set]
      rcases List.mem_append.mp member with old | new
      · by_cases same : j = k
        · have before := sound.remembered d j t r' old
          rw [same, forgotten] at before
          exact .inr (before.resolve_left nofun)
        · rw [if_neg same]
          exact sound.remembered d j t r' old
      · cases List.mem_singleton.mp new
        rw [if_pos rfl]
        exact .inl rfl
    resolved := by
      intro d j t r' member
      rcases List.mem_append.mp member with old | new
      · exact sound.resolved d j t r' old
      · cases List.mem_singleton.mp new
        exact resolved
    cached := by
      intro j t r' found
      rw [TriggerDesk.record, set] at found
      by_cases same : j = k
      · rw [if_pos same] at found
        cases found
        rw [same]
        exact ⟨c, List.mem_append_right _ List.mem_cons_self⟩
      · rw [if_neg same] at found
        obtain ⟨d, member⟩ := sound.cached j t r' found
        exact ⟨d, List.mem_append_left _ member⟩
    ordered := by
      rw [TriggerDesk.record, List.pairwise_append]
      refine ⟨sound.ordered, List.pairwise_singleton _ _, ?_⟩
      intro a member b last
      rw [List.mem_singleton.mp last]
      cases a <;> trivial }

theorem Sound.board (sound : s.Sound ttl) (new : s.calls.get? c = none) (forgotten : s.recent.get? req.idempotencyKey = none) :
    (s.joinedFlight c req).Sound ttl :=
  have fresh := sound.fresh c new
  have elsewhere : ∀ d, d ≠ c → (s.flights.board c req.idempotencyKey).seats.get? d = s.flights.seats.get? d :=
    fun d other => Flights.board_seats other
  have known : ∀ d call, s.calls.get? d = some call → d ≠ c := by
    intro d call found same
    rw [same, new] at found
    cases found
  { sound with
    flights := Flights.board_sound sound.flights fresh
    fresh := by
      intro d absent
      rw [TriggerDesk.joinedFlight, stand_get] at absent
      by_cases same : d = c
      · rw [if_pos same] at absent
        cases absent
      · rw [if_neg same] at absent
        exact (elsewhere d same).trans (sound.fresh d absent)
    trying := by
      intro d req' stage found trying
      rw [TriggerDesk.joinedFlight, stand_get] at found
      by_cases same : d = c
      · rw [if_pos same] at found
        cases busy : s.flights.inflight.get? req.idempotencyKey with
        | none =>
          cases found
          rw [same]
          exact Flights.board_flies busy
        | some f =>
          rw [busy] at found
          cases found
          exact trying.elim
      · rw [if_neg same] at found
        exact (elsewhere d same).trans (sound.trying d req' stage found trying)
    joined := by
      intro d req' found
      rw [TriggerDesk.joinedFlight, stand_get] at found
      by_cases same : d = c
      · rw [if_pos same] at found
        cases busy : s.flights.inflight.get? req.idempotencyKey with
        | none =>
          rw [busy] at found
          cases found
        | some f =>
          have own_request : req = req' := congrArg TriggerCall.req (Option.some.inj found)
          rw [same, ← own_request]
          refine ⟨f, ?_, Flights.board_joins busy⟩
          intro own
          rw [own] at busy
          have flies := sound.flights.flown _ c busy
          rw [Flights.Flies, fresh] at flies
          cases flies
      · rw [if_neg same] at found
        obtain ⟨f, other, seat⟩ := sound.joined d req' found
        exact ⟨f, other, (elsewhere d same).trans seat⟩
    held := by
      intro d req' stage found critical
      rw [TriggerDesk.joinedFlight, stand_get] at found
      by_cases same : d = c
      · rw [if_pos same] at found
        cases found
        split at critical <;> exact critical.elim
      · rw [if_neg same] at found
        exact sound.held d req' stage found critical
    idle := by
      intro d k flying
      by_cases same : d = c
      · rw [same] at flying
        obtain ⟨f, seat⟩ := Flights.board_seat (s := s.flights) (c := c) (k := req.idempotencyKey)
        cases seat.symm.trans flying
        exact forgotten
      · exact sound.idle d k ((elsewhere d same).symm.trans flying)
    resolved := by
      intro d k t r member
      change (s.flights.board c req.idempotencyKey).futures.get? d = some (.ok r)
      rw [Flights.board_futures]
      exact sound.resolved d k t r member }

/-- A call that is done with waiting leaves its seat. -/
theorem Sound.vacate (sound : s.Sound ttl) {k : String} {f : Nat} {p : Place (Except RpcError (Receipt K))}
    (out : ∀ req stage, s.calls.get? c = some ⟨req, stage⟩ → stage = .done) (known : s.calls.get? c ≠ none)
    (other : p ≠ .aboard) (flights : ({ s.flights with seats := s.flights.seats.set c ⟨k, f, p⟩ } : Flights _ _).Sound) :
    ({ s with flights := { s.flights with seats := s.flights.seats.set c ⟨k, f, p⟩ } } : TriggerDesk K T).Sound ttl :=
  have elsewhere : ∀ d, d ≠ c → (s.flights.seats.set c ⟨k, f, p⟩).get? d = s.flights.seats.get? d :=
    fun d other => (Dict.get?_set _ _ _ _).trans (if_neg other)
  { sound with
    flights := flights
    fresh := by
      intro d absent
      have apart : d ≠ c := by
        intro same
        rw [same] at absent
        exact known absent
      exact (elsewhere d apart).trans (sound.fresh d absent)
    trying := by
      intro d req stage found trying
      have apart : d ≠ c := by
        intro same
        rw [same] at found
        rw [out req stage found] at trying
        exact trying
      exact (elsewhere d apart).trans (sound.trying d req stage found trying)
    joined := by
      intro d req found
      have apart : d ≠ c := by
        intro same
        rw [same] at found
        cases out req _ found
      obtain ⟨g, own, seat⟩ := sound.joined d req found
      exact ⟨g, own, (elsewhere d apart).trans seat⟩
    idle := by
      intro d j flying
      by_cases same : d = c
      · rw [same] at flying
        cases ((Dict.get?_set _ _ _ _).trans (if_pos rfl)).symm.trans flying
        exact absurd rfl other
      · exact sound.idle d j ((elsewhere d same).symm.trans flying) }

theorem Sound.done_only (sound : s.Sound ttl) (c : Nat) (req : TriggerReq) : (s.stand c req .done).Sound ttl ∧
    ∀ req' stage, (s.stand c req .done).calls.get? c = some ⟨req', stage⟩ → stage = .done := by
  refine ⟨sound.finish, ?_⟩
  intro req' stage found
  rw [stand_get, if_pos rfl] at found
  cases found
  rfl

/-- Nothing on record speaks against a reply of the attempt that is still under way. -/
theorem Sound.outlives (sound : s.Sound ttl) {k : String} (flies : s.flights.Flies c k) {d : Nat} {t : T} {r : Receipt K}
    (accepted : .accepted d k t r ∈ s.log) : ttl < s.clock - t := by
  have before := sound.remembered d k t r accepted
  rw [sound.idle c k flies] at before
  exact before.resolve_left nofun

theorem Sound.fail (sound : s.Sound ttl) (flies : s.flights.Flies c req.idempotencyKey) (e : RpcError) :
    (s.fail c req e).Sound ttl := by
  obtain ⟨parked, out⟩ := sound.done_only c req
  have unlocked : ((s.stand c req .done).unlock c req).Sound ttl :=
    parked.unlock (fun req' stage found => by rw [out req' stage found]; exact id)
  have landed := unlocked.land (k := req.idempotencyKey) flies out (.error e)
  have noted := landed.record (e := .failed c req.idempotencyKey e) trivial (fun a _ => by cases a <;> trivial)
  apply noted.record (e := .replied c req.idempotencyKey s.clock (.attempt c) (.error e)) trivial
  intro a member
  cases a with
  | accepted d k t r =>
    intro same _
    rw [← same] at member
    rcases List.mem_append.mp member with old | new
    · exact .inl (sound.outlives flies old)
    · cases List.mem_singleton.mp new
  | _ => trivial

theorem Sound.accept (sound : s.Sound ttl) (flies : s.flights.Flies c req.idempotencyKey) (r : Receipt K) :
    (s.accept c req r).Sound ttl := by
  obtain ⟨parked, out⟩ := sound.done_only c req
  have unlocked : ((s.stand c req .done).unlock c req).Sound ttl :=
    parked.unlock (fun req' stage found => by rw [out req' stage found]; exact id)
  have landed := unlocked.land (k := req.idempotencyKey) flies out (.ok r)
  have cached := landed.receipt (c := c) (k := req.idempotencyKey) (r := r) ((Dict.get?_pop _ _ _).trans (if_pos rfl))
    (sound.idle c _ flies) ((Dict.get?_set _ _ _ _).trans (if_pos rfl))
  apply cached.record (e := .replied c req.idempotencyKey s.clock (.attempt c) (.ok ⟨r, false⟩)) trivial
  intro a member
  cases a with
  | accepted d k t r' =>
    intro same other
    rw [← same] at member
    rcases List.mem_append.mp member with old | new
    · exact .inl (sound.outlives flies old)
    · cases List.mem_singleton.mp new
      exact absurd rfl other
  | _ => trivial

theorem Sound.refused (sound : s.Sound ttl) (reply : Except RpcError (Answer K)) : (s.reply c req .refused reply).Sound ttl := by
  have noted : (s.record (.replied c req.idempotencyKey s.clock .refused reply)).Sound ttl :=
    sound.record trivial (fun a _ => by
      cases a with
      | accepted d k t r => exact fun _ _ => .inr (.inl rfl)
      | _ => trivial)
  exact noted.finish

theorem Sound.replayed (sound : s.Sound ttl) {t : T} {r : Receipt K} (found : s.recent.get? req.idempotencyKey = some (t, r)) :
    (s.reply c req .replay (.ok ⟨r, true⟩)).Sound ttl := by
  have noted : (s.record (.replied c req.idempotencyKey s.clock .replay (.ok ⟨r, true⟩))).Sound ttl := by
    apply sound.record (e := .replied c req.idempotencyKey s.clock .replay (.ok ⟨r, true⟩)) trivial
    intro a member
    cases a with
    | accepted d k t' r' =>
      intro same _
      rw [← same] at member
      rcases sound.remembered _ _ _ _ member with kept | expired
      · cases found.symm.trans kept
        exact .inr (.inr (.inr rfl))
      · exact .inl expired
    | _ => trivial
  exact noted.finish

/-- A call handed the outcome of another's attempt. -/
theorem Sound.resumed (sound : s.Sound ttl) (waits : s.calls.get? c = some ⟨req, .joined⟩) {seat : Seat String (Except RpcError (Receipt K))}
    (seated : s.flights.seats.get? c = some seat) {outcome : Except RpcError (Receipt K)}
    (landed : s.flights.futures.get? seat.flight = some outcome) :
    ({ s with flights := s.flights.take c seat.key seat.flight outcome }.reply c req (.attempt seat.flight)
      (outcome.map (fun receipt => ⟨receipt, true⟩))).Sound ttl := by
  obtain ⟨f, other, aboard⟩ := sound.joined c req waits
  cases aboard.symm.trans seated
  obtain ⟨parked, out⟩ := sound.done_only c req
  have known : (s.stand c req .done).calls.get? c ≠ none := by
    rw [stand_get, if_pos rfl]
    exact nofun
  have vacated := parked.vacate (k := req.idempotencyKey) (f := f) (p := .got outcome) out known nofun
    (Flights.take_sound sound.flights aboard other landed)
  apply vacated.record (e := .replied c req.idempotencyKey s.clock (.attempt f) (outcome.map (fun receipt => ⟨receipt, true⟩)))
    trivial
  intro a member
  cases a with
  | accepted d k t r =>
    intro same apart
    by_cases own : f = d
    · have resolved := sound.resolved d k t r member
      rw [own] at landed
      cases resolved.symm.trans landed
      exact .inr (.inr (.inr rfl))
    · exact .inr (.inr (.inl ⟨f, rfl, own, other⟩))
  | _ => trivial

theorem Sound.left (sound : s.Sound ttl) (waits : s.calls.get? c = some ⟨req, .joined⟩) {seat : Seat String (Except RpcError (Receipt K))}
    (seated : s.flights.seats.get? c = some seat) :
    ({ s with flights := s.flights.leave c seat.key seat.flight }.stand c req .done).Sound ttl := by
  obtain ⟨f, other, aboard⟩ := sound.joined c req waits
  cases aboard.symm.trans seated
  obtain ⟨parked, out⟩ := sound.done_only c req
  have known : (s.stand c req .done).calls.get? c ≠ none := by
    rw [stand_get, if_pos rfl]
    exact nofun
  exact parked.vacate out known nofun (Flights.leave_sound sound.flights aboard other)

theorem Sound.pruned [DecidableLT T] (sound : s.Sound ttl) : (s.pruned ttl).Sound ttl :=
  { sound with
    idle := by
      intro c k flying
      exact (Dict.get?_keep _ _ _).trans ((congrArg (Option.filter _) (sound.idle c k flying)).trans rfl)
    remembered := by
      intro c k t r member
      rcases sound.remembered c k t r member with kept | expired
      · by_cases past : ttl < s.clock - t
        · exact .inr past
        · refine .inl ((Dict.get?_keep _ _ _).trans ?_)
          rw [kept]
          simp [Option.filter, past]
      · exact .inr expired
    cached := by
      intro k t r found
      apply sound.cached k t r
      rw [TriggerDesk.pruned, Dict.get?_keep, Option.filter_eq_some_iff] at found
      exact found.1 }

end

section
variable [AddCommGroup T] [LinearOrder T] [IsOrderedAddMonoid T]

theorem Sound.tick (sound : s.Sound ttl) (now : T) : ({ s with clock := max s.clock now } : TriggerDesk K T).Sound ttl :=
  { sound with
    remembered := fun c k t r member =>
      (sound.remembered c k t r member).imp_right (fun past => past.trans_le (sub_le_sub_right (le_max_left _ _) t)) }

end

section
variable [Field K] [DecidableEq K] [Sub T] [LT T] [DecidableLT T] {env : ScopeEnv K} {cfg : TriggerConfig T}

omit [Field K] [DecidableEq K] in
theorem Sound.arrive (sound : s.Sound cfg.ttl) (new : s.calls.get? c = none) : (s.arrive env cfg c req).Sound cfg.ttl := by
  unfold TriggerDesk.arrive
  split
  · exact sound.refused _
  · split
    · rename_i cached found
      exact sound.pruned.replayed found
    · rename_i forgotten
      exact sound.pruned.board new forgotten

omit [Field K] [DecidableEq K] in
theorem Sound.proceed (sound : s.Sound ttl) (flies : s.flights.Flies c req.idempotencyKey)
    (held : s.locks.get? req.threadKey = some c) (threadId : Json K) (m : Moments T) :
    (s.proceed env cfg c req threadId m).Sound ttl := by
  unfold TriggerDesk.proceed
  split
  · exact (sound.aside s.threads s.loaded (s.scopes.bind req.teacher (env.str threadId) req.classId).1 s.guard).fail flies _
  · have checked := sound.aside s.threads s.loaded (s.scopes.bind req.teacher (env.str threadId) req.classId).1
      (checkTurnStart cfg.budget s.guard (env.str threadId) m).1
    split
    · exact checked.fail flies _
    · have noted := checked.record
        (e := .turn c req.idempotencyKey s.clock threadId req.message) trivial (fun a member => by
          cases a with
          | accepted d k t r =>
            intro same
            rw [← same] at member
            exact sound.outlives flies member
          | _ => trivial)
      exact noted.stand (fun _ => flies) nofun (fun _ => held)

end

section
variable [Field K] [DecidableEq K] [Sub T] [LinearOrder T] (env : ScopeEnv K) (cfg : TriggerConfig T)

/-- All that a step can do. -/
inductive Change (s : TriggerDesk K T) : Event K T → TriggerDesk K T → Prop
  | same (e : Event K T) : Change s e s
  | tick (e : Event K T) (now : T) : Change s e { s with clock := max s.clock now }
  | arrive (c : Nat) (req : TriggerReq) (new : s.calls.get? c = none) : Change s (.arrive c req) (s.arrive env cfg c req)
  | lock (e : Event K T) (c : Nat) (req : TriggerReq) (waits : s.calls.get? c = some ⟨req, .locking⟩)
      (free : s.locks.get? req.threadKey = none) :
      Change s e ({ s with locks := s.locks.set req.threadKey c }.stand c req .bridging)
  | start (e : Event K T) (c : Nat) (req : TriggerReq) (b : Nat) (waits : s.calls.get? c = some ⟨req, .bridging⟩)
      (absent : s.stored req.threadKey = none) :
      Change s e ((s.record (.start c req.threadKey)).stand c req (.starting b))
  | ask (e : Event K T) (c : Nat) (req : TriggerReq) (b : Nat) (threadId : Json K)
      (waits : s.calls.get? c = some ⟨req, .bridging⟩) : Change s e (s.stand c req (.resuming b threadId))
  | use (e : Event K T) (c : Nat) (req : TriggerReq) (stage : Stage K) (threadId : Json K) (loaded : Dict Nat (List String))
      (m : Moments T) (waits : s.calls.get? c = some ⟨req, stage⟩) (critical : stage.Critical) :
      Change s e ({ s with loaded }.proceed env cfg c req threadId m)
  | store (e : Event K T) (c : Nat) (req : TriggerReq) (b : Nat) (threadId : Json K) (loaded : Dict Nat (List String))
      (m : Moments T) (waits : s.calls.get? c = some ⟨req, .starting b⟩) (real : Ingestion.truthy threadId = true) :
      Change s e ({ s with loaded, threads := s.threads.set req.threadKey threadId }.proceed env cfg c req threadId m)
  | accept (e : Event K T) (c : Nat) (req : TriggerReq) (stage : Stage K) (receipt : Receipt K)
      (waits : s.calls.get? c = some ⟨req, stage⟩) (trying : stage.Trying) : Change s e (s.accept c req receipt)
  | fail (e : Event K T) (c : Nat) (req : TriggerReq) (stage : Stage K) (error : RpcError)
      (waits : s.calls.get? c = some ⟨req, stage⟩) (trying : stage.Trying) : Change s e (s.fail c req error)
  | resumed (e : Event K T) (c : Nat) (req : TriggerReq) (seat : Seat String (Except RpcError (Receipt K)))
      (outcome : Except RpcError (Receipt K)) (waits : s.calls.get? c = some ⟨req, .joined⟩)
      (seated : s.flights.seats.get? c = some seat) (landed : s.flights.futures.get? seat.flight = some outcome) :
      Change s e ({ s with flights := s.flights.take c seat.key seat.flight outcome }.reply c req (.attempt seat.flight)
        (outcome.map (fun receipt => ⟨receipt, true⟩)))
  | left (e : Event K T) (c : Nat) (req : TriggerReq) (seat : Seat String (Except RpcError (Receipt K)))
      (waits : s.calls.get? c = some ⟨req, .joined⟩) (seated : s.flights.seats.get? c = some seat) :
      Change s e ({ s with flights := s.flights.leave c seat.key seat.flight }.stand c req .done)
  | aside (e : Event K T) (scopes : Scopes) (guard : BudgetGuard T) : Change s e { s with scopes, guard }

theorem startedThread_truthy {result threadId : Json K} (started : startedThread result = .ok threadId) :
    Ingestion.truthy threadId = true := by
  obtain ⟨id, _, last⟩ := bind_ok started
  split at last
  · rename_i real
    cases last
    exact real
  · cases last

theorem at_call {s : TriggerDesk K T} {e : Event K T} {c : Nat} {go : TriggerCall K → TriggerDesk K T}
    (change : ∀ req stage, s.calls.get? c = some ⟨req, stage⟩ → Change env cfg s e (go ⟨req, stage⟩)) :
    Change env cfg s e (s.atCall c go) := by
  unfold atCall
  split
  · exact .same e
  · rename_i call found
    exact change call.req call.stage found

theorem lock_change (s : TriggerDesk K T) (c : Nat) : Change env cfg s (.lock c) (s.atCall c (s.lockStep c)) := by
  apply at_call
  intro req stage found
  unfold lockStep
  cases stage with
  | locking =>
    dsimp only
    split
    · rename_i free
      exact .lock _ c req found free
    · exact .same _
  | _ => exact .same _

theorem bridged_change (s : TriggerDesk K T) (c b : Nat) (m : Moments T) :
    Change env cfg s (.bridged c b m) (s.atCall c (s.bridgedStep env cfg c b m)) := by
  apply at_call
  intro req stage found
  unfold bridgedStep
  cases stage with
  | bridging =>
    dsimp only
    unfold TriggerDesk.bridged
    split
    · rename_i absent
      exact .start _ c req b found absent
    · split
      · exact .use _ c req .bridging _ s.loaded m found trivial
      · exact .ask _ c req b _ found
  | _ => exact .same _

theorem answered_change (s : TriggerDesk K T) (c : Nat) (result : Json K) (m : Moments T) :
    Change env cfg s (.answered c result m) (s.atCall c (s.answeredStep env cfg c result m)) := by
  apply at_call
  intro req stage found
  unfold answeredStep
  cases stage with
  | starting b =>
    dsimp only
    split
    · exact .fail _ c req _ _ found trivial
    · rename_i threadId started
      exact .store _ c req b threadId _ m found (startedThread_truthy started)
  | resuming b threadId => exact .use _ c req _ threadId _ m found trivial
  | turning threadId => exact .accept _ c req _ _ found trivial
  | _ => exact .same _

theorem fault_change (s : TriggerDesk K T) (c : Nat) (fault : Fault) :
    Change env cfg s (.fault c fault) (s.atCall c (s.faultStep c fault)) := by
  apply at_call
  intro req stage found
  unfold faultStep
  cases stage with
  | joined | done => exact .same _
  | _ => exact .fail _ c req _ _ found trivial

theorem resume_change (s : TriggerDesk K T) (c : Nat) : Change env cfg s (.resume c) (s.atCall c (s.resumeStep c)) := by
  apply at_call
  intro req stage found
  unfold resumeStep
  cases stage with
  | joined =>
    dsimp only
    split
    · exact .same _
    · rename_i seat seated
      split
      · exact .same _
      · rename_i outcome landed
        exact .resumed _ c req seat outcome found seated landed
  | _ => exact .same _

theorem leave_change (s : TriggerDesk K T) (c : Nat) : Change env cfg s (.leave c) (s.atCall c (s.leaveStep c)) := by
  apply at_call
  intro req stage found
  unfold leaveStep
  cases stage with
  | joined =>
    dsimp only
    split
    · exact .same _
    · rename_i seat seated
      exact .left _ c req seat found seated
  | _ => exact .same _

theorem step_change (s : TriggerDesk K T) (e : Event K T) : Change env cfg s e (s.step env cfg e) := by
  cases e with
  | tick now => exact .tick _ now
  | arrive c req =>
    dsimp only [TriggerDesk.step]
    cases known : s.calls.get? c with
    | some call => exact .same _
    | none => exact .arrive c req known
  | lock c => exact lock_change env cfg s c
  | bridged c b m => exact bridged_change env cfg s c b m
  | answered c result m => exact answered_change env cfg s c result m
  | fault c fault => exact fault_change env cfg s c fault
  | resume c => exact resume_change env cfg s c
  | leave c => exact leave_change env cfg s c
  | bind teacherId threadId classId => exact .aside _ _ s.guard
  | spend call => exact .aside _ s.scopes _

end

section
variable [Field K] [DecidableEq K] [AddCommGroup T] [LinearOrder T] [IsOrderedAddMonoid T] {env : ScopeEnv K}
  {cfg : TriggerConfig T} {t : TriggerDesk K T} {e : Event K T}

theorem Sound.change (sound : s.Sound cfg.ttl) (change : Change env cfg s e t) : t.Sound cfg.ttl := by
  cases change with
  | same => exact sound
  | tick _ now => exact sound.tick now
  | arrive c req new => exact sound.arrive new
  | lock _ c req waits free =>
    have flies := sound.trying c req _ waits trivial
    apply Sound.stand (sound.lock free)
    · exact fun _ => flies
    · exact nofun
    · exact fun _ => (Dict.get?_set _ _ _ _).trans (if_pos rfl)
  | start _ c req b waits absent =>
    have noted := sound.record (e := .start c req.threadKey) trivial (fun a _ => by cases a <;> trivial)
    exact noted.stand (fun _ => sound.trying c req _ waits trivial) nofun (fun _ => sound.held c req _ waits trivial)
  | ask _ c req b threadId waits =>
    exact sound.stand (fun _ => sound.trying c req _ waits trivial) nofun (fun _ => sound.held c req _ waits trivial)
  | use _ c req stage threadId loaded m waits critical =>
    exact (sound.aside s.threads loaded s.scopes s.guard).proceed (sound.trying c req stage waits critical.trying)
      (sound.held c req stage waits critical) threadId m
  | store _ c req b threadId loaded m waits real =>
    exact (sound.aside (s.threads.set req.threadKey threadId) loaded s.scopes s.guard).proceed
      (sound.trying c req _ waits trivial) (sound.held c req _ waits trivial) threadId m
  | accept _ c req stage receipt waits trying => exact sound.accept (sound.trying c req stage waits trying) receipt
  | fail _ c req stage error waits trying => exact sound.fail (sound.trying c req stage waits trying) error
  | resumed _ c req seat outcome waits seated landed => exact sound.resumed waits seated landed
  | left _ c req seat waits seated => exact sound.left waits seated
  | aside _ scopes guard => exact sound.aside s.threads s.loaded scopes guard

theorem Sound.step (sound : s.Sound cfg.ttl) (e : Event K T) : (s.step env cfg e).Sound cfg.ttl :=
  sound.change (step_change env cfg s e)

end

end

end TriggerDesk

end KnowledgeGap.Gateway
