import KnowledgeGap.Gateway.Spawning

namespace KnowledgeGap.Gateway.Switchboard

open Relational Protocol

variable {s t : Switchboard} {c d b : Nat} {k : String} {set : Nat} {caller : Caller} {standing : Standing}

/-- The call's stream from the bridge has ended. -/
def Ended (s : Switchboard) (d b : Nat) : Prop := ∃ caller, s.callers.get? d = some caller ∧ caller.standing = .ended b

/-- What one step leaves of what it finds. -/
structure Onward (s : Switchboard) (e : Event) (t : Switchboard) : Prop where
  futures : ∀ f w, s.flights.futures.get? f = some w → t.flights.futures.get? f = some w
  closed : ∀ b, s.flights.futures.get? b = some (.ok b) → (s.bridge b).closed = true → (t.bridge b).closed = true
  subscribers : ∀ b d, s.flights.futures.get? b = some (.ok b) → d ∈ (s.bridge b).subscribers →
    d ∈ (t.bridge b).subscribers ∨ (t.bridge b).closed = true ∨ t.Ended d b
  ended : ∀ d b, s.Ended d b → t.Ended d b
  inflight : ∀ k f, t.flights.inflight.get? k = some f →
    s.flights.inflight.get? k = some f ∨ ∃ events, e = .call f k events
  live : ∀ k b, t.Live k b → s.Live k b ∨ e = .spawned b ∧ s.flights.Flies b k
  firm : ∀ k b, s.Live k b → t.bridges.get? k = some b ∨ e = .reap k

theorem Onward.refl (s : Switchboard) (e : Event) : Onward s e s where
  futures := fun _ _ future => future
  closed := fun _ _ closed => closed
  subscribers := fun _ _ _ member => .inl member
  ended := fun _ _ ended => ended
  inflight := fun _ _ busy => .inl busy
  live := fun _ _ live => .inl live
  firm := fun _ _ live => .inl live.1

theorem ended_change {next : Caller} (callers : ∀ d, t.callers.get? d = if d = c then some next else s.callers.get? d)
    (own : ∀ b, ¬ s.Ended c b) (ended : s.Ended d b) : t.Ended d b := by
  obtain ⟨caller, known, stands⟩ := ended
  have other : d ≠ c := by
    intro same
    rw [same] at known
    exact own b ⟨caller, known, stands⟩
  exact ⟨caller, (callers d).trans ((if_neg other).trans known), stands⟩

theorem not_ended_of_calling (found : s.callers.get? c = some caller) (calling : caller.standing = .calling) (b : Nat) :
    ¬ s.Ended c b := by
  intro ended
  obtain ⟨other, known, stands⟩ := ended
  rw [found, Option.some.injEq] at known
  rw [← known, calling] at stands
  cases stands

theorem not_ended_of_fresh (fresh : s.callers.get? c = none) (b : Nat) : ¬ s.Ended c b := by
  intro ended
  obtain ⟨other, known, _⟩ := ended
  rw [fresh] at known
  cases known

theorem subscribe_alive (s : Switchboard) (b c d : Nat) : ((s.subscribe b c).bridge d).alive = (s.bridge d).alive := by
  rw [subscribe_bridge]
  by_cases same : d = b
  · rw [if_pos same, same]
  · rw [if_neg same]

theorem receive_live : (s.receive c caller b).Live k d ↔ s.Live k d := by
  rw [Live, Live, receive_bridges]
  unfold receive
  split
  · rw [raise_bridge]
  · rw [subscribe_alive, raise_bridge]

section
variable {flights : Flights String (Except String Nat)} {e : Event}

theorem Onward.raised (found : s.callers.get? c = some caller) (calling : caller.standing = .calling)
    (futures : ∀ f w, s.flights.futures.get? f = some w → flights.futures.get? f = some w)
    (inflight : ∀ k f, flights.inflight.get? k = some f → s.flights.inflight.get? k = some f) :
    Onward s e (({ s with flights } : Switchboard).raise c caller standing) where
  futures := by
    intro f w future
    rw [raise_flights]
    exact futures f w future
  closed := by
    intro b _ closed
    rw [raise_bridge]
    exact closed
  subscribers := by
    intro b d _ member
    rw [raise_bridge]
    exact .inl member
  ended := fun d b => ended_change (raise_callers ({ s with flights } : Switchboard) c · caller standing)
    (not_ended_of_calling found calling)
  inflight := by
    intro k f busy
    rw [raise_flights] at busy
    exact .inl (inflight k f busy)
  live := fun k b live => .inl ((raise_live ({ s with flights } : Switchboard) c caller standing k b).mp live)
  firm := by
    intro k b live
    rw [raise_bridges]
    exact .inl live.1

theorem Onward.received (found : s.callers.get? c = some caller) (calling : caller.standing = .calling)
    (futures : ∀ f w, s.flights.futures.get? f = some w → flights.futures.get? f = some w)
    (inflight : ∀ k f, flights.inflight.get? k = some f → s.flights.inflight.get? k = some f) :
    Onward s e (({ s with flights } : Switchboard).receive c caller b) where
  futures := by
    intro f w future
    rw [receive_flights]
    exact futures f w future
  closed := by
    intro d _ closed
    rw [receive_closed]
    exact closed
  subscribers := fun d j _ member => .inl (receive_subscribers ({ s with flights } : Switchboard) c d b caller member)
  ended := fun d j => ended_change (receive_callers ({ s with flights } : Switchboard) c · b caller)
    (not_ended_of_calling found calling)
  inflight := by
    intro k f busy
    rw [receive_flights] at busy
    exact .inl (inflight k f busy)
  live := fun k d live => .inl ((receive_live (s := { s with flights })).mp live)
  firm := by
    intro k d live
    rw [receive_bridges]
    exact .inl live.1

end

theorem Onward.spawned (kept : s.Kept) (found : s.callers.get? c = some caller) (flies : s.flights.Flies c caller.key) :
    Onward s (.spawned c) ((s.publish c caller.key).receive c caller c) := by
  have calling := kept.calling flies rfl found
  have flying := kept.sound.flying c caller.key flies
  have other : ∀ f w, s.flights.futures.get? f = some w → f ≠ c := by
    intro f w future same
    rw [same, flying.2] at future
    cases future
  exact {
    futures := by
      intro f w future
      rw [receive_flights, publish_futures, if_neg (other f w future)]
      exact future
    closed := by
      intro b grounded closed
      rw [receive_closed, publish_bridge, if_neg (other b _ grounded)]
      exact closed
    subscribers := by
      intro b d grounded member
      refine .inl (receive_subscribers _ c b c caller ?_)
      rw [publish_bridge, if_neg (other b _ grounded)]
      exact member
    ended := fun d b => ended_change (receive_callers (s.publish c caller.key) c · c caller)
      (not_ended_of_calling found calling.1)
    inflight := by
      intro k f busy
      rw [receive_flights] at busy
      have still : (if k = caller.key then none else s.flights.inflight.get? k) = some f :=
        (Dict.get?_pop _ _ _).symm.trans busy
      split at still
      · cases still
      · exact .inl still
    live := by
      intro k b live
      rw [receive_live, Live, publish_stored, publish_bridge] at live
      by_cases here : k = caller.key
      · rw [if_pos here, Option.some.injEq] at live
        rw [here, ← live.1]
        exact .inr ⟨rfl, flies⟩
      · rw [if_neg here] at live
        rw [if_neg (other b _ (kept.orderly.grounded k b live.1))] at live
        exact .inl live
    firm := by
      intro k b live
      have here : k ≠ caller.key := by
        intro same
        have clear := kept.orderly.clear k b live
        rw [same, flying.1] at clear
        cases clear
      rw [receive_bridges, publish_stored, if_neg here]
      exact .inl live.1 }

/-- What a fresh call does before it looks for its bridge. -/
def announced (s : Switchboard) (c : Nat) (key : String) (events : Bool) : Switchboard :=
  if events then s.register c key else s

def announcement (s : Switchboard) (c : Nat) (key : String) (events : Bool) : Caller :=
  ⟨key, if events then some (s.pendingSet c key) else none, .calling⟩

theorem call_eq (s : Switchboard) (c : Nat) (key : String) (events : Bool) :
    s.call c key events = (s.announced c key events).getOrSpawn c (s.announcement c key events) := by
  cases events <;> rfl

section
variable (s c) (key : String) (events : Bool)

theorem announced_callers : (s.announced c key events).callers = s.callers := by
  cases events
  · rfl
  · exact register_callers s c key

theorem announced_flights : (s.announced c key events).flights = s.flights := by
  cases events
  · rfl
  · exact register_flights s c key

theorem announced_bridges : (s.announced c key events).bridges = s.bridges := by
  cases events
  · rfl
  · exact register_bridges s c key

theorem announced_bridge : (s.announced c key events).bridge b = s.bridge b := by
  cases events
  · rfl
  · rw [announced, if_pos rfl, bridge, bridge, register_procs]

theorem announced_live : (s.announced c key events).Live k b ↔ s.Live k b := by
  rw [Live, Live, announced_bridges, announced_bridge]

end

theorem Onward.call (fresh : s.callers.get? c = none) (key : String) (events : Bool) :
    Onward s (.call c key events) (s.call c key events) := by
  rw [call_eq]
  by_cases lives : ∃ b, s.Live key b
  · obtain ⟨b, live⟩ := lives
    rw [getOrSpawn_live (s.announcement c key events) ((announced_live s c key events).mpr live)]
    exact {
      futures := by
        intro f w future
        rw [receive_flights, announced_flights]
        exact future
      closed := by
        intro d _ closed
        rw [receive_closed, announced_bridge]
        exact closed
      subscribers := by
        intro d j _ member
        refine .inl (receive_subscribers _ c d b _ ?_)
        rw [announced_bridge]
        exact member
      ended := by
        have callers : ∀ d, ((s.announced c key events).receive c (s.announcement c key events) b).callers.get? d =
            if d = c then some { s.announcement c key events with standing := arrival (s.announcement c key events) b }
            else s.callers.get? d := by
          intro d
          rw [receive_callers, announced_callers]
        exact fun d j => ended_change callers (not_ended_of_fresh fresh)
      inflight := by
        intro k f busy
        rw [receive_flights, announced_flights] at busy
        exact .inl busy
      live := fun k d there => .inl ((announced_live s c key events).mp (receive_live.mp there))
      firm := by
        intro k d there
        rw [receive_bridges, announced_bridges]
        exact .inl there.1 }
  · have dead : ∀ b, ¬ (s.announced c key events).Live (s.announcement c key events).key b :=
      fun b live => lives ⟨b, (announced_live s c key events).mp live⟩
    rw [getOrSpawn_dead _ dead]
    have stored : ∀ k b, (((s.announced c key events).vacate key).board c (s.announcement c key events)).bridges.get? k
        = some b → s.bridges.get? k = some b := by
      intro k b held
      have popped : (if k = key then none else s.bridges.get? k) = some b := by
        rw [← Dict.get?_pop, ← announced_bridges s c key events]
        exact held
      split at popped
      · cases popped
      · exact popped
    exact {
      futures := by
        intro f w future
        refine (congrArg (Dict.get? · f) Flights.board_futures).trans ?_
        rw [← announced_flights s c key events] at future
        exact future
      closed := fun b _ closed => (congrArg Bridge.closed (announced_bridge s c key events)).trans closed
      subscribers := by
        intro b d _ member
        refine .inl ?_
        change d ∈ ((s.announced c key events).bridge b).subscribers
        rw [announced_bridge]
        exact member
      ended := by
        have callers : ∀ d, (((s.announced c key events).vacate key).board c (s.announcement c key events)).callers.get? d =
            if d = c then some { s.announcement c key events with standing := .calling } else s.callers.get? d := by
          intro d
          rw [← announced_callers s c key events]
          exact Dict.get?_set _ _ _ _
        exact fun d j => ended_change callers (not_ended_of_fresh fresh)
      inflight := by
        intro k f busy
        have boarded : ((s.announced c key events).flights.board c key).inflight.get? k = some f := busy
        rw [announced_flights] at boarded
        by_cases here : k = key
        · rw [here] at boarded ⊢
          cases there : s.flights.inflight.get? key with
          | some g =>
            rw [Flights.board, there] at boarded
            exact .inl (there.symm.trans boarded)
          | none =>
            rw [Flights.board, there] at boarded
            have own : some c = some f := ((Dict.get?_set _ _ _ _).trans (if_pos rfl)).symm.trans boarded
            rw [Option.some.inj own]
            exact .inr ⟨events, rfl⟩
        · rw [Flights.board_inflight here] at boarded
          exact .inl boarded
      live := by
        intro k b there
        have alive := there.2
        change ((s.announced c key events).bridge b).alive = true at alive
        rw [announced_bridge] at alive
        exact .inl ⟨stored k b there.1, alive⟩
      firm := by
        intro k b live
        have here : k ≠ key := fun same => lives ⟨b, same ▸ live⟩
        refine .inl ((Dict.get?_pop _ _ _).trans ((if_neg here).trans ?_))
        rw [announced_bridges]
        exact live.1 }

/-- A process ends: it keeps its subscribers, or is closed to them. -/
theorem Onward.halt {e : Event} {b : Nat} {p : Bridge} (dead : p.alive = false)
    (shut : (s.bridge b).closed = true → p.closed = true)
    (kept : p.subscribers = (s.bridge b).subscribers ∨ p.closed = true) :
    Onward s e { s with procs := s.procs.set b p } where
  futures := fun _ _ future => future
  closed := by
    intro d _ closed
    rw [bridge_set]
    by_cases same : d = b
    · rw [if_pos same]
      exact shut (same ▸ closed)
    · rw [if_neg same]
      exact closed
  subscribers := by
    intro d j _ member
    rw [bridge_set]
    by_cases same : d = b
    · rw [if_pos same]
      rcases kept with kept | closed
      · exact .inl (kept ▸ same ▸ member)
      · exact .inr (.inl closed)
    · rw [if_neg same]
      exact .inl member
  ended := fun _ _ ended => ended
  inflight := fun _ _ busy => .inl busy
  live := by
    intro k d live
    have alive := live.2
    rw [bridge_set] at alive
    by_cases same : d = b
    · rw [if_pos same, dead] at alive
      cases alive
    · rw [if_neg same] at alive
      exact .inl ⟨live.1, alive⟩
  firm := fun _ _ live => .inl live.1

theorem Onward.stop {e : Event} (b : Nat) : Onward s e (s.stop b) :=
  Onward.halt rfl id (.inl rfl)

theorem Onward.reap (b : Nat) {key : String} : Onward s (.reap key) ((s.stop b).vacate key) where
  futures := (Onward.stop (e := .reap key) b).futures
  closed := (Onward.stop (e := .reap key) b).closed
  subscribers := (Onward.stop (e := .reap key) b).subscribers
  ended := fun _ _ ended => ended
  inflight := fun _ _ busy => .inl busy
  live := by
    intro k d live
    have stored : (if k = key then none else s.bridges.get? k) = some d := (Dict.get?_pop _ _ _).symm.trans live.1
    split at stored
    · cases stored
    · exact (Onward.stop (e := .reap key) b).live k d ⟨stored, live.2⟩
  firm := by
    intro k d live
    by_cases here : k = key
    · rw [here]
      exact .inr rfl
    · exact .inl ((Dict.get?_pop _ _ _).trans ((if_neg here).trans live.1))

theorem Onward.close {e : Event} (b : Nat) :
    Onward s e { s with procs := s.procs.set b ⟨∅, false, true⟩ } :=
  Onward.halt rfl (fun _ => rfl) (.inr rfl)

theorem Onward.finish (found : s.callers.get? c = some caller) (streams : caller.standing = .streaming b) :
    Onward s (.finish c) ((s.unsubscribe b c).stand c caller (.ended b)) where
  futures := fun _ _ future => future
  closed := by
    intro d _ closed
    change ((s.unsubscribe b c).bridge d).closed = true
    rw [unsubscribe, bridge_set]
    by_cases same : d = b
    · rw [if_pos same, ← same]
      exact closed
    · rw [if_neg same]
      exact closed
  subscribers := by
    intro d j _ member
    by_cases same : d = b
    · by_cases own : j = c
      · rw [same, own]
        exact .inr (.inr ⟨_, (stand_callers _ _ _ _ _).trans (if_pos rfl), rfl⟩)
      · refine .inl ?_
        change j ∈ ((s.unsubscribe b c).bridge d).subscribers
        rw [unsubscribe, bridge_set, if_pos same, ← same]
        exact Finset.mem_erase.mpr ⟨own, member⟩
    · refine .inl ?_
      change j ∈ ((s.unsubscribe b c).bridge d).subscribers
      rw [unsubscribe, bridge_set, if_neg same]
      exact member
  ended := by
    intro d j
    apply ended_change (stand_callers (s.unsubscribe b c) c · caller (.ended b))
    intro i ended
    obtain ⟨other, known, stands⟩ := ended
    have same : some caller = some other := found.symm.trans known
    rw [← Option.some.inj same, streams] at stands
    cases stands
  inflight := fun _ _ busy => .inl busy
  live := by
    intro k d live
    have alive := live.2
    change ((s.unsubscribe b c).bridge d).alive = true at alive
    rw [unsubscribe, bridge_set] at alive
    by_cases same : d = b
    · rw [if_pos same, ← same] at alive
      exact .inl ⟨live.1, alive⟩
    · rw [if_neg same] at alive
      exact .inl ⟨live.1, alive⟩
  firm := fun _ _ live => .inl live.1

theorem Onward.spawnFailed (kept : s.Kept) (found : s.callers.get? c = some caller) (flies : s.flights.Flies c caller.key)
    (e : String) : Onward s (.spawnFailed c e)
      (({ s with flights := s.flights.land c caller.key (.error e) } : Switchboard).raise c caller (.failed e)) := by
  have free := (kept.sound.flying c caller.key flies).2
  apply Onward.raised found (kept.calling flies rfl found).1
  · intro f w future
    have other : f ≠ c := by
      intro same
      rw [same, free] at future
      cases future
    exact (Dict.get?_set _ _ _ _).trans ((if_neg other).trans future)
  · intro k f busy
    have still : (if k = caller.key then none else s.flights.inflight.get? k) = some f :=
      (Dict.get?_pop _ _ _).symm.trans busy
    split at still
    · cases still
    · exact still

theorem Onward.resume (kept : s.Kept) {seat : Seat String (Except String Nat)} (waits : s.Waits c caller seat) :
    Onward s (.resume c) (s.resumeAt c caller seat) := by
  have calling := (kept.calling waits.seated waits.aboard waits.found).1
  unfold resumeAt
  cases s.flights.futures.get? seat.flight with
  | none => exact Onward.refl s _
  | some w =>
    cases w with
    | ok b => exact Onward.received waits.found calling (fun _ _ future => future) (fun _ _ busy => busy)
    | error e => exact Onward.raised waits.found calling (fun _ _ future => future) (fun _ _ busy => busy)

theorem Kept.onward (kept : s.Kept) (e : Event) : Onward s e (s.step e) := by
  cases e with
  | call c key events =>
    rcases call_cases s c key events with idle | ⟨fresh, call⟩
    · rw [idle]
      exact Onward.refl s _
    · rw [call]
      exact Onward.call fresh key events
  | spawned c =>
    rcases owner_cases s c (fun caller => (s.publish c caller.key).receive c caller c) with idle | ⟨caller, found, flies, go⟩
    · rw [Switchboard.step, idle]
      exact Onward.refl s _
    · rw [Switchboard.step, go]
      exact Onward.spawned kept found flies
  | spawnFailed c e =>
    rcases owner_cases s c (fun caller =>
      { s with flights := s.flights.land c caller.key (.error e) }.raise c caller (.failed e)) with idle | ⟨caller, found, flies, go⟩
    · rw [Switchboard.step, idle]
      exact Onward.refl s _
    · rw [Switchboard.step, go]
      exact Onward.spawnFailed kept found flies e
  | resume c =>
    rcases waiter_cases s c (s.resumeAt c) with idle | ⟨caller, seat, waits, go⟩
    · rw [Switchboard.step, idle]
      exact Onward.refl s _
    · rw [Switchboard.step, go]
      exact Onward.resume kept waits
  | cancel c =>
    rcases waiter_cases s c (fun caller seat =>
      { s with flights := s.flights.leave c seat.key seat.flight }.raise c caller .cancelled) with
      idle | ⟨caller, seat, waits, go⟩
    · rw [Switchboard.step, idle]
      exact Onward.refl s _
    · rw [Switchboard.step, go]
      exact Onward.raised waits.found (kept.calling waits.seated waits.aboard waits.found).1 (fun _ _ future => future)
        (fun _ _ busy => busy)
  | finish c =>
    rcases finish_cases s c with idle | ⟨caller, b, found, streams, go⟩
    · rw [Switchboard.step, idle]
      exact Onward.refl s _
    · rw [Switchboard.step, go]
      exact Onward.finish found streams
  | exit key =>
    rcases exit_cases s key with idle | ⟨b, _, go⟩
    · rw [idle]
      exact Onward.refl s _
    · rw [go]
      exact Onward.stop b
  | close b =>
    rcases close_cases s b with idle | ⟨_, go⟩
    · rw [idle]
      exact Onward.refl s _
    · rw [go]
      exact Onward.close b
  | reap key =>
    rcases reap_cases s key with idle | ⟨b, _, _, go⟩
    · rw [idle]
      exact Onward.refl s _
    · rw [go]
      exact Onward.reap b

/-! Whole runs. -/

/-- The queue is on the bridge, or the reader of the bridge or the queue's own stream has ended. -/
def Reached (s : Switchboard) (d b : Nat) : Prop :=
  d ∈ (s.bridge b).subscribers ∨ (s.bridge b).closed = true ∨ s.Ended d b

theorem reached_step (kept : s.Kept) (grounded : s.flights.futures.get? b = some (.ok b)) (reached : s.Reached d b)
    (e : Event) : (s.step e).Reached d b := by
  have onward := kept.onward e
  rcases reached with member | closed | ended
  · exact onward.subscribers b d grounded member
  · exact .inr (.inl (onward.closed b grounded closed))
  · exact .inr (.inr (onward.ended d b ended))

theorem reached_run (kept : s.Kept) (grounded : s.flights.futures.get? b = some (.ok b)) (reached : s.Reached d b)
    (events : List Event) (along : Along step Allowed s events) : (run step s events).Reached d b := by
  induction events generalizing s with
  | nil => exact reached
  | cons e events ih =>
    exact ih (kept.step e along.1) ((kept.onward e).futures b _ grounded) (reached_step kept grounded reached e) along.2

/-- No spawn is under way for the key and no live bridge is stored. -/
def Quiet (s : Switchboard) (k : String) : Prop := s.flights.inflight.get? k = none ∧ ∀ b, ¬ s.Live k b

def Event.calls (k : String) : Event → Bool
  | .call _ key _ => decide (key = k)
  | _ => false

theorem quiet_step (kept : s.Kept) (quiet : s.Quiet k) {e : Event} (other : e.calls k = false) : (s.step e).Quiet k := by
  have onward := kept.onward e
  refine ⟨?_, ?_⟩
  · rw [Option.eq_none_iff_forall_ne_some]
    intro f busy
    rcases onward.inflight k f busy with before | ⟨events, call⟩
    · rw [quiet.1] at before
      cases before
    · rw [call] at other
      simp [Event.calls] at other
  · intro b live
    rcases onward.live k b live with before | ⟨_, flies⟩
    · exact quiet.2 b before
    · have busy := (kept.sound.flying b k flies).1
      rw [quiet.1] at busy
      cases busy

theorem quiet_run (kept : s.Kept) (quiet : s.Quiet k) (events : List Event) (along : Along step Allowed s events)
    (others : ∀ e ∈ events, e.calls k = false) : (run step s events).Kept ∧ (run step s events).Quiet k := by
  induction events generalizing s with
  | nil => exact ⟨kept, quiet⟩
  | cons e events ih =>
    exact ih (kept.step e along.1) (quiet_step kept quiet (others e List.mem_cons_self)) along.2
      (fun next member => others next (List.mem_cons_of_mem e member))

theorem call_flies (quiet : s.Quiet k) (fresh : s.callers.get? d = none) (events : Bool) :
    (s.step (.call d k events)).flights.Flies d k := by
  have call : s.step (.call d k events) = s.call d k events := by
    dsimp only [step]
    rw [fresh]
    rfl
  rw [call, call_eq, getOrSpawn_dead (s.announcement d k events)
    (fun b live => quiet.2 b ((announced_live s d k events).mp live))]
  change ((s.announced d k events).flights.board d k).Flies d k
  rw [announced_flights]
  exact Flights.board_flies quiet.1

theorem call_joins (kept : s.Kept) {f : Nat} (busy : s.flights.inflight.get? k = some f)
    (fresh : s.callers.get? d = none) (events : Bool) :
    (s.step (.call d k events)).flights.seats.get? d = some ⟨k, f, .aboard⟩ := by
  have dead : ∀ b, ¬ s.Live k b := by
    intro b live
    rw [kept.orderly.clear k b live] at busy
    cases busy
  have call : s.step (.call d k events) = s.call d k events := by
    dsimp only [step]
    rw [fresh]
    rfl
  rw [call, call_eq, getOrSpawn_dead (s.announcement d k events)
    (fun b live => dead b ((announced_live s d k events).mp live))]
  change ((s.announced d k events).flights.board d k).seats.get? d = _
  rw [announced_flights]
  exact Flights.board_joins busy

theorem Kept.owner (kept : s.Kept) (flies : s.flights.Flies c k) :
    ∃ caller, s.callers.get? c = some caller ∧ caller.key = k := by
  obtain ⟨caller, known, key, _⟩ := kept.agree c _ flies
  exact ⟨caller, known, key⟩

theorem step_spawned (found : s.callers.get? c = some caller) (flies : s.flights.Flies c caller.key) :
    s.step (.spawned c) = (s.publish c caller.key).receive c caller c := by
  rw [step, owner, found]
  exact if_pos flies

theorem step_spawnFailed (found : s.callers.get? c = some caller) (flies : s.flights.Flies c caller.key) (e : String) :
    s.step (.spawnFailed c e) =
      ({ s with flights := s.flights.land c caller.key (.error e) } : Switchboard).raise c caller (.failed e) := by
  rw [step, owner, found]
  exact if_pos flies

theorem failed_quiet (kept : s.Kept) (flies : s.flights.Flies c k) (e : String) : (s.step (.spawnFailed c e)).Quiet k := by
  obtain ⟨caller, found, key⟩ := kept.owner flies
  subst key
  have busy := (kept.sound.flying c caller.key flies).1
  rw [step_spawnFailed found flies]
  refine ⟨?_, ?_⟩
  · rw [raise_flights]
    exact (Dict.get?_pop _ _ _).trans (if_pos rfl)
  · intro b live
    have before : s.Live caller.key b :=
      (raise_live ({ s with flights := s.flights.land c caller.key (.error e) } : Switchboard) c caller _ _ b).mp live
    rw [kept.orderly.clear caller.key b before] at busy
    cases busy

theorem spawned_visible (kept : s.Kept) (flies : s.flights.Flies c k) : (s.step (.spawned c)).Live k c := by
  obtain ⟨caller, found, key⟩ := kept.owner flies
  subst key
  rw [step_spawned found flies, receive_live, Live, publish_stored, publish_bridge, if_pos rfl, if_pos rfl]
  exact ⟨rfl, rfl⟩

theorem spawned_reached (kept : s.Kept) (flies : s.flights.Flies c k) (awaits : s.Awaits d k set) :
    (s.step (.spawned c)).Reached d c := by
  obtain ⟨caller, found, key⟩ := kept.owner flies
  subst key
  rw [step_spawned found flies]
  have member : d ∈ ((s.publish c caller.key).bridge c).subscribers := by
    rw [publish_bridge, if_pos rfl]
    exact awaits_published kept.orderly (kept.sound.flying c caller.key flies).1 awaits
  exact .inl (receive_subscribers (s.publish c caller.key) c c c caller member)

/-- What callers of `_get_or_spawn_bridge` and `thread_events` can rely on. -/
structure Served (s : Switchboard) : Prop where
  single : ∀ c d k, s.flights.Flies c k → s.flights.Flies d k → c = d
  joins : ∀ c d k events, s.flights.Flies c k → s.callers.get? d = none →
    (s.step (.call d k events)).flights.seats.get? d = some ⟨k, c, .aboard⟩
  same : ∀ c d one two first second w v, s.flights.seats.get? c = some one → s.flights.seats.get? d = some two →
    one.flight = two.flight → s.callers.get? c = some first → s.callers.get? d = some second →
    first.standing.place = .got w → second.standing.place = .got v → w = v
  again : ∀ c k e, s.flights.Flies c k → ∀ more, Along step Allowed (s.step (.spawnFailed c e)) more →
    (∀ e ∈ more, e.calls k = false) → ∀ d events, (run step (s.step (.spawnFailed c e)) more).callers.get? d = none →
      ((run step (s.step (.spawnFailed c e)) more).step (.call d k events)).flights.Flies d k
  firm : ∀ k b e, s.Live k b → (s.step e).bridges.get? k = some b ∨ e = .reap k
  early : ∀ c k, s.flights.Flies c k → (s.step (.spawned c)).Live k c ∧
    ∀ d set, s.Awaits d k set → ∀ more, Along step Allowed (s.step (.spawned c)) more →
      (run step (s.step (.spawned c)) more).Reached d c

theorem Kept.served (kept : s.Kept) : s.Served where
  single := fun _ _ _ one two => kept.sound.single one two
  joins := fun c d k events flies fresh => call_joins kept (kept.sound.flying c k flies).1 fresh events
  same := by
    intro c d one two first second w v left right shared found known given handed
    obtain ⟨other, stands, _, place⟩ := kept.agree c one left
    rw [found, Option.some.injEq] at stands
    rw [← stands, given] at place
    obtain ⟨another, sits, _, seat⟩ := kept.agree d two right
    rw [known, Option.some.injEq] at sits
    rw [← sits, handed] at seat
    obtain ⟨key, flight, here⟩ := one
    obtain ⟨lock, plane, there⟩ := two
    dsimp only at shared place seat
    rw [← place] at left
    rw [← seat, ← shared] at right
    exact kept.sound.agree left right
  again := by
    intro c k e flies more along others d events fresh
    have failed := kept.step (.spawnFailed c e) trivial
    have quiet := quiet_run failed (failed_quiet kept flies e) more along others
    exact call_flies quiet.2 fresh events
  firm := fun k b e live => (kept.onward e).firm k b live
  early := by
    intro c k flies
    have live := spawned_visible kept flies
    have after := kept.step (.spawned c) trivial
    refine ⟨live, ?_⟩
    intro d set awaits more along
    exact reached_run after (after.orderly.grounded k c live.1) (spawned_reached kept flies awaits) more along

theorem bridge_single_flight (events : List Event) (along : Along step Allowed init events) :
    (run step init events).Served :=
  (run_invariant_along (fun _ e kept allowed => Kept.step kept e allowed) events init along init_kept).served

theorem settled_of_entries (idle : ∀ e ∈ s.callers.entries, e.2.standing ≠ .calling) (k : String) : s.Settled k := by
  intro c set awaits
  exact idle _ ((Dict.get?_eq_some_iff _ _ _).mp awaits) rfl

theorem bridge_single_flight_respawn :
    (run step init [.call 1 "t7" false, .call 2 "t7" true, .spawned 1, .resume 2, .exit "t7", .close 1, .finish 2,
      .call 3 "t7" true]).Served :=
  bridge_single_flight _ ⟨trivial, trivial, trivial, trivial, fun _ _ _ => settled_of_entries (by decide +kernel) "t7",
    trivial, trivial, trivial, trivial⟩

/-- The reader of a dead process forgets a stream that has not ended. A call that waited for a failed spawn and goes on
    only under a later one, whose process came and went between, takes away the set the later calls wait in. -/
theorem subscriber_forgotten :
    ((run step init [.call 1 "t7" true, .spawned 1, .exit "t7", .close 1]).callers.get? 1
        = some ⟨"t7", some 1, .streaming 1⟩ ∧
      1 ∉ ((run step init [.call 1 "t7" true, .spawned 1, .exit "t7", .close 1]).bridge 1).subscribers) ∧
    (∀ e ∈ (run step init [.call 1 "t7" false, .call 2 "t7" true, .spawnFailed 1 "boot", .call 3 "t7" false,
        .spawned 3]).flights.seats.entries, e.2.flight = 3 → e.2.place ≠ .aboard) ∧
      (run step init [.call 1 "t7" false, .call 2 "t7" true, .spawnFailed 1 "boot", .call 3 "t7" false, .spawned 3,
        .exit "t7", .call 4 "t7" true, .call 5 "t7" true, .resume 2]).callers.get? 5 = some ⟨"t7", some 4, .calling⟩ ∧
      (run step init [.call 1 "t7" false, .call 2 "t7" true, .spawnFailed 1 "boot", .call 3 "t7" false, .spawned 3,
        .exit "t7", .call 4 "t7" true, .call 5 "t7" true, .resume 2, .spawned 4]).bridges.get? "t7" = some 4 ∧
      5 ∉ ((run step init [.call 1 "t7" false, .call 2 "t7" true, .spawnFailed 1 "boot", .call 3 "t7" false, .spawned 3,
        .exit "t7", .call 4 "t7" true, .call 5 "t7" true, .resume 2, .spawned 4]).bridge 4).subscribers := by
  decide +kernel

end KnowledgeGap.Gateway.Switchboard
