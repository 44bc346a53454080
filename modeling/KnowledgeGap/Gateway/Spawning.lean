import KnowledgeGap.Protocol.Runs
import KnowledgeGap.Gateway.Subscribers

namespace KnowledgeGap.Gateway

open Relational Protocol

def Standing.place : Standing → Place (Except String Nat)
  | .calling => .aboard
  | .returned b => .got (.ok b)
  | .streaming b => .got (.ok b)
  | .ended b => .got (.ok b)
  | .failed e => .got (.error e)
  | .cancelled => .left

theorem Standing.calling_of_place {standing : Standing} (aboard : standing.place = .aboard) : standing = .calling := by
  cases standing <;> first | rfl | cases aboard

namespace Switchboard

variable {s t : Switchboard} {c d b : Nat} {k : String} {set : Nat} {caller : Caller} {standing : Standing}

/-- A call stands where its seat is. -/
def Agree (s : Switchboard) : Prop :=
  ∀ c seat, s.flights.seats.get? c = some seat →
    ∃ caller, s.callers.get? c = some caller ∧ caller.key = seat.key ∧ caller.standing.place = seat.place

theorem Agree.change {next : Caller} (agree : s.Agree)
    (callers : ∀ d, t.callers.get? d = if d = c then some next else s.callers.get? d)
    (others : ∀ d, d ≠ c → t.flights.seats.get? d = s.flights.seats.get? d)
    (own : ∀ seat, t.flights.seats.get? c = some seat → next.key = seat.key ∧ next.standing.place = seat.place) :
    t.Agree := by
  intro d seat found
  rw [callers]
  by_cases same : d = c
  · rw [same] at found
    exact ⟨next, if_pos same, own seat found⟩
  · rw [others d same] at found
    rw [if_neg same]
    exact agree d seat found

theorem Fed.change {next : Caller} (fed : s.Fed)
    (callers : ∀ d, t.callers.get? d = if d = c then some next else s.callers.get? d)
    (futures : ∀ b, s.flights.futures.get? b = some (.ok b) → t.flights.futures.get? b = some (.ok b))
    (bridges : ∀ d b, d ≠ c → s.flights.futures.get? b = some (.ok b) →
      d ∈ (s.bridge b).subscribers ∨ (s.bridge b).closed = true → d ∈ (t.bridge b).subscribers ∨ (t.bridge b).closed = true)
    (own : ∀ b, next.standing = .streaming b →
      t.flights.futures.get? b = some (.ok b) ∧ (c ∈ (t.bridge b).subscribers ∨ (t.bridge b).closed = true)) : t.Fed := by
  intro d other b known streaming
  rw [callers] at known
  by_cases same : d = c
  · rw [if_pos same, Option.some.injEq] at known
    rw [← known] at streaming
    rw [same]
    exact own b streaming
  · rw [if_neg same] at known
    have before := fed d other b known streaming
    exact ⟨futures b before.1, bridges d b same before.1 before.2⟩

structure Kept (s : Switchboard) : Prop where
  sound : s.flights.Sound
  made : ∀ f b, s.flights.futures.get? f = some (.ok b) → f = b
  agree : s.Agree
  orderly : s.Orderly
  fed : s.Fed

theorem Kept.unseated (kept : s.Kept) (fresh : s.callers.get? c = none) : s.flights.seats.get? c = none := by
  cases seated : s.flights.seats.get? c with
  | none => rfl
  | some seat =>
    obtain ⟨caller, known, _⟩ := kept.agree c seat seated
    rw [fresh] at known
    cases known

theorem Kept.calling (kept : s.Kept) {seat : Seat String (Except String Nat)} (seated : s.flights.seats.get? c = some seat)
    (aboard : seat.place = .aboard) (found : s.callers.get? c = some caller) :
    caller.standing = .calling ∧ caller.key = seat.key := by
  obtain ⟨other, known, key, place⟩ := kept.agree c seat seated
  rw [found, Option.some.injEq] at known
  rw [known]
  exact ⟨Standing.calling_of_place (place.trans aboard), key⟩

/-- Only the flights of the calls change. -/
theorem Fed.fly (fed : s.Fed) {flights : Flights String (Except String Nat)}
    (landed : ∀ b, s.flights.futures.get? b = some (.ok b) → flights.futures.get? b = some (.ok b)) :
    ({ s with flights } : Switchboard).Fed := by
  intro c caller b known streaming
  have before := fed c caller b known streaming
  exact ⟨landed b before.1, before.2⟩

theorem Fed.raise (fed : s.Fed) (stopped : ∀ b, standing ≠ .streaming b) : (s.raise c caller standing).Fed := by
  apply fed.change (raise_callers s c · caller standing)
  · intro b landed
    rw [raise_flights]
    exact landed
  · intro d b _ _ before
    rw [raise_bridge]
    exact before
  · intro b streaming
    exact absurd streaming (stopped b)

/-! A call that is given a bridge. -/

def arrival (caller : Caller) (b : Nat) : Standing :=
  match caller.pending with
  | none => .returned b
  | some _ => .streaming b

theorem arrival_place (caller : Caller) (b : Nat) : (arrival caller b).place = .got (.ok b) := by
  unfold arrival
  cases caller.pending <;> rfl

section
variable (s c d caller b)

theorem receive_callers : (s.receive c caller b).callers.get? d =
    if d = c then some { caller with standing := arrival caller b } else s.callers.get? d := by
  obtain ⟨key, pending, standing⟩ := caller
  cases pending <;> exact raise_callers s c d _ _

@[simp] theorem receive_flights : (s.receive c caller b).flights = s.flights := by
  unfold receive
  split <;> exact raise_flights s c caller _

@[simp] theorem receive_bridges : (s.receive c caller b).bridges = s.bridges := by
  unfold receive
  split <;> exact raise_bridges s c caller _

theorem subscribe_bridge : (s.subscribe b c).bridge d =
    if d = b then { s.bridge b with subscribers := insert c (s.bridge b).subscribers } else s.bridge d :=
  bridge_set s b d _

theorem subscribe_subscribers {j : Nat} (member : j ∈ (s.bridge d).subscribers) :
    j ∈ ((s.subscribe b c).bridge d).subscribers := by
  rw [subscribe_bridge]
  by_cases same : d = b
  · rw [if_pos same, ← same]
    exact Finset.mem_insert_of_mem member
  · rw [if_neg same]
    exact member

theorem subscribe_closed : ((s.subscribe b c).bridge d).closed = (s.bridge d).closed := by
  rw [subscribe_bridge]
  by_cases same : d = b
  · rw [if_pos same, same]
  · rw [if_neg same]

theorem receive_closed : ((s.receive c caller b).bridge d).closed = (s.bridge d).closed := by
  unfold receive
  split
  · rw [raise_bridge]
  · rw [subscribe_closed, raise_bridge]

theorem receive_subscribers {j : Nat} (member : j ∈ (s.bridge d).subscribers) :
    j ∈ ((s.receive c caller b).bridge d).subscribers := by
  unfold receive
  split
  · rw [raise_bridge]
    exact member
  · apply subscribe_subscribers
    rw [raise_bridge]
    exact member

end

theorem Orderly.receive (orderly : s.Orderly) (found : s.callers.get? c = some caller)
    (calling : caller.standing = .calling) : (s.receive c caller b).Orderly := by
  unfold Switchboard.receive
  split
  · exact orderly.raise found calling (by simp)
  · exact (orderly.raise found calling (by simp)).subscribe

theorem Fed.receive (fed : s.Fed) (landed : s.flights.futures.get? b = some (.ok b)) : (s.receive c caller b).Fed := by
  apply fed.change (receive_callers s c · b caller)
  · intro j before
    rw [receive_flights]
    exact before
  · intro d j _ _ before
    rw [receive_closed]
    exact before.imp_left (receive_subscribers s c j b caller)
  · intro j streaming
    have own : (Switchboard.arrival caller b) = .streaming j := streaming
    unfold arrival at own
    cases pending : caller.pending with
    | none =>
      rw [pending] at own
      cases own
    | some set =>
      rw [pending] at own
      cases own
      rw [receive_flights]
      refine ⟨landed, .inl ?_⟩
      unfold Switchboard.receive
      rw [pending]
      change c ∈ (((s.raise c caller (.streaming b)).subscribe b c).bridge b).subscribers
      rw [subscribe_bridge, if_pos rfl]
      exact Finset.mem_insert_self c _

/-! What a step keeps. -/

theorem Fed.publish (fed : s.Fed) (sound : s.flights.Sound) {key : String} (flies : s.flights.Flies c key) :
    (s.publish c key).Fed := by
  intro d other b known streaming
  have before := fed d other b known streaming
  have apart : b ≠ c := by
    intro same
    have free := (sound.flying c key flies).2
    rw [← same, before.1] at free
    cases free
  rw [publish_futures, if_neg apart, publish_bridge, if_neg apart]
  exact before

theorem Kept.spawned (kept : s.Kept) (found : s.callers.get? c = some caller) (flies : s.flights.Flies c caller.key) :
    ((s.publish c caller.key).receive c caller c).Kept := by
  have calling := kept.calling flies rfl found
  have sound : (s.publish c caller.key).flights.Sound := Flights.land_sound kept.sound flies
  have landed : (s.publish c caller.key).flights.futures.get? c = some (.ok c) :=
    (publish_futures s c c caller.key).trans (if_pos rfl)
  refine ⟨?_, ?_, ?_, (kept.orderly.publish kept.sound found flies).receive found calling.1,
    (kept.fed.publish kept.sound flies).receive landed⟩
  · rw [receive_flights]
    exact sound
  · intro f b future
    rw [receive_flights, publish_futures] at future
    by_cases same : f = c
    · rw [if_pos same] at future
      cases future
      exact same
    · rw [if_neg same] at future
      exact kept.made f b future
  · apply kept.agree.change (receive_callers (s.publish c caller.key) c · c caller)
    · intro d other
      rw [receive_flights]
      exact (Dict.get?_set _ _ _ _).trans (if_neg other)
    · intro seat seated
      rw [receive_flights] at seated
      have own : some ⟨caller.key, c, .got (.ok c)⟩ = some seat :=
        ((Dict.get?_set _ _ _ _).trans (if_pos rfl)).symm.trans seated
      rw [← Option.some.inj own]
      exact ⟨rfl, arrival_place caller c⟩

section
variable {flights : Flights String (Except String Nat)}

/-- A call that leaves the flights, with their new state. -/
theorem Kept.raised (kept : s.Kept) (found : s.callers.get? c = some caller) (calling : caller.standing = .calling)
    (sound : flights.Sound) (landed : ∀ b, s.flights.futures.get? b = some (.ok b) → flights.futures.get? b = some (.ok b))
    (made : ∀ f b, flights.futures.get? f = some (.ok b) → f = b)
    (still : ∀ k b, s.Live k b → flights.inflight.get? k = none)
    (others : ∀ d, d ≠ c → flights.seats.get? d = s.flights.seats.get? d)
    (own : ∀ seat, flights.seats.get? c = some seat → caller.key = seat.key ∧ standing.place = seat.place)
    (stopped : standing ≠ .calling) (quiet : ∀ b, standing ≠ .streaming b) :
    (({ s with flights } : Switchboard).raise c caller standing).Kept := by
  refine ⟨?_, ?_, ?_, (kept.orderly.fly landed still).raise found calling stopped, (kept.fed.fly landed).raise quiet⟩
  · rw [raise_flights]
    exact sound
  · rw [raise_flights]
    exact made
  · apply kept.agree.change (raise_callers ({ s with flights } : Switchboard) c · caller standing)
    · intro d other
      rw [raise_flights]
      exact others d other
    · intro seat seated
      rw [raise_flights] at seated
      exact own seat seated

theorem Kept.received (kept : s.Kept) (found : s.callers.get? c = some caller) (calling : caller.standing = .calling)
    (sound : flights.Sound) (landed : ∀ b, s.flights.futures.get? b = some (.ok b) → flights.futures.get? b = some (.ok b))
    (made : ∀ f b, flights.futures.get? f = some (.ok b) → f = b)
    (still : ∀ k b, s.Live k b → flights.inflight.get? k = none)
    (others : ∀ d, d ≠ c → flights.seats.get? d = s.flights.seats.get? d)
    (own : ∀ seat, flights.seats.get? c = some seat → caller.key = seat.key ∧ seat.place = .got (.ok b))
    (given : flights.futures.get? b = some (.ok b)) :
    (({ s with flights } : Switchboard).receive c caller b).Kept := by
  refine ⟨?_, ?_, ?_, (kept.orderly.fly landed still).receive found calling, (kept.fed.fly landed).receive given⟩
  · rw [receive_flights]
    exact sound
  · rw [receive_flights]
    exact made
  · apply kept.agree.change (receive_callers ({ s with flights } : Switchboard) c · b caller)
    · intro d other
      rw [receive_flights]
      exact others d other
    · intro seat seated
      rw [receive_flights] at seated
      have place := own seat seated
      exact ⟨place.1, (arrival_place caller b).trans place.2.symm⟩

end

theorem Kept.spawnFailed (kept : s.Kept) (found : s.callers.get? c = some caller) (flies : s.flights.Flies c caller.key)
    (e : String) :
    (({ s with flights := s.flights.land c caller.key (.error e) } : Switchboard).raise c caller (.failed e)).Kept := by
  have calling := kept.calling flies rfl found
  have flying := kept.sound.flying c caller.key flies
  apply kept.raised found calling.1 (Flights.land_sound kept.sound flies)
  · intro b landed
    have apart : b ≠ c := by
      intro same
      rw [same, flying.2] at landed
      cases landed
    exact (Dict.get?_set _ _ _ _).trans ((if_neg apart).trans landed)
  · intro f b future
    have later := (Dict.get?_set _ _ _ _).symm.trans future
    by_cases same : f = c
    · rw [if_pos same] at later
      cases later
    · rw [if_neg same] at later
      exact kept.made f b later
  · intro k b live
    refine (Dict.get?_pop _ _ _).trans ?_
    split
    · rfl
    · exact kept.orderly.clear k b live
  · intro d other
    exact (Dict.get?_set _ _ _ _).trans (if_neg other)
  · intro seat seated
    have own : some ⟨caller.key, c, .got (.error e)⟩ = some seat :=
      ((Dict.get?_set _ _ _ _).trans (if_pos rfl)).symm.trans seated
    rw [← Option.some.inj own]
    exact ⟨rfl, rfl⟩
  · simp
  · simp

section
variable {seat : Seat String (Except String Nat)}

/-- A caller that waits for another's flight, as its next step finds it. -/
structure Waits (s : Switchboard) (c : Nat) (caller : Caller) (seat : Seat String (Except String Nat)) : Prop where
  found : s.callers.get? c = some caller
  seated : s.flights.seats.get? c = some seat
  aboard : seat.place = .aboard
  other : seat.flight ≠ c

theorem Waits.seat_eq (waits : s.Waits c caller seat) : s.flights.seats.get? c = some ⟨seat.key, seat.flight, .aboard⟩ := by
  rw [waits.seated, ← waits.aboard]

theorem Kept.cancel (kept : s.Kept) (waits : s.Waits c caller seat) :
    (({ s with flights := s.flights.leave c seat.key seat.flight } : Switchboard).raise c caller .cancelled).Kept := by
  have calling := kept.calling waits.seated waits.aboard waits.found
  apply kept.raised waits.found calling.1 (Flights.leave_sound kept.sound waits.seat_eq waits.other)
  · exact fun _ landed => landed
  · exact kept.made
  · exact fun k b live => kept.orderly.clear k b live
  · intro d other
    exact (Dict.get?_set _ _ _ _).trans (if_neg other)
  · intro new seated
    have own : some ⟨seat.key, seat.flight, .left⟩ = some new :=
      ((Dict.get?_set _ _ _ _).trans (if_pos rfl)).symm.trans seated
    rw [← Option.some.inj own]
    exact ⟨calling.2, rfl⟩
  · simp
  · simp

theorem taken_seat {w : Except String Nat} {new : Seat String (Except String Nat)}
    (seated : (s.flights.take c seat.key seat.flight w).seats.get? c = some new) :
    new = ⟨seat.key, seat.flight, .got w⟩ := by
  have own : some ⟨seat.key, seat.flight, .got w⟩ = some new :=
    ((Dict.get?_set _ _ _ _).trans (if_pos rfl)).symm.trans seated
  exact (Option.some.inj own).symm

theorem Kept.resume (kept : s.Kept) (waits : s.Waits c caller seat) : (s.resumeAt c caller seat).Kept := by
  have calling := kept.calling waits.seated waits.aboard waits.found
  unfold resumeAt
  cases landed : s.flights.futures.get? seat.flight with
  | none => exact kept
  | some w =>
    have sound := Flights.take_sound kept.sound waits.seat_eq waits.other landed
    have others : ∀ d, d ≠ c → (s.flights.take c seat.key seat.flight w).seats.get? d = s.flights.seats.get? d :=
      fun d other => (Dict.get?_set _ _ _ _).trans (if_neg other)
    cases w with
    | ok b =>
      apply kept.received waits.found calling.1 sound (fun _ given => given) kept.made kept.orderly.clear others
      · intro new seated
        rw [taken_seat seated]
        exact ⟨calling.2, rfl⟩
      · rw [kept.made _ _ landed] at landed
        exact landed
    | error e =>
      apply kept.raised waits.found calling.1 sound (fun _ given => given) kept.made kept.orderly.clear others
      · intro new seated
        rw [taken_seat seated]
        exact ⟨calling.2, rfl⟩
      · simp
      · simp

end

theorem getOrSpawn_live (caller : Caller) (live : s.Live caller.key b) : s.getOrSpawn c caller = s.receive c caller b := by
  unfold getOrSpawn
  rw [live.1]
  exact if_pos live.2

theorem getOrSpawn_dead (caller : Caller) (dead : ∀ b, ¬ s.Live caller.key b) :
    s.getOrSpawn c caller = (s.vacate caller.key).board c caller := by
  unfold getOrSpawn
  cases stored : s.bridges.get? caller.key with
  | none => rw [vacate, Dict.pop_of_absent stored]
  | some b => exact if_neg (fun alive => dead b ⟨stored, alive⟩)

/-- A fresh call that takes a seat. -/
theorem Kept.board (kept : s.Kept) (fresh : s.callers.get? c = none) (orderly : t.Orderly) (fed : t.Fed)
    (callers : ∀ d, t.callers.get? d = if d = c then some caller else s.callers.get? d) (calling : caller.standing = .calling)
    (same : t.flights = s.flights) (dead : ∀ b, ¬ t.Live caller.key b) :
    ({ t with flights := s.flights.board c caller.key } : Switchboard).Kept := by
  refine ⟨Flights.board_sound kept.sound (kept.unseated fresh), ?_, ?_, ?_, ?_⟩
  · rw [Flights.board_futures]
    exact kept.made
  · apply Agree.change (t := { t with flights := s.flights.board c caller.key }) kept.agree callers
    · exact fun d other => Flights.board_seats other
    · intro seat seated
      obtain ⟨f, own⟩ := Flights.board_seat (s := s.flights) (c := c) (k := caller.key)
      rw [own, Option.some.injEq] at seated
      rw [← seated, calling]
      exact ⟨rfl, rfl⟩
  · apply orderly.fly
    · intro b landed
      rw [Flights.board_futures, ← same]
      exact landed
    · intro k b live
      have apart : k ≠ caller.key := fun here => dead b (here ▸ live)
      rw [Flights.board_inflight apart, ← same]
      exact orderly.clear k b live
  · apply fed.fly
    intro b landed
    rw [Flights.board_futures, ← same]
    exact landed

/-- Other calls' streams do not notice a call that only stands somewhere new. -/
theorem Fed.bystand {next : Caller} (fed : s.Fed)
    (callers : ∀ d, t.callers.get? d = if d = c then some next else s.callers.get? d) (flights : t.flights = s.flights)
    (bridges : ∀ b, t.bridge b = s.bridge b) (quiet : ∀ b, next.standing ≠ .streaming b) : t.Fed := by
  apply fed.change callers
  · intro b landed
    rw [flights]
    exact landed
  · intro d b _ _ before
    rw [bridges]
    exact before
  · intro b streaming
    exact absurd streaming (quiet b)

theorem Kept.callEvents (kept : s.Kept) (fresh : s.callers.get? c = none) (key : String) :
    ((s.register c key).getOrSpawn c ⟨key, some (s.pendingSet c key), .calling⟩).Kept := by
  by_cases lives : ∃ b, s.Live key b
  · obtain ⟨b, live⟩ := lives
    have there : (s.register c key).Live key b := (register_live s c key).mpr live
    rw [getOrSpawn_live _ there]
    change ((s.visit c key b).subscribe b c).Kept
    have flights : ((s.visit c key b).subscribe b c).flights = s.flights := visit_flights s c key b
    refine ⟨?_, ?_, ?_, (kept.orderly.visit fresh live).subscribe, ?_⟩
    · rw [flights]
      exact kept.sound
    · rw [flights]
      exact kept.made
    · apply Agree.change (t := (s.visit c key b).subscribe b c) kept.agree (visit_callers s c · key b)
      · intro d _
        rw [flights]
      · intro seat seated
        rw [flights, kept.unseated fresh] at seated
        cases seated
    · apply Fed.change (t := (s.visit c key b).subscribe b c) kept.fed (visit_callers s c · key b)
      · intro j landed
        rw [flights]
        exact landed
      · intro d j _ _ before
        rw [subscribe_closed, visit_bridge]
        refine before.imp_left (fun member => subscribe_subscribers _ c j b ?_)
        rw [visit_bridge]
        exact member
      · intro j streaming
        have same : b = j := Standing.streaming.inj streaming
        rw [← same, flights, subscribe_bridge, if_pos rfl]
        exact ⟨kept.orderly.grounded key b live.1, .inl (Finset.mem_insert_self c _)⟩
  · have dead : ∀ b, ¬ s.Live key b := fun b live => lives ⟨b, live⟩
    have gone : ∀ b, ¬ (s.register c key).Live key b := fun b live => dead b ((register_live s c key).mp live)
    rw [getOrSpawn_dead _ gone]
    have orderly := (kept.orderly.enroll fresh dead).vacate (fun b live => dead b ((enroll_live s c key).mp live))
    have fed : ((s.enroll c key).vacate key).Fed :=
      kept.fed.bystand (enroll_callers s c · key) (enroll_flights s c key) (fun b => enroll_bridge s c key) (by simp)
    have after := kept.board fresh orderly fed (enroll_callers s c · key) rfl (enroll_flights s c key)
      (vacate_dead (s.enroll c key) key)
    rw [← register_flights s c key] at after
    exact after

theorem Kept.callPlain (kept : s.Kept) (fresh : s.callers.get? c = none) (key : String) :
    (s.getOrSpawn c ⟨key, none, .calling⟩).Kept := by
  by_cases lives : ∃ b, s.Live key b
  · obtain ⟨b, live⟩ := lives
    rw [getOrSpawn_live _ live]
    change (s.stand c ⟨key, none, .calling⟩ (.returned b)).Kept
    refine ⟨kept.sound, kept.made, ?_, kept.orderly.admit fresh rfl, ?_⟩
    · apply kept.agree.change (stand_callers s c · ⟨key, none, .calling⟩ (.returned b)) (fun _ _ => rfl)
      intro seat seated
      rw [show (s.stand c ⟨key, none, .calling⟩ (.returned b)).flights = s.flights from rfl, kept.unseated fresh] at seated
      cases seated
    · exact kept.fed.bystand (stand_callers s c · ⟨key, none, .calling⟩ (.returned b)) rfl (fun _ => rfl) (by simp)
  · have dead : ∀ b, ¬ s.Live key b := fun b live => lives ⟨b, live⟩
    rw [getOrSpawn_dead _ dead]
    have orderly : (s.stand c ⟨key, none, .calling⟩ .calling).Orderly := kept.orderly.admit fresh rfl
    have fed : (s.stand c ⟨key, none, .calling⟩ .calling).Fed :=
      kept.fed.bystand (stand_callers s c · ⟨key, none, .calling⟩ .calling) rfl (fun _ => rfl) (by simp)
    exact kept.board fresh (orderly.vacate dead) fed (stand_callers s c · ⟨key, none, .calling⟩ .calling) rfl rfl
      (vacate_dead (s.stand c ⟨key, none, .calling⟩ .calling) key)

/-- A step that only changes the record of a bridge keeps every stream that was fed. -/
theorem Fed.rewire (fed : s.Fed) {bridge : Bridge}
    (kept : ∀ d, d ∈ (s.bridge b).subscribers ∨ (s.bridge b).closed = true → d ∈ bridge.subscribers ∨ bridge.closed = true) :
    ({ s with procs := s.procs.set b bridge } : Switchboard).Fed := by
  intro d other j known streaming
  have before := fed d other j known streaming
  refine ⟨before.1, ?_⟩
  rw [bridge_set]
  by_cases same : j = b
  · rw [if_pos same]
    rw [same] at before
    exact kept d before.2
  · rw [if_neg same]
    exact before.2

theorem Kept.ended (kept : s.Kept) (found : s.callers.get? c = some caller) (streams : caller.standing = .streaming b) :
    ((s.unsubscribe b c).stand c caller (.ended b)).Kept := by
  have away : ∀ d k set, s.Awaits d k set → d ≠ c := by
    intro d k set awaits same
    rw [Awaits, same, found, Option.some.injEq] at awaits
    rw [awaits] at streams
    cases streams
  have callers := (stand_callers (s.unsubscribe b c) c · caller (.ended b))
  refine ⟨kept.sound, kept.made, ?_, ?_, ?_⟩
  · apply Agree.change (t := (s.unsubscribe b c).stand c caller (.ended b)) kept.agree callers (fun _ _ => rfl)
    intro seat seated
    obtain ⟨other, known, key, place⟩ := kept.agree c seat seated
    rw [found, Option.some.injEq] at known
    rw [← known, streams] at place
    rw [← known] at key
    exact ⟨key, place⟩
  · have rewired : (s.unsubscribe b c).Orderly := kept.orderly.rewire rfl (fun _ d k set awaits member =>
      Finset.mem_erase.mpr ⟨away d k set awaits, member⟩)
    exact rewired.restand found (by simp)
  · apply Fed.change (t := (s.unsubscribe b c).stand c caller (.ended b)) kept.fed callers (fun _ landed => landed)
    · intro d j other _ before
      change d ∈ ((s.unsubscribe b c).bridge j).subscribers ∨ ((s.unsubscribe b c).bridge j).closed = true
      rw [unsubscribe, bridge_set]
      by_cases same : j = b
      · rw [if_pos same]
        rw [same] at before
        exact before.imp_left (fun member => Finset.mem_erase.mpr ⟨other, member⟩)
      · rw [if_neg same]
        exact before
    · intro j streaming
      cases streaming

theorem Kept.stop (kept : s.Kept) {key : String} (stored : s.bridges.get? key = some b)
    (settled : (s.bridge b).alive = true → s.Settled key) : (s.stop b).Kept :=
  ⟨kept.sound, kept.made, kept.agree, kept.orderly.stop stored settled, kept.fed.rewire (fun _ before => before)⟩

theorem Kept.close (kept : s.Kept) (dead : (s.bridge b).alive = false) :
    ({ s with procs := s.procs.set b ⟨∅, false, true⟩ } : Switchboard).Kept := by
  refine ⟨kept.sound, kept.made, kept.agree, kept.orderly.rewire dead.symm ?_, kept.fed.rewire (fun _ _ => .inr rfl)⟩
  intro alive
  cases alive

/-- The reaper finds no queue on the bridge, so none waits under its key. -/
theorem Kept.reap (kept : s.Kept) {key : String} (stored : s.bridges.get? key = some b)
    (unused : (s.bridge b).subscribers = ∅) : ((s.stop b).vacate key).Kept := by
  have settled : (s.bridge b).alive = true → s.Settled key := by
    intro alive c set awaits
    have member := kept.orderly.subscribed c key set b ⟨stored, alive⟩ awaits
    rw [unused] at member
    exact Finset.notMem_empty c member
  have stopped := kept.stop stored settled
  have dead : ∀ d, ¬ (s.stop b).Live key d := fun d live => ((stop_live kept.orderly stored).mp live).2 rfl
  exact ⟨stopped.sound, stopped.made, stopped.agree, stopped.orderly.vacate dead, stopped.fed⟩

/-! What a step can do. -/

theorem owner_cases (s : Switchboard) (c : Nat) (go : Caller → Switchboard) :
    s.owner c go = s ∨ ∃ caller, s.callers.get? c = some caller ∧ s.flights.Flies c caller.key ∧ s.owner c go = go caller := by
  unfold owner
  cases s.callers.get? c with
  | none => exact .inl rfl
  | some caller =>
    dsimp only
    by_cases flies : s.flights.Flies c caller.key
    · exact .inr ⟨caller, rfl, flies, if_pos flies⟩
    · exact .inl (if_neg flies)

theorem waiter_cases (s : Switchboard) (c : Nat) (go : Caller → Seat String (Except String Nat) → Switchboard) :
    s.waiter c go = s ∨ ∃ caller seat, s.Waits c caller seat ∧ s.waiter c go = go caller seat := by
  unfold waiter
  cases found : s.callers.get? c with
  | none => exact .inl rfl
  | some caller =>
    dsimp only
    cases seated : s.flights.seats.get? c with
    | none => exact .inl rfl
    | some seat =>
      dsimp only
      by_cases waits : seat.place = .aboard ∧ seat.flight ≠ c
      · exact .inr ⟨caller, seat, ⟨found, seated, waits.1, waits.2⟩, if_pos waits⟩
      · exact .inl (if_neg waits)

theorem finish_cases (s : Switchboard) (c : Nat) : s.finish c = s ∨ ∃ caller b, s.callers.get? c = some caller ∧
    caller.standing = .streaming b ∧ s.finish c = (s.unsubscribe b c).stand c caller (.ended b) := by
  unfold Switchboard.finish
  cases found : s.callers.get? c with
  | none => exact .inl rfl
  | some caller =>
    dsimp only
    cases streams : caller.standing with
    | streaming b => exact .inr ⟨caller, b, rfl, streams, rfl⟩
    | _ => exact .inl rfl

theorem exit_cases (s : Switchboard) (key : String) :
    s.step (.exit key) = s ∨ ∃ b, s.bridges.get? key = some b ∧ s.step (.exit key) = s.stop b := by
  dsimp only [Switchboard.step]
  cases s.bridges.get? key with
  | none => exact .inl rfl
  | some b => exact .inr ⟨b, rfl, rfl⟩

theorem reap_cases (s : Switchboard) (key : String) : s.step (.reap key) = s ∨ ∃ b, s.bridges.get? key = some b ∧
    (s.bridge b).subscribers = ∅ ∧ s.step (.reap key) = (s.stop b).vacate key := by
  dsimp only [Switchboard.step]
  cases s.bridges.get? key with
  | none => exact .inl rfl
  | some b =>
    dsimp only
    by_cases unused : (s.bridge b).subscribers = ∅
    · exact .inr ⟨b, rfl, unused, if_pos unused⟩
    · exact .inl (if_neg unused)

theorem close_cases (s : Switchboard) (b : Nat) : s.step (.close b) = s ∨ (s.bridge b).alive = false ∧
    s.step (.close b) = { s with procs := s.procs.set b ⟨∅, false, true⟩ } := by
  dsimp only [Switchboard.step]
  cases (s.bridge b).alive with
  | true => exact .inl rfl
  | false => exact .inr ⟨rfl, rfl⟩

theorem call_cases (s : Switchboard) (c : Nat) (key : String) (events : Bool) :
    s.step (.call c key events) = s ∨ s.callers.get? c = none ∧ s.step (.call c key events) = s.call c key events := by
  dsimp only [Switchboard.step]
  cases s.callers.get? c with
  | none => exact .inr ⟨rfl, rfl⟩
  | some caller => exact .inl rfl

/-- A process does not exit while a registered queue's call has still to be given the bridge. -/
def Allowed (s : Switchboard) : Event → Prop
  | .exit key => ∀ b ∈ s.bridges.get? key, (s.bridge b).alive = true → s.Settled key
  | _ => True

theorem Kept.step (kept : s.Kept) (e : Event) (allowed : s.Allowed e) : (s.step e).Kept := by
  cases e with
  | call c key events =>
    rcases call_cases s c key events with idle | ⟨fresh, call⟩
    · rw [idle]
      exact kept
    · rw [call]
      cases events with
      | true => exact kept.callEvents fresh key
      | false => exact kept.callPlain fresh key
  | spawned c =>
    rcases owner_cases s c (fun caller => (s.publish c caller.key).receive c caller c) with idle | ⟨caller, found, flies, go⟩
    · rw [Switchboard.step, idle]
      exact kept
    · rw [Switchboard.step, go]
      exact kept.spawned found flies
  | spawnFailed c e =>
    rcases owner_cases s c (fun caller =>
      { s with flights := s.flights.land c caller.key (.error e) }.raise c caller (.failed e)) with idle | ⟨caller, found, flies, go⟩
    · rw [Switchboard.step, idle]
      exact kept
    · rw [Switchboard.step, go]
      exact kept.spawnFailed found flies e
  | resume c =>
    rcases waiter_cases s c (s.resumeAt c) with idle | ⟨caller, seat, waits, go⟩
    · rw [Switchboard.step, idle]
      exact kept
    · rw [Switchboard.step, go]
      exact kept.resume waits
  | cancel c =>
    rcases waiter_cases s c (fun caller seat =>
      { s with flights := s.flights.leave c seat.key seat.flight }.raise c caller .cancelled) with
      idle | ⟨caller, seat, waits, go⟩
    · rw [Switchboard.step, idle]
      exact kept
    · rw [Switchboard.step, go]
      exact kept.cancel waits
  | finish c =>
    rcases finish_cases s c with idle | ⟨caller, b, found, streams, go⟩
    · rw [Switchboard.step, idle]
      exact kept
    · rw [Switchboard.step, go]
      exact kept.ended found streams
  | exit key =>
    rcases exit_cases s key with idle | ⟨b, stored, go⟩
    · rw [idle]
      exact kept
    · rw [go]
      exact kept.stop stored (allowed b stored)
  | close b =>
    rcases close_cases s b with idle | ⟨dead, go⟩
    · rw [idle]
      exact kept
    · rw [go]
      exact kept.close dead
  | reap key =>
    rcases reap_cases s key with idle | ⟨b, stored, unused, go⟩
    · rw [idle]
      exact kept
    · rw [go]
      exact kept.reap stored unused

theorem init_kept : init.Kept where
  sound := Flights.empty_sound
  made := fun _ _ future => nomatch future
  agree := fun _ _ seated => nomatch seated
  orderly := {
    owned := fun _ _ stored => nomatch stored
    grounded := fun _ _ stored => nomatch stored
    clear := fun _ _ live => nomatch live.1
    knownSet := fun _ _ there => nomatch there
    knownPending := fun _ _ _ known => nomatch known
    held := fun _ _ _ awaits => nomatch awaits
    listed := fun _ _ _ awaits => nomatch awaits
    drained := fun _ _ live => nomatch live.1
    subscribed := fun _ _ _ _ live => nomatch live.1 }
  fed := fun _ _ _ known => nomatch known

end Switchboard

end KnowledgeGap.Gateway
