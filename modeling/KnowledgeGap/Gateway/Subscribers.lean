import KnowledgeGap.Gateway.Bridges

namespace KnowledgeGap.Gateway.Switchboard

open Relational Protocol

def Live (s : Switchboard) (k : String) (b : Nat) : Prop := s.bridges.get? k = some b ∧ (s.bridge b).alive = true

/-- A `thread_events` call that has registered its queue and has not been given a bridge yet. -/
def Awaits (s : Switchboard) (c : Nat) (k : String) (set : Nat) : Prop :=
  s.callers.get? c = some ⟨k, some set, .calling⟩

/-- Where no bridge is live, the queues of all waiting calls are in the set under the key; where one is, it has them. -/
structure Orderly (s : Switchboard) : Prop where
  owned : ∀ k b, s.bridges.get? k = some b → ∃ caller, s.callers.get? b = some caller ∧ caller.key = k
  grounded : ∀ k b, s.bridges.get? k = some b → s.flights.futures.get? b = some (.ok b)
  clear : ∀ k b, s.Live k b → s.flights.inflight.get? k = none
  knownSet : ∀ k set, s.pendingSubscribers.get? k = some set → (s.callers.get? set).isSome
  knownPending : ∀ c caller set, s.callers.get? c = some caller → caller.pending = some set → (s.callers.get? set).isSome
  held : ∀ c k set, s.Awaits c k set → c ∈ s.queues set
  listed : ∀ c k set, s.Awaits c k set → (∀ b, ¬ s.Live k b) → s.pendingSubscribers.get? k = some set
  drained : ∀ k b, s.Live k b → s.pendingSubscribers.get? k = none
  subscribed : ∀ c k set b, s.Live k b → s.Awaits c k set → c ∈ (s.bridge b).subscribers

/-- A stream that has not ended is fed by its bridge until the bridge's reader ends. -/
def Fed (s : Switchboard) : Prop :=
  ∀ c caller b, s.callers.get? c = some caller → caller.standing = .streaming b →
    s.flights.futures.get? b = some (.ok b) ∧ (c ∈ (s.bridge b).subscribers ∨ (s.bridge b).closed = true)

/-! What the parts of a call change. -/

section
variable (s : Switchboard) (c d : Nat) (caller : Caller) (standing : Standing) (k : String) (b : Nat)

@[simp] theorem raise_bridges : (s.raise c caller standing).bridges = s.bridges := by
  unfold raise
  cases caller.pending <;> rfl

@[simp] theorem raise_flights : (s.raise c caller standing).flights = s.flights := by
  unfold raise
  cases caller.pending <;> rfl

@[simp] theorem raise_bridge : (s.raise c caller standing).bridge b = s.bridge b := by
  unfold raise
  cases caller.pending <;> rfl

theorem raise_live : (s.raise c caller standing).Live k b ↔ s.Live k b := by
  rw [Live, Live, raise_bridges, raise_bridge]

theorem raise_callers : (s.raise c caller standing).callers.get? d =
    if d = c then some { caller with standing } else s.callers.get? d := by
  unfold raise
  split <;> exact Dict.get?_set _ _ _ _

theorem raise_queues : d ≠ c → ∀ set, d ∈ s.queues set → d ∈ (s.raise c caller standing).queues set := by
  intro other set member
  unfold raise
  cases caller.pending with
  | none => exact member
  | some mine =>
    change d ∈ (s.sets.set mine ((s.queues mine).erase c)).getD set ∅
    rw [Dict.getD_set]
    by_cases same : set = mine
    · rw [if_pos same, Finset.mem_erase, ← same]
      exact ⟨other, member⟩
    · rw [if_neg same]
      exact member

/-- A call only takes the set under its key away, and only where its own set is empty by now. -/
theorem raise_pending : (s.raise c caller standing).pendingSubscribers.get? k = s.pendingSubscribers.get? k ∨
    (s.raise c caller standing).pendingSubscribers.get? k = none ∧ k = caller.key ∧
      ∃ set, caller.pending = some set ∧ (s.queues set).erase c = ∅ := by
  unfold raise
  cases caller.pending with
  | none => exact .inl rfl
  | some set =>
    change (if (s.queues set).erase c = ∅ then s.pendingSubscribers.pop caller.key else s.pendingSubscribers).get? k = _ ∨
      (if (s.queues set).erase c = ∅ then s.pendingSubscribers.pop caller.key else s.pendingSubscribers).get? k = none ∧ _
    by_cases alone : (s.queues set).erase c = ∅
    · rw [if_pos alone, Dict.get?_pop]
      by_cases same : k = caller.key
      · rw [if_pos same]
        exact .inr ⟨rfl, same, set, rfl, alone⟩
      · rw [if_neg same]
        exact .inl rfl
    · rw [if_neg alone]
      exact .inl rfl

end

variable {s : Switchboard} {c d b : Nat} {k : String} {set : Nat} {caller : Caller} {standing : Standing}

theorem awaits_of_raise (stopped : standing ≠ .calling) (awaits : (s.raise c caller standing).Awaits d k set) :
    d ≠ c ∧ s.Awaits d k set := by
  rw [Awaits, raise_callers] at awaits
  by_cases same : d = c
  · rw [if_pos same, Option.some.injEq, Caller.mk.injEq] at awaits
    exact absurd awaits.2.2 stopped
  · rw [if_neg same] at awaits
    exact ⟨same, awaits⟩

theorem raise_known (found : (s.callers.get? d).isSome) : ((s.raise c caller standing).callers.get? d).isSome := by
  rw [raise_callers]
  split
  · rfl
  · exact found

theorem Orderly.raise (orderly : s.Orderly) (found : s.callers.get? c = some caller) (calling : caller.standing = .calling)
    (stopped : standing ≠ .calling) : (s.raise c caller standing).Orderly where
  owned := by
    intro k b stored
    rw [raise_bridges] at stored
    obtain ⟨maker, known, key⟩ := orderly.owned k b stored
    rw [raise_callers]
    by_cases same : b = c
    · rw [same, found, Option.some.injEq] at known
      exact ⟨_, if_pos same, known ▸ key⟩
    · exact ⟨maker, (if_neg same).trans known, key⟩
  grounded := by
    intro k b stored
    rw [raise_bridges] at stored
    rw [raise_flights]
    exact orderly.grounded k b stored
  clear := by
    intro k b live
    rw [raise_live] at live
    rw [raise_flights]
    exact orderly.clear k b live
  knownSet := by
    intro k set there
    rcases raise_pending s c caller standing k with same | ⟨gone, _⟩
    · rw [same] at there
      exact raise_known (orderly.knownSet k set there)
    · rw [gone] at there
      cases there
  knownPending := by
    intro d other set known pending
    rw [raise_callers] at known
    by_cases same : d = c
    · rw [if_pos same, Option.some.injEq] at known
      rw [← known] at pending
      exact raise_known (orderly.knownPending c caller set found pending)
    · rw [if_neg same] at known
      exact raise_known (orderly.knownPending d other set known pending)
  held := by
    intro d k set awaits
    have before := awaits_of_raise stopped awaits
    exact raise_queues s c d caller standing before.1 set (orderly.held d k set before.2)
  listed := by
    intro d k set awaits dead
    have before := awaits_of_raise stopped awaits
    have idle : ∀ b, ¬ s.Live k b := fun b live => dead b ((raise_live s c caller standing k b).mpr live)
    have there := orderly.listed d k set before.2 idle
    rcases raise_pending s c caller standing k with same | ⟨_, key, mine, pending, alone⟩
    · rw [same]
      exact there
    · -- Both calls registered in the set under the key, which still holds the other's queue.
      have own : s.Awaits c k mine := by
        rw [Awaits, found, key, ← pending, ← calling]
      have shared : some set = some mine := there.symm.trans (orderly.listed c k mine own idle)
      have member : d ∈ (s.queues mine).erase c := by
        rw [Finset.mem_erase, ← Option.some.inj shared]
        exact ⟨before.1, orderly.held d k set before.2⟩
      rw [alone] at member
      exact absurd member (Finset.notMem_empty d)
  drained := by
    intro k b live
    rw [raise_live] at live
    rcases raise_pending s c caller standing k with same | ⟨gone, _⟩
    · rw [same]
      exact orderly.drained k b live
    · exact gone
  subscribed := by
    intro d k set b live awaits
    rw [raise_live] at live
    rw [raise_bridge]
    exact orderly.subscribed d k set b live (awaits_of_raise stopped awaits).2

/-- The flights of the calls may change wherever this leaves what the live bridges rest on. -/
theorem Orderly.fly (orderly : s.Orderly) {flights : Flights String (Except String Nat)}
    (landed : ∀ b, s.flights.futures.get? b = some (.ok b) → flights.futures.get? b = some (.ok b))
    (still : ∀ k b, s.Live k b → flights.inflight.get? k = none) : ({ s with flights } : Switchboard).Orderly where
  owned := orderly.owned
  grounded := fun k b stored => landed b (orderly.grounded k b stored)
  clear := still
  knownSet := orderly.knownSet
  knownPending := orderly.knownPending
  held := orderly.held
  listed := orderly.listed
  drained := orderly.drained
  subscribed := orderly.subscribed

theorem bridge_set (s : Switchboard) (b d : Nat) (bridge : Bridge) :
    ({ s with procs := s.procs.set b bridge } : Switchboard).bridge d = if d = b then bridge else s.bridge d :=
  Dict.getD_set _ _ _ _ _

/-- A bridge record may change wherever a live bridge keeps the queues that wait for it. -/
theorem Orderly.rewire (orderly : s.Orderly) {bridge : Bridge} (alive : bridge.alive = (s.bridge b).alive)
    (kept : bridge.alive = true → ∀ c k set, s.Awaits c k set → c ∈ (s.bridge b).subscribers → c ∈ bridge.subscribers) :
    ({ s with procs := s.procs.set b bridge } : Switchboard).Orderly := by
  have live : ∀ k d, ({ s with procs := s.procs.set b bridge } : Switchboard).Live k d ↔ s.Live k d := by
    intro k d
    rw [Live, Live, bridge_set]
    by_cases same : d = b
    · rw [if_pos same, alive, same]
    · rw [if_neg same]
  exact {
    owned := orderly.owned
    grounded := orderly.grounded
    clear := fun k d lives => orderly.clear k d ((live k d).mp lives)
    knownSet := orderly.knownSet
    knownPending := orderly.knownPending
    held := orderly.held
    listed := fun c k set awaits dead => orderly.listed c k set awaits (fun d lives => dead d ((live k d).mpr lives))
    drained := fun k d lives => orderly.drained k d ((live k d).mp lives)
    subscribed := by
      intro c k set d lives awaits
      have before := (live k d).mp lives
      have member := orderly.subscribed c k set d before awaits
      rw [bridge_set]
      by_cases same : d = b
      · rw [if_pos same]
        rw [same] at before member
        exact kept (alive.trans before.2) c k set awaits member
      · rw [if_neg same]
        exact member }

theorem Orderly.subscribe (orderly : s.Orderly) : (s.subscribe b c).Orderly :=
  orderly.rewire rfl (fun _ _ _ _ _ member => Finset.mem_insert_of_mem member)

/-- Nothing waits under the key when its bridge goes. -/
def Settled (s : Switchboard) (k : String) : Prop := ∀ c set, ¬ s.Awaits c k set

theorem stop_live (orderly : s.Orderly) {key : String} (stored : s.bridges.get? key = some b) :
    (s.stop b).Live k d ↔ s.Live k d ∧ k ≠ key := by
  rw [Live, Live, stop, bridge_set]
  constructor
  · intro live
    by_cases same : d = b
    · rw [if_pos same] at live
      cases live.2
    · rw [if_neg same] at live
      refine ⟨live, fun here => same ?_⟩
      rw [here, stored] at live
      exact (Option.some.inj live.1).symm
  · intro live
    by_cases same : d = b
    · obtain ⟨one, known, first⟩ := orderly.owned k d live.1.1
      obtain ⟨two, found, second⟩ := orderly.owned key b stored
      rw [same, found, Option.some.injEq] at known
      exact absurd (first.symm.trans (known ▸ second)) live.2
    · rw [if_neg same]
      exact live.1

theorem Orderly.stop (orderly : s.Orderly) {key : String} (stored : s.bridges.get? key = some b)
    (settled : (s.bridge b).alive = true → s.Settled key) : (s.stop b).Orderly := by
  have live : ∀ k d, (s.stop b).Live k d ↔ s.Live k d ∧ k ≠ key := fun k d => stop_live orderly stored
  exact {
    owned := orderly.owned
    grounded := orderly.grounded
    clear := fun k d lives => orderly.clear k d ((live k d).mp lives).1
    knownSet := orderly.knownSet
    knownPending := orderly.knownPending
    held := orderly.held
    listed := by
      intro c k set awaits dead
      apply orderly.listed c k set awaits
      intro d lives
      by_cases here : k = key
      · rw [here] at lives awaits
        have same : b = d := by
          rw [Live, stored, Option.some.injEq] at lives
          exact lives.1
        rw [← same] at lives
        exact settled lives.2 c set awaits
      · exact dead d ((live k d).mpr ⟨lives, here⟩)
    drained := fun k d lives => orderly.drained k d ((live k d).mp lives).1
    subscribed := by
      intro c k set d lives awaits
      have before := (live k d).mp lives
      have apart : d ≠ b := by
        intro same
        rw [same] at lives
        have gone := lives.2
        rw [Switchboard.stop, bridge_set, if_pos rfl] at gone
        cases gone
      rw [Switchboard.stop, bridge_set, if_neg apart]
      exact orderly.subscribed c k set d before.1 awaits }

theorem vacate_dead (s : Switchboard) (k : String) (b : Nat) : ¬ (s.vacate k).Live k b := by
  intro live
  have stored : none = some b := ((Dict.get?_pop s.bridges k k).trans (if_pos rfl)).symm.trans live.1
  cases stored

/-- A bridge that is not live may be taken off the board. -/
theorem Orderly.vacate (orderly : s.Orderly) (dead : ∀ b, ¬ s.Live k b) : (s.vacate k).Orderly := by
  have stored : ∀ j b, (s.bridges.pop k).get? j = some b → s.bridges.get? j = some b := by
    intro j b found
    rw [Dict.get?_pop] at found
    split at found
    · cases found
    · exact found
  exact {
    owned := fun j b found => orderly.owned j b (stored j b found)
    grounded := fun j b found => orderly.grounded j b (stored j b found)
    clear := fun j b live => orderly.clear j b ⟨stored j b live.1, live.2⟩
    knownSet := orderly.knownSet
    knownPending := orderly.knownPending
    held := orderly.held
    listed := by
      intro c j set awaits gone
      apply orderly.listed c j set awaits
      intro b live
      by_cases here : j = k
      · exact dead b (here ▸ live)
      · exact gone b ⟨(Dict.get?_pop _ _ _).trans ((if_neg here).trans live.1), live.2⟩
    drained := fun j b live => orderly.drained j b ⟨stored j b live.1, live.2⟩
    subscribed := fun c j set b live awaits => orderly.subscribed c j set b ⟨stored j b live.1, live.2⟩ awaits }

/-- The step in which the new bridge becomes visible hands it every queue that waits under the key. -/
theorem awaits_published (orderly : s.Orderly) (busy : s.flights.inflight.get? k = some b) (awaits : s.Awaits c k set) :
    c ∈ s.waitingQueues k := by
  have dead : ∀ d, ¬ s.Live k d := by
    intro d live
    rw [orderly.clear k d live] at busy
    cases busy
  rw [waitingQueues, orderly.listed c k set awaits dead]
  exact orderly.held c k set awaits

theorem publish_bridge (s : Switchboard) (c d : Nat) (key : String) :
    (s.publish c key).bridge d = if d = c then ⟨s.waitingQueues key, true, false⟩ else s.bridge d :=
  Dict.getD_set _ _ _ _ _

theorem publish_stored (s : Switchboard) (c : Nat) (key k : String) :
    (s.publish c key).bridges.get? k = if k = key then some c else s.bridges.get? k := Dict.get?_set _ _ _ _

theorem publish_futures (s : Switchboard) (c b : Nat) (key : String) :
    (s.publish c key).flights.futures.get? b = if b = c then some (.ok c) else s.flights.futures.get? b :=
  Dict.get?_set _ _ _ _

theorem publish_pending (s : Switchboard) (c : Nat) (key k : String) :
    (s.publish c key).pendingSubscribers.get? k = if k = key then none else s.pendingSubscribers.get? k :=
  Dict.get?_pop _ _ _

theorem Orderly.publish (orderly : s.Orderly) (sound : s.flights.Sound) (found : s.callers.get? c = some caller)
    (flies : s.flights.Flies c caller.key) : (s.publish c caller.key).Orderly := by
  have flying := sound.flying c caller.key flies
  have other : ∀ k b, s.bridges.get? k = some b → b ≠ c := by
    intro k b stored same
    have landed := orderly.grounded k b stored
    rw [same, flying.2] at landed
    cases landed
  have live : ∀ k b, k ≠ caller.key → ((s.publish c caller.key).Live k b ↔ s.Live k b) := by
    intro k b apart
    rw [Live, Live, publish_stored, if_neg apart, publish_bridge]
    constructor
    · intro lives
      rw [if_neg (other k b lives.1)] at lives
      exact lives
    · intro lives
      rw [if_neg (other k b lives.1)]
      exact lives
  have new : (s.publish c caller.key).Live caller.key c := by
    rw [Live, publish_stored, publish_bridge, if_pos rfl, if_pos rfl]
    exact ⟨rfl, rfl⟩
  exact {
    owned := by
      intro k b stored
      rw [publish_stored] at stored
      by_cases here : k = caller.key
      · rw [if_pos here, Option.some.injEq] at stored
        rw [here, ← stored]
        exact ⟨caller, found, rfl⟩
      · rw [if_neg here] at stored
        exact orderly.owned k b stored
    grounded := by
      intro k b stored
      rw [publish_stored] at stored
      rw [publish_futures]
      by_cases here : k = caller.key
      · rw [if_pos here, Option.some.injEq] at stored
        rw [stored, if_pos rfl]
      · rw [if_neg here] at stored
        rw [if_neg (other k b stored)]
        exact orderly.grounded k b stored
    clear := by
      intro k b lives
      change (s.flights.inflight.pop caller.key).get? k = none
      rw [Dict.get?_pop]
      by_cases here : k = caller.key
      · rw [if_pos here]
      · rw [if_neg here]
        exact orderly.clear k b ((live k b here).mp lives)
    knownSet := by
      intro k set there
      rw [publish_pending] at there
      split at there
      · cases there
      · exact orderly.knownSet k set there
    knownPending := orderly.knownPending
    held := orderly.held
    listed := by
      intro d k set awaits dead
      have here : k ≠ caller.key := fun same => dead c (same ▸ new)
      rw [publish_pending, if_neg here]
      exact orderly.listed d k set awaits (fun b lives => dead b ((live k b here).mpr lives))
    drained := by
      intro k b lives
      rw [publish_pending]
      by_cases here : k = caller.key
      · rw [if_pos here]
      · rw [if_neg here]
        exact orderly.drained k b ((live k b here).mp lives)
    subscribed := by
      intro d k set b lives awaits
      by_cases here : k = caller.key
      · rw [Live, publish_stored, if_pos here, Option.some.injEq] at lives
        rw [publish_bridge, if_pos lives.1.symm]
        rw [here] at awaits
        exact awaits_published orderly flying.1 awaits
      · have before := (live k b here).mp lives
        rw [publish_bridge, if_neg (other k b before.1)]
        exact orderly.subscribed d k set b before awaits }

/-! A call that arrives. -/

theorem stand_callers (s : Switchboard) (c d : Nat) (caller : Caller) (standing : Standing) :
    (s.stand c caller standing).callers.get? d = if d = c then some { caller with standing } else s.callers.get? d :=
  Dict.get?_set _ _ _ _

theorem register_queues (s : Switchboard) (c d : Nat) (key : String) (set : Nat) (other : set ≠ c)
    (member : d ∈ s.queues set) : d ∈ (s.register c key).queues set := by
  unfold register
  cases s.pendingSubscribers.get? key with
  | none =>
    change d ∈ (s.sets.set c {c}).getD set ∅
    rw [Dict.getD_set, if_neg other]
    exact member
  | some old =>
    change d ∈ (s.sets.set old (insert c (s.queues old))).getD set ∅
    rw [Dict.getD_set]
    by_cases same : set = old
    · rw [if_pos same, ← same]
      exact Finset.mem_insert_of_mem member
    · rw [if_neg same]
      exact member

theorem register_own (s : Switchboard) (c : Nat) (key : String) : c ∈ (s.register c key).queues (s.pendingSet c key) := by
  unfold register pendingSet Dict.getD
  cases s.pendingSubscribers.get? key with
  | none =>
    change c ∈ (s.sets.set c {c}).getD c ∅
    rw [Dict.getD_set, if_pos rfl]
    exact Finset.mem_singleton_self c
  | some old =>
    change c ∈ (s.sets.set old (insert c (s.queues old))).getD old ∅
    rw [Dict.getD_set, if_pos rfl]
    exact Finset.mem_insert_self c _

theorem register_pending (s : Switchboard) (c : Nat) (key k : String) : (s.register c key).pendingSubscribers.get? k =
    if k = key then some (s.pendingSet c key) else s.pendingSubscribers.get? k := by
  unfold register pendingSet Dict.getD
  cases there : s.pendingSubscribers.get? key with
  | none => exact Dict.get?_set _ _ _ _
  | some old =>
    by_cases here : k = key
    · rw [if_pos here, here]
      exact there
    · exact (if_neg here).symm

theorem pendingSet_known (orderly : s.Orderly) (c : Nat) (key : String) :
    s.pendingSet c key = c ∨ (s.callers.get? (s.pendingSet c key)).isSome := by
  unfold pendingSet Dict.getD
  cases there : s.pendingSubscribers.get? key with
  | none => exact .inl rfl
  | some old => exact .inr (orderly.knownSet key old there)

@[simp] theorem register_callers (s : Switchboard) (c : Nat) (key : String) : (s.register c key).callers = s.callers := by
  unfold register
  cases s.pendingSubscribers.get? key <;> rfl

@[simp] theorem register_flights (s : Switchboard) (c : Nat) (key : String) : (s.register c key).flights = s.flights := by
  unfold register
  cases s.pendingSubscribers.get? key <;> rfl

@[simp] theorem register_bridges (s : Switchboard) (c : Nat) (key : String) : (s.register c key).bridges = s.bridges := by
  unfold register
  cases s.pendingSubscribers.get? key <;> rfl

@[simp] theorem register_procs (s : Switchboard) (c : Nat) (key : String) : (s.register c key).procs = s.procs := by
  unfold register
  cases s.pendingSubscribers.get? key <;> rfl

theorem register_live (s : Switchboard) (c : Nat) (key : String) : (s.register c key).Live k b ↔ s.Live k b := by
  rw [Live, Live, bridge, bridge, register_bridges, register_procs]

theorem stand_known (found : (s.callers.get? d).isSome) : ((s.stand c caller standing).callers.get? d).isSome := by
  rw [stand_callers]
  split
  · rfl
  · exact found

/-- A call that stands anew and waits for nothing with a queue of its own. -/
theorem Orderly.stand (orderly : s.Orderly) (quiet : caller.pending = none ∨ standing ≠ .calling)
    (owner : ∀ k, s.bridges.get? k = some c → caller.key = k)
    (known : ∀ set, caller.pending = some set → (s.callers.get? set).isSome) : (s.stand c caller standing).Orderly := by
  have awaits : ∀ d k set, (s.stand c caller standing).Awaits d k set → s.Awaits d k set := by
    intro d k set awaits
    rw [Awaits, stand_callers] at awaits
    by_cases same : d = c
    · rw [if_pos same, Option.some.injEq, Caller.mk.injEq] at awaits
      rcases quiet with plain | stopped
      · rw [plain] at awaits
        cases awaits.2.1
      · exact absurd awaits.2.2 stopped
    · rw [if_neg same] at awaits
      exact awaits
  exact {
    owned := by
      intro k b stored
      obtain ⟨maker, there, key⟩ := orderly.owned k b stored
      rw [stand_callers]
      by_cases same : b = c
      · exact ⟨_, if_pos same, owner k (same ▸ stored)⟩
      · exact ⟨maker, (if_neg same).trans there, key⟩
    grounded := orderly.grounded
    clear := orderly.clear
    knownSet := fun k set there => stand_known (orderly.knownSet k set there)
    knownPending := by
      intro d other set there pending
      rw [stand_callers] at there
      by_cases same : d = c
      · rw [if_pos same, Option.some.injEq] at there
        rw [← there] at pending
        exact stand_known (known set pending)
      · rw [if_neg same] at there
        exact stand_known (orderly.knownPending d other set there pending)
    held := fun d k set here => orderly.held d k set (awaits d k set here)
    listed := fun d k set here dead => orderly.listed d k set (awaits d k set here) dead
    drained := orderly.drained
    subscribed := fun d k set b live here => orderly.subscribed d k set b live (awaits d k set here) }

/-- A call without a queue. -/
theorem Orderly.admit (orderly : s.Orderly) (fresh : s.callers.get? c = none) (plain : caller.pending = none) :
    (s.stand c caller standing).Orderly := by
  apply orderly.stand (Or.inl plain)
  · intro k stored
    obtain ⟨maker, there, _⟩ := orderly.owned k c stored
    rw [fresh] at there
    cases there
  · intro set pending
    rw [plain] at pending
    cases pending

/-- A call that registers its queue and then waits. -/
def enroll (s : Switchboard) (c : Nat) (key : String) : Switchboard :=
  (s.register c key).stand c ⟨key, some (s.pendingSet c key), .calling⟩ .calling

section
variable (s : Switchboard) (c d : Nat) (key : String)

theorem enroll_callers : (s.enroll c key).callers.get? d =
    if d = c then some ⟨key, some (s.pendingSet c key), .calling⟩ else s.callers.get? d := by
  rw [enroll, stand_callers, register_callers]

theorem enroll_bridges : (s.enroll c key).bridges = s.bridges := register_bridges s c key

theorem enroll_flights : (s.enroll c key).flights = s.flights := register_flights s c key

theorem enroll_live : (s.enroll c key).Live k b ↔ s.Live k b := register_live s c key

theorem enroll_bridge : (s.enroll c key).bridge b = s.bridge b := by
  rw [bridge, bridge, show (s.enroll c key).procs = s.procs from register_procs s c key]

theorem enroll_known (found : (s.callers.get? d).isSome) : ((s.enroll c key).callers.get? d).isSome := by
  rw [enroll_callers]
  split
  · rfl
  · exact found

end

theorem enroll_pendingSet (orderly : s.Orderly) (c : Nat) (key : String) :
    ((s.enroll c key).callers.get? (s.pendingSet c key)).isSome := by
  rcases pendingSet_known orderly c key with own | found
  · rw [enroll_callers, if_pos own]
    rfl
  · exact enroll_known s c _ key found

theorem awaits_enroll {key : String} (awaits : (s.enroll c key).Awaits d k set) :
    (d = c ∧ k = key ∧ set = s.pendingSet c key) ∨ (d ≠ c ∧ s.Awaits d k set) := by
  rw [Awaits, enroll_callers] at awaits
  by_cases same : d = c
  · rw [if_pos same, Option.some.injEq, Caller.mk.injEq, Option.some.injEq] at awaits
    exact .inl ⟨same, awaits.1.symm, awaits.2.1.symm⟩
  · rw [if_neg same] at awaits
    exact .inr ⟨same, awaits⟩

/-- A fresh call brings a fresh set. -/
theorem Orderly.set_ne (orderly : s.Orderly) (fresh : s.callers.get? c = none) (awaits : s.Awaits d k set) : set ≠ c := by
  intro same
  have known := orderly.knownPending d _ set awaits rfl
  rw [same, fresh] at known
  cases known

theorem Orderly.bridge_ne (orderly : s.Orderly) (fresh : s.callers.get? c = none) (stored : s.bridges.get? k = some b) :
    b ≠ c := by
  intro same
  obtain ⟨maker, known, _⟩ := orderly.owned k b stored
  rw [same, fresh] at known
  cases known

theorem Orderly.enroll (orderly : s.Orderly) (fresh : s.callers.get? c = none) {key : String} (dead : ∀ b, ¬ s.Live key b) :
    (s.enroll c key).Orderly where
  owned := by
    intro k b stored
    rw [enroll_bridges] at stored
    obtain ⟨maker, known, made⟩ := orderly.owned k b stored
    rw [enroll_callers, if_neg (orderly.bridge_ne fresh stored)]
    exact ⟨maker, known, made⟩
  grounded := by
    intro k b stored
    rw [enroll_bridges] at stored
    rw [enroll_flights]
    exact orderly.grounded k b stored
  clear := by
    intro k b live
    rw [enroll_live] at live
    rw [enroll_flights]
    exact orderly.clear k b live
  knownSet := by
    intro k set there
    rw [show (s.enroll c key).pendingSubscribers.get? k = _ from register_pending s c key k] at there
    by_cases here : k = key
    · rw [if_pos here, Option.some.injEq] at there
      rw [← there]
      exact enroll_pendingSet orderly c key
    · rw [if_neg here] at there
      exact enroll_known s c set key (orderly.knownSet k set there)
  knownPending := by
    intro d other set known pending
    rw [enroll_callers] at known
    by_cases same : d = c
    · rw [if_pos same, Option.some.injEq] at known
      rw [← known] at pending
      rw [← Option.some.inj pending]
      exact enroll_pendingSet orderly c key
    · rw [if_neg same] at known
      exact enroll_known s c set key (orderly.knownPending d other set known pending)
  held := by
    intro d k set awaits
    rcases awaits_enroll awaits with ⟨same, _, own⟩ | ⟨_, before⟩
    · rw [same, own]
      exact register_own s c key
    · exact register_queues s c d key set (orderly.set_ne fresh before) (orderly.held d k set before)
  listed := by
    intro d k set awaits gone
    refine (register_pending s c key k).trans ?_
    rcases awaits_enroll awaits with ⟨_, same, own⟩ | ⟨_, before⟩
    · rw [if_pos same, own]
    · have there := orderly.listed d k set before (fun b live => gone b ((enroll_live s c key).mpr live))
      by_cases same : k = key
      · rw [if_pos same, pendingSet, Dict.getD, ← same, there]
        rfl
      · rw [if_neg same]
        exact there
  drained := by
    intro k b live
    rw [enroll_live] at live
    have other : k ≠ key := fun same => dead b (same ▸ live)
    refine (register_pending s c key k).trans ?_
    rw [if_neg other]
    exact orderly.drained k b live
  subscribed := by
    intro d k set b live awaits
    rw [enroll_live] at live
    rw [enroll_bridge]
    rcases awaits_enroll awaits with ⟨_, same, _⟩ | ⟨_, before⟩
    · exact absurd (same ▸ live) (dead b)
    · exact orderly.subscribed d k set b live before

/-- A call that registers its queue and finds a live bridge at once. -/
def visit (s : Switchboard) (c : Nat) (key : String) (b : Nat) : Switchboard :=
  (s.register c key).raise c ⟨key, some (s.pendingSet c key), .calling⟩ (.streaming b)

theorem visit_callers (s : Switchboard) (c d : Nat) (key : String) (b : Nat) : (s.visit c key b).callers.get? d =
    if d = c then some ⟨key, some (s.pendingSet c key), .streaming b⟩ else s.callers.get? d := by
  rw [visit, raise_callers, register_callers]

theorem visit_bridges (s : Switchboard) (c : Nat) (key : String) (b : Nat) : (s.visit c key b).bridges = s.bridges := by
  rw [visit, raise_bridges, register_bridges]

theorem visit_flights (s : Switchboard) (c : Nat) (key : String) (b : Nat) : (s.visit c key b).flights = s.flights := by
  rw [visit, raise_flights, register_flights]

theorem visit_bridge (s : Switchboard) (c : Nat) (key : String) (b d : Nat) : (s.visit c key b).bridge d = s.bridge d := by
  rw [visit, raise_bridge, bridge, bridge, register_procs]

theorem visit_live (s : Switchboard) (c : Nat) (key : String) (d : Nat) : (s.visit c key d).Live k b ↔ s.Live k b := by
  rw [Live, Live, visit_bridges, visit_bridge]

theorem visit_pending {key : String} (empty : s.pendingSubscribers.get? key = none) (b : Nat) (k : String) :
    (s.visit c key b).pendingSubscribers.get? k = s.pendingSubscribers.get? k := by
  have own : s.pendingSet c key = c := by rw [pendingSet, Dict.getD, empty, Option.getD_none]
  have alone : (s.register c key).queues c = {c} := by
    unfold register
    rw [empty]
    exact (Dict.getD_set _ _ _ _ _).trans (if_pos rfl)
  rw [visit, own]
  change (if ((s.register c key).queues c).erase c = ∅ then (s.register c key).pendingSubscribers.pop key
    else (s.register c key).pendingSubscribers).get? k = _
  rw [alone, if_pos (by simp), Dict.get?_pop, register_pending]
  by_cases here : k = key
  · rw [if_pos here, here, empty]
  · rw [if_neg here, if_neg here]

theorem awaits_visit {key : String} {b : Nat} (awaits : (s.visit c key b).Awaits d k set) : d ≠ c ∧ s.Awaits d k set := by
  have before := awaits_of_raise (by simp) awaits
  rw [Awaits, register_callers] at before
  exact before

theorem Orderly.visit (orderly : s.Orderly) (fresh : s.callers.get? c = none) {key : String} (live : s.Live key b) :
    (s.visit c key b).Orderly := by
  have empty := orderly.drained key b live
  have own : s.pendingSet c key = c := by rw [pendingSet, Dict.getD, empty, Option.getD_none]
  have known : ∀ d, (s.callers.get? d).isSome → ((s.visit c key b).callers.get? d).isSome := by
    intro d found
    rw [visit_callers]
    split
    · rfl
    · exact found
  exact {
    owned := by
      intro k d stored
      rw [visit_bridges] at stored
      obtain ⟨maker, found, made⟩ := orderly.owned k d stored
      rw [visit_callers, if_neg (orderly.bridge_ne fresh stored)]
      exact ⟨maker, found, made⟩
    grounded := by
      intro k d stored
      rw [visit_bridges] at stored
      rw [visit_flights]
      exact orderly.grounded k d stored
    clear := by
      intro k d lives
      rw [visit_live] at lives
      rw [visit_flights]
      exact orderly.clear k d lives
    knownSet := by
      intro k set there
      rw [visit_pending empty] at there
      exact known set (orderly.knownSet k set there)
    knownPending := by
      intro d other set found pending
      rw [visit_callers] at found
      by_cases same : d = c
      · rw [if_pos same, Option.some.injEq] at found
        rw [← found] at pending
        rw [← Option.some.inj pending, own, visit_callers, if_pos rfl]
        rfl
      · rw [if_neg same] at found
        exact known set (orderly.knownPending d other set found pending)
    held := by
      intro d k set awaits
      have before := awaits_visit awaits
      apply raise_queues _ _ _ _ _ before.1
      exact register_queues s c d key set (orderly.set_ne fresh before.2) (orderly.held d k set before.2)
    listed := by
      intro d k set awaits dead
      rw [visit_pending empty]
      exact orderly.listed d k set (awaits_visit awaits).2 (fun j lives => dead j ((visit_live s c key b).mpr lives))
    drained := by
      intro k d lives
      rw [visit_live] at lives
      rw [visit_pending empty]
      exact orderly.drained k d lives
    subscribed := by
      intro d k set j lives awaits
      rw [visit_live] at lives
      rw [visit_bridge]
      exact orderly.subscribed d k set j lives (awaits_visit awaits).2 }

/-- A call that does not wait may stand anywhere else it does not wait. -/
theorem Orderly.restand (orderly : s.Orderly) (found : s.callers.get? c = some caller) (stopped : standing ≠ .calling) :
    (s.stand c caller standing).Orderly := by
  apply orderly.stand (Or.inr stopped)
  · intro k stored
    obtain ⟨maker, there, key⟩ := orderly.owned k c stored
    rw [found, Option.some.injEq] at there
    rw [there]
    exact key
  · intro set pending
    exact orderly.knownPending c caller set found pending

end KnowledgeGap.Gateway.Switchboard
