import KnowledgeGap.Protocol.Runs
import KnowledgeGap.Router.Counting

namespace KnowledgeGap.Router

open Relational Protocol

variable {K : Type}

/-- What happens at the scheduler, one section under its lock after the other. -/
inductive Event (K : Type)
  | acquire (capability : Capability) (estimateTokens : Int) (now deadline : K)
  | reject
  | release (lease : Lease) (success : Bool) (actualTokens : Option Int) (booked opened : K)
  | snapshot (now : K)

/-- The scheduler with everything it has ever done. -/
structure Ledger (K : Type) where
  scheduler : RouterScheduler K
  outstanding : List Lease
  clock : K
  grants : List (Nat × K)
  bookings : List (Nat × (K × Int))
  settled : List (Nat × (Bool × K))

def correction (lease : Lease) (actualTokens : Option Int) (booked : K) : List (Nat × (K × Int)) :=
  match actualTokens with
  | none => []
  | some actual =>
    if lease.estimateTokens ≠ 0 ∧ 0 < actual - lease.estimateTokens then
      [(lease.keyIndex, (booked, actual - lease.estimateTokens))]
    else []

section
variable [Field K] [LinearOrder K] (cfg : RouterConfig K)

def Ledger.init (start : K) : Ledger K := ⟨.init cfg, [], start, [], [], []⟩

def Ledger.granted (l : Ledger K) (lease : Lease) (now : K) : Ledger K :=
  { l with
    outstanding := l.outstanding ++ [lease]
    grants := l.grants ++ [(lease.keyIndex, now)]
    bookings := if lease.estimateTokens = 0 then l.bookings else l.bookings ++ [(lease.keyIndex, (now, lease.estimateTokens))] }

def Ledger.step (l : Ledger K) : Event K → Ledger K
  | .acquire capability estimateTokens now deadline =>
    let turn := acquireTurn cfg l.scheduler capability estimateTokens now deadline
    match turn.2 with
    | .granted lease => { l with scheduler := turn.1, clock := now }.granted lease now
    | _ => { l with scheduler := turn.1, clock := now }
  | .reject => { l with scheduler := reject l.scheduler }
  | .release lease success actualTokens booked opened =>
    { l with
      scheduler := release cfg l.scheduler lease success actualTokens booked opened
      outstanding := l.outstanding.erase lease
      clock := opened
      bookings := l.bookings ++ correction lease actualTokens booked
      settled := l.settled ++ [(lease.keyIndex, (success, opened))] }
  | .snapshot now => { l with scheduler := pruneAll l.scheduler now, clock := now }

/-- The clock does not go back, and a lease is released once. -/
def Ledger.Allowed (l : Ledger K) : Event K → Prop
  | .acquire _ _ now _ => l.clock ≤ now
  | .reject => True
  | .release lease _ _ booked opened => lease ∈ l.outstanding ∧ l.clock ≤ booked ∧ booked ≤ opened
  | .snapshot now => l.clock ≤ now

end

instance decidableAllowed [LinearOrder K] (l : Ledger K) : (e : Event K) → Decidable (l.Allowed e)
  | .acquire _ _ now _ => inferInstanceAs (Decidable (l.clock ≤ now))
  | .reject => inferInstanceAs (Decidable True)
  | .release lease _ _ booked opened => inferInstanceAs (Decidable (lease ∈ l.outstanding ∧ l.clock ≤ booked ∧ booked ≤ opened))
  | .snapshot now => inferInstanceAs (Decidable (l.clock ≤ now))

/-- The failures since the last success or opening, and the times of the openings. -/
def circuitStep (threshold : Nat) (state : Nat × List K) (release : Bool × K) : Nat × List K :=
  if release.1 then (0, state.2)
  else if threshold ≤ state.1 + 1 then (0, state.2 ++ [release.2])
  else (state.1 + 1, state.2)

def circuit (threshold : Nat) (releases : List (Bool × K)) : Nat × List K := releases.foldl (circuitStep threshold) (0, [])

theorem circuit_append (threshold : Nat) (releases : List (Bool × K)) (release : Bool × K) :
    circuit threshold (releases ++ [release]) = circuitStep threshold (circuit threshold releases) release := by
  unfold circuit
  rw [List.foldl_append]
  rfl

section
variable [Field K] [LinearOrder K] (cfg : RouterConfig K)

/-- What the scheduler knows of a key is what the ledger says of it. -/
structure KeySound (l : Ledger K) (i : Nat) (k : KeyState K) : Prop where
  share : k.inFlight ≤ cfg.keyConcurrency
  requests : Retained id minute l.clock (entriesOf i l.grants) k.requestTimes
  tokens : Retained Prod.fst minute l.clock (entriesOf i l.bookings) k.tokenEvents
  failures : k.failures = (circuit cfg.circuitThreshold (entriesOf i l.settled)).1
  opened : ∀ t ∈ (circuit cfg.circuitThreshold (entriesOf i l.settled)).2,
    t ≤ l.clock ∧ t + cfg.circuitCooldown ≤ k.openedUntil

/-- The state of the ledger between two events. -/
structure Sound (l : Ledger K) : Prop where
  counted : Counted l.scheduler l.outstanding
  global : l.scheduler.globalInFlight ≤ cfg.maxConcurrency
  capability : ∀ c, l.scheduler.capInFlight.getD c 0 ≤ capLimit cfg c
  keys : ∀ i k, l.scheduler.keys[i]? = some k → KeySound cfg l i k
  rate : cfg.keyRpm ≠ 0 → ∀ i, Rate minute cfg.keyRpm (entriesOf i l.grants)

variable {cfg} [IsStrictOrderedRing K]

omit [IsStrictOrderedRing K] in
theorem sound_init (start : K) : Sound cfg (.init cfg start) where
  counted := counted_init cfg
  global := Nat.zero_le _
  capability := fun _ => Nat.zero_le _
  keys := by
    intro i k found
    unfold Ledger.init RouterScheduler.init at found
    dsimp only at found
    rw [List.getElem?_map] at found
    obtain ⟨key, _, rfl⟩ := Option.map_eq_some_iff.mp found
    exact ⟨Nat.zero_le _, retained_nil _, retained_nil _, rfl, by simp [Ledger.init, entriesOf, circuit]⟩
  rate := fun _ _ => rate_nil _ _

theorem KeySound.advance {l : Ledger K} {i : Nat} {k : KeyState K} (sound : KeySound cfg l i k) {now : K} (later : l.clock ≤ now) :
    KeySound cfg { l with clock := now } i k where
  share := sound.share
  requests := sound.requests.advance later
  tokens := sound.tokens.advance later
  failures := sound.failures
  opened := fun t opening => ⟨le_trans (sound.opened t opening).1 later, (sound.opened t opening).2⟩

theorem KeySound.prune {l : Ledger K} {i : Nat} {k : KeyState K} (sound : KeySound cfg l i k) :
    KeySound cfg l i (Router.prune l.clock k) where
  share := sound.share
  requests := sound.requests.drop (le_refl _)
  tokens := sound.tokens.drop (le_refl _)
  failures := sound.failures
  opened := sound.opened

omit [IsStrictOrderedRing K] in
/-- A key that passes the tests is not at any of its limits. -/
theorem checkKey_free {now : K} {estimateTokens : Int} {k : KeyState K} (free : checkKey cfg now estimateTokens k = .free) :
    k.openedUntil ≤ now ∧ k.inFlight < cfg.keyConcurrency ∧ (cfg.keyRpm ≠ 0 → k.requestTimes.length < cfg.keyRpm) ∧
      (cfg.keyTpm ≠ 0 → (k.tokenEvents.map Prod.snd).sum + estimateTokens ≤ cfg.keyTpm) := by
  have stuck : ∀ {α : Type} (time : α → K) (log : List α), oldest now time log ≠ .free := by
    intro α time log
    cases log with
    | nil => simp [oldest]
    | cons e log => simp [oldest]
  unfold checkKey at free
  split at free
  · cases free
  · rename_i closed
    split at free
    · cases free
    · rename_i room
      split at free
      · exact absurd free (stuck _ _)
      · rename_i slow
        split at free
        · exact absurd free (stuck _ _)
        · rename_i cheap
          refine ⟨not_lt.mp closed, not_le.mp room, ?_, ?_⟩
          · intro limited
            by_contra full
            exact slow ⟨limited, not_lt.mp full⟩
          · intro limited
            by_contra dear
            exact cheap ⟨limited, not_le.mp dear⟩

variable (cfg) in
/-- The key that is granted, as the ledger knows it. -/
structure Picked (l : Ledger K) (now : K) (estimateTokens : Int) (index : Nat) (k : KeyState K) : Prop where
  sound : KeySound cfg { l with clock := now } index k
  closed : k.openedUntil ≤ now
  room : k.inFlight < cfg.keyConcurrency
  few : cfg.keyRpm ≠ 0 → (recent id minute now (entriesOf index l.grants)).length < cfg.keyRpm
  cheap : cfg.keyTpm ≠ 0 →
    ((recent Prod.fst minute now (entriesOf index l.bookings)).map Prod.snd).sum + estimateTokens ≤ cfg.keyTpm

theorem Sound.aged {l : Ledger K} (sound : Sound cfg l) {now : K} (later : l.clock ≤ now) {keys : List (KeyState K)}
    (aged : Aged now l.scheduler.keys keys) : ∀ i k, keys[i]? = some k → KeySound cfg { l with clock := now } i k :=
  aged.keeps (fun _ _ before => before.prune) (fun i k found => (sound.keys i k found).advance later)

theorem Sound.chosen {l : Ledger K} (sound : Sound cfg l) {now : K} (later : l.clock ≤ now) {estimateTokens : Int}
    {keys : List (KeyState K)} {index : Nat} (chosen : Chosen cfg now estimateTokens l.scheduler.keys keys index) {k : KeyState K}
    (found : keys[index]? = some k) : Picked cfg l now estimateTokens index k := by
  obtain ⟨before, k', aged, stored, rfl, free⟩ := chosen
  rw [List.getElem?_modify_eq, stored] at found
  cases found
  have old := sound.aged later aged index k' stored
  obtain ⟨closed, room, few, cheap⟩ := checkKey_free free
  have requests : (prune now k').requestTimes = recent id minute now (entriesOf index l.grants) :=
    old.requests.drop_eq_recent (le_refl now)
  have tokens : (prune now k').tokenEvents = recent Prod.fst minute now (entriesOf index l.bookings) :=
    old.tokens.drop_eq_recent (le_refl now)
  rw [requests] at few
  rw [tokens] at cheap
  exact ⟨old.prune, closed, room, few, cheap⟩

omit [IsStrictOrderedRing K] in
/-- A key is not concerned by what the ledger notes of another. -/
theorem KeySound.of_eq {l l' : Ledger K} {i : Nat} {k : KeyState K} (sound : KeySound cfg l i k) (clock : l'.clock = l.clock)
    (grants : entriesOf i l'.grants = entriesOf i l.grants) (bookings : entriesOf i l'.bookings = entriesOf i l.bookings)
    (settled : entriesOf i l'.settled = entriesOf i l.settled) : KeySound cfg l' i k where
  share := sound.share
  requests := by
    rw [clock, grants]
    exact sound.requests
  tokens := by
    rw [clock, bookings]
    exact sound.tokens
  failures := by
    rw [settled]
    exact sound.failures
  opened := by
    rw [clock, settled]
    exact sound.opened

omit [Field K] [LinearOrder K] [IsStrictOrderedRing K] in
theorem entriesOf_granted (l : Ledger K) (lease : Lease) (now : K) (i : Nat) :
    entriesOf i (l.granted lease now).bookings = if lease.estimateTokens = 0 ∨ lease.keyIndex ≠ i then entriesOf i l.bookings
      else entriesOf i l.bookings ++ [(now, lease.estimateTokens)] := by
  unfold Ledger.granted
  dsimp only
  by_cases none : lease.estimateTokens = 0
  · simp [none]
  · rw [if_neg none, entriesOf_append]
    by_cases same : lease.keyIndex = i
    · simp [none, same]
    · simp [same]

theorem Picked.taken {l : Ledger K} {now : K} {estimateTokens : Int} {index : Nat} {k : KeyState K}
    (picked : Picked cfg l now estimateTokens index k) (capability : Capability) :
    KeySound cfg ({ l with clock := now }.granted ⟨index, capability, estimateTokens⟩ now) index (takeKey now estimateTokens k) where
  share := picked.room
  requests := by
    show Retained id minute now (entriesOf index (l.grants ++ [(index, now)])) (k.requestTimes ++ [now])
    rw [entriesOf_append, if_pos rfl]
    exact picked.sound.requests.push (le_refl now) rfl
  tokens := by
    rw [entriesOf_granted]
    unfold takeKey
    dsimp only
    by_cases none : estimateTokens = 0
    · rw [if_pos (Or.inl none), if_pos none]
      exact picked.sound.tokens
    · rw [if_neg (by simp [none]), if_neg none]
      exact picked.sound.tokens.push (le_refl now) rfl
  failures := picked.sound.failures
  opened := picked.sound.opened

theorem Sound.granted {l : Ledger K} (sound : Sound cfg l) {now : K} (later : l.clock ≤ now) {capability : Capability}
    {estimateTokens : Int} {keys : List (KeyState K)} {index : Nat}
    (chosen : Chosen cfg now estimateTokens l.scheduler.keys keys index) (room : l.scheduler.globalInFlight < cfg.maxConcurrency)
    (share : l.scheduler.capInFlight.getD capability 0 < capLimit cfg capability) :
    Sound cfg ({ l with
      scheduler := grant { l.scheduler with keys := keys } index capability estimateTokens now
      clock := now }.granted ⟨index, capability, estimateTokens⟩ now) where
  counted := by
    obtain ⟨aged, inside⟩ := chosen.inside
    exact Counted.grant (sound.counted.aged aged l.scheduler.rejections) inside capability estimateTokens now
  global := room
  capability := by
    intro c
    show (l.scheduler.capInFlight.set capability (l.scheduler.capInFlight.getD capability 0 + 1)).getD c 0 ≤ _
    rw [Dict.getD_set]
    by_cases same : c = capability
    · rw [if_pos same, same]
      exact share
    · rw [if_neg same]
      exact sound.capability c
  keys := by
    apply forall_modify
    · intro k found
      exact KeySound.of_eq ((sound.chosen later chosen found).taken capability) rfl rfl rfl rfl
    · intro i k apart found
      refine KeySound.of_eq (sound.aged later chosen.inside.1 i k found) rfl ?_ ?_ rfl
      · show entriesOf i (l.grants ++ [(index, now)]) = _
        rw [entriesOf_append, if_neg (Ne.symm apart)]
      · rw [entriesOf_granted, if_pos (Or.inr (Ne.symm apart))]
  rate := by
    intro limited i
    show Rate minute cfg.keyRpm (entriesOf i (l.grants ++ [(index, now)]))
    rw [entriesOf_append]
    split
    · rename_i same
      subst same
      obtain ⟨k, found⟩ : ∃ k, keys[index]? = some k := ⟨_, List.getElem?_eq_getElem chosen.inside.2⟩
      exact (sound.rate limited index).push ((sound.chosen later chosen found).few limited)
    · exact sound.rate limited i

theorem Sound.refused {l : Ledger K} (sound : Sound cfg l) {now : K} (later : l.clock ≤ now) {keys : List (KeyState K)}
    (aged : Aged now l.scheduler.keys keys) (rejections : Nat) :
    Sound cfg { l with scheduler := { l.scheduler with keys := keys, rejections := rejections }, clock := now } where
  counted := sound.counted.aged aged rejections
  global := sound.global
  capability := sound.capability
  keys := fun i k found => KeySound.of_eq (sound.aged later aged i k found) rfl rfl rfl rfl
  rate := sound.rate

omit [Field K] [LinearOrder K] [IsStrictOrderedRing K] in
theorem correction_cases (lease : Lease) (actualTokens : Option Int) (booked : K) :
    correction lease actualTokens booked = [] ∨ ∃ n, correction lease actualTokens booked = [(lease.keyIndex, (booked, n))] := by
  unfold correction
  split
  · exact Or.inl rfl
  · split
    · exact Or.inr ⟨_, rfl⟩
    · exact Or.inl rfl

omit [IsStrictOrderedRing K] [LinearOrder K] in
theorem releaseKey_tokenEvents (lease : Lease) (success : Bool) (actualTokens : Option Int) (booked opened : K) (k : KeyState K) :
    (releaseKey cfg lease success actualTokens booked opened k).tokenEvents =
      k.tokenEvents ++ (correction lease actualTokens booked).map Prod.snd := by
  unfold releaseKey correction
  dsimp only
  cases actualTokens with
  | none => simp
  | some actual =>
    dsimp only
    by_cases late : lease.estimateTokens ≠ 0 ∧ 0 < actual - lease.estimateTokens
    · rw [if_pos late, if_pos late]
      rfl
    · rw [if_neg late, if_neg late]
      simp

omit [Field K] [LinearOrder K] [IsStrictOrderedRing K] in
theorem entriesOf_correction (bookings : List (Nat × (K × Int))) (lease : Lease) (actualTokens : Option Int) (booked : K) (i : Nat) :
    entriesOf i (bookings ++ correction lease actualTokens booked) =
      if lease.keyIndex = i then entriesOf i bookings ++ (correction lease actualTokens booked).map Prod.snd
      else entriesOf i bookings := by
  rcases correction_cases lease actualTokens booked with none | ⟨n, one⟩
  · simp [none]
  · rw [one, entriesOf_append]
    rfl

/-- The tokens booked late stand behind those booked before. -/
theorem retained_correction {clock booked opened : K} {log kept : List (K × Int)}
    (retained : Retained Prod.fst minute clock log kept) (later : clock ≤ booked) (last : booked ≤ opened) (lease : Lease)
    (actualTokens : Option Int) :
    Retained Prod.fst minute opened (log ++ (correction lease actualTokens booked).map Prod.snd)
      (kept ++ (correction lease actualTokens booked).map Prod.snd) := by
  rcases correction_cases lease actualTokens booked with none | ⟨n, one⟩
  · rw [none, List.map_nil, List.append_nil, List.append_nil]
    exact retained.advance (le_trans later last)
  · rw [one]
    exact (retained.push later rfl).advance last

theorem KeySound.released {l : Ledger K} {lease : Lease} {k : KeyState K} (sound : KeySound cfg l lease.keyIndex k)
    {booked opened : K} (later : l.clock ≤ booked) (last : booked ≤ opened) (success : Bool) (actualTokens : Option Int) :
    KeySound cfg (l.step cfg (.release lease success actualTokens booked opened)) lease.keyIndex
      (releaseKey cfg lease success actualTokens booked opened k) where
  share := le_trans (Nat.sub_le _ _) sound.share
  requests := sound.requests.advance (le_trans later last)
  tokens := by
    rw [releaseKey_tokenEvents]
    show Retained Prod.fst minute opened (entriesOf lease.keyIndex (l.bookings ++ correction lease actualTokens booked)) _
    rw [entriesOf_correction, if_pos rfl]
    exact retained_correction sound.tokens later last lease actualTokens
  failures := by
    show (if success = true ∨ cfg.circuitThreshold ≤ k.failures + 1 then 0 else k.failures + 1) =
      (circuit cfg.circuitThreshold (entriesOf lease.keyIndex (l.settled ++ [(lease.keyIndex, (success, opened))]))).1
    rw [entriesOf_append, if_pos rfl, circuit_append, sound.failures, circuitStep]
    cases success with
    | true => simp
    | false =>
      simp only [Bool.false_eq_true, false_or, if_false]
      split
      · rfl
      · rfl
  opened := by
    have after := le_trans later last
    show ∀ t ∈ (circuit cfg.circuitThreshold (entriesOf lease.keyIndex (l.settled ++ [(lease.keyIndex, (success, opened))]))).2,
      t ≤ opened ∧ t + cfg.circuitCooldown ≤
        if success = false ∧ cfg.circuitThreshold ≤ k.failures + 1 then opened + cfg.circuitCooldown else k.openedUntil
    rw [entriesOf_append, if_pos rfl, circuit_append, sound.failures, circuitStep]
    cases success with
    | true =>
      simp only [if_true, Bool.true_eq_false, false_and, if_false]
      exact fun t opening => ⟨le_trans (sound.opened t opening).1 after, (sound.opened t opening).2⟩
    | false =>
      simp only [Bool.false_eq_true, if_false, true_and]
      split
      · intro t opening
        rcases List.mem_append.mp opening with old | new
        · have past := le_trans (sound.opened t old).1 after
          exact ⟨past, add_le_add_left past _⟩
        · rw [List.mem_singleton.mp new]
          exact ⟨le_refl _, le_refl _⟩
      · exact fun t opening => ⟨le_trans (sound.opened t opening).1 after, (sound.opened t opening).2⟩

theorem Sound.released {l : Ledger K} (sound : Sound cfg l) {lease : Lease} (out : lease ∈ l.outstanding) {booked opened : K}
    (later : l.clock ≤ booked) (last : booked ≤ opened) (success : Bool) (actualTokens : Option Int) :
    Sound cfg (l.step cfg (.release lease success actualTokens booked opened)) where
  counted := sound.counted.release out success actualTokens booked opened
  global := le_trans (Nat.sub_le _ _) sound.global
  capability := by
    intro c
    obtain ⟨_, _, _, stored⟩ := sound.counted.positive out
    have limit := sound.capability c
    show (l.scheduler.capInFlight.set lease.capability (l.scheduler.capInFlight.getD lease.capability 1 - 1)).getD c 0 ≤ _
    rw [Dict.getD_set]
    split
    · rename_i same
      rw [stored, ← same]
      omega
    · exact limit
  keys := by
    apply forall_modify
    · intro k found
      exact (sound.keys _ k found).released later last success actualTokens
    · intro i k apart found
      refine KeySound.of_eq ((sound.keys i k found).advance (le_trans later last)) rfl rfl ?_ ?_
      · show entriesOf i (l.bookings ++ correction lease actualTokens booked) = _
        rw [entriesOf_correction, if_neg (Ne.symm apart)]
      · show entriesOf i (l.settled ++ [(lease.keyIndex, (success, opened))]) = _
        rw [entriesOf_append, if_neg (Ne.symm apart)]
  rate := sound.rate

theorem Sound.snapshot {l : Ledger K} (sound : Sound cfg l) {now : K} (later : l.clock ≤ now) :
    Sound cfg (l.step cfg (.snapshot now)) := by
  have each : ∀ (i : Nat) (k : KeyState K), (l.scheduler.keys.map (prune now))[i]? = some k →
      ∃ k', l.scheduler.keys[i]? = some k' ∧ k = prune now k' := by
    intro i k found
    rw [List.getElem?_map] at found
    obtain ⟨k', before, rfl⟩ := Option.map_eq_some_iff.mp found
    exact ⟨k', before, rfl⟩
  refine ⟨⟨?_, ?_, sound.counted.global, sound.counted.capability⟩, sound.global, sound.capability, ?_, sound.rate⟩
  · intro i k found
    obtain ⟨k', before, rfl⟩ := each i k found
    exact sound.counted.keys i k' before
  · intro lease out
    show lease.keyIndex < (l.scheduler.keys.map (prune now)).length
    rw [List.length_map]
    exact sound.counted.known lease out
  · intro i k found
    obtain ⟨k', before, rfl⟩ := each i k found
    exact KeySound.of_eq ((sound.keys i k' before).advance later).prune rfl rfl rfl rfl

omit [IsStrictOrderedRing K] in
theorem Sound.reject {l : Ledger K} (sound : Sound cfg l) : Sound cfg (l.step cfg .reject) where
  counted := ⟨sound.counted.keys, sound.counted.known, sound.counted.global, sound.counted.capability⟩
  global := sound.global
  capability := sound.capability
  keys := fun i k found => KeySound.of_eq (sound.keys i k found) rfl rfl rfl rfl
  rate := sound.rate

theorem Sound.acquired {l : Ledger K} (sound : Sound cfg l) {now : K} (later : l.clock ≤ now) (capability : Capability)
    (estimateTokens : Int) (deadline : K) : Sound cfg (l.step cfg (.acquire capability estimateTokens now deadline)) := by
  have made := acquireTurn_made cfg l.scheduler capability estimateTokens now deadline
  unfold Ledger.step
  dsimp only
  generalize acquireTurn cfg l.scheduler capability estimateTokens now deadline = turn at made
  cases made with
  | granted chosen room share => exact sound.granted later chosen room share
  | @refused keys rejections outcome aged none =>
    split
    · rename_i lease same
      exact absurd same (none lease)
    · exact sound.refused later aged rejections

theorem Sound.step {l : Ledger K} (sound : Sound cfg l) (e : Event K) (allowed : l.Allowed e) : Sound cfg (l.step cfg e) := by
  cases e with
  | acquire capability estimateTokens now deadline => exact sound.acquired allowed capability estimateTokens deadline
  | reject => exact sound.reject
  | release lease success actualTokens booked opened =>
    exact sound.released allowed.1 allowed.2.1 allowed.2.2 success actualTokens
  | snapshot now => exact sound.snapshot allowed

/-- What is booked for the key that is granted stays within its tokens, and its circuit is closed. -/
theorem Sound.grant {l : Ledger K} (sound : Sound cfg l) {now : K} (later : l.clock ≤ now) {capability : Capability}
    {estimateTokens : Int} {deadline : K} {lease : Lease}
    (granted : (acquireTurn cfg l.scheduler capability estimateTokens now deadline).2 = .granted lease) :
    (cfg.keyTpm ≠ 0 → ((recent Prod.fst minute now (entriesOf lease.keyIndex
        (l.step cfg (.acquire capability estimateTokens now deadline)).bookings)).map Prod.snd).sum ≤ cfg.keyTpm) ∧
      ∀ t ∈ (circuit cfg.circuitThreshold (entriesOf lease.keyIndex l.settled)).2, t + cfg.circuitCooldown ≤ now := by
  have made := acquireTurn_made cfg l.scheduler capability estimateTokens now deadline
  have stepped : (l.step cfg (.acquire capability estimateTokens now deadline)).bookings = (l.granted lease now).bookings := by
    unfold Ledger.step
    dsimp only
    rw [granted]
    rfl
  rw [stepped, entriesOf_granted]
  generalize acquireTurn cfg l.scheduler capability estimateTokens now deadline = turn at made granted
  cases made with
  | refused aged none => exact absurd granted (none lease)
  | @granted keys index chosen room share =>
    cases granted
    obtain ⟨k, found⟩ : ∃ k, keys[index]? = some k := ⟨_, List.getElem?_eq_getElem chosen.inside.2⟩
    have picked := sound.chosen later chosen found
    refine ⟨?_, fun t opening => le_trans (picked.sound.opened t opening).2 picked.closed⟩
    intro limited
    have cheap := picked.cheap limited
    by_cases none : estimateTokens = 0
    · rw [if_pos (Or.inl none)]
      dsimp only
      omega
    · have now_recent : (recent Prod.fst minute now [(now, estimateTokens)]) = [(now, estimateTokens)] := by
        have positive : (0 : K) < minute := by
          unfold minute
          positivity
        simp [recent, positive]
      rw [if_neg (by simp [none]), recent, List.filter_append, ← recent, ← recent, now_recent, List.map_append, List.sum_append]
      simpa using cheap

variable (cfg) in
/-- What holds of the scheduler at every moment, with the next section in view. -/
structure Limited (l : Ledger K) : Prop where
  counted : Counted l.scheduler l.outstanding
  keyLimit : ∀ (i : Nat) (k : KeyState K), l.scheduler.keys[i]? = some k → k.inFlight ≤ cfg.keyConcurrency
  capabilityLimit : ∀ c, l.scheduler.capInFlight.getD c 0 ≤ capLimit cfg c
  globalLimit : l.scheduler.globalInFlight ≤ cfg.maxConcurrency
  positive : ∀ lease ∈ l.outstanding, (∀ k, l.scheduler.keys[lease.keyIndex]? = some k → 1 ≤ k.inFlight) ∧
    1 ≤ l.scheduler.globalInFlight ∧ 1 ≤ l.scheduler.capInFlight.getD lease.capability 1
  rate : cfg.keyRpm ≠ 0 → ∀ i, Rate minute cfg.keyRpm (entriesOf i l.grants)
  tokens : ∀ capability estimateTokens now deadline lease, l.clock ≤ now →
    (acquireTurn cfg l.scheduler capability estimateTokens now deadline).2 = .granted lease → cfg.keyTpm ≠ 0 →
      ((recent Prod.fst minute now (entriesOf lease.keyIndex
        (l.step cfg (.acquire capability estimateTokens now deadline)).bookings)).map Prod.snd).sum ≤ cfg.keyTpm
  closed : ∀ capability estimateTokens now deadline lease, l.clock ≤ now →
    (acquireTurn cfg l.scheduler capability estimateTokens now deadline).2 = .granted lease →
      ∀ t ∈ (circuit cfg.circuitThreshold (entriesOf lease.keyIndex l.settled)).2, t + cfg.circuitCooldown ≤ now

theorem Sound.limited {l : Ledger K} (sound : Sound cfg l) : Limited cfg l where
  counted := sound.counted
  keyLimit := fun i k found => (sound.keys i k found).share
  capabilityLimit := sound.capability
  globalLimit := sound.global
  positive := by
    intro lease out
    obtain ⟨key, global, share, stored⟩ := sound.counted.positive out
    exact ⟨key, global, stored ▸ share⟩
  rate := sound.rate
  tokens := fun _ _ _ _ _ later granted => (sound.grant later granted).1
  closed := fun _ _ _ _ _ later granted => (sound.grant later granted).2

/-- No interleaving of turns and releases takes the scheduler past one of its limits. -/
theorem scheduler_limits (cfg : RouterConfig K) (start : K) (events : List (Event K))
    (along : Along (Ledger.step cfg) Ledger.Allowed (.init cfg start) events) :
    Limited cfg (run (Ledger.step cfg) (.init cfg start) events) := by
  have preserve : ∀ (l : Ledger K) (e : Event K), Sound cfg l → l.Allowed e → Sound cfg (l.step cfg e) :=
    fun _ e sound allowed => sound.step e allowed
  exact (run_invariant_along preserve events _ along (sound_init start)).limited

end

def twoKeys : RouterConfig ℚ := ⟨["a", "b"], 2, 2, 2, 2, 1, 2, 100, 3, 0, 1, 30⟩

/-- Both keys are taken, one fails and opens its circuit, and the third lease waits for the other. -/
def busyMinute : List (Event ℚ) :=
  [.acquire (.other "text") 40 0 3, .acquire .agent 40 1 4, .acquire .vision 40 1 4, .release ⟨0, .other "text", 40⟩ false none 2 2,
    .acquire .vision 40 3 6, .release ⟨1, .agent, 40⟩ true (some 50) 4 4, .acquire .vision 40 5 8]

theorem scheduler_limits_busy_minute :
    (run (Ledger.step twoKeys) (.init twoKeys 0) busyMinute).grants = [(0, 0), (1, 1), (1, 5)] ∧
      Limited twoKeys (run (Ledger.step twoKeys) (.init twoKeys 0) busyMinute) :=
  ⟨by decide +kernel, scheduler_limits twoKeys 0 busyMinute (by decide +kernel)⟩

end KnowledgeGap.Router
