import KnowledgeGap.Router.Scheduler

namespace KnowledgeGap.Router

open Relational Protocol

variable {K : Type}

section
variable [Field K] [LinearOrder K]

/-- Some keys of a list have been pruned. -/
inductive Aged (now : K) (keys : List (KeyState K)) : List (KeyState K) → Prop
  | refl : Aged now keys keys
  | prune {keys' : List (KeyState K)} (index : Nat) (before : Aged now keys keys') :
      Aged now keys (keys'.modify index (Router.prune now))

theorem Aged.length {now : K} {keys keys' : List (KeyState K)} (aged : Aged now keys keys') : keys'.length = keys.length := by
  induction aged with
  | refl => rfl
  | prune index _ ih => rw [List.length_modify, ih]

omit [Field K] [LinearOrder K] in
theorem forall_modify {P : Nat → KeyState K → Prop} {keys : List (KeyState K)} {index : Nat} {f : KeyState K → KeyState K}
    (there : ∀ k, keys[index]? = some k → P index (f k)) (other : ∀ i k, i ≠ index → keys[i]? = some k → P i k) :
    ∀ i k, (keys.modify index f)[i]? = some k → P i k := by
  intro i k found
  by_cases here : index = i
  · subst here
    rw [List.getElem?_modify_eq] at found
    obtain ⟨k', before, rfl⟩ := Option.map_eq_some_iff.mp found
    exact there k' before
  · rw [List.getElem?_modify_ne _ _ here] at found
    exact other i k (Ne.symm here) found

/-- What a pruning keeps of each key, it keeps of them all. -/
theorem Aged.keeps {now : K} {P : Nat → KeyState K → Prop} (keep : ∀ i k, P i k → P i (Router.prune now k))
    {keys keys' : List (KeyState K)} (aged : Aged now keys keys') (before : ∀ i k, keys[i]? = some k → P i k) :
    ∀ i k, keys'[i]? = some k → P i k := by
  induction aged with
  | refl => exact before
  | prune index _ ih => exact forall_modify (fun k found => keep index k (ih index k found)) (fun i k _ => ih i k)

variable (cfg : RouterConfig K)

/-- The key a scan has settled on: it was pruned last, and it passes every test. -/
def Chosen (now : K) (estimateTokens : Int) (keys keys' : List (KeyState K)) (index : Nat) : Prop :=
  ∃ before k, Aged now keys before ∧ before[index]? = some k ∧ keys' = before.modify index (prune now) ∧
    checkKey cfg now estimateTokens (prune now k) = .free

variable {cfg}

theorem Aged.trans {now : K} {keys keys' keys'' : List (KeyState K)} (first : Aged now keys keys') (second : Aged now keys' keys'') :
    Aged now keys keys'' := by
  induction second with
  | refl => exact first
  | prune index _ ih => exact .prune index ih

variable (cfg) in
theorem scan_aged (now : K) (estimateTokens : Int) (order : List Nat) (keys : List (KeyState K)) (retryAfter : K) :
    Aged now keys (scan cfg now estimateTokens order keys retryAfter).keys := by
  induction order generalizing keys retryAfter with
  | nil => exact .refl
  | cons index order ih =>
    have once : Aged now keys (keys.modify index (prune now)) := .prune index .refl
    unfold scan
    split
    · exact .refl
    · split
      · exact once
      · exact once
      · exact once.trans (ih _ _)
      · exact once.trans (ih _ _)

theorem scan_chosen {now : K} {estimateTokens : Int} {order : List Nat} {keys : List (KeyState K)} {retryAfter : K} {index : Nat}
    (found : (scan cfg now estimateTokens order keys retryAfter).found = .candidate index) :
    Chosen cfg now estimateTokens keys (scan cfg now estimateTokens order keys retryAfter).keys index := by
  induction order generalizing keys retryAfter with
  | nil => cases found
  | cons here order ih =>
    have later : ∀ retryAfter, (scan cfg now estimateTokens order (keys.modify here (prune now)) retryAfter).found = .candidate index →
        Chosen cfg now estimateTokens keys
          (scan cfg now estimateTokens order (keys.modify here (prune now)) retryAfter).keys index := by
      intro retryAfter found
      obtain ⟨before, k, aged, state, after, free⟩ := ih found
      exact ⟨before, k, Aged.trans (.prune here .refl) aged, state, after, free⟩
    unfold scan at found ⊢
    cases state : (keys.modify here (prune now))[here]? with
    | none => simp [state] at found
    | some pruned =>
      simp only [state] at found ⊢
      cases check : checkKey cfg now estimateTokens pruned with
      | indexError => simp [check] at found
      | skip wait =>
        cases wait with
        | none =>
          simp only [check] at found ⊢
          exact later _ found
        | some wait =>
          simp only [check] at found ⊢
          exact later _ found
      | free =>
        simp only [check, Found.candidate.injEq] at found ⊢
        subst found
        rw [List.getElem?_modify_eq] at state
        obtain ⟨k, stored, rfl⟩ := Option.map_eq_some_iff.mp state
        exact ⟨keys, k, .refl, stored, rfl, check⟩

variable (cfg) in
/-- How a turn of `acquire` can change the scheduler. -/
inductive TurnMade (s : RouterScheduler K) (capability : Capability) (estimateTokens : Int) (now : K) :
    RouterScheduler K × Turn K → Prop
  | granted {keys : List (KeyState K)} {index : Nat} (chosen : Chosen cfg now estimateTokens s.keys keys index)
      (room : s.globalInFlight < cfg.maxConcurrency) (share : s.capInFlight.getD capability 0 < capLimit cfg capability) :
      TurnMade s capability estimateTokens now
        (grant { s with keys := keys } index capability estimateTokens now, .granted ⟨index, capability, estimateTokens⟩)
  | refused {keys : List (KeyState K)} {rejections : Nat} {turn : Turn K} (aged : Aged now s.keys keys)
      (none : ∀ lease, turn ≠ .granted lease) :
      TurnMade s capability estimateTokens now ({ s with keys := keys, rejections := rejections }, turn)

theorem turnAway_made {s : RouterScheduler K} {keys : List (KeyState K)} {now : K} (aged : Aged now s.keys keys)
    (capability : Capability) (estimateTokens : Int) (deadline retryAfter : K) :
    TurnMade cfg s capability estimateTokens now (turnAway { s with keys := keys } now deadline retryAfter) := by
  unfold turnAway
  split
  · exact .refused aged (by simp)
  · exact .refused aged (by simp)

variable (cfg) in
theorem acquireTurn_made (s : RouterScheduler K) (capability : Capability) (estimateTokens : Int) (now deadline : K) :
    TurnMade cfg s capability estimateTokens now (acquireTurn cfg s capability estimateTokens now deadline) := by
  have aged := scan_aged cfg now estimateTokens s.order s.keys (max (ratio 5 100) (deadline - now))
  unfold acquireTurn
  dsimp only
  split
  · exact .refused aged (by simp)
  · exact turnAway_made aged capability estimateTokens deadline _
  · rename_i index found
    split
    · rename_i free
      exact .granted (scan_chosen found) free.1 free.2
    · exact turnAway_made aged capability estimateTokens deadline _

/-- The counters of the scheduler are the numbers of the leases that are out. -/
structure Counted (s : RouterScheduler K) (leases : List Lease) : Prop where
  keys : ∀ i k, s.keys[i]? = some k → k.inFlight = leases.countP (fun lease => lease.keyIndex == i)
  known : ∀ lease ∈ leases, lease.keyIndex < s.keys.length
  global : s.globalInFlight = leases.length
  capability : ∀ c, s.capInFlight.getD c 0 = leases.countP (fun lease => lease.capability == c)

omit [LinearOrder K] in
theorem counted_init (cfg : RouterConfig K) : Counted (.init cfg) [] where
  keys := by
    intro i k found
    unfold RouterScheduler.init at found
    dsimp only at found
    rw [List.getElem?_map] at found
    obtain ⟨key, _, rfl⟩ := Option.map_eq_some_iff.mp found
    rfl
  known := by simp
  global := rfl
  capability := fun _ => rfl

omit [Field K] [LinearOrder K] in
theorem Counted.perm {s : RouterScheduler K} {leases others : List Lease} (counted : Counted s leases) (same : others.Perm leases) :
    Counted s others where
  keys := fun i k found => (counted.keys i k found).trans (same.countP_eq _).symm
  known := fun lease out => counted.known lease (same.mem_iff.mp out)
  global := counted.global.trans same.length_eq.symm
  capability := fun c => (counted.capability c).trans (same.countP_eq _).symm

theorem Counted.aged {s : RouterScheduler K} {leases : List Lease} (counted : Counted s leases) {now : K} {keys : List (KeyState K)}
    (aged : Aged now s.keys keys) (rejections : Nat) :
    Counted { s with keys := keys, rejections := rejections } leases where
  keys := aged.keeps (fun _ _ same => same) counted.keys
  known := fun lease out => aged.length ▸ counted.known lease out
  global := counted.global
  capability := counted.capability

omit [Field K] [LinearOrder K] in
theorem Counted.grant {s : RouterScheduler K} {leases : List Lease} (counted : Counted s leases) {index : Nat}
    (inside : index < s.keys.length) (capability : Capability) (estimateTokens : Int) (now : K) :
    Counted (Router.grant s index capability estimateTokens now) (leases ++ [⟨index, capability, estimateTokens⟩]) where
  keys := by
    apply forall_modify
    · intro k found
      simp [takeKey, counted.keys index k found, List.countP_append]
    · intro i k apart found
      simp [counted.keys i k found, List.countP_append, Ne.symm apart]
  known := by
    intro lease out
    show lease.keyIndex < (s.keys.modify index (takeKey now estimateTokens)).length
    rw [List.length_modify]
    rcases List.mem_append.mp out with old | new
    · exact counted.known lease old
    · rw [List.mem_singleton.mp new]
      exact inside
  global := by
    show s.globalInFlight + 1 = _
    rw [counted.global, List.length_append]
    rfl
  capability := by
    intro c
    show (s.capInFlight.set capability (s.capInFlight.getD capability 0 + 1)).getD c 0 = _
    rw [Dict.getD_set, List.countP_append, List.countP_singleton]
    by_cases same : c = capability
    · rw [if_pos same, counted.capability, same]
      simp
    · rw [if_neg same, counted.capability]
      simp [Ne.symm same]

omit [Field K] [LinearOrder K] in
/-- None of the counters is at zero while a lease is out. -/
theorem Counted.positive {s : RouterScheduler K} {leases : List Lease} (counted : Counted s leases) {lease : Lease}
    (out : lease ∈ leases) :
    (∀ k, s.keys[lease.keyIndex]? = some k → 1 ≤ k.inFlight) ∧ 1 ≤ s.globalInFlight ∧
      1 ≤ s.capInFlight.getD lease.capability 0 ∧
      s.capInFlight.getD lease.capability 1 = s.capInFlight.getD lease.capability 0 := by
  have some : 1 ≤ s.capInFlight.getD lease.capability 0 := by
    rw [counted.capability]
    exact List.countP_pos_iff.mpr ⟨lease, out, by simp⟩
  refine ⟨?_, ?_, some, ?_⟩
  · intro k found
    rw [counted.keys _ k found]
    exact List.countP_pos_iff.mpr ⟨lease, out, by simp⟩
  · rw [counted.global]
    exact List.length_pos_of_mem out
  · unfold Dict.getD at some ⊢
    cases stored : s.capInFlight.get? lease.capability with
    | none => simp [stored] at some
    | some n => rfl

omit [LinearOrder K] in
theorem Counted.release {s : RouterScheduler K} {leases : List Lease} (counted : Counted s leases) {lease : Lease}
    (out : lease ∈ leases) (success : Bool) (actualTokens : Option Int) (booked opened : K) :
    Counted (Router.release cfg s lease success actualTokens booked opened) (leases.erase lease) := by
  have split : leases.Perm (lease :: leases.erase lease) := List.perm_cons_erase out
  obtain ⟨_, _, _, stored⟩ := counted.positive out
  refine ⟨?_, ?_, ?_, ?_⟩
  · apply forall_modify
    · intro k found
      have before := counted.keys _ k found
      rw [split.countP_eq, List.countP_cons_of_pos (by simp)] at before
      show k.inFlight - 1 = _
      omega
    · intro i k apart found
      have before := counted.keys i k found
      rw [split.countP_eq, List.countP_cons_of_neg (by simpa using Ne.symm apart)] at before
      exact before
  · intro other among
    show other.keyIndex < (s.keys.modify _ _).length
    rw [List.length_modify]
    exact counted.known other (List.mem_of_mem_erase among)
  · show s.globalInFlight - 1 = _
    rw [counted.global, List.length_erase_of_mem out]
  · intro c
    show (s.capInFlight.set lease.capability (s.capInFlight.getD lease.capability 1 - 1)).getD c 0 = _
    have before := counted.capability c
    rw [split.countP_eq] at before
    rw [Dict.getD_set]
    by_cases same : c = lease.capability
    · rw [List.countP_cons_of_pos (by simp [same])] at before
      rw [if_pos same, stored, ← same]
      omega
    · rw [List.countP_cons_of_neg (by simpa using Ne.symm same)] at before
      rw [if_neg same]
      exact before

theorem Chosen.inside {now : K} {estimateTokens : Int} {keys keys' : List (KeyState K)} {index : Nat}
    (chosen : Chosen cfg now estimateTokens keys keys' index) : Aged now keys keys' ∧ index < keys'.length := by
  obtain ⟨before, k, aged, found, rfl, _⟩ := chosen
  refine ⟨.prune index aged, ?_⟩
  rw [List.length_modify]
  exact (List.getElem?_eq_some_iff.mp found).1

/-- A turn adds the lease it grants, and no other. -/
theorem TurnMade.counted {s : RouterScheduler K} {leases : List Lease} {capability : Capability} {estimateTokens : Int} {now : K}
    {made : RouterScheduler K × Turn K} (turn : TurnMade cfg s capability estimateTokens now made) (counted : Counted s leases) :
    (∀ lease, made.2 = .granted lease → Counted made.1 (leases ++ [lease])) ∧
      ((∀ lease, made.2 ≠ .granted lease) → Counted made.1 leases) := by
  cases turn with
  | granted chosen room share =>
    obtain ⟨aged, inside⟩ := chosen.inside
    refine ⟨?_, fun none => absurd rfl (none _)⟩
    intro lease same
    cases same
    exact Counted.grant (counted.aged aged s.rejections) inside capability estimateTokens now
  | refused aged none => exact ⟨fun lease same => absurd same (none lease), fun _ => counted.aged aged _⟩

end

end KnowledgeGap.Router
