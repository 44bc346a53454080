import KnowledgeGap.Protocol.Runs
import KnowledgeGap.Relational.Dict

namespace KnowledgeGap.Gateway

open Relational Protocol

/-- An app-server process, the key it was started for, and whether it runs and its output is still read. -/
structure Child where
  key : String
  running : Bool
  reading : Bool
  deriving DecidableEq

/-- `is_alive` -/
def Child.isAlive (c : Child) : Bool := c.running && c.reading

/-- `stop` ends the reader and, if need be by force, the process. -/
def Child.stop (c : Child) : Child := { c with running := false, reading := false }

/-- The processes go by the number of the call that started them. -/
structure Household where
  bridges : Dict String Nat
  spawning : Dict String Nat
  children : Dict Nat Child

namespace Household

/-- What happens between two awaits. A spawn fails by an error or the end of the output, by its time limit, or because
    the call is cancelled; one that cannot even write its request fails right after its start. -/
inductive Event
  | get (n : Nat) (key : String) (popen : Bool)
  | ready (n : Nat)
  | fail (n : Nat)
  | die (n : Nat)
  | hangUp (n : Nat)
  | reap (key : String)
  | shutdown
  deriving DecidableEq

def init : Household := ⟨.empty, .empty, .empty⟩

variable (s : Household)

def change (n : Nat) (f : Child → Child) : Household :=
  match s.children.get? n with
  | none => s
  | some c => { s with children := s.children.set n (f c) }

def vacate (key : String) : Household := { s with bridges := s.bridges.pop key }

/-- The spawn of a call that finds no bridge, unless another is under way; `popen` tells whether the process starts. -/
def spawn (n : Nat) (key : String) (popen : Bool) : Household :=
  match s.spawning.get? key with
  | some _ => s
  | none =>
    if popen then { s with spawning := s.spawning.set key n, children := s.children.set n ⟨key, true, true⟩ } else s

/-- `_get_or_spawn_bridge` up to its first await. -/
def getOrSpawn (n : Nat) (key : String) (popen : Bool) : Household :=
  match s.bridges.get? key with
  | none => s.spawn n key popen
  | some b =>
    if (s.children.get? b).any Child.isAlive then s else ((s.change b Child.stop).vacate key).spawn n key popen

/-- What the spawn of a call goes on with. -/
def owner (n : Nat) (go : String → Household) : Household :=
  match s.children.get? n with
  | none => s
  | some c => if s.spawning.get? c.key = some n then go c.key else s

def stopAll (bridges : List Nat) : Household := bridges.foldl (fun s b => s.change b Child.stop) s

def step : Event → Household
  | .get n key popen => if (s.children.get? n).isSome then s else s.getOrSpawn n key popen
  | .ready n => s.owner n (fun key => { s with bridges := s.bridges.set key n, spawning := s.spawning.pop key })
  | .fail n => s.owner n (fun key => { s with spawning := s.spawning.pop key })
  | .die n => s.change n (fun c => { c with running := false })
  | .hangUp n => s.change n (fun c => { c with reading := false })
  -- The reaper looks at the age and the use of the bridge; what it finds there is left open.
  | .reap key =>
    match s.bridges.get? key with
    | none => s
    | some b => (s.change b Child.stop).vacate key
  | .shutdown => s.stopAll (s.bridges.entries.map Prod.snd)

def Runs (n : Nat) (c : Child) : Prop := s.children.get? n = some c ∧ c.running = true

/-- Every process that runs is that of a stored bridge or of a spawn in progress. -/
def NoOrphan : Prop := ∀ n c, s.Runs n c → (∃ key, s.bridges.get? key = some n) ∨ ∃ key, s.spawning.get? key = some n

def OnePerKey : Prop := ∀ key, s.spawning.get? key = none → ∀ m n c d, s.Runs m c → s.Runs n d → c.key = key → d.key = key → m = n

def NoneLeft : Prop := ∀ n c, ¬ s.Runs n c

/-- A spawn fails only once its process has ended, and no spawn with a process is in progress at the shutdown. -/
def Allowed : Event → Prop
  | .fail n => ∀ c, s.Runs n c → s.spawning.get? c.key ≠ some n
  | .shutdown => ∀ key n c, s.spawning.get? key = some n → ¬ s.Runs n c
  | _ => True

/-! What is filed. -/

/-- Bridges and spawns are filed under the key of their process, never both under one key. -/
structure Filed : Prop where
  stored : ∀ key n, s.bridges.get? key = some n → ∃ c, s.children.get? n = some c ∧ c.key = key
  flying : ∀ key n, s.spawning.get? key = some n → ∃ c, s.children.get? n = some c ∧ c.key = key
  apart : ∀ key n, s.spawning.get? key = some n → s.bridges.get? key = none

variable {s}

@[simp] theorem change_bridges (n : Nat) (f : Child → Child) : (s.change n f).bridges = s.bridges := by
  unfold change
  cases s.children.get? n <;> rfl

@[simp] theorem change_spawning (n : Nat) (f : Child → Child) : (s.change n f).spawning = s.spawning := by
  unfold change
  cases s.children.get? n <;> rfl

theorem change_children (b n : Nat) (f : Child → Child) :
    (s.change b f).children.get? n = if n = b then (s.children.get? b).map f else s.children.get? n := by
  unfold change
  cases found : s.children.get? b with
  | none =>
    by_cases here : n = b
    · rw [if_pos here, here, found]
      rfl
    · rw [if_neg here]
  | some c => rw [Dict.get?_set, Option.map_some]

/-- Where what is filed stays and the processes keep their keys. -/
theorem Filed.keep {t : Household} (filed : s.Filed) (bridges : t.bridges = s.bridges) (spawning : t.spawning = s.spawning)
    (keys : ∀ n c, s.children.get? n = some c → ∃ c', t.children.get? n = some c' ∧ c'.key = c.key) : t.Filed := by
  have kept {key : String} {n : Nat} (there : ∃ c, s.children.get? n = some c ∧ c.key = key) :
      ∃ c, t.children.get? n = some c ∧ c.key = key := by
    obtain ⟨c, found, same⟩ := there
    obtain ⟨c', found', same'⟩ := keys n c found
    exact ⟨c', found', same'.trans same⟩
  constructor
  · intro key n stored
    rw [bridges] at stored
    exact kept (filed.stored key n stored)
  · intro key n flying
    rw [spawning] at flying
    exact kept (filed.flying key n flying)
  · intro key n flying
    rw [spawning] at flying
    rw [bridges]
    exact filed.apart key n flying

theorem Filed.change (filed : s.Filed) (b : Nat) {f : Child → Child} (key : ∀ c, (f c).key = c.key) : (s.change b f).Filed := by
  apply filed.keep (change_bridges b f) (change_spawning b f)
  intro n c found
  rw [change_children]
  by_cases here : n = b
  · rw [if_pos here, ← here, found]
    exact ⟨f c, rfl, key c⟩
  · rw [if_neg here]
    exact ⟨c, found, rfl⟩

theorem Filed.vacate (filed : s.Filed) (key : String) : (s.vacate key).Filed := by
  have fewer {key' : String} {n : Nat} (stored : (s.vacate key).bridges.get? key' = some n) : s.bridges.get? key' = some n := by
    rw [Household.vacate, Dict.get?_pop] at stored
    split at stored
    · cases stored
    · exact stored
  refine ⟨fun key' n stored => filed.stored key' n (fewer stored), filed.flying, ?_⟩
  intro key' n flying
  cases stored : (s.vacate key).bridges.get? key' with
  | none => rfl
  | some b => exact ((fewer stored).symm.trans (filed.apart key' n flying))

theorem Filed.spawn (filed : s.Filed) {n : Nat} {key : String} (fresh : s.children.get? n = none) (free : s.bridges.get? key = none)
    (popen : Bool) : (s.spawn n key popen).Filed := by
  unfold Household.spawn
  split
  · exact filed
  · split
    · have other {key' : String} {m : Nat} (there : ∃ c, s.children.get? m = some c ∧ c.key = key') :
          ∃ c, (s.children.set n ⟨key, true, true⟩).get? m = some c ∧ c.key = key' := by
        obtain ⟨c, found, same⟩ := there
        have apart : m ≠ n := by
          intro here
          rw [here, fresh] at found
          cases found
        exact ⟨c, by rw [Dict.get?_set, if_neg apart, found], same⟩
      constructor
      · intro key' m stored
        exact other (filed.stored key' m stored)
      · intro key' m flying
        rw [Dict.get?_set] at flying
        split at flying
        · rename_i here
          cases flying
          exact ⟨⟨key, true, true⟩, by rw [Dict.get?_set, if_pos rfl], here.symm⟩
        · exact other (filed.flying key' m flying)
      · intro key' m flying
        rw [Dict.get?_set] at flying
        split at flying
        · rename_i here
          rw [here]
          exact free
        · exact filed.apart key' m flying
    · exact filed

theorem Filed.stopAll (filed : s.Filed) (bridges : List Nat) : (s.stopAll bridges).Filed := by
  induction bridges generalizing s with
  | nil => exact filed
  | cons b rest ih => exact ih (filed.change b fun _ => rfl)

/-! What runs. -/

theorem runs_stop_iff {b n : Nat} {c : Child} : (s.change b Child.stop).Runs n c ↔ n ≠ b ∧ s.Runs n c := by
  unfold Runs
  rw [change_children]
  by_cases here : n = b
  · rw [if_pos here]
    constructor
    · intro runs
      obtain ⟨found, running⟩ := runs
      obtain ⟨c', _, same⟩ := Option.map_eq_some_iff.mp found
      rw [← same] at running
      cases running
    · intro runs
      exact absurd here runs.1
  · rw [if_neg here, and_iff_right here]

theorem runs_change {b n : Nat} {c : Child} {f : Child → Child} (quiet : ∀ c, (f c).running = true → c.running = true)
    (runs : (s.change b f).Runs n c) : ∃ c', s.Runs n c' := by
  obtain ⟨found, running⟩ := runs
  rw [change_children] at found
  split at found
  · rename_i here
    obtain ⟨c', found', same⟩ := Option.map_eq_some_iff.mp found
    rw [← same] at running
    exact ⟨c', here ▸ found', quiet c' running⟩
  · exact ⟨c, found, running⟩

theorem NoOrphan.change (owned : s.NoOrphan) (b : Nat) {f : Child → Child} (quiet : ∀ c, (f c).running = true → c.running = true) :
    (s.change b f).NoOrphan := by
  intro n c runs
  rw [change_bridges, change_spawning]
  obtain ⟨c', runs'⟩ := runs_change quiet runs
  exact owned n c' runs'

/-- A stored bridge is stopped before it is forgotten. -/
theorem NoOrphan.stop_vacate (owned : s.NoOrphan) {key : String} {b : Nat} (stored : s.bridges.get? key = some b) :
    ((s.change b Child.stop).vacate key).NoOrphan := by
  intro n c runs
  obtain ⟨other, runs'⟩ := runs_stop_iff.mp runs
  rcases owned n c runs' with bridge | spawn
  · obtain ⟨key', found⟩ := bridge
    have apart : key' ≠ key := by
      intro same
      rw [same, stored] at found
      exact other (Option.some.inj found).symm
    refine Or.inl ⟨key', ?_⟩
    rw [vacate, Dict.get?_pop, if_neg apart, change_bridges, found]
  · refine Or.inr ?_
    rw [vacate, change_spawning]
    exact spawn

theorem NoOrphan.spawn (owned : s.NoOrphan) (n : Nat) (key : String) (popen : Bool) : (s.spawn n key popen).NoOrphan := by
  unfold Household.spawn
  split
  · exact owned
  · rename_i idle
    split
    · intro m c runs
      obtain ⟨found, running⟩ := runs
      rw [Dict.get?_set] at found
      split at found
      · rename_i here
        refine Or.inr ⟨key, ?_⟩
        rw [Dict.get?_set, if_pos rfl, here]
      · rcases owned m c ⟨found, running⟩ with bridge | spawn
        · exact Or.inl bridge
        · obtain ⟨key', flying⟩ := spawn
          have apart : key' ≠ key := by
            intro same
            rw [same, idle] at flying
            cases flying
          refine Or.inr ⟨key', ?_⟩
          rw [Dict.get?_set, if_neg apart, flying]
    · exact owned

theorem NoOrphan.stopAll (owned : s.NoOrphan) (bridges : List Nat) : (s.stopAll bridges).NoOrphan := by
  induction bridges generalizing s with
  | nil => exact owned
  | cons b rest ih => exact ih (owned.change b fun _ running => by cases running)

theorem runs_stopAll_iff {bridges : List Nat} {n : Nat} {c : Child} :
    (s.stopAll bridges).Runs n c ↔ n ∉ bridges ∧ s.Runs n c := by
  induction bridges generalizing s with
  | nil => exact ⟨fun runs => ⟨List.not_mem_nil, runs⟩, fun both => both.2⟩
  | cons b rest ih =>
    change ((s.change b Child.stop).stopAll rest).Runs n c ↔ _
    rw [ih, runs_stop_iff, List.mem_cons, not_or, and_left_comm, and_assoc]

theorem onePerKey_of_owned (filed : s.Filed) (owned : s.NoOrphan) : s.OnePerKey := by
  have stored {key : String} {n : Nat} {c : Child} (idle : s.spawning.get? key = none) (runs : s.Runs n c) (keyed : c.key = key) :
      s.bridges.get? key = some n := by
    rcases owned n c runs with bridge | spawn
    · obtain ⟨key', found⟩ := bridge
      obtain ⟨c', there, same⟩ := filed.stored key' n found
      rw [runs.1] at there
      cases there
      rw [← keyed, same]
      exact found
    · obtain ⟨key', flying⟩ := spawn
      obtain ⟨c', there, same⟩ := filed.flying key' n flying
      rw [runs.1] at there
      cases there
      rw [← keyed, same, flying] at idle
      cases idle
  intro key idle m n c d first second here there
  have both := (stored idle first here).symm.trans (stored idle second there)
  exact Option.some.inj both

/-! A step. -/

theorem owner_cases (s : Household) (n : Nat) (go : String → Household) :
    (s.owner n go = s ∧ ∀ c, s.children.get? n = some c → s.spawning.get? c.key ≠ some n) ∨
      ∃ c, s.children.get? n = some c ∧ s.spawning.get? c.key = some n ∧ s.owner n go = go c.key := by
  unfold owner
  cases found : s.children.get? n with
  | none => exact Or.inl ⟨rfl, fun c there => by cases there⟩
  | some c =>
    dsimp only
    split
    · rename_i flying
      exact Or.inr ⟨c, rfl, flying, rfl⟩
    · rename_i idle
      refine Or.inl ⟨rfl, ?_⟩
      intro c' there
      cases there
      exact idle

structure Kept (s : Household) : Prop where
  filed : s.Filed
  owned : s.NoOrphan

theorem Kept.get (kept : s.Kept) {n : Nat} (fresh : s.children.get? n = none) (key : String) (popen : Bool) :
    (s.getOrSpawn n key popen).Kept := by
  unfold getOrSpawn
  split
  · rename_i free
    exact ⟨kept.filed.spawn fresh free popen, kept.owned.spawn n key popen⟩
  · rename_i b stored
    split
    · exact kept
    · have fresh' : ((s.change b Child.stop).vacate key).children.get? n = none := by
        change (s.change b Child.stop).children.get? n = none
        rw [change_children]
        split
        · rename_i here
          rw [← here, fresh]
          rfl
        · exact fresh
      have free : ((s.change b Child.stop).vacate key).bridges.get? key = none := by
        rw [vacate, Dict.get?_pop, if_pos rfl]
      have stopped : (s.change b Child.stop).Filed := kept.filed.change b fun _ => rfl
      have filed := stopped.vacate key
      exact ⟨filed.spawn fresh' free popen, (kept.owned.stop_vacate stored).spawn n key popen⟩

/-- A spawn that is ready turns into a stored bridge. -/
theorem Kept.ready (kept : s.Kept) {n : Nat} {c : Child} (found : s.children.get? n = some c)
    (flying : s.spawning.get? c.key = some n) :
    Kept { s with bridges := s.bridges.set c.key n, spawning := s.spawning.pop c.key } := by
  have free := kept.filed.apart c.key n flying
  refine ⟨⟨?_, ?_, ?_⟩, ?_⟩
  · intro key m stored
    rw [Dict.get?_set] at stored
    split at stored
    · rename_i here
      cases stored
      exact ⟨c, found, here.symm⟩
    · exact kept.filed.stored key m stored
  · intro key m flies
    rw [Dict.get?_pop] at flies
    split at flies
    · cases flies
    · exact kept.filed.flying key m flies
  · intro key m flies
    rw [Dict.get?_pop] at flies
    split at flies
    · cases flies
    · rename_i apart
      rw [Dict.get?_set, if_neg apart]
      exact kept.filed.apart key m flies
  · intro m d runs
    rcases kept.owned m d runs with bridge | spawn
    · obtain ⟨key, stored⟩ := bridge
      have apart : key ≠ c.key := by
        intro same
        rw [same, free] at stored
        cases stored
      refine Or.inl ⟨key, ?_⟩
      rw [Dict.get?_set, if_neg apart, stored]
    · obtain ⟨key, flies⟩ := spawn
      by_cases here : key = c.key
      · rw [here, flying] at flies
        cases flies
        refine Or.inl ⟨c.key, ?_⟩
        rw [Dict.get?_set, if_pos rfl]
      · refine Or.inr ⟨key, ?_⟩
        rw [Dict.get?_pop, if_neg here, flies]

theorem Filed.fail (filed : s.Filed) (key : String) : Filed { s with spawning := s.spawning.pop key } := by
  have before {key' : String} {n : Nat} (flying : (s.spawning.pop key).get? key' = some n) : s.spawning.get? key' = some n := by
    rw [Dict.get?_pop] at flying
    split at flying
    · cases flying
    · exact flying
  exact ⟨filed.stored, fun key' n flying => filed.flying key' n (before flying), fun key' n flying => filed.apart key' n (before flying)⟩

/-- A failed spawn leaves no orphan exactly where its process has ended. -/
theorem fail_noOrphan_iff (kept : s.Kept) {n : Nat} {c : Child} (found : s.children.get? n = some c)
    (flying : s.spawning.get? c.key = some n) :
    NoOrphan { s with spawning := s.spawning.pop c.key } ↔ c.running = false := by
  constructor
  · intro owned
    by_contra runs
    rw [Bool.not_eq_false] at runs
    rcases owned n c ⟨found, runs⟩ with bridge | spawn
    · obtain ⟨key, stored⟩ := bridge
      obtain ⟨c', there, same⟩ := kept.filed.stored key n stored
      rw [found] at there
      cases there
      have free := kept.filed.apart c.key n flying
      rw [same] at free
      exact absurd (free.symm.trans stored) (by simp)
    · obtain ⟨key, flies⟩ := spawn
      rw [Dict.get?_pop] at flies
      split at flies
      · cases flies
      · rename_i apart
        obtain ⟨c', there, same⟩ := kept.filed.flying key n flies
        rw [found] at there
        cases there
        exact apart same.symm
  · intro ended m d runs
    have other : m ≠ n := by
      intro here
      obtain ⟨there, running⟩ := runs
      have same := (here ▸ there).symm.trans found
      cases same
      rw [ended] at running
      cases running
    rcases kept.owned m d runs with bridge | spawn
    · exact Or.inl bridge
    · obtain ⟨key, flies⟩ := spawn
      have apart : key ≠ c.key := by
        intro same
        rw [same, flying] at flies
        exact other (Option.some.inj flies).symm
      refine Or.inr ⟨key, ?_⟩
      rw [Dict.get?_pop, if_neg apart, flies]

theorem Kept.reap (kept : s.Kept) {key : String} {b : Nat} (stored : s.bridges.get? key = some b) :
    ((s.change b Child.stop).vacate key).Kept := by
  have stopped : (s.change b Child.stop).Filed := kept.filed.change b fun _ => rfl
  exact ⟨stopped.vacate key, kept.owned.stop_vacate stored⟩

/-- No step but the failure of a spawn makes an orphan. -/
theorem Kept.step (kept : s.Kept) {e : Event} (other : ∀ n, e ≠ .fail n) : (s.step e).Kept := by
  cases e with
  | get n key popen =>
    unfold Household.step
    dsimp only
    split
    · exact kept
    · rename_i fresh
      exact kept.get (Option.not_isSome_iff_eq_none.mp fresh) key popen
  | ready n =>
    change (s.owner n fun key => { s with bridges := s.bridges.set key n, spawning := s.spawning.pop key }).Kept
    rcases owner_cases s n (fun key => { s with bridges := s.bridges.set key n, spawning := s.spawning.pop key }) with idle | taken
    · rw [idle.1]
      exact kept
    · obtain ⟨c, found, flying, same⟩ := taken
      rw [same]
      exact kept.ready found flying
  | fail n => exact absurd rfl (other n)
  | die n => exact ⟨kept.filed.change n fun _ => rfl, kept.owned.change n fun _ running => by cases running⟩
  | hangUp n => exact ⟨kept.filed.change n fun _ => rfl, kept.owned.change n fun _ running => running⟩
  | reap key =>
    unfold Household.step
    dsimp only
    split
    · exact kept
    · rename_i stored
      exact kept.reap stored
  | shutdown => exact ⟨kept.filed.stopAll _, kept.owned.stopAll _⟩

theorem Kept.fail (kept : s.Kept) (n : Nat) :
    (s.step (.fail n)).Filed ∧ ((s.step (.fail n)).NoOrphan ↔ s.Allowed (.fail n)) := by
  change (s.owner n fun key => { s with spawning := s.spawning.pop key }).Filed ∧
    ((s.owner n fun key => { s with spawning := s.spawning.pop key }).NoOrphan ↔ ∀ c, s.Runs n c → s.spawning.get? c.key ≠ some n)
  rcases owner_cases s n (fun key => { s with spawning := s.spawning.pop key }) with idle | taken
  · rw [idle.1]
    exact ⟨kept.filed, fun _ c runs => idle.2 c runs.1, fun _ => kept.owned⟩
  · obtain ⟨c, found, flying, same⟩ := taken
    rw [same, fail_noOrphan_iff kept found flying]
    refine ⟨kept.filed.fail c.key, ?_⟩
    constructor
    · intro ended d runs _
      have here := runs.1.symm.trans found
      cases here
      exact absurd runs.2 (by simp [ended])
    · intro allowed
      by_contra runs
      exact allowed c ⟨found, by simpa using runs⟩ flying

/-- The shutdown reaches the processes of the stored bridges only. -/
theorem noneLeft_shutdown_iff (kept : s.Kept) : (s.step .shutdown).NoneLeft ↔ s.Allowed .shutdown := by
  have stored {n : Nat} : n ∈ s.bridges.entries.map Prod.snd ↔ ∃ key, s.bridges.get? key = some n := by
    rw [List.mem_map]
    constructor
    · intro listed
      obtain ⟨⟨key, _⟩, entry, rfl⟩ := listed
      exact ⟨key, (Dict.get?_eq_some_iff _ _ _).mpr entry⟩
    · intro bridge
      obtain ⟨key, found⟩ := bridge
      exact ⟨(key, n), (Dict.get?_eq_some_iff _ _ _).mp found, rfl⟩
  constructor
  · intro none key n c flying runs
    refine none n c (runs_stopAll_iff.mpr ⟨?_, runs⟩)
    intro listed
    obtain ⟨key', found⟩ := stored.mp listed
    obtain ⟨c₁, there₁, same₁⟩ := kept.filed.stored key' n found
    obtain ⟨c₂, there₂, same₂⟩ := kept.filed.flying key n flying
    have same : key' = key := by
      rw [there₁] at there₂
      cases there₂
      exact same₁.symm.trans same₂
    rw [same, kept.filed.apart key n flying] at found
    cases found
  · intro allowed n c runs
    obtain ⟨outside, runs'⟩ := runs_stopAll_iff.mp runs
    rcases kept.owned n c runs' with bridge | spawn
    · exact outside (stored.mpr bridge)
    · obtain ⟨key, flying⟩ := spawn
      exact allowed key n c flying runs'

theorem init_kept : init.Kept := by
  refine ⟨⟨?_, ?_, ?_⟩, ?_⟩
  · intro key n stored
    cases stored
  · intro key n flying
    cases flying
  · intro key n flying
    cases flying
  · intro n c runs
    cases runs.1

/-- What is promised of a step: no orphan after it, one process for each key, and none left by the shutdown. -/
def Tidy (s : Household) (e : Event) : Prop :=
  (s.step e).NoOrphan ∧ (s.step e).OnePerKey ∧ (e = .shutdown → (s.step e).NoneLeft)

theorem Kept.tidy {e : Event} (next : (s.step e).Kept) (goesOn : e ≠ .shutdown) : s.Tidy e :=
  ⟨next.owned, onePerKey_of_owned next.filed next.owned, fun same => absurd same goesOn⟩

theorem tidy_iff (kept : s.Kept) (e : Event) : s.Tidy e ↔ s.Allowed e := by
  cases e with
  | get n key popen => exact iff_of_true (Kept.tidy (kept.step (by simp)) (by simp)) trivial
  | ready n => exact iff_of_true (Kept.tidy (kept.step (by simp)) (by simp)) trivial
  | die n => exact iff_of_true (Kept.tidy (kept.step (by simp)) (by simp)) trivial
  | hangUp n => exact iff_of_true (Kept.tidy (kept.step (by simp)) (by simp)) trivial
  | reap key => exact iff_of_true (Kept.tidy (kept.step (by simp)) (by simp)) trivial
  | fail n =>
    obtain ⟨filed, orphan⟩ := kept.fail n
    rw [← orphan]
    exact ⟨fun tidy => tidy.1, fun owned => ⟨owned, onePerKey_of_owned filed owned, fun same => by cases same⟩⟩
  | shutdown =>
    have next : (s.step .shutdown).Kept := kept.step (by simp)
    rw [← noneLeft_shutdown_iff kept]
    exact ⟨fun tidy => tidy.2.2 rfl, fun none => ⟨next.owned, onePerKey_of_owned next.filed next.owned, fun _ => none⟩⟩

theorem Kept.next (kept : s.Kept) (e : Event) (allowed : s.Allowed e) : (s.step e).Kept := by
  by_cases failure : ∃ n, e = .fail n
  · obtain ⟨n, rfl⟩ := failure
    obtain ⟨filed, orphan⟩ := kept.fail n
    exact ⟨filed, orphan.mpr allowed⟩
  · exact kept.step fun n same => failure ⟨n, same⟩

/-- A run leaves no orphan exactly when its spawns fail, and its shutdowns come, only where no process is lost by it. -/
theorem no_orphans_iff (events : List Event) :
    (∀ first e rest, events = first ++ e :: rest →
      (run step init (first ++ [e])).NoOrphan ∧ (run step init (first ++ [e])).OnePerKey ∧
        (e = .shutdown → (run step init (first ++ [e])).NoneLeft)) ↔
      Along step Allowed init events := by
  have same : ∀ (s : Household) (e : Event), s.Kept → (s.Tidy e ↔ s.Allowed e) := fun _ e kept => tidy_iff kept e
  have preserve : ∀ (s : Household) (e : Event), s.Kept → s.Allowed e → (s.step e).Kept := fun _ e kept => kept.next e
  rw [← along_congr same preserve events init init_kept, along_iff_every]
  constructor
  · intro every first e rest split
    have after := every first e rest split
    rw [run_append] at after
    exact after
  · intro every first e rest split
    rw [run_append]
    exact every first e rest split

/-- The one request of a spawn is not answered in time: its process runs on without an owner, a second one is started for
    the key, and the shutdown stops only that. -/
theorem no_orphans_counterexample :
    ¬ (run step init [.get 0 "t7" true, .fail 0]).NoOrphan ∧
      ¬ (run step init [.get 0 "t7" true, .fail 0, .get 1 "t7" true, .ready 1]).OnePerKey ∧
      ¬ (run step init [.get 0 "t7" true, .fail 0, .get 1 "t7" true, .ready 1, .shutdown]).NoneLeft := by
  have lost : (run step init [.get 0 "t7" true, .fail 0]).Runs 0 ⟨"t7", true, true⟩ := ⟨by decide +kernel, rfl⟩
  refine ⟨?_, ?_, ?_⟩
  · intro owned
    rcases owned 0 _ lost with bridge | spawn
    · obtain ⟨key, stored⟩ := bridge
      cases stored
    · obtain ⟨key, flying⟩ := spawn
      have none : (run step init [.get 0 "t7" true, .fail 0]).spawning.entries = [] := by decide +kernel
      have listed := (Dict.get?_eq_some_iff _ _ _).mp flying
      rw [none] at listed
      cases listed
  · intro one
    have same := one "t7" (by decide +kernel) 0 1 ⟨"t7", true, true⟩ ⟨"t7", true, true⟩ ⟨by decide +kernel, rfl⟩
      ⟨by decide +kernel, rfl⟩ rfl rfl
    cases same
  · intro none
    exact none 0 ⟨"t7", true, true⟩ ⟨by decide +kernel, rfl⟩

end Household

end KnowledgeGap.Gateway
