import Mathlib.Tactic.Common

/-! A resource that one owner at a time may finish. Every grant draws the next epoch, and only the
owner of the current epoch can commit; a sealed resource accepts nothing further. -/

namespace Protocol.Fencing

inductive Mode
  | free
  | held
  | sealed
  deriving DecidableEq, Repr

structure Cell where
  epoch : Nat
  mode : Mode
  deriving DecidableEq, Repr

inductive Event
  | grant
  | commit
  | silent
  deriving DecidableEq, Repr

/-- The moves of a fenced cell. `settle` covers a release, a withdrawn grant and a finish that
    carries no commit; none of them issues an epoch. -/
inductive Step : Cell → Event → Cell → Prop
  | grant (c : Cell) (unsealed : c.mode ≠ .sealed) : Step c .grant ⟨c.epoch + 1, .held⟩
  | commit (c : Cell) (held : c.mode = .held) : Step c .commit ⟨c.epoch, .sealed⟩
  | stay (c : Cell) : Step c .silent c
  | settle (c : Cell) (m : Mode) (unsealed : c.mode ≠ .sealed) (released : m ≠ .held) :
      Step c .silent ⟨c.epoch, m⟩

/-- What observers of a cell have seen: the epochs granted, in order, and the number of commits. -/
structure History where
  grants : List Nat
  commits : Nat

def History.after (h : History) (c : Cell) : Event → History
  | .grant => ⟨h.grants ++ [c.epoch + 1], h.commits⟩
  | .commit => ⟨h.grants, h.commits + 1⟩
  | .silent => h

structure Valid (c : Cell) (h : History) : Prop where
  increasing : h.grants.Pairwise (· < ·)
  issued : ∀ n ∈ h.grants, n ≤ c.epoch
  once : h.commits ≤ 1
  closed : h.commits = 1 → c.mode = .sealed

theorem valid_start (c : Cell) : Valid c ⟨[], 0⟩ :=
  ⟨List.Pairwise.nil, by simp, by simp, by simp⟩

theorem Valid.uncommitted {c : Cell} {h : History} (valid : Valid c h) (unsealed : c.mode ≠ .sealed) :
    h.commits = 0 := by
  have bound := valid.once
  have open_ : h.commits ≠ 1 := fun one => unsealed (valid.closed one)
  omega

theorem Step.valid {c d : Cell} {e : Event} {h : History} (step : Step c e d) (before : Valid c h) :
    Valid d (h.after c e) := by
  cases step with
  | grant unsealed =>
    have idle := before.uncommitted unsealed
    refine ⟨?_, ?_, before.once, by simp [History.after, idle]⟩
    · simp only [History.after, List.pairwise_append, List.pairwise_singleton, List.mem_singleton]
      refine ⟨before.increasing, trivial, ?_⟩
      rintro m member n rfl
      exact Nat.lt_succ_of_le (before.issued m member)
    · intro n member
      rcases List.mem_append.mp member with old | new
      · exact Nat.le_succ_of_le (before.issued n old)
      · exact Nat.le_of_eq (List.mem_singleton.mp new)
  | commit held =>
    have idle := before.uncommitted (by rw [held]; decide)
    exact ⟨before.increasing, before.issued, by simp [History.after, idle], fun _ => rfl⟩
  | stay => exact before
  | settle m unsealed _ =>
    have idle := before.uncommitted unsealed
    exact ⟨before.increasing, before.issued, before.once, by simp [History.after, idle]⟩

end Protocol.Fencing
