import KnowledgeGap.Relational.Dict

namespace Protocol

open Relational

variable {κ ω : Type}

/-- A caller is still aboard its flight, was handed the outcome, or left before it. -/
inductive Place (ω : Type)
  | aboard
  | got (outcome : ω)
  | left
  deriving DecidableEq

structure Seat (κ ω : Type) where
  key : κ
  flight : Nat
  place : Place ω
  deriving DecidableEq

/-- Callers that share one attempt for each key. An attempt goes by the number of the caller that makes it. -/
structure Flights (κ ω : Type) where
  inflight : Dict κ Nat
  futures : Dict Nat ω
  seats : Dict Nat (Seat κ ω)

namespace Flights

def empty : Flights κ ω := ⟨.empty, .empty, .empty⟩

def Flies (s : Flights κ ω) (c : Nat) (k : κ) : Prop := s.seats.get? c = some ⟨k, c, .aboard⟩

instance [DecidableEq κ] [DecidableEq ω] (s : Flights κ ω) (c : Nat) (k : κ) : Decidable (s.Flies c k) :=
  inferInstanceAs (Decidable (_ = _))

section
variable [DecidableEq κ]

def board (s : Flights κ ω) (c : Nat) (k : κ) : Flights κ ω :=
  match s.inflight.get? k with
  | some f => { s with seats := s.seats.set c ⟨k, f, .aboard⟩ }
  | none => { s with inflight := s.inflight.set k c, seats := s.seats.set c ⟨k, c, .aboard⟩ }

def land (s : Flights κ ω) (c : Nat) (k : κ) (w : ω) : Flights κ ω where
  inflight := s.inflight.pop k
  futures := s.futures.set c w
  seats := s.seats.set c ⟨k, c, .got w⟩

end

def take (s : Flights κ ω) (c : Nat) (k : κ) (f : Nat) (w : ω) : Flights κ ω :=
  { s with seats := s.seats.set c ⟨k, f, .got w⟩ }

def leave (s : Flights κ ω) (c : Nat) (k : κ) (f : Nat) : Flights κ ω :=
  { s with seats := s.seats.set c ⟨k, f, .left⟩ }

structure Sound [DecidableEq κ] (s : Flights κ ω) : Prop where
  flown : ∀ k f, s.inflight.get? k = some f → s.Flies f k
  flying : ∀ c k, s.Flies c k → s.inflight.get? k = some c ∧ s.futures.get? c = none
  waiting : ∀ c k f, s.seats.get? c = some ⟨k, f, .aboard⟩ → s.futures.get? f = none → s.inflight.get? k = some f
  outcome : ∀ c k f w, s.seats.get? c = some ⟨k, f, .got w⟩ → s.futures.get? f = some w
  seated : ∀ c k f p, s.seats.get? c = some ⟨k, f, p⟩ → ∃ seat, s.seats.get? f = some seat
  unflown : ∀ c, s.seats.get? c = none → s.futures.get? c = none

section
variable [DecidableEq κ] {s : Flights κ ω} {c d f : Nat} {k : κ} {w : ω}

theorem empty_sound : (empty : Flights κ ω).Sound where
  flown := fun _ _ flown => nomatch flown
  flying := fun _ _ flying => nomatch flying
  waiting := fun _ _ _ seat => nomatch seat
  outcome := fun _ _ _ _ seat => nomatch seat
  seated := fun _ _ _ _ seat => nomatch seat
  unflown := fun _ _ => rfl

/-- At most one attempt for a key is under way. -/
theorem Sound.single (sound : s.Sound) (one : s.Flies c k) (two : s.Flies d k) : c = d := by
  have first := (sound.flying c k one).1
  rw [(sound.flying d k two).1] at first
  exact (Option.some.inj first).symm

/-- Callers of one flight are handed one outcome. -/
theorem Sound.agree (sound : s.Sound) {j l : κ} {v : ω} (one : s.seats.get? c = some ⟨j, f, .got w⟩)
    (two : s.seats.get? d = some ⟨l, f, .got v⟩) : w = v := by
  have first := sound.outcome c j f w one
  rw [sound.outcome d l f v two] at first
  exact (Option.some.inj first).symm

theorem board_flies (free : s.inflight.get? k = none) : (s.board c k).Flies c k := by
  unfold Flies board
  rw [free]
  exact (Dict.get?_set _ _ _ _).trans (if_pos rfl)

theorem board_joins (busy : s.inflight.get? k = some f) : (s.board c k).seats.get? c = some ⟨k, f, .aboard⟩ := by
  unfold board
  rw [busy]
  exact (Dict.get?_set _ _ _ _).trans (if_pos rfl)

theorem board_seat : ∃ f, (s.board c k).seats.get? c = some ⟨k, f, .aboard⟩ := by
  cases busy : s.inflight.get? k with
  | none => exact ⟨c, board_flies busy⟩
  | some f => exact ⟨f, board_joins busy⟩

@[simp] theorem board_futures : (s.board c k).futures = s.futures := by
  unfold board
  cases s.inflight.get? k <;> rfl

theorem board_seats (other : d ≠ c) : (s.board c k).seats.get? d = s.seats.get? d := by
  unfold board
  cases s.inflight.get? k <;> exact (Dict.get?_set _ _ _ _).trans (if_neg other)

theorem board_inflight {j : κ} (other : j ≠ k) : (s.board c k).inflight.get? j = s.inflight.get? j := by
  unfold board
  cases s.inflight.get? k with
  | none => exact (Dict.get?_set _ _ _ _).trans (if_neg other)
  | some f => rfl

theorem board_sound (sound : s.Sound) (fresh : s.seats.get? c = none) : (s.board c k).Sound := by
  have unflown := sound.unflown c fresh
  unfold board
  cases busy : s.inflight.get? k with
  | some f =>
    have owner := sound.flown k f busy
    constructor <;> grind [Flies, Dict.get?_set, Sound]
  | none => constructor <;> grind [Flies, Dict.get?_set, Sound]

theorem land_sound (sound : s.Sound) (flies : s.Flies c k) : (s.land c k w).Sound := by
  have flying := sound.flying c k flies
  unfold land
  constructor <;> grind [Flies, Dict.get?_set, Dict.get?_pop, Sound]

/-- Only the caller's own seat changes, and it was not flying. -/
theorem take_sound (sound : s.Sound) (seat : s.seats.get? c = some ⟨k, f, .aboard⟩) (other : f ≠ c)
    (landed : s.futures.get? f = some w) : (s.take c k f w).Sound := by
  unfold take
  constructor <;> grind [Flies, Dict.get?_set, Sound]

theorem leave_sound (sound : s.Sound) (seat : s.seats.get? c = some ⟨k, f, .aboard⟩) (other : f ≠ c) :
    (s.leave c k f).Sound := by
  unfold leave
  constructor <;> grind [Flies, Dict.get?_set, Sound]

end

end Flights

end Protocol
