import Mathlib.Algebra.Order.Ring.Defs
import Mathlib.Data.List.TakeWhile
import Mathlib.Tactic.Common
import Mathlib.Tactic.Linarith

namespace Protocol

variable {α K : Type}

/-- What a log says under one name. -/
def entriesOf {κ : Type} [DecidableEq κ] (name : κ) (log : List (κ × α)) : List α :=
  (log.filter (fun e => decide (e.1 = name))).map Prod.snd

theorem entriesOf_append {κ : Type} [DecidableEq κ] (name other : κ) (log : List (κ × α)) (a : α) :
    entriesOf name (log ++ [(other, a)]) = if other = name then entriesOf name log ++ [a] else entriesOf name log := by
  unfold entriesOf
  rw [List.filter_append, List.map_append]
  split
  · rename_i same
    simp [same]
  · rename_i apart
    simp [apart]

section
variable [CommRing K] [LinearOrder K] [IsStrictOrderedRing K] (time : α → K) (width : K)

/-- `kept` is the end of a log in order of time; what is missing of it has left the window before `clock`. -/
structure Retained (clock : K) (log kept : List α) : Prop where
  split : ∃ dropped, log = dropped ++ kept ∧ ∀ e ∈ dropped, time e ≤ clock - width
  ordered : log.Pairwise (fun a b => time a ≤ time b)
  past : ∀ e ∈ log, time e ≤ clock

def drop (now : K) (kept : List α) : List α := kept.dropWhile (fun e => decide (time e ≤ now - width))

def recent (now : K) (log : List α) : List α := log.filter (fun e => decide (now - width < time e))

variable {time width}

omit [IsStrictOrderedRing K] in
theorem retained_nil (clock : K) : Retained time width clock [] [] where
  split := ⟨[], rfl, by simp⟩
  ordered := List.Pairwise.nil
  past := by simp

theorem Retained.advance {clock now : K} {log kept : List α} (retained : Retained time width clock log kept) (later : clock ≤ now) :
    Retained time width now log kept where
  split := by
    obtain ⟨dropped, split, old⟩ := retained.split
    refine ⟨dropped, split, ?_⟩
    intro e gone
    have before := old e gone
    linarith
  ordered := retained.ordered
  past := fun e listed => le_trans (retained.past e listed) later

theorem Retained.drop {clock now : K} {log kept : List α} (retained : Retained time width clock log kept) (later : clock ≤ now) :
    Retained time width now log (Protocol.drop time width now kept) := by
  obtain ⟨⟨dropped, split, old⟩, ordered, past⟩ := retained.advance later
  refine ⟨?_, ordered, past⟩
  refine ⟨dropped ++ kept.takeWhile (fun e => decide (time e ≤ now - width)), ?_, ?_⟩
  · rw [List.append_assoc, Protocol.drop, List.takeWhile_append_dropWhile, split]
  · intro e gone
    rcases List.mem_append.mp gone with before | now
    · exact old e before
    · simpa using List.mem_takeWhile_imp now

theorem Retained.push {clock now : K} {log kept : List α} (retained : Retained time width clock log kept) (later : clock ≤ now)
    {e : α} (here : time e = now) : Retained time width now (log ++ [e]) (kept ++ [e]) := by
  obtain ⟨⟨dropped, split, old⟩, ordered, past⟩ := retained.advance later
  refine ⟨⟨dropped, ?_, old⟩, ?_, ?_⟩
  · rw [split, List.append_assoc]
  · rw [List.pairwise_append]
    refine ⟨ordered, List.pairwise_singleton _ _, ?_⟩
    intro a listed b last
    rw [List.mem_singleton.mp last, here]
    exact past a listed
  · intro a listed
    rcases List.mem_append.mp listed with before | last
    · exact past a before
    · rw [List.mem_singleton.mp last, here]

omit [CommRing K] [IsStrictOrderedRing K] in
/-- In a list in order of time, what stands behind the first late entry is late. -/
theorem dropWhile_eq_filter {log : List α} (ordered : log.Pairwise (fun a b => time a ≤ time b)) (limit : K) :
    log.dropWhile (fun e => decide (time e ≤ limit)) = log.filter (fun e => decide (limit < time e)) := by
  induction log with
  | nil => rfl
  | cons a log ih =>
    rw [List.pairwise_cons] at ordered
    by_cases early : time a ≤ limit
    · rw [List.dropWhile_cons_of_pos (by simpa using early), List.filter_cons_of_neg (by simpa using early)]
      exact ih ordered.2
    · rw [List.dropWhile_cons_of_neg (by simpa using early), Eq.comm, List.filter_eq_self]
      intro b listed
      have first := not_le.mp early
      rcases List.mem_cons.mp listed with rfl | later
      · simpa using first
      · simpa using lt_of_lt_of_le first (ordered.1 b later)

/-- After a pruning exactly the recent entries are left. -/
theorem Retained.drop_eq_recent {clock now : K} {log kept : List α} (retained : Retained time width clock log kept)
    (later : clock ≤ now) : Protocol.drop time width now kept = recent time width now log := by
  obtain ⟨⟨dropped, split, old⟩, ordered, _⟩ := retained.advance later
  have none : dropped.filter (fun e => decide (now - width < time e)) = [] := by
    rw [List.filter_eq_nil_iff]
    intro e gone
    simpa using old e gone
  rw [split, List.pairwise_append] at ordered
  rw [recent, split, List.filter_append, none, List.nil_append]
  exact dropWhile_eq_filter ordered.2.1 (now - width)

end

section
variable [CommRing K] [LinearOrder K] [IsStrictOrderedRing K]

/-- No half-open window of the width, closed at either end, holds more than `limit` entries. -/
def Rate (width : K) (limit : Nat) (log : List K) : Prop :=
  ∀ start, log.countP (fun t => decide (start ≤ t ∧ t < start + width)) ≤ limit ∧
    log.countP (fun t => decide (start < t ∧ t ≤ start + width)) ≤ limit

omit [IsStrictOrderedRing K] in
theorem rate_nil (width : K) (limit : Nat) : Rate width limit [] := fun _ => ⟨Nat.zero_le _, Nat.zero_le _⟩

omit [IsStrictOrderedRing K] in
/-- The window that holds the last entry holds recent ones besides. -/
theorem countP_window_le {width now : K} {log : List K} {inside : K → Bool}
    (narrow : inside now = true → ∀ t, inside t = true → now - width < t) {limit : Nat} (before : log.countP inside ≤ limit)
    (few : (recent id width now log).length < limit) : (log ++ [now]).countP inside ≤ limit := by
  rw [List.countP_append, List.countP_singleton]
  split
  · rename_i last
    have part : log.countP inside ≤ (recent id width now log).length := by
      rw [recent, ← List.countP_eq_length_filter]
      apply List.countP_mono_left
      intro t _ among
      simpa using narrow last t among
    omega
  · omega

theorem Rate.push {width now : K} {limit : Nat} {log : List K} (rate : Rate width limit log)
    (few : (recent id width now log).length < limit) : Rate width limit (log ++ [now]) := by
  intro start
  refine ⟨countP_window_le ?_ (rate start).1 few, countP_window_le ?_ (rate start).2 few⟩
  · intro last t among
    simp only [decide_eq_true_eq] at last among
    linarith [last.2, among.1]
  · intro last t among
    simp only [decide_eq_true_eq] at last among
    linarith [last.2, among.1]

end

end Protocol
