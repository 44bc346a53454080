import KnowledgeGap.Numeric.OrderStatistic
import KnowledgeGap.Protocol.Window
import Mathlib.Data.List.Induction

namespace Protocol

variable {K : Type} [CommRing K] [LinearOrder K]

section
variable (closed : Bool) (width : K)

/-- The window opened at `opened` has not ended at `t`; `closed` tells whether its end belongs to it. -/
def StillOpen (opened t : K) : Prop := if closed then t ≤ opened + width else t < opened + width

instance decidableStillOpen (opened t : K) : Decidable (StillOpen closed width opened t) := by
  unfold StillOpen
  infer_instance

/-- An entry joins the window of the entry before it, or opens one. -/
def fileEntry (filed : List (K × K)) (t : K) : List (K × K) :=
  match filed with
  | [] => [(t, t)]
  | last :: _ => if StillOpen closed width last.2 t then (t, last.2) :: filed else (t, t) :: filed

/-- The entries of a log, the last one first, each with the opening of its window. -/
def windowed (log : List K) : List (K × K) := log.foldl (fileEntry closed width) []

/-- How many entries the window of the last entry holds. -/
def inLastWindow (filed : List (K × K)) : Nat :=
  match filed with
  | [] => 0
  | last :: _ => filed.countP (fun p => decide (last.2 ≤ p.2))

end

variable {closed : Bool} {width : K}

/-- `p` was filed after `q`, in the window of `q` or in one opened when that had ended. -/
structure FiledAfter (closed : Bool) (width : K) (p q : K × K) : Prop where
  time : q.1 ≤ p.1
  opening : q.2 ≤ p.2
  apart : q.2 = p.2 ∨ ¬ StillOpen closed width q.2 p.2

structure Windowed (closed : Bool) (width : K) (filed : List (K × K)) : Prop where
  ordered : filed.Pairwise (FiledAfter closed width)
  opened : ∀ p ∈ filed, p.2 ≤ p.1

section
variable (closed width)

theorem windowed_append (log : List K) (t : K) :
    windowed closed width (log ++ [t]) = fileEntry closed width (windowed closed width log) t := by
  rw [windowed, List.foldl_append, List.foldl_cons, List.foldl_nil]
  rfl

theorem windowed_fst (log : List K) : (windowed closed width log).map Prod.fst = log.reverse := by
  induction log using List.reverseRecOn with
  | nil => rfl
  | append_singleton log t ih =>
    rw [windowed_append, List.reverse_append, List.reverse_singleton, List.singleton_append, ← ih]
    unfold fileEntry
    split
    · rename_i empty
      rw [empty]
      rfl
    · split <;> rfl

theorem mem_of_windowed {log : List K} {p : K × K} (listed : p ∈ windowed closed width log) : p.1 ∈ log := by
  rw [← List.mem_reverse, ← windowed_fst closed width]
  exact List.mem_map_of_mem listed

/-- The recent entries are those filed last. -/
theorem lt_recent_iff {log : List K} (sorted : log.Pairwise (fun a b => a ≤ b)) (now : K) (n : Nat) :
    n < (recent id width now log).length ↔
      ∃ p, (windowed closed width log)[n]? = some p ∧ now - width < p.1 := by
  have descending : (windowed closed width log).Pairwise (fun p q => q.1 ≤ p.1) := by
    have reversed := List.pairwise_reverse.mpr sorted
    rw [← windowed_fst closed width] at reversed
    exact List.pairwise_map.mp reversed
  have same : (recent id width now log).length =
      (windowed closed width log).countP (fun p => decide (now - width < p.1)) := by
    have moved : (windowed closed width log).countP (fun p => decide (now - width < p.1)) =
        ((windowed closed width log).map Prod.fst).countP (fun t => decide (now - width < t)) := by
      rw [List.countP_map]
      rfl
    rw [moved, windowed_fst, List.countP_reverse, recent, ← List.countP_eq_length_filter]
    rfl
  rw [same, Numeric.lt_countP_iff_getElem? descending]
  · simp only [decide_eq_true_eq]
  · intro p q below holds
    exact decide_eq_true (lt_of_lt_of_le (of_decide_eq_true holds) below)

end

theorem StillOpen.earlier {opened t later : K} (upto : t ≤ later) (open_ : StillOpen closed width opened later) :
    StillOpen closed width opened t := by
  unfold StillOpen at open_ ⊢
  split
  · rename_i end_
    rw [if_pos end_] at open_
    exact le_trans upto open_
  · rename_i end_
    rw [if_neg end_] at open_
    exact lt_of_le_of_lt upto open_

/-- An entry filed at `t` comes after those filed before it. -/
theorem Windowed.file {filed : List (K × K)} (windowed : Windowed closed width filed) {t : K}
    (past : ∀ p ∈ filed, p.1 ≤ t) : Windowed closed width (fileEntry closed width filed t) := by
  obtain ⟨ordered, opened⟩ := windowed
  unfold fileEntry
  split
  · exact ⟨List.pairwise_singleton _ _, by simp⟩
  · rename_i last rest
    have before := (List.pairwise_cons.mp ordered).1
    have here : last.2 ≤ t := le_trans (opened last List.mem_cons_self) (past last List.mem_cons_self)
    split
    · rename_i joins
      refine ⟨List.pairwise_cons.mpr ⟨?_, ordered⟩, List.forall_mem_cons.mpr ⟨here, opened⟩⟩
      intro q listed
      rcases List.mem_cons.mp listed with first | behind
      · rw [first]
        exact ⟨past last List.mem_cons_self, le_refl _, Or.inl rfl⟩
      · exact ⟨past q listed, (before q behind).opening, (before q behind).apart⟩
    · rename_i ended
      refine ⟨List.pairwise_cons.mpr ⟨?_, ordered⟩, List.forall_mem_cons.mpr ⟨le_refl t, opened⟩⟩
      intro q listed
      refine ⟨past q listed, le_trans (opened q listed) (past q listed), Or.inr ?_⟩
      intro open_
      rcases List.mem_cons.mp listed with first | behind
      · rw [first] at open_
        exact ended open_
      · rcases (before q behind).apart with same | apart
        · rw [same] at open_
          exact ended open_
        · exact apart (open_.earlier here)

theorem windowed_spec {log : List K} (sorted : log.Pairwise (fun a b => a ≤ b)) :
    Windowed closed width (windowed closed width log) := by
  induction log using List.reverseRecOn with
  | nil => exact ⟨List.Pairwise.nil, by simp [windowed]⟩
  | append_singleton log t ih =>
    obtain ⟨before, _, ends⟩ := List.pairwise_append.mp sorted
    rw [windowed_append]
    apply (ih before).file
    intro p listed
    exact ends p.1 (mem_of_windowed closed width listed) t (List.mem_singleton_self t)

/-- The window of the last entry is open and holds more than `n` exactly when the window of the entry `n` back is
    open. -/
theorem Windowed.lt_inLastWindow_iff {last : K × K} {rest : List (K × K)} (windowed : Windowed closed width (last :: rest))
    {now : K} (later : ∀ p ∈ last :: rest, p.1 ≤ now) (n : Nat) :
    (StillOpen closed width last.2 now ∧ n < inLastWindow (last :: rest)) ↔
      ∃ p, (last :: rest)[n]? = some p ∧ StillOpen closed width p.2 now := by
  obtain ⟨ordered, opened⟩ := windowed
  have behind := (List.pairwise_cons.mp ordered).1
  have counted : n < inLastWindow (last :: rest) ↔ ∃ p, (last :: rest)[n]? = some p ∧ last.2 ≤ p.2 := by
    unfold inLastWindow
    rw [Numeric.lt_countP_iff_getElem? ordered]
    · simp only [decide_eq_true_eq]
    · intro p q after holds
      exact decide_eq_true (le_trans (of_decide_eq_true holds) after.opening)
  rw [counted]
  constructor
  · intro both
    obtain ⟨open_, p, found, late⟩ := both
    refine ⟨p, found, ?_⟩
    have same : p.2 = last.2 := by
      rcases List.mem_cons.mp (List.mem_of_getElem? found) with first | deeper
      · rw [first]
      · exact le_antisymm (behind p deeper).opening late
    rw [same]
    exact open_
  · intro some_
    obtain ⟨p, found, open_⟩ := some_
    have same : p.2 = last.2 := by
      rcases List.mem_cons.mp (List.mem_of_getElem? found) with first | deeper
      · rw [first]
      · rcases (behind p deeper).apart with same | apart
        · exact same
        · have here : last.2 ≤ now := le_trans (opened last List.mem_cons_self) (later last List.mem_cons_self)
          exact absurd (open_.earlier here) apart
    rw [same] at open_
    exact ⟨open_, p, found, le_of_eq same.symm⟩

end Protocol
