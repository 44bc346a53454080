namespace KnowledgeGap

variable {ε α β : Type} {x : Except ε α} {b : β}

/-! A chain of fallible steps that succeeded succeeded step by step. -/

theorem bind_ok {f : α → Except ε β} (done : x.bind f = .ok b) : ∃ a, x = .ok a ∧ f a = .ok b := by
  cases x with
  | error e => cases done
  | ok a => exact ⟨a, rfl, done⟩

theorem map_ok {f : α → β} (done : x.map f = .ok b) : ∃ a, x = .ok a ∧ f a = b := by
  cases x with
  | error e => cases done
  | ok a => exact ⟨a, rfl, Except.ok.inj done⟩

section
variable {f f' : α → Except ε β} {xs : List α}

theorem mapM_congr (same : ∀ x ∈ xs, f x = f' x) : xs.mapM f = xs.mapM f' := by
  induction xs with
  | nil => rfl
  | cons x xs ih =>
    rw [List.mapM_cons, List.mapM_cons, same x List.mem_cons_self, ih (fun y listed => same y (List.mem_cons_of_mem _ listed))]

theorem mapM_ok {h : α → β} (each : ∀ x ∈ xs, f x = .ok (h x)) : xs.mapM f = .ok (xs.map h) := by
  rw [mapM_congr each]
  exact List.mapM_pure ..

theorem mapM_succeeds (each : ∀ x ∈ xs, ∃ b, f x = .ok b) : ∃ ys, xs.mapM f = .ok ys := by
  induction xs with
  | nil => exact ⟨[], rfl⟩
  | cons x xs ih =>
    rcases each x List.mem_cons_self with ⟨y, first⟩
    rcases ih (fun z listed => each z (List.mem_cons_of_mem _ listed)) with ⟨ys, rest⟩
    exact ⟨y :: ys, by rw [List.mapM_cons, first, rest]; rfl⟩

end

end KnowledgeGap
