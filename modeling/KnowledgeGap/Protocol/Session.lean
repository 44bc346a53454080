import Mathlib.Tactic.Common

namespace Protocol

/-- A computation in a session over a state. One that fails leaves the state as far as it had changed it. -/
def Session (ε σ α : Type) : Type := σ → Except ε α × σ

namespace Session

variable {ε σ α β : Type}

def done (a : α) : Session ε σ α := fun s => (.ok a, s)

def fail (e : ε) : Session ε σ α := fun s => (.error e, s)

def andThen (x : Session ε σ α) (f : α → Session ε σ β) : Session ε σ β := fun s =>
  match x s with
  | (.ok a, t) => f a t
  | (.error e, t) => (.error e, t)

instance : Monad (Session ε σ) where
  pure := done
  bind := andThen

def current : Session ε σ σ := fun s => (.ok s, s)

def update (f : σ → σ) : Session ε σ Unit := fun s => (.ok (), f s)

def lift : Except ε α → Session ε σ α
  | .ok a => done a
  | .error e => fail e

def forEach (xs : List β) (body : β → Session ε σ Unit) : Session ε σ Unit :=
  match xs with
  | [] => done ()
  | x :: xs => body x >>= fun _ => forEach xs body

/-- What a boundary makes of the errors below it. -/
def mapError {δ : Type} (f : ε → δ) (x : Session ε σ α) : Session δ σ α := fun s =>
  match x s with
  | (.ok a, t) => (.ok a, t)
  | (.error e, t) => (.error (f e), t)

/-- `begin_nested`, and the transaction of a request: what fails is rolled back. -/
def savepoint (body : Session ε σ α) : Session ε σ α := fun s =>
  match body s with
  | (.ok a, t) => (.ok a, t)
  | (.error e, _) => (.error e, s)

@[simp] theorem pure_apply (a : α) (s : σ) : (pure a : Session ε σ α) s = (.ok a, s) := rfl

@[simp] theorem done_apply (a : α) (s : σ) : (done a : Session ε σ α) s = (.ok a, s) := rfl

@[simp] theorem fail_apply (e : ε) (s : σ) : (fail e : Session ε σ α) s = (.error e, s) := rfl

@[simp] theorem current_apply (s : σ) : (current : Session ε σ σ) s = (.ok s, s) := rfl

@[simp] theorem update_apply (f : σ → σ) (s : σ) : (update f : Session ε σ Unit) s = (.ok (), f s) := rfl

theorem bind_of_ok {x : Session ε σ α} {s t : σ} {a : α} (first : x s = (.ok a, t)) (f : α → Session ε σ β) :
    (x >>= f) s = f a t := by
  change andThen x f s = f a t
  rw [andThen, first]

@[simp] theorem current_bind (f : σ → Session ε σ β) (s : σ) : ((current : Session ε σ σ) >>= f) s = f s s := rfl

@[simp] theorem update_bind (f : σ → σ) (k : Unit → Session ε σ β) (s : σ) : (update f >>= k) s = k () (f s) := rfl

@[simp] theorem lift_ok_bind (a : α) (f : α → Session ε σ β) (s : σ) : (lift (.ok a) >>= f) s = f a s := rfl

@[simp] theorem lift_error_bind (e : ε) (f : α → Session ε σ β) (s : σ) : (lift (.error e) >>= f) s = (.error e, s) := rfl

/-- A chain that came through came through step by step. -/
theorem bind_ok {x : Session ε σ α} {f : α → Session ε σ β} {s u : σ} {b : β} (through : (x >>= f) s = (.ok b, u)) :
    ∃ a t, x s = (.ok a, t) ∧ f a t = (.ok b, u) := by
  change andThen x f s = (.ok b, u) at through
  unfold andThen at through
  split at through
  · rename_i a t first
    exact ⟨a, t, first, through⟩
  · cases through

theorem ok_of_isOk {x : Session ε σ α} {s : σ} (came : (x s).1.isOk = true) : ∃ a, x s = (.ok a, (x s).2) := by
  cases outcome : x s with
  | mk result t =>
    cases result with
    | ok a => exact ⟨a, rfl⟩
    | error e =>
      rw [outcome] at came
      cases came

/-- A chain comes through when its first step does and the rest does from there. -/
theorem bind_isOk_iff {x : Session ε σ α} {f : α → Session ε σ β} {s : σ} {First Rest : Prop}
    (first : (x s).1.isOk = true ↔ First)
    (rest : ∀ a, x s = (.ok a, (x s).2) → ((f a (x s).2).1.isOk = true ↔ Rest)) :
    ((x >>= f) s).1.isOk = true ↔ First ∧ Rest := by
  rw [← first]
  constructor
  · intro came
    obtain ⟨b, through⟩ := ok_of_isOk came
    obtain ⟨a, t, here, after⟩ := bind_ok through
    have came : (x s).1.isOk = true := by
      rw [here]
      rfl
    refine ⟨came, (rest a (by rw [here])).mp ?_⟩
    rw [here, after]
    rfl
  · intro steps
    obtain ⟨a, here⟩ := ok_of_isOk steps.1
    rw [bind_of_ok here]
    exact (rest a here).mpr steps.2

theorem savepoint_of_ok {body : Session ε σ α} {s t : σ} {a : α} (through : body s = (.ok a, t)) :
    savepoint body s = (.ok a, t) := by
  rw [savepoint, through]

theorem savepoint_of_error {body : Session ε σ α} {s t : σ} {e : ε} (failed : body s = (.error e, t)) :
    savepoint body s = (.error e, s) := by
  rw [savepoint, failed]

theorem mapError_of_ok {δ : Type} {x : Session ε σ α} {s t : σ} {a : α} (f : ε → δ) (through : x s = (.ok a, t)) :
    mapError f x s = (.ok a, t) := by
  rw [mapError, through]

theorem mapError_ok {δ : Type} {f : ε → δ} {x : Session ε σ α} {s t : σ} {a : α} (through : mapError f x s = (.ok a, t)) :
    x s = (.ok a, t) := by
  unfold mapError at through
  split at through
  · rename_i a t inside
    cases through
    exact inside
  · cases through

theorem lift_ok {x : Except ε α} {s t : σ} {a : α} (through : lift x s = (.ok a, t)) : x = .ok a ∧ t = s := by
  cases x with
  | ok b =>
    cases through
    exact ⟨rfl, rfl⟩
  | error e => cases through

theorem lift_of_ok {x : Except ε α} {a : α} (s : σ) (known : x = .ok a) : lift x s = (.ok a, s) := by
  rw [known]
  rfl

/-- Whatever a computation does to the state, failing or not, stays inside a relation. -/
structure Keeps (R : σ → σ → Prop) (x : Session ε σ α) : Prop where
  inside : ∀ s, R s (x s).2

section
variable {R : σ → σ → Prop}

theorem Keeps.done (refl : ∀ s, R s s) (a : α) : Keeps R (done a : Session ε σ α) := ⟨refl⟩

theorem Keeps.pure (refl : ∀ s, R s s) (a : α) : Keeps R (pure a : Session ε σ α) := ⟨refl⟩

theorem Keeps.fail (refl : ∀ s, R s s) (e : ε) : Keeps R (fail e : Session ε σ α) := ⟨refl⟩

theorem Keeps.current (refl : ∀ s, R s s) : Keeps R (current : Session ε σ σ) := ⟨refl⟩

theorem Keeps.lift (refl : ∀ s, R s s) (x : Except ε α) : Keeps R (lift x : Session ε σ α) := by
  cases x with
  | ok a => exact Keeps.done refl a
  | error e => exact Keeps.fail refl e

theorem Keeps.bind (trans : ∀ s t u, R s t → R t u → R s u) {x : Session ε σ α} {f : α → Session ε σ β}
    (first : Keeps R x) (next : ∀ a, Keeps R (f a)) : Keeps R (x >>= f) := by
  constructor
  intro s
  have here := first.inside s
  change R s (andThen x f s).2
  unfold andThen
  cases outcome : x s with
  | mk result t =>
    rw [outcome] at here
    cases result with
    | ok a => exact trans s t _ here ((next a).inside t)
    | error e => exact here

theorem Keeps.forEach (refl : ∀ s, R s s) (trans : ∀ s t u, R s t → R t u → R s u) {body : β → Session ε σ Unit}
    (each : ∀ x, Keeps R (body x)) (xs : List β) : Keeps R (forEach xs body) := by
  induction xs with
  | nil => exact Keeps.done refl ()
  | cons x xs ih => exact Keeps.bind trans (each x) (fun _ => ih)

theorem Keeps.savepoint (refl : ∀ s, R s s) {body : Session ε σ α} (kept : Keeps R body) : Keeps R (savepoint body) := by
  constructor
  intro s
  have here := kept.inside s
  unfold Session.savepoint
  cases outcome : body s with
  | mk result t =>
    rw [outcome] at here
    cases result with
    | ok a => exact here
    | error e => exact refl s

end

end Session

end Protocol
