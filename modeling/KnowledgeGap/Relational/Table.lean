import Mathlib.Data.List.Nodup
import Mathlib.Tactic.Common

namespace Relational

/-- A row type whose values carry their integer primary key. -/
class Keyed (ρ : Type) where
  key : ρ → Nat

/-- A relation: its rows in storage order and the next key the sequence hands out. Keys are
    unique and already issued, so an insertion never collides with a stored row. -/
structure Table (ρ : Type) [Keyed ρ] where
  rows : List ρ
  nextId : Nat
  nodup : (rows.map Keyed.key).Nodup
  issued : ∀ r ∈ rows, Keyed.key r < nextId

theorem filter_map_of_fixed {ρ : Type} {p : ρ → Bool} {f : ρ → ρ} {rows : List ρ}
    (same : ∀ r ∈ rows, p (f r) = p r) (fixed : ∀ r ∈ rows, p r = true → f r = r) :
    (rows.map f).filter p = rows.filter p := by
  induction rows with
  | nil => rfl
  | cons r rows ih =>
    have rest := ih (fun s member => same s (by simp [member])) (fun s member => fixed s (by simp [member]))
    rw [List.map_cons, List.filter_cons, List.filter_cons, rest, same r (by simp)]
    split
    · rename_i kept
      rw [fixed r (by simp) kept]
    · rfl

namespace Table

variable {ρ : Type} [Keyed ρ]

@[ext]
theorem ext {t u : Table ρ} (rows : t.rows = u.rows) (next : t.nextId = u.nextId) : t = u := by
  cases t
  cases u
  simp_all

instance [DecidableEq ρ] : DecidableEq (Table ρ) := fun t u =>
  decidable_of_iff (t.rows = u.rows ∧ t.nextId = u.nextId)
    ⟨fun h => Table.ext h.1 h.2, fun h => h ▸ ⟨rfl, rfl⟩⟩

def empty : Table ρ := ⟨[], 1, List.nodup_nil, by simp⟩

def select (t : Table ρ) (p : ρ → Bool) : List ρ := t.rows.filter p

def get? (t : Table ρ) (k : Nat) : Option ρ := t.rows.find? (fun r => Keyed.key r == k)

/-- Rewrite every row in place; a rewriting never touches the primary key. -/
def map (t : Table ρ) (f : ρ → ρ) (keeps : ∀ r, Keyed.key (f r) = Keyed.key r) : Table ρ where
  rows := t.rows.map f
  nextId := t.nextId
  nodup := by
    have same : (t.rows.map f).map Keyed.key = t.rows.map Keyed.key := by simp [keeps]
    rw [same]
    exact t.nodup
  issued := by
    intro r member
    obtain ⟨s, stored, rfl⟩ := List.mem_map.mp member
    rw [keeps]
    exact t.issued s stored

/-- Some rows of a table, each rewritten under its own key. -/
def view {σ : Type} [Keyed σ] (t : Table ρ) (p : ρ → Bool) (f : ρ → σ) (keeps : ∀ r, Keyed.key (f r) = Keyed.key r) :
    Table σ where
  rows := (t.rows.filter p).map f
  nextId := t.nextId
  nodup := by
    have same : ((t.rows.filter p).map f).map Keyed.key = (t.rows.filter p).map Keyed.key := by simp [keeps]
    rw [same]
    exact (List.Sublist.map Keyed.key List.filter_sublist).nodup t.nodup
  issued := by
    intro r member
    obtain ⟨s, stored, rfl⟩ := List.mem_map.mp member
    rw [keeps]
    exact t.issued s (List.mem_of_mem_filter stored)

def updateWhere (t : Table ρ) (p : ρ → Bool) (f : ρ → ρ)
    (keeps : ∀ r, Keyed.key (f r) = Keyed.key r) : Table ρ :=
  t.map (fun r => if p r then f r else r) (by intro r; split <;> simp [keeps])

def rowcount (t : Table ρ) (p : ρ → Bool) : Nat := (t.select p).length

def modify (t : Table ρ) (k : Nat) (f : ρ → ρ)
    (keeps : ∀ r, Keyed.key (f r) = Keyed.key r) : Table ρ :=
  t.updateWhere (fun r => Keyed.key r == k) f keeps

def deleteWhere (t : Table ρ) (p : ρ → Bool) : Table ρ where
  rows := t.rows.filter (fun r => !p r)
  nextId := t.nextId
  nodup := (List.Sublist.map Keyed.key List.filter_sublist).nodup t.nodup
  issued := fun r member => t.issued r (List.mem_of_mem_filter member)

theorem nodup_append_row (t : Table ρ) {r : ρ} (fresh : ∀ s ∈ t.rows, Keyed.key s ≠ Keyed.key r) :
    ((t.rows ++ [r]).map Keyed.key).Nodup := by
  rw [List.map_append, List.nodup_append]
  refine ⟨t.nodup, by simp, ?_⟩
  intro a left b right same
  obtain ⟨s, stored, rfl⟩ := List.mem_map.mp left
  rw [List.map_singleton, List.mem_singleton] at right
  exact fresh s stored (same.trans right)

theorem issued_append_row (t : Table ρ) {r : ρ} {next : Nat} (grown : t.nextId ≤ next)
    (bound : Keyed.key r < next) : ∀ s ∈ t.rows ++ [r], Keyed.key s < next := by
  intro s member
  rcases List.mem_append.mp member with stored | added
  · exact Nat.lt_of_lt_of_le (t.issued s stored) grown
  · rw [List.mem_singleton.mp added]
    exact bound

theorem unissued (t : Table ρ) {r : ρ} (next : Keyed.key r = t.nextId) :
    ∀ s ∈ t.rows, Keyed.key s ≠ Keyed.key r := by
  intro s stored same
  have bound := t.issued s stored
  omega

def insert (t : Table ρ) (mk : Nat → ρ) (keyed : ∀ n, Keyed.key (mk n) = n) : Table ρ where
  rows := t.rows ++ [mk t.nextId]
  nextId := t.nextId + 1
  nodup := t.nodup_append_row (t.unissued (keyed t.nextId))
  issued := t.issued_append_row (Nat.le_succ _) (Nat.lt_succ_of_le (Nat.le_of_eq (keyed t.nextId)))

def put (t : Table ρ) (r : ρ) : Table ρ :=
  if fresh : ∀ s ∈ t.rows, Keyed.key s ≠ Keyed.key r then
    { rows := t.rows ++ [r]
      nextId := max t.nextId (Keyed.key r + 1)
      nodup := t.nodup_append_row fresh
      issued := t.issued_append_row (Nat.le_max_left _ _) (Nat.lt_of_succ_le (Nat.le_max_right _ _)) }
  else t

def ofList (rows : List ρ) : Table ρ := rows.foldl put empty

@[simp] theorem rows_map (t : Table ρ) (f : ρ → ρ) (keeps) : (t.map f keeps).rows = t.rows.map f := rfl

@[simp] theorem nextId_map (t : Table ρ) (f : ρ → ρ) (keeps) : (t.map f keeps).nextId = t.nextId := rfl

@[simp] theorem rows_updateWhere (t : Table ρ) (p : ρ → Bool) (f : ρ → ρ) (keeps) :
    (t.updateWhere p f keeps).rows = t.rows.map (fun r => if p r then f r else r) := rfl

@[simp] theorem nextId_updateWhere (t : Table ρ) (p : ρ → Bool) (f : ρ → ρ) (keeps) :
    (t.updateWhere p f keeps).nextId = t.nextId := rfl

@[simp] theorem rows_modify (t : Table ρ) (k : Nat) (f : ρ → ρ) (keeps) :
    (t.modify k f keeps).rows = t.rows.map (fun r => if Keyed.key r == k then f r else r) := rfl

@[simp] theorem nextId_modify (t : Table ρ) (k : Nat) (f : ρ → ρ) (keeps) :
    (t.modify k f keeps).nextId = t.nextId := rfl

@[simp] theorem rows_deleteWhere (t : Table ρ) (p : ρ → Bool) :
    (t.deleteWhere p).rows = t.rows.filter (fun r => !p r) := rfl

@[simp] theorem nextId_deleteWhere (t : Table ρ) (p : ρ → Bool) :
    (t.deleteWhere p).nextId = t.nextId := rfl

@[simp] theorem rows_insert (t : Table ρ) (mk : Nat → ρ) (keyed) :
    (t.insert mk keyed).rows = t.rows ++ [mk t.nextId] := rfl

@[simp] theorem nextId_insert (t : Table ρ) (mk : Nat → ρ) (keyed) :
    (t.insert mk keyed).nextId = t.nextId + 1 := rfl

theorem key_inj (t : Table ρ) {r s : ρ} (left : r ∈ t.rows) (right : s ∈ t.rows)
    (same : Keyed.key r = Keyed.key s) : r = s :=
  List.inj_on_of_nodup_map t.nodup left right same

theorem get?_eq_some_iff (t : Table ρ) (k : Nat) (r : ρ) :
    t.get? k = some r ↔ r ∈ t.rows ∧ Keyed.key r = k := by
  constructor
  · intro found
    exact ⟨List.mem_of_find?_eq_some found, by simpa using List.find?_some found⟩
  · rintro ⟨stored, rfl⟩
    cases found : t.get? (Keyed.key r) with
    | none =>
      have absent := List.find?_eq_none.mp found r stored
      simp at absent
    | some s =>
      have same : Keyed.key s = Keyed.key r := by simpa using List.find?_some found
      rw [t.key_inj (List.mem_of_find?_eq_some found) stored same]

theorem get?_mem {t : Table ρ} {k : Nat} {r : ρ} (found : t.get? k = some r) : r ∈ t.rows :=
  ((t.get?_eq_some_iff k r).mp found).1

theorem get?_key {t : Table ρ} {k : Nat} {r : ρ} (found : t.get? k = some r) : Keyed.key r = k :=
  ((t.get?_eq_some_iff k r).mp found).2

theorem get?_of_mem {t : Table ρ} {r : ρ} (stored : r ∈ t.rows) : t.get? (Keyed.key r) = some r :=
  (t.get?_eq_some_iff _ r).mpr ⟨stored, rfl⟩

theorem get?_none_of_nextId_le (t : Table ρ) {k : Nat} (beyond : t.nextId ≤ k) : t.get? k = none := by
  cases found : t.get? k with
  | none => rfl
  | some r =>
    have bound := t.issued r (get?_mem found)
    have key := get?_key found
    omega

theorem get?_map (t : Table ρ) (f : ρ → ρ) (keeps : ∀ r, Keyed.key (f r) = Keyed.key r) (k : Nat) :
    (t.map f keeps).get? k = (t.get? k).map f := by
  simp only [get?, rows_map, List.find?_map, Function.comp_def, keeps]

theorem get?_updateWhere (t : Table ρ) (p : ρ → Bool) (f : ρ → ρ) (keeps) (k : Nat) :
    (t.updateWhere p f keeps).get? k = (t.get? k).map (fun r => if p r then f r else r) :=
  t.get?_map _ _ k

theorem get?_updateWhere_of_pos {t : Table ρ} {p : ρ → Bool} {f : ρ → ρ} (keeps : ∀ r, Keyed.key (f r) = Keyed.key r)
    {k : Nat} {r : ρ} (found : t.get? k = some r) (hit : p r = true) :
    (t.updateWhere p f keeps).get? k = some (f r) := by
  rw [get?_updateWhere, found, Option.map_some, if_pos hit]

theorem get?_updateWhere_of_neg {t : Table ρ} {p : ρ → Bool} {f : ρ → ρ} (keeps : ∀ r, Keyed.key (f r) = Keyed.key r)
    {k : Nat} {r : ρ} (found : t.get? k = some r) (miss : p r = false) :
    (t.updateWhere p f keeps).get? k = some r := by
  rw [get?_updateWhere, found, Option.map_some, if_neg (by simp [miss])]

/-- A condition that pins the primary key selects at most the row stored under it. -/
theorem select_of_key (t : Table ρ) (p : ρ → Bool) (k : Nat) (pinned : ∀ r, p r = true → Keyed.key r = k) :
    t.select p = ((t.get? k).filter p).toList := by
  cases found : t.get? k with
  | none =>
    simp only [Option.filter_none, Option.toList_none, select, List.filter_eq_nil_iff]
    intro r stored holds
    have present := get?_of_mem stored
    rw [pinned r holds, found] at present
    cases present
  | some r =>
    obtain ⟨left, right, split⟩ := List.append_of_mem (get?_mem found)
    have distinct := t.nodup
    rw [split] at distinct
    simp only [List.map_append, List.map_cons, List.nodup_append, List.nodup_cons, List.mem_cons,
      List.mem_map] at distinct
    obtain ⟨_, ⟨absentRight, _⟩, absentLeft⟩ := distinct
    have key := get?_key found
    have none_left : left.filter p = [] := by
      rw [List.filter_eq_nil_iff]
      intro s member holds
      exact absentLeft (Keyed.key s) ⟨s, member, rfl⟩ (Keyed.key r) (Or.inl rfl)
        ((pinned s holds).trans key.symm)
    have none_right : right.filter p = [] := by
      rw [List.filter_eq_nil_iff]
      intro s member holds
      exact absentRight ⟨s, member, (pinned s holds).trans key.symm⟩
    rw [select, split, List.filter_append, none_left, List.filter_cons, none_right]
    cases holds : p r <;> simp [holds, Option.filter_some]

theorem rowcount_eq_one_iff (t : Table ρ) (p : ρ → Bool) (k : Nat)
    (pinned : ∀ r, p r = true → Keyed.key r = k) :
    t.rowcount p = 1 ↔ ∃ r, t.get? k = some r ∧ p r = true := by
  rw [rowcount, t.select_of_key p k pinned]
  cases t.get? k with
  | none => simp
  | some r => cases holds : p r <;> simp [holds, Option.filter_some]

theorem get?_insert (t : Table ρ) (mk : Nat → ρ) (keyed : ∀ n, Keyed.key (mk n) = n) (k : Nat) :
    (t.insert mk keyed).get? k = if k = t.nextId then some (mk t.nextId) else t.get? k := by
  by_cases same : k = t.nextId
  · subst same
    simp only [↓reduceIte]
    rw [get?_eq_some_iff]
    exact ⟨by simp, keyed _⟩
  · have other : ¬ t.nextId = k := fun h => same h.symm
    simp [get?, List.find?_append, keyed, other, same]

theorem map_eq_self (t : Table ρ) (f : ρ → ρ) (keeps) (fixed : ∀ r ∈ t.rows, f r = r) :
    t.map f keeps = t := by
  apply Table.ext
  · simp only [rows_map]
    conv_rhs => rw [← List.map_id t.rows]
    exact List.map_congr_left fixed
  · rfl

theorem updateWhere_eq_self (t : Table ρ) (p : ρ → Bool) (f : ρ → ρ) (keeps)
    (none : ∀ r ∈ t.rows, p r = false) : t.updateWhere p f keeps = t :=
  t.map_eq_self _ _ (fun r stored => by simp [none r stored])

theorem modify_eq_self (t : Table ρ) (k : Nat) (f : ρ → ρ) (keeps) (fixed : ∀ r ∈ t.rows, Keyed.key r = k → f r = r) :
    t.modify k f keeps = t := by
  apply Table.ext
  · rw [rows_modify]
    conv_rhs => rw [← List.map_id t.rows]
    apply List.map_congr_left
    intro r stored
    by_cases here : Keyed.key r = k
    · simp [here, fixed r stored here]
    · simp [here]
  · rfl

theorem get?_modify_self {t : Table ρ} {k : Nat} {f : ρ → ρ} (keeps : ∀ r, Keyed.key (f r) = Keyed.key r) {r : ρ}
    (found : t.get? k = some r) : (t.modify k f keeps).get? k = some (f r) :=
  get?_updateWhere_of_pos keeps found (by simp [get?_key found])

theorem get?_modify_other (t : Table ρ) (k : Nat) (f : ρ → ρ) (keeps) {id : Nat} (other : id ≠ k) :
    (t.modify k f keeps).get? id = t.get? id := by
  rw [modify, get?_updateWhere]
  cases found : t.get? id with
  | none => rfl
  | some r =>
    have key := get?_key found
    simp [key, other]

/-- Of two updates of one row that overwrite the same columns the second counts. -/
theorem modify_modify (t : Table ρ) (k : Nat) {f g : ρ → ρ} (keepsF) (keepsG) (absorb : ∀ r, g (f r) = g r) :
    (t.modify k f keepsF).modify k g keepsG = t.modify k g keepsG := by
  apply Table.ext
  · rw [rows_modify, rows_modify, rows_modify, List.map_map]
    apply List.map_congr_left
    intro r _
    by_cases here : Keyed.key r = k
    · simp [here, keepsF, absorb]
    · simp [here]
  · rfl

theorem modify_updateWhere (t : Table ρ) (p : ρ → Bool) {f : ρ → ρ} (keeps) (again : ∀ r, f (f r) = f r) (k : Nat) :
    (t.updateWhere p f keeps).modify k f keeps = t.updateWhere (fun r => p r || Keyed.key r == k) f keeps := by
  apply Table.ext
  · rw [rows_modify, rows_updateWhere, rows_updateWhere, List.map_map]
    apply List.map_congr_left
    intro r _
    by_cases here : Keyed.key r = k
    · cases hit : p r <;> simp [here, hit, keeps, again]
    · cases hit : p r <;> simp [here, hit, keeps]
  · rfl

@[simp] theorem rows_view {σ : Type} [Keyed σ] (t : Table ρ) (p : ρ → Bool) (f : ρ → σ) (keeps) :
    (t.view p f keeps).rows = (t.rows.filter p).map f := rfl

theorem get?_view_eq_some {σ : Type} [Keyed σ] {t : Table ρ} {p : ρ → Bool} {f : ρ → σ}
    (keeps : ∀ r, Keyed.key (f r) = Keyed.key r) {k : Nat} {s : σ} (found : (t.view p f keeps).get? k = some s) :
    ∃ r, t.get? k = some r ∧ p r = true ∧ f r = s := by
  obtain ⟨member, key⟩ := (get?_eq_some_iff _ k s).mp found
  obtain ⟨r, stored, rfl⟩ := List.mem_map.mp member
  obtain ⟨listed, kept⟩ := List.mem_filter.mp stored
  refine ⟨r, ?_, kept, rfl⟩
  rw [get?_eq_some_iff, ← keeps r]
  exact ⟨listed, key⟩

end Table

end Relational
