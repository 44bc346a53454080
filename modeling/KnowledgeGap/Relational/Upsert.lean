import KnowledgeGap.Relational.Table
import Mathlib.Data.List.Forall2
import Mathlib.Data.List.Induction

namespace Relational

namespace Table

variable {ρ ι : Type} [Keyed ρ]

/-- How a batch of items rewrites stored rows: the row an item is aimed at, if any, and what it makes
    of that row. -/
structure Patch (ρ ι : Type) [Keyed ρ] where
  target : ι → Option Nat
  refresh : ι → ρ → ρ
  refresh_key : ∀ i r, Keyed.key (refresh i r) = Keyed.key r

/-- A patch that files an item with no target as a new row. -/
structure Writer (ρ ι : Type) [Keyed ρ] extends Patch ρ ι where
  fresh : ι → Nat → ρ
  fresh_key : ∀ i n, Keyed.key (fresh i n) = n

def patch (p : Patch ρ ι) (t : Table ρ) (i : ι) : Table ρ :=
  match p.target i with
  | some k => t.modify k (p.refresh i) (p.refresh_key i)
  | none => t

def patchAll (p : Patch ρ ι) (t : Table ρ) (items : List ι) : Table ρ := items.foldl (patch p) t

def upsert (w : Writer ρ ι) (t : Table ρ) (i : ι) : Table ρ :=
  match w.target i with
  | some k => t.modify k (w.refresh i) (w.refresh_key i)
  | none => t.insert (w.fresh i) (w.fresh_key i)

def upsertAll (w : Writer ρ ι) (t : Table ρ) (items : List ι) : Table ρ := items.foldl (upsert w) t

/-- What a batch leaves of one stored row. -/
def Patch.refreshAll (p : Patch ρ ι) (items : List ι) (r : ρ) : ρ :=
  items.foldl (fun r i => if p.target i = some (Keyed.key r) then p.refresh i r else r) r

def Writer.added (w : Writer ρ ι) (items : List ι) (next : Nat) : List ρ :=
  (items.filter (fun i => (w.target i).isNone)).mapIdx (fun n i => w.fresh i (next + n))

def Writer.destinations (w : Writer ρ ι) : List ι → Nat → List Nat
  | [], _ => []
  | i :: items, next =>
    match w.target i with
    | some k => k :: w.destinations items next
    | none => next :: w.destinations items (next + 1)

theorem Patch.refreshAll_append (p : Patch ρ ι) (items : List ι) (i : ι) (r : ρ) :
    p.refreshAll (items ++ [i]) r =
      if p.target i = some (Keyed.key (p.refreshAll items r)) then
        p.refresh i (p.refreshAll items r) else p.refreshAll items r := by
  rw [refreshAll, List.foldl_append]
  rfl

@[simp] theorem Patch.key_refreshAll (p : Patch ρ ι) (items : List ι) (r : ρ) :
    Keyed.key (p.refreshAll items r) = Keyed.key r := by
  induction items using List.reverseRecOn with
  | nil => rfl
  | append_singleton items i ih =>
    rw [p.refreshAll_append]
    split
    · rw [p.refresh_key, ih]
    · exact ih

theorem Patch.refreshAll_of_missed (p : Patch ρ ι) {items : List ι} {r : ρ}
    (missed : ∀ i ∈ items, p.target i ≠ some (Keyed.key r)) : p.refreshAll items r = r := by
  induction items using List.reverseRecOn with
  | nil => rfl
  | append_singleton items i ih =>
    rw [p.refreshAll_append, p.key_refreshAll, if_neg (missed i (by simp))]
    exact ih (fun j member => missed j (List.mem_append_left _ member))

theorem Patch.refreshAll_of_target (p : Patch ρ ι) {items : List ι} {i : ι} {r : ρ}
    (member : i ∈ items) (aimed : p.target i = some (Keyed.key r)) (distinct : items.Nodup)
    (single : ∀ j ∈ items, p.target j = some (Keyed.key r) → j = i) :
    p.refreshAll items r = p.refresh i r := by
  induction items using List.reverseRecOn with
  | nil => cases member
  | append_singleton items j ih =>
    rw [p.refreshAll_append, p.key_refreshAll]
    rw [List.nodup_append] at distinct
    obtain ⟨nodup, _, apart⟩ := distinct
    by_cases earlier : i ∈ items
    · have other : ¬ p.target j = some (Keyed.key r) := by
        intro hit
        exact apart i earlier j (by simp) (single j (by simp) hit).symm
      rw [if_neg other]
      exact ih earlier nodup (fun k inside => single k (List.mem_append_left _ inside))
    · have last : i = j := by
        rcases List.mem_append.mp member with inside | final
        · exact absurd inside earlier
        · exact List.mem_singleton.mp final
      subst last
      have missed : p.refreshAll items r = r := by
        apply p.refreshAll_of_missed
        intro k inside hit
        exact apart k inside i (by simp) (single k (List.mem_append_left _ inside) hit)
      rw [if_pos aimed, missed]

theorem Patch.refreshAll_const (p : Patch ρ ι) {f : ρ → ρ} (same : ∀ i r, p.refresh i r = f r) {r : ρ}
    (settled : f (f r) = f r) {items : List ι} (aimed : ∃ i ∈ items, p.target i = some (Keyed.key r)) :
    p.refreshAll items r = f r := by
  induction items using List.reverseRecOn with
  | nil =>
    obtain ⟨i, member, _⟩ := aimed
    cases member
  | append_singleton items j ih =>
    rw [p.refreshAll_append, p.key_refreshAll]
    by_cases earlier : ∃ i ∈ items, p.target i = some (Keyed.key r)
    · rw [ih earlier]
      split
      · rw [same, settled]
      · rfl
    · have missed : p.refreshAll items r = r :=
        p.refreshAll_of_missed (fun i member hit => earlier ⟨i, member, hit⟩)
      obtain ⟨i, member, hit⟩ := aimed
      have last : i = j := by
        rcases List.mem_append.mp member with inside | final
        · exact absurd ⟨i, inside, hit⟩ earlier
        · exact List.mem_singleton.mp final
      rw [missed, ← last, if_pos hit, same]

theorem rows_modify_refresh (p : Patch ρ ι) (rows : List ρ) (items : List ι) {i : ι} {k : Nat}
    (target : p.target i = some k) :
    (rows.map (p.refreshAll items)).map (fun r => if Keyed.key r == k then p.refresh i r else r) =
      rows.map (p.refreshAll (items ++ [i])) := by
  rw [List.map_map]
  apply List.map_congr_left
  intro r _
  simp only [Function.comp_apply, p.refreshAll_append, p.key_refreshAll, target, Option.some.injEq,
    beq_iff_eq]
  by_cases hit : Keyed.key r = k
  · rw [if_pos hit, if_pos hit.symm]
  · rw [if_neg hit, if_neg (fun h => hit h.symm)]

theorem refreshAll_of_none (p : Patch ρ ι) (items : List ι) {i : ι} (target : p.target i = none) :
    p.refreshAll (items ++ [i]) = p.refreshAll items := by
  funext r
  rw [p.refreshAll_append, target, if_neg (by simp)]

@[simp] theorem nextId_patchAll (p : Patch ρ ι) (t : Table ρ) (items : List ι) :
    (t.patchAll p items).nextId = t.nextId := by
  induction items using List.reverseRecOn with
  | nil => rfl
  | append_singleton items i ih =>
    rw [patchAll, List.foldl_append, List.foldl_cons, List.foldl_nil, ← patchAll]
    unfold patch
    cases p.target i with
    | none => exact ih
    | some k => exact ih

@[simp] theorem rows_patchAll (p : Patch ρ ι) (t : Table ρ) (items : List ι) :
    (t.patchAll p items).rows = t.rows.map (p.refreshAll items) := by
  induction items using List.reverseRecOn with
  | nil =>
    have fixed : p.refreshAll [] = id := rfl
    simp [patchAll, fixed]
  | append_singleton items i ih =>
    rw [patchAll, List.foldl_append, List.foldl_cons, List.foldl_nil, ← patchAll]
    unfold patch
    cases target : p.target i with
    | none => simp only [ih, refreshAll_of_none p items target]
    | some k => simp only [rows_modify, ih, rows_modify_refresh p t.rows items target]

theorem Writer.added_append (w : Writer ρ ι) (items : List ι) (i : ι) (next : Nat) :
    w.added (items ++ [i]) next =
      if (w.target i).isNone then w.added items next ++ [w.fresh i (next + (w.added items next).length)]
      else w.added items next := by
  unfold added
  rw [List.filter_append]
  by_cases free : (w.target i).isNone
  · simp [free, List.mapIdx_append]
  · simp [free]

theorem Writer.mem_added (w : Writer ρ ι) {items : List ι} {next : Nat} {r : ρ}
    (member : r ∈ w.added items next) :
    ∃ i ∈ items, w.target i = none ∧ ∃ n, next ≤ n ∧ r = w.fresh i n := by
  obtain ⟨n, inside, rfl⟩ := List.mem_mapIdx.mp member
  have kept := List.getElem_mem inside
  rw [List.mem_filter] at kept
  exact ⟨_, kept.1, by simpa using kept.2, next + n, by omega, rfl⟩

theorem Writer.map_added {κ : Type} (w : Writer ρ ι) (items : List ι) (next : Nat) (column : ρ → κ)
    (source : ι → κ) (copied : ∀ i n, column (w.fresh i n) = source i) :
    (w.added items next).map column = (items.filter (fun i => (w.target i).isNone)).map source := by
  unfold added
  apply List.ext_getElem
  · simp
  · intro n left right
    simp [copied]

theorem Writer.filterMap_added {κ : Type} (w : Writer ρ ι) {items : List ι} (next : Nat) (column : ρ → Option κ)
    (source : ι → Option κ) (copied : ∀ i n, column (w.fresh i n) = source i)
    (unaimed : ∀ i ∈ items, (w.target i).isNone) : (w.added items next).filterMap column = items.filterMap source := by
  have columns := w.map_added items next column source copied
  rw [List.filter_eq_self.mpr unaimed] at columns
  have both := congrArg (List.filterMap id) columns
  rw [List.filterMap_map, List.filterMap_map] at both
  exact both

theorem Writer.added_eq_nil (w : Writer ρ ι) {items : List ι} (next : Nat)
    (aimed : ∀ i ∈ items, (w.target i).isSome) : w.added items next = [] := by
  unfold added
  have none : items.filter (fun i => (w.target i).isNone) = [] := by
    rw [List.filter_eq_nil_iff]
    intro i member free
    have target := aimed i member
    simp_all
  rw [none]
  rfl

theorem nextId_upsertAll (w : Writer ρ ι) (t : Table ρ) (items : List ι) :
    (t.upsertAll w items).nextId = t.nextId + (w.added items t.nextId).length := by
  induction items using List.reverseRecOn with
  | nil => rfl
  | append_singleton items i ih =>
    rw [upsertAll, List.foldl_append, List.foldl_cons, List.foldl_nil, ← upsertAll, w.added_append]
    unfold upsert
    cases target : w.target i with
    | none => simp [ih, Nat.add_assoc]
    | some k => simp [ih]

/-- A batch refreshes the stored rows in place and appends the rest, as long as it is aimed at rows
    that were there before it. -/
theorem rows_upsertAll (w : Writer ρ ι) (t : Table ρ) (items : List ι)
    (known : ∀ i ∈ items, ∀ k, w.target i = some k → k < t.nextId) :
    (t.upsertAll w items).rows = t.rows.map (w.refreshAll items) ++ w.added items t.nextId := by
  induction items using List.reverseRecOn with
  | nil =>
    have fixed : w.refreshAll [] = id := rfl
    simp [upsertAll, Writer.added, fixed]
  | append_singleton items i ih =>
    have earlier := ih (fun j member => known j (List.mem_append_left _ member))
    rw [upsertAll, List.foldl_append, List.foldl_cons, List.foldl_nil, ← upsertAll, w.added_append]
    unfold upsert
    cases target : w.target i with
    | none =>
      have fixed := refreshAll_of_none w.toPatch items target
      simp [earlier, fixed, nextId_upsertAll]
    | some k =>
      have bound := known i (by simp) k target
      have untouched : ∀ r ∈ w.added items t.nextId,
          (if Keyed.key r == k then w.refresh i r else r) = id r := by
        intro r member
        obtain ⟨_, _, _, n, issued, rfl⟩ := w.mem_added member
        have apart : ¬ n = k := by omega
        simp [w.fresh_key, apart]
      simp only [rows_modify, earlier, List.map_append, Option.isNone_some, Bool.false_eq_true,
        ↓reduceIte, rows_modify_refresh w.toPatch t.rows items target]
      rw [List.map_congr_left untouched, List.map_id]

theorem Writer.forall₂_destinations (w : Writer ρ ι) (items : List ι) (next : Nat) :
    List.Forall₂ (fun i d => w.target i = some d ∨ w.target i = none ∧ w.fresh i d ∈ w.added items next)
      items (w.destinations items next) := by
  induction items generalizing next with
  | nil => exact List.Forall₂.nil
  | cons i items ih =>
    unfold destinations
    cases target : w.target i with
    | some k =>
      refine List.Forall₂.cons (Or.inl target) ?_
      have same : w.added (i :: items) next = w.added items next := by
        simp [added, target]
      rw [same]
      exact ih next
    | none =>
      have split : w.added (i :: items) next = w.fresh i next :: w.added items (next + 1) := by
        simp [added, target, List.mapIdx_cons, Nat.add_assoc, Nat.add_comm 1]
      rw [split]
      refine List.Forall₂.cons (Or.inr ⟨target, List.mem_cons_self⟩) ?_
      refine (ih (next + 1)).imp ?_
      rintro j d (aimed | ⟨free, filed⟩)
      · exact Or.inl aimed
      · exact Or.inr ⟨free, List.mem_cons_of_mem _ filed⟩

theorem Writer.exists_destination (w : Writer ρ ι) {items : List ι} {i : ι} (next : Nat)
    (member : i ∈ items) :
    ∃ d, w.target i = some d ∨ w.target i = none ∧ w.fresh i d ∈ w.added items next := by
  obtain ⟨n, inside, rfl⟩ := List.getElem_of_mem member
  have paired := w.forall₂_destinations items next
  have bound : n < (w.destinations items next).length := paired.length_eq ▸ inside
  exact ⟨(w.destinations items next)[n], paired.get inside bound⟩

section
variable (fresh : ι → Nat → ρ) (fresh_key : ∀ i n, Keyed.key (fresh i n) = n)

def appender : Writer ρ ι where
  target _ := none
  refresh _ := id
  refresh_key _ _ := rfl
  fresh := fresh
  fresh_key := fresh_key

/-- File every item as a row of its own, in order. -/
def insertAll (t : Table ρ) (items : List ι) : Table ρ := t.upsertAll (appender fresh fresh_key) items

@[simp] theorem rows_insertAll (t : Table ρ) (items : List ι) :
    (t.insertAll fresh fresh_key items).rows =
      t.rows ++ items.mapIdx (fun n i => fresh i (t.nextId + n)) := by
  have fixed : ∀ r ∈ t.rows, (appender fresh fresh_key).refreshAll items r = id r := by
    intro r _
    apply Patch.refreshAll_of_missed
    intro _ _ aimed
    cases aimed
  have all : items.filter (fun i => ((appender fresh fresh_key).target i).isNone) = items :=
    List.filter_eq_self.mpr (fun _ _ => rfl)
  have appended : (appender fresh fresh_key).added items t.nextId =
      items.mapIdx (fun n i => fresh i (t.nextId + n)) := by
    rw [Writer.added, all]
    rfl
  rw [insertAll, rows_upsertAll, List.map_congr_left fixed, List.map_id, appended]
  intro _ _ _ aimed
  cases aimed

@[simp] theorem nextId_insertAll (t : Table ρ) (items : List ι) :
    (t.insertAll fresh fresh_key items).nextId = t.nextId + items.length := by
  have all : items.filter (fun i => ((appender fresh fresh_key).target i).isNone) = items :=
    List.filter_eq_self.mpr (fun _ _ => rfl)
  rw [insertAll, nextId_upsertAll, Writer.added, all, List.length_mapIdx]

end

end Table

end Relational
