import Mathlib.Data.List.Induction
import Mathlib.Data.List.Nodup
import Mathlib.Tactic.Common

namespace Relational

/-- A dictionary that remembers the order its keys were first written in. -/
structure Dict (κ α : Type) where
  entries : List (κ × α)
  nodup : (entries.map Prod.fst).Nodup

namespace Dict

variable {κ α β : Type} [DecidableEq κ]

def empty : Dict κ α := ⟨[], List.nodup_nil⟩

def keys (d : Dict κ α) : List κ := d.entries.map Prod.fst

def get? (d : Dict κ α) (k : κ) : Option α :=
  (d.entries.find? (fun e => decide (e.1 = k))).map Prod.snd

def getD (d : Dict κ α) (k : κ) (default : α) : α := (d.get? k).getD default

/-- `d[k] = v`: a known key keeps its place, a new one goes to the end. -/
def set (d : Dict κ α) (k : κ) (v : α) : Dict κ α where
  entries :=
    if k ∈ d.entries.map Prod.fst then d.entries.map (fun e => if e.1 = k then (k, v) else e)
    else d.entries ++ [(k, v)]
  nodup := by
    split
    · have same : (d.entries.map (fun e => if e.1 = k then (k, v) else e)).map Prod.fst =
          d.entries.map Prod.fst := by
        rw [List.map_map]
        apply List.map_congr_left
        intro e _
        simp only [Function.comp_apply]
        split <;> simp_all
      rw [same]
      exact d.nodup
    · rename_i fresh
      rw [List.map_append, List.nodup_append]
      refine ⟨d.nodup, by simp, ?_⟩
      intro a left b right same
      simp only [List.map_cons, List.map_nil, List.mem_singleton] at right
      exact fresh (right ▸ same ▸ left)

def ofList (pairs : List (κ × α)) : Dict κ α := pairs.foldl (fun d e => d.set e.1 e.2) empty

def group (key : α → κ) (xs : List α) : Dict κ (List α) :=
  xs.foldl (fun d x => d.set (key x) (d.getD (key x) [] ++ [x])) empty

def count (key : α → κ) (xs : List α) : Dict κ Nat :=
  xs.foldl (fun d x => d.set (key x) (d.getD (key x) 0 + 1)) empty

/-- `count` on top of counts that are there. -/
def countFrom (start : Dict κ Nat) (key : α → κ) (xs : List α) : Dict κ Nat :=
  xs.foldl (fun d x => d.set (key x) (d.getD (key x) 0 + 1)) start

/-- `d[key(x)] = add(d.setdefault(key(x), start(x)), x)` -/
def accumulate (key : α → κ) (start : α → β) (add : β → α → β) (xs : List α) : Dict κ β :=
  xs.foldl (fun d x => d.set (key x) (add (d.getD (key x) (start x)) x)) empty

/-- `prev = d.get(key(x)); if prev is None or rank(x) > rank(prev): d[key(x)] = x` -/
def newest (key : α → κ) (rank : α → Nat) (xs : List α) : Dict κ α :=
  xs.foldl (fun d x =>
    match d.get? (key x) with
    | none => d.set (key x) x
    | some prev => if rank prev < rank x then d.set (key x) x else d) empty

def filterMapValues (d : Dict κ α) (f : α → Option β) : Dict κ β where
  entries := d.entries.filterMap (fun e => (f e.2).map (fun v => (e.1, v)))
  nodup := by
    have names : ((d.entries.filterMap (fun e => (f e.2).map (fun v => (e.1, v)))).map Prod.fst).Sublist
        (d.entries.map Prod.fst) := by
      induction d.entries with
      | nil => exact List.Sublist.refl _
      | cons e entries ih =>
        rw [List.filterMap_cons]
        cases f e.2 with
        | none => exact List.Sublist.cons _ ih
        | some v => exact List.Sublist.cons_cons _ ih
    exact names.nodup d.nodup

/-- The entries that pass, in their order. -/
def keep (d : Dict κ α) (p : κ → α → Bool) : Dict κ α where
  entries := d.entries.filter (fun e => p e.1 e.2)
  nodup := (List.filter_sublist.map Prod.fst).nodup d.nodup

def pop (d : Dict κ α) (k : κ) : Dict κ α := d.keep (fun j _ => decide (j ≠ k))

/-- `while len(d) > limit: d.pop(next(iter(d)))` -/
def evict (d : Dict κ α) (limit : Nat) : Dict κ α where
  entries := d.entries.drop (d.entries.length - limit)
  nodup := ((List.drop_sublist _ _).map Prod.fst).nodup d.nodup

theorem get?_eq_some_iff (d : Dict κ α) (k : κ) (v : α) : d.get? k = some v ↔ (k, v) ∈ d.entries := by
  constructor
  · intro found
    obtain ⟨e, search, rfl⟩ := Option.map_eq_some_iff.mp found
    have key : e.1 = k := by simpa using List.find?_some search
    subst key
    exact List.mem_of_find?_eq_some search
  · intro member
    cases search : d.entries.find? (fun e => decide (e.1 = k)) with
    | none => simpa using List.find?_eq_none.mp search _ member
    | some e =>
      have key : e.1 = k := by simpa using List.find?_some search
      have same := List.inj_on_of_nodup_map d.nodup (List.mem_of_find?_eq_some search) member key
      simp [get?, search, same]

theorem get?_eq_none_iff (d : Dict κ α) (k : κ) : d.get? k = none ↔ k ∉ d.keys := by
  simp only [get?, Option.map_eq_none_iff, List.find?_eq_none, keys, List.mem_map]
  constructor
  · rintro absent ⟨e, member, rfl⟩
    simpa using absent e member
  · intro absent e member same
    exact absent ⟨e, member, by simpa using same⟩

theorem get?_set (d : Dict κ α) (k j : κ) (v : α) :
    (d.set k v).get? j = if j = k then some v else d.get? j := by
  by_cases same : j = k
  · subst same
    rw [if_pos rfl, get?_eq_some_iff]
    by_cases known : j ∈ d.entries.map Prod.fst
    · obtain ⟨e, member, key⟩ := List.mem_map.mp known
      simp only [set, if_pos known]
      exact List.mem_map.mpr ⟨e, member, by simp [key]⟩
    · simp [set, known]
  · rw [if_neg same]
    apply Option.ext
    intro w
    rw [get?_eq_some_iff, get?_eq_some_iff]
    by_cases known : k ∈ d.entries.map Prod.fst
    · simp only [set, if_pos known]
      rw [List.mem_map]
      constructor
      · rintro ⟨e, member, written⟩
        split at written
        · exact absurd (congrArg Prod.fst written).symm same
        · exact written ▸ member
      · intro member
        exact ⟨(j, w), member, by simp [same]⟩
    · simp [set, known, same]

theorem getD_set (d : Dict κ α) (k j : κ) (v w : α) :
    (d.set k v).getD j w = if j = k then v else d.getD j w := by
  simp only [getD, get?_set]
  split <;> rfl

theorem keys_set (d : Dict κ α) (k : κ) (v : α) :
    (d.set k v).keys = if k ∈ d.keys then d.keys else d.keys ++ [k] := by
  by_cases known : k ∈ d.entries.map Prod.fst
  · rw [if_pos (show k ∈ d.keys from known)]
    simp only [keys, set, if_pos known, List.map_map]
    apply List.map_congr_left
    intro e _
    simp only [Function.comp_apply]
    split <;> simp_all
  · rw [if_neg (show k ∉ d.keys from known)]
    simp [keys, set, known]

theorem entries_set_of_absent {d : Dict κ α} {k : κ} (absent : k ∉ d.keys) (v : α) :
    (d.set k v).entries = d.entries ++ [(k, v)] := if_neg absent

theorem mem_keys_set (d : Dict κ α) (k j : κ) (v : α) : j ∈ (d.set k v).keys ↔ j = k ∨ j ∈ d.keys := by
  rw [keys_set]
  split
  · rename_i known
    constructor
    · exact Or.inr
    · rintro (rfl | member)
      · exact known
      · exact member
  · simp [or_comm]

theorem get?_ofList (pairs : List (κ × α)) (k : κ) :
    (ofList pairs).get? k = ((pairs.filter (fun e => decide (e.1 = k))).getLast?).map Prod.snd := by
  induction pairs using List.reverseRecOn with
  | nil => rfl
  | append_singleton pairs e ih =>
    rw [ofList, List.foldl_append, List.foldl_cons, List.foldl_nil, get?_set, ← ofList, ih,
      List.filter_append]
    by_cases same : k = e.1
    · simp [same]
    · have other : ¬ e.1 = k := fun h => same h.symm
      simp [same, other]

/-- Keys that are told apart as well under another name find the same entries. -/
theorem get?_ofList_map {κ' α' : Type} [DecidableEq κ'] {f : κ → κ'} (apart : Function.Injective f) (g : α → α')
    (pairs : List (κ × α)) (k : κ) :
    (ofList (pairs.map (fun e => (f e.1, g e.2)))).get? (f k) = ((ofList pairs).get? k).map g := by
  have names : ((fun e : κ' × α' => decide (e.1 = f k)) ∘ fun e : κ × α => (f e.1, g e.2)) = fun e => decide (e.1 = k) := by
    funext e
    simp [apart.eq_iff]
  rw [get?_ofList, get?_ofList, List.filter_map, names, List.getLast?_map, Option.map_map, Option.map_map]
  rfl

theorem mem_of_get?_ofList {pairs : List (κ × α)} {k : κ} {v : α}
    (found : (ofList pairs).get? k = some v) : (k, v) ∈ pairs := by
  rw [get?_ofList] at found
  obtain ⟨e, last, rfl⟩ := Option.map_eq_some_iff.mp found
  have member := List.mem_of_getLast? last
  rw [List.mem_filter] at member
  have key : e.1 = k := by simpa using member.2
  exact key ▸ member.1

theorem get?_ofList_isSome_iff (pairs : List (κ × α)) (k : κ) :
    ((ofList pairs).get? k).isSome ↔ ∃ e ∈ pairs, e.1 = k := by
  rw [get?_ofList, Option.isSome_map, List.getLast?_isSome]
  simp [List.filter_eq_nil_iff]

theorem get?_ofList_of_mem {pairs : List (κ × α)} {k : κ} {v : α} (member : (k, v) ∈ pairs)
    (unique : ∀ w, (k, w) ∈ pairs → w = v) : (ofList pairs).get? k = some v := by
  have present := (get?_ofList_isSome_iff pairs k).mpr ⟨(k, v), member, rfl⟩
  obtain ⟨w, found⟩ := Option.isSome_iff_exists.mp present
  rw [found, unique w (mem_of_get?_ofList found)]

theorem getD_group (key : α → κ) (xs : List α) (k : κ) :
    (group key xs).getD k [] = xs.filter (fun x => decide (key x = k)) := by
  induction xs using List.reverseRecOn with
  | nil => rfl
  | append_singleton xs x ih =>
    rw [group, List.foldl_append, List.foldl_cons, List.foldl_nil, getD_set, ← group,
      List.filter_append]
    by_cases same : k = key x
    · subst same
      simp [ih]
    · have other : ¬ key x = k := fun h => same h.symm
      simp [same, other, ih]

theorem mem_keys_group (key : α → κ) (xs : List α) (k : κ) :
    k ∈ (group key xs).keys ↔ ∃ x ∈ xs, key x = k := by
  induction xs using List.reverseRecOn with
  | nil => simp [group, empty, keys]
  | append_singleton xs x ih =>
    rw [group, List.foldl_append, List.foldl_cons, List.foldl_nil, mem_keys_set, ← group, ih]
    constructor
    · rintro (rfl | ⟨y, member, rfl⟩)
      · exact ⟨x, by simp, rfl⟩
      · exact ⟨y, by simp [member], rfl⟩
    · rintro ⟨y, member, rfl⟩
      rcases List.mem_append.mp member with earlier | last
      · exact Or.inr ⟨y, earlier, rfl⟩
      · exact Or.inl (by rw [List.mem_singleton.mp last])

theorem mem_entries_group (key : α → κ) (xs : List α) (k : κ) (ys : List α) :
    (k, ys) ∈ (group key xs).entries ↔ ys ≠ [] ∧ ys = xs.filter (fun x => decide (key x = k)) := by
  have value := getD_group key xs k
  rw [← get?_eq_some_iff]
  constructor
  · intro found
    have filtered : ys = xs.filter (fun x => decide (key x = k)) := by
      rw [← value, getD, found]
      rfl
    have known : k ∈ (group key xs).keys := by
      by_contra absent
      rw [← get?_eq_none_iff, found] at absent
      cases absent
    obtain ⟨x, member, same⟩ := (mem_keys_group key xs k).mp known
    refine ⟨?_, filtered⟩
    rw [filtered]
    exact List.ne_nil_of_mem (List.mem_filter.mpr ⟨member, by simpa using same⟩)
  · rintro ⟨nonempty, filtered⟩
    cases found : (group key xs).get? k with
    | none =>
      rw [getD, found] at value
      exact absurd (filtered.trans value.symm) nonempty
    | some zs =>
      rw [getD, found] at value
      rw [filtered, ← value]
      rfl

theorem get?_filterMapValues (d : Dict κ α) (f : α → Option β) (k : κ) :
    (d.filterMapValues f).get? k = (d.get? k).bind f := by
  apply Option.ext
  intro v
  rw [get?_eq_some_iff, Option.bind_eq_some_iff]
  simp only [filterMapValues, List.mem_filterMap, Option.map_eq_some_iff, Prod.mk.injEq]
  constructor
  · intro held
    obtain ⟨⟨j, x⟩, member, w, image, rfl, rfl⟩ := held
    exact ⟨x, (get?_eq_some_iff d j x).mpr member, image⟩
  · intro held
    obtain ⟨x, found, image⟩ := held
    exact ⟨(k, x), (get?_eq_some_iff d k x).mp found, v, image, rfl, rfl⟩

theorem get?_keep (d : Dict κ α) (p : κ → α → Bool) (k : κ) : (d.keep p).get? k = (d.get? k).filter (p k) := by
  apply Option.ext
  intro v
  rw [get?_eq_some_iff, Option.filter_eq_some_iff, get?_eq_some_iff]
  exact List.mem_filter

theorem get?_pop (d : Dict κ α) (k j : κ) : (d.pop k).get? j = if j = k then none else d.get? j := by
  rw [pop, get?_keep]
  cases d.get? j with
  | none => exact (ite_self none).symm
  | some v => by_cases same : j = k <;> simp [Option.filter, same]

omit [DecidableEq κ] in
theorem evict_of_le {d : Dict κ α} {limit : Nat} (few : d.entries.length ≤ limit) : d.evict limit = d := by
  cases d
  simp only [evict, Dict.mk.injEq]
  rw [Nat.sub_eq_zero_of_le few, List.drop_zero]

omit [DecidableEq κ] in
theorem keys_evict (d : Dict κ α) (limit : Nat) :
    (d.evict limit).keys = (d.entries.drop (d.entries.length - limit)).map Prod.fst := rfl

theorem get?_evict (d : Dict κ α) (limit : Nat) (k : κ) : (d.evict limit).get? k = d.get? k ∨ (d.evict limit).get? k = none := by
  cases found : (d.evict limit).get? k with
  | none => exact Or.inr rfl
  | some v =>
    rw [get?_eq_some_iff] at found
    exact Or.inl ((get?_eq_some_iff d k v).mpr (List.mem_of_mem_drop found)).symm

theorem pop_of_absent {d : Dict κ α} {k : κ} (absent : d.get? k = none) : d.pop k = d := by
  have kept : d.entries.filter (fun e => decide (e.1 ≠ k)) = d.entries := by
    rw [List.filter_eq_self]
    intro e member
    have other : e.1 ≠ k := fun same => (get?_eq_none_iff d k).mp absent (List.mem_map.mpr ⟨e, member, same⟩)
    simpa using other
  cases d
  simpa [pop, keep] using kept

/-- A key has at most one entry. -/
theorem entries_filter_key (d : Dict κ α) (k : κ) :
    d.entries.filter (fun e => decide (e.1 = k)) = (d.get? k).toList.map (fun v => (k, v)) := by
  have single : ∀ entries : List (κ × α), (entries.map Prod.fst).Nodup →
      entries.filter (fun e => decide (e.1 = k))
        = ((entries.find? (fun e => decide (e.1 = k))).map Prod.snd).toList.map (fun v => (k, v)) := by
    intro entries distinct
    induction entries with
    | nil => rfl
    | cons e entries ih =>
      rw [List.map_cons, List.nodup_cons] at distinct
      by_cases same : e.1 = k
      · have alone : entries.filter (fun e => decide (e.1 = k)) = [] := by
          rw [List.filter_eq_nil_iff]
          intro f member
          have apart : f.1 ≠ k := fun equal =>
            distinct.1 (List.mem_map.mpr ⟨f, member, equal.trans same.symm⟩)
          simpa using apart
        rw [List.filter_cons_of_pos (by simpa using same), List.find?_cons_of_pos (by simpa using same), alone,
          ← same]
        rfl
      · rw [List.filter_cons_of_neg (by simpa using same), List.find?_cons_of_neg (by simpa using same)]
        exact ih distinct.2
  exact single d.entries d.nodup

theorem getD_countFrom (start : Dict κ Nat) (key : α → κ) (xs : List α) (k : κ) :
    (countFrom start key xs).getD k 0 = start.getD k 0 + xs.countP (fun x => decide (key x = k)) := by
  induction xs using List.reverseRecOn with
  | nil => rfl
  | append_singleton xs x ih =>
    rw [countFrom, List.foldl_append, List.foldl_cons, List.foldl_nil, getD_set, ← countFrom,
      List.countP_append]
    by_cases same : k = key x
    · subst same
      simp [ih, Nat.add_assoc]
    · have other : ¬ key x = k := fun h => same h.symm
      simp [same, other, ih]

theorem getD_count (key : α → κ) (xs : List α) (k : κ) :
    (count key xs).getD k 0 = xs.countP (fun x => decide (key x = k)) :=
  (getD_countFrom empty key xs k).trans (Nat.zero_add _)

omit [DecidableEq κ] in
/-- Rows counted for one of two reasons that exclude each other. -/
theorem countP_or {x y : α → Bool} (xs : List α) (apart : ∀ a ∈ xs, x a = true → y a = false) :
    xs.countP (fun a => x a || y a) = xs.countP x + xs.countP y := by
  induction xs with
  | nil => rfl
  | cons a xs ih =>
    have other := apart a List.mem_cons_self
    rw [List.countP_cons, List.countP_cons, List.countP_cons, ih (fun b listed => apart b (List.mem_cons_of_mem a listed))]
    cases here : x a with
    | false =>
      simp only [Bool.false_or, Bool.false_eq_true, ↓reduceIte]
      omega
    | true =>
      rw [other here]
      simp only [Bool.or_false, Bool.false_eq_true, ↓reduceIte]
      omega

theorem mem_keys_count (key : α → κ) (xs : List α) (k : κ) :
    k ∈ (count key xs).keys ↔ ∃ x ∈ xs, key x = k := by
  induction xs using List.reverseRecOn with
  | nil => simp [count, empty, keys]
  | append_singleton xs x ih =>
    rw [count, List.foldl_append, List.foldl_cons, List.foldl_nil, mem_keys_set, ← count, ih]
    simp only [List.mem_append, List.mem_singleton]
    constructor
    · intro held
      rcases held with rfl | ⟨y, member, rfl⟩
      · exact ⟨x, Or.inr rfl, rfl⟩
      · exact ⟨y, Or.inl member, rfl⟩
    · intro held
      obtain ⟨y, member, rfl⟩ := held
      rcases member with earlier | rfl
      · exact Or.inr ⟨y, earlier, rfl⟩
      · exact Or.inl rfl

theorem newest_append (key : α → κ) (rank : α → Nat) (xs : List α) (x : α) (k : κ) :
    (newest key rank (xs ++ [x])).get? k =
      if k = key x then
        match (newest key rank xs).get? k with
        | none => some x
        | some prev => if rank prev < rank x then some x else some prev
      else (newest key rank xs).get? k := by
  have unfolded : newest key rank (xs ++ [x]) =
      match (newest key rank xs).get? (key x) with
      | none => (newest key rank xs).set (key x) x
      | some prev => if rank prev < rank x then (newest key rank xs).set (key x) x else newest key rank xs := by
    rw [newest, List.foldl_append]
    rfl
  rw [unfolded]
  by_cases same : k = key x
  · subst same
    rw [if_pos rfl]
    cases found : (newest key rank xs).get? (key x) with
    | none => simp [get?_set]
    | some prev =>
      dsimp only
      split
      · simp [get?_set]
      · exact found
  · rw [if_neg same]
    cases (newest key rank xs).get? (key x) with
    | none => simp [get?_set, same]
    | some prev =>
      dsimp only
      split
      · simp [get?_set, same]
      · rfl

theorem get?_newest (key : α → κ) (rank : α → Nat) (xs : List α) (k : κ) :
    ((newest key rank xs).get? k = none ∧ ∀ x ∈ xs, key x ≠ k) ∨
      ∃ m, (newest key rank xs).get? k = some m ∧ m ∈ xs ∧ key m = k ∧
        ∀ x ∈ xs, key x = k → rank x ≤ rank m := by
  induction xs using List.reverseRecOn with
  | nil => exact Or.inl ⟨rfl, by simp⟩
  | append_singleton xs x ih =>
    rw [newest_append]
    by_cases same : k = key x
    · rw [if_pos same]
      right
      rcases ih with ⟨absent, free⟩ | ⟨m, found, member, keyed, top⟩
      · rw [absent]
        refine ⟨x, rfl, by simp, same.symm, ?_⟩
        intro y listed key'
        rcases List.mem_append.mp listed with earlier | last
        · exact absurd key' (free y earlier)
        · exact Nat.le_of_eq (congrArg rank (List.mem_singleton.mp last))
      · rw [found]
        dsimp only
        split
        · rename_i above
          refine ⟨x, rfl, by simp, same.symm, ?_⟩
          intro y listed key'
          rcases List.mem_append.mp listed with earlier | last
          · have bound := top y earlier key'
            omega
          · exact Nat.le_of_eq (congrArg rank (List.mem_singleton.mp last))
        · rename_i below
          refine ⟨m, rfl, by simp [member], keyed, ?_⟩
          intro y listed key'
          rcases List.mem_append.mp listed with earlier | last
          · exact top y earlier key'
          · rw [List.mem_singleton.mp last]
            omega
    · rw [if_neg same]
      rcases ih with ⟨absent, free⟩ | ⟨m, found, member, keyed, top⟩
      · refine Or.inl ⟨absent, ?_⟩
        intro y listed
        rcases List.mem_append.mp listed with earlier | last
        · exact free y earlier
        · rw [List.mem_singleton.mp last]
          exact fun key' => same key'.symm
      · refine Or.inr ⟨m, found, by simp [member], keyed, ?_⟩
        intro y listed key'
        rcases List.mem_append.mp listed with earlier | last
        · exact top y earlier key'
        · rw [List.mem_singleton.mp last] at key'
          exact absurd key'.symm same

theorem mem_values_newest {key : α → κ} {rank : α → Nat} {xs : List α}
    (distinct : ∀ x ∈ xs, ∀ y ∈ xs, rank x = rank y → x = y) {m : α} (member : m ∈ xs) :
    rank m ∈ (newest key rank xs).entries.map (fun e => rank e.2) ↔
      ∀ x ∈ xs, key x = key m → rank x ≤ rank m := by
  rcases get?_newest key rank xs (key m) with ⟨_, free⟩ | ⟨top, found, listed, keyed, bound⟩
  · exact absurd rfl (free m member)
  · constructor
    · intro held
      obtain ⟨⟨k, v⟩, entry, same⟩ := List.mem_map.mp held
      have stored := (get?_eq_some_iff _ _ _).mpr entry
      rcases get?_newest key rank xs k with ⟨absent, _⟩ | ⟨other, found', present, keyed', bound'⟩
      · rw [absent] at stored
        cases stored
      · have value : other = v := Option.some.inj (found'.symm.trans stored)
        subst value
        have equal := distinct other present m member same
        subst equal
        intro x listed' key'
        exact bound' x listed' (key'.trans keyed')
    · intro outranks
      have below := outranks top listed keyed
      have above := bound m member rfl
      have equal := distinct top listed m member (Nat.le_antisymm below above)
      subst equal
      exact List.mem_map.mpr ⟨(key top, top), (get?_eq_some_iff _ _ _).mp found, rfl⟩

theorem mem_entries_count (key : α → κ) (xs : List α) (k : κ) (n : Nat) :
    (k, n) ∈ (count key xs).entries ↔ 0 < n ∧ n = xs.countP (fun x => decide (key x = k)) := by
  have value := getD_count key xs k
  rw [← get?_eq_some_iff]
  constructor
  · intro found
    have counted : n = xs.countP (fun x => decide (key x = k)) := by
      rw [← value, getD, found]
      rfl
    have known : k ∈ (count key xs).keys := List.mem_map.mpr ⟨_, (get?_eq_some_iff _ _ _).mp found, rfl⟩
    obtain ⟨x, member, same⟩ := (mem_keys_count key xs k).mp known
    refine ⟨?_, counted⟩
    rw [counted, List.countP_pos_iff]
    exact ⟨x, member, by simpa using same⟩
  · intro held
    obtain ⟨positive, counted⟩ := held
    rw [counted, List.countP_pos_iff] at positive
    obtain ⟨x, member, same⟩ := positive
    have known := (mem_keys_count key xs k).mpr ⟨x, member, by simpa using same⟩
    cases found : (count key xs).get? k with
    | none => exact absurd known ((get?_eq_none_iff _ _).mp found)
    | some m =>
      rw [getD, found] at value
      rw [counted, ← value]
      rfl

theorem get?_accumulate (key : α → κ) (start : α → β) (add : β → α → β) (xs : List α) (k : κ) :
    (accumulate key start add xs).get? k =
      (xs.filter (fun x => decide (key x = k))).head?.map
        (fun x => (xs.filter (fun x => decide (key x = k))).foldl add (start x)) := by
  induction xs using List.reverseRecOn with
  | nil => rfl
  | append_singleton xs x ih =>
    rw [accumulate, List.foldl_append, List.foldl_cons, List.foldl_nil, get?_set, ← accumulate, List.filter_append]
    by_cases same : k = key x
    · have own : [x].filter (fun x => decide (key x = k)) = [x] := by simp [same]
      rw [if_pos same, getD, ← same, ih, own]
      cases xs.filter (fun x => decide (key x = k)) with
      | nil => rfl
      | cons first rest => simp [List.foldl_append]
    · have other : [x].filter (fun x => decide (key x = k)) = [] := by simp [Ne.symm same]
      rw [if_neg same, ih, other, List.append_nil]

theorem get?_tabulate (f : κ → α) (ks : List κ) (k : κ) :
    (ofList (ks.map (fun k => (k, f k)))).get? k = if k ∈ ks then some (f k) else none := by
  by_cases listed : k ∈ ks
  · rw [if_pos listed]
    apply get?_ofList_of_mem
    · exact List.mem_map.mpr ⟨k, listed, rfl⟩
    · intro v member
      obtain ⟨j, _, same⟩ := List.mem_map.mp member
      have key : j = k := congrArg Prod.fst same
      exact (congrArg Prod.snd same).symm.trans (congrArg f key)
  · rw [if_neg listed, ← Option.not_isSome_iff_eq_none, get?_ofList_isSome_iff]
    intro held
    obtain ⟨e, member, key⟩ := held
    obtain ⟨j, present, rfl⟩ := List.mem_map.mp member
    exact listed (key ▸ present)

/-- The items by their keys, numbered in order from `base`. -/
def numbered (key : α → κ) (base : Nat) (xs : List α) : Dict κ Nat :=
  ofList (xs.mapIdx (fun n x => (key x, base + n)))

section
variable {key : α → κ} {xs : List α} (base : Nat)

theorem mem_of_get?_numbered {k : κ} {id : Nat} (found : (numbered key base xs).get? k = some id) :
    ∃ n, ∃ inside : n < xs.length, key xs[n] = k ∧ id = base + n := by
  obtain ⟨n, inside, pair⟩ := List.mem_mapIdx.mp (mem_of_get?_ofList found)
  exact ⟨n, inside, congrArg Prod.fst pair, (congrArg Prod.snd pair).symm⟩

variable (distinct : (xs.map key).Nodup)
include distinct

theorem get?_numbered {n : Nat} (inside : n < xs.length) :
    (numbered key base xs).get? (key xs[n]) = some (base + n) := by
  apply get?_ofList_of_mem
  · exact List.mem_mapIdx.mpr ⟨n, inside, rfl⟩
  · intro w listed
    obtain ⟨m, bound, pair⟩ := List.mem_mapIdx.mp listed
    have left : m < (xs.map key).length := by simpa using bound
    have right : n < (xs.map key).length := by simpa using inside
    have keys : (xs.map key)[m] = (xs.map key)[n] := by simpa using congrArg Prod.fst pair
    have same : m = n := (List.Nodup.getElem_inj_iff distinct).mp keys
    subst same
    exact (congrArg Prod.snd pair).symm

theorem getD_numbered {n : Nat} (inside : n < xs.length) :
    (numbered key base xs).getD (key xs[n]) 0 = base + n := by
  rw [getD, get?_numbered base distinct inside]
  rfl

theorem get?_numbered_of_mem {x : α} (member : x ∈ xs) :
    (numbered key base xs).get? (key x) = some ((numbered key base xs).getD (key x) 0) := by
  obtain ⟨n, inside, rfl⟩ := List.getElem_of_mem member
  rw [getD, get?_numbered base distinct inside]
  rfl

theorem numbered_inj {x y : α} (left : x ∈ xs) (right : y ∈ xs)
    (same : (numbered key base xs).getD (key x) 0 = (numbered key base xs).getD (key y) 0) : x = y := by
  obtain ⟨n, inside, rfl⟩ := List.getElem_of_mem left
  obtain ⟨m, bound, rfl⟩ := List.getElem_of_mem right
  rw [getD_numbered base distinct inside, getD_numbered base distinct bound] at same
  have equal : n = m := by omega
  subst equal
  rfl

theorem mapIdx_numbered {γ : Type} (file : α → Nat → γ) :
    xs.mapIdx (fun n x => file x (base + n)) = xs.map (fun x => file x ((numbered key base xs).getD (key x) 0)) := by
  apply List.ext_getElem
  · simp
  · intro n left right
    have inside : n < xs.length := by simpa using left
    simp [getD_numbered base distinct inside]

end

end Dict

end Relational
