import KnowledgeGap.Intervention.Groups

namespace KnowledgeGap

open Relational

/-- A suggestion put in a group of a size. -/
def ActionRow.join (size : Nat) (row : ActionRow) : ActionRow :=
  { row with scope := .group, note := some (groupNote size) }

theorem sharesRoot_iff {root : Nat} {row : ActionRow} :
    sharesRoot root row = true ↔ row.kind = .prereqBackfill ∧ row.rootKpId = some root := by
  simp [sharesRoot]

/-- The groups one after the other, each with its size, on the suggestions to one pupil. -/
def joinAll (entries : List (Nat × Nat)) (rows : List ActionRow) : List ActionRow :=
  entries.foldl (fun rows e => joinGroup e.1 e.2 rows) rows

theorem length_joinGroup (root size : Nat) (rows : List ActionRow) : (joinGroup root size rows).length = rows.length :=
  List.length_modify ..

theorem findIdx_joinGroup (other root size : Nat) (rows : List ActionRow) :
    (joinGroup root size rows).findIdx (sharesRoot other) = rows.findIdx (sharesRoot other) := by
  have unjoined : Unjoined (sharesRoot other) := fun _ _ _ => rfl
  have column := map_joinGroup unjoined root size rows
  have left : ∀ rows : List ActionRow, (rows.map (sharesRoot other)).findIdx id = rows.findIdx (sharesRoot other) := by
    intro rows
    rw [List.findIdx_map]
    rfl
  rw [← left, column, left]

theorem getElem?_joinGroup (root size : Nat) (rows : List ActionRow) (n : Nat) :
    (joinGroup root size rows)[n]? =
      if rows.findIdx (sharesRoot root) = n then rows[n]?.map (ActionRow.join size) else rows[n]? := by
  rw [joinGroup, List.getElem?_modify]
  by_cases here : rows.findIdx (sharesRoot root) = n
  · simp only [here, ↓reduceIte]
    rfl
  · simp [here]

/-- A row that is the first of none of the roots stays. -/
theorem getElem?_joinAll_other {entries : List (Nat × Nat)} {rows : List ActionRow} {n : Nat}
    (other : ∀ e ∈ entries, rows.findIdx (sharesRoot e.1) ≠ n) : (joinAll entries rows)[n]? = rows[n]? := by
  unfold joinAll
  induction entries generalizing rows with
  | nil => rfl
  | cons e entries ih =>
    rw [List.foldl_cons, ih]
    · rw [getElem?_joinGroup, if_neg (other e (List.mem_cons_self ..))]
    · intro e' listed
      rw [findIdx_joinGroup]
      exact other e' (List.mem_cons_of_mem _ listed)

/-- The first row of a root is put in the group of the root. -/
theorem getElem?_joinAll_first {entries : List (Nat × Nat)} {rows : List ActionRow} {root size : Nat}
    (distinct : (entries.map Prod.fst).Nodup) (listed : (root, size) ∈ entries)
    (inside : rows.findIdx (sharesRoot root) < rows.length) :
    (joinAll entries rows)[rows.findIdx (sharesRoot root)]? =
      rows[rows.findIdx (sharesRoot root)]?.map (ActionRow.join size) := by
  have apart : ∀ other, other ≠ root → rows.findIdx (sharesRoot other) ≠ rows.findIdx (sharesRoot root) := by
    intro other differs same
    have here := List.findIdx_getElem (w := inside)
    have there := List.findIdx_getElem (w := same ▸ inside)
    simp only [same] at there
    have first := (sharesRoot_iff.mp here).2
    have second := (sharesRoot_iff.mp there).2
    exact differs (Option.some.inj (second.symm.trans first))
  unfold joinAll
  induction entries generalizing rows with
  | nil => cases listed
  | cons e entries ih =>
    rw [List.map_cons, List.nodup_cons] at distinct
    rw [List.foldl_cons]
    rcases List.mem_cons.mp listed with same | later
    · subst same
      have others : ∀ e' ∈ entries, (joinGroup root size rows).findIdx (sharesRoot e'.1) ≠
          rows.findIdx (sharesRoot root) := by
        intro e' held
        rw [findIdx_joinGroup]
        apply apart
        intro again
        exact distinct.1 (List.mem_map.mpr ⟨e', held, again⟩)
      have rest := getElem?_joinAll_other others
      rw [joinAll] at rest
      rw [rest, getElem?_joinGroup, if_pos rfl]
    · have differs : e.1 ≠ root := by
        intro same
        exact distinct.1 (List.mem_map.mpr ⟨(root, size), later, same.symm⟩)
      have inside' : (joinGroup e.1 e.2 rows).findIdx (sharesRoot root) < (joinGroup e.1 e.2 rows).length := by
        rw [findIdx_joinGroup, length_joinGroup]
        exact inside
      have apart' : ∀ other, other ≠ root → (joinGroup e.1 e.2 rows).findIdx (sharesRoot other) ≠
          (joinGroup e.1 e.2 rows).findIdx (sharesRoot root) := by
        intro other apart_
        rw [findIdx_joinGroup, findIdx_joinGroup]
        exact apart other apart_
      have step := ih distinct.2 later inside' apart'
      rw [findIdx_joinGroup] at step
      rw [step, getElem?_joinGroup, if_neg (apart e.1 differs)]

theorem mem_joinAll {entries : List (Nat × Nat)} {rows : List ActionRow} {row : ActionRow}
    (joined : row ∈ joinAll entries rows) : row ∈ rows ∨ row.scope = .group := by
  unfold joinAll at joined
  induction entries generalizing rows with
  | nil => exact Or.inl joined
  | cons e entries ih =>
    rw [List.foldl_cons] at joined
    rcases ih joined with before | grouped
    · have ⟨n, here⟩ := List.mem_iff_getElem?.mp before
      rw [getElem?_joinGroup] at here
      split at here
      · have ⟨old, _, same⟩ := Option.map_eq_some_iff.mp here
        exact Or.inr (same ▸ rfl)
      · exact Or.inl (List.mem_of_getElem? here)
    · exact Or.inr grouped

/-- A row goes to at most one group. -/
theorem joinGroup_again (root size : Nat) (rows : List ActionRow) :
    joinGroup root size (joinGroup root size rows) = joinGroup root size rows := by
  apply List.ext_getElem?
  intro n
  rw [getElem?_joinGroup, findIdx_joinGroup, getElem?_joinGroup]
  split
  · rw [Option.map_map]
    rfl
  · rfl

theorem joinGroup_eq_self {root size : Nat} {rows : List ActionRow} (absent : ∀ row ∈ rows, sharesRoot root row = false) :
    joinGroup root size rows = rows := by
  apply List.ext_getElem?
  intro n
  rw [getElem?_joinGroup, List.findIdx_eq_length_of_false absent]
  split
  · rename_i same
    rw [← same, List.getElem?_length]
    rfl
  · rfl

theorem getD_joinMembers (root size : Nat) (members : List (Nat × Nat)) (individual : Dict Nat (List ActionRow))
    (sid : Nat) : (joinMembers root size members individual).getD sid [] =
      if sid ∈ members.map Prod.snd then joinGroup root size (individual.getD sid []) else individual.getD sid [] := by
  unfold joinMembers
  induction members generalizing individual with
  | nil => rfl
  | cons m members ih =>
    rw [List.foldl_cons, ih, Dict.getD_set, List.map_cons]
    by_cases here : sid = m.2
    · rw [if_pos here]
      simp only [here, List.mem_cons, true_or, ↓reduceIte]
      split
      · exact joinGroup_again ..
      · rfl
    · rw [if_neg here]
      simp only [List.mem_cons, here, false_or]

/-- The groups of the roots, one after the other, on the suggestions to a pupil. -/
theorem getD_clusterRows {groupMin : Nat} {entries : List (Nat × List (Nat × Nat))} {individual : Dict Nat (List ActionRow)}
    {sid : Nat} (known : ∀ e ∈ entries, sid ∉ e.2.map Prod.snd →
      ∀ row ∈ individual.getD sid [], sharesRoot e.1 row = false) :
    (entries.foldl (fun ind e => if e.2.length < groupMin then ind else joinMembers e.1 e.2.length e.2 ind)
      individual).getD sid [] =
      joinAll ((entries.filter (fun e => decide (groupMin ≤ e.2.length))).map (fun e => (e.1, e.2.length)))
        (individual.getD sid []) := by
  induction entries generalizing individual with
  | nil => rfl
  | cons e entries ih =>
    have rest : ∀ e' ∈ entries, sid ∉ e'.2.map Prod.snd → ∀ row ∈ individual.getD sid [], sharesRoot e'.1 row = false :=
      fun e' listed => known e' (List.mem_cons_of_mem _ listed)
    rw [List.foldl_cons]
    by_cases small : e.2.length < groupMin
    · rw [if_pos small, ih rest, List.filter_cons_of_neg (by simpa using small)]
    · have joined : (joinMembers e.1 e.2.length e.2 individual).getD sid [] =
          joinGroup e.1 e.2.length (individual.getD sid []) := by
        rw [getD_joinMembers]
        split
        · rfl
        · rename_i away
          exact (joinGroup_eq_self (known e (List.mem_cons_self ..) away)).symm
      rw [if_neg small, ih, joined, List.filter_cons_of_pos (by simpa using small)]
      · rfl
      · intro e' listed away row held
        rw [joined] at held
        have unjoined : Unjoined (sharesRoot e'.1) := fun _ _ _ => rfl
        have column := map_joinGroup unjoined e.1 e.2.length (individual.getD sid [])
        have shared := List.mem_map_of_mem (f := sharesRoot e'.1) held
        rw [column] at shared
        rcases List.mem_map.mp shared with ⟨old, before, same⟩
        rw [← same]
        exact rest e' listed away old before

section
variable (committed : List Nat) (kept : Nat → List ActionRow)

/-- The pupils with a suggestion that goes back to a root. -/
def sharers (root : Nat) : List Nat := committed.filter (fun sid => (kept sid).any (sharesRoot root))

/-- How many suggestions go back to it. -/
def shareCount (root : Nat) : Nat := (committed.flatMap kept).countP (sharesRoot root)

variable {committed kept} {root : Nat}

theorem any_iff_countP (sid : Nat) : (kept sid).any (sharesRoot root) = true ↔ 0 < (kept sid).countP (sharesRoot root) := by
  rw [List.any_eq_true, List.countP_pos_iff]

theorem length_sharers_le : (sharers committed kept root).length ≤ shareCount committed kept root := by
  unfold sharers shareCount
  induction committed with
  | nil => exact Nat.le_refl _
  | cons sid committed ih =>
    have one : (kept sid).any (sharesRoot root) = true ↔ 0 < (kept sid).countP (sharesRoot root) := any_iff_countP sid
    rw [List.filter_cons, List.flatMap_cons, List.countP_append]
    split
    · rename_i shares
      have positive := one.mp shares
      rw [List.length_cons]
      omega
    · omega

theorem length_sharers_eq (single : ∀ sid ∈ committed, (kept sid).countP (sharesRoot root) ≤ 1) :
    (sharers committed kept root).length = shareCount committed kept root := by
  unfold sharers shareCount
  induction committed with
  | nil => rfl
  | cons sid committed ih =>
    have one : (kept sid).any (sharesRoot root) = true ↔ 0 < (kept sid).countP (sharesRoot root) := any_iff_countP sid
    have most := single sid (List.mem_cons_self ..)
    have rest := ih (fun other listed => single other (List.mem_cons_of_mem _ listed))
    rw [List.filter_cons, List.flatMap_cons, List.countP_append]
    split
    · rename_i shares
      have positive := one.mp shares
      rw [List.length_cons]
      omega
    · rename_i away
      have none_ : ¬ 0 < (kept sid).countP (sharesRoot root) := fun positive => away (one.mpr positive)
      omega

theorem length_sharers_lt {sid : Nat} (listed : sid ∈ committed) (twice : 1 < (kept sid).countP (sharesRoot root)) :
    (sharers committed kept root).length < shareCount committed kept root := by
  have ⟨before, after, split⟩ := List.append_of_mem listed
  have left : (sharers before kept root).length ≤ shareCount before kept root := length_sharers_le
  have right : (sharers after kept root).length ≤ shareCount after kept root := length_sharers_le
  have own : (sharers [sid] kept root).length ≤ 1 := List.length_filter_le ..
  have parts : (sharers committed kept root).length =
      (sharers before kept root).length + ((sharers [sid] kept root).length + (sharers after kept root).length) := by
    rw [split, ← List.singleton_append]
    simp only [sharers, List.filter_append, List.length_append]
  have counts : shareCount committed kept root =
      shareCount before kept root + ((kept sid).countP (sharesRoot root) + shareCount after kept root) := by
    rw [split]
    simp only [shareCount, List.flatMap_append, List.flatMap_cons, List.countP_append]
  omega

theorem findIdx_of_single {rows : List ActionRow} {row : ActionRow} {n : Nat} (at_ : rows[n]? = some row)
    (shares : sharesRoot root row = true) (single : rows.countP (sharesRoot root) ≤ 1) :
    rows.findIdx (sharesRoot root) = n := by
  induction rows generalizing n with
  | nil => cases at_
  | cons first rows ih =>
    rw [List.countP_cons] at single
    rw [List.findIdx_cons]
    cases n with
    | zero =>
      rw [List.getElem?_cons_zero] at at_
      rw [Option.some.inj at_, shares]
      rfl
    | succ n =>
      rw [List.getElem?_cons_succ] at at_
      have later : 0 < rows.countP (sharesRoot root) :=
        List.countP_pos_iff.mpr ⟨row, List.mem_of_getElem? at_, shares⟩
      cases own : sharesRoot root first with
      | true =>
        rw [own, if_pos rfl] at single
        omega
      | false =>
        rw [cond_false, ih at_ (by omega)]

end


variable {K : Type}

theorem Filed.marks {t : Table Intervention} {g : KpGraph K} {classId examId : Nat} {sourceReportId : Option Nat}
    {asOf now : DateTime} {row : ActionRow} {after : Intervention}
    (filed : Filed t g classId examId sourceReportId asOf now row after) :
    after.kind = row.kind ∧ after.scope = row.scope ∧ after.note = filedNote row := by
  rcases filed with ⟨r, _, _, _, _, rfl⟩ | ⟨_, n, rfl⟩
  · exact ⟨rfl, rfl, rfl⟩
  · exact ⟨rfl, rfl, rfl⟩

variable [Field K] [LinearOrder K] [FloorRing K]

/-- A root that some suggestion goes back to has its members gathered. -/
theorem exists_groupMembers {committed : List Nat} {individual : Dict Nat (List ActionRow)} {root : Nat}
    (shared : 0 < (committed.flatMap (fun sid => individual.getD sid [])).countP (sharesRoot root)) :
    ∃ members, (root, members) ∈ (groupMembers committed individual).entries := by
  rw [List.countP_flatMap] at shared
  have counts : ∀ sid, (individual.getD sid []).countP (sharesRoot root) =
      ((individual.getD sid []).filterMap (backfillRoot sid)).countP (fun m => decide (m.1 = root)) :=
    fun sid => (countP_backfillRoot root sid (individual.getD sid [])).symm
  refine ⟨_, (Dict.mem_entries_group _ _ _ _).mpr ⟨?_, rfl⟩⟩
  rw [← List.length_pos_iff, ← List.countP_eq_length_filter, List.countP_flatMap]
  have same : (List.countP (sharesRoot root) ∘ fun sid => individual.getD sid []) =
      (List.countP (fun m : Nat × Nat => decide (m.1 = root)) ∘
        fun sid => (individual.getD sid []).filterMap (backfillRoot sid)) := funext counts
  rw [same] at shared
  exact shared

section
variable (cfg : Config K) (db : Db K) (g : KpGraph K) (done : Dict (Nat × Nat × InterventionKind) Intervention)
  (classId examId : Nat) (asOf : DateTime) (eventsBySk : Option (Batch K))

/-- The roots that a run makes groups around, each with the number its groups are said to have. -/
def groupsMade : List (Nat × Nat) :=
  ((groupMembers (committedIds db examId) (Dict.ofList ((committedIds db examId).map (fun sid =>
      (sid, keptRows cfg db g done classId asOf eventsBySk sid))))).entries.filter
        (fun e => decide (cfg.actionGroupMin ≤ e.2.length))).map (fun e => (e.1, e.2.length))

theorem nodup_groupsMade : ((groupsMade cfg db g done classId examId asOf eventsBySk).map Prod.fst).Nodup := by
  unfold groupsMade
  rw [List.map_map]
  have keys := Dict.nodup (groupMembers (committedIds db examId) (Dict.ofList ((committedIds db examId).map
    (fun sid => (sid, keptRows cfg db g done classId asOf eventsBySk sid)))))
  exact List.Nodup.sublist (List.Sublist.map _ List.filter_sublist) keys

theorem groups_makePlan : (makePlan cfg db g done classId examId asOf eventsBySk).groups =
    (groupsMade cfg db g done classId examId asOf eventsBySk).length := by
  unfold groupsMade
  rw [List.length_map]
  rfl

theorem mem_groupsMade {root size : Nat} : (root, size) ∈ groupsMade cfg db g done classId examId asOf eventsBySk ↔
    0 < size ∧ cfg.actionGroupMin ≤ size ∧
      size = shareCount (committedIds db examId) (keptRows cfg db g done classId asOf eventsBySk) root := by
  have own : (committedIds db examId).flatMap (fun sid => (Dict.ofList ((committedIds db examId).map (fun sid =>
      (sid, keptRows cfg db g done classId asOf eventsBySk sid)))).getD sid []) =
        (committedIds db examId).flatMap (keptRows cfg db g done classId asOf eventsBySk) :=
    List.flatMap_congr (fun sid committed =>
      individual_getD cfg db g done classId examId asOf eventsBySk committed)
  unfold groupsMade shareCount
  rw [← own, List.mem_map]
  constructor
  · intro made
    have ⟨e, kept, same⟩ := made
    have ⟨entry, enough⟩ := List.mem_filter.mp kept
    have ⟨positive, counted⟩ := length_groupMembers entry
    cases same
    exact ⟨positive, of_decide_eq_true enough, counted⟩
  · intro wide
    have ⟨positive, enough, counted⟩ := wide
    have ⟨members, entry⟩ := exists_groupMembers (counted ▸ positive)
    have size' := (length_groupMembers entry).2
    refine ⟨(root, members), List.mem_filter.mpr ⟨entry, ?_⟩, Prod.ext rfl (size'.trans counted.symm)⟩
    rw [size', ← counted]
    exact decide_eq_true enough

/-- The suggestions to a pupil once the groups are made one after the other. -/
theorem getD_clustered {sid : Nat} (committed : sid ∈ committedIds db examId) :
    let individual := Dict.ofList ((committedIds db examId).map (fun sid =>
      (sid, keptRows cfg db g done classId asOf eventsBySk sid)))
    (clusterRows cfg.actionGroupMin (groupMembers (committedIds db examId) individual) individual).getD sid [] =
      joinAll (groupsMade cfg db g done classId examId asOf eventsBySk)
        (keptRows cfg db g done classId asOf eventsBySk sid) := by
  intro individual
  unfold clusterRows
  rw [getD_clusterRows]
  · rw [individual_getD cfg db g done classId examId asOf eventsBySk committed]
    rfl
  · intro e entry away row held
    rw [Bool.eq_false_iff]
    intro shares
    apply away
    have ⟨kind, source⟩ := sharesRoot_iff.mp shares
    have members := ((Dict.mem_entries_group _ _ _ _).mp entry).2
    rw [members]
    refine List.mem_map.mpr ⟨(e.1, sid), List.mem_filter.mpr ⟨?_, decide_eq_true rfl⟩, rfl⟩
    refine List.mem_flatMap.mpr ⟨sid, committed, List.mem_filterMap.mpr ⟨row, held, ?_⟩⟩
    rw [if_pos kind, source]
    rfl

theorem mem_makePlan_joined {sid : Nat} (committed : sid ∈ committedIds db examId) {row : ActionRow}
    (joined : row ∈ joinAll (groupsMade cfg db g done classId examId asOf eventsBySk)
      (keptRows cfg db g done classId asOf eventsBySk sid)) :
    row ∈ (makePlan cfg db g done classId examId asOf eventsBySk).rows := by
  apply List.mem_append_right
  refine List.mem_flatMap.mpr ⟨sid, committed, ?_⟩
  rw [getD_clustered cfg db g done classId examId asOf eventsBySk committed]
  exact joined

end

section
variable (cfg : Config K) (db : Db K) (g : KpGraph K) (classId examId : Nat) (asOf : DateTime)
  (sourceReportId : Option Nat) (now : DateTime) (eventsBySk : Option (Batch K))

/-- The suggestions that a run still has to make to a pupil. -/
def stillMade (sid : Nat) : List ActionRow :=
  if cfg.actionPlanEnable then
    keptRows cfg db g (keptDone db.interventions g classId) classId asOf eventsBySk sid
  else []

/-- So many pupils as make a group have a suggestion that goes back to the root. -/
def SharedRoot (root : Nat) : Prop :=
  0 < (sharers (committedIds db examId) (stillMade cfg db g classId asOf eventsBySk) root).length ∧
    cfg.actionGroupMin ≤ (sharers (committedIds db examId) (stillMade cfg db g classId asOf eventsBySk) root).length

/-- Every suggestion of a shared root is in the group of the root, which says how many pupils share it, and the others
    are in no group; the run reports one group for each of the shared roots. -/
structure GroupsExact : Prop where
  members : ∀ sid ∈ committedIds db examId, ∀ row ∈ stillMade cfg db g classId asOf eventsBySk sid,
    ∃ iv ∈ (generateInterventions cfg db g classId examId asOf sourceReportId now eventsBySk).1.rows,
      pendingIn g classId iv = true ∧ iv.key = (some sid, row.kpId) ∧
        (∀ root, sharesRoot root row = true → SharedRoot cfg db g classId examId asOf eventsBySk root →
          iv.scope = .group ∧
          iv.groupRef = some ("r" ++ toString (sourceReportId.getD 0) ++ ":" ++ toString root) ∧
          iv.note = some (groupNote (sharers (committedIds db examId)
            (stillMade cfg db g classId asOf eventsBySk) root).length)) ∧
        ((∀ root, sharesRoot root row = true → ¬ SharedRoot cfg db g classId examId asOf eventsBySk root) →
          iv.scope = .student ∧ iv.groupRef = none ∧ iv.note = row.note)
  counted : ∃ roots : List Nat, roots.Nodup ∧
    (∀ root, root ∈ roots ↔ SharedRoot cfg db g classId examId asOf eventsBySk root) ∧
      (generateInterventions cfg db g classId examId asOf sourceReportId now eventsBySk).2.groups = roots.length

/-- No pupil has two suggestions of a root that so many suggestions as make a group go back to. -/
def OneEach : Prop :=
  ∀ root, 0 < shareCount (committedIds db examId) (stillMade cfg db g classId asOf eventsBySk) root →
    cfg.actionGroupMin ≤ shareCount (committedIds db examId) (stillMade cfg db g classId asOf eventsBySk) root →
      ∀ sid ∈ committedIds db examId,
        (stillMade cfg db g classId asOf eventsBySk sid).countP (sharesRoot root) ≤ 1

variable {cfg db examId}

theorem groupsExact_idle (idle : cfg.actionPlanEnable = false ∨ committedIds db examId = []) :
    GroupsExact cfg db g classId examId asOf sourceReportId now eventsBySk where
  members := by
    intro sid committed row listed
    rcases idle with off | empty
    · rw [stillMade, off] at listed
      cases listed
    · rw [empty] at committed
      cases committed
  counted := by
    refine ⟨[], List.nodup_nil, ?_, ?_⟩
    · intro root
      refine ⟨nofun, ?_⟩
      intro shared
      have empty : sharers (committedIds db examId) (stillMade cfg db g classId asOf eventsBySk) root = [] := by
        rcases idle with off | none_
        · simp [sharers, stillMade, off]
        · simp [sharers, none_]
      rw [SharedRoot, empty] at shared
      exact absurd shared.1 (Nat.lt_irrefl 0)
    · rcases idle with off | none_
      · simp [generateInterventions, off]
      · simp [generateInterventions, none_]

theorem keptRows_studentId {done : Dict (Nat × Nat × InterventionKind) Intervention} {sid : Nat} {row : ActionRow}
    (listed : row ∈ keptRows cfg db g done classId asOf eventsBySk sid) : row.studentId = some sid := by
  have ⟨asked, made, keeps⟩ := List.mem_filterMap.mp listed
  exact (congrArg Prod.fst (keepRow_key keeps)).trans (studentActionRows_studentId made)

variable (enabled : cfg.actionPlanEnable = true) (submitted : committedIds db examId ≠ [])
include enabled

theorem stillMade_enabled : stillMade cfg db g classId asOf eventsBySk =
    keptRows cfg db g (keptDone db.interventions g classId) classId asOf eventsBySk := by
  funext sid
  rw [stillMade, if_pos enabled]

include submitted

theorem generate_groups : (generateInterventions cfg db g classId examId asOf sourceReportId now eventsBySk).2.groups =
    (groupsMade cfg db g (keptDone db.interventions g classId) classId examId asOf eventsBySk).length := by
  have kept : keptDone (mergeDuplicates (purge db.interventions g classId examId) g classId) g classId =
      keptDone db.interventions g classId :=
    keptDone_congr (mergeDuplicates_done.trans (purge_select isDone_settled))
  have nonempty : (committedIds db examId).isEmpty = false := List.isEmpty_eq_false_iff.mpr submitted
  rw [← groups_makePlan, ← kept]
  simp only [generateInterventions, enabled, nonempty, Bool.not_true, Bool.or_self, Bool.false_eq_true, ↓reduceIte]

/-- How a planned suggestion stands after the run. -/
theorem generate_filed {row : ActionRow}
    (listed : row ∈ (makePlan cfg db g (keptDone db.interventions g classId) classId examId asOf eventsBySk).rows) :
    ∃ iv ∈ (generateInterventions cfg db g classId examId asOf sourceReportId now eventsBySk).1.rows,
      Filed (purge db.interventions g classId examId) g classId examId sourceReportId asOf now row iv := by
  rw [generate_eq cfg db g classId examId asOf eventsBySk sourceReportId now enabled submitted]
  have planned := makePlan_planned cfg db g classId examId asOf eventsBySk (keptDone db.interventions g classId)
  exact applyPlan_planned (purge db.interventions g classId examId) g classId examId sourceReportId asOf now
    planned.distinct listed (planned.asked row listed)

/-- The open suggestions of the exam after the run are those of the plan. -/
theorem filed_of_exam {iv : Intervention}
    (stored : iv ∈ (generateInterventions cfg db g classId examId asOf sourceReportId now eventsBySk).1.rows)
    (pending : pendingIn g classId iv = true) (own : iv.examId = examId) :
    ∃ row ∈ (makePlan cfg db g (keptDone db.interventions g classId) classId examId asOf eventsBySk).rows,
      Filed (purge db.interventions g classId examId) g classId examId sourceReportId asOf now row iv := by
  rw [generate_eq cfg db g classId examId asOf eventsBySk sourceReportId now enabled submitted] at stored
  have planned := makePlan_planned cfg db g classId examId asOf eventsBySk (keptDone db.interventions g classId)
  rcases applyPlan_open planned.distinct stored pending with kept | filed
  · exact absurd ⟨own, pending⟩ (mem_purge.mp kept.1).2
  · exact filed

/-- How a planned suggestion to a pupil stands after the run. -/
theorem generate_planned {row : ActionRow}
    (listed : row ∈ (makePlan cfg db g (keptDone db.interventions g classId) classId examId asOf eventsBySk).rows) :
    ∃ iv ∈ (generateInterventions cfg db g classId examId asOf sourceReportId now eventsBySk).1.rows,
      pendingIn g classId iv = true ∧ iv.key = row.key ∧ iv.scope = row.scope ∧
        iv.groupRef = groupRef sourceReportId row ∧ iv.note = filedNote row := by
  have ⟨iv, stored, filed⟩ := generate_filed g classId asOf sourceReportId now eventsBySk enabled submitted listed
  have planned := makePlan_planned cfg db g classId examId asOf eventsBySk (keptDone db.interventions g classId)
  have ⟨pending, key, _⟩ := filed.frame (planned.inside row listed)
  exact ⟨iv, stored, pending, key, filed.marks.2.1, filed.label, filed.marks.2.2⟩

theorem generate_unique {a b : Intervention}
    (left : a ∈ (generateInterventions cfg db g classId examId asOf sourceReportId now eventsBySk).1.rows)
    (right : b ∈ (generateInterventions cfg db g classId examId asOf sourceReportId now eventsBySk).1.rows)
    (pendingA : pendingIn g classId a = true) (pendingB : pendingIn g classId b = true) (same : a.key = b.key) :
    a = b := by
  rw [generate_eq cfg db g classId examId asOf eventsBySk sourceReportId now enabled submitted] at left right
  have planned := makePlan_planned cfg db g classId examId asOf eventsBySk (keptDone db.interventions g classId)
  have ⟨classA, inside, openA⟩ := pendingIn_iff.mp pendingA
  have ⟨classB, _, openB⟩ := pendingIn_iff.mp pendingB
  exact applyPlan_unique planned.distinct left right classA classB inside openA openB same

omit submitted in
theorem made_of_sharedRoot {root : Nat} (shared : SharedRoot cfg db g classId examId asOf eventsBySk root) :
    (root, shareCount (committedIds db examId) (stillMade cfg db g classId asOf eventsBySk) root) ∈
      groupsMade cfg db g (keptDone db.interventions g classId) classId examId asOf eventsBySk := by
  have most : (sharers (committedIds db examId) (stillMade cfg db g classId asOf eventsBySk) root).length ≤
      shareCount (committedIds db examId) (stillMade cfg db g classId asOf eventsBySk) root := length_sharers_le
  rw [mem_groupsMade, ← stillMade_enabled g classId asOf eventsBySk enabled]
  have ⟨positive, enough⟩ := shared
  exact ⟨Nat.lt_of_lt_of_le positive most, Nat.le_trans enough most, rfl⟩

omit submitted in
theorem sharedRoot_of_made (each : OneEach cfg db g classId examId asOf eventsBySk) {root size : Nat}
    (made : (root, size) ∈ groupsMade cfg db g (keptDone db.interventions g classId) classId examId asOf eventsBySk) :
    SharedRoot cfg db g classId examId asOf eventsBySk root ∧
      size = (sharers (committedIds db examId) (stillMade cfg db g classId asOf eventsBySk) root).length := by
  rw [mem_groupsMade, ← stillMade_enabled g classId asOf eventsBySk enabled] at made
  have ⟨positive, enough, counted⟩ := made
  have pupils := length_sharers_eq (each root (counted ▸ positive) (counted ▸ enough))
  unfold SharedRoot
  rw [pupils, ← counted]
  exact ⟨⟨positive, enough⟩, rfl⟩

/-- The first suggestion of a root with a group is put in it. -/
theorem first_joined {sid : Nat} (committed : sid ∈ committedIds db examId) {root size : Nat}
    (made : (root, size) ∈ groupsMade cfg db g (keptDone db.interventions g classId) classId examId asOf eventsBySk)
    {row : ActionRow} (first : (stillMade cfg db g classId asOf eventsBySk sid)[
      (stillMade cfg db g classId asOf eventsBySk sid).findIdx (sharesRoot root)]? = some row) :
    ∃ iv ∈ (generateInterventions cfg db g classId examId asOf sourceReportId now eventsBySk).1.rows,
      pendingIn g classId iv = true ∧ iv.key = (some sid, row.kpId) ∧ iv.scope = .group ∧
        iv.groupRef = some ("r" ++ toString (sourceReportId.getD 0) ++ ":" ++ toString root) ∧
          iv.note = some (groupNote size) := by
  have inside := (List.getElem?_eq_some_iff.mp first).1
  have source : row.rootKpId = some root := by
    have shares := List.findIdx_getElem (w := inside)
    rw [(List.getElem?_eq_some_iff.mp first).2] at shares
    exact (sharesRoot_iff.mp shares).2
  have joined := getElem?_joinAll_first (nodup_groupsMade ..) made inside
  rw [first] at joined
  have listed := List.mem_of_getElem? first
  rw [stillMade_enabled g classId asOf eventsBySk enabled] at joined listed
  have owner := keptRows_studentId g classId asOf eventsBySk listed
  have ⟨iv, stored, pending, named, scope, label, note⟩ := generate_planned g classId asOf sourceReportId now
    eventsBySk enabled submitted (mem_makePlan_joined cfg db g _ classId examId asOf eventsBySk committed
      (List.mem_of_getElem? joined))
  refine ⟨iv, stored, pending, named.trans (Prod.ext owner rfl), scope, ?_, ?_⟩
  · rw [label]
    simp [groupRef, ActionRow.join, source]
  · rw [note]
    simp [filedNote, ActionRow.join, owner]

/-- A suggestion that is the first of no root with a group is filed as it is. -/
theorem other_alone {sid : Nat} (committed : sid ∈ committedIds db examId) {n : Nat} {row : ActionRow}
    (here : (stillMade cfg db g classId asOf eventsBySk sid)[n]? = some row)
    (apart : ∀ e ∈ groupsMade cfg db g (keptDone db.interventions g classId) classId examId asOf eventsBySk,
      (stillMade cfg db g classId asOf eventsBySk sid).findIdx (sharesRoot e.1) ≠ n) :
    ∃ iv ∈ (generateInterventions cfg db g classId examId asOf sourceReportId now eventsBySk).1.rows,
      pendingIn g classId iv = true ∧ iv.key = (some sid, row.kpId) ∧ iv.scope = .student ∧
        iv.groupRef = none ∧ iv.note = row.note := by
  have alone := getElem?_joinAll_other apart
  have listed := List.mem_of_getElem? here
  rw [here] at alone
  rw [stillMade_enabled g classId asOf eventsBySk enabled] at alone listed
  have owner := keptRows_studentId g classId asOf eventsBySk listed
  have single := keptRows_scope cfg db g classId listed
  have ⟨iv, stored, pending, named, scope, label, note⟩ := generate_planned g classId asOf sourceReportId now
    eventsBySk enabled submitted (mem_makePlan_joined cfg db g _ classId examId asOf eventsBySk committed
      (List.mem_of_getElem? alone))
  refine ⟨iv, stored, pending, named.trans (Prod.ext owner rfl), scope.trans single, ?_, ?_⟩
  · rw [label]
    simp [groupRef, single]
  · rw [note]
    simp [filedNote, owner]

theorem groupsExact_of_oneEach (each : OneEach cfg db g classId examId asOf eventsBySk) :
    GroupsExact cfg db g classId examId asOf sourceReportId now eventsBySk where
  members := by
    intro sid committed row listed
    have ⟨n, here⟩ := List.mem_iff_getElem?.mp listed
    by_cases grouped : ∃ root size, sharesRoot root row = true ∧
        (root, size) ∈ groupsMade cfg db g (keptDone db.interventions g classId) classId examId asOf eventsBySk
    · have ⟨root, size, shares, made⟩ := grouped
      have ⟨shared, pupils⟩ := sharedRoot_of_made g classId asOf eventsBySk enabled each made
      have most : (sharers (committedIds db examId) (stillMade cfg db g classId asOf eventsBySk) root).length ≤
          shareCount (committedIds db examId) (stillMade cfg db g classId asOf eventsBySk) root := length_sharers_le
      have single := each root (Nat.lt_of_lt_of_le shared.1 most) (Nat.le_trans shared.2 most) sid committed
      have first := findIdx_of_single here shares single
      rw [← first] at here
      have ⟨iv, stored, pending, key, scope, label, note⟩ := first_joined g classId asOf sourceReportId now eventsBySk
        enabled submitted committed made here
      refine ⟨iv, stored, pending, key, ?_, fun unshared => absurd shared (unshared root shares)⟩
      intro other sharesOther _
      have same : root = other :=
        Option.some.inj ((sharesRoot_iff.mp shares).2.symm.trans (sharesRoot_iff.mp sharesOther).2)
      subst same
      exact ⟨scope, label, pupils ▸ note⟩
    · have apart : ∀ e ∈ groupsMade cfg db g (keptDone db.interventions g classId) classId examId asOf eventsBySk,
          (stillMade cfg db g classId asOf eventsBySk sid).findIdx (sharesRoot e.1) ≠ n := by
        intro e made first
        have ⟨inside, same⟩ := List.getElem?_eq_some_iff.mp here
        have shares := List.findIdx_getElem (w := by rw [first]; exact inside)
        simp only [first, same] at shares
        exact grouped ⟨e.1, e.2, shares, made⟩
      have ⟨iv, stored, pending, key, alone⟩ := other_alone g classId asOf sourceReportId now eventsBySk enabled
        submitted committed here apart
      refine ⟨iv, stored, pending, key, ?_, fun _ => alone⟩
      intro root shares shared
      exact absurd ⟨root, _, shares, made_of_sharedRoot g classId asOf eventsBySk enabled shared⟩ grouped
  counted := by
    refine ⟨_, nodup_groupsMade cfg db g (keptDone db.interventions g classId) classId examId asOf eventsBySk, ?_, ?_⟩
    · intro root
      constructor
      · intro listed
        have ⟨e, made, same⟩ := List.mem_map.mp listed
        subst same
        exact (sharedRoot_of_made g classId asOf eventsBySk enabled each made).1
      · intro shared
        exact List.mem_map.mpr ⟨_, made_of_sharedRoot g classId asOf eventsBySk enabled shared, rfl⟩
    · rw [List.length_map]
      exact generate_groups g classId asOf sourceReportId now eventsBySk enabled submitted

theorem oneEach_of_groupsExact (exact_ : GroupsExact cfg db g classId examId asOf sourceReportId now eventsBySk) :
    OneEach cfg db g classId examId asOf eventsBySk := by
  intro root positive enough sid committed
  by_contra more
  have fewer := length_sharers_lt committed (Nat.lt_of_not_le more)
  have inside : (stillMade cfg db g classId asOf eventsBySk sid).findIdx (sharesRoot root) <
      (stillMade cfg db g classId asOf eventsBySk sid).length := by
    have some_ : 0 < (stillMade cfg db g classId asOf eventsBySk sid).countP (sharesRoot root) := by omega
    exact List.findIdx_lt_length.mpr (List.countP_pos_iff.mp some_)
  have shares := List.findIdx_getElem (w := inside)
  have made : (root, shareCount (committedIds db examId) (stillMade cfg db g classId asOf eventsBySk) root) ∈
      groupsMade cfg db g (keptDone db.interventions g classId) classId examId asOf eventsBySk := by
    rw [mem_groupsMade, ← stillMade_enabled g classId asOf eventsBySk enabled]
    exact ⟨positive, enough, rfl⟩
  have ⟨iv, stored, pending, key, scope, _, note⟩ := first_joined g classId asOf sourceReportId now eventsBySk
    enabled submitted committed made (List.getElem?_eq_getElem inside)
  have ⟨other, storedOther, pendingOther, keyOther, inGroup, outside⟩ :=
    exact_.members sid committed _ (List.getElem_mem inside)
  have same := generate_unique g classId asOf sourceReportId now eventsBySk enabled submitted storedOther stored
    pendingOther pending (keyOther.trans key.symm)
  subst same
  by_cases shared : SharedRoot cfg db g classId examId asOf eventsBySk root
  · have pupils := (inGroup root shares shared).2.2
    rw [note] at pupils
    have counts := toString_injective ((String.append_left_inj _).mp (Option.some.inj pupils))
    omega
  · have unshared : ∀ other', sharesRoot other' ((stillMade cfg db g classId asOf eventsBySk sid)[
        (stillMade cfg db g classId asOf eventsBySk sid).findIdx (sharesRoot root)]) = true →
          ¬ SharedRoot cfg db g classId examId asOf eventsBySk other' := by
      intro other' sharesOther
      have again : root = other' :=
        Option.some.inj ((sharesRoot_iff.mp shares).2.symm.trans (sharesRoot_iff.mp sharesOther).2)
      exact again ▸ shared
    have single := (outside unshared).1
    rw [scope] at single
    cases single

end

/-- The groups are those of the shared roots exactly when each pupil has one suggestion of a root with a group: the
    members are counted, and put in the group, a suggestion at a time, and of one pupil's only the first is found. -/
theorem groups_exact_iff (cfg : Config K) (db : Db K) (g : KpGraph K) (classId examId : Nat) (asOf : DateTime)
    (sourceReportId : Option Nat) (now : DateTime) (eventsBySk : Option (Batch K)) :
    GroupsExact cfg db g classId examId asOf sourceReportId now eventsBySk ↔
      OneEach cfg db g classId examId asOf eventsBySk := by
  by_cases idle : cfg.actionPlanEnable = false ∨ committedIds db examId = []
  · refine iff_of_true (groupsExact_idle g classId asOf sourceReportId now eventsBySk idle) ?_
    intro root positive _ sid committed
    rcases idle with off | empty
    · simp [stillMade, off]
    · rw [empty] at committed
      cases committed
  · rw [not_or, Bool.not_eq_false] at idle
    exact ⟨oneEach_of_groupsExact g classId asOf sourceReportId now eventsBySk idle.1 idle.2,
      groupsExact_of_oneEach g classId asOf sourceReportId now eventsBySk idle.1 idle.2⟩

/-- Points 9 and 10 both rest on point 8. -/
def forkedGraph : KpGraph ℚ where
  points := [linkedPoint 8 "N1" "有理数", linkedPoint 9 "N2" "方程", linkedPoint 10 "N3" "不等式"]
  prereq k := if k = 9 ∨ k = 10 then [(8, 1)] else []
  succ k := if k = 8 then [(9, 1), (10, 1)] else []
  confusable _ := []
  nodup := by decide
  prereq_closed := by
    intro k e listed
    split at listed
    · rw [List.mem_singleton.mp listed]
      decide
    · cases listed
  succ_closed := by
    intro k e listed
    split at listed
    · have either : e = (9, 1) ∨ e = (10, 1) := by simpa using listed
      rcases either with first | second
      · rw [first]
        decide
      · rw [second]
        decide
    · cases listed
  confusable_closed := nofun

/-- Two pupils sit an exam with three questions on each point: the one fails all of them, the other masters point 10. -/
def forkedDb : Db ℚ :=
  { Db.empty ℚ with
    classes := .ofList [⟨1, 7⟩]
    students := .ofList [⟨1, 1, "甲"⟩, ⟨2, 1, "乙"⟩]
    progress := .ofList [⟨1, 1, 8, 0⟩, ⟨2, 1, 9, 0⟩, ⟨3, 1, 10, 0⟩]
    templates := .ofList [examOn 4 0]
    questions := .ofList ((List.range 9).map (fun n =>
      ⟨n + 1, 4, (n + 1 : Nat), "", .other "解答", 5, .apply, 1 / 2, none⟩))
    questionKps := .ofList ((List.range 9).map (fun n => ⟨n + 1, n + 1, 8 + n % 3, 1⟩))
    responses := .ofList [⟨1, 4, 1, 0, .submitted⟩, ⟨2, 4, 2, 0, .submitted⟩]
    answers := .ofList ((List.range 18).map (fun n =>
      ⟨n + 1, n / 9 + 1, n % 9 + 1, if n / 9 = 1 ∧ n % 3 = 2 then 5 else 0, false⟩))
    events := .ofList ((List.range 18).map (fun n =>
      { id := n + 1, studentId := n / 9 + 1, kpId := 8 + n % 3, responseAnswerId := n + 1, sourceType := .unit,
        value := if n / 9 = 1 ∧ n % 3 = 2 then 1 else 0, weight := 1, cogLevel := .apply, classAvgRate := none,
        occurredAt := noon 0 })) }

/-- Three suggestions to two pupils make a group of three, and the second suggestion of the one pupil is left out. -/
theorem two_pupils_counted_three :
    (generateInterventions Config.rational forkedDb forkedGraph 1 4 (noon 1) none (noon 1) none).1.rows.map
        (fun r => (r.studentId, r.kpId, r.scope, r.groupRef, r.note)) =
      [(some 1, 9, .group, some "r0:8", some "3 人同根源薄弱，建议小组补学"), (some 1, 10, .student, none, none),
        (some 2, 9, .group, some "r0:8", some "3 人同根源薄弱，建议小组补学")] ∧
      Config.rational.actionGroupMin = 3 ∧
      sharers (committedIds forkedDb 4) (stillMade Config.rational forkedDb forkedGraph 1 (noon 1) none) 8 = [1, 2] ∧
      ¬ GroupsExact Config.rational forkedDb forkedGraph 1 4 (noon 1) none (noon 1) none := by
  refine ⟨by decide +kernel, rfl, by decide +kernel, ?_⟩
  intro exact_
  have each := oneEach_of_groupsExact forkedGraph 1 (noon 1) none (noon 1) none rfl (by decide) exact_ 8
    (by decide +kernel) (by decide +kernel) 1 (by decide)
  have twice : ¬ (stillMade Config.rational forkedDb forkedGraph 1 (noon 1) none 1).countP (sharesRoot 8) ≤ 1 := by
    decide +kernel
  exact twice each

end KnowledgeGap
