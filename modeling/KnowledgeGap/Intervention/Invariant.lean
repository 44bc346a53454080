import KnowledgeGap.Intervention.Writes
import Mathlib.Data.List.Dedup

namespace KnowledgeGap

open Relational

def Unjoined {α : Type} (column : ActionRow → α) : Prop :=
  ∀ row scope note, column { row with scope := scope, note := note } = column row

theorem map_joinGroup {α : Type} {column : ActionRow → α} (unjoined : Unjoined column) (root size : Nat)
    (rows : List ActionRow) : (joinGroup root size rows).map column = rows.map column := by
  unfold joinGroup
  generalize rows.findIdx (sharesRoot root) = n
  induction rows generalizing n with
  | nil => cases n <;> rfl
  | cons row rows ih =>
    cases n with
    | zero => simp [unjoined row .group (some (groupNote size))]
    | succ n => simpa using ih n

theorem map_joinMembers {α : Type} {column : ActionRow → α} (unjoined : Unjoined column) (root size : Nat)
    (members : List (Nat × Nat)) (individual : Dict Nat (List ActionRow)) (sid : Nat) :
    ((joinMembers root size members individual).getD sid []).map column =
      (individual.getD sid []).map column := by
  unfold joinMembers
  induction members generalizing individual with
  | nil => rfl
  | cons m members ih =>
    rw [List.foldl_cons, ih, Dict.getD_set]
    split
    · rename_i same
      rw [map_joinGroup unjoined, same]
    · rfl

theorem map_clusterRows {α : Type} {column : ActionRow → α} (unjoined : Unjoined column) (groupMin : Nat)
    (groups : Dict Nat (List (Nat × Nat))) (individual : Dict Nat (List ActionRow)) (sid : Nat) :
    ((clusterRows groupMin groups individual).getD sid []).map column =
      (individual.getD sid []).map column := by
  unfold clusterRows
  induction groups.entries generalizing individual with
  | nil => rfl
  | cons e entries ih =>
    rw [List.foldl_cons, ih]
    split
    · rfl
    · exact map_joinMembers unjoined _ _ _ _ sid

variable {K : Type}

theorem keepRow_key {db : Db K} {done : Dict (Nat × Nat × InterventionKind) Intervention}
    {asOf : DateTime} {studentId : Nat} {row kept : ActionRow}
    (keeps : keepRow db done asOf studentId row = some kept) : kept.key = row.key := by
  unfold keepRow at keeps
  split at keeps
  · cases keeps
    rfl
  · split at keeps
    · cases keeps
      rfl
    · cases keeps

theorem nodup_committedIds (db : Db K) (examId : Nat) : (committedIds db examId).Nodup :=
  (perm_stableSort _ _).nodup_iff.mpr (List.nodup_dedup _)

theorem mem_committedIds {db : Db K} {examId sid : Nat} :
    sid ∈ committedIds db examId ↔
      ∃ r ∈ db.responses.rows, r.examTemplateId = examId ∧ r.status = .submitted ∧ r.studentId = sid := by
  simp [committedIds, Table.select, and_assoc]

section
variable [Field K] [LinearOrder K] [FloorRing K]

theorem keptRows_keys (cfg : Config K) (db : Db K) (g : KpGraph K)
    (done : Dict (Nat × Nat × InterventionKind) Intervention) (classId : Nat) (asOf : DateTime)
    (eventsBySk : Option (Batch K)) (sid : Nat) :
    ((keptRows cfg db g done classId asOf eventsBySk sid).map ActionRow.key).Sublist
      ((g.gradeKpIds (classGrade db classId)).map (fun k => (some sid, k))) := by
  have kept : ((keptRows cfg db g done classId asOf eventsBySk sid).map ActionRow.key).Sublist
      ((studentActionRows cfg db g sid classId asOf eventsBySk).map ActionRow.key) := by
    unfold keptRows
    induction studentActionRows cfg db g sid classId asOf eventsBySk with
    | nil => exact List.Sublist.refl _
    | cons row rows ih =>
      rw [List.filterMap_cons, List.map_cons]
      split
      · exact List.Sublist.cons _ ih
      · rename_i _ keeps
        rw [List.map_cons, keepRow_key keeps]
        exact List.Sublist.cons_cons _ ih
  have named : (studentActionRows cfg db g sid classId asOf eventsBySk).map ActionRow.key =
      ((studentActionRows cfg db g sid classId asOf eventsBySk).map ActionRow.kpId).map
        (fun k => (some sid, k)) := by
    rw [List.map_map]
    apply List.map_congr_left
    intro row listed
    simp only [ActionRow.key, Function.comp_apply, studentActionRows_studentId listed]
  rw [named] at kept
  exact kept.trans ((studentActionRows_kpIds cfg db g sid classId asOf eventsBySk).map _)

theorem individual_getD (cfg : Config K) (db : Db K) (g : KpGraph K)
    (done : Dict (Nat × Nat × InterventionKind) Intervention) (classId examId : Nat) (asOf : DateTime)
    (eventsBySk : Option (Batch K)) {sid : Nat} (committed : sid ∈ committedIds db examId) :
    (Dict.ofList ((committedIds db examId).map (fun sid =>
      (sid, keptRows cfg db g done classId asOf eventsBySk sid)))).getD sid [] =
        keptRows cfg db g done classId asOf eventsBySk sid := by
  rw [Dict.getD, Dict.get?_tabulate, if_pos committed]
  rfl

omit [FloorRing K] in
theorem classRow_key {nAssessed : Dict Nat Nat} {e : Nat × Nat} {row : ActionRow}
    (made : classRow (K := K) nAssessed e = some row) : row.key = (none, e.1) := by
  unfold classRow at made
  dsimp only at made
  split at made
  · cases made
    rfl
  · cases made

omit [FloorRing K] in
theorem classRows_keys (nAssessed : Dict Nat Nat) (entries : List (Nat × Nat)) :
    ((entries.filterMap (classRow (K := K) nAssessed)).map ActionRow.key).Sublist
      ((entries.map Prod.fst).map (fun k => ((none : Option Nat), k))) := by
  induction entries with
  | nil => exact List.Sublist.refl _
  | cons e entries ih =>
    rw [List.filterMap_cons, List.map_cons, List.map_cons]
    split
    · exact List.Sublist.cons _ ih
    · rename_i row made
      rw [List.map_cons, classRow_key made]
      exact List.Sublist.cons_cons _ ih

def judged (cfg : Config K) (db : Db K) (g : KpGraph K) (classId examId : Nat) (asOf : DateTime)
    (eventsBySk : Option (Batch K)) : List (KpAssessment K) :=
  (committedIds db examId).flatMap (fun sid =>
    (assessStudentKps cfg db g sid classId asOf eventsBySk).filter KpAssessment.valid)

/-- Enough of the students judged on a point are weak there for it to be taught to the class again. -/
def CommonNeed (assessed : List (KpAssessment K)) (kpId : Nat) : Prop :=
  let n := assessed.countP (fun a => decide (a.kpId = kpId))
  let weak := (assessed.filter KpAssessment.isWeak).countP (fun a => decide (a.kpId = kpId))
  0 < weak ∧ 4 ≤ n ∧ classCommonWeakRatio K ≤ (weak : K) / n

omit [FloorRing K] in
theorem mem_classRows_key (assessed : List (KpAssessment K)) (kpId : Nat) :
    (none, kpId) ∈ ((stableSort byKpCount (Dict.count KpAssessment.kpId
        (assessed.filter KpAssessment.isWeak)).entries).filterMap
          (classRow (K := K) (Dict.count KpAssessment.kpId assessed))).map ActionRow.key ↔
      CommonNeed assessed kpId := by
  rw [List.mem_map]
  constructor
  · intro held
    obtain ⟨row, listed, key⟩ := held
    obtain ⟨⟨k, weak⟩, entry, made⟩ := List.mem_filterMap.mp listed
    have same : k = kpId := congrArg Prod.snd ((classRow_key made).symm.trans key)
    subst same
    obtain ⟨positive, counted⟩ := (Dict.mem_entries_count _ _ _ _).mp
      ((perm_stableSort byKpCount _).mem_iff.mp entry)
    unfold classRow at made
    dsimp only at made
    rw [Dict.getD_count, counted] at made
    split at made
    · rename_i common
      exact ⟨counted ▸ positive, common.1, common.2⟩
    · cases made
  · intro common
    obtain ⟨positive, enough, ratio⟩ := common
    have entry := (Dict.mem_entries_count KpAssessment.kpId (assessed.filter KpAssessment.isWeak) kpId
      _).mpr ⟨positive, rfl⟩
    obtain ⟨row, made⟩ : ∃ row, classRow (K := K) (Dict.count KpAssessment.kpId assessed)
        (kpId, (assessed.filter KpAssessment.isWeak).countP (fun a => decide (a.kpId = kpId))) = some row := by
      unfold classRow
      dsimp only
      rw [Dict.getD_count, if_pos ⟨enough, ratio⟩]
      exact ⟨_, rfl⟩
    exact ⟨row, List.mem_filterMap.mpr ⟨_, (perm_stableSort byKpCount _).mem_iff.mpr entry, made⟩,
      classRow_key made⟩

theorem makePlan_keys (cfg : Config K) (db : Db K) (g : KpGraph K)
    (done : Dict (Nat × Nat × InterventionKind) Intervention) (classId examId : Nat) (asOf : DateTime)
    (eventsBySk : Option (Batch K)) :
    ∃ classKps : List Nat, classKps.Nodup ∧
      (∀ k, k ∈ classKps ↔ CommonNeed (judged cfg db g classId examId asOf eventsBySk) k) ∧
      (makePlan cfg db g done classId examId asOf eventsBySk).rows.map ActionRow.key =
        classKps.map (fun k => ((none : Option Nat), k)) ++
          (committedIds db examId).flatMap (fun sid =>
            (keptRows cfg db g done classId asOf eventsBySk sid).map ActionRow.key) := by
  unfold makePlan
  dsimp only
  rw [List.map_append, List.map_flatMap]
  have chosen := mem_classRows_key (judged cfg db g classId examId asOf eventsBySk)
  unfold judged at chosen ⊢
  generalize (committedIds db examId).flatMap (fun sid =>
    (assessStudentKps cfg db g sid classId asOf eventsBySk).filter KpAssessment.valid) = assessed at chosen ⊢
  generalize Dict.count KpAssessment.kpId (assessed.filter KpAssessment.isWeak) = weakCount at chosen ⊢
  have rows := classRows_keys (K := K) (Dict.count KpAssessment.kpId assessed)
    (stableSort byKpCount weakCount.entries)
  obtain ⟨classKps, within, named⟩ := List.sublist_map_iff.mp rows
  refine ⟨classKps, ?_, ?_, ?_⟩
  · have entries := (perm_stableSort byKpCount weakCount.entries).map Prod.fst
    exact within.nodup (entries.nodup_iff.mpr weakCount.nodup)
  · intro k
    rw [← chosen k, named]
    simp
  · rw [named]
    congr 1
    apply List.flatMap_congr
    intro sid committed
    rw [map_clusterRows (fun _ _ _ => rfl), individual_getD cfg db g done classId examId asOf eventsBySk committed]

theorem makePlan_own {cfg : Config K} {db : Db K} {g : KpGraph K}
    {done : Dict (Nat × Nat × InterventionKind) Intervention} {classId examId : Nat} {asOf : DateTime}
    {eventsBySk : Option (Batch K)} {row : ActionRow} {sid : Nat}
    (listed : row ∈ (makePlan cfg db g done classId examId asOf eventsBySk).rows)
    (owner : row.studentId = some sid) :
    ∃ kept ∈ keptRows cfg db g done classId asOf eventsBySk sid, kept.kpId = row.kpId ∧
      kept.kind = row.kind := by
  unfold makePlan at listed
  dsimp only at listed
  rcases List.mem_append.mp listed with shared | own
  · obtain ⟨e, _, made⟩ := List.mem_filterMap.mp shared
    have unowned : row.studentId = none := congrArg Prod.fst (classRow_key made)
    rw [owner] at unowned
    cases unowned
  · obtain ⟨other, committed, mine⟩ := List.mem_flatMap.mp own
    have column := List.mem_map_of_mem (f := fun r : ActionRow => (r.studentId, r.kpId, r.kind)) mine
    rw [map_clusterRows (fun _ _ _ => rfl),
      individual_getD cfg db g done classId examId asOf eventsBySk committed] at column
    obtain ⟨kept, inside, same⟩ := List.mem_map.mp column
    have student : kept.studentId = row.studentId := congrArg Prod.fst same
    obtain ⟨asked, listedAsked, keeps⟩ := List.mem_filterMap.mp inside
    have named : kept.studentId = some other :=
      (congrArg Prod.fst (keepRow_key keeps)).trans (studentActionRows_studentId listedAsked)
    have equal : other = sid := Option.some.inj (named.symm.trans (student.trans owner))
    subst equal
    exact ⟨kept, inside, congrArg (fun c => c.2.1) same, congrArg (fun c => c.2.2) same⟩

theorem commonNeed_inside {cfg : Config K} {db : Db K} {g : KpGraph K} {classId examId : Nat}
    {asOf : DateTime} {eventsBySk : Option (Batch K)} {kpId : Nat}
    (common : CommonNeed (judged cfg db g classId examId asOf eventsBySk) kpId) : kpId ∈ g.kpIds := by
  obtain ⟨a, weak, same⟩ := List.countP_pos_iff.mp common.1
  obtain ⟨sid, _, valid⟩ := List.mem_flatMap.mp (List.mem_of_mem_filter weak)
  have point : a.kpId = kpId := by simpa using same
  exact point ▸ KpGraph.mem_kpIds_of_mem_gradeKpIds (mem_assessStudentKps (List.mem_of_mem_filter valid))

theorem makePlan_distinct (cfg : Config K) (db : Db K) (g : KpGraph K)
    (done : Dict (Nat × Nat × InterventionKind) Intervention) (classId examId : Nat) (asOf : DateTime)
    (eventsBySk : Option (Batch K)) :
    ((makePlan cfg db g done classId examId asOf eventsBySk).rows.map ActionRow.key).Nodup := by
  obtain ⟨classKps, distinct, _, keys⟩ := makePlan_keys cfg db g done classId examId asOf eventsBySk
  have owned : ∀ sid, ∀ key ∈ (keptRows cfg db g done classId asOf eventsBySk sid).map ActionRow.key,
      key.1 = some sid := by
    intro sid key member
    obtain ⟨k, _, rfl⟩ := List.mem_map.mp
      ((keptRows_keys cfg db g done classId asOf eventsBySk sid).subset member)
    rfl
  rw [keys, List.nodup_append]
  refine ⟨distinct.map (fun a b same => congrArg Prod.snd same), ?_, ?_⟩
  · rw [List.nodup_flatMap]
    refine ⟨?_, ?_⟩
    · intro sid _
      apply (keptRows_keys cfg db g done classId asOf eventsBySk sid).nodup
      exact (g.nodup_gradeKpIds _).map (fun a b same => congrArg Prod.snd same)
    · apply (nodup_committedIds db examId).imp
      intro first second apart key left right
      have same := (owned first key left).symm.trans (owned second key right)
      exact apart (Option.some.inj same)
  · intro a left b right same
    obtain ⟨k, _, rfl⟩ := List.mem_map.mp left
    obtain ⟨sid, _, mine⟩ := List.mem_flatMap.mp right
    have student := owned sid b mine
    rw [← same] at student
    cases student

theorem makePlan_inside {cfg : Config K} {db : Db K} {g : KpGraph K}
    {done : Dict (Nat × Nat × InterventionKind) Intervention} {classId examId : Nat} {asOf : DateTime}
    {eventsBySk : Option (Batch K)} {row : ActionRow}
    (listed : row ∈ (makePlan cfg db g done classId examId asOf eventsBySk).rows) :
    row.kpId ∈ g.kpIds ∧ ∀ sid, row.studentId = some sid → sid ∈ committedIds db examId := by
  obtain ⟨classKps, _, common, keys⟩ := makePlan_keys cfg db g done classId examId asOf eventsBySk
  have member : row.key ∈ (makePlan cfg db g done classId examId asOf eventsBySk).rows.map ActionRow.key :=
    List.mem_map_of_mem listed
  rw [keys, List.mem_append] at member
  rcases member with shared | own
  · obtain ⟨k, known, same⟩ := List.mem_map.mp shared
    have point : k = row.kpId := congrArg Prod.snd same
    have student : none = row.studentId := congrArg Prod.fst same
    refine ⟨point ▸ commonNeed_inside ((common k).mp known), ?_⟩
    intro sid named
    rw [← student] at named
    cases named
  · obtain ⟨owner, committed, mine⟩ := List.mem_flatMap.mp own
    obtain ⟨k, known, same⟩ := List.mem_map.mp
      ((keptRows_keys cfg db g done classId asOf eventsBySk owner).subset mine)
    have point : k = row.kpId := congrArg Prod.snd same
    have student : some owner = row.studentId := congrArg Prod.fst same
    refine ⟨point ▸ KpGraph.mem_kpIds_of_mem_gradeKpIds known, ?_⟩
    intro sid named
    rw [← student] at named
    exact Option.some.inj named ▸ committed

theorem makePlan_gone_of_absent {cfg : Config K} {db : Db K} {g : KpGraph K}
    {done : Dict (Nat × Nat × InterventionKind) Intervention} {classId examId : Nat} {asOf : DateTime}
    {eventsBySk : Option (Batch K)} {sid kp : Nat} (absent : sid ∉ committedIds db examId) :
    (makePlan cfg db g done classId examId asOf eventsBySk).gone (some sid, kp) = false := by
  have unknown : (makePlan cfg db g done classId examId asOf eventsBySk).stillAsk.get? sid = none := by
    unfold makePlan
    dsimp only
    rw [Dict.get?_tabulate, if_neg absent]
  simp only [Plan.gone, unknown]

theorem refreshed_of_absent {cfg : Config K} {db : Db K} {g : KpGraph K}
    {done : Dict (Nat × Nat × InterventionKind) Intervention} {classId examId : Nat} {asOf : DateTime}
    {eventsBySk : Option (Batch K)} (sourceReportId : Option Nat) {iv : Intervention} {sid : Nat}
    (named : iv.studentId = some sid) (absent : sid ∉ committedIds db examId) :
    refreshed examId sourceReportId asOf (makePlan cfg db g done classId examId asOf eventsBySk) iv = iv := by
  unfold refreshed
  split
  · rename_i row search
    have key : row.key = iv.key := by simpa using List.find?_some search
    have student : row.studentId = some sid := (congrArg Prod.fst key).trans named
    exact absurd ((makePlan_inside (List.mem_of_find?_eq_some search)).2 sid student) absent
  · rfl

theorem makePlan_spares {cfg : Config K} {db : Db K} {g : KpGraph K} {t : Table Intervention}
    {done : Dict (Nat × Nat × InterventionKind) Intervention} {classId examId : Nat} {asOf now : DateTime}
    {eventsBySk : Option (Batch K)} {sourceReportId : Option Nat}
    (distinct : ((makePlan cfg db g done classId examId asOf eventsBySk).rows.map ActionRow.key).Nodup)
    {r : Intervention} (stored : r ∈ t.rows) (other : r.examId ≠ examId) {sid : Nat}
    (named : r.studentId = some sid) (away : sid ∉ committedIds db examId) :
    r ∈ (applyPlan (purge t g classId examId) g classId examId sourceReportId asOf now
      (makePlan cfg db g done classId examId asOf eventsBySk)).rows ∨
    ∃ newer ∈ t.rows, newer.status = .suggested ∧ newer.classId = r.classId ∧
      newer.studentId = r.studentId ∧ newer.kpId = r.kpId ∧ r.id < newer.id := by
  have remaining : r ∈ (purge t g classId examId).rows := mem_purge.mpr ⟨stored, fun purged => other purged.1⟩
  have present := applyPlan_kept g classId examId sourceReportId asOf now distinct remaining
  by_cases pending : pendingIn g classId r = true
  · cases older : superseded (purge t g classId examId) g classId r with
    | true =>
      obtain ⟨newer, stays, pendingNewer, key, above⟩ := superseded_iff.mp older
      obtain ⟨cls, _, suggested⟩ := pendingIn_iff.mp pendingNewer
      exact Or.inr ⟨newer, (mem_purge.mp stays).1, suggested,
        cls.trans (pendingIn_iff.mp pending).1.symm, congrArg Prod.fst key, congrArg Prod.snd key, above⟩
    | false =>
      left
      have key : r.key = (some sid, r.kpId) := Prod.ext named rfl
      have asked : (makePlan cfg db g done classId examId asOf eventsBySk).gone r.key = false := by
        rw [key]
        exact makePlan_gone_of_absent away
      have unchanged : refreshed examId sourceReportId asOf
          (makePlan cfg db g done classId examId asOf eventsBySk) r = r :=
        refreshed_of_absent sourceReportId named away
      rwa [outcome, pending, older, asked, unchanged] at present
  · rw [outcome_of_not_pending (by simpa using pending)] at present
    exact Or.inl present

section
variable (cfg : Config K) (db : Db K) (g : KpGraph K) (classId examId : Nat) (asOf : DateTime)
  (eventsBySk : Option (Batch K))

theorem generate_eq (sourceReportId : Option Nat) (now : DateTime) (enabled : cfg.actionPlanEnable = true)
    (submitted : committedIds db examId ≠ []) :
    (generateInterventions cfg db g classId examId asOf sourceReportId now eventsBySk).1 =
      applyPlan (purge db.interventions g classId examId) g classId examId sourceReportId asOf now
        (makePlan cfg db g (keptDone db.interventions g classId) classId examId asOf eventsBySk) := by
  have kept : keptDone (mergeDuplicates (purge db.interventions g classId examId) g classId) g classId =
      keptDone db.interventions g classId :=
    keptDone_congr (mergeDuplicates_done.trans (purge_select isDone_settled))
  have nonempty : (committedIds db examId).isEmpty = false := List.isEmpty_eq_false_iff.mpr submitted
  rw [← kept]
  simp only [generateInterventions, enabled, nonempty, Bool.not_true, Bool.or_self, Bool.false_eq_true,
    ↓reduceIte]

theorem generate_idle (sourceReportId : Option Nat) (now : DateTime)
    (idle : cfg.actionPlanEnable = false ∨ committedIds db examId = []) :
    (generateInterventions cfg db g classId examId asOf sourceReportId now eventsBySk).1 =
      db.interventions := by
  rcases idle with off | empty
  · simp [generateInterventions, off]
  · simp [generateInterventions, empty]

end

/-- What one run of the generator does to every table of interventions. -/
theorem generate_invariant (cfg : Config K) (db : Db K) (g : KpGraph K) (classId examId : Nat)
    (asOf : DateTime) (sourceReportId : Option Nat) (now : DateTime) (eventsBySk : Option (Batch K))
    (enabled : cfg.actionPlanEnable = true)
    (submitted : ∃ r ∈ db.responses.rows, r.examTemplateId = examId ∧ r.status = .submitted) :
    let before := db.interventions
    let after := (generateInterventions cfg db g classId examId asOf sourceReportId now eventsBySk).1
    (∀ a ∈ after.rows, ∀ b ∈ after.rows, a.classId = classId → b.classId = classId →
      a.kpId ∈ g.kpIds → a.status = .suggested → b.status = .suggested →
      a.studentId = b.studentId → a.kpId = b.kpId → a = b) ∧
    (∀ r ∈ before.rows, r.status = .done ∨ r.status = .skipped → r ∈ after.rows) ∧
    (after.select (fun r => decide (r.classId ≠ classId ∨ r.kpId ∉ g.kpIds)) =
      before.select (fun r => decide (r.classId ≠ classId ∨ r.kpId ∉ g.kpIds))) ∧
    (∀ r ∈ before.rows, r.status = .suggested → r.examId ≠ examId → ∀ sid, r.studentId = some sid →
      (∀ x ∈ db.responses.rows, x.examTemplateId = examId → x.status = .submitted → x.studentId ≠ sid) →
      r ∈ after.rows ∨ ∃ newer ∈ before.rows, newer.status = .suggested ∧ newer.classId = r.classId ∧
        newer.studentId = r.studentId ∧ newer.kpId = r.kpId ∧ r.id < newer.id) ∧
    (∀ r ∈ before.rows, (∀ s ∈ after.rows, s.id ≠ r.id) → r.status = .suggested ∧ r.examId = examId) := by
  intro before after
  have committed : committedIds db examId ≠ [] := by
    obtain ⟨r, stored, exam, status⟩ := submitted
    exact List.ne_nil_of_mem (mem_committedIds.mpr ⟨r, stored, exam, status, rfl⟩)
  have shape : after = applyPlan (purge before g classId examId) g classId examId sourceReportId asOf now
      (makePlan cfg db g (keptDone before g classId) classId examId asOf eventsBySk) :=
    generate_eq cfg db g classId examId asOf eventsBySk sourceReportId now enabled committed
  have distinct := makePlan_distinct cfg db g (keptDone before g classId) classId examId asOf eventsBySk
  rw [shape]
  refine ⟨?_, ?_, ?_, ?_, ?_⟩
  · intro a left b right classA classB inside openA openB student point
    exact applyPlan_unique distinct left right classA classB inside openA openB (Prod.ext student point)
  · intro r stored closed
    have settled : pendingIn g classId r = false := pendingIn_of_closed closed
    have remaining : r ∈ (purge before g classId examId).rows :=
      mem_purge.mpr ⟨stored, by simp [settled]⟩
    have present := applyPlan_kept g classId examId sourceReportId asOf now distinct remaining
    rwa [outcome_of_not_pending settled] at present
  · exact (applyPlan_outside distinct (fun row listed => (makePlan_inside listed).1)).trans
      (purge_select isOutside_settled)
  · intro r stored open_ other sid named absent
    have away : sid ∉ committedIds db examId := by
      intro known
      obtain ⟨x, present, exam, status, same⟩ := mem_committedIds.mp known
      exact absent x present exam status same
    exact makePlan_spares distinct stored other named away
  · intro r stored gone
    by_contra spared
    have remaining : r ∈ (purge before g classId examId).rows :=
      mem_purge.mpr ⟨stored, fun purged => spared ⟨(pendingIn_iff.mp purged.2).2.2, purged.1⟩⟩
    exact gone _ (applyPlan_kept g classId examId sourceReportId asOf now distinct remaining) (outcome_frame _ _ _ _ _ _ _ r).1

end

def openRow (id examId : Nat) (status : InterventionStatus) : Intervention :=
  { id := id, classId := 1, studentId := some 1, kpId := 9, examId := examId, attributionId := none,
    sourceReportId := none, retestExamId := none, retestDueDate := none, kind := .spacedReview,
    scope := .student, groupRef := none, baselineAsOf := 0, status := status, suggestedAt := 0,
    doneAt := none, note := none }

def crowdedDb : Db ℚ :=
  { Db.empty ℚ with
    classes := .ofList [⟨1, 7⟩]
    students := .ofList [⟨1, 1, "甲"⟩]
    responses := .ofList [⟨1, 5, 1, 0, .submitted⟩]
    interventions := .ofList [openRow 1 3 .suggested, openRow 2 4 .suggested, openRow 3 5 .suggested,
      openRow 4 3 .skipped] }

def crowdedPoint : KnowledgePoint ℚ :=
  { id := 9, kbVersionId := 1, code := "N1", name := "有理数", grade := 7, cogLevelsExpected := [],
    difficultyPrior := 1 / 2, masteryFloor := 6 / 10, importance := .core, archived := false }

def crowdedGraph : KpGraph ℚ := .discrete [crowdedPoint] (by decide)

theorem generate_invariant_crowded :
    (∃ r ∈ crowdedDb.responses.rows, r.examTemplateId = 5 ∧ r.status = .submitted) ∧
      (∀ r ∈ crowdedDb.interventions.rows, r.status = .done ∨ r.status = .skipped →
        r ∈ (generateInterventions Config.rational crowdedDb crowdedGraph 1 5 0 none 0 none).1.rows) :=
  ⟨by decide, (generate_invariant Config.rational crowdedDb crowdedGraph 1 5 0 none 0 none rfl
    (by decide)).2.1⟩

end KnowledgeGap
