import KnowledgeGap.Verdicts.Lifecycle

namespace KnowledgeGap

open Relational

namespace Verdicts

variable {K : Type}

section
variable {t : Table (Attribution K)} {g : KpGraph K} {studentId : Nat}
  {findings : List (AttributionFinding K)}

/-- The row a finding is read back from. -/
def activeRow (t : Table (Attribution K)) (g : KpGraph K) (studentId : Nat)
    (f : AttributionFinding K) : Option (Attribution K) :=
  (t.select (verdictOf g studentId [.active])).find? (fun r => decide (r.key = f.key))

theorem verdictOf_active_standing {r : Attribution K} (active : verdictOf g studentId [.active] r = true) :
    r.status = .active := by
  simpa using (verdictOf_iff.mp active).2.2

theorem activeRow_eq_some (unique : OnePerCause t) {r : Attribution K} {f : AttributionFinding K}
    (stored : r ∈ t.rows) (active : verdictOf g studentId [.active] r = true) (key : r.key = f.key) :
    activeRow t g studentId f = some r := by
  unfold activeRow
  cases search : (t.select (verdictOf g studentId [.active])).find? (fun r => decide (r.key = f.key)) with
  | none =>
    have kept : r ∈ t.select (verdictOf g studentId [.active]) := List.mem_filter.mpr ⟨stored, active⟩
    simpa [key] using List.find?_eq_none.mp search r kept
  | some s =>
    obtain ⟨other, standing⟩ := List.mem_filter.mp (List.mem_of_find?_eq_some search)
    have same : s.key = f.key := by simpa using List.find?_some search
    have student := (verdictOf_iff.mp standing).1.trans (verdictOf_iff.mp active).1.symm
    rw [unique s other r stored (by simp [verdictOf_active_standing standing])
      (by simp [verdictOf_active_standing active]) student (same.trans key.symm)]

theorem activeRow_eq_none (unique : OnePerCause t) {r : Attribution K} {f : AttributionFinding K}
    (stored : r ∈ t.rows) (student : r.studentId = studentId) (vetoed : r.status = .overridden)
    (key : r.key = f.key) : activeRow t g studentId f = none := by
  unfold activeRow
  rw [List.find?_eq_none]
  intro s kept same
  obtain ⟨other, active⟩ := List.mem_filter.mp kept
  have equal := unique s other r stored (by simp [verdictOf_active_standing active]) (by simp [vetoed])
    ((verdictOf_iff.mp active).1.trans student.symm) (by simpa [key] using same)
  have status := verdictOf_active_standing active
  rw [equal, vetoed] at status
  cases status

/-- Where a finding is after a write: in an active row that records it, or behind a veto that was
    there before. -/
theorem writeVerdicts_placed (unique : OnePerCause t)
    (distinct : (findings.map AttributionFinding.key).Nodup) (inside : ∀ f ∈ findings, f.kpId ∈ g.kpIds)
    {f : AttributionFinding K} (listed : f ∈ findings) {d : Nat}
    (filed : (verdictWriter (existingVerdicts t g studentId) studentId).target f = some d ∨
      (verdictWriter (existingVerdicts t g studentId) studentId).target f = none ∧
        newVerdict studentId f d ∈ addedVerdicts t g studentId findings) :
    ∃ r ∈ (writeVerdicts t g studentId findings).1.rows, r.id = d ∧ r.studentId = studentId ∧
      r.key = f.key ∧ r.kpId ∈ g.kpIds ∧
      (r.status = .active ∧ r.finding = f ∨ r.status = .overridden ∧ r ∈ t.rows) := by
  rw [rows_writeVerdicts unique distinct]
  rcases filed with aimed | ⟨_, added⟩
  · obtain ⟨r, stored, live, key, id⟩ := (existingVerdicts_get? unique g studentId f.key d).mp aimed
    obtain ⟨student, within, standing⟩ := verdictOf_iff.mp live
    rcases settle_cases g studentId findings r with ⟨h, heard, same, _, settled⟩ | ⟨_, unseen, _⟩ |
        ⟨dead, _⟩
    · have equal : h = f :=
        List.inj_on_of_nodup_map distinct heard listed (same.trans key)
      subst equal
      refine ⟨refreshVerdict h r, ?_, ?_⟩
      · exact List.mem_append_left _ (List.mem_map.mpr ⟨r, stored, settled⟩)
      · by_cases vetoed : r.status = .overridden
        · rw [refreshVerdict, if_pos vetoed]
          exact ⟨id, student, key, within, Or.inr ⟨vetoed, stored⟩⟩
        · have active : r.status = .active := by simpa [vetoed] using standing
          have point : r.kpId = h.kpId := congrArg Prod.fst key
          have cause : r.type = h.type := congrArg Prod.snd key
          rw [refreshVerdict, if_neg vetoed]
          refine ⟨id, student, key, within, Or.inl ⟨active, ?_⟩⟩
          simp only [Attribution.finding, point, cause]
    · exact absurd (List.mem_map.mpr ⟨f, listed, key.symm⟩) unseen
    · rw [live] at dead
      cases dead
  · exact ⟨newVerdict studentId f d, List.mem_append_right _ added, rfl, rfl, rfl, inside f listed,
      Or.inl ⟨rfl, rfl⟩⟩

variable (studentId) in
theorem writeVerdicts_held (unique : OnePerCause t)
    (distinct : (findings.map AttributionFinding.key).Nodup) (inside : ∀ f ∈ findings, f.kpId ∈ g.kpIds)
    {f : AttributionFinding K} (listed : f ∈ findings) :
    ∃ r ∈ (writeVerdicts t g studentId findings).1.rows, r.studentId = studentId ∧ r.key = f.key ∧
      r.kpId ∈ g.kpIds ∧
      (r.status = .active ∧ r.finding = f ∨ r.status = .overridden ∧ r ∈ t.rows) := by
  obtain ⟨d, filed⟩ := (verdictWriter (existingVerdicts t g studentId) studentId).exists_destination
    t.nextId listed
  obtain ⟨r, stored, _, placed⟩ := writeVerdicts_placed unique distinct inside listed filed
  exact ⟨r, stored, placed⟩

theorem filterMap_of_forall₂ {α β γ : Type} {R : α → β → Prop} {left : α → Option γ}
    {right : β → Option γ} {as : List α} {bs : List β} (paired : List.Forall₂ R as bs)
    (agree : ∀ a ∈ as, ∀ b, R a b → right b = left a) : bs.filterMap right = as.filterMap left := by
  induction paired with
  | nil => rfl
  | cons related _ ih =>
    rw [List.filterMap_cons, List.filterMap_cons, agree _ (by simp) _ related,
      ih (fun a member => agree a (by simp [member]))]

theorem writeVerdicts_returned (unique : OnePerCause t)
    (distinct : (findings.map AttributionFinding.key).Nodup)
    (inside : ∀ f ∈ findings, f.kpId ∈ g.kpIds) :
    (writeVerdicts t g studentId findings).2 =
      findings.filterMap (activeRow (writeVerdicts t g studentId findings).1 g studentId) := by
  have after : OnePerCause (writeVerdicts t g studentId findings).1 :=
    writeVerdicts_onePerCause unique distinct inside
  have shape : (writeVerdicts t g studentId findings).2 =
      (((verdictWriter (existingVerdicts t g studentId) studentId).destinations findings t.nextId).filterMap
        (writeVerdicts t g studentId findings).1.get?).filter (fun att => decide (att.status = .active)) := rfl
  rw [shape, List.filter_filterMap]
  apply filterMap_of_forall₂
    ((verdictWriter (existingVerdicts t g studentId) studentId).forall₂_destinations findings t.nextId)
  intro f listed d filed
  obtain ⟨r, stored, id, student, key, within, outcome⟩ :=
    writeVerdicts_placed unique distinct inside listed filed
  have found : (writeVerdicts t g studentId findings).1.get? d = some r :=
    (Table.get?_eq_some_iff _ d r).mpr ⟨stored, id⟩
  rw [found]
  rcases outcome with ⟨active, _⟩ | ⟨vetoed, _⟩
  · rw [activeRow_eq_some after stored (verdictOf_iff.mpr ⟨student, within, by simp [active]⟩) key]
    simp [active]
  · rw [activeRow_eq_none after stored student vetoed key]
    simp [vetoed]

theorem select_overridden_writeVerdicts (unique : OnePerCause t)
    (distinct : (findings.map AttributionFinding.key).Nodup) (other : Nat) :
    (writeVerdicts t g studentId findings).1.select (verdictOf g other [.overridden]) =
      t.select (verdictOf g other [.overridden]) := by
  have none_added : (addedVerdicts t g studentId findings).filter (verdictOf g other [.overridden]) = [] := by
    rw [List.filter_eq_nil_iff]
    intro r added vetoed
    obtain ⟨f, _, _, n, _, rfl⟩ := mem_addedVerdicts added
    have status := (verdictOf_iff.mp vetoed).2.2
    simp [newVerdict] at status
  have kept : ∀ r : Attribution K, verdictOf g other [.overridden] (settle g studentId findings r) =
      verdictOf g other [.overridden] r := by
    intro r
    by_cases active : r.status = .active
    · obtain ⟨_, _, _, status⟩ := settle_frame g studentId findings r
      rw [Bool.eq_iff_iff, verdictOf_iff, verdictOf_iff]
      constructor
      · intro held
        have vetoed : (settle g studentId findings r).status = .overridden := by simpa using held.2.2
        have same := status (by simp [vetoed])
        rw [vetoed, active] at same
        cases same
      · intro held
        simp [active] at held
    · rw [settle_of_not_active g studentId findings active]
  rw [Table.select, rows_writeVerdicts unique distinct, List.filter_append, none_added, List.append_nil]
  apply filter_map_of_fixed
  · intro r _
    exact kept r
  · intro r _ held
    have vetoed := (verdictOf_iff.mp held).2.2
    apply settle_of_not_active
    intro active
    simp [active] at vetoed

theorem overriddenVerdicts_get?_isSome (g : KpGraph K) (studentId : Nat) (k : Nat × AttributionType) :
    ((overriddenVerdicts t g studentId).get? k).isSome ↔
      ∃ r ∈ t.rows, verdictOf g studentId [.overridden] r = true ∧ r.key = k := by
  unfold overriddenVerdicts
  rw [Dict.get?_ofList_isSome_iff]
  constructor
  · intro held
    obtain ⟨e, member, key⟩ := held
    obtain ⟨r, kept, rfl⟩ := List.mem_map.mp member
    obtain ⟨stored, vetoed⟩ := List.mem_filter.mp kept
    exact ⟨r, stored, vetoed, key⟩
  · intro held
    obtain ⟨r, stored, vetoed, key⟩ := held
    exact ⟨(r.key, r), List.mem_map.mpr ⟨r, List.mem_filter.mpr ⟨stored, vetoed⟩, rfl⟩, key⟩

variable (studentId) in
theorem activeRow_finding (unique : OnePerCause t)
    (distinct : (findings.map AttributionFinding.key).Nodup) (inside : ∀ f ∈ findings, f.kpId ∈ g.kpIds)
    {f : AttributionFinding K} (listed : f ∈ findings) :
    (activeRow (writeVerdicts t g studentId findings).1 g studentId f).map Attribution.finding =
      if ((overriddenVerdicts t g studentId).get? f.key).isNone then some f else none := by
  have after : OnePerCause (writeVerdicts t g studentId findings).1 :=
    writeVerdicts_onePerCause unique distinct inside
  obtain ⟨r, stored, student, key, within, outcome⟩ :=
    writeVerdicts_held studentId unique distinct inside listed
  rcases outcome with ⟨active, recorded⟩ | ⟨vetoed, earlier⟩
  · have found := activeRow_eq_some (g := g) after stored
      (verdictOf_iff.mpr ⟨student, within, by simp [active]⟩) key
    have free : (overriddenVerdicts t g studentId).get? f.key = none := by
      rw [← Option.not_isSome_iff_eq_none, overriddenVerdicts_get?_isSome]
      intro held
      obtain ⟨s, before, vetoed, same⟩ := held
      have kept : s ∈ (writeVerdicts t g studentId findings).1.select (verdictOf g studentId [.overridden]) := by
        rw [select_overridden_writeVerdicts unique distinct]
        exact List.mem_filter.mpr ⟨before, vetoed⟩
      obtain ⟨present, _⟩ := List.mem_filter.mp kept
      obtain ⟨owner, _, status⟩ := verdictOf_iff.mp vetoed
      have overridden : s.status = .overridden := by simpa using status
      have equal := after s present r stored (by simp [overridden]) (by simp [active])
        (owner.trans student.symm) (same.trans key.symm)
      rw [equal, active] at overridden
      cases overridden
    rw [found, free]
    simp [recorded]
  · have missing := activeRow_eq_none (g := g) after stored student vetoed key
    have held : ((overriddenVerdicts t g studentId).get? f.key).isSome :=
      (overriddenVerdicts_get?_isSome g studentId f.key).mpr
        ⟨r, earlier, verdictOf_iff.mpr ⟨student, within, by simp [vetoed]⟩, key⟩
    obtain ⟨v, present⟩ := Option.isSome_iff_exists.mp held
    rw [missing, present]
    simp

theorem returned_findings (unique : OnePerCause t)
    (distinct : (findings.map AttributionFinding.key).Nodup)
    (inside : ∀ f ∈ findings, f.kpId ∈ g.kpIds) :
    (writeVerdicts t g studentId findings).2.map Attribution.finding =
      findings.filter (fun f => ((overriddenVerdicts t g studentId).get? f.key).isNone) := by
  rw [writeVerdicts_returned unique distinct inside, List.map_filterMap, ← List.filterMap_eq_filter]
  apply List.filterMap_congr
  intro f listed
  rw [activeRow_finding studentId unique distinct inside listed]
  simp [Option.guard]

theorem resolved_findings (verdicts : Dict (Nat × AttributionType) (Attribution K))
    (findings : List (AttributionFinding K)) :
    ((findings.map (overlay verdicts)).filter (fun e => decide (e.verdict = .active))).map
        ResolvedAttribution.toAttributionFinding =
      findings.filter (fun f => (verdicts.get? f.key).isNone) := by
  induction findings with
  | nil => rfl
  | cons f findings ih =>
    rw [List.map_cons, List.filter_cons, List.filter_cons]
    cases held : verdicts.get? f.key with
    | none => simp [overlay, held, ih]
    | some v => simp [overlay, held, ih]

theorem active_has_finding (unique : OnePerCause t)
    (distinct : (findings.map AttributionFinding.key).Nodup) {r : Attribution K}
    (stored : r ∈ (writeVerdicts t g studentId findings).1.rows)
    (active : verdictOf g studentId [.active] r = true) : ∃ f ∈ findings, f.key = r.key := by
  rw [rows_writeVerdicts unique distinct, List.mem_append] at stored
  rcases stored with kept | added
  · obtain ⟨s, before, rfl⟩ := List.mem_map.mp kept
    obtain ⟨student, within, _⟩ := verdictOf_iff.mp active
    have status := verdictOf_active_standing active
    obtain ⟨_, sameStudent, sameKey, sameStatus⟩ := settle_frame g studentId findings s
    have point : (settle g studentId findings s).kpId = s.kpId := congrArg Prod.fst sameKey
    rw [sameStatus (by simp [status])] at status
    rcases settle_cases g studentId findings s with ⟨f, listed, key, _, _⟩ | ⟨_, _, retired⟩ | ⟨dead, _⟩
    · exact ⟨f, listed, key.trans sameKey.symm⟩
    · have gone := verdictOf_active_standing active
      rw [retired, retireVerdict, if_pos status] at gone
      cases gone
    · have live : verdictOf g studentId [.active, .overridden] s = true :=
        verdictOf_iff.mpr ⟨sameStudent ▸ student, point ▸ within, by simp [status]⟩
      rw [live] at dead
      cases dead
  · obtain ⟨f, listed, _, n, _, rfl⟩ := mem_addedVerdicts added
    exact ⟨f, listed, rfl⟩

theorem returned_perm (unique : OnePerCause t)
    (distinct : (findings.map AttributionFinding.key).Nodup)
    (inside : ∀ f ∈ findings, f.kpId ∈ g.kpIds) :
    (writeVerdicts t g studentId findings).2.Perm
      ((writeVerdicts t g studentId findings).1.select (verdictOf g studentId [.active])) := by
  have after : OnePerCause (writeVerdicts t g studentId findings).1 :=
    writeVerdicts_onePerCause unique distinct inside
  have returned_nodup : (writeVerdicts t g studentId findings).2.Nodup := by
    apply List.Nodup.of_map Attribution.finding
    rw [returned_findings unique distinct inside]
    exact (List.Nodup.of_map _ distinct).filter _
  have rows_nodup : (writeVerdicts t g studentId findings).1.rows.Nodup :=
    List.Nodup.of_map _ (writeVerdicts t g studentId findings).1.nodup
  unfold Table.select
  rw [List.perm_ext_iff_of_nodup returned_nodup (rows_nodup.filter _)]
  intro r
  rw [writeVerdicts_returned unique distinct inside, List.mem_filterMap]
  constructor
  · intro held
    obtain ⟨f, _, found⟩ := held
    exact List.mem_of_find?_eq_some found
  · intro kept
    obtain ⟨stored, active⟩ := List.mem_filter.mp kept
    obtain ⟨f, listed, key⟩ := active_has_finding unique distinct stored active
    exact ⟨f, listed, activeRow_eq_some after stored active key.symm⟩

theorem writeVerdicts_idempotent (unique : OnePerCause t)
    (distinct : (findings.map AttributionFinding.key).Nodup)
    (inside : ∀ f ∈ findings, f.kpId ∈ g.kpIds) :
    writeVerdicts (writeVerdicts t g studentId findings).1 g studentId findings =
      writeVerdicts t g studentId findings := by
  have after : OnePerCause (writeVerdicts t g studentId findings).1 :=
    writeVerdicts_onePerCause unique distinct inside
  have fixed : ∀ r ∈ (writeVerdicts t g studentId findings).1.rows,
      settle g studentId findings r = id r := by
    intro r stored
    by_cases active : r.status = .active
    · by_cases outside : r.studentId ≠ studentId ∨ r.kpId ∉ g.kpIds
      · exact settle_of_outside findings outside
      · simp only [ne_eq, not_or, Decidable.not_not] at outside
        have live : verdictOf g studentId [.active] r = true :=
          verdictOf_iff.mpr ⟨outside.1, outside.2, by simp [active]⟩
        obtain ⟨f, listed, key⟩ := active_has_finding unique distinct stored live
        have recorded := activeRow_finding studentId unique distinct inside listed
        rw [activeRow_eq_some after stored live key.symm] at recorded
        have same : r.finding = f := by
          split at recorded
          · simpa using recorded
          · cases recorded
        rcases settle_cases g studentId findings r with ⟨h, heard, sameKey, _, settled⟩ | ⟨_, unseen, _⟩ |
            ⟨_, settled⟩
        · have equal : h = f := List.inj_on_of_nodup_map distinct heard listed (sameKey.trans key.symm)
          rw [settled, refreshVerdict, if_neg (by simp [active]), equal, ← same]
          rfl
        · exact absurd (List.mem_map.mpr ⟨f, listed, key⟩) unseen
        · exact settled
    · exact settle_of_not_active g studentId findings active
  have none_added : addedVerdicts (writeVerdicts t g studentId findings).1 g studentId findings = [] := by
    apply Table.Writer.added_eq_nil
    intro f listed
    obtain ⟨r, stored, student, key, within, outcome⟩ :=
      writeVerdicts_held studentId unique distinct inside listed
    have live : verdictOf g studentId [.active, .overridden] r = true := by
      refine verdictOf_iff.mpr ⟨student, within, ?_⟩
      rcases outcome with ⟨active, _⟩ | ⟨vetoed, _⟩
      · simp [active]
      · simp [vetoed]
    have held := (existingVerdicts_get? after g studentId f.key r.id).mpr ⟨r, stored, live, key, rfl⟩
    exact Option.isSome_iff_exists.mpr ⟨r.id, held⟩
  have table : (writeVerdicts (writeVerdicts t g studentId findings).1 g studentId findings).1 =
      (writeVerdicts t g studentId findings).1 := by
    apply Table.ext
    · rw [rows_writeVerdicts after distinct, none_added, List.append_nil, List.map_congr_left fixed,
        List.map_id]
    · have next : (writeVerdicts (writeVerdicts t g studentId findings).1 g studentId findings).1.nextId =
          (writeVerdicts t g studentId findings).1.nextId +
            (addedVerdicts (writeVerdicts t g studentId findings).1 g studentId findings).length := by
        unfold writeVerdicts addedVerdicts
        simp only [Table.nextId_patchAll, Table.nextId_upsertAll]
      rw [next, none_added]
      rfl
  apply Prod.ext
  · exact table
  · rw [writeVerdicts_returned after distinct inside, table, ← writeVerdicts_returned unique distinct inside]

end

section
variable [Field K] [LinearOrder K] [FloorRing K]

/-- On every reachable verdict table the write path records what the read path shows, and running it
    again changes nothing. -/
theorem materialize_refines_resolve (cfg : Config K) (actions : List (Action K)) (env : Db K)
    (g : KpGraph K) (studentId classId : Nat) (asOf : DateTime) (eventsBySk : Option (Batch K)) :
    let db := { env with attributions := Protocol.run (step cfg) Table.empty actions }
    let out := materializeAttributionVerdicts cfg db g studentId classId asOf eventsBySk
    let after := { db with attributions := out.1 }
    let resolved := resolveAttributions cfg db g studentId classId asOf eventsBySk
    out.2.map Attribution.finding =
        (resolved.filter (fun e => decide (e.verdict = .active))).map
          ResolvedAttribution.toAttributionFinding ∧
      out.2.Perm (out.1.select (verdictOf g studentId [.active])) ∧
      (∀ e ∈ resolved, e.verdict = .overridden →
        ∃ r ∈ db.attributions.rows, r ∈ out.1.rows ∧ r.status = .overridden ∧ r.studentId = studentId ∧
          r.kpId = e.kpId ∧ r.type = e.type ∧ r.teacherNote = e.teacherNote) ∧
      resolveAttributions cfg after g studentId classId asOf eventsBySk = resolved ∧
      materializeAttributionVerdicts cfg after g studentId classId asOf eventsBySk = out := by
  intro db out after resolved
  have unique : OnePerCause db.attributions := run_onePerCause cfg actions
  have distinct := findingsFor_nodup cfg db g studentId classId asOf eventsBySk
  have inside := findingsFor_inside cfg db g studentId classId asOf eventsBySk
  have same : findingsFor cfg after g studentId classId asOf eventsBySk =
      findingsFor cfg db g studentId classId asOf eventsBySk := rfl
  have vetoes : out.1.select (verdictOf g studentId [.overridden]) =
      db.attributions.select (verdictOf g studentId [.overridden]) :=
    select_overridden_writeVerdicts unique distinct studentId
  refine ⟨?_, returned_perm unique distinct inside, ?_, ?_, ?_⟩
  · exact (returned_findings unique distinct inside).trans (resolved_findings _ _).symm
  · intro e listed vetoed
    obtain ⟨f, _, rfl⟩ := List.mem_map.mp listed
    cases held : (overriddenVerdicts db.attributions g studentId).get? f.key with
    | none =>
      simp only [overlay, held] at vetoed
      cases vetoed
    | some v =>
      obtain ⟨r, kept, pair⟩ := List.mem_map.mp (Dict.mem_of_get?_ofList held)
      obtain ⟨stored, overridden⟩ := List.mem_filter.mp kept
      obtain ⟨student, _, status⟩ := verdictOf_iff.mp overridden
      have row : r = v := congrArg Prod.snd pair
      have key : r.key = f.key := congrArg Prod.fst pair
      have remains : r ∈ out.1.rows := by
        rw [← vetoes] at kept
        exact (List.mem_filter.mp kept).1
      refine ⟨r, stored, remains, by simpa using status, student, ?_, ?_, ?_⟩
      · simp only [overlay, held]
        exact congrArg Prod.fst key
      · simp only [overlay, held]
        exact congrArg Prod.snd key
      · simp only [overlay, held, row]
  · have verdicts : overriddenVerdicts out.1 g studentId = overriddenVerdicts db.attributions g studentId := by
      unfold overriddenVerdicts
      rw [vetoes]
    unfold resolveAttributions
    rw [same, verdicts]
    rfl
  · unfold materializeAttributionVerdicts
    rw [same]
    exact writeVerdicts_idempotent unique distinct inside

end

end Verdicts

end KnowledgeGap
