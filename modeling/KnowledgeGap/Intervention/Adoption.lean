import KnowledgeGap.Intervention.Rounds
import KnowledgeGap.Intervention.Summary

namespace KnowledgeGap

open Relational Protocol
open Kb (AccessContext)

def isSettled (r : Intervention) : Bool := isDone r || isSkipped r

def settledIn (t : Table Intervention) (id : Nat) : Bool := (t.get? id).any isSettled

variable {K : Type}

/-- What teachers confirm, skip or put off, and what pupils report. -/
def Deed.ofPeople : Deed K → Bool
  | .selfMark _ _ _ => true
  | .operate _ _ _ _ _ => true
  | _ => false

/-- Other writes leave the suggestions alone. -/
def Deed.Aside : Deed K → Prop
  | .other change => ∀ db, (change.run db).interventions = db.interventions
  | _ => True

abbrev Doing (K : Type) := DateTime × {deed : Deed K // deed.Aside}

/-- A database, and which of its suggestions a teacher or a pupil has settled. -/
structure Docket (K : Type) where
  db : Db K
  decided : Nat → Bool
  stands : ∀ id, decided id = true → settledIn db.interventions id = true

section
variable [Field K] [LinearOrder K] [FloorRing K]

/-- What a step of the docket does to a suggestion that it keeps. -/
structure Handled (r s : Intervention) : Prop where
  id : s.id = r.id
  classId : s.classId = r.classId
  kpId : s.kpId = r.kpId
  examId : s.examId = r.examId
  status : isSettled r = true → s.status = r.status

omit [Field K] [LinearOrder K] [FloorRing K] in
theorem Handled.refl (r : Intervention) : Handled r r := ⟨rfl, rfl, rfl, rfl, fun _ => rfl⟩

omit [Field K] [LinearOrder K] [FloorRing K] in
theorem Handled.of_open {r s : Intervention} (open_ : r.status = .suggested) (id : s.id = r.id)
    (classId : s.classId = r.classId) (kpId : s.kpId = r.kpId) (examId : s.examId = r.examId) : Handled r s where
  id := id
  classId := classId
  kpId := kpId
  examId := examId
  status settled := by simp [isSettled, isDone, isSkipped, open_] at settled

omit [Field K] [LinearOrder K] [FloorRing K] in
theorem Handled.inSummary {r s : Intervention} (handled : Handled r s) (g : KpGraph K) (classId : Nat)
    (examIds : Option (List Nat)) : inSummary g classId examIds s = inSummary g classId examIds r := by
  simp [KnowledgeGap.inSummary, handled.classId, handled.kpId, handled.examId]

omit [Field K] [LinearOrder K] [FloorRing K] in
theorem settledIn_of_mem {t : Table Intervention} {r : Intervention} (stored : r ∈ t.rows) :
    settledIn t r.id = isSettled r := by
  have found : t.get? r.id = some r := Table.get?_of_mem stored
  simp [settledIn, found]

omit [Field K] [LinearOrder K] [FloorRing K] in
theorem not_settled_of_pending {g : KpGraph K} {classId : Nat} {r : Intervention} (pending : pendingIn g classId r = true) :
    isSettled r = false := by
  simp [isSettled, isDone, isSkipped, (pendingIn_iff.mp pending).2.2]

theorem target_required {dir : Directory} {ctx : AccessContext} {t : Table Intervention} {id : Nat} {withGroup : Bool}
    {required : InterventionStatus} {iv r : Intervention} (found : t.get? id = some iv) (status : iv.status = required)
    (stored : r ∈ t.rows) (target : isTarget dir ctx withGroup required iv r = true) : r.status = required := by
  unfold isTarget at target
  split at target
  · simp only [Bool.and_eq_true, decide_eq_true_eq] at target
    exact target.1.2
  · have same : r = iv := Table.key_inj t stored (Table.get?_mem found) (eq_of_beq target)
    rw [same, status]

theorem operate_handled {dir : Directory} {ctx : AccessContext} {t after : Table Intervention} {id count : Nat}
    {withGroup : Bool} {now : DateTime} {op : Operation}
    (accepted : operate dir ctx t id withGroup now op = .ok (after, count)) :
    ∃ f, after.rows = t.rows.map f ∧ ∀ r ∈ t.rows, Handled r (f r) := by
  obtain ⟨iv, found, _, status, rows⟩ := operate_ok accepted
  refine ⟨_, rows, ?_⟩
  intro r stored
  split
  · rename_i target
    have required := target_required found status stored target
    cases op with
    | confirm req => exact Handled.of_open required rfl rfl rfl rfl
    | skip req => exact Handled.of_open required rfl rfl rfl rfl
    | reschedule due => exact ⟨rfl, rfl, rfl, rfl, fun _ => rfl⟩
  · exact Handled.refl r

omit [Field K] [LinearOrder K] [FloorRing K] in
theorem selfMark_handled {db after : Db K} {g : KpGraph K} {student : Student} {recordId : Nat} {now : DateTime}
    {mark : SelfMark} (reported : selfMarkLearned db g student recordId now = .ok (after, mark)) :
    ∃ f, after.interventions.rows = db.interventions.rows.map f ∧ ∀ r ∈ db.interventions.rows, Handled r (f r) := by
  have still : ∃ f, db.interventions.rows = db.interventions.rows.map f ∧ ∀ r ∈ db.interventions.rows, Handled r (f r) :=
    ⟨id, (List.map_id _).symm, fun r _ => Handled.refl r⟩
  rcases selfMarkLearned_ok reported with same | ⟨_, _, same | ⟨row, listed, open_, name, settled⟩⟩
  · rw [same]
    exact still
  · rw [same]
    exact still
  · rw [settled]
    refine ⟨_, Table.rows_modify _ _ _ _, ?_⟩
    intro r stored
    split
    · rename_i named
      have same : r = row := Table.key_inj _ stored listed (eq_of_beq named)
      exact Handled.of_open (same ▸ open_) rfl rfl rfl rfl
    · exact Handled.refl r

variable (cfg : Config K) (quoted : String → String) (offset : Int)

theorem people_handled (db : Db K) (t : DateTime) {deed : Deed K} (people : deed.ofPeople = true) :
    ∃ f, (deed.perform cfg quoted offset db t).interventions.rows = db.interventions.rows.map f ∧
      ∀ r ∈ db.interventions.rows, Handled r (f r) := by
  have still : ∃ f, db.interventions.rows = db.interventions.rows.map f ∧ ∀ r ∈ db.interventions.rows, Handled r (f r) :=
    ⟨id, (List.map_id _).symm, fun r _ => Handled.refl r⟩
  cases deed with
  | selfMark g student recordId =>
    simp only [Deed.perform]
    split
    · rename_i after mark reported
      exact selfMark_handled reported
    · exact still
  | operate dir ctx id withGroup op =>
    simp only [Deed.perform]
    split
    · rename_i after count accepted
      exact operate_handled accepted
    · exact still
  | generate g classId examId asOf sourceReportId eventsBySk => cases people
  | recordIntervention dir ctx g studentId kpCode kind examId note => cases people
  | studyPlan g student kpCode asOf => cases people
  | other change => cases people

/-- The rest, but for the runs of suggestions, settles nothing. -/
def Deed.isRun : Deed K → Bool
  | .generate _ _ _ _ _ _ => true
  | _ => false

theorem others_settled (db : Db K) (t : DateTime) {deed : Deed K} (aside : deed.Aside) (system : deed.ofPeople = false)
    (quiet : deed.isRun = false) :
    (deed.perform cfg quoted offset db t).interventions.select isSettled = db.interventions.select isSettled := by
  cases deed with
  | generate g classId examId asOf sourceReportId eventsBySk => cases quiet
  | selfMark g student recordId => cases system
  | operate dir ctx id withGroup op => cases system
  | recordIntervention dir ctx g studentId kpCode kind examId note =>
    simp only [Deed.perform]
    split
    · rename_i after registered accepted
      obtain ⟨student, kpId, kind, added⟩ := recordIntervention_ok accepted
      simp [added, Table.select, registeredRow, isSettled, isDone, isSkipped]
    · rfl
  | studyPlan g student kpCode asOf =>
    exact congrArg (fun t => t.select isSettled) (studyPlan_interventions cfg db g student kpCode _)
  | other change =>
    exact congrArg (fun t => t.select isSettled) (aside db)

variable {cfg}

/-- A run leaves every settled suggestion as it is. -/
theorem generate_settled {db : Db K} (g : KpGraph K) (classId examId : Nat) (asOf : DateTime)
    (sourceReportId : Option Nat) (now : DateTime) (eventsBySk : Option (Batch K)) {r : Intervention}
    (stored : r ∈ db.interventions.rows) (settled : isSettled r = true) :
    r ∈ (generateInterventions cfg db g classId examId asOf sourceReportId now eventsBySk).1.rows := by
  have closed : pendingIn g classId r = false := by
    cases pending : pendingIn g classId r with
    | false => rfl
    | true =>
      rw [not_settled_of_pending pending] at settled
      cases settled
  by_cases idle : cfg.actionPlanEnable = false ∨ committedIds db examId = []
  · rw [generate_idle cfg db g classId examId asOf eventsBySk sourceReportId now idle]
    exact stored
  · rw [not_or, Bool.not_eq_false] at idle
    have distinct := makePlan_distinct cfg db g (keptDone db.interventions g classId) classId examId asOf eventsBySk
    rw [generate_eq cfg db g classId examId asOf eventsBySk sourceReportId now idle.1 idle.2, rows_applyPlan distinct]
    refine List.mem_append_left _ (List.mem_map.mpr ⟨r, ?_, outcome_of_not_pending closed⟩)
    exact mem_purge.mpr ⟨stored, by simp [closed]⟩

variable (cfg)

/-- What is settled stays settled, the way it was. -/
theorem settled_kept (db : Db K) (t : DateTime) {deed : Deed K} (aside : deed.Aside) {r : Intervention}
    (stored : r ∈ db.interventions.rows) (settled : isSettled r = true) :
    ∃ s ∈ (deed.perform cfg quoted offset db t).interventions.rows, Handled r s := by
  cases people : deed.ofPeople with
  | true =>
    obtain ⟨f, rows, handled⟩ := people_handled cfg quoted offset db t people
    rw [rows]
    exact ⟨f r, List.mem_map_of_mem stored, handled r stored⟩
  | false =>
    cases ran : deed.isRun with
    | true =>
      cases deed with
      | generate g classId examId asOf sourceReportId eventsBySk =>
        exact ⟨r, generate_settled g classId examId asOf sourceReportId t eventsBySk stored settled, Handled.refl r⟩
      | recordIntervention dir ctx g studentId kpCode kind examId note => cases ran
      | studyPlan g student kpCode asOf => cases ran
      | selfMark g student recordId => cases ran
      | operate dir ctx id withGroup op => cases ran
      | other change => cases ran
    | false =>
      have listed : r ∈ db.interventions.select isSettled := List.mem_filter.mpr ⟨stored, settled⟩
      rw [← others_settled cfg quoted offset db t aside people ran] at listed
      exact ⟨r, List.mem_of_mem_filter listed, Handled.refl r⟩

omit [Field K] [LinearOrder K] [FloorRing K] in
theorem Handled.settled {r s : Intervention} (handled : Handled r s) (settled : isSettled r = true) :
    isSettled s = true := by
  have same := handled.status settled
  simpa [isSettled, isDone, isSkipped, same] using settled

theorem settledIn_kept (db : Db K) (t : DateTime) {deed : Deed K} (aside : deed.Aside) {id : Nat}
    (settled : settledIn db.interventions id = true) :
    settledIn (deed.perform cfg quoted offset db t).interventions id = true := by
  unfold settledIn at settled
  rw [Option.any_eq_true] at settled
  obtain ⟨r, found, closed⟩ := settled
  obtain ⟨s, stored, handled⟩ := settled_kept cfg quoted offset db t aside (Table.get?_mem found) closed
  have key : r.id = id := Table.get?_key found
  rw [← key, ← handled.id, settledIn_of_mem stored]
  exact handled.settled closed

/-- Who asks is remembered of every suggestion that a request settles. -/
def Docket.step (d : Docket K) (doing : Doing K) : Docket K where
  db := doing.2.1.perform cfg quoted offset d.db doing.1
  decided id := d.decided id || (doing.2.1.ofPeople && !settledIn d.db.interventions id &&
    settledIn (doing.2.1.perform cfg quoted offset d.db doing.1).interventions id)
  stands id known := (Bool.or_eq_true_iff.mp known).elim
    (fun before => settledIn_kept cfg quoted offset d.db doing.1 doing.2.2 (d.stands id before))
    (fun now => (Bool.and_eq_true_iff.mp now).2)

variable (g : KpGraph K) (classId : Nat) (examIds : Option (List Nat))

/-- Of the suggestions a summary is on, people have settled all that are settled. -/
def Docket.Honest (d : Docket K) : Prop :=
  ∀ r ∈ d.db.interventions.rows, inSummary g classId examIds r = true → isSettled r = true → d.decided r.id = true

/-- What people confirmed, over what people confirmed or skipped. -/
def Docket.peopleRate (d : Docket K) : Option K :=
  let confirmed := d.db.interventions.rows.countP (fun r =>
    inSummary g classId examIds r && d.decided r.id && isDone r)
  let skipped := d.db.interventions.rows.countP (fun r =>
    inSummary g classId examIds r && d.decided r.id && isSkipped r)
  rateOf confirmed (confirmed + skipped)

/-- No run closes an open suggestion that the summary is on. -/
def Docket.Spares (d : Docket K) (doing : Doing K) : Prop :=
  match doing.2.1 with
  | .generate g' classId' examId asOf sourceReportId eventsBySk =>
    ∀ r ∈ d.db.interventions.rows, inSummary g classId examIds r = true →
      ¬ Closes cfg d.db g' classId' ⟨examId, asOf, sourceReportId, eventsBySk⟩ r
  | _ => True

/-- A run leaves the rate of every summary that can be made. -/
def Docket.Steady (d : Docket K) (doing : Doing K) : Prop :=
  doing.2.1.isRun = true → ∀ clock before, interventionSummary cfg d.db g classId examIds clock = .ok before →
    ∃ after, interventionSummary cfg (d.step cfg quoted offset doing).db g classId examIds clock = .ok after ∧
      after.adoptionRate = before.adoptionRate

variable {cfg g classId examIds}

variable (cfg) in
/-- Between two summaries a run settles what it closes, and nothing else. -/
theorem honest_run {d : Docket K} (honest : d.Honest g classId examIds) (g' : KpGraph K) (classId' : Nat)
    (round : Round K) (now : DateTime) :
    (∀ r ∈ (generateInterventions cfg d.db g' classId' round.examId round.asOf round.sourceReportId now
        round.eventsBySk).1.rows, inSummary g classId examIds r = true → isSettled r = true → d.decided r.id = true) ↔
      ∀ r ∈ d.db.interventions.rows, inSummary g classId examIds r = true → ¬ Closes cfg d.db g' classId' round r := by
  have counted := countP_skipped cfg d.db g' classId' round now g classId examIds (fun id => !d.decided id)
  have none_ : d.db.interventions.rows.countP (fun r =>
      inSummary g classId examIds r && !d.decided r.id && isSkipped r) = 0 := by
    rw [List.countP_eq_zero]
    intro r stored
    have known := honest r stored
    grind [isSettled]
  rw [none_, Nat.zero_add] at counted
  have undecided : ∀ r ∈ d.db.interventions.rows, Closes cfg d.db g' classId' round r → d.decided r.id = false := by
    intro r stored closes
    by_contra known
    have settled := d.stands r.id (by simpa using known)
    rw [settledIn_of_mem stored, not_settled_of_pending closes.2.1] at settled
    cases settled
  have closed : d.db.interventions.rows.countP (fun r =>
      inSummary g classId examIds r && !d.decided r.id && decide (Closes cfg d.db g' classId' round r)) = 0 ↔
        ∀ r ∈ d.db.interventions.rows, inSummary g classId examIds r = true → ¬ Closes cfg d.db g' classId' round r := by
    rw [List.countP_eq_zero]
    apply forall₂_congr
    intro r stored
    have open_ := undecided r stored
    grind
  rw [← closed, ← counted, List.countP_eq_zero]
  constructor
  · intro all r stored
    have known := all r stored
    grind [isSettled]
  · intro left r stored listed settled
    cases done : isDone r with
    | true =>
      have kept : r ∈ d.db.interventions.select isDone := by
        rw [← generate_done cfg d.db g' classId' round.examId round.asOf round.eventsBySk round.sourceReportId now]
        exact List.mem_filter.mpr ⟨stored, done⟩
      exact honest r (List.mem_of_mem_filter kept) listed settled
    | false =>
      have excluded := left r stored
      grind [isSettled]

theorem honest_people {d : Docket K} {doing : Doing K} (people : doing.2.1.ofPeople = true)
    (honest : d.Honest g classId examIds) : (d.step cfg quoted offset doing).Honest g classId examIds := by
  obtain ⟨f, rows, handled⟩ := people_handled cfg quoted offset d.db doing.1 people
  intro r stored listed settled
  have now := settledIn_of_mem stored
  have found : r ∈ (doing.2.1.perform cfg quoted offset d.db doing.1).interventions.rows := stored
  rw [rows] at found
  obtain ⟨s, before, made⟩ := List.mem_map.mp found
  have same := handled s before
  rw [made] at same
  rw [same.inSummary g classId examIds] at listed
  have known := honest s before listed
  have old := settledIn_of_mem before
  simp only [Docket.step, people, Bool.true_and] at now ⊢
  rw [same.id] at now ⊢
  cases earlier : isSettled s with
  | true => rw [known earlier, Bool.true_or]
  | false => rw [old, now, earlier, settled, Bool.not_false, Bool.and_true, Bool.or_true]

theorem honest_others {d : Docket K} {doing : Doing K} (system : doing.2.1.ofPeople = false)
    (quiet : doing.2.1.isRun = false) (honest : d.Honest g classId examIds) :
    (d.step cfg quoted offset doing).Honest g classId examIds := by
  intro r stored listed settled
  have kept : r ∈ (doing.2.1.perform cfg quoted offset d.db doing.1).interventions.select isSettled :=
    List.mem_filter.mpr ⟨stored, settled⟩
  rw [others_settled cfg quoted offset d.db doing.1 doing.2.2 system quiet] at kept
  simp only [Docket.step, honest r (List.mem_of_mem_filter kept) listed settled, Bool.true_or]

/-- A docket stays honest over a step exactly when the step spares the summary. -/
theorem honest_step_iff (d : Docket K) (doing : Doing K) (honest : d.Honest g classId examIds) :
    (d.step cfg quoted offset doing).Honest g classId examIds ↔ d.Spares cfg g classId examIds doing := by
  obtain ⟨t, deed, aside⟩ := doing
  cases deed with
  | generate g' classId' examId asOf sourceReportId eventsBySk =>
    have exact_ := honest_run cfg honest g' classId' ⟨examId, asOf, sourceReportId, eventsBySk⟩ t
    simpa [Docket.Honest, Docket.step, Docket.Spares, Deed.perform, Deed.ofPeople] using exact_
  | recordIntervention dir ctx g' studentId kpCode kind examId note =>
    exact iff_of_true (honest_others quoted offset rfl rfl honest) trivial
  | studyPlan g' student kpCode asOf => exact iff_of_true (honest_others quoted offset rfl rfl honest) trivial
  | selfMark g' student recordId => exact iff_of_true (honest_people quoted offset rfl honest) trivial
  | operate dir ctx id withGroup op => exact iff_of_true (honest_people quoted offset rfl honest) trivial
  | other change => exact iff_of_true (honest_others quoted offset rfl rfl honest) trivial

theorem steady_of_spares (d : Docket K) (doing : Doing K) (spares : d.Spares cfg g classId examIds doing) :
    d.Steady cfg quoted offset g classId examIds doing := by
  obtain ⟨t, deed, aside⟩ := doing
  intro ran clock before read
  cases deed with
  | generate g' classId' examId asOf sourceReportId eventsBySk =>
    obtain ⟨rate, after, reread, rate'⟩ := summary_adoption
      (generate_done cfg d.db g' classId' examId asOf eventsBySk sourceReportId t) read
    have counted := countP_skipped cfg d.db g' classId' ⟨examId, asOf, sourceReportId, eventsBySk⟩ t g classId examIds
      (fun _ => true)
    have closed : d.db.interventions.rows.countP (fun r => inSummary g classId examIds r && true &&
        decide (Closes cfg d.db g' classId' ⟨examId, asOf, sourceReportId, eventsBySk⟩ r)) = 0 := by
      rw [List.countP_eq_zero]
      intro r stored
      have spared := spares r stored
      grind
    rw [closed, Nat.add_zero] at counted
    simp only [Bool.and_true] at counted
    have same : skippedIn g classId examIds (generateInterventions cfg d.db g' classId' examId asOf sourceReportId t
        eventsBySk).1 = skippedIn g classId examIds d.db.interventions := counted
    exact ⟨after, reread, by rw [rate, rate', same]⟩
  | recordIntervention dir ctx g' studentId kpCode kind examId note => cases ran
  | studyPlan g' student kpCode asOf => cases ran
  | selfMark g' student recordId => cases ran
  | operate dir ctx id withGroup op => cases ran
  | other change => cases ran

/-- The rate read off an honest docket is the people's. -/
theorem rate_of_honest {d : Docket K} (honest : d.Honest g classId examIds) {clock : DateTime}
    {summary : InterventionSummary K} (read : interventionSummary cfg d.db g classId examIds clock = .ok summary) :
    summary.adoptionRate = d.peopleRate g classId examIds := by
  have known : ∀ r ∈ d.db.interventions.rows, (inSummary g classId examIds r && isSettled r) = true →
      d.decided r.id = true := by
    intro r stored counted
    rw [Bool.and_eq_true] at counted
    exact honest r stored counted.1 counted.2
  have done : doneIn g classId examIds d.db.interventions = d.db.interventions.rows.countP (fun r =>
      inSummary g classId examIds r && d.decided r.id && isDone r) := by
    apply List.countP_congr
    intro r stored
    have decided := known r stored
    grind [isSettled]
  have skipped : skippedIn g classId examIds d.db.interventions = d.db.interventions.rows.countP (fun r =>
      inSummary g classId examIds r && d.decided r.id && isSkipped r) := by
    apply List.countP_congr
    intro r stored
    have decided := known r stored
    grind [isSettled]
  rw [(summary_adoption rfl read).1, done, skipped]
  rfl

/-- Whatever is done, the settled suggestions of a summary are those that people settled exactly as long as no run
    closes one; and as long as none does, its rate is the people's and stays what it is over every run. -/
theorem adoption_of_people (cfg : Config K) (quoted : String → String) (offset : Int) (g : KpGraph K) (classId : Nat)
    (examIds : Option (List Nat)) (start : Docket K) (doings : List (Doing K)) :
    ((∀ first rest, doings = first ++ rest →
        (run (Docket.step cfg quoted offset) start first).Honest g classId examIds) ↔
        start.Honest g classId examIds ∧
          Along (Docket.step cfg quoted offset) (Docket.Spares cfg g classId examIds) start doings) ∧
      (Along (Docket.step cfg quoted offset) (Docket.Spares cfg g classId examIds) start doings →
        Along (Docket.step cfg quoted offset) (Docket.Steady cfg quoted offset g classId examIds) start doings) ∧
      (start.Honest g classId examIds →
        Along (Docket.step cfg quoted offset) (Docket.Spares cfg g classId examIds) start doings →
        ∀ first rest, doings = first ++ rest → ∀ clock summary,
          interventionSummary cfg (run (Docket.step cfg quoted offset) start first).db g classId examIds clock =
              .ok summary →
            summary.adoptionRate = (run (Docket.step cfg quoted offset) start first).peopleRate g classId examIds) := by
  have exact_ : start.Honest g classId examIds →
      ((∀ first rest, doings = first ++ rest →
          (run (Docket.step cfg quoted offset) start first).Honest g classId examIds) ↔
        Along (Docket.step cfg quoted offset) (Docket.Spares cfg g classId examIds) start doings) :=
    along_iff_kept (fun _ _ (_ : True) => trivial)
      (fun d doing _ honest => honest_step_iff quoted offset d doing honest) doings start trivial
  refine ⟨?_, ?_, ?_⟩
  · constructor
    · intro always
      have first := always [] doings rfl
      exact ⟨first, (exact_ first).mp always⟩
    · intro both
      exact (exact_ both.1).mpr both.2
  · rw [along_iff_every, along_iff_every]
    intro spared first doing rest split
    exact steady_of_spares quoted offset _ doing (spared first doing rest split)
  · intro honest spared first rest split clock summary read
    exact rate_of_honest ((exact_ honest).mpr spared first rest split) read

end

instance (g : KpGraph ℚ) (classId : Nat) (examIds : Option (List Nat)) (d : Docket ℚ) :
    Decidable (d.Honest g classId examIds) :=
  inferInstanceAs (Decidable (∀ r ∈ d.db.interventions.rows, _))

instance (cfg : Config ℚ) (g : KpGraph ℚ) (classId : Nat) (examIds : Option (List Nat)) (d : Docket ℚ) :
    ∀ doing, Decidable (d.Spares cfg g classId examIds doing)
  | ⟨_, .generate _ _ _ _ _ _, _⟩ => inferInstanceAs (Decidable (∀ r ∈ d.db.interventions.rows, _))
  | ⟨_, .recordIntervention _ _ _ _ _ _ _ _, _⟩ => isTrue trivial
  | ⟨_, .studyPlan _ _ _ _, _⟩ => isTrue trivial
  | ⟨_, .selfMark _ _ _, _⟩ => isTrue trivial
  | ⟨_, .operate _ _ _ _ _, _⟩ => isTrue trivial
  | ⟨_, .other _, _⟩ => isTrue trivial

/-- The same class with one suggestion already carried out. -/
def adopted (rate : ℚ) : Db ℚ :=
  { retaken rate with
    interventions := .ofList [{ openRow 1 4 .suggested with studentId := none, kind := .reteach, scope := .wholeClass },
      { openRow 2 4 .done with studentId := none, kind := .reteach, scope := .wholeClass, doneAt := some (noon 1) }] }

/-- A teacher confirmed the second suggestion, and nobody has answered the first. -/
def adoptedDocket (rate : ℚ) : Docket ℚ where
  db := adopted rate
  decided id := id == 2
  stands id known := by
    rw [eq_of_beq known]
    rfl

def retake : Doing ℚ := (noon 6, ⟨.generate crowdedGraph 1 5 (noon 6) none none, trivial⟩)

def skipFirst : Doing ℚ :=
  (noon 7, ⟨.operate ⟨fun _ => "", fun _ => some ⟨"七年级1班", "数学", none⟩, [], .ofList [examOn 4 0, examOn 5 5],
    fun _ => none, false⟩ ⟨none⟩ 1 false (.skip none), trivial⟩)

def adoption (db : Db ℚ) : Option (Option ℚ) :=
  (interventionSummary Config.rational db crowdedGraph 1 none (noon 6)).toOption.map InterventionSummary.adoptionRate

/-- All four do well, so that a run closes nothing: the rate stays 1 over it, falls to one half as a teacher skips the
    first suggestion, and stays there over the next. -/
theorem adoption_of_people_skipped :
    (run (Docket.step Config.rational id 0) (adoptedDocket 1) [retake, skipFirst, retake]).Honest crowdedGraph 1 none ∧
      Along (Docket.step Config.rational id 0) (Docket.Steady Config.rational id 0 crowdedGraph 1 none) (adoptedDocket 1)
        [retake, skipFirst, retake] ∧
      adoption (run (Docket.step Config.rational id 0) (adoptedDocket 1) [retake]).db = some (some 1) ∧
      ∃ summary, interventionSummary Config.rational (run (Docket.step Config.rational id 0) (adoptedDocket 1)
          [retake, skipFirst, retake]).db crowdedGraph 1 none (noon 6) = .ok summary ∧
        summary.adoptionRate = some (1 / 2) := by
  have start : (adoptedDocket 1).Honest crowdedGraph 1 none := by decide +kernel
  have spared : Along (Docket.step Config.rational id 0) (Docket.Spares Config.rational crowdedGraph 1 none)
      (adoptedDocket 1) [retake, skipFirst, retake] := by decide +kernel
  obtain ⟨honest, steady, rated⟩ := adoption_of_people Config.rational id 0 crowdedGraph 1 none (adoptedDocket 1)
    [retake, skipFirst, retake]
  refine ⟨honest.mpr ⟨start, spared⟩ [retake, skipFirst, retake] [] rfl, steady spared, by decide +kernel, ?_⟩
  cases read : interventionSummary Config.rational (run (Docket.step Config.rational id 0) (adoptedDocket 1)
      [retake, skipFirst, retake]).db crowdedGraph 1 none (noon 6) with
  | error e =>
    have made : (adoption (run (Docket.step Config.rational id 0) (adoptedDocket 1)
        [retake, skipFirst, retake]).db).isSome := by decide +kernel
    rw [adoption, read] at made
    cases made
  | ok summary =>
    refine ⟨summary, rfl, ?_⟩
    rw [rated start spared [retake, skipFirst, retake] [] rfl (noon 6) summary read]
    decide +kernel

/-- One pupil of four does badly: the run puts the suggestion away, and the rate falls from 1 to one half, though
    nobody has decided anything and the rate over people's decisions is still 1. -/
theorem adoption_halved :
    adoption (adopted 0) = some (some 1) ∧
      adoption { adopted 0 with interventions := (generateInterventions Config.rational (adopted 0) crowdedGraph 1 5
        (noon 6) none (noon 6) none).1 } = some (some (1 / 2)) ∧
      ((adoptedDocket 0).step Config.rational id 0 retake).peopleRate crowdedGraph 1 none = some 1 := by
  refine ⟨?_, ?_, ?_⟩
  · decide +kernel
  · decide +kernel
  · decide +kernel

end KnowledgeGap
