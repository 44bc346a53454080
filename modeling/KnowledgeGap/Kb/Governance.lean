import KnowledgeGap.Kb.Activation

namespace KnowledgeGap.Kb

open Relational Protocol

variable {K : Type}

/-- The version in force for a class of the grade: one of the grade, else one that all grades share. -/
def answering (versions : Table KbVersion) (subject : String) (grade : Int) : Option KbVersion :=
  newestFor (some grade) (versions.select (fun v => isActive v && ofSubject (some subject) v))

/-- In force for the subject, and of the grade or of no grade. -/
structure Serves (subject : String) (grade : Int) (v : KbVersion) : Prop where
  running : v.status = .active
  topic : v.subject = subject
  level : v.grade = some grade ∨ v.grade = none

theorem mem_ungraded {versions : Table KbVersion} {subject : String} {v : KbVersion} :
    v ∈ (versions.select (fun v => isActive v && ofSubject (some subject) v)).filter (fun v => decide (v.grade = none)) ↔
      v ∈ versions.rows ∧ v.status = .active ∧ v.subject = subject ∧ v.grade = none := by
  simp only [Table.select, List.mem_filter, isActive, ofSubject, Option.all_some, Bool.and_eq_true,
    decide_eq_true_eq, beq_iff_eq, and_assoc]

/-- The answer is the newest of its grade, and a shared version answers only for want of one of the grade. -/
structure Answers (versions : Table KbVersion) (subject : String) (grade : Int) (v : KbVersion) : Prop extends
    Serves subject grade v where
  stored : v ∈ versions.rows
  newest : ∀ w ∈ versions.rows, w.status = .active → w.subject = subject → w.grade = v.grade → w.id ≤ v.id
  shared : v.grade = none → ∀ w ∈ versions.rows, w.status = .active → w.subject = subject → w.grade ≠ some grade

section
variable {versions after : Table KbVersion} {subject : String} {grade : Int} {current : KbVersion}

theorem answering_eq_some_iff : answering versions subject grade = some current ↔ Answers versions subject grade current := by
  have distinct : ∀ xs : List KbVersion, (∀ x ∈ xs, x ∈ versions.rows) →
      ∀ x ∈ xs, ∀ y ∈ xs, KbVersion.id x = KbVersion.id y → x = y := by
    intro xs within x left y right same
    exact versions.key_inj (within x left) (within y right) same
  have exact_ := distinct (inForce versions subject grade) (fun x listed => (mem_inForce.mp listed).1)
  have ungraded := distinct _ (fun x (listed : x ∈ (versions.select (fun v => isActive v &&
    ofSubject (some subject) v)).filter (fun v => decide (v.grade = none))) => (mem_ungraded.mp listed).1)
  show (latest KbVersion.id (inForce versions subject grade)).or (latest KbVersion.id _) = some current ↔ _
  rw [Option.or_eq_some_iff, latest_eq_some_iff exact_, latest_eq_none_iff, latest_eq_some_iff ungraded]
  constructor
  · rintro (⟨listed, top⟩ | ⟨empty, listed, top⟩)
    · obtain ⟨stored, running, same, own⟩ := mem_inForce.mp listed
      refine ⟨⟨running, same, Or.inl own⟩, stored, ?_, ?_⟩
      · intro w member active subj level
        exact top w (mem_inForce.mpr ⟨member, active, subj, level.trans own⟩)
      · intro none
        rw [own] at none
        cases none
    · obtain ⟨stored, running, same, own⟩ := mem_ungraded.mp listed
      refine ⟨⟨running, same, Or.inr own⟩, stored, ?_, ?_⟩
      · intro w member active subj level
        exact top w (mem_ungraded.mpr ⟨member, active, subj, level.trans own⟩)
      · intro _ w member active subj level
        have listed := mem_inForce.mpr ⟨member, active, subj, level⟩
        rw [empty] at listed
        cases listed
  · intro held
    rcases held.level with own | own
    · refine Or.inl ⟨mem_inForce.mpr ⟨held.stored, held.running, held.topic, own⟩, ?_⟩
      intro w listed
      obtain ⟨member, active, subj, level⟩ := mem_inForce.mp listed
      exact held.newest w member active subj (level.trans own.symm)
    · refine Or.inr ⟨?_, mem_ungraded.mpr ⟨held.stored, held.running, held.topic, own⟩, ?_⟩
      · rw [List.eq_nil_iff_forall_not_mem]
        intro w listed
        obtain ⟨member, active, subj, level⟩ := mem_inForce.mp listed
        exact held.shared own w member active subj level
      · intro w listed
        obtain ⟨member, active, subj, level⟩ := mem_ungraded.mp listed
        exact held.newest w member active subj (level.trans own.symm)

theorem answering_eq_none_iff :
    answering versions subject grade = none ↔ ∀ w ∈ versions.rows, ¬ Serves subject grade w := by
  show (latest KbVersion.id (inForce versions subject grade)).or (latest KbVersion.id _) = none ↔ _
  rw [Option.or_eq_none_iff, latest_eq_none_iff, latest_eq_none_iff, List.eq_nil_iff_forall_not_mem,
    List.eq_nil_iff_forall_not_mem]
  constructor
  · intro absent w member serves
    rcases serves.level with own | own
    · exact absent.1 w (mem_inForce.mpr ⟨member, serves.running, serves.topic, own⟩)
    · exact absent.2 w (mem_ungraded.mpr ⟨member, serves.running, serves.topic, own⟩)
  · intro absent
    refine ⟨?_, ?_⟩
    · intro w listed
      obtain ⟨member, running, same, own⟩ := mem_inForce.mp listed
      exact absent w member ⟨running, same, Or.inl own⟩
    · intro w listed
      obtain ⟨member, running, same, own⟩ := mem_ungraded.mp listed
      exact absent w member ⟨running, same, Or.inr own⟩

/-- The answer stays when its row does and nothing that could stand before it is new. -/
theorem answering_eq_of_old
    (kept : ∀ v, answering versions subject grade = some v → v ∈ after.rows)
    (old : ∀ w ∈ after.rows, Serves subject grade w →
      (w.grade = none → inForce versions subject grade = []) → w ∈ versions.rows) :
    answering after subject grade = answering versions subject grade := by
  cases found : answering versions subject grade with
  | none =>
    have absent := answering_eq_none_iff.mp found
    rw [answering_eq_none_iff]
    intro w member serves
    refine absent w (old w member serves ?_) serves
    intro _
    rw [List.eq_nil_iff_forall_not_mem]
    intro x listed
    obtain ⟨there, running, same, own⟩ := mem_inForce.mp listed
    exact absent x there ⟨running, same, Or.inl own⟩
  | some v =>
    have held := answering_eq_some_iff.mp found
    have alone : v.grade = none → inForce versions subject grade = [] := by
      intro own
      rw [List.eq_nil_iff_forall_not_mem]
      intro x listed
      obtain ⟨there, running, same, level⟩ := mem_inForce.mp listed
      exact held.shared own x there running same level
    rw [answering_eq_some_iff]
    refine ⟨held.toServes, kept v found, ?_, ?_⟩
    · intro w member running same level
      refine held.newest w (old w member ⟨running, same, level ▸ held.level⟩ ?_) running same level
      intro own
      exact alone (level.symm.trans own)
    · intro own w member running same level
      refine held.shared own w (old w member ⟨running, same, Or.inl level⟩ ?_) running same level
      intro none
      rw [level] at none
      cases none

theorem activeKb_eq (env : Deployment) (versions : Table KbVersion) (subject : String) (grade : Int) :
    activeKb env versions (some subject) (some grade) =
      match answering versions subject grade with
      | some kb => .ok (some kb)
      | none =>
        if env.strictActive then .error ⟨some subject, some grade⟩
        else .ok (newestFor (some grade) (versions.select (ofSubject (some subject)))) := rfl

end

section
variable [Field K] [LinearOrder K] (env : Deployment)

theorem importKb_scopes (db : Db K) (doc : KbDoc K) : (importKb db doc).1.subjectScopes = db.subjectScopes := by
  unfold importKb
  split
  · rfl
  · split
    · rfl
    · split
      · rfl
      · dsimp only
        split
        · rfl
        · split <;> rfl

/-- No call to the version endpoints grants a scope. -/
theorem step_scopes (db : Db K) (call : AccessContext × KbRequest K) :
    (step env db call).subjectScopes = db.subjectScopes := by
  have served := step_served env db call
  generalize step env db call = after at served ⊢
  cases served with
  | refused => rfl
  | created req => rfl
  | forked src => rfl
  | restated target status confirm force stored asked content allowed => rfl
  | switched target replaced confirm force stored asked allowed resolved inactive accepted => rfl
  | imported doc asked id filed => exact importKb_scopes db doc

def asTeacher (teacher : Teacher) : AccessContext := ⟨some teacher⟩

/-- No scope row gives the teacher this subject at this grade. -/
def Unscoped (db : Db K) (teacher : Teacher) (subject : String) (grade : Int) : Prop :=
  ∀ row ∈ db.subjectScopes.rows, row.teacherId = teacher.id → ¬ (row.subject = subject ∧ row.grade = grade)

/-- The endpoint carries the call out. -/
def accepted (db : Db K) (teacher : Teacher) (req : KbRequest K) : Bool := (handle env db (asTeacher teacher) req).isOk

/-- An accepted call that takes the answering version out of force for another reason than a successor of its own
    grade: a content edit of its status, or an activation that finds it as the newest of the subject. -/
def Unseats (db : Db K) (teacher : Teacher) (subject : String) (grade : Int) (req : KbRequest K) : Prop :=
  accepted env db teacher req = true ∧ ∃ current, answering db.kbVersions subject grade = some current ∧
    ((∃ status confirm force, status ≠ .active ∧ req = .patch current.id status confirm force) ∨
      ∃ target ∈ db.kbVersions.rows, ∃ confirm force, req = .patch target.id .active confirm force ∧
        newestActive db.kbVersions target.subject = some current ∧ target.grade ≠ current.grade)

/-- An accepted call that puts an ungraded version of the subject into force while the grade has none of its own. -/
def Shares (db : Db K) (teacher : Teacher) (subject : String) (grade : Int) (req : KbRequest K) : Prop :=
  accepted env db teacher req = true ∧ ∃ target ∈ db.kbVersions.rows, ∃ confirm force,
    req = .patch target.id .active confirm force ∧ target.subject = subject ∧ target.grade = none ∧
      inForce db.kbVersions subject grade = []

theorem step_of_refused {db : Db K} {teacher : Teacher} {req : KbRequest K} (refused : accepted env db teacher req = false) :
    step env db (asTeacher teacher, req) = db := by
  unfold accepted at refused
  unfold step
  split
  · rename_i after served
    simp only [served, Except.isOk, Except.toBool] at refused
    cases refused
  · rfl

omit [Field K] [LinearOrder K] in
theorem not_govern {db : Db K} {teacher : Teacher} {subject : String} {grade : Int} (plain : teacher.admin = false)
    (unscoped : Unscoped db teacher subject grade) :
    canGovernKb env db (asTeacher teacher) subject (some grade) = false := by
  have scopes : subjectScopes db (asTeacher teacher) = some ((db.subjectScopes.select
      (fun row => row.teacherId == teacher.id)).map (fun row => (row.subject, row.grade))) := by
    simp [subjectScopes, asTeacher, plain]
  have outside : (subject, grade) ∉ (db.subjectScopes.select (fun row => row.teacherId == teacher.id)).map
      (fun row => (row.subject, row.grade)) := by
    intro listed
    obtain ⟨row, kept, same⟩ := List.mem_map.mp listed
    obtain ⟨stored, own⟩ := List.mem_filter.mp kept
    exact unscoped row stored (by simpa using own) ⟨congrArg Prod.fst same, congrArg Prod.snd same⟩
  unfold canGovernKb scopeCovers
  rw [scopes]
  simp only [Option.getD_some]
  simp [asTeacher, AccessContext.isAdmin, plain, outside]

section
variable {db : Db K} {subject : String} {grade : Int}

omit [Field K] [LinearOrder K] in
/-- A version filed out of force answers for nobody. -/
theorem answering_filed {versions : Table KbVersion} {v : KbVersion} (rows : versions.rows = db.kbVersions.rows ++ [v])
    (idle : v.status ≠ .active) : answering versions subject grade = answering db.kbVersions subject grade := by
  apply answering_eq_of_old
  · intro current found
    rw [rows]
    exact List.mem_append_left _ (answering_eq_some_iff.mp found).stored
  · intro w member serves _
    rw [rows, List.mem_append, List.mem_singleton] at member
    rcases member with known | rfl
    · exact known
    · exact absurd serves.running idle

omit [Field K] [LinearOrder K] in
theorem answering_restated {target : KbVersion} {status : KbStatus} (out : status ≠ .active)
    (seated : ∀ current, answering db.kbVersions subject grade = some current → current.id ≠ target.id) :
    answering (setStatus db.kbVersions target.id status) subject grade = answering db.kbVersions subject grade := by
  apply answering_eq_of_old
  · intro current found
    rw [rows_setStatus]
    refine List.mem_map.mpr ⟨current, (answering_eq_some_iff.mp found).stored, ?_⟩
    rw [restatedRow, if_neg (seated current found)]
  · intro w member serves _
    rw [rows_setStatus] at member
    rcases List.mem_map.mp member with ⟨v, known, rfl⟩
    have running := serves.running
    unfold restatedRow at running ⊢
    split at running
    · exact absurd running out
    · rename_i other
      rw [if_neg other]
      exact known

omit [Field K] [LinearOrder K] in
/-- A switch of another grade leaves the answer, where it neither finds it as the newest of the subject nor puts an
    ungraded version into force for a grade without its own. -/
theorem answering_switched {target : KbVersion} {replaced : Option KbVersion} (stored : target ∈ db.kbVersions.rows)
    (resolved : replacedBy env db target = .ok replaced) (inactive : target.status ≠ .active)
    (otherGrade : target.subject = subject → target.grade ≠ some grade)
    (seated : ∀ current, answering db.kbVersions subject grade = some current →
      newestActive db.kbVersions target.subject = some current → target.grade = current.grade)
    (unshared : target.subject = subject → target.grade = none → inForce db.kbVersions subject grade ≠ []) :
    answering (switched db.kbVersions target replaced) subject grade = answering db.kbVersions subject grade := by
  apply answering_eq_of_old
  · intro current found
    have held := answering_eq_some_iff.mp found
    have notTarget : current.id ≠ target.id := by
      intro same
      rw [db.kbVersions.key_inj held.stored stored same] at held
      exact inactive held.running
    rw [rows_switched]
    refine List.mem_map.mpr ⟨current, held.stored, ?_⟩
    rw [switchedRow, if_neg notTarget, if_neg]
    intro down
    cases replaced with
    | none => simp at down
    | some r =>
      rcases mem_of_replacedBy env resolved with ⟨listed, subj, standing⟩
      have keys : current.id = r.id := by simpa using down
      have same : r = current := db.kbVersions.key_inj listed held.stored keys.symm
      subst same
      have topic : target.subject = subject := subj.symm.trans held.topic
      rcases standing with newest | none
      · have level := seated r found newest
        rcases held.level with own | own
        · exact otherGrade topic (level.trans own)
        · apply unshared topic (level.trans own)
          rw [List.eq_nil_iff_forall_not_mem]
          intro x there
          rcases mem_inForce.mp there with ⟨member, running, same, exact_⟩
          exact held.shared own x member running same exact_
      · exact newestActive_eq_none_iff.mp none r listed subj held.running
  · intro w member serves alone
    rw [rows_switched] at member
    rcases List.mem_map.mp member with ⟨v, known, rfl⟩
    rcases switchedRow_running serves.running with isTarget | ⟨same, _, _⟩
    · rw [db.kbVersions.key_inj known stored isTarget] at serves alone
      have row : switchedRow target replaced target = withStatus .active target := by
        rw [switchedRow, if_pos rfl]
      rw [row] at serves alone
      rcases serves.level with own | own
      · exact absurd own (otherGrade serves.topic)
      · exact absurd (alone own) (unshared serves.topic own)
    · rw [same]
      exact known

end

theorem step_answering {db : Db K} {teacher : Teacher} {subject : String} {grade : Int}
    (plain : teacher.admin = false) (unscoped : Unscoped db teacher subject grade) {req : KbRequest K}
    (endpoint : ∀ doc, req ≠ .import doc) (seated : ¬ Unseats env db teacher subject grade req)
    (unshared : ¬ Shares env db teacher subject grade req) :
    answering (step env db (asTeacher teacher, req)).kbVersions subject grade = answering db.kbVersions subject grade := by
  cases served : accepted env db teacher req with
  | false => rw [step_of_refused env served]
  | true =>
    have change := step_change env db (asTeacher teacher, req)
    generalize (step env db (asTeacher teacher, req)).kbVersions = after at change ⊢
    cases change with
    | kept => rfl
    | filed v rows key status =>
      apply answering_filed rows
      rcases status with drafted | ⟨doc, asked, _⟩
      · simp [drafted]
      · exact absurd asked (endpoint doc)
    | restated target status confirm force stored asked content allowed =>
      have out : status ≠ .active := by
        rcases content with rfl | rfl <;> simp
      apply answering_restated out
      intro current found same
      exact seated ⟨served, current, found, Or.inl ⟨status, confirm, force, out, same ▸ asked⟩⟩
    | switched target replaced confirm force stored asked allowed resolved inactive went =>
      apply answering_switched env stored resolved inactive
      · intro topic level
        simp only [permitted, Bool.and_eq_true] at allowed
        have governs := allowed.2
        rw [topic, level, not_govern env plain unscoped] at governs
        cases governs
      · intro current found newest
        by_contra level
        exact seated ⟨served, current, found, Or.inr ⟨target, stored, confirm, force, asked, newest, level⟩⟩
      · intro topic ungraded alone
        exact unshared ⟨served, target, stored, confirm, force, asked, topic, ungraded, alone⟩

variable {env}

/-- A teacher without the scope leaves the answer for it alone, as long as no call is accepted that shares an ungraded
    version with it or unseats the answer. -/
theorem governance_confined {db : Db K} {teacher : Teacher} (plain : teacher.admin = false) {subject : String}
    {grade : Int} (unscoped : Unscoped db teacher subject grade)
    (settled : env.strictActive = true ∨ answering db.kbVersions subject grade ≠ none) {requests : List (KbRequest K)}
    (endpoints : ∀ req ∈ requests, ∀ doc, req ≠ .import doc)
    (confined : Along (fun db req => step env db (asTeacher teacher, req))
      (fun db req => ¬ Shares env db teacher subject grade req ∧ ¬ Unseats env db teacher subject grade req) db requests) :
    activeKb env (run (fun db req => step env db (asTeacher teacher, req)) db requests).kbVersions
        (some subject) (some grade) =
      activeKb env db.kbVersions (some subject) (some grade) := by
  have same : answering (run (fun db req => step env db (asTeacher teacher, req)) db requests).kbVersions
      subject grade = answering db.kbVersions subject grade := by
    clear settled
    induction requests generalizing db with
    | nil => rfl
    | cons req requests ih =>
      have here := step_answering env plain unscoped (endpoints req (by simp)) confined.1.2 confined.1.1
      have still : Unscoped (step env db (asTeacher teacher, req)) teacher subject grade := by
        unfold Unscoped
        rw [step_scopes]
        exact unscoped
      rw [run_cons, ih still (fun r later => endpoints r (by simp [later])) confined.2, here]
  rw [activeKb_eq, activeKb_eq, same]
  cases found : answering db.kbVersions subject grade with
  | some kb => rfl
  | none =>
    rcases settled with strict | answered
    · simp [strict]
    · exact absurd found answered

end

def secured : Deployment := ⟨false, true⟩

def gradeEightLead : Teacher := ⟨5, false, false⟩

def sharedVersion (id : Nat) (status : KbStatus) : KbVersion := ⟨id, "数学", none, "人教版", "1", status⟩

def schoolBase (versions : List KbVersion) : Db ℚ :=
  { Db.empty ℚ with
    subjectScopes := Table.ofList [⟨1, 5, "数学", 8⟩]
    kbVersions := Table.ofList versions }

theorem unscoped_seven (versions : List KbVersion) (teacher : Teacher) : Unscoped (schoolBase versions) teacher "数学" 7 := by
  intro row stored _ same
  rw [List.mem_singleton.mp (show row ∈ [(⟨1, 5, "数学", 8⟩ : TeacherSubjectScope)] from stored)] at same
  exact absurd same.2 (by decide)

def twoGrades : Db ℚ := schoolBase [versionFor 1 7 .active, versionFor 2 8 .active, versionFor 3 8 .draft]

/-- The lead of grade 8 is refused the version of grade 7 and replaces its own. -/
theorem governance_confined_eight :
    activeKb secured (run (fun db req => step secured db (asTeacher gradeEightLead, req)) twoGrades
        [.patch 1 .draft false false, .patch 3 .active false false]).kbVersions (some "数学") (some 7) =
      .ok (some (versionFor 1 7 .active)) := by
  have refused : accepted secured twoGrades gradeEightLead (.patch 1 .draft false false) = false := by decide
  have kept : newestActive twoGrades.kbVersions "数学" = some (versionFor 2 8 .active) := by decide
  have answer : answering twoGrades.kbVersions "数学" 7 = some (versionFor 1 7 .active) := by decide
  have three : twoGrades.kbVersions.get? 3 = some (versionFor 3 8 .draft) := by decide
  have target : ∀ v ∈ twoGrades.kbVersions.rows, ∀ confirm force,
      (KbRequest.patch 3 .active false false : KbRequest ℚ) = .patch v.id .active confirm force →
      v = versionFor 3 8 .draft := by
    intro v stored confirm force asked
    injection asked with key
    have found : twoGrades.kbVersions.get? v.id = some v := Table.get?_of_mem stored
    rw [← key, three] at found
    exact (Option.some.inj found).symm
  have confined : Along (fun db req => step secured db (asTeacher gradeEightLead, req))
      (fun db req => ¬ Shares secured db gradeEightLead "数学" 7 req ∧ ¬ Unseats secured db gradeEightLead "数学" 7 req)
      twoGrades [.patch 1 .draft false false, .patch 3 .active false false] := by
    refine ⟨⟨?_, ?_⟩, ?_⟩
    · rintro ⟨served, -⟩
      rw [refused] at served
      cases served
    · rintro ⟨served, -⟩
      rw [refused] at served
      cases served
    · beta_reduce
      rw [step_of_refused secured refused]
      refine ⟨⟨?_, ?_⟩, trivial⟩
      · rintro ⟨_, v, stored, confirm, force, asked, _, shared, _⟩
        rw [target v stored confirm force asked] at shared
        cases shared
      · rintro ⟨_, current, found, ⟨status, confirm, force, out, asked⟩ | ⟨v, stored, confirm, force, asked, newest, _⟩⟩
        · injection asked with _ same
          exact out same.symm
        · rw [target v stored confirm force asked] at newest
          rw [answer] at found
          cases found
          have clash := kept.symm.trans newest
          exact absurd clash (by decide)
  have endpoints : ∀ req ∈ [(.patch 1 .draft false false : KbRequest ℚ), .patch 3 .active false false],
      ∀ doc, req ≠ .import doc := by
    intro req listed doc same
    rcases List.mem_cons.mp listed with rfl | last
    · cases same
    · rw [List.mem_singleton.mp last] at same
      cases same
  have outside : Unscoped twoGrades gradeEightLead "数学" 7 := unscoped_seven _ _
  have answered : answering twoGrades.kbVersions "数学" 7 ≠ none := by simp [answer]
  rw [governance_confined (rfl : gradeEightLead.admin = false) outside (Or.inr answered) endpoints confined]
  decide

def kbEditorElsewhere : Teacher := ⟨6, false, true⟩

/-- One call of a teacher without the scope takes the answer for grade 7 from one version to another. -/
def Moves (teacher : Teacher) (versions : List KbVersion) (req : KbRequest ℚ) (before after : Option KbVersion) : Prop :=
  Unscoped (schoolBase versions) teacher "数学" 7 ∧
    activeKb secured (schoolBase versions).kbVersions (some "数学") (some 7) = .ok before ∧
    activeKb secured (run (fun db req => step secured db (asTeacher teacher, req)) (schoolBase versions) [req]).kbVersions
      (some "数学") (some 7) = .ok after

/-- An ungraded version is shared by all grades; with nothing in force a draft answers; content rights restate the
    answering version; an activation of another grade replaces the newest of the subject. -/
theorem governance_shared :
    Moves gradeEightLead [sharedVersion 1 .active, sharedVersion 2 .draft] (.patch 2 .active false false)
        (some (sharedVersion 1 .active)) (some (sharedVersion 2 .active)) ∧
      Moves gradeEightLead [] (.create ⟨"数学", none, "人教版", "1"⟩) none (some (sharedVersion 1 .draft)) ∧
      Moves kbEditorElsewhere [versionFor 1 7 .active, versionFor 2 7 .draft] (.patch 1 .reviewed false false)
        (some (versionFor 1 7 .active)) (some (versionFor 2 7 .draft)) ∧
      Moves gradeEightLead [versionFor 1 7 .active, versionFor 2 7 .draft, versionFor 3 8 .draft] (.patch 3 .active false false)
        (some (versionFor 1 7 .active)) (some (versionFor 2 7 .draft)) := by
  refine ⟨⟨unscoped_seven _ _, ?_, ?_⟩, ⟨unscoped_seven _ _, ?_, ?_⟩, ⟨unscoped_seven _ _, ?_, ?_⟩,
    ⟨unscoped_seven _ _, ?_, ?_⟩⟩ <;> decide

end KnowledgeGap.Kb
