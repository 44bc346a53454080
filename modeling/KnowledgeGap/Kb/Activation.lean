import KnowledgeGap.Kb.Requests

namespace KnowledgeGap.Kb

open Relational Protocol

variable {K : Type}

def restatedRow (id : Nat) (status : KbStatus) (v : KbVersion) : KbVersion :=
  if v.id = id then withStatus status v else v

theorem rows_setStatus (versions : Table KbVersion) (id : Nat) (status : KbStatus) :
    (setStatus versions id status).rows = versions.rows.map (restatedRow id status) := by
  apply List.map_congr_left
  intro v _
  simp [restatedRow, Keyed.key]

/-- The table after an activation: the replaced version stands down, the target comes into force. -/
def switched (versions : Table KbVersion) (target : KbVersion) : Option KbVersion → Table KbVersion
  | none => setStatus versions target.id .active
  | some replaced => setStatus (setStatus versions replaced.id .reviewed) target.id .active

def switchedRow (target : KbVersion) (replaced : Option KbVersion) (v : KbVersion) : KbVersion :=
  if v.id = target.id then withStatus .active v
  else if replaced.any (fun r => decide (v.id = r.id)) then withStatus .reviewed v
  else v

theorem rows_switched (versions : Table KbVersion) (target : KbVersion) (replaced : Option KbVersion) :
    (switched versions target replaced).rows = versions.rows.map (switchedRow target replaced) := by
  cases replaced with
  | none =>
    show (setStatus versions target.id .active).rows = _
    rw [rows_setStatus]
    rfl
  | some r =>
    show (setStatus (setStatus versions r.id .reviewed) target.id .active).rows = _
    rw [rows_setStatus, rows_setStatus, List.map_map]
    apply List.map_congr_left
    intro v _
    rw [Function.comp_apply]
    by_cases stoodDown : v.id = r.id
    · have inner : restatedRow r.id .reviewed v = withStatus .reviewed v := if_pos stoodDown
      rw [inner, restatedRow, switchedRow]
      by_cases isTarget : v.id = target.id
      · rw [if_pos isTarget, if_pos (show (withStatus .reviewed v).id = target.id from isTarget)]
        rfl
      · rw [if_neg isTarget, if_neg (show ¬ (withStatus .reviewed v).id = target.id from isTarget)]
        simp [stoodDown]
    · have inner : restatedRow r.id .reviewed v = v := if_neg stoodDown
      rw [inner, restatedRow, switchedRow]
      simp [stoodDown]

theorem switchedRow_id (target : KbVersion) (replaced : Option KbVersion) (v : KbVersion) :
    (switchedRow target replaced v).id = v.id := by
  unfold switchedRow
  split
  · rfl
  · split <;> rfl

section
variable [DecidableEq K]

/-- The switch asks for neither `force` nor `confirm` beyond what the caller gave. -/
def accepts (db : Db K) (target : KbVersion) (force confirm : Bool) : Option KbVersion → Bool
  | none => true
  | some replaced =>
    ((compatibility db replaced target).missingCodes.isEmpty || force) &&
      ((compatibility db replaced target).attributeChanges.isEmpty || confirm)

theorem activateKbVersion_ok_iff {db : Db K} {target : KbVersion} {replaced : Option KbVersion} {force confirm : Bool}
    {versions : Table KbVersion} :
    (∃ answer, activateKbVersion db target replaced force confirm = .ok (versions, answer)) ↔
      target.status ≠ .active ∧ accepts db target force confirm replaced = true ∧
        versions = switched db.kbVersions target replaced := by
  unfold activateKbVersion
  by_cases running : target.status = .active
  · simp [running]
  · rw [if_neg running]
    cases replaced with
    | none =>
      simp only [Except.ok.injEq, Prod.mk.injEq, accepts, switched, ne_eq, running, not_false_eq_true, true_and]
      constructor
      · rintro ⟨_, rfl, _⟩
        rfl
      · rintro rfl
        exact ⟨_, rfl, rfl⟩
    | some r =>
      dsimp only
      by_cases missing : (compatibility db r target).missingCodes ≠ [] ∧ force = false
      · rw [if_pos missing]
        simp [accepts, missing.1, missing.2]
      · rw [if_neg missing]
        by_cases changed : (compatibility db r target).attributeChanges ≠ [] ∧ confirm = false
        · rw [if_pos changed]
          simp [accepts, changed.1, changed.2]
        · rw [if_neg changed]
          have codes : ((compatibility db r target).missingCodes.isEmpty || force) = true := by
            cases force <;> simp_all
          have fields : ((compatibility db r target).attributeChanges.isEmpty || confirm) = true := by
            cases confirm <;> simp_all
          simp only [accepts, codes, fields, Except.ok.injEq, Prod.mk.injEq, switched, ne_eq, running,
            not_false_eq_true, true_and, Bool.and_self]
          constructor
          · rintro ⟨_, rfl, _⟩
            rfl
          · rintro rfl
            exact ⟨_, rfl, rfl⟩

end

/-- The newest active version of a subject, whatever its grade. -/
def newestActive (versions : Table KbVersion) (subject : String) : Option KbVersion :=
  latest KbVersion.id (versions.select (fun v => isActive v && ofSubject (some subject) v))

/-- The version the resolver falls back to: the newest of the subject, reviewed or not. -/
def newestOf (versions : Table KbVersion) (subject : String) : Option KbVersion :=
  latest KbVersion.id (versions.select (ofSubject (some subject)))

section
variable (env : Deployment)

theorem activeKb_subject (versions : Table KbVersion) (subject : String) :
    activeKb env versions (some subject) none =
      match newestActive versions subject with
      | some kb => .ok (some kb)
      | none => if env.strictActive then .error ⟨some subject, none⟩ else .ok (newestOf versions subject) := rfl

end

theorem mem_newestActive {versions : Table KbVersion} {subject : String} {kb : KbVersion}
    (found : newestActive versions subject = some kb) :
    kb ∈ versions.rows ∧ kb.status = .active ∧ kb.subject = subject := by
  have member := (mem_of_latest found).1
  simpa [Table.select, isActive, ofSubject] using member

theorem newestActive_eq_none_iff {versions : Table KbVersion} {subject : String} :
    newestActive versions subject = none ↔ ∀ v ∈ versions.rows, v.subject = subject → v.status ≠ .active := by
  rw [newestActive, latest_eq_none_iff, Table.select, List.filter_eq_nil_iff]
  constructor
  · intro absent v stored same running
    exact absent v stored (by simp [isActive, ofSubject, running, same])
  · intro absent v stored held
    simp only [isActive, ofSubject, Option.all_some, Bool.and_eq_true, decide_eq_true_eq, beq_iff_eq] at held
    exact absent v stored held.2 held.1

theorem mem_newestOf {versions : Table KbVersion} {subject : String} {kb : KbVersion}
    (found : newestOf versions subject = some kb) : kb ∈ versions.rows ∧ kb.subject = subject := by
  have member := (mem_of_latest found).1
  simpa [Table.select, ofSubject] using member

section
variable [Field K] [LinearOrder K] (env : Deployment)

theorem importKb_versions {db after : Db K} {doc : KbDoc K} {id : Nat} (imported : importKb db doc = (after, .ok id)) :
    after.kbVersions = db.kbVersions ∨ after.kbVersions = db.kbVersions.insert doc.newVersion doc.key_newVersion := by
  unfold importKb at imported
  split at imported
  · cases imported
  · split at imported
    · cases imported
    · split at imported
      · cases imported
        exact Or.inl rfl
      · dsimp only at imported
        split at imported
        · cases imported
        · split at imported
          · cases imported
          · cases imported
            exact Or.inr rfl

omit [Field K] [LinearOrder K] in
theorem replacedBy_eq (db : Db K) (target : KbVersion) :
    replacedBy env db target =
      match newestActive db.kbVersions target.subject with
      | some kb => .ok ((some kb).filter (fun kb => decide (kb.id ≠ target.id)))
      | none =>
        if env.strictActive then .error ⟨some target.subject, none⟩
        else .ok ((newestOf db.kbVersions target.subject).filter (fun kb => decide (kb.id ≠ target.id))) := by
  unfold replacedBy
  rw [activeKb_subject]
  cases newestActive db.kbVersions target.subject with
  | some kb => rfl
  | none => cases env.strictActive <;> rfl

omit [Field K] [LinearOrder K] in
theorem mem_of_replacedBy {db : Db K} {target r : KbVersion} (resolved : replacedBy env db target = .ok (some r)) :
    r ∈ db.kbVersions.rows ∧ r.subject = target.subject ∧
      (newestActive db.kbVersions target.subject = some r ∨ newestActive db.kbVersions target.subject = none) := by
  rw [replacedBy_eq] at resolved
  cases current : newestActive db.kbVersions target.subject with
  | some kb =>
    rw [current] at resolved
    obtain ⟨kept, _⟩ := Option.filter_eq_some_iff.mp (Except.ok.inj resolved)
    cases kept
    obtain ⟨stored, _, subject⟩ := mem_newestActive current
    exact ⟨stored, subject, Or.inl rfl⟩
  | none =>
    rw [current] at resolved
    cases strict : env.strictActive with
    | true => simp [strict] at resolved
    | false =>
      simp only [strict, Bool.false_eq_true, ↓reduceIte, Except.ok.injEq] at resolved
      obtain ⟨fallback, _⟩ := Option.filter_eq_some_iff.mp resolved
      obtain ⟨stored, subject⟩ := mem_newestOf fallback
      exact ⟨stored, subject, Or.inr rfl⟩

/-- The caller may put the target into force. -/
def permitted (db : Db K) (ctx : AccessContext) (target : KbVersion) : Bool :=
  passesKbEditor env db ctx && canGovernKb env db ctx target.subject target.grade

/-- What a call can do to the versions: nothing, file a new one, restate one that stays out of force, or switch. -/
inductive Change (db : Db K) (call : AccessContext × KbRequest K) : Table KbVersion → Prop
  | kept : Change db call db.kbVersions
  | filed {versions : Table KbVersion} (v : KbVersion) (rows : versions.rows = db.kbVersions.rows ++ [v])
      (key : v.id = db.kbVersions.nextId)
      (status : v.status = .draft ∨ ∃ doc, call.2 = .import doc ∧ v.status = doc.statusOf) : Change db call versions
  | restated (target : KbVersion) (status : KbStatus) (confirm force : Bool) (stored : target ∈ db.kbVersions.rows)
      (asked : call.2 = .patch target.id status confirm force) (content : status = .draft ∨ status = .reviewed)
      (allowed : canWriteKb env db call.1 target.subject target.grade = true) :
      Change db call (setStatus db.kbVersions target.id status)
  | switched (target : KbVersion) (replaced : Option KbVersion) (confirm force : Bool)
      (stored : target ∈ db.kbVersions.rows) (asked : call.2 = .patch target.id .active confirm force)
      (allowed : permitted env db call.1 target = true)
      (resolved : replacedBy env db target = .ok replaced) (inactive : target.status ≠ .active)
      (accepted : accepts db target force confirm replaced = true) :
      Change db call (switched db.kbVersions target replaced)

omit [Field K] in
theorem activateEndpoint_ok_iff {db after : Db K} {target : KbVersion} {confirm force : Bool} :
    activateEndpoint env db target confirm force = .ok after ↔
      ∃ replaced, replacedBy env db target = .ok replaced ∧ target.status ≠ .active ∧
        accepts db target force confirm replaced = true ∧
        after = { db with kbVersions := switched db.kbVersions target replaced } := by
  unfold activateEndpoint
  cases resolved : replacedBy env db target with
  | error e => simp
  | ok replaced =>
    dsimp only
    constructor
    · intro done
      split at done
      · cases done
      · rename_i versions answer activated
        cases done
        obtain ⟨inactive, accepted, rfl⟩ := activateKbVersion_ok_iff.mp ⟨answer, activated⟩
        exact ⟨replaced, rfl, inactive, accepted, rfl⟩
    · rintro ⟨other, same, inactive, accepted, rfl⟩
      cases same
      obtain ⟨answer, activated⟩ := activateKbVersion_ok_iff.mpr ⟨inactive, accepted, rfl⟩
      rw [activated]

/-- What one request does to the database: nothing when it is refused, else what its endpoint writes. -/
inductive Served (db : Db K) (call : AccessContext × KbRequest K) : Db K → Prop
  | refused : Served db call db
  | created (req : KbVersionCreateRequest) :
      Served db call { db with kbVersions := db.kbVersions.insert req.newVersion req.key_newVersion }
  | forked (src : KbVersion) : Served db call (forkKbVersion db src).1
  | restated (target : KbVersion) (status : KbStatus) (confirm force : Bool) (stored : target ∈ db.kbVersions.rows)
      (asked : call.2 = .patch target.id status confirm force) (content : status = .draft ∨ status = .reviewed)
      (allowed : canWriteKb env db call.1 target.subject target.grade = true) :
      Served db call { db with kbVersions := setStatus db.kbVersions target.id status }
  | switched (target : KbVersion) (replaced : Option KbVersion) (confirm force : Bool)
      (stored : target ∈ db.kbVersions.rows) (asked : call.2 = .patch target.id .active confirm force)
      (allowed : permitted env db call.1 target = true)
      (resolved : replacedBy env db target = .ok replaced) (inactive : target.status ≠ .active)
      (accepted : accepts db target force confirm replaced = true) :
      Served db call { db with kbVersions := switched db.kbVersions target replaced }
  | imported (doc : KbDoc K) (asked : call.2 = .import doc) (id : Nat) (filed : (importKb db doc).2 = .ok id) :
      Served db call (importKb db doc).1

section
variable {db after : Db K} {ctx : AccessContext}

theorem patchEndpoint_served {versionId : Nat} {status : KbStatus} {confirm force : Bool}
    (passes : passesKbEditor env db ctx = true)
    (done : patchEndpoint env db ctx versionId status confirm force = .ok after) :
    Served env db (ctx, .patch versionId status confirm force) after := by
  unfold patchEndpoint at done
  split at done
  · cases done
  · rename_i target found
    rcases (db.kbVersions.get?_eq_some_iff versionId target).mp found with ⟨stored, key⟩
    have asked : ∀ status, KbRequest.patch versionId status confirm force =
        (KbRequest.patch target.id status confirm force : KbRequest K) := by
      intro status
      rw [← key]
      rfl
    cases status with
    | other name => cases done
    | active =>
      dsimp only at done
      split at done
      · rename_i allowed
        rcases (activateEndpoint_ok_iff env).mp done with ⟨replaced, resolved, inactive, accepted, rfl⟩
        have both : permitted env db ctx target = true := by simp [permitted, allowed, passes]
        exact Served.switched target replaced confirm force stored (asked _) both resolved inactive accepted
      · cases done
    | draft =>
      dsimp only at done
      split at done
      · rename_i allowed
        cases done
        exact Served.restated target .draft confirm force stored (asked _) (Or.inl rfl) allowed
      · cases done
    | reviewed =>
      dsimp only at done
      split at done
      · rename_i allowed
        cases done
        exact Served.restated target .reviewed confirm force stored (asked _) (Or.inr rfl) allowed
      · cases done

theorem importEndpoint_served {doc : KbDoc K} (done : importEndpoint env db ctx doc = .ok after) :
    Served env db (ctx, .import doc) after := by
  unfold importEndpoint at done
  split at done
  · cases done
  · rename_i after' id imported
    have filed : (importKb db doc).2 = .ok id := by rw [imported]
    have written : (importKb db doc).1 = after' := by rw [imported]
    split at done
    · cases done
    · split at done
      · cases done
        rw [← written]
        exact Served.imported doc rfl id filed
      · cases done

end

theorem step_served (db : Db K) (call : AccessContext × KbRequest K) : Served env db call (step env db call) := by
  rcases call with ⟨ctx, req⟩
  unfold step
  split
  · rename_i after done
    unfold handle at done
    split at done
    · cases done
    · rename_i passes
      cases req with
      | create req =>
        dsimp only at done
        unfold createEndpoint at done
        split at done
        · cases done
        · split at done
          · cases done
          · cases done
            exact Served.created req
      | fork source =>
        dsimp only at done
        unfold forkEndpoint at done
        split at done
        · cases done
        · rename_i src _
          split at done
          · cases done
            exact Served.forked src
          · cases done
      | patch versionId status confirm force => exact patchEndpoint_served env (by simpa using passes) done
      | «import» doc => exact importEndpoint_served env done
  · exact Served.refused

theorem step_change (db : Db K) (call : AccessContext × KbRequest K) :
    Change env db call (step env db call).kbVersions := by
  have served := step_served env db call
  generalize step env db call = after at served ⊢
  cases served with
  | refused => exact Change.kept
  | created req => exact Change.filed (req.newVersion db.kbVersions.nextId) rfl rfl (Or.inl rfl)
  | forked src => exact Change.filed (forkedVersion src db.kbVersions.nextId) rfl rfl (Or.inl rfl)
  | restated target status confirm force stored asked content allowed =>
    exact Change.restated target status confirm force stored asked content allowed
  | switched target replaced confirm force stored asked allowed resolved inactive accepted =>
    exact Change.switched target replaced confirm force stored asked allowed resolved inactive accepted
  | imported doc asked id filed =>
    rcases importKb_versions (Prod.ext rfl filed) with same | grown
    · rw [same]
      exact Change.kept
    · exact Change.filed (doc.newVersion db.kbVersions.nextId) (by rw [grown]; rfl) rfl (Or.inr ⟨doc, asked, rfl⟩)

theorem handle_activate_ok_iff {db after : Db K} {ctx : AccessContext} {target : KbVersion} {confirm force : Bool}
    (stored : target ∈ db.kbVersions.rows) :
    handle env db ctx (.patch target.id .active confirm force) = .ok after ↔
      permitted env db ctx target = true ∧ ∃ replaced, replacedBy env db target = .ok replaced ∧
        target.status ≠ .active ∧ accepts db target force confirm replaced = true ∧
        after = { db with kbVersions := switched db.kbVersions target replaced } := by
  have found : db.kbVersions.get? target.id = some target := Table.get?_of_mem stored
  unfold handle permitted
  cases passes : passesKbEditor env db ctx with
  | false => simp
  | true =>
    rw [if_neg (by simp)]
    dsimp only
    unfold patchEndpoint
    rw [found]
    dsimp only
    cases canGovernKb env db ctx target.subject target.grade with
    | false => simp
    | true =>
      rw [if_pos rfl, activateEndpoint_ok_iff]
      simp

/-- At most one version of a subject and a grade is in force; no grade counts as one. -/
def OneActive (versions : Table KbVersion) : Prop :=
  ∀ v ∈ versions.rows, ∀ w ∈ versions.rows, v.status = .active → w.status = .active →
    v.subject = w.subject → v.grade = w.grade → v = w

/-- Activating the target moves the status of nothing but the target and the version in force for its own
    subject and grade, answers for the other grades stay, and a subject's first activation goes through. -/
structure ActivationExact (db : Db K) (ctx : AccessContext) (target : KbVersion) (confirm force : Bool) : Prop where
  others : ∀ after, handle env db ctx (.patch target.id .active confirm force) = .ok after →
    ∀ w ∈ db.kbVersions.rows, w.id ≠ target.id →
      ¬ (w.status = .active ∧ w.subject = target.subject ∧ w.grade = target.grade) →
      after.kbVersions.get? w.id = some w
  answers : ∀ after, handle env db ctx (.patch target.id .active confirm force) = .ok after →
    ∀ g : Int, target.grade ≠ some g →
      (∃ v ∈ db.kbVersions.rows, v.status = .active ∧ v.subject = target.subject ∧ v.grade = some g) →
      activeKb env after.kbVersions (some target.subject) (some g) =
        activeKb env db.kbVersions (some target.subject) (some g)
  bystanders : ∀ after, handle env db ctx (.patch target.id .active confirm force) = .ok after →
    ∀ w ∈ db.kbVersions.rows, w.id ≠ target.id → w.status ≠ .active → after.kbVersions.get? w.id = some w
  first : env.strictActive = true → permitted env db ctx target = true →
    (∀ v ∈ db.kbVersions.rows, v.subject = target.subject → v.status ≠ .active) →
    ∃ after, handle env db ctx (.patch target.id .active confirm force) = .ok after

def Exact (db : Db K) (call : AccessContext × KbRequest K) : Prop :=
  ∀ target ∈ db.kbVersions.rows, ∀ confirm force, call.2 = .patch target.id .active confirm force →
    ActivationExact env db call.1 target confirm force

/-- A permitted activation stands down a version of the target's own grade, or, where none is in force, finds
    nothing to change in the version the resolver falls back to. -/
def Fair (db : Db K) (call : AccessContext × KbRequest K) : Prop :=
  ∀ target ∈ db.kbVersions.rows, ∀ confirm force, call.2 = .patch target.id .active confirm force →
    target.status ≠ .active → permitted env db call.1 target = true →
    match newestActive db.kbVersions target.subject with
    | some current => accepts db target force confirm (some current) = true → current.grade = target.grade
    | none => env.strictActive = false ∧ ∀ fallback, newestOf db.kbVersions target.subject = some fallback →
        fallback.id ≠ target.id → accepts db target force confirm (some fallback) = true → fallback.status = .reviewed

theorem get?_switched_of_kept {versions : Table KbVersion} {target w : KbVersion} {replaced : Option KbVersion}
    (stored : w ∈ versions.rows) (kept : switchedRow target replaced w = w) :
    (switched versions target replaced).get? w.id = some w := by
  apply (Table.get?_eq_some_iff _ _ _).mpr
  rw [rows_switched]
  exact ⟨List.mem_map.mpr ⟨w, stored, kept⟩, rfl⟩

theorem switchedRow_of_get? {versions : Table KbVersion} {target w : KbVersion} {replaced : Option KbVersion}
    (stored : w ∈ versions.rows) (found : (switched versions target replaced).get? w.id = some w) :
    switchedRow target replaced w = w := by
  have member : switchedRow target replaced w ∈ (switched versions target replaced).rows := by
    rw [rows_switched]
    exact List.mem_map_of_mem stored
  exact Table.key_inj _ member (Table.get?_mem found) (switchedRow_id target replaced w)

variable {env}

omit [Field K] in
/-- What a fair activation replaces: the version in force for the same grade, or one already reviewed. -/
theorem replaced_of_fair {db : Db K} {call : AccessContext × KbRequest K} (fair : Fair env db call)
    {target r : KbVersion} {confirm force : Bool} (stored : target ∈ db.kbVersions.rows)
    (asked : call.2 = .patch target.id .active confirm force) (inactive : target.status ≠ .active)
    (allowed : permitted env db call.1 target = true) (resolved : replacedBy env db target = .ok (some r))
    (accepted : accepts db target force confirm (some r) = true) :
    r ∈ db.kbVersions.rows ∧ r.subject = target.subject ∧
      (newestActive db.kbVersions target.subject = some r ∧ r.status = .active ∧ r.grade = target.grade ∨
        newestActive db.kbVersions target.subject = none ∧ r.status = .reviewed) := by
  have held := fair target stored confirm force asked inactive allowed
  rw [replacedBy_eq] at resolved
  cases current : newestActive db.kbVersions target.subject with
  | some kb =>
    rw [current] at held resolved
    obtain ⟨kept, _⟩ := Option.filter_eq_some_iff.mp (Except.ok.inj resolved)
    cases kept
    obtain ⟨member, running, same⟩ := mem_newestActive current
    exact ⟨member, same, Or.inl ⟨rfl, running, held accepted⟩⟩
  | none =>
    rw [current] at held resolved
    obtain ⟨relaxed, harmless⟩ := held
    simp only [relaxed, Bool.false_eq_true, ↓reduceIte, Except.ok.injEq] at resolved
    obtain ⟨fallback, apart⟩ := Option.filter_eq_some_iff.mp resolved
    obtain ⟨member, same⟩ := mem_newestOf fallback
    exact ⟨member, same, Or.inr ⟨rfl, harmless r fallback (by simpa using apart) accepted⟩⟩

/-- The versions in force for exactly this subject and grade. -/
def inForce (versions : Table KbVersion) (subject : String) (grade : Int) : List KbVersion :=
  (versions.select (fun v => isActive v && ofSubject (some subject) v)).filter (fun v => decide (v.grade = some grade))

theorem mem_inForce {versions : Table KbVersion} {subject : String} {grade : Int} {v : KbVersion} :
    v ∈ inForce versions subject grade ↔
      v ∈ versions.rows ∧ v.status = .active ∧ v.subject = subject ∧ v.grade = some grade := by
  simp only [inForce, Table.select, List.mem_filter, isActive, ofSubject, Option.all_some, Bool.and_eq_true,
    decide_eq_true_eq, beq_iff_eq, and_assoc]

theorem activeKb_of_inForce {versions : Table KbVersion} {subject : String} {grade : Int}
    (some_ : inForce versions subject grade ≠ []) :
    activeKb env versions (some subject) (some grade) =
      .ok (latest KbVersion.id (inForce versions subject grade)) := by
  cases found : latest KbVersion.id (inForce versions subject grade) with
  | none => exact absurd (latest_eq_none_iff.mp found) some_
  | some kb =>
    have resolved : newestFor (some grade) (versions.select (fun v => isActive v && ofSubject (some subject) v)) =
        some kb := by
      show (latest KbVersion.id (inForce versions subject grade)).or _ = _
      rw [found]
      rfl
    rw [activeKb, resolved]

theorem inForce_map {versions after : Table KbVersion} {f : KbVersion → KbVersion} {subject : String} {grade : Int}
    (rows : after.rows = versions.rows.map f)
    (outside : ∀ v ∈ versions.rows, f v ≠ v → v.grade ≠ some grade ∧ (f v).grade ≠ some grade) :
    inForce after subject grade = inForce versions subject grade := by
  unfold inForce Table.select
  rw [rows, List.filter_filter, List.filter_filter]
  apply filter_map_of_fixed
  · intro v stored
    by_cases same : f v = v
    · rw [same]
    · have apart := outside v stored same
      simp [apart.1, apart.2]
  · intro v stored held
    by_contra moved
    have apart := outside v stored moved
    simp [apart.1] at held

theorem switchedRow_grade (target : KbVersion) (replaced : Option KbVersion) (v : KbVersion) :
    (switchedRow target replaced v).grade = v.grade := by
  unfold switchedRow
  split
  · rfl
  · split <;> rfl

theorem switchedRow_eq_self {versions : Table KbVersion} {target w : KbVersion} {replaced : Option KbVersion}
    (stored : w ∈ versions.rows) (other : w.id ≠ target.id)
    (harmless : ∀ r, replaced = some r → r ∈ versions.rows ∧ (r = w → r.status = .reviewed)) :
    switchedRow target replaced w = w := by
  unfold switchedRow
  rw [if_neg other]
  cases replaced with
  | none => rfl
  | some r =>
    by_cases same : w.id = r.id
    · obtain ⟨member, reviewed⟩ := harmless r rfl
      have equal : r = w := versions.key_inj member stored same.symm
      subst equal
      simp [withStatus, ← reviewed rfl]
    · simp [same]

theorem exact_of_fair {db : Db K} {call : AccessContext × KbRequest K} (fair : Fair env db call) : Exact env db call := by
  intro target stored confirm force asked
  have settled : ∀ after, handle env db call.1 (.patch target.id .active confirm force) = .ok after →
      ∃ replaced, after.kbVersions = switched db.kbVersions target replaced ∧
        ∀ r, replaced = some r → r ∈ db.kbVersions.rows ∧ r.subject = target.subject ∧
          (r.status = .active ∧ r.grade = target.grade ∨ r.status = .reviewed) := by
    intro after done
    obtain ⟨allowed, replaced, resolved, inactive, accepted, rfl⟩ := (handle_activate_ok_iff env stored).mp done
    refine ⟨replaced, rfl, ?_⟩
    rintro r rfl
    obtain ⟨member, subject, standing⟩ := replaced_of_fair fair stored asked inactive allowed resolved accepted
    refine ⟨member, subject, ?_⟩
    rcases standing with ⟨_, running, grade⟩ | ⟨_, reviewed⟩
    · exact Or.inl ⟨running, grade⟩
    · exact Or.inr reviewed
  have others : ∀ after, handle env db call.1 (.patch target.id .active confirm force) = .ok after →
      ∀ w ∈ db.kbVersions.rows, w.id ≠ target.id →
        ¬ (w.status = .active ∧ w.subject = target.subject ∧ w.grade = target.grade) →
        after.kbVersions.get? w.id = some w := by
    intro after done w member other apart
    obtain ⟨replaced, versions, standing⟩ := settled after done
    rw [versions]
    apply get?_switched_of_kept member
    apply switchedRow_eq_self member other
    intro r same
    obtain ⟨listed, subject, held⟩ := standing r same
    refine ⟨listed, ?_⟩
    rintro rfl
    rcases held with ⟨running, grade⟩ | reviewed
    · exact absurd ⟨running, subject, grade⟩ apart
    · exact reviewed
  refine ⟨others, ?_, ?_, ?_⟩
  · intro after done g otherGrade exists_
    obtain ⟨replaced, versions, standing⟩ := settled after done
    have same : inForce after.kbVersions target.subject g = inForce db.kbVersions target.subject g := by
      rw [versions]
      apply inForce_map (rows_switched db.kbVersions target replaced)
      intro v member moved
      rw [switchedRow_grade]
      have outside : v.grade ≠ some g := by
        by_cases isTarget : v.id = target.id
        · rw [db.kbVersions.key_inj member stored isTarget]
          exact otherGrade
        · intro here
          apply moved
          apply switchedRow_eq_self member isTarget
          intro r same
          obtain ⟨listed, _, held⟩ := standing r same
          refine ⟨listed, ?_⟩
          rintro rfl
          rcases held with ⟨_, grade⟩ | reviewed
          · exact absurd (grade.symm.trans here) otherGrade
          · exact reviewed
      exact ⟨outside, outside⟩
    have nonempty : inForce db.kbVersions target.subject g ≠ [] := by
      obtain ⟨v, member, running⟩ := exists_
      exact List.ne_nil_of_mem (mem_inForce.mpr ⟨member, running⟩)
    rw [activeKb_of_inForce (same ▸ nonempty), activeKb_of_inForce nonempty, same]
  · intro after done w member other idle
    exact others after done w member other (fun running => idle running.1)
  · intro strict allowed idle
    have held := fair target stored confirm force asked (idle target stored rfl) allowed
    rw [newestActive_eq_none_iff.mpr idle] at held
    rw [held.1] at strict
    cases strict

/-- The condition leaves out no harmless step. -/
theorem fair_of_exact {db : Db K} {call : AccessContext × KbRequest K} (exact_ : Exact env db call) :
    Fair env db call := by
  intro target stored confirm force asked inactive allowed
  have settled := exact_ target stored confirm force asked
  cases current : newestActive db.kbVersions target.subject with
  | some kb =>
    intro accepted
    obtain ⟨member, running, subject⟩ := mem_newestActive current
    have other : kb.id ≠ target.id := by
      intro same
      rw [db.kbVersions.key_inj member stored same] at running
      exact inactive running
    have resolved : replacedBy env db target = .ok (some kb) := by
      rw [replacedBy_eq, current]
      simp [other]
    have done := (handle_activate_ok_iff env stored).mpr ⟨allowed, some kb, resolved, inactive, accepted, rfl⟩
    by_contra apart
    have found := settled.others _ done kb member other (fun held => apart held.2.2)
    have row := switchedRow_of_get? member found
    rw [switchedRow, if_neg other] at row
    have status := congrArg KbVersion.status row
    simp [withStatus, running] at status
  | none =>
    have idle := newestActive_eq_none_iff.mp current
    have relaxed : env.strictActive = false := by
      cases strict : env.strictActive with
      | false => rfl
      | true =>
        obtain ⟨after, done⟩ := settled.first strict allowed idle
        obtain ⟨_, replaced, resolved, _⟩ := (handle_activate_ok_iff env stored).mp done
        rw [replacedBy_eq, current] at resolved
        simp [strict] at resolved
    refine ⟨relaxed, ?_⟩
    intro fallback newest other accepted
    obtain ⟨member, subject⟩ := mem_newestOf newest
    have resolved : replacedBy env db target = .ok (some fallback) := by
      rw [replacedBy_eq, current]
      simp [relaxed, newest, other]
    have done := (handle_activate_ok_iff env stored).mpr ⟨allowed, some fallback, resolved, inactive, accepted, rfl⟩
    have found := settled.bystanders _ done fallback member other (idle fallback member subject)
    have row := switchedRow_of_get? member found
    rw [switchedRow, if_neg other] at row
    have status := congrArg KbVersion.status row
    simpa [withStatus] using status.symm

/-- An imported file comes as a draft or as reviewed. -/
def DraftImport (call : AccessContext × KbRequest K) : Prop :=
  ∀ doc, call.2 = .import doc → doc.statusOf = .draft ∨ doc.statusOf = .reviewed

theorem oneActive_of_rows {versions after : Table KbVersion} {f : KbVersion → KbVersion}
    (one : OneActive versions) (rows : after.rows = versions.rows.map f)
    (same : ∀ v ∈ versions.rows, (f v).status = .active → f v = v) : OneActive after := by
  intro v left w right runningV runningW subject grade
  rw [rows] at left right
  obtain ⟨a, storedA, rfl⟩ := List.mem_map.mp left
  obtain ⟨b, storedB, rfl⟩ := List.mem_map.mp right
  have keptA := same a storedA runningV
  have keptB := same b storedB runningW
  rw [keptA] at runningV subject grade ⊢
  rw [keptB] at runningW subject grade ⊢
  exact one a storedA b storedB runningV runningW subject grade

theorem switchedRow_running {target v : KbVersion} {replaced : Option KbVersion}
    (running : (switchedRow target replaced v).status = .active) :
    v.id = target.id ∨ switchedRow target replaced v = v ∧ v.id ≠ target.id ∧ replaced ≠ some v := by
  by_cases isTarget : v.id = target.id
  · exact Or.inl isTarget
  · right
    rw [switchedRow, if_neg isTarget] at running ⊢
    by_cases down : replaced.any (fun r => decide (v.id = r.id)) = true
    · rw [if_pos down] at running
      cases running
    · rw [if_neg down]
      refine ⟨rfl, isTarget, ?_⟩
      rintro rfl
      simp at down

theorem oneActive_switched {versions : Table KbVersion} (one : OneActive versions) {target : KbVersion}
    {replaced : Option KbVersion} (stored : target ∈ versions.rows)
    (standing : ∀ w ∈ versions.rows, w.status = .active → w.subject = target.subject →
      w.grade = target.grade → w.id ≠ target.id → replaced = some w) :
    OneActive (switched versions target replaced) := by
  have row : ∀ v ∈ versions.rows, (switchedRow target replaced v).status = .active →
      v = target ∨ switchedRow target replaced v = v ∧ v.id ≠ target.id ∧ replaced ≠ some v := by
    intro v member running
    rcases switchedRow_running running with isTarget | kept
    · exact Or.inl (versions.key_inj member stored isTarget)
    · exact Or.inr kept
  have clash : ∀ v ∈ versions.rows, switchedRow target replaced v = v → v.id ≠ target.id → replaced ≠ some v →
      v.status = .active → v.subject = target.subject → v.grade = target.grade → False := by
    intro v member _ other kept running subject grade
    exact kept (standing v member running subject grade other)
  have targetRow : switchedRow target replaced target = withStatus .active target := by
    rw [switchedRow, if_pos rfl]
  intro v left w right runningV runningW subject grade
  rw [rows_switched] at left right
  obtain ⟨a, storedA, rfl⟩ := List.mem_map.mp left
  obtain ⟨b, storedB, rfl⟩ := List.mem_map.mp right
  rcases row a storedA runningV with rfl | ⟨keptA, otherA, aloneA⟩
  · rcases row b storedB runningW with rfl | ⟨keptB, otherB, aloneB⟩
    · rfl
    · rw [targetRow, keptB] at subject grade
      rw [keptB] at runningW
      exact (clash b storedB keptB otherB aloneB runningW subject.symm grade.symm).elim
  · rcases row b storedB runningW with rfl | ⟨keptB, otherB, aloneB⟩
    · rw [targetRow, keptA] at subject grade
      rw [keptA] at runningV
      exact (clash a storedA keptA otherA aloneA runningV subject grade).elim
    · rw [keptA] at runningV subject grade ⊢
      rw [keptB] at runningW subject grade ⊢
      exact one a storedA b storedB runningV runningW subject grade

theorem step_oneActive {db : Db K} {call : AccessContext × KbRequest K} (one : OneActive db.kbVersions)
    (draft : DraftImport call) (fair : Fair env db call) : OneActive (step env db call).kbVersions := by
  have change := step_change env db call
  generalize (step env db call).kbVersions = after at change ⊢
  cases change with
  | kept => exact one
  | filed v rows key status =>
    have idle : v.status ≠ .active := by
      rcases status with drafted | ⟨doc, asked, same⟩
      · simp [drafted]
      · rcases draft doc asked with drafted | reviewed
        · simp [same, drafted]
        · simp [same, reviewed]
    intro a left b right runningA runningB
    rw [rows, List.mem_append, List.mem_singleton] at left right
    rcases left with oldA | rfl
    · rcases right with oldB | rfl
      · exact one a oldA b oldB runningA runningB
      · exact absurd runningB idle
    · exact absurd runningA idle
  | restated target status confirm force stored asked content allowed =>
    apply oneActive_of_rows one (rows_setStatus db.kbVersions target.id status)
    intro v _ running
    unfold restatedRow at running ⊢
    split at running
    · rcases content with rfl | rfl <;> cases running
    · rename_i other
      rw [if_neg other]
  | switched target replaced confirm force stored asked allowed resolved inactive accepted =>
    apply oneActive_switched one stored
    intro w member running subject grade other
    have present : newestActive db.kbVersions target.subject ≠ none := by
      intro none
      exact newestActive_eq_none_iff.mp none w member subject running
    obtain ⟨kb, current⟩ := Option.ne_none_iff_exists'.mp present
    obtain ⟨listed, runningKb, subjectKb⟩ := mem_newestActive current
    have apart : kb.id ≠ target.id := by
      intro same
      rw [db.kbVersions.key_inj listed stored same] at runningKb
      exact inactive runningKb
    rw [replacedBy_eq, current] at resolved
    have chosen : replaced = some kb := by
      rw [← Except.ok.inj resolved]
      simp [apart]
    subst chosen
    have held := fair target stored confirm force asked inactive allowed
    rw [current] at held
    rw [one w member kb listed running runningKb (subject.trans subjectKb.symm) (grade.trans (held accepted).symm)]

/-- Along a run of fair activations at most one version is in force for each subject and grade, and every
    activation keeps to its own. -/
theorem activation_runs {start : Db K} (blank : start.kbVersions.rows = [])
    {calls : List (AccessContext × KbRequest K)} (drafts : ∀ call ∈ calls, DraftImport call)
    (fair : Along (step env) (Fair env) start calls) :
    OneActive (run (step env) start calls).kbVersions ∧
      ∀ before call rest, calls = before ++ call :: rest → Exact env (run (step env) start before) call := by
  constructor
  · have one : OneActive start.kbVersions := by
      intro v stored
      rw [blank] at stored
      cases stored
    clear blank
    induction calls generalizing start with
    | nil => exact one
    | cons call calls ih =>
      rw [run_cons]
      exact ih (fun c later => drafts c (by simp [later])) fair.2 (step_oneActive one (drafts call (by simp)) fair.1)
  · rintro before call rest rfl
    exact exact_of_fair (along_append.mp fair).2.1

end

def anyone : AccessContext := ⟨none⟩

def openMode (strict : Bool) : Deployment := ⟨strict, false⟩

def createFor (grade : Int) : AccessContext × KbRequest ℚ := (anyone, .create ⟨"数学", some grade, "人教版", "1"⟩)

def activate (versionId : Nat) : AccessContext × KbRequest ℚ := (anyone, .patch versionId .active false false)

def versionFor (id : Nat) (grade : Int) (status : KbStatus) : KbVersion := ⟨id, "数学", some grade, "人教版", "1", status⟩

theorem rows_createFor :
    (step (openMode false) (Db.empty ℚ) (createFor 7)).kbVersions.rows = [versionFor 1 7 .draft] := by
  decide

theorem fair_single : Along (step (openMode false)) (Fair (openMode false)) (Db.empty ℚ) [createFor 7, activate 1] := by
  refine ⟨?_, ?_, trivial⟩
  · intro target _ confirm force asked
    cases asked
  · intro target stored confirm force _ _ _
    rw [rows_createFor] at stored
    rw [List.mem_singleton.mp stored]
    have idle : newestActive (step (openMode false) (Db.empty ℚ) (createFor 7)).kbVersions
        (versionFor 1 7 .draft).subject = none := by decide
    have newest : newestOf (step (openMode false) (Db.empty ℚ) (createFor 7)).kbVersions
        (versionFor 1 7 .draft).subject = some (versionFor 1 7 .draft) := by decide
    rw [idle]
    refine ⟨rfl, ?_⟩
    intro fallback found other
    rw [newest] at found
    cases found
    exact absurd rfl other

theorem activation_runs_single :
    OneActive (run (step (openMode false)) (Db.empty ℚ) [createFor 7, activate 1]).kbVersions ∧
      Exact (openMode false) (run (step (openMode false)) (Db.empty ℚ) [createFor 7]) (activate 1) := by
  have drafts : ∀ call ∈ [createFor 7, activate 1], DraftImport call := by
    intro call listed doc asked
    simp only [List.mem_cons, List.not_mem_nil, or_false] at listed
    rcases listed with rfl | rfl <;> cases asked
  have settled := activation_runs (show (Db.empty ℚ).kbVersions.rows = [] from rfl) drafts fair_single
  exact ⟨settled.1, settled.2 [createFor 7] (activate 1) [] rfl⟩

/-- Two grades side by side: the second activation takes the first grade's version out of force. Under the
    strict switch the very first one is refused. -/
theorem activation_not_exact :
    (¬ Exact (openMode false)
      (run (step (openMode false)) (Db.empty ℚ) [createFor 7, activate 1, createFor 8]) (activate 2)) ∧
    ¬ Exact (openMode true) (run (step (openMode true)) (Db.empty ℚ) [createFor 7]) (activate 1) := by
  constructor
  · intro exact_
    have fair := fair_of_exact exact_ (versionFor 2 8 .draft) (by decide) false false rfl (by decide) (by decide)
    have current : newestActive (run (step (openMode false)) (Db.empty ℚ) [createFor 7, activate 1, createFor 8]).kbVersions
        (versionFor 2 8 .draft).subject = some (versionFor 1 7 .active) := by decide
    rw [current] at fair
    exact absurd (fair (by decide)) (by decide)
  · intro exact_
    have fair := fair_of_exact exact_ (versionFor 1 7 .draft) (by decide) false false rfl (by decide) (by decide)
    have idle : newestActive (run (step (openMode true)) (Db.empty ℚ) [createFor 7]).kbVersions
        (versionFor 1 7 .draft).subject = none := by decide
    rw [idle] at fair
    cases fair.1

end KnowledgeGap.Kb
