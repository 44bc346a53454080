import KnowledgeGap.Data.Outcome
import KnowledgeGap.Kb.Editing
import KnowledgeGap.Protocol.Runs

namespace KnowledgeGap.Kb.Editing

open Relational Protocol

variable {K : Type}

inductive EditAction (K : Type)
  | createKp (draft : KpDraft K)
  | updateKp (kpId : Nat) (preview : Bool) (changes : KpChanges K) (today : Date)
  | deleteKp (kpId : Nat) (force confirm : Bool)
  | updateProgress (classId : Nat) (kb : Except EditFailure Nat) (kpCodes : List String) (taughtAt : Date)
  | updateQuestionTags (questionId : Nat) (guard : Except EditFailure Unit) (kb : Except EditFailure Nat)
      (tags : List (String × K))

/-- The call carried `confirm=True`. -/
def EditAction.confirmed : EditAction K → Bool
  | .deleteKp _ _ confirm => confirm
  | _ => false

section
variable [Field K] [LinearOrder K] [FloorRing K] (cfg : Config K)

def editStep (db : Db K) : EditAction K → Db K
  | .createKp draft => (createKp db draft).1
  | .updateKp kpId preview changes today => (updateKp cfg db kpId preview changes today).1
  | .deleteKp kpId force confirm => (deleteKp db kpId force confirm).1
  | .updateProgress classId kb kpCodes taughtAt => (updateProgress db classId kb kpCodes taughtAt).1
  | .updateQuestionTags questionId guard kb tags => (updateQuestionTags db questionId guard kb tags).1

end

/-- No archived point is taught anywhere, and no container is archived. -/
structure Orderly (db : Db K) : Prop where
  untaught : ∀ p ∈ db.knowledgePoints.rows, p.archived = true → ∀ r ∈ db.progress.rows, r.kpId ≠ p.id
  open_ : ∀ p ∈ db.knowledgePoints.rows, reservedCode p.code = true → p.archived = false

/-- A point tagged by a question is archived by a confirmed call only. -/
def Confirmed (db : Db K) (action : EditAction K) (after : Db K) : Prop :=
  ∀ p ∈ db.knowledgePoints.rows, p.archived = false → 0 < questionRefs db p.id →
    ∀ q ∈ after.knowledgePoints.rows, q.id = p.id → q.archived = true → action.confirmed = true

/-- A change of attributes that is written and sets `archived`. -/
def Archives (db : Db K) (kpId : Nat) (preview : Bool) (c : KpChanges K) (p : KnowledgePoint K) : Prop :=
  db.knowledgePoints.get? kpId = some p ∧ c.validate = .ok () ∧ (preview && c.hiLever) = false ∧ c.archived = some true

/-- Where a change of attributes archives, it finds an ordinary point that no class was taught and that no question is
    tagged with, unless it was archived before. -/
def Permitted (db : Db K) : EditAction K → Prop
  | .updateKp kpId preview changes _ => ∀ p, Archives db kpId preview changes p →
      reservedCode p.code = false ∧ progressRefs db kpId = 0 ∧ (p.archived = true ∨ questionRefs db kpId = 0)
  | _ => True

/-! What a step does to points and progress. -/

theorem mem_modify {t : Table (KnowledgePoint K)} {kpId : Nat} {f : KnowledgePoint K → KnowledgePoint K} (keeps)
    {q : KnowledgePoint K} (member : q ∈ (t.modify kpId f keeps).rows) :
    (∃ p ∈ t.rows, p.id = kpId ∧ q = f p) ∨ (q ∈ t.rows ∧ q.id ≠ kpId) := by
  rw [Table.rows_modify] at member
  obtain ⟨p, stored, rfl⟩ := List.mem_map.mp member
  by_cases here : p.id = kpId
  · refine Or.inl ⟨p, stored, here, ?_⟩
    simp [Keyed.key, here]
  · have other : (Keyed.key p == kpId) = false := by simpa using (show ¬ Keyed.key p = kpId from here)
    rw [other]
    exact Or.inr ⟨stored, here⟩

theorem mem_modify_self {t : Table (KnowledgePoint K)} {kpId : Nat} {f : KnowledgePoint K → KnowledgePoint K} (keeps)
    {p : KnowledgePoint K} (found : t.get? kpId = some p) : f p ∈ (t.modify kpId f keeps).rows :=
  Table.get?_mem (Table.get?_modify_self keeps found)

theorem same_point {db : Db K} {p q : KnowledgePoint K} (left : p ∈ db.knowledgePoints.rows)
    (right : q ∈ db.knowledgePoints.rows) (same : q.id = p.id) : q = p :=
  db.knowledgePoints.key_inj right left same

theorem noProgress {db : Db K} {kpId : Nat} (none_ : progressRefs db kpId = 0) : ∀ r ∈ db.progress.rows, r.kpId ≠ kpId := by
  intro r stored same
  rw [progressRefs, Table.rowcount, List.length_eq_zero_iff, Table.select, List.filter_eq_nil_iff] at none_
  exact none_ r stored (by simpa using same)

/-- An action that leaves the points alone and adds progress for points that are not archived keeps the order. -/
theorem Orderly.teach {db after : Db K} (orderly : Orderly db) (points : after.knowledgePoints = db.knowledgePoints)
    (fresh : ∀ r ∈ after.progress.rows, r ∈ db.progress.rows ∨
      ∃ p ∈ db.knowledgePoints.rows, p.archived = false ∧ r.kpId = p.id) : Orderly after where
  untaught := by
    intro p stored archived r listed
    rw [points] at stored
    rcases fresh r listed with before | ⟨q, known, live, same⟩
    · exact orderly.untaught p stored archived r before
    · intro equal
      rw [same_point stored known (same.symm.trans equal), archived] at live
      cases live
  open_ := by
    intro p stored reserved
    rw [points] at stored
    exact orderly.open_ p stored reserved

theorem confirmed_of_same {db after : Db K} (points : after.knowledgePoints = db.knowledgePoints) (action : EditAction K) :
    Confirmed db action after := by
  intro p stored live _ q listed same archived
  rw [points] at listed
  rw [same_point stored listed same, live] at archived
  cases archived

/-! Creating. -/

theorem createKp_cases (db : Db K) (d : KpDraft K) :
    (createKp db d).1 = db ∨ reservedCode d.code = false ∧
      (createKp db d).1 = { db with knowledgePoints := db.knowledgePoints.insert d.point d.point_key } := by
  unfold createKp
  split
  · exact Or.inl rfl
  · split
    · exact Or.inl rfl
    · rename_i ordinary
      split
      · exact Or.inl rfl
      · split
        · exact Or.inr ⟨by simpa using ordinary, rfl⟩
        · exact Or.inl rfl

theorem createKp_disciplined {db : Db K} (orderly : Orderly db) (d : KpDraft K) :
    Orderly (createKp db d).1 ∧ Confirmed db (.createKp d) (createKp db d).1 := by
  rcases createKp_cases db d with same | ⟨ordinary, made⟩
  · rw [same]
    exact ⟨orderly, confirmed_of_same rfl _⟩
  · rw [made]
    refine ⟨⟨?_, ?_⟩, ?_⟩
    · intro p stored archived
      rcases List.mem_append.mp stored with before | new
      · exact orderly.untaught p before archived
      · rw [List.mem_singleton.mp new] at archived
        cases archived
    · intro p stored reserved
      rcases List.mem_append.mp stored with before | new
      · exact orderly.open_ p before reserved
      · rw [List.mem_singleton.mp new]
        rfl
    · intro p stored live _ q listed same archived
      rcases List.mem_append.mp listed with before | new
      · rw [same_point stored before same, live] at archived
        cases archived
      · rw [List.mem_singleton.mp new] at archived
        cases archived

/-! Changing attributes. -/

section
variable [Field K] [LinearOrder K] [FloorRing K] (cfg : Config K)

theorem updateKp_cases (db : Db K) (kpId : Nat) (preview : Bool) (c : KpChanges K) (today : Date) :
    ((updateKp cfg db kpId preview c today).1 = db ∧
      ∀ p, db.knowledgePoints.get? kpId = some p → c.validate = .ok () → (preview && c.hiLever) = true) ∨
    ∃ p, db.knowledgePoints.get? kpId = some p ∧ c.validate = .ok () ∧ (preview && c.hiLever) = false ∧
      (updateKp cfg db kpId preview c today).1 =
        { db with knowledgePoints := db.knowledgePoints.modify kpId c.apply c.apply_key } := by
  unfold updateKp
  split
  · rename_i absent
    refine Or.inl ⟨rfl, ?_⟩
    intro p found
    rw [absent] at found
    cases found
  · rename_i p found
    split
    · rename_i invalid
      refine Or.inl ⟨rfl, ?_⟩
      intro _ _ valid
      rw [invalid] at valid
      cases valid
    · rename_i valid
      dsimp only
      split
      · rename_i shown
        exact Or.inl ⟨rfl, fun _ _ _ => shown⟩
      · rename_i written
        exact Or.inr ⟨p, found, valid, by simpa using written, rfl⟩

/-- A change that archives a point breaks the discipline unless it is permitted. -/
theorem permitted_of_disciplined {db : Db K} {kpId : Nat} {preview : Bool} {c : KpChanges K} {today : Date}
    {p : KnowledgePoint K} (archives : Archives db kpId preview c p)
    (orderly : Orderly (updateKp cfg db kpId preview c today).1)
    (confirmed : Confirmed db (.updateKp kpId preview c today) (updateKp cfg db kpId preview c today).1) :
    reservedCode p.code = false ∧ progressRefs db kpId = 0 ∧ (p.archived = true ∨ questionRefs db kpId = 0) := by
  obtain ⟨found, valid, written, archived⟩ := archives
  have key : p.id = kpId := Table.get?_key found
  rcases updateKp_cases cfg db kpId preview c today with ⟨_, shown⟩ | ⟨q, _, _, _, made⟩
  · rw [shown p found valid] at written
    cases written
  · rw [made] at orderly confirmed
    have listed : c.apply p ∈ (db.knowledgePoints.modify kpId c.apply c.apply_key).rows := mem_modify_self c.apply_key found
    have now : (c.apply p).archived = true := by
      change c.archived.getD p.archived = true
      rw [archived]
      rfl
    refine ⟨?_, ?_, ?_⟩
    · rw [Bool.eq_false_iff]
      intro reserved
      have open_ := orderly.open_ (c.apply p) listed reserved
      rw [now] at open_
      cases open_
    · rw [progressRefs, Table.rowcount, List.length_eq_zero_iff, Table.select, List.filter_eq_nil_iff]
      intro r stored same
      exact orderly.untaught (c.apply p) listed now r stored ((beq_iff_eq.mp same).trans key.symm)
    · by_cases before : p.archived = true
      · exact Or.inl before
      · right
        by_contra tagged
        have claimed := confirmed p (Table.get?_mem found) (by simpa using before) (by rw [key]; omega) (c.apply p) listed rfl now
        cases claimed

theorem disciplined_of_permitted {db : Db K} (orderly : Orderly db) {kpId : Nat} {preview : Bool} {c : KpChanges K} {today : Date}
    (permitted : Permitted db (.updateKp kpId preview c today)) :
    Orderly (updateKp cfg db kpId preview c today).1 ∧
      Confirmed db (.updateKp kpId preview c today) (updateKp cfg db kpId preview c today).1 := by
  rcases updateKp_cases cfg db kpId preview c today with ⟨same, _⟩ | ⟨p, found, valid, written, made⟩
  · rw [same]
    exact ⟨orderly, confirmed_of_same rfl _⟩
  · have key : p.id = kpId := Table.get?_key found
    have own : ∀ q ∈ db.knowledgePoints.rows, q.id = kpId → q = p :=
      fun q stored here => same_point (Table.get?_mem found) stored (here.trans key.symm)
    -- a changed point that is archived was archived before, or this call does it
    have origin : (c.apply p).archived = true → p.archived = true ∨ Archives db kpId preview c p := by
      intro archived
      change c.archived.getD p.archived = true at archived
      cases given : c.archived with
      | none =>
        rw [given] at archived
        exact Or.inl archived
      | some value =>
        rw [given] at archived
        exact Or.inr ⟨found, valid, written, given.trans (congrArg some archived)⟩
    rw [made]
    refine ⟨⟨?_, ?_⟩, ?_⟩
    · intro q listed archived r stored
      rcases mem_modify c.apply_key listed with ⟨q', known, here, rfl⟩ | ⟨known, _⟩
      · rw [own q' known here] at archived ⊢
        rcases origin archived with before | archives
        · exact orderly.untaught p (Table.get?_mem found) before r stored
        · have free := noProgress (permitted p archives).2.1 r stored
          intro same
          exact free (same.trans key)
      · exact orderly.untaught q known archived r stored
    · intro q listed reserved
      rcases mem_modify c.apply_key listed with ⟨q', known, here, rfl⟩ | ⟨known, _⟩
      · rw [own q' known here] at reserved ⊢
        rw [Bool.eq_false_iff]
        intro archived
        rcases origin archived with before | archives
        · have live := orderly.open_ p (Table.get?_mem found) reserved
          rw [before] at live
          cases live
        · have ordinary := (permitted p archives).1
          have code : reservedCode p.code = true := reserved
          rw [ordinary] at code
          cases code
      · exact orderly.open_ q known reserved
    · intro q stored live tagged q' listed same archived
      rcases mem_modify c.apply_key listed with ⟨q'', known, here, rfl⟩ | ⟨known, other⟩
      · rw [own q'' known here] at archived same
        have equal : q = p := own q stored (same.symm.trans key)
        rw [equal] at live tagged
        rcases origin archived with before | archives
        · rw [before] at live
          cases live
        · rcases (permitted p archives).2.2 with before | untagged
          · rw [before] at live
            cases live
          · rw [key] at tagged
            omega
      · rw [same_point stored known same, live] at archived
        cases archived

/-- A change of attributes keeps the discipline exactly where it is permitted. -/
theorem updateKp_disciplined_iff {db : Db K} (orderly : Orderly db) (kpId : Nat) (preview : Bool) (c : KpChanges K) (today : Date) :
    (Orderly (updateKp cfg db kpId preview c today).1 ∧
      Confirmed db (.updateKp kpId preview c today) (updateKp cfg db kpId preview c today).1) ↔
    Permitted db (.updateKp kpId preview c today) :=
  ⟨fun kept _ archives => permitted_of_disciplined cfg archives kept.1 kept.2, disciplined_of_permitted cfg orderly⟩

end

/-! Deleting, teaching and tagging. -/

/-- A deletion is refused, removes the point, or archives it. -/
inductive Deleted (db : Db K) (kpId : Nat) (confirm : Bool) : Db K → Prop
  | refused : Deleted db kpId confirm db
  | hard : Deleted db kpId confirm
      { clearProgress (clearRelations db kpId) kpId with
        knowledgePoints := db.knowledgePoints.deleteWhere (fun p => p.id == kpId) }
  | archived {p : KnowledgePoint K} (found : db.knowledgePoints.get? kpId = some p) (ordinary : reservedCode p.code = false)
      (asked : questionRefs db kpId = 0 ∨ confirm = true) : Deleted db kpId confirm
      { clearProgress db kpId with knowledgePoints := db.knowledgePoints.modify kpId archive archive_key }

theorem deleteKp_cases (db : Db K) (kpId : Nat) (force confirm : Bool) :
    Deleted db kpId confirm (deleteKp db kpId force confirm).1 := by
  unfold deleteKp
  split
  · exact .refused
  · rename_i p found
    split
    · exact .refused
    · rename_i ordinary
      split
      · split
        · exact .refused
        · split
          · exact .refused
          · rename_i after done
            unfold deletePoint at done
            split at done
            · cases done
            · cases done
              exact .hard
      · split
        · exact .refused
        · rename_i asked
          have open_ : reservedCode p.code = false := by simpa using ordinary
          apply Deleted.archived found open_
          by_cases confirmed : confirm = true
          · exact Or.inr confirmed
          · left
            simp only [confirmed, Bool.not_false, Bool.and_true, decide_eq_true_eq, Nat.not_lt, Nat.le_zero] at asked
            exact asked

theorem deleteKp_disciplined {db : Db K} (orderly : Orderly db) (kpId : Nat) (force confirm : Bool) :
    Orderly (deleteKp db kpId force confirm).1 ∧
      Confirmed db (.deleteKp kpId force confirm) (deleteKp db kpId force confirm).1 := by
  have result := deleteKp_cases db kpId force confirm
  generalize (deleteKp db kpId force confirm).1 = after at result
  cases result with
  | refused => exact ⟨orderly, confirmed_of_same rfl _⟩
  | hard =>
    refine ⟨⟨?_, ?_⟩, ?_⟩
    · intro p listed archived r stored
      exact orderly.untaught p (List.mem_of_mem_filter listed) archived r (List.mem_of_mem_filter stored)
    · intro p listed reserved
      exact orderly.open_ p (List.mem_of_mem_filter listed) reserved
    · intro p stored live _ q listed same archived
      rw [same_point stored (List.mem_of_mem_filter listed) same, live] at archived
      cases archived
  | archived found ordinary asked =>
    rename_i p
    have key : p.id = kpId := Table.get?_key found
    have own : ∀ q ∈ db.knowledgePoints.rows, q.id = kpId → q = p :=
      fun q stored here => same_point (Table.get?_mem found) stored (here.trans key.symm)
    refine ⟨⟨?_, ?_⟩, ?_⟩
    · intro q listed archived r stored
      rcases mem_modify archive_key listed with ⟨q', _, here, rfl⟩ | ⟨known, _⟩
      · have left : ¬ r.kpId = kpId := by simpa using (List.mem_filter.mp stored).2
        intro same
        exact left (same.trans here)
      · exact orderly.untaught q known archived r (List.mem_of_mem_filter stored)
    · intro q listed reserved
      rcases mem_modify archive_key listed with ⟨q', known, here, rfl⟩ | ⟨known, _⟩
      · have code : reservedCode q'.code = true := reserved
        rw [own q' known here, ordinary] at code
        cases code
      · exact orderly.open_ q known reserved
    · intro q stored live tagged q' listed same archived
      rcases mem_modify archive_key listed with ⟨q'', known, here, rfl⟩ | ⟨known, _⟩
      · have point : q.id = kpId := same.symm.trans here
        rcases asked with none_ | confirmed
        · rw [point] at tagged
          omega
        · exact confirmed
      · rw [same_point stored known same, live] at archived
        cases archived

theorem mem_load_points {db : Db K} {kbVersionId : Nat} {p : KnowledgePoint K} (listed : p ∈ (KpGraph.load db kbVersionId).points) :
    p ∈ db.knowledgePoints.rows := List.mem_of_mem_filter listed

/-- What is newly taught are points of the graph in force that are not archived. -/
theorem newlyTaught_live {db : Db K} {g : KpGraph K} {classId : Nat} {codes : List String} {ids : List Nat}
    (done : newlyTaught db g classId codes = .ok ids) : ∀ k ∈ ids, ∃ p ∈ g.points, p.archived = false ∧ k = p.id := by
  induction codes generalizing ids with
  | nil =>
    cases done
    intro k member
    cases member
  | cons code codes ih =>
    rw [newlyTaught] at done
    split at done
    · cases done
    · rename_i p found
      split at done
      · cases done
      · rename_i live
        obtain ⟨rest, later, made⟩ := map_ok done
        obtain ⟨id, _, known⟩ := Option.bind_eq_some_iff.mp found
        have listed : p ∈ g.points := List.mem_of_find?_eq_some known
        intro k member
        rw [← made] at member
        split at member
        · rcases List.mem_cons.mp member with here | after
          · exact ⟨p, listed, by simpa using live, here⟩
          · exact ih later k after
        · exact ih later k member

theorem mem_insertProgress {classId : Nat} {taughtAt : Date} {ids : List Nat} {t : Table TeachingProgress} {r : TeachingProgress}
    (listed : r ∈ (insertProgress t classId taughtAt ids).rows) : r ∈ t.rows ∨ r.kpId ∈ ids := by
  induction ids generalizing t with
  | nil => exact Or.inl listed
  | cons k ids ih =>
    rcases ih listed with before | later
    · rcases List.mem_append.mp before with stored | new
      · exact Or.inl stored
      · rw [List.mem_singleton.mp new]
        exact Or.inr List.mem_cons_self
    · exact Or.inr (List.mem_cons_of_mem _ later)

theorem updateProgress_disciplined {db : Db K} (orderly : Orderly db) (classId : Nat) (kb : Except EditFailure Nat)
    (kpCodes : List String) (taughtAt : Date) :
    Orderly (updateProgress db classId kb kpCodes taughtAt).1 ∧
      Confirmed db (.updateProgress classId kb kpCodes taughtAt) (updateProgress db classId kb kpCodes taughtAt).1 := by
  unfold updateProgress
  split
  · exact ⟨orderly, confirmed_of_same rfl _⟩
  · rename_i kbVersionId
    split
    · exact ⟨orderly, confirmed_of_same rfl _⟩
    · rename_i ids taught
      split
      · refine ⟨orderly.teach rfl ?_, confirmed_of_same rfl _⟩
        intro r listed
        rcases mem_insertProgress listed with stored | new
        · exact Or.inl stored
        · obtain ⟨p, known, live, same⟩ := newlyTaught_live taught r.kpId new
          exact Or.inr ⟨p, mem_load_points known, live, same⟩
      · exact ⟨orderly, confirmed_of_same rfl _⟩

theorem updateQuestionTags_points (db : Db K) (questionId : Nat) (guard : Except EditFailure Unit) (kb : Except EditFailure Nat)
    (tags : List (String × K)) :
    (updateQuestionTags db questionId guard kb tags).1.knowledgePoints = db.knowledgePoints ∧
      (updateQuestionTags db questionId guard kb tags).1.progress = db.progress := by
  unfold updateQuestionTags
  split
  · exact ⟨rfl, rfl⟩
  · split
    · exact ⟨rfl, rfl⟩
    · split
      · exact ⟨rfl, rfl⟩
      · split
        · exact ⟨rfl, rfl⟩
        · split
          · exact ⟨rfl, rfl⟩
          · split
            · exact ⟨rfl, rfl⟩
            · exact ⟨rfl, rfl⟩

/-! Over a run. -/

section
variable [Field K] [LinearOrder K] [FloorRing K] (cfg : Config K)

/-- What the discipline asks of a call and the state it finds. -/
def Disciplined (db : Db K) (action : EditAction K) : Prop :=
  Orderly (editStep cfg db action) ∧ Confirmed db action (editStep cfg db action)

theorem disciplined_iff {db : Db K} (orderly : Orderly db) (action : EditAction K) :
    Disciplined cfg db action ↔ Permitted db action := by
  cases action with
  | createKp draft => exact ⟨fun _ => trivial, fun _ => createKp_disciplined orderly draft⟩
  | updateKp kpId preview changes today => exact updateKp_disciplined_iff cfg orderly kpId preview changes today
  | deleteKp kpId force confirm => exact ⟨fun _ => trivial, fun _ => deleteKp_disciplined orderly kpId force confirm⟩
  | updateProgress classId kb kpCodes taughtAt =>
    exact ⟨fun _ => trivial, fun _ => updateProgress_disciplined orderly classId kb kpCodes taughtAt⟩
  | updateQuestionTags questionId guard kb tags =>
    have same := updateQuestionTags_points db questionId guard kb tags
    refine ⟨fun _ => trivial, fun _ => ⟨orderly.teach same.1 ?_, confirmed_of_same same.1 _⟩⟩
    intro r listed
    change r ∈ (updateQuestionTags db questionId guard kb tags).1.progress.rows at listed
    rw [same.2] at listed
    exact Or.inl listed

/-- The discipline is kept all along a run exactly where every change of attributes that archives is permitted. -/
theorem discipline_iff (actions : List (EditAction K)) {db : Db K} (orderly : Orderly db) :
    (∀ first action rest, actions = first ++ action :: rest → Disciplined cfg (run (editStep cfg) db first) action) ↔
      Along (editStep cfg) Permitted db actions := by
  rw [← along_iff_every]
  induction actions generalizing db with
  | nil => exact Iff.rfl
  | cons action actions ih =>
    have here := disciplined_iff cfg orderly action
    constructor
    · intro along
      exact ⟨here.mp along.1, (ih along.1.1).mp along.2⟩
    · intro along
      have kept := here.mpr along.1
      exact ⟨kept, (ih kept.1).mpr along.2⟩

end

/-! A version with two points and a container; the first point is taught, and a question is tagged with it. -/

def schoolPoint (id : Nat) (code : String) : KnowledgePoint ℚ :=
  { id := id, kbVersionId := 1, code := code, name := code, grade := 7, cogLevelsExpected := [], difficultyPrior := 1 / 2,
    masteryFloor := 6 / 10, importance := .core, archived := false }

def schoolDb : Db ℚ :=
  { Db.empty ℚ with
    kbVersions := .ofList [⟨1, "数学", some 7, "人教版", "0.1.0", .active⟩]
    knowledgePoints := .ofList [schoolPoint 1 "M7A-101", schoolPoint 2 "M7A-102", schoolPoint 3 "C-M7A"]
    classes := .ofList [⟨1, 7⟩]
    templates := .ofList [⟨1, 1, 0, .unit, .other "excel"⟩]
    questions := .ofList [⟨1, 1, 1, "比较大小", .choice, 2, .understand, 1 / 2, some 4⟩]
    questionKps := .ofList [⟨1, 1, 1, 1⟩]
    progress := .ofList [⟨1, 1, 1, 0⟩] }

theorem schoolDb_orderly : Orderly schoolDb where
  untaught := by decide +kernel
  open_ := by decide +kernel

def archiveChange : KpChanges ℚ := { KpChanges.none with archived := some true }

def schoolRun : List (EditAction ℚ) :=
  [.deleteKp 1 false true, .updateProgress 1 (.ok 1) ["M7A-101"] 0, .updateKp 2 false archiveChange 0]

theorem discipline_school :
    Disciplined Config.rational (run (editStep Config.rational) schoolDb (schoolRun.take 2)) (.updateKp 2 false archiveChange 0) := by
  apply (discipline_iff Config.rational schoolRun schoolDb_orderly).mpr ⟨trivial, trivial, ?_, trivial⟩ (schoolRun.take 2) _ [] rfl
  intro p archives
  have second : some p = some (schoolPoint 2 "M7A-102") := archives.1.symm.trans (by decide +kernel)
  rw [Option.some.inj second]
  exact ⟨by decide +kernel, by decide +kernel, Or.inr (by decide +kernel)⟩

theorem discipline_counterexample :
    Orderly schoolDb ∧
      (¬ Orderly (editStep Config.rational schoolDb (.updateKp 1 false archiveChange 0)) ∧
        ¬ Confirmed schoolDb (.updateKp 1 false archiveChange 0)
          (editStep Config.rational schoolDb (.updateKp 1 false archiveChange 0))) ∧
      ¬ Orderly (editStep Config.rational schoolDb (.updateKp 3 false archiveChange 0)) := by
  refine ⟨schoolDb_orderly, ⟨?_, ?_⟩, ?_⟩
  · intro orderly
    exact absurd orderly.untaught (by decide +kernel)
  · intro confirmed
    exact absurd confirmed (by unfold Confirmed; decide +kernel)
  · intro orderly
    exact absurd orderly.open_ (by decide +kernel)

end KnowledgeGap.Kb.Editing
