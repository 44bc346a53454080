import KnowledgeGap.Auth.Access
import KnowledgeGap.Data.Outcome
import Mathlib.Data.List.Dedup

namespace KnowledgeGap.Auth

open Relational

section
variable {db : AccessDb} {secure : Bool} {teacher : Account} {exam : Exam} {clazz : SchoolClass} {classId : Nat}

theorem mem_grantsOf {g : TeacherClass} {teacherId : Nat} :
    g ∈ db.grantsOf teacherId classId ↔ g ∈ db.grants.rows ∧ g.teacherId = teacherId ∧ g.classId = classId := by
  simp [AccessDb.grantsOf, Table.select]

/-- A teacher has at most one grant for a class. -/
theorem grantsOf_single {g : TeacherClass} {teacherId : Nat} (held : g ∈ db.grantsOf teacherId classId) :
    ∀ h ∈ db.grantsOf teacherId classId, h = g := by
  intro h other
  obtain ⟨stored, by_, for_⟩ := mem_grantsOf.mp held
  obtain ⟨stored', by_', for_'⟩ := mem_grantsOf.mp other
  exact db.unique h stored' g stored (by_'.trans by_.symm) (for_'.trans for_.symm)

theorem mem_bound {teacherId : Nat} {subject : String} :
    subject ∈ db.bound teacherId classId ↔ ∃ g ∈ db.grantsOf teacherId classId, g.subject = some subject := List.mem_filterMap

/-- Whom the class check lets through. -/
theorem assertClassAccess_ok : assertClassAccess db secure ⟨some teacher⟩ classId = .ok clazz ↔
    db.classes.get? classId = some clazz ∧
      (teacher.admin = true ∨ clazz.ledBy teacher.id = true ∨ ∃ g, g ∈ db.grantsOf teacher.id classId) := by
  unfold assertClassAccess
  cases found : db.classes.get? classId with
  | none => exact ⟨nofun, fun both => absurd both.1 nofun⟩
  | some c =>
    dsimp only
    by_cases admin : teacher.admin = true
    · rw [if_pos admin, Except.ok.injEq, Option.some.injEq]
      exact ⟨fun same => ⟨same, .inl admin⟩, fun both => both.1⟩
    · rw [if_neg admin]
      by_cases leads : c.ledBy teacher.id = true
      · rw [if_pos leads, Except.ok.injEq, Option.some.injEq]
        exact ⟨fun same => ⟨same, .inr (.inl (same ▸ leads))⟩, fun both => both.1⟩
      · rw [if_neg leads]
        cases grants : db.grantsOf teacher.id classId with
        | nil =>
          rw [if_pos List.isEmpty_nil]
          refine ⟨nofun, ?_⟩
          intro both
          rcases both.2 with admin' | leads' | granted
          · exact absurd admin' admin
          · rw [Option.some.inj both.1] at leads
            exact absurd leads' leads
          · obtain ⟨g, member⟩ := granted
            cases member
        | cons g rest =>
          rw [if_neg (by simp), Except.ok.injEq, Option.some.injEq]
          exact ⟨fun same => ⟨same, .inr (.inr ⟨g, List.mem_cons_self⟩)⟩, fun both => both.1⟩

theorem some_examSubject (named : exam.subject ≠ some "") :
    exam.subject.or (some clazz.subject) = some (examSubject exam clazz) := by
  unfold examSubject
  cases written : exam.subject with
  | none => rfl
  | some subject =>
    have filled : subject ≠ "" := by
      intro empty
      rw [written, empty] at named
      exact named rfl
    dsimp only
    rw [if_neg filled]
    rfl

theorem sqlEquals_iff {a b : Option String} : sqlEquals a b = true ↔ ∃ s, a = some s ∧ b = some s := by
  cases a with
  | none => exact ⟨nofun, fun both => nomatch both.choose_spec.1⟩
  | some a =>
    cases b with
    | none => exact ⟨nofun, fun both => nomatch both.choose_spec.2⟩
    | some b =>
      change (a == b) = true ↔ _
      rw [beq_iff_eq]
      constructor
      · intro same
        exact ⟨a, rfl, congrArg some same.symm⟩
      · intro both
        obtain ⟨s, left, right⟩ := both
        exact (Option.some.inj left).trans (Option.some.inj right).symm

theorem granted_iff : db.granted teacher.id exam clazz = true ↔ ∃ g ∈ db.grantsOf teacher.id clazz.id,
    g.subject = none ∨ sqlEquals g.subject (exam.subject.or (some clazz.subject)) = true := by
  simp only [AccessDb.granted, List.any_eq_true, Bool.and_eq_true, beq_iff_eq, Bool.or_eq_true, Option.isNone_iff_eq_none,
    mem_grantsOf]
  constructor
  · intro found
    obtain ⟨g, stored, ids, subject⟩ := found
    exact ⟨g, ⟨stored, ids⟩, subject⟩
  · intro found
    obtain ⟨g, ⟨stored, ids⟩, subject⟩ := found
    exact ⟨g, stored, ids, subject⟩

/-- What the subject check of a grant comes to. -/
theorem granted_iff_bound (named : exam.subject ≠ some "") {g : TeacherClass} (held : g ∈ db.grantsOf teacher.id clazz.id) :
    db.granted teacher.id exam clazz = true ↔
      ¬ ((!(db.bound teacher.id clazz.id).isEmpty && !(db.bound teacher.id clazz.id).contains (examSubject exam clazz)) = true) := by
  rw [granted_iff, some_examSubject named]
  simp only [sqlEquals_iff, Bool.and_eq_true, Bool.not_eq_true', List.isEmpty_eq_false_iff, List.contains_eq_mem,
    decide_eq_false_iff_not, not_and, not_not]
  constructor
  · intro allowed some_
    obtain ⟨h, member, whole | part⟩ := allowed
    · obtain ⟨subject, inside⟩ := List.exists_mem_of_ne_nil _ some_
      obtain ⟨other, member', bound⟩ := mem_bound.mp inside
      rw [grantsOf_single held other member', ← grantsOf_single held h member, whole] at bound
      cases bound
    · obtain ⟨subject, bound, same⟩ := part
      rw [Option.some.inj same]
      exact mem_bound.mpr ⟨h, member, bound⟩
  · intro allowed
    cases subject : g.subject with
    | none => exact ⟨g, held, .inl subject⟩
    | some s =>
      have inside : s ∈ db.bound teacher.id clazz.id := mem_bound.mpr ⟨g, held, subject⟩
      obtain ⟨h, member, bound⟩ := mem_bound.mp (allowed (List.ne_nil_of_mem inside))
      exact ⟨h, member, .inr ⟨_, bound, rfl⟩⟩

/-- One exam: the condition of the list and the checks of the page agree. -/
theorem allowsExam_iff (named : exam.subject ≠ some "") :
    (db.classes.get? exam.classId).any (db.allowsExam ⟨some teacher⟩ exam) = true ↔
      assertExamAccess db secure ⟨some teacher⟩ exam = .ok () := by
  cases found : db.classes.get? exam.classId with
  | none =>
    refine ⟨nofun, ?_⟩
    intro allowed
    obtain ⟨clazz, access, _⟩ := bind_ok allowed
    rw [assertClassAccess_ok, found] at access
    exact absurd access.1 nofun
  | some clazz =>
    have keyed : clazz.id = exam.classId := Table.get?_key found
    rw [Option.any_some, AccessDb.allowsExam]
    dsimp only
    have checked : ∀ access : teacher.admin = true ∨ clazz.ledBy teacher.id = true ∨ ∃ g, g ∈ db.grantsOf teacher.id exam.classId,
        assertExamAccess db secure ⟨some teacher⟩ exam =
          if teacher.admin then .ok ()
          else if clazz.ledBy teacher.id then .ok ()
          else if !(db.bound teacher.id clazz.id).isEmpty && !(db.bound teacher.id clazz.id).contains (examSubject exam clazz) then
            .error (.permission ("教师 " ++ teacher.name ++ " 对班级 " ++ clazz.name ++ " 仅有 " ++
              "、".intercalate (db.bound teacher.id clazz.id) ++ " 学科视野，该考试学科为 " ++ examSubject exam clazz))
          else .ok () := by
      intro access
      rw [assertExamAccess, assertClassAccess_ok.mpr ⟨found, access⟩]
      rfl
    by_cases admin : teacher.admin = true
    · rw [checked (.inl admin), if_pos admin, admin]
      exact ⟨fun _ => rfl, fun _ => rfl⟩
    · rw [Bool.not_eq_true] at admin
      by_cases leads : clazz.ledBy teacher.id = true
      · rw [checked (.inr (.inl leads)), if_neg (by rw [admin]; decide), if_pos leads, leads]
        exact ⟨fun _ => rfl, fun _ => by simp⟩
      · rw [Bool.not_eq_true] at leads
        rw [admin, leads, Bool.false_or, Bool.false_or]
        by_cases granted : ∃ g, g ∈ db.grantsOf teacher.id exam.classId
        · rw [checked (.inr (.inr granted)), if_neg (by rw [admin]; decide), if_neg (by rw [leads]; decide)]
          obtain ⟨g, held⟩ := granted
          rw [← keyed] at held
          rw [granted_iff_bound named held]
          split
          · rename_i outside
            exact ⟨fun inside => absurd outside inside, nofun⟩
          · rename_i inside
            exact ⟨fun _ => rfl, fun _ => inside⟩
        · constructor
          · intro allowed
            obtain ⟨g, held, _⟩ := granted_iff.mp allowed
            exact absurd ⟨g, keyed ▸ held⟩ granted
          · intro allowed
            obtain ⟨clazz', access, _⟩ := bind_ok allowed
            rw [assertClassAccess_ok, found, Option.some.injEq] at access
            rcases access.2 with admin' | leads' | granted'
            · rw [admin] at admin'
              cases admin'
            · rw [← access.1, leads] at leads'
              cases leads'
            · exact absurd granted' granted

theorem mem_allowedExamIds {ctx : AccessContext} {examId : Nat} : examId ∈ allowedExamIds db ctx ↔
    ∃ exam, db.exams.get? examId = some exam ∧ (db.classes.get? exam.classId).any (db.allowsExam ctx exam) = true := by
  simp only [allowedExamIds, Table.select, List.mem_map, List.mem_filter]
  constructor
  · intro found
    obtain ⟨exam, ⟨stored, allowed⟩, id⟩ := found
    exact ⟨exam, id ▸ Table.get?_of_mem stored, allowed⟩
  · intro found
    obtain ⟨exam, stored, allowed⟩ := found
    exact ⟨exam, ⟨Table.get?_mem stored, allowed⟩, Table.get?_key stored⟩

theorem allowedClassIds_of_teacher (plain : teacher.admin = false) : ∃ allowed,
    allowedClassIds db ⟨some teacher⟩ = some allowed ∧
      ∀ classId, classId ∈ allowed ↔ ∃ clazz, assertClassAccess db secure ⟨some teacher⟩ classId = .ok clazz := by
  refine ⟨_, if_neg (by rw [plain]; decide), ?_⟩
  intro classId
  simp only [mem_stableSort, List.mem_dedup, List.mem_append, List.mem_map, Table.select, List.mem_filter, beq_iff_eq,
    assertClassAccess_ok, plain, Bool.false_eq_true, false_or]
  constructor
  · intro listed
    rcases listed with granted | led
    · obtain ⟨g, ⟨stored, by_⟩, for_⟩ := granted
      obtain ⟨clazz, found⟩ := Option.isSome_iff_exists.mp (db.refers g stored)
      rw [for_] at found
      exact ⟨clazz, found, .inr ⟨g, mem_grantsOf.mpr ⟨stored, by_, for_⟩⟩⟩
    · obtain ⟨clazz, ⟨stored, leads⟩, id⟩ := led
      exact ⟨clazz, id ▸ Table.get?_of_mem stored, .inl leads⟩
  · intro access
    obtain ⟨clazz, found, leads | granted⟩ := access
    · exact .inr ⟨clazz, ⟨Table.get?_mem found, leads⟩, Table.get?_key found⟩
    · obtain ⟨g, held⟩ := granted
      obtain ⟨stored, by_, for_⟩ := mem_grantsOf.mp held
      exact .inl ⟨g, ⟨stored, by_⟩, for_⟩

/-- The lists a teacher sees are what the pages let the teacher see. -/
theorem authorization_agrees (db : AccessDb) (secure : Bool) (teacher : Account)
    (named : ∀ exam ∈ db.exams.rows, exam.subject ≠ some "") :
    (∀ examId, examId ∈ allowedExamIds db ⟨some teacher⟩ ↔
      ∃ exam, db.exams.get? examId = some exam ∧ assertExamAccess db secure ⟨some teacher⟩ exam = .ok ()) ∧
    (teacher.admin = false → ∃ allowed, allowedClassIds db ⟨some teacher⟩ = some allowed ∧
      ∀ classId, classId ∈ allowed ↔ ∃ clazz, assertClassAccess db secure ⟨some teacher⟩ classId = .ok clazz) := by
  refine ⟨?_, allowedClassIds_of_teacher⟩
  intro examId
  rw [mem_allowedExamIds]
  apply exists_congr
  intro exam
  apply and_congr_right
  intro found
  exact allowsExam_iff (named exam (Table.get?_mem found))

end

/-- One class, an exam in the class's subject and one in another; teacher 7 is bound to that other subject. -/
def boundAccess : AccessDb where
  classes := Table.ofList [⟨1, "一班", 8, "数学", some 9⟩]
  exams := Table.ofList [⟨1, 1, none, "期中", 0, .other "excel"⟩, ⟨2, 1, some "物理", "期中", 0, .other "excel"⟩]
  grants := Table.ofList [⟨1, 7, 1, some "物理"⟩]
  unique := by decide +kernel
  refers := by decide +kernel

theorem authorization_agrees_bound :
    (∀ examId, examId ∈ allowedExamIds boundAccess ⟨some ⟨7, "王", false⟩⟩ ↔
      ∃ exam, boundAccess.exams.get? examId = some exam ∧ assertExamAccess boundAccess true ⟨some ⟨7, "王", false⟩⟩ exam = .ok ()) ∧
    ∃ allowed, allowedClassIds boundAccess ⟨some ⟨7, "王", false⟩⟩ = some allowed ∧
      ∀ classId, classId ∈ allowed ↔ ∃ clazz, assertClassAccess boundAccess true ⟨some ⟨7, "王", false⟩⟩ classId = .ok clazz := by
  have agrees := authorization_agrees boundAccess true ⟨7, "王", false⟩ (by decide +kernel)
  exact ⟨agrees.1, agrees.2 rfl⟩

example : allowedExamIds boundAccess ⟨some ⟨7, "王", false⟩⟩ = [2] := by decide +kernel

end KnowledgeGap.Auth
