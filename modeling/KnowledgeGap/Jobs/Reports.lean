import KnowledgeGap.Jobs.Desk
import KnowledgeGap.Jobs.Fencing

namespace KnowledgeGap.Jobs

open Relational Protocol

variable {K R : Type}

/-- What has become of the row an answer named. -/
structure Follows (domain : List (Nat × List Nat)) (a : Answer R) (r : AsyncJob JobPayload R) : Prop where
  payload : ∃ teacherId, r.payload = .examReports a.examId teacherId
  issued : a.job.attempts ≤ r.attempts
  attempted : r.status ≠ .queued → a.job.attempts < r.attempts
  reported : r.status = .succeeded → ∃ seen, (a.job.id, seen) ∈ domain

structure Answered (d : Desk K R) (a : Answer R) : Prop where
  queued : a.job.status = .queued
  row : ∃ r, d.queue.jobs.get? a.job.id = some r ∧ Follows d.queue.domain a r
  submitted : ∀ student ∈ a.committed, student ∈ submittedStudents a.examId d.responses
  published : ∀ seen, (a.job.id, seen) ∈ d.queue.domain → ∀ student ∈ a.committed, student ∈ seen
  gathered : ∀ i c seen, d.queue.threads i = .running c → c.job = a.job.id → a.job.attempts < c.attempt →
    d.handlers i = .gathered seen → ∀ student ∈ a.committed, student ∈ seen

structure Reporting (d : Desk K R) : Prop where
  fenced : Fenced d.queue
  keyed : ∀ job r examId, d.queue.jobs.get? job = some r → r.kind = "exam_reports" →
    r.idempotencyKey = some (examReportsKey examId) → ∃ teacherId, r.payload = .examReports examId teacherId
  issued : ∀ i c, (d.queue.threads i).claim? = some c →
    ∃ r, d.queue.jobs.get? c.job = some r ∧ c.attempt ≤ r.attempts
  started : ∀ i c payload, d.queue.threads i = .running c → d.handlers i = .started payload →
    ∃ r, d.queue.jobs.get? c.job = some r ∧ r.payload = payload
  ended : ∀ i c, d.queue.threads i = .running c → d.handlers i = .ended →
    ∃ r, d.queue.jobs.get? c.job = some r ∧ r.status = .succeeded
  returned : ∀ i c result, d.queue.threads i = .returned c result →
    ∃ r, d.queue.jobs.get? c.job = some r ∧ r.status = .succeeded
  answered : ∀ a ∈ d.answers, Answered d a

theorem reporting_start (now : DateTime) : Reporting (Desk.start now : Desk K R) where
  fenced := fenced_start now
  keyed := fun _ _ _ found => by cases found
  issued := fun _ _ claim => by cases claim
  started := fun _ _ _ running => by cases running
  ended := fun _ _ running => by cases running
  returned := fun _ _ _ returned => by cases returned
  answered := fun _ member => by cases member

structure Lawful (d : Desk K R) (a : Action JobPayload R (List Nat)) : Prop where
  publishes : ∀ i result seen, a = .commitResult i result seen → d.handlers i = .gathered seen
  returns : ∀ i result, a = .return i result → d.handlers i = .ended
  asks : ∀ payload limit examId,
    a = .enqueue "exam_reports" payload (some (examReportsKey examId)) limit →
    ∃ teacherId, payload = .examReports examId teacherId

theorem permits_lawful {d : Desk K R} {a : Action JobPayload R (List Nat)} (permitted : d.permits a = true) :
    Lawful d a where
  publishes := by
    intro i result seen same
    subst same
    simpa [Desk.permits] using permitted
  returns := by
    intro i result same
    subst same
    simpa [Desk.permits] using permitted
  asks := by
    intro payload limit examId same
    subst same
    simp [Desk.permits] at permitted

section
variable [Inhabited R] {worker : Nat → String} {d : Desk K R} {a : Action JobPayload R (List Nat)}

variable (worker) in
theorem Reporting.row (before : Reporting d) {job : Nat} {r : AsyncJob JobPayload R}
    (found : d.queue.jobs.get? job = some r) : Moves d.queue (d.work worker a).queue a job r :=
  step_row worker d.queue a job r found (before.fenced.locks r (Table.get?_mem found))

theorem Reporting.finished (before : Reporting d) {job : Nat} {r : AsyncJob JobPayload R}
    (found : d.queue.jobs.get? job = some r) (done : r.status = .succeeded) :
    (d.work worker a).queue.jobs.get? job = some r :=
  step_finished worker d.queue a found (before.fenced.locks r (Table.get?_mem found)) done

variable (worker) in
/-- A thread that runs after a queue action was running before, with its handler where it was or
    just past `_commit_result`, or it has just claimed its job. -/
theorem running_cases {i : Nat} {c : Claim} (running : (d.work worker a).queue.threads i = .running c) :
    (d.queue.threads i = .running c ∧
      (d.advance a i = d.handlers i ∨
        d.advance a i = .ended ∧ ∃ result seen, a = .commitResult i result seen)) ∨
    (∃ r, d.queue.jobs.get? c.job = some r ∧ d.advance a i = .started r.payload) := by
  have move := step_phase worker d.queue a i
  rw [show (step worker d.queue a).threads i = .running c from running] at move
  generalize phase : Phase.running c = p at move
  cases move with
  | keep =>
    left
    refine ⟨rfl, ?_⟩
    cases a with
    | swap j =>
      left
      cases selected : d.queue.threads j with
      | selected now k =>
        have other : i ≠ j := by
          intro same
          rw [← same, ← phase] at selected
          cases selected
        cases row : d.queue.jobs.get? k.job with
        | some r => simp [Desk.advance, selected, row, Function.update_of_ne other]
        | none => simp [Desk.advance, selected, row]
      | _ => simp [Desk.advance, selected]
    | commitResult j result seen =>
      by_cases same : i = j
      · subst same
        exact Or.inr ⟨Function.update_self _ _ _, result, seen, rfl⟩
      · exact Or.inl (Function.update_of_ne same _ _)
    | _ => exact Or.inl rfl
  | unclaimed _ idle =>
    rw [← phase] at idle
    cases idle
  | claimed c' r swapped selected found =>
    cases phase
    obtain ⟨now, selected⟩ := selected
    subst swapped
    right
    refine ⟨r, found, ?_⟩
    simp [Desk.advance, selected, found]
  | returned => cases phase
  | raised => cases phase
  | failing => cases phase

theorem work_keyed (before : Reporting d) (lawful : Lawful d a) {job examId : Nat} {r' : AsyncJob JobPayload R}
    (found : (d.work worker a).queue.jobs.get? job = some r') (kind : r'.kind = "exam_reports")
    (key : r'.idempotencyKey = some (examReportsKey examId)) :
    ∃ teacherId, r'.payload = .examReports examId teacherId := by
  cases old : d.queue.jobs.get? job with
  | none =>
    obtain ⟨⟨limit, asked⟩, _⟩ := step_new worker d.queue a job r' old found
    rw [kind, key] at asked
    exact lawful.asks _ limit examId asked
  | some r =>
    obtain ⟨_, x, image, move, _⟩ := before.row worker old
    rw [found] at image
    cases image
    obtain ⟨sameKind, sameKey, samePayload⟩ := move.payload
    rw [samePayload]
    exact before.keyed job r examId old (sameKind ▸ kind) (sameKey ▸ key)

theorem work_issued (before : Reporting d) {i : Nat} {c : Claim}
    (claim : ((d.work worker a).queue.threads i).claim? = some c) :
    ∃ r, (d.work worker a).queue.jobs.get? c.job = some r ∧ c.attempt ≤ r.attempts := by
  have later : (d.queue.threads i).claim? = some c →
      ∃ r, (d.work worker a).queue.jobs.get? c.job = some r ∧ c.attempt ≤ r.attempts := by
    intro held
    obtain ⟨r, found, bound⟩ := before.issued i c held
    obtain ⟨_, r', image, move, _⟩ := before.row worker found
    exact ⟨r', image, Nat.le_trans bound move.attempts_le⟩
  have move := step_phase worker d.queue a i
  rw [show (d.work worker a).queue = step worker d.queue a from rfl] at claim
  generalize phase : (step worker d.queue a).threads i = p at move claim
  cases move with
  | keep => exact later claim
  | unclaimed _ idle =>
    rw [idle] at claim
    cases claim
  | claimed c' r swapped selected found attempt granted =>
    cases claim
    obtain ⟨r', image, attempts⟩ := granted
    exact ⟨r', image, Nat.le_of_eq attempts.symm⟩
  | returned c' result acted running =>
    apply later
    rw [running]
    exact claim
  | raised c' error running =>
    apply later
    rw [running]
    exact claim
  | failing c' error retry raised =>
    apply later
    rw [raised]
    exact claim

theorem work_started (before : Reporting d) {i : Nat} {c : Claim} {payload : JobPayload}
    (running : (d.work worker a).queue.threads i = .running c) (handler : d.advance a i = .started payload) :
    ∃ r, (d.work worker a).queue.jobs.get? c.job = some r ∧ r.payload = payload := by
  have held : ∃ r, d.queue.jobs.get? c.job = some r ∧ r.payload = payload := by
    rcases running_cases worker running with ⟨ran, same | ⟨ended, _⟩⟩ | ⟨r, found, started⟩
    · exact before.started i c payload ran (same ▸ handler)
    · rw [ended] at handler
      cases handler
    · rw [started] at handler
      cases handler
      exact ⟨r, found, rfl⟩
  obtain ⟨r, found, same⟩ := held
  obtain ⟨_, r', image, move, _⟩ := before.row worker found
  exact ⟨r', image, move.payload.2.2.trans same⟩

theorem work_ended (before : Reporting d) {i : Nat} {c : Claim}
    (running : (d.work worker a).queue.threads i = .running c) (handler : d.advance a i = .ended) :
    ∃ r, (d.work worker a).queue.jobs.get? c.job = some r ∧ r.status = .succeeded := by
  rcases running_cases worker running with ⟨ran, same | ⟨_, result, seen, acted⟩⟩ | ⟨r, found, started⟩
  · obtain ⟨r, found, done⟩ := before.ended i c ran (same ▸ handler)
    exact ⟨r, before.finished found done, done⟩
  · subst acted
    exact commitResult_completed worker ran running
  · rw [started] at handler
    cases handler

theorem work_returned (before : Reporting d) (lawful : Lawful d a) {i : Nat} {c : Claim} {result : Option R}
    (returned : (d.work worker a).queue.threads i = .returned c result) :
    ∃ r, (d.work worker a).queue.jobs.get? c.job = some r ∧ r.status = .succeeded := by
  have held : ∃ r, d.queue.jobs.get? c.job = some r ∧ r.status = .succeeded := by
    have move := step_phase worker d.queue a i
    rw [show (step worker d.queue a).threads i = .returned c result from returned] at move
    generalize phase : Phase.returned c result = p at move
    cases move with
    | keep => exact before.returned i c result phase.symm
    | unclaimed _ idle =>
      rw [← phase] at idle
      cases idle
    | claimed => cases phase
    | returned c' result' acted ran =>
      cases phase
      exact before.ended i c ran (lawful.returns i result acted)
    | raised => cases phase
    | failing => cases phase
  obtain ⟨r, found, done⟩ := held
  exact ⟨r, before.finished found done, done⟩

theorem work_published (lawful : Lawful d a) {answer : Answer R}
    (answered : Answered d answer) {seen : List Nat}
    (written : (answer.job.id, seen) ∈ (d.work worker a).queue.domain) :
    ∀ student ∈ answer.committed, student ∈ seen := by
  rcases step_domain worker d.queue a with same | ⟨i, result, writes, c, acted, running, owner, grown⟩
  · exact answered.published seen (same ▸ written)
  · rw [show (d.work worker a).queue.domain = d.queue.domain ++ [(c.job, writes)] from grown,
      List.mem_append, List.mem_singleton] at written
    rcases written with old | new
    · exact answered.published seen old
    · obtain ⟨sameJob, sameWrites⟩ := Prod.mk.inj new
      obtain ⟨r, found, owned⟩ := owner
      obtain ⟨row, stored, follows⟩ := answered.row
      rw [← sameJob, stored] at found
      cases found
      have newer : answer.job.attempts < c.attempt := by
        rw [← ownership_attempt owned]
        apply follows.attempted
        rw [ownership_running owned]
        decide
      rw [sameWrites]
      exact answered.gathered i c writes running sameJob.symm newer (lawful.publishes i result writes acted)

theorem work_reported (before : Reporting d) {answer : Answer R} {c : Claim} {e : Fencing.Event}
    {r : AsyncJob JobPayload R} (found : d.queue.jobs.get? answer.job.id = some r)
    (owned : ownership c r = true) (completes : Completes d.queue a c e) :
    ∃ seen, (answer.job.id, seen) ∈ (d.work worker a).queue.domain := by
  have key : answer.job.id = c.job := (Table.get?_key found).symm.trans (ownership_pinned c r owned)
  cases e with
  | commit =>
    obtain ⟨i, result, seen, acted, running⟩ := completes
    have one : d.queue.jobs.rowcount (ownership c) = 1 :=
      (d.queue.jobs.rowcount_eq_one_iff _ c.job (ownership_pinned c)).mpr ⟨r, key ▸ found, owned⟩
    refine ⟨seen, ?_⟩
    subst acted
    simp [Desk.work, step, running, commitResult, one, key]
  | silent =>
    obtain ⟨i, result, acted, returned⟩ := completes
    obtain ⟨row, stored, succeeded⟩ := before.returned i c result returned
    rw [← key, found] at stored
    cases stored
    rw [ownership_running owned] at succeeded
    cases succeeded
  | grant => cases completes

theorem work_row (before : Reporting d) {answer : Answer R} (answered : Answered d answer) :
    ∃ r, (d.work worker a).queue.jobs.get? answer.job.id = some r ∧
      Follows (d.work worker a).queue.domain answer r := by
  obtain ⟨r, found, follows⟩ := answered.row
  obtain ⟨e, r', image, move, _⟩ := before.row worker found
  obtain ⟨teacherId, payload⟩ := follows.payload
  refine ⟨r', image, ⟨teacherId, move.payload.2.2.trans payload⟩,
    Nat.le_trans follows.issued move.attempts_le, move.attempted follows.issued follows.attempted, ?_⟩
  intro done
  rcases move.completed done with was | ⟨c, owned, completes⟩
  · obtain ⟨seen, member⟩ := follows.reported was
    exact ⟨seen, step_domain_grows worker d.queue a member⟩
  · exact work_reported before found owned completes

theorem work_answered (before : Reporting d) (lawful : Lawful d a) {answer : Answer R}
    (answered : Answered d answer) : Answered (d.work worker a) answer where
  queued := answered.queued
  row := work_row before answered
  submitted := answered.submitted
  published := fun _ written => work_published lawful answered written
  gathered := by
    intro i c seen running job newer handler
    rcases running_cases worker running with ⟨ran, same | ⟨ended, _⟩⟩ | ⟨r, found, started⟩
    · exact answered.gathered i c seen ran job newer (same ▸ handler)
    · rw [show (d.work worker a).handlers i = .ended from ended] at handler
      cases handler
    · rw [show (d.work worker a).handlers i = .started r.payload from started] at handler
      cases handler

theorem work_reporting (before : Reporting d) (lawful : Lawful d a) : Reporting (d.work worker a) where
  fenced := step_fenced worker d.queue a before.fenced
  keyed := fun _ _ _ found kind key => work_keyed before lawful found kind key
  issued := fun _ _ claim => work_issued before claim
  started := fun _ _ _ running handler => work_started before running handler
  ended := fun _ _ running handler => work_ended before running handler
  returned := fun _ _ _ returned => work_returned before lawful returned
  answered := fun answer member => work_answered before lawful (before.answered answer member)

end

theorem examReportsKey_injective {left right : Nat} (same : examReportsKey left = examReportsKey right) :
    left = right :=
  toString_injective ((String.append_right_inj _).mp same)

theorem enqueue_lawful (d : Desk K R) (examId : Nat) (teacherId : Option Nat) :
    Lawful d (.enqueue "exam_reports" (.examReports examId teacherId) (some (examReportsKey examId)) 3) where
  publishes := fun _ _ _ acted => by cases acted
  returns := fun _ _ acted => by cases acted
  asks := by
    intro payload limit other acted
    injection acted with _ payloads keys _
    have same := examReportsKey_injective (Option.some.inj keys)
    subst same
    exact ⟨teacherId, payloads.symm⟩

theorem reporting_of_responses {d : Desk K R} (before : Reporting d) (responses : Table (ExamResponse K))
    (grows : ∀ examId, ∀ student ∈ submittedStudents examId d.responses,
      student ∈ submittedStudents examId responses) : Reporting { d with responses } where
  fenced := before.fenced
  keyed := before.keyed
  issued := before.issued
  started := before.started
  ended := before.ended
  returned := before.returned
  answered := by
    intro answer member
    have answered := before.answered answer member
    exact
      { queued := answered.queued
        row := answered.row
        submitted := fun student new => grows _ student (answered.submitted student new)
        published := answered.published
        gathered := answered.gathered }

theorem reporting_of_answer {d : Desk K R} (before : Reporting d) (answer : Answer R)
    (answered : Answered d answer) : Reporting { d with answers := d.answers ++ [answer] } where
  fenced := before.fenced
  keyed := before.keyed
  issued := before.issued
  started := before.started
  ended := before.ended
  returned := before.returned
  answered := by
    intro other member
    have known : Answered d other := by
      rcases List.mem_append.mp member with old | new
      · exact before.answered other old
      · rw [List.mem_singleton.mp new]
        exact answered
    exact
      { queued := known.queued
        row := known.row
        submitted := known.submitted
        published := known.published
        gathered := known.gathered }

theorem mem_submittedStudents {examId student : Nat} {responses : Table (ExamResponse K)} :
    student ∈ submittedStudents examId responses ↔
      ∃ r ∈ responses.rows, r.examTemplateId = examId ∧ r.status = .submitted ∧ r.studentId = student := by
  simp only [submittedStudents, Table.select, List.mem_map, List.mem_filter, Bool.and_eq_true, beq_iff_eq]
  constructor
  · intro holds
    obtain ⟨r, ⟨stored, exam, status⟩, same⟩ := holds
    exact ⟨r, stored, exam, status, same⟩
  · intro holds
    obtain ⟨r, stored, exam, status, same⟩ := holds
    exact ⟨r, ⟨stored, exam, status⟩, same⟩

theorem commitExam_keeps {examId other student : Nat} {responses : Table (ExamResponse K)}
    (member : student ∈ submittedStudents other responses) :
    student ∈ submittedStudents other (commitExam examId responses) := by
  rw [mem_submittedStudents] at member ⊢
  obtain ⟨r, stored, exam, status, same⟩ := member
  have kept : awaiting examId r = false := by simp [awaiting, status]
  refine ⟨r, ?_, exam, status, same⟩
  refine List.mem_map.mpr ⟨r, stored, ?_⟩
  rw [if_neg (by simp [kept])]

theorem commitExam_submits {examId student : Nat} {responses : Table (ExamResponse K)}
    (member : student ∈ (responses.select (awaiting examId)).map ExamResponse.studentId) :
    student ∈ submittedStudents examId (commitExam examId responses) := by
  obtain ⟨r, selected, same⟩ := List.mem_map.mp member
  obtain ⟨stored, hit⟩ := List.mem_filter.mp selected
  have exam : r.examTemplateId = examId := by
    simp only [awaiting, Bool.and_eq_true, beq_iff_eq] at hit
    exact hit.1
  rw [mem_submittedStudents]
  refine ⟨{ r with status := .submitted }, ?_, exam, rfl, same⟩
  refine List.mem_map.mpr ⟨r, stored, ?_⟩
  rw [if_pos hit]

theorem import_reporting {d : Desk K R} (before : Reporting d) (examId studentId : Nat) (totalScore : K) :
    Reporting { d with
      responses := d.responses.insert
        (fun id => { id, examTemplateId := examId, studentId, totalScore, status := .pendingReview })
        (fun _ => rfl) } := by
  apply reporting_of_responses before
  intro other student member
  rw [mem_submittedStudents] at member ⊢
  obtain ⟨r, stored, holds⟩ := member
  exact ⟨r, List.mem_append_left _ stored, holds⟩

theorem step_enqueueExamReports [Inhabited R] (worker : Nat → String) {s : World JobPayload R (List Nat)}
    {examId : Nat} {teacherId : Option Nat} {jobs : Table (AsyncJob JobPayload R)} {job : AsyncJob JobPayload R}
    (queued : enqueueExamReports s.now examId teacherId s.jobs = some (jobs, job)) :
    step worker s (.enqueue "exam_reports" (.examReports examId teacherId) (some (examReportsKey examId)) 3) =
      { s with jobs } := by
  unfold enqueueExamReports at queued
  simp only [step, queued]

theorem commit_answered {d : Desk K R} (before : Reporting d) {examId : Nat}
    {committed : List Nat} {job : AsyncJob JobPayload R} (queued : job.status = .queued)
    (found : d.queue.jobs.get? job.id = some job) (kind : job.kind = "exam_reports")
    (key : job.idempotencyKey = some (examReportsKey examId))
    (submitted : ∀ student ∈ committed, student ∈ submittedStudents examId d.responses) :
    Answered d ⟨examId, committed, job⟩ where
  queued := queued
  row := by
    refine ⟨job, found, before.keyed job.id job examId found kind key, Nat.le_refl _, ?_, ?_⟩
    · intro left
      exact absurd queued left
    · intro done
      rw [queued] at done
      cases done
  submitted := submitted
  published := by
    intro seen written
    have done := before.fenced.succeeded written found
    rw [queued] at done
    cases done
  gathered := by
    intro i c seen running same newer
    obtain ⟨r, stored, bound⟩ := before.issued i c (by rw [running]; rfl)
    rw [same, found] at stored
    cases stored
    exact absurd newer (Nat.not_lt.mpr bound)

theorem commit_reporting [Inhabited R] (worker : Nat → String) {d : Desk K R} (before : Reporting d)
    (examId : Nat) (teacherId : Option Nat) (timely : Timely d (.commit examId teacherId)) :
    Reporting (d.commit examId teacherId) := by
  unfold Desk.commit
  simp only
  by_cases none_awaiting : d.responses.select (awaiting examId) = []
  · rw [none_awaiting]
    exact before
  · rw [if_neg (by simpa using none_awaiting)]
    have waiting := timely.resolve_left none_awaiting
    cases queued : enqueueExamReports d.queue.now examId teacherId d.queue.jobs with
    | none => exact before
    | some pair =>
      obtain ⟨jobs, job⟩ := pair
      have enqueued : Reporting { d with queue := { d.queue with jobs } } := by
        rw [← step_enqueueExamReports worker queued]
        exact work_reporting before (enqueue_lawful d examId teacherId)
      have committed := reporting_of_responses enqueued (commitExam examId d.responses)
        (fun _ _ member => commitExam_keeps member)
      obtain ⟨kind, key, origin⟩ := enqueue_cases queued
      have status : job.status = .queued := by
        rcases origin with ⟨_, stored⟩ | ⟨_, fresh, _⟩
        · exact waiting job stored kind key
        · exact fresh
      exact reporting_of_answer committed _
        (commit_answered committed status (enqueue_answer queued) kind key (fun _ member => commitExam_submits member))

theorem gather_reporting {d : Desk K R} (before : Reporting d) {i : Nat} {c : Claim} {payload : JobPayload}
    (running : d.queue.threads i = .running c) (handler : d.handlers i = .started payload) :
    Reporting { d with handlers := Function.update d.handlers i (.gathered (gather d.responses payload)) } where
  fenced := before.fenced
  keyed := before.keyed
  issued := before.issued
  started := by
    intro j c' payload' ran held
    by_cases same : j = i
    · subst same
      simp at held
    · exact before.started j c' payload' ran ((Function.update_of_ne same _ _).symm.trans held)
  ended := by
    intro j c' ran held
    by_cases same : j = i
    · subst same
      simp at held
    · exact before.ended j c' ran ((Function.update_of_ne same _ _).symm.trans held)
  returned := before.returned
  answered := by
    intro answer member
    have answered := before.answered answer member
    refine
      { queued := answered.queued
        row := answered.row
        submitted := answered.submitted
        published := answered.published
        gathered := ?_ }
    intro j c' seen ran job newer held
    by_cases same : j = i
    · subst same
      rw [running] at ran
      cases ran
      obtain ⟨row, stored, follows⟩ := answered.row
      obtain ⟨teacherId, asked⟩ := follows.payload
      obtain ⟨r, found, payloads⟩ := before.started j c payload running handler
      rw [job, stored] at found
      cases found
      rw [← payloads, asked] at held
      simp only [Function.update_self, Handler.gathered.injEq] at held
      rw [← held]
      exact answered.submitted
    · exact answered.gathered j c' seen ran job newer ((Function.update_of_ne same _ _).symm.trans held)

theorem step_reporting [Inhabited R] (worker : Nat → String) (d : Desk K R) (a : DeskAction K R)
    (before : Reporting d) (timely : Timely d a) : Reporting (d.step worker a) := by
  cases a with
  | importResponse examId studentId totalScore =>
    simp only [Desk.step]
    split
    · exact before
    · exact import_reporting before examId studentId totalScore
  | commit examId teacherId => exact commit_reporting worker before examId teacherId timely
  | gather i =>
    simp only [Desk.step]
    split
    · rename_i c payload running handler
      exact gather_reporting before running handler
    · exact before
  | work a =>
    simp only [Desk.step]
    split
    · rename_i permitted
      exact work_reporting before (permits_lawful permitted)
    · exact before

theorem step_queue [Inhabited R] (worker : Nat → String) (d : Desk K R) (a : DeskAction K R) :
    (d.step worker a).queue = d.queue ∨ ∃ b, (d.step worker a).queue = step worker d.queue b := by
  cases a with
  | importResponse examId studentId totalScore =>
    simp only [Desk.step]
    split <;> exact Or.inl rfl
  | commit examId teacherId =>
    simp only [Desk.step, Desk.commit]
    split
    · exact Or.inl rfl
    · cases queued : enqueueExamReports d.queue.now examId teacherId d.queue.jobs with
      | none => exact Or.inl rfl
      | some pair => exact Or.inr ⟨_, (step_enqueueExamReports worker queued).symm⟩
  | gather i =>
    simp only [Desk.step]
    split <;> exact Or.inl rfl
  | work a =>
    simp only [Desk.step]
    split
    · exact Or.inr ⟨a, rfl⟩
    · exact Or.inl rfl

theorem run_queue_fenced [Inhabited R] (worker : Nat → String) {d : Desk K R} (actions : List (DeskAction K R))
    (start : Fenced d.queue) : Fenced (run (Desk.step worker) d actions).queue := by
  have preserve : ∀ (d : Desk K R) (a : DeskAction K R), Fenced d.queue → Fenced (d.step worker a).queue := by
    intro d a before
    rcases step_queue worker d a with same | ⟨b, stepped⟩
    · rw [same]
      exact before
    · rw [stepped]
      exact step_fenced worker d.queue b before
  exact run_invariant preserve actions d start

theorem run_domain_grows [Inhabited R] (worker : Nat → String) {d : Desk K R} (actions : List (DeskAction K R))
    {entry : Nat × List Nat} (start : entry ∈ d.queue.domain) :
    entry ∈ (run (Desk.step worker) d actions).queue.domain := by
  have preserve : ∀ (d : Desk K R) (a : DeskAction K R), entry ∈ d.queue.domain →
      entry ∈ (d.step worker a).queue.domain := by
    intro d a before
    rcases step_queue worker d a with same | ⟨b, stepped⟩
    · rw [same]
      exact before
    · rw [stepped]
      exact step_domain_grows worker d.queue b before
  exact run_invariant preserve actions d start

theorem step_answers [Inhabited R] (worker : Nat → String) {d : Desk K R} {a : DeskAction K R}
    (work : a.isWork = true) : (d.step worker a).answers = d.answers := by
  cases a with
  | importResponse examId studentId totalScore => cases work
  | commit examId teacherId => cases work
  | gather i =>
    simp only [Desk.step]
    split <;> rfl
  | work a =>
    simp only [Desk.step]
    split <;> rfl

theorem work_timely {d : Desk K R} {a : DeskAction K R} (work : a.isWork = true) : Timely d a := by
  cases a with
  | importResponse examId studentId totalScore => cases work
  | commit examId teacherId => cases work
  | gather i => trivial
  | work a => trivial

theorem work_run [Inhabited R] (worker : Nat → String) {d : Desk K R} (before : Reporting d)
    (later : List (DeskAction K R)) (works : ∀ a ∈ later, a.isWork = true) :
    Reporting (run (Desk.step worker) d later) ∧
      (run (Desk.step worker) d later).answers = d.answers := by
  induction later generalizing d with
  | nil => exact ⟨before, rfl⟩
  | cons a later ih =>
    have work := works a List.mem_cons_self
    obtain ⟨after, same⟩ := ih (step_reporting worker d a before (work_timely work))
      (fun b member => works b (List.mem_cons_of_mem a member))
    exact ⟨after, same.trans (step_answers worker work)⟩

/-- Some worker steps take the job to success. -/
def Reportable [Inhabited R] (worker : Nat → String) (d : Desk K R) (job : Nat) : Prop :=
  ∃ later : List (DeskAction K R), (∀ a ∈ later, a.isWork = true) ∧
    ∃ r, (run (Desk.step worker) d later).queue.jobs.get? job = some r ∧ r.status = .succeeded

section
variable [Inhabited R] {worker : Nat → String} {d : Desk K R} {job i : Nat} {r : AsyncJob JobPayload R}

theorem Reportable.of_step {a : DeskAction K R} (work : a.isWork = true)
    (reached : Reportable worker (d.step worker a) job) : Reportable worker d job := by
  obtain ⟨later, works, done⟩ := reached
  refine ⟨a :: later, ?_, done⟩
  intro b member
  rcases List.mem_cons.mp member with same | rest
  · rw [same]
    exact work
  · exact works b rest

theorem reportable_of_gathered {c : Claim} {seen : List Nat} (running : d.queue.threads i = .running c)
    (handler : d.handlers i = .gathered seen) (found : d.queue.jobs.get? c.job = some r)
    (owned : ownership c r = true) : Reportable worker d c.job := by
  refine ⟨[.work (.commitResult i default seen)], by simp [DeskAction.isWork], ?_⟩
  have permitted : d.permits (.commitResult i default seen) = true := by simp [Desk.permits, handler]
  have one : d.queue.jobs.rowcount (ownership c) = 1 :=
    (d.queue.jobs.rowcount_eq_one_iff _ c.job (ownership_pinned c)).mpr ⟨r, found, owned⟩
  have after : (step worker d.queue (.commitResult i default seen)).threads i = .running c := by
    simp [step, running, commitResult, one]
  obtain ⟨r', image, done⟩ := commitResult_completed worker running after
  refine ⟨r', ?_, done⟩
  simp only [run_cons, run_nil, Desk.step, permitted, if_true, Desk.work]
  exact image

theorem reportable_of_started {c : Claim} {payload : JobPayload} (running : d.queue.threads i = .running c)
    (handler : d.handlers i = .started payload) (found : d.queue.jobs.get? c.job = some r)
    (owned : ownership c r = true) : Reportable worker d c.job := by
  apply Reportable.of_step (a := .gather i) rfl
  have gathered : d.step worker (.gather i) =
      { d with handlers := Function.update d.handlers i (.gathered (gather d.responses payload)) } := by
    simp only [Desk.step, running, handler]
  rw [gathered]
  exact reportable_of_gathered (i := i) running (Function.update_self _ _ _) found owned

theorem reportable_of_selected {now : DateTime} (selected : d.queue.threads i = .selected now ⟨job, r.status, r.attempts⟩)
    (found : d.queue.jobs.get? job = some r) (queued : r.status = .queued) : Reportable worker d job := by
  apply Reportable.of_step (a := .work (.swap i)) rfl
  have matched : unchanged now ⟨job, r.status, r.attempts⟩ r = true := by
    have key : r.id = job := Table.get?_key found
    simp [unchanged, key, queued]
  have one : d.queue.jobs.rowcount (unchanged now ⟨job, r.status, r.attempts⟩) = 1 :=
    (d.queue.jobs.rowcount_eq_one_iff _ job (unchanged_pinned now _)).mpr ⟨r, found, matched⟩
  have running : (d.work worker (.swap i)).queue.threads i = .running ⟨job, worker i, r.attempts + 1⟩ := by
    simp [Desk.work, step, selected, one, World.goto]
  have handler : (d.work worker (.swap i)).handlers i = .started r.payload := by
    simp [Desk.work, Desk.advance, selected, found]
  have granted : (d.work worker (.swap i)).queue.jobs.get? job =
      some { r with status := .running, lockedBy := some (worker i), lockedAt := some now,
                    attempts := r.attempts + 1 } := by
    simp only [Desk.work, step, selected, one, if_true]
    exact Table.get?_updateWhere_of_pos (by intro; rfl) found matched
  refine reportable_of_started running handler granted ?_
  have key : r.id = job := Table.get?_key found
  simp [ownership, key]

omit [Inhabited R] in
theorem selectCandidate_only {P : Type} {jobs : Table (AsyncJob P R)} {r : AsyncJob P R} {now : DateTime}
    (found : jobs.get? job = some r) (ready : claimable now r = true) :
    selectCandidate now ((jobs.rows.map AsyncJob.id).filter (· != job)) jobs = some r := by
  have key : r.id = job := Table.get?_key found
  have only : (jobs.select (claimable now)).filter
      (fun x => !((jobs.rows.map AsyncJob.id).filter (· != job)).contains x.id) =
      jobs.select (fun x => claimable now x && x.id == job) := by
    rw [Table.select, Table.select, List.filter_filter]
    apply List.filter_congr
    intro x stored
    have listed : x.id ∈ jobs.rows.map AsyncJob.id := List.mem_map.mpr ⟨x, stored, rfl⟩
    by_cases same : x.id = job <;> simp [same, listed, Bool.and_comm]
  have pinned : ∀ x : AsyncJob P R, (claimable now x && x.id == job) = true → Keyed.key x = job := by
    intro x holds
    simp only [Bool.and_eq_true, beq_iff_eq] at holds
    exact holds.2
  rw [selectCandidate, only, Table.select_of_key _ _ job pinned, found]
  simp [Option.filter_some, ready, key]

theorem reportable_of_claiming {now : DateTime} (claiming : d.queue.threads i = .claiming now)
    (found : d.queue.jobs.get? job = some r) (queued : r.status = .queued) (available : r.availableAt ≤ now) :
    Reportable worker d job := by
  have ready : claimable now r = true := by simp [claimable, queued, available]
  have chosen := selectCandidate_only found ready
  apply Reportable.of_step (a := .work (.select i ((d.queue.jobs.rows.map AsyncJob.id).filter (· != job)))) rfl
  have key : r.id = job := Table.get?_key found
  have selected : d.step worker (.work (.select i ((d.queue.jobs.rows.map AsyncJob.id).filter (· != job)))) =
      { d with queue := d.queue.goto i (.selected now ⟨job, r.status, r.attempts⟩) } := by
    simp [Desk.step, Desk.permits, Desk.work, Desk.advance, step, claiming, chosen, key]
  rw [selected]
  exact reportable_of_selected (Function.update_self _ _ _) found queued

theorem reportable_of_idle (idle : d.queue.threads i = .idle) (found : d.queue.jobs.get? job = some r)
    (queued : r.status = .queued) (available : r.availableAt ≤ d.queue.now) : Reportable worker d job := by
  apply Reportable.of_step (a := .work (.expire i)) rfl
  have expired : d.step worker (.work (.expire i)) =
      { d with queue :=
          { d.queue with jobs := expire d.queue.now d.queue.jobs }.goto i (.claiming d.queue.now) } := by
    simp [Desk.step, Desk.permits, Desk.work, Desk.advance, step, idle]
  have kept : (expire d.queue.now d.queue.jobs).get? job = some r :=
    Table.get?_updateWhere_of_neg (by intro; rfl) found (by simp [queued])
  rw [expired]
  exact reportable_of_claiming (Function.update_self _ _ _) kept queued available

variable (worker) in
theorem reportable_of_queued (found : d.queue.jobs.get? job = some r) (queued : r.status = .queued) :
    Reportable worker d job := by
  apply Reportable.of_step (a := .work (.crash 0)) rfl
  apply Reportable.of_step (a := .work (.tick (r.availableAt - d.queue.now).toNat)) rfl
  have waited : (d.step worker (.work (.crash 0))).step worker
        (.work (.tick (r.availableAt - d.queue.now).toNat)) =
      { d with queue :=
          { d.queue.goto 0 .idle with now := d.queue.now + ((r.availableAt - d.queue.now).toNat : Int) } } := rfl
  rw [waited]
  refine reportable_of_idle (i := 0) (by simp [World.goto]) found queued ?_
  have reached := Int.self_le_toNat (r.availableAt - d.queue.now)
  exact Int.le_add_of_sub_left_le reached

end

/-- In every run whose commit requests find no report job of their exam out of the queue, an answer
    names a queued job; the job leaves the queue only by an attempt later than the answer, it
    succeeds only with a report run that has read every response of the commit, and while it is
    queued the workers can still bring it there. -/
theorem committed_answers_reported [Inhabited R] (worker : Nat → String) (now : DateTime)
    (actions : List (DeskAction K R))
    (timely : Along (Desk.step worker) Timely (Desk.start now) actions) :
    let d := run (Desk.step worker) (Desk.start now) actions
    ∀ answer ∈ d.answers, answer.job.status = .queued ∧
      ∃ r, d.queue.jobs.get? answer.job.id = some r ∧
        (r.status ≠ .queued → answer.job.attempts < r.attempts) ∧
        (r.status = .succeeded → ∃ seen, (answer.job.id, seen) ∈ d.queue.domain) ∧
        (∀ seen, (answer.job.id, seen) ∈ d.queue.domain → ∀ student ∈ answer.committed, student ∈ seen) ∧
        (r.status = .queued → ∃ later, (∀ a ∈ later, a.isWork = true) ∧
          ∃ seen, (answer.job.id, seen) ∈ (run (Desk.step worker) d later).queue.domain ∧
            ∀ student ∈ answer.committed, student ∈ seen) := by
  intro d answer member
  have reporting : Reporting d :=
    run_invariant_along (step_reporting worker) actions _ timely (reporting_start now)
  have answered := reporting.answered answer member
  obtain ⟨r, found, follows⟩ := answered.row
  refine ⟨answered.queued, r, found, follows.attempted, follows.reported, answered.published, ?_⟩
  intro queued
  obtain ⟨later, works, r', image, done⟩ := reportable_of_queued worker found queued
  obtain ⟨after, same⟩ := work_run worker reporting later works
  have kept := after.answered answer (same ▸ member)
  obtain ⟨x, stored, followed⟩ := kept.row
  rw [image] at stored
  cases stored
  obtain ⟨seen, written⟩ := followed.reported done
  exact ⟨later, works, seen, written, kept.published seen written⟩

/-- Two commit requests while the exam's job waits in the queue. -/
theorem committed_answers_reported_twice :
    let d : Desk Nat Unit := run (Desk.step (fun _ => "worker")) (Desk.start 0)
      [.importResponse 1 1 60, .commit 1 none, .importResponse 1 2 80, .commit 1 none]
    d.answers.map Answer.committed = [[1], [2]] ∧
      ∀ answer ∈ d.answers, answer.job.status = .queued ∧
        ∃ later, (∀ a ∈ later, a.isWork = true) ∧
          ∃ seen, (answer.job.id, seen) ∈ (run (Desk.step (fun _ => "worker")) d later).queue.domain ∧
            ∀ student ∈ answer.committed, student ∈ seen := by
  intro d
  refine ⟨by decide +kernel, ?_⟩
  intro answer member
  obtain ⟨queued, r, found, _, _, _, reaches⟩ :=
    committed_answers_reported (fun _ => "worker") 0 _ (by decide +kernel) answer member
  have waiting : ∀ x ∈ d.queue.jobs.rows, x.status = .queued := by decide +kernel
  exact ⟨queued, reaches (waiting r (Table.get?_mem found))⟩

def secondCommit : List (DeskAction Nat Unit) :=
  [.importResponse 1 1 60, .commit 1 none, .work (.expire 0), .work (.select 0 []), .work (.swap 0),
    .gather 0, .work (.commitResult 0 () [1]), .work (.return 0 (some ())), .work (.complete 0),
    .importResponse 1 2 80, .commit 1 none]

/-- The second answer names the finished job, whose report run will never have read that commit. -/
theorem second_commit_unreported :
    let d := run (Desk.step (fun _ => "worker")) (Desk.start 0) secondCommit
    ∃ answer ∈ d.answers, answer.committed = [2] ∧ answer.job.status = .succeeded ∧
      ∀ later seen, (answer.job.id, seen) ∈ (run (Desk.step (fun _ => "worker")) d later).queue.domain →
        2 ∉ seen := by
  intro d
  have listed : ([2], 1, JobStatus.succeeded) ∈
      d.answers.map (fun answer => (answer.committed, answer.job.id, answer.job.status)) := by decide +kernel
  obtain ⟨answer, member, fields⟩ := List.mem_map.mp listed
  simp only [Prod.mk.injEq] at fields
  obtain ⟨committed, id, status⟩ := fields
  refine ⟨answer, member, committed, status, ?_⟩
  intro later seen written
  have first : (1, [1]) ∈ d.queue.domain := by decide +kernel
  have fenced : Fenced d.queue := run_queue_fenced (fun _ => "worker") secondCommit (fenced_start 0)
  rw [id] at written
  have same := (run_queue_fenced (fun _ => "worker") later fenced).unique written
    (run_domain_grows (fun _ => "worker") later first)
  rw [same]
  decide

end KnowledgeGap.Jobs
