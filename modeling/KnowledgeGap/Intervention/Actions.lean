import KnowledgeGap.Verdicts.Materialize

namespace KnowledgeGap

open Relational

/-- A suggestion before it is filed; a suggestion to the whole class names no student. -/
structure ActionRow where
  studentId : Option Nat
  kpId : Nat
  kind : InterventionKind
  scope : Scope
  attributionId : Option Nat
  rootKpId : Option Nat
  note : Option String
  deriving DecidableEq, Repr

def ActionRow.key (row : ActionRow) : Option Nat × Nat := (row.studentId, row.kpId)

inductive Remedy
  | prereq (rootKpId : Option Nat)
  | forget
  | confusable (partnerCode : Option String)
  deriving DecidableEq, Repr

variable {K : Type}

def EvidenceItem.confusedWith? : EvidenceItem K → Option String
  | .confusedWith code _ _ => if code = "" then none else some code
  | _ => none

def pickAttribution (candidates : List (ResolvedAttribution K)) : Option Remedy :=
  let byType := Dict.ofList (candidates.map (fun c => (c.type, c)))
  match byType.get? .prereq with
  | some c => some (.prereq c.rootKpId)
  | none =>
    match byType.get? .forget with
    | some _ => some .forget
    | none =>
      match byType.get? .confusable with
      | some c => some (.confusable (c.evidence.findSome? EvidenceItem.confusedWith?))
      | none => none

/-- `graph.code(partner_code)`, or the first partner when there is no such code. -/
def partnerOf (g : KpGraph K) (kpId : Nat) (partnerCode : Option String) : Option Nat :=
  (partnerCode.bind g.code?).or (g.confusablePartners kpId).head?

section
variable [Field K] [LinearOrder K]

def tierDrillHit (a : KpAssessment K) : Bool :=
  a.isWeak &&
    match a.perCogMastery with
    | none => false
    | some perCog =>
      match perCog.get? .recall, perCog.get? .apply with
      | some recalled, some applied => decide (a.floor ≤ recalled ∧ applied < a.floor - tierDrillCogGap K)
      | _, _ => false

def actionFor (g : KpGraph K) (studentId : Nat) (attributions : Dict Nat (List (ResolvedAttribution K)))
    (attIds : Dict (Nat × AttributionType) Nat) (a : KpAssessment K) : Option ActionRow :=
  let row := fun kind attributionId rootKpId =>
    ({ studentId := some studentId, kpId := a.kpId, kind := kind, scope := .student,
       attributionId := attributionId, rootKpId := rootKpId, note := none } : ActionRow)
  if a.gate = some .insufficient then some (row .evidenceBoost none none)
  else if a.gate.isSome || a.mastery.isNone || !a.isWeak then none
  else if tierDrillHit a then some (row .tierDrill none none)
  else
    match pickAttribution (attributions.getD a.kpId []) with
    | none => none
    | some (.prereq none) => none
    | some (.prereq (some root)) =>
      some (row .prereqBackfill (attIds.get? (a.kpId, .prereq)) (some root))
    | some .forget => some (row .spacedReview (attIds.get? (a.kpId, .forget)) none)
    | some (.confusable code) =>
      some (row .contrastPractice (attIds.get? (a.kpId, .confusable)) (partnerOf g a.kpId code))

variable [FloorRing K]

def studentActionRows (cfg : Config K) (db : Db K) (g : KpGraph K) (studentId classId : Nat)
    (asOf : DateTime) (eventsBySk : Option (Batch K)) : List ActionRow :=
  let resolved := resolveAttributions cfg db g studentId classId asOf eventsBySk
  let attributions := Dict.group (fun r => r.kpId)
    (resolved.filter (fun r => decide (r.verdict = .active)))
  let attIds := Dict.ofList
    ((db.attributions.select (verdictOf g studentId [.active])).map (fun att => (att.key, att.id)))
  (assessStudentKps cfg db g studentId classId asOf eventsBySk).filterMap
    (actionFor g studentId attributions attIds)

omit [FloorRing K] in
theorem actionFor_some {g : KpGraph K} {studentId : Nat}
    {attributions : Dict Nat (List (ResolvedAttribution K))}
    {attIds : Dict (Nat × AttributionType) Nat} {a : KpAssessment K} {row : ActionRow}
    (asked : actionFor g studentId attributions attIds a = some row) :
    row.studentId = some studentId ∧ row.kpId = a.kpId ∧ row.scope = .student ∧ row.note = none ∧
      (a.gate = some .insufficient ∧ row.kind = .evidenceBoost ∨ a.gate = none ∧ a.isWeak = true) := by
  unfold actionFor at asked
  dsimp only at asked
  split at asked
  · rename_i gated
    cases asked
    exact ⟨rfl, rfl, rfl, rfl, Or.inl ⟨gated, rfl⟩⟩
  · split at asked
    · cases asked
    · rename_i judged
      have open_ : a.gate = none ∧ a.isWeak = true := by
        simp only [Bool.or_eq_true, Bool.not_eq_true', not_or, Bool.not_eq_true, Bool.not_eq_false,
          Option.isSome_eq_false_iff, Option.isNone_iff_eq_none] at judged
        exact ⟨judged.1.1, judged.2⟩
      split at asked
      · cases asked
        exact ⟨rfl, rfl, rfl, rfl, Or.inr open_⟩
      · split at asked
        · cases asked
        · cases asked
        · cases asked
          exact ⟨rfl, rfl, rfl, rfl, Or.inr open_⟩
        · cases asked
          exact ⟨rfl, rfl, rfl, rfl, Or.inr open_⟩
        · cases asked
          exact ⟨rfl, rfl, rfl, rfl, Or.inr open_⟩

theorem studentActionRows_studentId {cfg : Config K} {db : Db K} {g : KpGraph K}
    {studentId classId : Nat} {asOf : DateTime} {eventsBySk : Option (Batch K)} {row : ActionRow}
    (listed : row ∈ studentActionRows cfg db g studentId classId asOf eventsBySk) :
    row.studentId = some studentId := by
  obtain ⟨a, _, asked⟩ := List.mem_filterMap.mp listed
  exact (actionFor_some asked).1

theorem studentActionRows_kpIds (cfg : Config K) (db : Db K) (g : KpGraph K) (studentId classId : Nat)
    (asOf : DateTime) (eventsBySk : Option (Batch K)) :
    ((studentActionRows cfg db g studentId classId asOf eventsBySk).map ActionRow.kpId).Sublist
      (g.gradeKpIds (classGrade db classId)) := by
  rw [← assessStudentKps_kpIds cfg db g studentId classId asOf eventsBySk]
  unfold studentActionRows
  dsimp only
  induction assessStudentKps cfg db g studentId classId asOf eventsBySk with
  | nil => exact List.Sublist.refl _
  | cons a assessments ih =>
    rw [List.filterMap_cons, List.map_cons]
    split
    · exact List.Sublist.cons _ ih
    · rename_i row asked
      rw [List.map_cons, (actionFor_some asked).2.1]
      exact List.Sublist.cons_cons _ ih

end

end KnowledgeGap
