import KnowledgeGap.Kb.Relations
import KnowledgeGap.Pipeline.Gates
import KnowledgeGap.Protocol.Runs

namespace KnowledgeGap

open Relational KpGraph Kb Search Protocol
open Relation (TransGen)

variable {K : Type}

section
variable {db : Db K} (untangled : Untangled db) {kbVersionId : Nat}
include untangled

theorem requires_acyclic : Acyclic (Requires db kbVersionId) :=
  untangled.acyclic.mono (fun _ _ => needs_of_requires)

omit untangled in
theorem chain_requires {k d : Nat} {e : Ancestor K} (listed : e ∈ (load db kbVersionId).prerequisiteChain k d) :
    TransGen (Requires db kbVersionId) e.kpId k := by
  have ⟨short, _⟩ := ((prerequisiteChain_exact db kbVersionId k d).lists e.kpId e.depth).mp ⟨e, listed, rfl, rfl⟩
  have plain := shortest_swap_iff.mp short
  have ⟨m, steps⟩ := Nat.exists_eq_succ_of_ne_zero (Nat.pos_iff_ne_zero.mp plain.positive)
  have walk := plain.walk
  rw [steps] at walk
  exact transGen_iff_walk.mpr ⟨m, walk⟩

theorem partner_ne {k p : Nat} (linked : p ∈ (load db kbVersionId).confusablePartners k) : p ≠ k := by
  rcases mem_foldl_link linked with none_ | joined
  · cases none_
  · have ⟨r, listed, ends⟩ := joined
    have ⟨stored, holds⟩ := List.mem_filter.mp listed
    simp only [Bool.and_eq_true, beq_iff_eq] at holds
    have distinct := untangled.apart r stored holds.1.1
    rcases ends with forth | back
    · rw [forth.2, ← forth.1]
      exact distinct.symm
    · rw [back.2, ← back.1]
      exact distinct

end

def LowAncestor.item [Field K] [LinearOrder K] [FloorRing K] (db : Db K) (g : KpGraph K) (t : LowAncestor K) :
    EvidenceItem K :=
  .ancestor (g.label db t.kpId).1 (g.label db t.kpId).2 t.depth (roundTo 2 t.edgeWeight) (roundTo 3 t.mastery)

def confusedItem [Field K] [LinearOrder K] [FloorRing K] (db : Db K) (g : KpGraph K) (p : Nat × K) : EvidenceItem K :=
  .confusedWith (g.label db p.1).1 (g.label db p.1).2 (roundTo 3 p.2)

section
variable [Field K] [LinearOrder K] [FloorRing K]

def weakPartners (cfg : Config K) (db : Db K) (g : KpGraph K) (studentId kpId : Nat) (asOf : DateTime) :
    List (Nat × K) :=
  (g.confusablePartners kpId).filterMap (fun pid => (lowMastery cfg db studentId pid asOf).map (fun m => (pid, m)))

/-- A finding keeps clear of its own point: the root is another point that the graph puts before it and not after it,
    the evidence lists the weak ones before it and the point is none of them, and a confusion is with other points. -/
structure KeepsClear (cfg : Config K) (db : Db K) (kbVersionId studentId : Nat) (asOf : DateTime)
    (f : AttributionFinding K) : Prop where
  root : f.type = .prereq → ∃ root, f.rootKpId = some root ∧ root ≠ f.kpId ∧
    TransGen (Requires db kbVersionId) root f.kpId ∧ ¬ TransGen (Requires db kbVersionId) f.kpId root
  listed : f.type = .prereq → ∃ notes, f.evidence =
    (lowAncestors cfg db (load db kbVersionId) studentId f.kpId asOf).map (LowAncestor.item db (load db kbVersionId)) ++
      notes ∧ ∀ note ∈ notes, ∃ fraction, note = .globalWeak fraction globalWeakNote
  ancestors : ∀ t ∈ lowAncestors cfg db (load db kbVersionId) studentId f.kpId asOf, t.kpId ≠ f.kpId
  confused : f.type = .confusable → f.evidence =
    (weakPartners cfg db (load db kbVersionId) studentId f.kpId asOf).map (confusedItem db (load db kbVersionId))
  partners : ∀ p ∈ weakPartners cfg db (load db kbVersionId) studentId f.kpId asOf, p.1 ≠ f.kpId

section
variable {cfg : Config K} {db : Db K} {kbVersionId studentId : Nat} {asOf : DateTime}

omit [FloorRing K] in
theorem lowAncestors_requires {k : Nat} {t : LowAncestor K}
    (listed : t ∈ lowAncestors cfg db (load db kbVersionId) studentId k asOf) :
    TransGen (Requires db kbVersionId) t.kpId k := by
  have ⟨e, reached, made⟩ := List.mem_filterMap.mp (mem_stableSort.mp listed)
  have ⟨m, _, same⟩ := Option.map_eq_some_iff.mp made
  rw [← same]
  exact chain_requires reached

omit [FloorRing K] in
theorem weakPartners_ne (untangled : Untangled db) {k : Nat} {p : Nat × K}
    (listed : p ∈ weakPartners cfg db (load db kbVersionId) studentId k asOf) : p.1 ≠ k := by
  have ⟨pid, linked, made⟩ := List.mem_filterMap.mp listed
  have ⟨m, _, same⟩ := Option.map_eq_some_iff.mp made
  rw [← same]
  exact partner_ne untangled linked

/-- On an untangled graph only what a finding says of itself is left to show. -/
theorem keepsClear (untangled : Untangled db) {f : AttributionFinding K}
    (root : f.type = .prereq → ∃ root ∈ lowAncestors cfg db (load db kbVersionId) studentId f.kpId asOf,
      f.rootKpId = some root.kpId)
    (listed : f.type = .prereq → ∃ notes, f.evidence =
      (lowAncestors cfg db (load db kbVersionId) studentId f.kpId asOf).map (LowAncestor.item db (load db kbVersionId)) ++
        notes ∧ ∀ note ∈ notes, ∃ fraction, note = .globalWeak fraction globalWeakNote)
    (confused : f.type = .confusable → f.evidence =
      (weakPartners cfg db (load db kbVersionId) studentId f.kpId asOf).map (confusedItem db (load db kbVersionId))) :
    KeepsClear cfg db kbVersionId studentId asOf f where
  root type := by
    have ⟨t, among, same⟩ := root type
    have path := lowAncestors_requires among
    have acyclic : Acyclic (Requires db kbVersionId) := requires_acyclic untangled
    exact ⟨t.kpId, same, acyclic.ne path, path, acyclic.one_way path⟩
  listed := listed
  ancestors t among := (requires_acyclic untangled).ne (lowAncestors_requires among)
  confused := confused
  partners p among := weakPartners_ne untangled among

theorem prereqDeficit_clear (untangled : Untangled db) {a : KpAssessment K} {f : AttributionFinding K}
    (found : f ∈ prereqDeficit cfg db (load db kbVersionId) studentId a asOf) :
    KeepsClear cfg db kbVersionId studentId asOf f := by
  unfold prereqDeficit at found
  split at found
  · cases found
  · rename_i root rest sorted
    rw [List.mem_singleton.mp found]
    apply keepsClear untangled
    · intro _
      refine ⟨root, ?_, rfl⟩
      rw [sorted]
      exact List.mem_cons_self ..
    · intro _
      refine ⟨[], ?_, nofun⟩
      rw [List.append_nil, sorted]
      rfl
    · nofun

theorem confusablePair_clear (untangled : Untangled db) {a : KpAssessment K} {f : AttributionFinding K}
    (found : f ∈ confusablePair cfg db (load db kbVersionId) studentId a asOf) :
    KeepsClear cfg db kbVersionId studentId asOf f := by
  unfold confusablePair at found
  dsimp only at found
  split at found
  · cases found
  · rw [List.mem_singleton.mp found]
    exact keepsClear untangled nofun nofun (fun _ => rfl)

theorem attributeAssessment_clear (untangled : Untangled db) {a : KpAssessment K} {f : AttributionFinding K}
    (found : f ∈ attributeAssessment cfg db (load db kbVersionId) studentId a asOf) :
    KeepsClear cfg db kbVersionId studentId asOf f := by
  unfold attributeAssessment at found
  split at found
  · cases found
  · rw [List.mem_singleton.mp found]
    exact keepsClear untangled nofun nofun nofun
  · split at found
    · cases found
    · split at found
      · cases found
      · rcases List.mem_append.mp found with causes | pair
        · rcases List.mem_append.mp causes with deficit | decay
          · exact prereqDeficit_clear untangled deficit
          · have type : f.type = .forget := by
              have among := (forgettingDecay_keys cfg db studentId a asOf).subset (List.mem_map_of_mem decay)
              exact congrArg Prod.snd (List.mem_singleton.mp among)
            apply keepsClear untangled
            · rw [type]
              nofun
            · rw [type]
              nofun
            · rw [type]
              nofun
        · exact confusablePair_clear untangled pair

theorem suppress_clear (fraction : K) {f : AttributionFinding K}
    (clear : KeepsClear cfg db kbVersionId studentId asOf f) :
    KeepsClear cfg db kbVersionId studentId asOf (suppress fraction f) := by
  unfold suppress
  split
  · rename_i type
    refine ⟨clear.root, ?_, clear.ancestors, ?_, clear.partners⟩
    · intro _
      have ⟨notes, evidence, each⟩ := clear.listed type
      refine ⟨notes ++ [.globalWeak fraction globalWeakNote], ?_, ?_⟩
      · dsimp only
        rw [evidence, List.append_assoc]
      · intro note listed
        rcases List.mem_append.mp listed with given | new
        · exact each note given
        · exact ⟨fraction, List.mem_singleton.mp new⟩
    · intro other
      rw [type] at other
      cases other
  · exact clear

theorem deriveFindings_clear (untangled : Untangled db) {assessments : List (KpAssessment K)} {f : AttributionFinding K}
    (found : f ∈ deriveFindings cfg db (load db kbVersionId) studentId assessments asOf) :
    KeepsClear cfg db kbVersionId studentId asOf f := by
  have plain : ∀ f ∈ assessments.flatMap (fun a => attributeAssessment cfg db (load db kbVersionId) studentId a asOf),
      KeepsClear cfg db kbVersionId studentId asOf f := by
    intro f listed
    have ⟨a, _, own⟩ := List.mem_flatMap.mp listed
    exact attributeAssessment_clear untangled own
  unfold deriveFindings at found
  dsimp only at found
  split at found
  · exact plain f found
  · split at found
    · have ⟨base, listed, same⟩ := List.mem_map.mp found
      rw [← same]
      exact suppress_clear _ (plain base listed)
    · exact plain f found

end

/-- Whatever the files and the forms put in, as long as none of it closes a circle, every finding of every pupil keeps
    clear of its own point. -/
theorem roots_keep_clear (cfg : Config K) {db : Db K} (fresh : db.relations.rows = []) (moves : List (GraphMove K))
    (plain : Along alter (fun db move => ¬ Tangles db move) db moves) (kbVersionId studentId : Nat)
    (assessments : List (KpAssessment K)) (asOf : DateTime) :
    ∀ f ∈ deriveFindings cfg (run alter db moves) (load (run alter db moves) kbVersionId) studentId assessments asOf,
      KeepsClear cfg (run alter db moves) kbVersionId studentId asOf f := by
  have start : Untangled db := by
    constructor
    · intro k cycle
      have ⟨_, held, _⟩ := TransGen.head'_iff.mp cycle
      have ⟨r, listed, _⟩ := held
      rw [fresh] at listed
      cases listed
    · rw [fresh]
      nofun
    · rw [fresh]
      nofun
  have untangled : Untangled (run alter db moves) :=
    run_invariant_along (fun _ _ held clear => held.step clear) moves db plain start
  intro f found
  exact deriveFindings_clear untangled found

end

def classroom : Db ℚ :=
  { Db.empty ℚ with
    classes := .ofList [⟨1, 7⟩]
    students := .ofList [⟨1, 1, "甲"⟩] }

def bookPoint (code name : String) : PointDoc ℚ :=
  ⟨some code, some name, none, some 7, none, none, none, none, none, none, none⟩

/-- Two points, and the first before one of them. -/
def chapter (target : String) : KbDoc ℚ where
  subject := none
  textbookEdition := none
  version := none
  status := none
  knowledgePoints := [bookPoint "M7A-101" "有理数", bookPoint "M7A-102" "数轴"]
  relations := [⟨some "M7A-101", some target, some "prerequisite", none⟩]

def zeroOn (id kpId : Nat) : EvidenceEvent ℚ := ⟨id, 1, kpId, id, .unit, 0, 1, .understand, none, 0⟩

/-- The lessons are given, and the pupil answers nothing right. -/
def failedLessons : Elsewhere ℚ where
  run db :=
    { db with
      progress := .ofList [⟨1, 1, 1, 0⟩, ⟨2, 1, 2, 0⟩]
      events := .ofList [zeroOn 1 1, zeroOn 2 1, zeroOn 3 1, zeroOn 4 2, zeroOn 5 2, zeroOn 6 2] }
  points _ := rfl
  relations _ := rfl

def term (target : String) : Db ℚ := run alter classroom [.importKb (chapter target), .other failedLessons]

def termFindings (target : String) : List (AttributionFinding ℚ) :=
  deriveFindings Config.rational (term target) (load (term target) 1) 1
    (assessStudentKps Config.rational (term target) (load (term target) 1) 1 1 0 none) 0

theorem chapter_plain {db : Db ℚ} : ¬ Tangles db (.importKb (chapter "M7A-102")) := by
  intro tangled
  have ⟨content, described, _, circle⟩ := tangled
  have ⟨e, rest, given, none_, all⟩ := List.forall₂_cons_left_iff.mp described.edges
  rw [List.forall₂_nil_left_iff.mp none_] at all
  have ends : e.source = "M7A-101" ∧ e.target = "M7A-102" :=
    ⟨(Option.some.inj given.source).symm, (Option.some.inj given.target).symm⟩
  have distinct : e.source ≠ e.target := by
    rw [ends.1, ends.2]
    decide
  have only : ∀ a b, content.Needs a b → a = e.source ∧ b = e.target := by
    intro a b held
    have ⟨e', listed, _, source, target⟩ := held
    rw [all] at listed
    rw [← List.mem_singleton.mp listed]
    exact ⟨source.symm, target.symm⟩
  rcases circle with cyclic | confused
  · apply cyclic
    intro k cycle
    have ⟨b, first, _⟩ := TransGen.head'_iff.mp cycle
    have ⟨c, _, last⟩ := TransGen.tail'_iff.mp cycle
    exact distinct ((only k b first).1.symm.trans (only c k last).2)
  · have ⟨e', listed, type, _⟩ := confused
    rw [all] at listed
    rw [List.mem_singleton.mp listed] at type
    have kind := given.type
    rw [type] at kind
    exact absurd (Option.some.inj kind) (by decide)

theorem roots_keep_clear_chapter :
    (∃ f ∈ termFindings "M7A-102", f.kpId = 2 ∧ f.type = .prereq ∧ f.rootKpId = some 1) ∧
      ∀ f ∈ termFindings "M7A-102", KeepsClear Config.rational (term "M7A-102") 1 1 0 f := by
  refine ⟨by decide +kernel, ?_⟩
  have fresh : classroom.relations.rows = [] := rfl
  exact roots_keep_clear Config.rational fresh [.importKb (chapter "M7A-102"), .other failedLessons]
    ⟨chapter_plain, fun tangled => tangled, trivial⟩ 1 1 _ 0

/-- A file may put a point before itself, and then its own weakness is its root. -/
theorem self_rooted :
    (importKb classroom (chapter "M7A-101")).2 = .ok 1 ∧
      ∃ f ∈ termFindings "M7A-101", f.type = .prereq ∧ f.rootKpId = some f.kpId := by
  decide +kernel

end KnowledgeGap
