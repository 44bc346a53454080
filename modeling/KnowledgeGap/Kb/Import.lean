import KnowledgeGap.Kb.Filing
import Mathlib.Data.List.Dedup

namespace KnowledgeGap.Kb

open Relational KpGraph

variable {K : Type}

/-- What a version says, whatever keys its rows have. -/
structure Content (K : Type) where
  points : List (PointAttributes K)
  edges : List (Edge K)

def Content.codes (content : Content K) : List String := content.points.map PointAttributes.code

theorem relationType?_eq_some_iff {name : String} {type : RelationType} :
    relationType? name = some type ↔ name = RelationType.name type := by
  constructor
  · intro found
    have same := List.find?_some found
    simpa using (beq_iff_eq.mp same).symm
  · rintro rfl
    cases type <;> decide

theorem repeated_eq_nil_iff {codes : List String} : repeated codes = [] ↔ codes.Nodup := by
  have empty : repeated codes = [] ↔ ∀ c ∈ codes, ¬ 1 < codes.count c := by
    rw [List.eq_nil_iff_forall_not_mem]
    simp [repeated]
  rw [empty, List.nodup_iff_count_le_one]
  constructor
  · intro single c
    by_cases listed : c ∈ codes
    · simpa using single c listed
    · rw [List.count_eq_zero_of_not_mem listed]
      omega
  · intro single c _
    simpa using single c

theorem alreadyImported_eq_none {store : Db K} {doc : KbDoc K}
    (unnamed : ∀ kb ∈ store.kbVersions.rows, namesake doc kb = false) (codes : List String) :
    alreadyImported store doc codes = none := by
  have empty : store.kbVersions.select (namesake doc) = [] := by
    rw [Table.select, List.filter_eq_nil_iff]
    intro kb stored
    simp [unnamed kb stored]
  rw [alreadyImported, empty]
  rfl

theorem codesOf_eq_ok_iff {points : List (PointDoc K)} {codes : List String} :
    codesOf points = .ok codes ↔ List.Forall₂ (fun p c => p.code = some c) points codes := by
  induction points generalizing codes with
  | nil =>
    rw [List.forall₂_nil_left_iff]
    simp [codesOf, eq_comm]
  | cons p points ih =>
    rw [List.forall₂_cons_left_iff]
    cases code : p.code with
    | none => simp [codesOf, code]
    | some c =>
      cases rest : codesOf points with
      | error e =>
        have absent : ∀ later, ¬ List.Forall₂ (fun p c => p.code = some c) points later := by
          intro later given
          rw [← ih, rest] at given
          cases given
        simp [codesOf, code, rest, Except.map, absent]
      | ok later =>
        have given := ih.mp rest
        simp only [codesOf, code, rest, Except.map, Except.ok.injEq]
        constructor
        · rintro rfl
          exact ⟨c, later, rfl, given, rfl⟩
        · rintro ⟨d, codes, same, listed, rfl⟩
          rw [Option.some.inj same, Except.ok.inj (rest.symm.trans (ih.mpr listed))]

section
variable [Field K] {kbVersionId : Nat}

theorem validatePoint_code {p : PointDoc K} {a : PointAttributes K} (valid : validatePoint p = .ok a) :
    p.code = some a.code := by
  unfold validatePoint at valid
  split at valid
  · cases valid
  · cases valid
  · cases valid
  · rename_i code name grade given _ _
    split at valid
    · cases valid
    · split at valid
      · cases valid
        exact given
      · cases valid

def fileCodes (next : Nat) (codeToId : Dict String Nat) (points : List (PointAttributes K)) : Dict String Nat :=
  (points.mapIdx (fun n a => (a.code, next + n))).foldl (fun d e => d.set e.1 e.2) codeToId

omit [Field K] in
theorem fileCodes_cons (next : Nat) (codeToId : Dict String Nat) (a : PointAttributes K)
    (points : List (PointAttributes K)) :
    fileCodes next codeToId (a :: points) = fileCodes (next + 1) (codeToId.set a.code next) points := by
  unfold fileCodes
  rw [List.mapIdx_cons, List.foldl_cons]
  simp only [Nat.add_zero, Nat.add_assoc, Nat.add_comm 1]

theorem importPoints_eq_ok_iff {t t' : Table (KnowledgePoint K)} {codeToId codeToId' : Dict String Nat}
    {points : List (PointDoc K)} :
    importPoints kbVersionId t codeToId points = (t', .ok codeToId') ↔
      ∃ attrs, List.Forall₂ (fun p a => validatePoint p = .ok a) points attrs ∧
        t' = t.insertAll (fun a => a.store kbVersionId) (fun a => a.key_store kbVersionId) attrs ∧
        codeToId' = fileCodes t.nextId codeToId attrs := by
  induction points generalizing t codeToId with
  | nil =>
    simp only [importPoints, List.forall₂_nil_left_iff, Prod.mk.injEq, Except.ok.injEq]
    constructor
    · rintro ⟨rfl, rfl⟩
      exact ⟨[], rfl, rfl, rfl⟩
    · rintro ⟨attrs, rfl, rfl, rfl⟩
      exact ⟨rfl, rfl⟩
  | cons p points ih =>
    simp only [importPoints, List.forall₂_cons_left_iff]
    cases checked : validatePoint p with
    | error e => simp
    | ok a =>
      dsimp only
      rw [ih]
      constructor
      · rintro ⟨attrs, valid, rfl, rfl⟩
        exact ⟨a :: attrs, ⟨a, attrs, rfl, valid, rfl⟩, rfl, (fileCodes_cons _ _ _ _).symm⟩
      · rintro ⟨_, ⟨b, attrs, same, valid, rfl⟩, rfl, rfl⟩
        cases same
        exact ⟨attrs, valid, rfl, fileCodes_cons _ _ _ _⟩

variable [LinearOrder K]

/-- An entry of `relations` that passes the checks of the loader, and the relation it names. -/
structure DescribesEdge (codes : List String) (doc : RelationDoc K) (e : Edge K) : Prop where
  source : doc.source = some e.source
  target : doc.target = some e.target
  type : doc.type = some (RelationType.name e.type)
  weight : doc.weight.getD 1 = e.weight
  known : e.source ∈ codes ∧ e.target ∈ codes
  range : 0 ≤ e.weight ∧ e.weight ≤ 1

/-- The file is valid, and this is what it describes. -/
structure Describes (doc : KbDoc K) (content : Content K) : Prop where
  points : List.Forall₂ (fun p a => validatePoint p = .ok a) doc.knowledgePoints content.points
  distinct : content.codes.Nodup
  edges : List.Forall₂ (DescribesEdge content.codes) doc.relations content.edges

def resolve (codeToId : Dict String Nat) (e : Edge K) : KpRelation K :=
  ⟨0, codeToId.getD e.source 0, codeToId.getD e.target 0, e.type, e.weight⟩

theorem validateRelation_eq_ok_iff {codeToId : Dict String Nat} {codes : List String}
    (known : ∀ c, (codeToId.get? c).isSome ↔ c ∈ codes) {doc : RelationDoc K} {rel : KpRelation K} :
    validateRelation codeToId doc = .ok rel ↔ ∃ e, DescribesEdge codes doc e ∧ rel = resolve codeToId e := by
  constructor
  · intro valid
    unfold validateRelation at valid
    split at valid
    · cases valid
    · rename_i name named
      split at valid
      · cases valid
      · rename_i type typed
        split at valid
        · cases valid
        · cases valid
        · rename_i source target fromCode toCode
          split at valid
          · rename_i a b left right
            dsimp only at valid
            split at valid
            · rename_i range
              cases valid
              refine ⟨⟨source, target, type, doc.weight.getD 1⟩, ⟨fromCode, toCode, ?_, rfl, ⟨?_, ?_⟩, range⟩, ?_⟩
              · rw [named, relationType?_eq_some_iff.mp typed]
              · exact (known source).mp (by simp [left])
              · exact (known target).mp (by simp [right])
              · simp [resolve, Dict.getD, left, right]
            · cases valid
          · cases valid
  · rintro ⟨e, given, rfl⟩
    obtain ⟨a, left⟩ := Option.isSome_iff_exists.mp ((known e.source).mpr given.known.1)
    obtain ⟨b, right⟩ := Option.isSome_iff_exists.mp ((known e.target).mpr given.known.2)
    have typed : relationType? (RelationType.name e.type) = some e.type := relationType?_eq_some_iff.mpr rfl
    simp [validateRelation, given.type, given.source, given.target, typed, left, right, given.weight, given.range,
      resolve, Dict.getD]

theorem importRelations_eq_ok_iff {codeToId : Dict String Nat} {codes : List String}
    (known : ∀ c, (codeToId.get? c).isSome ↔ c ∈ codes) {t t' : Table (KpRelation K)}
    {docs : List (RelationDoc K)} :
    importRelations codeToId t docs = (t', .ok ()) ↔
      ∃ edges, List.Forall₂ (DescribesEdge codes) docs edges ∧
        t' = t.insertAll KpRelation.filed key_filed (edges.map (resolve codeToId)) := by
  induction docs generalizing t with
  | nil =>
    simp only [importRelations, List.forall₂_nil_left_iff, Prod.mk.injEq, and_true]
    constructor
    · rintro rfl
      exact ⟨[], rfl, rfl⟩
    · rintro ⟨edges, rfl, rfl⟩
      rfl
  | cons doc docs ih =>
    simp only [importRelations, List.forall₂_cons_left_iff]
    cases checked : validateRelation codeToId doc with
    | error e =>
      have refused : ∀ edge, ¬ DescribesEdge codes doc edge := by
        intro edge given
        rw [(validateRelation_eq_ok_iff known).mpr ⟨edge, given, rfl⟩] at checked
        cases checked
      simp [refused]
    | ok rel =>
      obtain ⟨edge, given, rfl⟩ := (validateRelation_eq_ok_iff known).mp checked
      dsimp only
      rw [ih]
      constructor
      · rintro ⟨edges, valid, rfl⟩
        exact ⟨edge :: edges, ⟨edge, edges, given, valid, rfl⟩, rfl⟩
      · rintro ⟨_, ⟨other, edges, again, valid, rfl⟩, rfl⟩
        have same := (validateRelation_eq_ok_iff known).mpr ⟨other, again, rfl⟩
        rw [checked] at same
        refine ⟨edges, valid, ?_⟩
        rw [List.map_cons, ← Except.ok.inj same]
        rfl

section
variable (store : Db K) (doc : KbDoc K) (content : Content K)

def codeIds : Dict String Nat :=
  Dict.numbered PointAttributes.code store.knowledgePoints.nextId content.points

/-- The store with the version a valid file describes. -/
def fileVersion : Db K :=
  { store with
    kbVersions := store.kbVersions.insert doc.newVersion doc.key_newVersion
    knowledgePoints := store.knowledgePoints.insertAll (fun a => a.store store.kbVersions.nextId)
      (fun a => a.key_store store.kbVersions.nextId) content.points
    relations := store.relations.insertAll KpRelation.filed key_filed
      (content.edges.map (resolve (codeIds store content))) }

end

variable {store : Db K} {doc : KbDoc K} {content : Content K}

omit [Field K] [LinearOrder K] in
theorem codeIds_known (store : Db K) (content : Content K) (c : String) :
    ((codeIds store content).get? c).isSome ↔ c ∈ content.codes := by
  rw [codeIds, Dict.numbered, Dict.get?_ofList_isSome_iff, Content.codes, List.mem_map]
  constructor
  · rintro ⟨e, listed, rfl⟩
    obtain ⟨n, inside, rfl⟩ := List.mem_mapIdx.mp listed
    exact ⟨_, List.getElem_mem inside, rfl⟩
  · rintro ⟨a, listed, rfl⟩
    obtain ⟨n, inside, rfl⟩ := List.getElem_of_mem listed
    exact ⟨_, List.mem_mapIdx.mpr ⟨n, inside, rfl⟩, rfl⟩

omit [LinearOrder K] in
theorem codesOf_of_points {points : List (PointDoc K)} {attrs : List (PointAttributes K)}
    (valid : List.Forall₂ (fun p a => validatePoint p = .ok a) points attrs) :
    codesOf points = .ok (attrs.map PointAttributes.code) := by
  rw [codesOf_eq_ok_iff, List.forall₂_map_right_iff]
  exact valid.imp (fun p a checked => validatePoint_code checked)

/-- A valid file either meets a namesake with its codes or is filed as it stands. -/
theorem importKb_of_describes (store : Db K) (valid : Describes doc content) :
    importKb store doc =
      match alreadyImported store doc content.codes with
      | some kb => (store, .ok kb.id)
      | none => (fileVersion store doc content, .ok store.kbVersions.nextId) := by
  have points : importPoints store.kbVersions.nextId store.knowledgePoints Dict.empty doc.knowledgePoints =
      (store.knowledgePoints.insertAll (fun a => a.store store.kbVersions.nextId)
        (fun a => a.key_store store.kbVersions.nextId) content.points, .ok (codeIds store content)) :=
    importPoints_eq_ok_iff.mpr ⟨content.points, valid.points, rfl, rfl⟩
  have relations : importRelations (codeIds store content) store.relations doc.relations =
      (store.relations.insertAll KpRelation.filed key_filed (content.edges.map (resolve (codeIds store content))),
        .ok ()) :=
    (importRelations_eq_ok_iff (codeIds_known store content)).mpr ⟨content.edges, valid.edges, rfl⟩
  have codes : codesOf doc.knowledgePoints = .ok content.codes := codesOf_of_points valid.points
  unfold importKb
  rw [codes]
  dsimp only
  rw [if_neg (not_not_intro (repeated_eq_nil_iff.mpr valid.distinct))]
  cases alreadyImported store doc content.codes with
  | some kb => rfl
  | none =>
    dsimp only
    rw [points]
    dsimp only
    rw [relations]
    rfl

/-- A file that returns was already there or is filed, and then it was valid. -/
theorem importKb_cases {after : Db K} {id : Nat} (imported : importKb store doc = (after, .ok id)) :
    (∃ codes, codesOf doc.knowledgePoints = .ok codes ∧ (alreadyImported store doc codes).isSome ∧ after = store) ∨
      ∃ content, Describes doc content ∧ alreadyImported store doc content.codes = none ∧
        after = fileVersion store doc content := by
  unfold importKb at imported
  split at imported
  · cases imported
  · rename_i codes listed
    split at imported
    · cases imported
    · rename_i single
      split at imported
      · rename_i kb found
        refine Or.inl ⟨codes, listed, ?_, ?_⟩
        · rw [found]
          rfl
        · exact (congrArg Prod.fst imported).symm
      · rename_i fresh
        dsimp only at imported
        split at imported
        · cases imported
        · rename_i filed codeToId points
          obtain ⟨attrs, valid, table, rfl⟩ := importPoints_eq_ok_iff.mp points
          have same : codes = attrs.map PointAttributes.code := Except.ok.inj (listed.symm.trans (codesOf_of_points valid))
          have distinct : (attrs.map PointAttributes.code).Nodup := by
            rw [← same]
            exact repeated_eq_nil_iff.mp (not_not.mp single)
          split at imported
          · cases imported
          · rename_i relations _ joined
            have known := codeIds_known store ⟨attrs, []⟩
            obtain ⟨edges, described, links⟩ := (importRelations_eq_ok_iff known).mp joined
            refine Or.inr ⟨⟨attrs, edges⟩, ⟨valid, distinct, described⟩, ?_, ?_⟩
            · rw [same] at fresh
              exact fresh
            · have stored := congrArg Prod.fst imported
              dsimp only at stored
              rw [← stored, table, links]
              rfl

/-- A file that is filed was valid. -/
theorem describes_of_importKb {after : Db K} {id : Nat} (imported : importKb store doc = (after, .ok id))
    (unnamed : ∀ kb ∈ store.kbVersions.rows, namesake doc kb = false) : ∃ content, Describes doc content := by
  rcases importKb_cases imported with old | new
  · have ⟨codes, _, found, _⟩ := old
    rw [alreadyImported_eq_none unnamed codes] at found
    cases found
  · have ⟨content, valid, _⟩ := new
    exact ⟨content, valid⟩

end

end KnowledgeGap.Kb
