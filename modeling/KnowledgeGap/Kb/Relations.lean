import KnowledgeGap.Kb.Ancestry
import KnowledgeGap.Kb.Import
import KnowledgeGap.Search.Acyclic

namespace KnowledgeGap.Kb

open Relational KpGraph Search
open Relation (TransGen ReflTransGen)

variable {K : Type}

inductive RelationError
  | illegalType (type : String)
  | weightOutOfRange
  | selfLoop
  | foreignEndpoint
  | notFound
  deriving DecidableEq, Repr

def RelationError.text : RelationError → String
  | .illegalType type => "非法关系类型: " ++ type
  | .weightOutOfRange => "关系权重须在 [0,1]"
  | .selfLoop => "关系端点不可相同（自环）"
  | .foreignEndpoint => "关系端点不属于当前 active 版本"
  | .notFound => "关系不存在"

/-- The type a form names, when it names one. -/
def formType : Option String → Except RelationError (Option RelationType)
  | none => .ok none
  | some name =>
    match relationType? name with
    | none => .error (.illegalType name)
    | some type => .ok (some type)

def retyped (type : Option RelationType) (weight : Option K) (rel : KpRelation K) : KpRelation K :=
  { rel with type := type.getD rel.type, weight := weight.getD rel.weight }

theorem key_retyped (type : Option RelationType) (weight : Option K) (rel : KpRelation K) :
    Keyed.key (retyped type weight rel) = Keyed.key rel := rfl

/-- What the rest of the system writes: the points and the relations stay. -/
structure Elsewhere (K : Type) where
  run : Db K → Db K
  points : ∀ db, (run db).knowledgePoints = db.knowledgePoints
  relations : ∀ db, (run db).relations = db.relations

inductive GraphMove (K : Type)
  | importKb (doc : KbDoc K)
  | createRelation (kbVersionId fromKpId toKpId : Nat) (type : String) (weight : K)
  | updateRelation (relId : Nat) (type : Option String) (weight : Option K)
  | other (change : Elsewhere K)

section
variable [Field K] [LinearOrder K]

def unitWeight (weight : K) : Bool := decide (0 ≤ weight ∧ weight ≤ 1)

def createRelation (db : Db K) (kbVersionId fromKpId toKpId : Nat) (type : String) (weight : K) :
    Except RelationError (Db K) :=
  match relationType? type with
  | none => .error (.illegalType type)
  | some type =>
    if unitWeight weight = false then .error .weightOutOfRange
    else if fromKpId = toKpId then .error .selfLoop
    else if fromKpId ∉ pointIds db kbVersionId ∨ toKpId ∉ pointIds db kbVersionId then .error .foreignEndpoint
    else
      .ok { db with relations := db.relations.insert (KpRelation.filed ⟨0, fromKpId, toKpId, type, weight⟩) (key_filed _) }

def updateRelation (db : Db K) (relId : Nat) (type : Option String) (weight : Option K) :
    Except RelationError (Db K) :=
  match db.relations.get? relId with
  | none => .error .notFound
  | some _ =>
    match formType type with
    | .error e => .error e
    | .ok type =>
      if weight.all unitWeight = false then .error .weightOutOfRange
      else .ok { db with relations := db.relations.modify relId (retyped type weight) (key_retyped type weight) }

/-- One write; a call that raises leaves the database as it was. -/
def alter (db : Db K) : GraphMove K → Db K
  | .importKb doc => rolledBack db (importKb db doc)
  | .createRelation kbVersionId fromKpId toKpId type weight =>
    (createRelation db kbVersionId fromKpId toKpId type weight).toOption.getD db
  | .updateRelation relId type weight => (updateRelation db relId type weight).toOption.getD db
  | .other change => change.run db

end

/-- `a` is a direct prerequisite of `b`, in whatever version. -/
def Needs (db : Db K) (a b : Nat) : Prop :=
  ∃ r ∈ db.relations.rows, r.type = .prerequisite ∧ r.fromKpId = a ∧ r.toKpId = b

theorem needs_of_requires {db : Db K} {kbVersionId a b : Nat} (required : Requires db kbVersionId a b) : Needs db a b := by
  have ⟨r, listed, from_, to_⟩ := required
  have ⟨stored, holds⟩ := List.mem_filter.mp listed
  simp only [Bool.and_eq_true, beq_iff_eq] at holds
  exact ⟨r, stored, holds.1.1, from_, to_⟩

/-- No point is before itself, and none is its own confusable partner. -/
structure Untangled (db : Db K) : Prop where
  acyclic : Acyclic (Needs db)
  apart : ∀ r ∈ db.relations.rows, r.type = .confusable → r.fromKpId ≠ r.toKpId
  ends : ∀ r ∈ db.relations.rows, r.fromKpId < db.knowledgePoints.nextId ∧ r.toKpId < db.knowledgePoints.nextId

def Content.Needs (content : Content K) (a b : String) : Prop :=
  ∃ e ∈ content.edges, e.type = .prerequisite ∧ e.source = a ∧ e.target = b

/-- What a file describes goes round in a circle, or confuses a point with itself. -/
def Content.Tangled (content : Content K) : Prop :=
  ¬ Acyclic content.Needs ∨ ∃ e ∈ content.edges, e.type = .confusable ∧ e.source = e.target

section
variable [Field K] [LinearOrder K]

/-- The write is accepted and closes a circle of prerequisites, or makes a point its own partner. -/
def Tangles (db : Db K) : GraphMove K → Prop
  | .importKb doc =>
    ∃ content, Describes doc content ∧ alreadyImported db doc content.codes = none ∧ content.Tangled
  | .createRelation kbVersionId fromKpId toKpId type weight =>
    type = RelationType.name .prerequisite ∧ unitWeight weight = true ∧ fromKpId ≠ toKpId ∧
      fromKpId ∈ pointIds db kbVersionId ∧ toKpId ∈ pointIds db kbVersionId ∧ TransGen (Needs db) toKpId fromKpId
  | .updateRelation relId type weight =>
    weight.all unitWeight = true ∧ ∃ r ∈ db.relations.rows, r.id = relId ∧
      (type = some (RelationType.name .prerequisite) ∧ ReflTransGen (Needs db) r.toKpId r.fromKpId ∨
        type = some (RelationType.name .confusable) ∧ r.fromKpId = r.toKpId)
  | .other _ => False

end

variable {db after : Db K} {a b : Nat}

/-- Relations between two points more, none of which closes a circle or joins a point to itself. -/
theorem Untangled.link (untangled : Untangled db) (points : after.knowledgePoints = db.knowledgePoints)
    (inside : a < db.knowledgePoints.nextId ∧ b < db.knowledgePoints.nextId)
    (rows : ∀ r ∈ after.relations.rows, r ∈ db.relations.rows ∨ r.fromKpId = a ∧ r.toKpId = b ∧
      (r.type = .prerequisite → ¬ ReflTransGen (Needs db) b a) ∧ (r.type = .confusable → a ≠ b)) : Untangled after where
  acyclic := by
    by_cases back : ReflTransGen (Needs db) b a
    · apply untangled.acyclic.mono
      intro c d held
      have ⟨r, listed, type, from_, to_⟩ := held
      rcases rows r listed with old | new
      · exact ⟨r, old, type, from_, to_⟩
      · exact absurd back (new.2.2.1 type)
    · have grown : ∀ c d, Needs after c d → Needs db c d ∨ c = a ∧ d = b := by
        intro c d held
        have ⟨r, listed, type, from_, to_⟩ := held
        rcases rows r listed with old | new
        · exact Or.inl ⟨r, old, type, from_, to_⟩
        · exact Or.inr ⟨from_.symm.trans new.1, to_.symm.trans new.2.1⟩
      exact untangled.acyclic.join grown back
  apart := by
    intro r listed confusable
    rcases rows r listed with old | new
    · exact untangled.apart r old confusable
    · rw [new.1, new.2.1]
      exact new.2.2.2 confusable
  ends := by
    intro r listed
    rw [points]
    rcases rows r listed with old | new
    · exact untangled.ends r old
    · rw [new.1, new.2.1]
      exact inside

/-- An edge that is there already closes nothing. -/
theorem Untangled.not_back (untangled : Untangled db) (needs : Needs db a b) : ¬ ReflTransGen (Needs db) b a := by
  intro back
  exact untangled.acyclic a (TransGen.head' needs back)

section
variable [Field K] [LinearOrder K]

theorem Untangled.create {kbVersionId : Nat} {type : String} {weight : K} (untangled : Untangled db)
    (created : createRelation db kbVersionId a b type weight = .ok after)
    (clear : ¬ Tangles db (.createRelation kbVersionId a b type weight)) : Untangled after := by
  unfold createRelation at created
  split at created
  · cases created
  · rename_i kind named
    split at created
    · cases created
    · rename_i light
      split at created
      · cases created
      · rename_i distinct
        split at created
        · cases created
        · rename_i inner
          have inside := not_or.mp inner
          have source := not_not.mp inside.1
          have target := not_not.mp inside.2
          have made := Except.ok.inj created
          apply untangled.link (a := a) (b := b)
          · rw [← made]
          · exact ⟨pointIds_lt source, pointIds_lt target⟩
          · intro r listed
            rw [← made] at listed
            rcases List.mem_append.mp listed with old | new
            · exact Or.inl old
            · rw [List.mem_singleton.mp new]
              refine Or.inr ⟨rfl, rfl, ?_, fun _ => distinct⟩
              intro prerequisite back
              apply clear
              refine ⟨?_, by simpa using light, distinct, source, target, ?_⟩
              · rw [relationType?_eq_some_iff.mp named]
                exact congrArg RelationType.name prerequisite
              · rcases Relation.reflTransGen_iff_eq_or_transGen.mp back with same | path
                · exact absurd same distinct
                · exact path

theorem formType_eq_ok {name : Option String} {type : RelationType} (named : formType name = .ok (some type)) :
    name = some (RelationType.name type) := by
  unfold formType at named
  split at named
  · cases Except.ok.inj named
  · split at named
    · cases named
    · rename_i found
      rw [relationType?_eq_some_iff.mp found, Option.some.inj (Except.ok.inj named)]

theorem Untangled.update {relId : Nat} {type : Option String} {weight : Option K} (untangled : Untangled db)
    (updated : updateRelation db relId type weight = .ok after)
    (clear : ¬ Tangles db (.updateRelation relId type weight)) : Untangled after := by
  unfold updateRelation at updated
  split at updated
  · cases updated
  · rename_i rel found
    split at updated
    · cases updated
    · rename_i kind named
      split at updated
      · cases updated
      · rename_i light
        have stored := Table.get?_mem found
        have key : rel.id = relId := Table.get?_key found
        have allowed : weight.all unitWeight = true := by simpa using light
        have made := Except.ok.inj updated
        apply untangled.link (a := rel.fromKpId) (b := rel.toKpId)
        · rw [← made]
        · exact untangled.ends rel stored
        · intro r listed
          rw [← made] at listed
          rcases List.mem_map.mp listed with ⟨s, old, same⟩
          split at same
          · rename_i hit
            have equal : s = rel := db.relations.key_inj old stored ((beq_iff_eq.mp hit).trans key.symm)
            rw [← same, equal]
            refine Or.inr ⟨rfl, rfl, ?_, ?_⟩
            · intro prerequisite
              cases kind with
              | none => exact untangled.not_back ⟨rel, stored, prerequisite, rfl, rfl⟩
              | some k =>
                intro back
                have typed := formType_eq_ok named
                rw [show k = .prerequisite from prerequisite] at typed
                exact clear ⟨allowed, rel, stored, key, Or.inl ⟨typed, back⟩⟩
            · intro confusable
              cases kind with
              | none => exact untangled.apart rel stored confusable
              | some k =>
                intro ends
                have typed := formType_eq_ok named
                rw [show k = .confusable from confusable] at typed
                exact clear ⟨allowed, rel, stored, key, Or.inr ⟨typed, ends⟩⟩
          · rw [← same]
            exact Or.inl old

/-- The key a code of the file gets. -/
def keyOf (db : Db K) (content : Content K) (code : String) : Nat := (codeIds db content).getD code 0

omit [Field K] [LinearOrder K] in
theorem keyOf_bounds {content : Content K} {code : String} (distinct : content.codes.Nodup)
    (known : code ∈ content.codes) :
    db.knowledgePoints.nextId ≤ keyOf db content code ∧
      keyOf db content code < db.knowledgePoints.nextId + content.points.length := by
  have ⟨p, listed, same⟩ := List.mem_map.mp known
  have found := Dict.get?_numbered_of_mem db.knowledgePoints.nextId distinct listed
  have ⟨n, inside, _, id⟩ := Dict.mem_of_get?_numbered db.knowledgePoints.nextId found
  rw [same] at id
  unfold keyOf codeIds
  omega

omit [Field K] [LinearOrder K] in
theorem keyOf_inj {content : Content K} {c d : String} (distinct : content.codes.Nodup) (first : c ∈ content.codes)
    (second : d ∈ content.codes) (same : keyOf db content c = keyOf db content d) : c = d := by
  have ⟨p, left, code⟩ := List.mem_map.mp first
  have ⟨q, right, other⟩ := List.mem_map.mp second
  subst code other
  exact congrArg PointAttributes.code (Dict.numbered_inj db.knowledgePoints.nextId distinct left right same)

theorem Describes.known {doc : KbDoc K} {content : Content K} (described : Describes doc content) {e : Edge K}
    (listed : e ∈ content.edges) : e.source ∈ content.codes ∧ e.target ∈ content.codes := by
  have ⟨n, inside, same⟩ := List.getElem_of_mem listed
  have size := described.edges.length_eq
  have ⟨_, each⟩ := List.forall₂_iff_get.mp described.edges
  have given := each n (by omega) inside
  rw [← same]
  exact given.known

theorem Untangled.file {doc : KbDoc K} {content : Content K} (untangled : Untangled db)
    (described : Describes doc content) (plain : ¬ content.Tangled) : Untangled (fileVersion db doc content) := by
  have ⟨acyclic, apart⟩ := not_or.mp plain
  have next : (fileVersion db doc content).knowledgePoints.nextId =
      db.knowledgePoints.nextId + content.points.length := Table.nextId_insertAll ..
  have rows : ∀ r ∈ (fileVersion db doc content).relations.rows, r ∈ db.relations.rows ∨ ∃ e ∈ content.edges,
      r.fromKpId = keyOf db content e.source ∧ r.toKpId = keyOf db content e.target ∧ r.type = e.type := by
    intro r listed
    rw [show (fileVersion db doc content).relations.rows = _ from Table.rows_insertAll ..] at listed
    rcases List.mem_append.mp listed with old | new
    · exact Or.inl old
    · have ⟨n, inside, same⟩ := List.mem_mapIdx.mp new
      have ⟨e, held, made⟩ := List.mem_map.mp (List.getElem_mem inside)
      rw [← same, ← made]
      exact Or.inr ⟨e, held, rfl, rfl, rfl⟩
  constructor
  · have named : Acyclic (Relation.Map content.Needs (keyOf db content) (keyOf db content)) := by
      apply (not_not.mp acyclic).map
      intro c d c' d' first second same
      have ⟨e, left, _, _, target⟩ := first
      have ⟨e', right, _, source, _⟩ := second
      have known := (described.known left).2
      have known' := (described.known right).1
      rw [target] at known
      rw [source] at known'
      exact keyOf_inj described.distinct known known' same
    have old_ : ∀ a b, Needs db a b → a < db.knowledgePoints.nextId ∧ b < db.knowledgePoints.nextId := by
      intro a b held
      have ⟨r, listed, _, from_, to_⟩ := held
      rw [← from_, ← to_]
      exact untangled.ends r listed
    apply untangled.acyclic.beside named old_
    · intro a b held
      have ⟨c, d, ⟨e, listed, _, source, target⟩, first, second⟩ := held
      have ⟨known, known'⟩ := described.known listed
      rw [source] at known
      rw [target] at known'
      have low : db.knowledgePoints.nextId ≤ keyOf db content c := (keyOf_bounds described.distinct known).1
      have low' : db.knowledgePoints.nextId ≤ keyOf db content d := (keyOf_bounds described.distinct known').1
      rw [← first, ← second]
      exact ⟨not_lt.mpr low, not_lt.mpr low'⟩
    · intro a b held
      have ⟨r, listed, type, from_, to_⟩ := held
      rcases rows r listed with old | new
      · exact Or.inl ⟨r, old, type, from_, to_⟩
      · have ⟨e, given, source, target, kind⟩ := new
        refine Or.inr ⟨e.source, e.target, ⟨e, given, kind.symm.trans type, rfl, rfl⟩, ?_, ?_⟩
        · exact source.symm.trans from_
        · exact target.symm.trans to_
  · intro r listed confusable
    rcases rows r listed with old | new
    · exact untangled.apart r old confusable
    · have ⟨e, given, source, target, kind⟩ := new
      have ⟨known, known'⟩ := described.known given
      rw [source, target]
      intro same
      exact apart ⟨e, given, kind.symm.trans confusable, keyOf_inj described.distinct known known' same⟩
  · intro r listed
    rw [next]
    rcases rows r listed with old | new
    · have bounds := untangled.ends r old
      omega
    · have ⟨e, given, source, target, _⟩ := new
      have ⟨known, known'⟩ := described.known given
      rw [source, target]
      exact ⟨(keyOf_bounds described.distinct known).2, (keyOf_bounds described.distinct known').2⟩

/-- A write that does not tangle the graph leaves it as clear as it was. -/
theorem Untangled.step (untangled : Untangled db) {move : GraphMove K} (clear : ¬ Tangles db move) :
    Untangled (alter db move) := by
  cases move with
  | importKb doc =>
    rw [alter]
    unfold rolledBack
    split
    · rename_i imported
      rcases importKb_cases imported with old | new
      · have ⟨_, _, _, same⟩ := old
        rw [same]
        exact untangled
      · have ⟨content, described, fresh, same⟩ := new
        rw [same]
        apply untangled.file described
        intro tangled
        exact clear ⟨content, described, fresh, tangled⟩
    · exact untangled
  | createRelation kbVersionId a b type weight =>
    rw [alter]
    cases created : createRelation db kbVersionId a b type weight with
    | error e => exact untangled
    | ok after => exact untangled.create created clear
  | updateRelation relId type weight =>
    rw [alter]
    cases updated : updateRelation db relId type weight with
    | error e => exact untangled
    | ok after => exact untangled.update updated clear
  | other change =>
    have needs : Needs (change.run db) = Needs db := by
      unfold Needs
      rw [change.relations]
    rw [alter]
    constructor
    · rw [needs]
      exact untangled.acyclic
    · rw [change.relations]
      exact untangled.apart
    · rw [change.relations, change.points]
      exact untangled.ends

end

end KnowledgeGap.Kb
