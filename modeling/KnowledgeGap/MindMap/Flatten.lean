import KnowledgeGap.MindMap.Canvas
import KnowledgeGap.Relational.Dict

namespace KnowledgeGap.MindMap

open Relational

structure KpDraft where
  chapter : String
  code : String
  name : String
  description : String
  importance : Importance
  deriving DecidableEq, Repr

/-- A relation before its points have keys: the ends are codes. -/
structure KpRelationDraft where
  fromCode : String
  toCode : String
  type : String
  deriving DecidableEq, Repr

/-- `s.length`, in UTF-16 code units. -/
def utf16Length (s : String) : Nat := (s.toList.map (fun c => if c.toNat < 65536 then 1 else 2)).sum

def chapterString (chapterName sectionName : String) : String :=
  if sectionName = "" then chapterName else chapterName ++ " > " ++ sectionName

structure Flattening where
  kps : List KpDraft
  problems : List String
  idToCode : Dict String String
  seenCodes : Dict String String

def Flattening.note (st : Flattening) (text : String) : Flattening := { st with problems := st.problems ++ [text] }

def kpDraft (chapter : String) (kp : MpKp) : KpDraft :=
  ⟨chapter, trim kp.code, trim kp.name, trim kp.description, kp.importance⟩

def checkName (st : Flattening) (kp : MpKp) (place : String) : Flattening :=
  if trim kp.name = "" then st.note (place ++ "：知识点缺名称") else st

def checkCode (st : Flattening) (kp : MpKp) (place : String) : Flattening :=
  if trim kp.code = "" then st.note (place ++ "「" ++ (if kp.name = "" then "未命名" else kp.name) ++ "」缺编码")
  else
    match st.seenCodes.get? kp.code with
    | some first => st.note ("编码重复：" ++ kp.code ++ "（" ++ first ++ " 与 " ++ place ++ "）")
    | none => { st with seenCodes := st.seenCodes.set kp.code place }

def checkPath (st : Flattening) (chapter place : String) : Flattening :=
  if 100 < utf16Length chapter then st.note (place ++ "：章节路径超 100 字符（" ++ chapter ++ "）") else st

def pushKp (st : Flattening) (kp : MpKp) (chapter place : String) : Flattening :=
  let st := checkPath (checkCode (checkName st kp place) kp place) chapter place
  { st with idToCode := st.idToCode.set kp.id kp.code, kps := st.kps ++ [kpDraft chapter kp] }

def pushSection (c : MpChapter) (st : Flattening) (s : MpSection) : Flattening :=
  let st := if trim s.name = "" then st.note ("「" ++ c.name ++ "」存在缺名称的节") else st
  s.kps.foldl (fun st k => pushKp st k (chapterString c.name s.name) (c.name ++ " > " ++ s.name)) st

def pushChapter (st : Flattening) (c : MpChapter) : Flattening :=
  -- A chapter that is nothing but a place to type into is passed over.
  if trim c.name = "" ∧ c.sections.length = 0 ∧ c.kps.length = 0 then st
  else
    let st := if trim c.name = "" then st.note "存在缺名称的章" else st
    c.kps.foldl (fun st k => pushKp st k c.name c.name) (c.sections.foldl (pushSection c) st)

structure FlattenResult where
  kps : List KpDraft
  relations : List KpRelationDraft
  problems : List String
  deriving DecidableEq, Repr

/-- `!code` -/
def present (code : Option String) : Option String := code.filter (fun c => decide (c ≠ ""))

def flattenTree (tree : MpTree) (edges : List MpEdge) : FlattenResult :=
  let st := tree.chapters.foldl pushChapter ⟨[], [], .empty, .empty⟩
  { kps := st.kps
    problems := if st.kps.length = 0 then st.problems ++ ["至少录入一个知识点"] else st.problems
    relations := edges.filterMap (fun e =>
      match present (st.idToCode.get? e.fromId), present (st.idToCode.get? e.toId) with
      | some fromCode, some toCode => some ⟨fromCode, toCode, Kb.RelationType.name e.type⟩
      | _, _ => none) }

/-! What a pass over some points comes to. -/

/-- The points with the path of the chapter they are filed under. -/
def MpChapter.filed (c : MpChapter) : List (String × MpKp) :=
  c.sections.flatMap (fun s => s.kps.map (fun k => (chapterString c.name s.name, k))) ++ c.kps.map (fun k => (c.name, k))

def MpTree.filed (t : MpTree) : List (String × MpKp) := t.chapters.flatMap MpChapter.filed

/-- Nothing is missing from a point, and its path is short enough. -/
def Complete (p : String × MpKp) : Prop := trim p.2.name ≠ "" ∧ trim p.2.code ≠ "" ∧ utf16Length p.1 ≤ 100

/-- From `st` to `st'` by the points `ps`, without a complaint where `named` holds as well. -/
structure Pushed (named : Prop) (ps : List (String × MpKp)) (st st' : Flattening) : Prop where
  kps : st'.kps = st.kps ++ ps.map (fun p => kpDraft p.1 p.2)
  idToCode : st'.idToCode = ps.foldl (fun d p => d.set p.2.id p.2.code) st.idToCode
  seen : st'.problems = [] → st'.seenCodes.keys = st.seenCodes.keys ++ ps.map (fun p => p.2.code)
  problems : st'.problems = [] ↔ st.problems = [] ∧ named ∧ (∀ p ∈ ps, Complete p) ∧
    (st.seenCodes.keys ++ ps.map (fun p => p.2.code)).Nodup

theorem nodup_keys (d : Dict String String) : d.keys.Nodup := d.nodup

theorem Pushed.refl (st : Flattening) : Pushed True [] st st where
  kps := by simp
  idToCode := rfl
  seen := by simp
  problems := by simpa using fun _ => nodup_keys st.seenCodes

theorem Pushed.trans {a b : Prop} {ps qs : List (String × MpKp)} {st mid st' : Flattening} (first : Pushed a ps st mid)
    (second : Pushed b qs mid st') : Pushed (a ∧ b) (ps ++ qs) st st' where
  kps := by rw [second.kps, first.kps, List.map_append, List.append_assoc]
  idToCode := by rw [second.idToCode, first.idToCode, List.foldl_append]
  seen := by
    intro clean
    rw [second.seen clean, first.seen (second.problems.mp clean).1, List.map_append, List.append_assoc]
  problems := by
    rw [second.problems]
    constructor
    · rintro ⟨clean, named, complete, codes⟩
      obtain ⟨start, namedFirst, completeFirst, _⟩ := first.problems.mp clean
      rw [first.seen clean, List.append_assoc, ← List.map_append] at codes
      exact ⟨start, ⟨namedFirst, named⟩, fun p listed => (List.mem_append.mp listed).elim (completeFirst p) (complete p), codes⟩
    · rintro ⟨start, ⟨namedFirst, named⟩, complete, codes⟩
      rw [List.map_append, ← List.append_assoc] at codes
      have clean := first.problems.mpr ⟨start, namedFirst, fun p listed => complete p (List.mem_append_left _ listed),
        (List.nodup_append.mp codes).1⟩
      refine ⟨clean, named, fun p listed => complete p (List.mem_append_right _ listed), ?_⟩
      rw [first.seen clean]
      exact codes

/-- A complaint ends any hope of a clean result; nothing else changes. -/
theorem pushed_note (st : Flattening) (wrong : Prop) [Decidable wrong] (text : String) :
    Pushed (¬ wrong) [] st (if wrong then st.note text else st) := by
  by_cases here : wrong
  · rw [if_pos here]
    exact ⟨by simp [Flattening.note], rfl, by simp [Flattening.note], by simp [Flattening.note, here]⟩
  · rw [if_neg here]
    exact ⟨by simp, rfl, by simp, by simpa [here] using fun _ => nodup_keys st.seenCodes⟩

theorem pushed_code (st : Flattening) (kp : MpKp) (place : String) :
    (checkCode st kp place).kps = st.kps ∧ (checkCode st kp place).idToCode = st.idToCode ∧
      ((checkCode st kp place).problems = [] → (checkCode st kp place).seenCodes.keys = st.seenCodes.keys ++ [kp.code]) ∧
      ((checkCode st kp place).problems = [] ↔ st.problems = [] ∧ trim kp.code ≠ "" ∧ kp.code ∉ st.seenCodes.keys) := by
  unfold checkCode
  by_cases blank : trim kp.code = ""
  · rw [if_pos blank]
    simp [Flattening.note, blank]
  · rw [if_neg blank]
    cases known : st.seenCodes.get? kp.code with
    | some first =>
      have listed : kp.code ∈ st.seenCodes.keys := by
        by_contra absent
        rw [(st.seenCodes.get?_eq_none_iff kp.code).mpr absent] at known
        cases known
      simp [Flattening.note, listed]
    | none =>
      have absent := (st.seenCodes.get?_eq_none_iff kp.code).mp known
      refine ⟨rfl, rfl, fun _ => ?_, by simp [blank, absent]⟩
      rw [Dict.keys, Dict.entries_set_of_absent absent, List.map_append]
      rfl

theorem pushed_kp (st : Flattening) (kp : MpKp) (chapter place : String) :
    Pushed True [(chapter, kp)] st (pushKp st kp chapter place) := by
  have name : Pushed (¬ trim kp.name = "") [] st (checkName st kp place) := pushed_note st _ _
  have path : Pushed (¬ 100 < utf16Length chapter) [] (checkCode (checkName st kp place) kp place)
      (checkPath (checkCode (checkName st kp place) kp place) chapter place) := pushed_note _ _ _
  obtain ⟨sameKps, sameCodes, seen, clean⟩ := pushed_code (checkName st kp place) kp place
  have start : (checkCode (checkName st kp place) kp place).problems = [] →
      (checkName st kp place).seenCodes.keys = st.seenCodes.keys := fun none_ => by
    simpa using name.seen (clean.mp none_).1
  constructor
  · simp only [pushKp, path.kps, sameKps, name.kps, List.map_nil, List.append_nil, List.map_cons]
  · simp only [pushKp, path.idToCode, sameCodes, name.idToCode, List.foldl_nil, List.foldl_cons]
  · intro none_
    have before := (path.problems.mp none_).1
    have keys := path.seen none_
    rw [seen before, start before] at keys
    simpa [pushKp] using keys
  · constructor
    · intro none_
      obtain ⟨before, short, _, codes⟩ := path.problems.mp none_
      obtain ⟨named, coded_, absent⟩ := clean.mp before
      rw [start before] at absent
      refine ⟨(name.problems.mp named).1, trivial, ?_, ?_⟩
      · intro p listed
        rw [List.mem_singleton.mp listed]
        exact ⟨(name.problems.mp named).2.1, coded_, Nat.le_of_not_lt short⟩
      · refine List.nodup_append.mpr ⟨nodup_keys _, List.nodup_singleton _, fun x known y here same => absent ?_⟩
        have mine : x = kp.code := same.trans (List.mem_singleton.mp here)
        exact mine ▸ known
    · rintro ⟨before, _, complete, codes⟩
      obtain ⟨named, coded_, short⟩ := complete _ (List.mem_singleton_self _)
      have checked : (checkName st kp place).problems = [] := by
        refine name.problems.mpr ⟨before, named, by simp, ?_⟩
        simpa using nodup_keys st.seenCodes
      have absent : kp.code ∉ (checkName st kp place).seenCodes.keys := by
        have keys := name.seen checked
        rw [List.map_nil, List.append_nil] at keys
        rw [keys]
        intro known
        exact (List.nodup_append.mp codes).2.2 _ known _ (List.mem_singleton_self _) rfl
      refine path.problems.mpr ⟨clean.mpr ⟨checked, coded_, absent⟩, Nat.not_lt_of_le short, by simp, ?_⟩
      simpa using nodup_keys _

theorem pushed_foldl {α : Type} {push : Flattening → α → Flattening} {ps : α → List (String × MpKp)} {named : α → Prop}
    (each : ∀ st a, Pushed (named a) (ps a) st (push st a)) (xs : List α) (st : Flattening) :
    Pushed (∀ a ∈ xs, named a) (xs.flatMap ps) st (xs.foldl push st) := by
  induction xs generalizing st with
  | nil => simpa using Pushed.refl st
  | cons a xs ih =>
    rw [List.foldl_cons, List.flatMap_cons, show (∀ b ∈ a :: xs, named b) = (named a ∧ ∀ b ∈ xs, named b) by simp]
    exact (each st a).trans (ih (push st a))

theorem pushed_kps (st : Flattening) (kps : List MpKp) (chapter place : String) :
    Pushed True (kps.map (fun k => (chapter, k))) st (kps.foldl (fun st k => pushKp st k chapter place) st) := by
  have pushed := pushed_foldl (fun st k => pushed_kp st k chapter place) kps st
  rw [List.map_eq_flatMap]
  simpa using pushed

theorem pushed_section (c : MpChapter) (st : Flattening) (s : MpSection) :
    Pushed (trim s.name ≠ "") (s.kps.map (fun k => (chapterString c.name s.name, k))) st (pushSection c st s) := by
  have noted := pushed_note st (trim s.name = "") ("「" ++ c.name ++ "」存在缺名称的节")
  have pushed := noted.trans (pushed_kps _ s.kps (chapterString c.name s.name) (c.name ++ " > " ++ s.name))
  rw [and_true] at pushed
  exact pushed

/-- A chapter has a name and so has each section, or it is nothing but a place to type into. -/
def Named (c : MpChapter) : Prop :=
  (trim c.name = "" ∧ c.sections.length = 0 ∧ c.kps.length = 0) ∨
    (trim c.name ≠ "" ∧ ∀ s ∈ c.sections, trim s.name ≠ "")

theorem pushed_chapter (st : Flattening) (c : MpChapter) : Pushed (Named c) c.filed st (pushChapter st c) := by
  by_cases placeholder : trim c.name = "" ∧ c.sections.length = 0 ∧ c.kps.length = 0
  · have nothing : c.filed = [] := by
      simp [MpChapter.filed, List.eq_nil_of_length_eq_zero placeholder.2.1, List.eq_nil_of_length_eq_zero placeholder.2.2]
    rw [pushChapter, if_pos placeholder, nothing, show Named c = True from eq_true (Or.inl placeholder)]
    exact Pushed.refl st
  · have noted := pushed_note st (trim c.name = "") "存在缺名称的章"
    have sections := noted.trans (pushed_foldl (pushed_section c) c.sections _)
    have whole := sections.trans (pushed_kps _ c.kps c.name c.name)
    have same : Named c = ((¬ trim c.name = "" ∧ ∀ s ∈ c.sections, trim s.name ≠ "") ∧ True) := by
      simp only [Named, placeholder, false_or, ne_eq, and_true]
    rw [pushChapter, if_neg placeholder, same]
    exact whole

theorem pushed_tree (t : MpTree) :
    Pushed (∀ c ∈ t.chapters, Named c) t.filed ⟨[], [], .empty, .empty⟩
      (t.chapters.foldl pushChapter ⟨[], [], .empty, .empty⟩) :=
  pushed_foldl pushed_chapter t.chapters _

/-- What a tree has to be for the button under it to light up. -/
structure WellDrawn (t : MpTree) : Prop where
  named : ∀ c ∈ t.chapters, Named c
  complete : ∀ p ∈ t.filed, Complete p
  codes : (t.points.map MpKp.code).Nodup
  some_ : t.points ≠ []

theorem filed_points (t : MpTree) : t.filed.map Prod.snd = t.points := by
  simp only [MpTree.filed, MpChapter.filed, MpTree.points, List.map_flatMap, List.map_append, List.map_map, Function.comp_def, List.map_id']
  rfl

theorem filed_codes (t : MpTree) : t.filed.map (fun p => p.2.code) = t.points.map MpKp.code := by
  rw [← filed_points, List.map_map]
  rfl

theorem flattenTree_kps (t : MpTree) (edges : List MpEdge) :
    (flattenTree t edges).kps = t.filed.map (fun p => kpDraft p.1 p.2) := by
  have kps := (pushed_tree t).kps
  rw [List.nil_append] at kps
  exact kps

/-- No problem is left exactly where the tree is well drawn. -/
theorem flattenTree_clean (t : MpTree) (edges : List MpEdge) : (flattenTree t edges).problems = [] ↔ WellDrawn t := by
  have pushed := pushed_tree t
  have kps := pushed.kps
  rw [List.nil_append] at kps
  have some_ : (t.chapters.foldl pushChapter ⟨[], [], .empty, .empty⟩).kps.length = 0 ↔ t.points = [] := by
    rw [kps, List.length_map, List.length_eq_zero_iff, ← filed_points, List.map_eq_nil_iff]
  have clean : (t.chapters.foldl pushChapter ⟨[], [], .empty, .empty⟩).problems = [] ↔
      (∀ c ∈ t.chapters, Named c) ∧ (∀ p ∈ t.filed, Complete p) ∧ (t.points.map MpKp.code).Nodup := by
    rw [pushed.problems, filed_codes]
    simp [Dict.empty, Dict.keys]
  simp only [flattenTree]
  by_cases none_ : t.points = []
  · rw [if_pos (some_.mpr none_)]
    constructor
    · intro blank
      exact absurd blank (by simp)
    · intro drawn
      exact absurd none_ drawn.some_
  · rw [if_neg (fun zero => none_ (some_.mp zero)), clean]
    exact ⟨fun parts => ⟨parts.1, parts.2.1, parts.2.2, none_⟩, fun drawn => ⟨drawn.named, drawn.complete, drawn.codes⟩⟩

/-- The code that stands on a card. -/
def codeOf (t : MpTree) (id : String) : String := ((t.points.find? (fun k => decide (k.id = id))).map MpKp.code).getD ""

theorem codeOf_of_mem {t : MpTree} (ids : (t.points.map MpKp.id).Nodup) {k : MpKp} (listed : k ∈ t.points) :
    codeOf t k.id = k.code := by
  have found : t.points.find? (fun j => decide (j.id = k.id)) = some k := by
    cases search : t.points.find? (fun j => decide (j.id = k.id)) with
    | none => simpa using List.find?_eq_none.mp search k listed
    | some j =>
      have here := List.find?_some search
      have same : j.id = k.id := of_decide_eq_true here
      rw [List.inj_on_of_nodup_map ids (List.mem_of_find?_eq_some search) listed same]
  rw [codeOf, found]
  rfl

theorem get?_foldl_set {α : Type} (key value : α → String) (xs : List α) (nodup : (xs.map key).Nodup) {x : α} (listed : x ∈ xs) :
    (xs.foldl (fun d x => Dict.set d (key x) (value x)) Dict.empty).get? (key x) = some (value x) := by
  have same : xs.foldl (fun d x => Dict.set d (key x) (value x)) Dict.empty = Dict.ofList (xs.map (fun x => (key x, value x))) := by
    rw [Dict.ofList, List.foldl_map]
  rw [same]
  refine Dict.get?_ofList_of_mem (List.mem_map_of_mem (f := fun x => (key x, value x)) listed) ?_
  intro w there
  obtain ⟨y, also, equal⟩ := List.mem_map.mp there
  rw [Prod.mk.injEq] at equal
  rw [← equal.2, List.inj_on_of_nodup_map nodup also listed equal.1]

theorem flattenTree_relations {d : Draft} (sound : d.Sound) (drawn : WellDrawn d.tree) :
    (flattenTree d.tree d.edges).relations =
      d.edges.map (fun e => ⟨codeOf d.tree e.fromId, codeOf d.tree e.toId, Kb.RelationType.name e.type⟩) := by
  have ids := nodup_points sound.distinct
  have filedIds : (d.tree.filed.map (fun p => p.2.id)).Nodup := by
    have same : d.tree.filed.map (fun p => p.2.id) = d.tree.points.map MpKp.id := by
      rw [← filed_points, List.map_map]
      rfl
    rw [same]
    exact ids
  have known : ∀ x ∈ kpIdSet d.tree,
      present ((d.tree.chapters.foldl pushChapter ⟨[], [], .empty, .empty⟩).idToCode.get? x) = some (codeOf d.tree x) := by
    intro x listed
    rw [kpIdSet_eq, ← filed_points, List.map_map] at listed
    obtain ⟨p, filed, rfl⟩ := List.mem_map.mp listed
    have point : p.2 ∈ d.tree.points := filed_points d.tree ▸ List.mem_map_of_mem filed
    have coded_ : p.2.code ≠ "" := by
      intro blank
      exact (drawn.complete p filed).2.1 (by rw [blank]; decide)
    rw [(pushed_tree d.tree).idToCode, Function.comp_apply, codeOf_of_mem ids point,
      get?_foldl_set (fun p : String × MpKp => p.2.id) (fun p => p.2.code) _ filedIds filed]
    simp [present, coded_]
  simp only [flattenTree]
  rw [← List.filterMap_eq_map]
  apply List.filterMap_congr
  intro e listed
  have joined := sound.joined e listed
  rw [known e.fromId joined.1, known e.toId joined.2.1]
  rfl

/-- Where no problem is left, the points go out in the order of the tree and every relation that is drawn goes along. -/
theorem flattenTree_faithful {d : Draft} (sound : d.Sound) :
    ((flattenTree d.tree d.edges).problems = [] ↔ WellDrawn d.tree) ∧
      ((flattenTree d.tree d.edges).problems = [] →
        (flattenTree d.tree d.edges).kps = d.tree.filed.map (fun p => kpDraft p.1 p.2) ∧
          (flattenTree d.tree d.edges).relations =
            d.edges.map (fun e => ⟨codeOf d.tree e.fromId, codeOf d.tree e.toId, Kb.RelationType.name e.type⟩)) :=
  ⟨flattenTree_clean d.tree d.edges, fun clean =>
    ⟨flattenTree_kps d.tree d.edges, flattenTree_relations sound ((flattenTree_clean d.tree d.edges).mp clean)⟩⟩

/-- Two points of a chapter, one before the other. -/
def linked : Draft :=
  ⟨⟨[⟨"c", "数", [], [⟨"k", "M7A-101", "正数", "", .core⟩, ⟨"j", "M7A-102", "负数", "", .core⟩]⟩]⟩, [⟨"e", "k", "j", .prerequisite⟩]⟩

theorem sound_linked : linked.Sound := ⟨by decide, by decide, by decide, by decide⟩

theorem flattenTree_faithful_linked : (flattenTree linked.tree linked.edges).problems = [] ↔ WellDrawn linked.tree :=
  (flattenTree_faithful sound_linked).1

end KnowledgeGap.MindMap
