import KnowledgeGap.Kb.Exchange
import KnowledgeGap.Relational.Focus

namespace KnowledgeGap.MindMap

open Relational

structure MpKp where
  id : String
  code : String
  name : String
  description : String
  importance : Importance
  deriving DecidableEq, Repr

structure MpSection where
  id : String
  name : String
  kps : List MpKp
  deriving DecidableEq, Repr

structure MpChapter where
  id : String
  name : String
  sections : List MpSection
  /-- The points that hang on the chapter itself. -/
  kps : List MpKp
  deriving DecidableEq, Repr

structure MpEdge where
  id : String
  fromId : String
  toId : String
  type : RelationType
  deriving DecidableEq, Repr

structure MpTree where
  chapters : List MpChapter
  deriving DecidableEq, Repr

def emptyChapter (id : String) : MpChapter := ⟨id, "", [], []⟩

def emptyTree (id : String) : MpTree := ⟨[emptyChapter id]⟩

/-- What `trim` takes off both ends: white space and line terminators. -/
def isTrimmed (c : Char) : Bool :=
  let n := c.toNat
  (decide (9 ≤ n) && decide (n ≤ 13)) || n == 32 || n == 160 || n == 5760 || (decide (8192 ≤ n) && decide (n ≤ 8202)) ||
    n == 8232 || n == 8233 || n == 8239 || n == 8287 || n == 12288 || n == 65279

def trim (s : String) : String :=
  String.ofList (((s.toList.dropWhile isTrimmed).reverse.dropWhile isTrimmed).reverse)

inductive MpHit
  | chapter (chapter : MpChapter) (ci : Nat)
  | section_ (chapter : MpChapter) (node : MpSection) (ci si : Nat)
  | kp (chapter : MpChapter) (parent : Option MpSection) (kp : MpKp) (ci : Nat) (si : Option Nat) (ki : Nat)
  deriving DecidableEq, Repr

def locate (tree : MpTree) (id : String) : Option MpHit :=
  Focus.findSomeIdx (fun ci chapter =>
    if chapter.id = id then some (.chapter chapter ci)
    else
      (Focus.findSomeIdx (fun si node =>
        if node.id = id then some (.section_ chapter node ci si)
        else
          Focus.findSomeIdx (fun ki kp => if kp.id = id then some (.kp chapter (some node) kp ci (some si) ki) else none)
            node.kps) chapter.sections).or
        (Focus.findSomeIdx (fun ki kp => if kp.id = id then some (.kp chapter none kp ci none ki) else none) chapter.kps))
    tree.chapters

def mapChapters (tree : MpTree) (ciTarget : Option Nat) (fn : MpChapter → MpChapter) : MpTree :=
  ⟨tree.chapters.mapIdx (fun ci c => if ciTarget = none ∨ ciTarget = some ci then fn c else c)⟩

/-- What a card sends: the fields of a point that it changes. A chapter and a section take the name alone. -/
structure MpPatch where
  code : Option String := none
  name : Option String := none
  description : Option String := none
  importance : Option Importance := none
  deriving DecidableEq, Repr

def MpPatch.apply (patch : MpPatch) (k : MpKp) : MpKp where
  id := k.id
  code := patch.code.getD k.code
  name := patch.name.getD k.name
  description := patch.description.getD k.description
  importance := patch.importance.getD k.importance

def updateNode (tree : MpTree) (id : String) (patch : MpPatch) : MpTree :=
  match locate tree id with
  | none => tree
  | some (.chapter _ ci) => mapChapters tree (some ci) (fun c => { c with name := patch.name.getD c.name })
  | some (.section_ _ _ ci _) =>
    mapChapters tree (some ci) (fun c =>
      { c with sections := c.sections.map (fun s => if s.id = id then { s with name := patch.name.getD s.name } else s) })
  | some (.kp _ _ _ ci _ _) =>
    let kpFn := fun k : MpKp => if k.id = id then patch.apply k else k
    mapChapters tree (some ci) (fun c =>
      { c with sections := c.sections.map (fun s => { s with kps := s.kps.map kpFn }), kps := c.kps.map kpFn })

def newKpNode (code id : String) : MpKp := ⟨id, code, "", "", .core⟩

def allCodes (tree : MpTree) : List String :=
  let collect := fun kps : List MpKp => (kps.filter (fun k => decide (k.code ≠ ""))).map MpKp.code
  tree.chapters.flatMap (fun c => c.sections.flatMap (fun s => collect s.kps) ++ collect c.kps)

/-- `String(seq).padStart(2, "0")` -/
def twoDigits (seq : Nat) : String := if seq < 10 then "0" ++ toString seq else toString seq

def numberedCode (codePrefix : String) (chapterIndex seq : Nat) : String :=
  trim codePrefix ++ "-" ++ toString (chapterIndex + 1) ++ twoDigits seq

def nextCode (tree : MpTree) (codePrefix : String) (chapterIndex : Nat) : String :=
  if trim codePrefix = "" then ""
  else
    let taken := allCodes tree
    (((List.range' 1 99).map (numberedCode codePrefix chapterIndex)).find? (fun code => decide (code ∉ taken))).getD ""

/-- `codePrefix ? nextCode(tree, codePrefix, ci) : ""` -/
def givenCode (tree : MpTree) (codePrefix : String) (ci : Nat) : String :=
  if codePrefix = "" then "" else nextCode tree codePrefix ci

def addSibling (tree : MpTree) (refId codePrefix newId : String) : Option (MpTree × String) :=
  match locate tree refId with
  | none => none
  | some (.chapter _ ci) => some (⟨tree.chapters.insertIdx (ci + 1) (emptyChapter newId)⟩, newId)
  | some (.section_ _ _ ci si) =>
    some (mapChapters tree (some ci) (fun c => { c with sections := c.sections.insertIdx (si + 1) ⟨newId, "", []⟩ }), newId)
  | some (.kp _ parent _ ci _ ki) =>
    let node := newKpNode (givenCode tree codePrefix ci) newId
    some (mapChapters tree (some ci) (fun c =>
      match parent with
      | some hit =>
        let kps := hit.kps.insertIdx (ki + 1) node
        { c with sections := c.sections.map (fun s => if s.id = hit.id then { s with kps := kps } else s) }
      | none => { c with kps := c.kps.insertIdx (ki + 1) node }), newId)

def addChild (tree : MpTree) (parentId codePrefix newId : String) : Option (MpTree × String) :=
  match locate tree parentId with
  | none => none
  | some (.chapter _ ci) =>
    some (mapChapters tree (some ci) (fun c => { c with sections := c.sections ++ [⟨newId, "", []⟩] }), newId)
  | some (.section_ _ hit ci _) =>
    let node := newKpNode (givenCode tree codePrefix ci) newId
    some (mapChapters tree (some ci) (fun c =>
      { c with sections := c.sections.map (fun s => if s.id = hit.id then { s with kps := s.kps ++ [node] } else s) }), newId)
  | some (.kp ..) => none

def addChapterKp (tree : MpTree) (chapterId codePrefix newId : String) : Option (MpTree × String) :=
  match locate tree chapterId with
  | some (.chapter _ ci) =>
    let node := newKpNode (givenCode tree codePrefix ci) newId
    some (mapChapters tree (some ci) (fun c => { c with kps := c.kps ++ [node] }), newId)
  | _ => none

def promote (tree : MpTree) (id : String) : MpTree :=
  match locate tree id with
  | some (.kp _ (some parent) kp ci _ _) =>
    mapChapters tree (some ci) (fun c =>
      { c with
        sections := c.sections.map (fun s =>
          if s.id = parent.id then { s with kps := s.kps.filter (fun k => decide (k.id ≠ id)) } else s)
        kps := c.kps ++ [kp] })
  | some (.section_ _ node (previous + 1) _) =>
    ⟨tree.chapters.mapIdx (fun ci c =>
      if ci = previous + 1 then { c with sections := c.sections.filter (fun s => decide (s.id ≠ id)) }
      else if ci = previous then { c with sections := c.sections ++ [node] }
      else c)⟩
  | _ => tree

def removedKpIds (nodes : List (List MpKp)) : List String := nodes.flatMap (fun kps => kps.map MpKp.id)

def removeNode (tree : MpTree) (id : String) (reseedId : Option String) : MpTree × List String :=
  match locate tree id with
  | none => (tree, [])
  | some (.chapter hit _) =>
    let chapters := tree.chapters.filter (fun c => decide (c.id ≠ id))
    -- A canvas with no node at all leaves nothing to type into.
    let reseeded :=
      match reseedId with
      | some fresh => if chapters.length = 0 then chapters ++ [emptyChapter fresh] else chapters
      | none => chapters
    (⟨reseeded⟩, id :: removedKpIds (hit.sections.map MpSection.kps) ++ removedKpIds [hit.kps])
  | some (.section_ _ node ci _) =>
    (mapChapters tree (some ci) (fun c => { c with sections := c.sections.filter (fun s => decide (s.id ≠ id)) }),
      id :: removedKpIds [node.kps])
  | some (.kp _ _ _ ci _ _) =>
    (mapChapters tree (some ci) (fun c =>
      { c with
        sections := c.sections.map (fun s => { s with kps := s.kps.filter (fun k => decide (k.id ≠ id)) })
        kps := c.kps.filter (fun k => decide (k.id ≠ id)) }), [id])

inductive Dir
  | up
  | down
  deriving DecidableEq, Repr

def Dir.step : Dir → Int
  | .up => -1
  | .down => 1

def swap {α : Type} (dir : Dir) (arr : List α) (i : Nat) : List α :=
  let j := (i : Int) + dir.step
  if j < 0 ∨ (arr.length : Int) ≤ j then arr
  else
    match arr[i]?, arr[j.toNat]? with
    | some x, some y => (arr.set i y).set j.toNat x
    | _, _ => arr

def moveWithin (tree : MpTree) (id : String) (dir : Dir) : MpTree :=
  match locate tree id with
  | none => tree
  | some (.chapter _ ci) => ⟨swap dir tree.chapters ci⟩
  | some (.section_ _ _ ci si) => mapChapters tree (some ci) (fun c => { c with sections := swap dir c.sections si })
  | some (.kp _ (some parent) _ ci _ ki) =>
    mapChapters tree (some ci) (fun c =>
      { c with sections := c.sections.map (fun s => if s.id = parent.id then { s with kps := swap dir s.kps ki } else s) })
  | some (.kp _ none _ ci _ ki) => mapChapters tree (some ci) (fun c => { c with kps := swap dir c.kps ki })

def kpIdSet (tree : MpTree) : List String :=
  tree.chapters.flatMap (fun c => c.sections.flatMap (fun s => s.kps.map MpKp.id) ++ c.kps.map MpKp.id)

inductive EdgeError
  | notPoints
  | selfLoop
  | alreadyThere
  deriving DecidableEq, Repr

def EdgeError.text : EdgeError → String
  | .notPoints => "关系端点必须是知识点"
  | .selfLoop => "不能连自己"
  | .alreadyThere => "已存在相同关系"

def edgeError (tree : MpTree) (edges : List MpEdge) (fromId toId : String) (type : RelationType) : Option EdgeError :=
  let ids := kpIdSet tree
  if fromId ∉ ids ∨ toId ∉ ids then some .notPoints
  else if fromId = toId then some .selfLoop
  else if edges.any (fun e => e.fromId == fromId && e.toId == toId && e.type == type) then some .alreadyThere
  else none

def cleanEdges (edges : List MpEdge) (removed : List String) : List MpEdge :=
  edges.filter (fun e => decide (e.fromId ∉ removed) && decide (e.toId ∉ removed))

end KnowledgeGap.MindMap
