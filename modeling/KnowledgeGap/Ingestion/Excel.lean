import KnowledgeGap.Ingestion.PhotoScores

namespace KnowledgeGap.Ingestion

open Relational

/-- A cell as the workbook reader returns it; `other` is any value `float` refuses, such as a date. -/
inductive Cell (K : Type)
  | empty
  | bool (b : Bool)
  | int (n : Int)
  | float (x : PyFloat K)
  | text (s : String)
  | other (s : String)
  deriving DecidableEq, Repr

structure ImportResult where
  imported : Nat := 0
  unmatchedStudents : List String := []
  warnings : List String := []
  deriving DecidableEq, Repr

inductive ImportError
  | emptySheet
  | indexError
  | python (error : PyError)
  deriving DecidableEq, Repr

/-- What the language does to values: how it writes them, how it reads a number, and which characters are digits. -/
structure Writing (K : Type) where
  str : Cell K → String
  repr : Cell K → String
  float : PyFloat K → String
  number : String → Option (PyFloat K)
  digit : Char → Option Nat

variable {K : Type} (w : Writing K)

def cellText : Cell K → String
  | .text s => s
  | c => w.str c

/-- `c is None or str(c).strip() == ""` -/
def blank : Cell K → Bool
  | .empty => true
  | c => (strip (cellText w c)).isEmpty

def cellFloat [Field K] : Cell K → Except PyError (PyFloat K)
  | .bool b => .ok (.fin (if b then 1 else 0))
  | .int n => if n.natAbs < floatLimit then .ok (.fin n) else .error .overflowError
  | .float x => .ok x
  | .text s =>
    match w.number s with
    | some x => .ok x
    | none => .error .valueError
  | .empty | .other _ => .error .typeError

def headerText : Cell K → String
  | .empty => ""
  | c => strip (cellText w c)

def findNameColumn (header : List String) : Nat :=
  (header.findIdx? (fun h => ["姓名", "学生", "学生姓名", "名字", "学号", "name", "Name"].contains h)).getD 0

def findTotalColumn (header : List String) : Option Nat :=
  header.findIdx? (fun h => ["总分", "总成绩", "total", "Total"].contains h)

/-- The digits `re.search(r"(\d+)", h)` finds. -/
def firstDigits (h : String) : List Nat :=
  ((h.toList.dropWhile (fun c => (w.digit c).isNone)).takeWhile (fun c => (w.digit c).isSome)).filterMap w.digit

/-- `int` refuses more digits than this. -/
def maxIntDigits : Nat := 4300

/-- The question number in a heading, when there is one. -/
def headingIdx (h : String) : Except PyError (Option Int) :=
  match firstDigits w h with
  | [] => .ok none
  | digits =>
    if maxIntDigits < digits.length then .error .valueError
    else .ok (some ((digits.foldl (fun n d => 10 * n + d) 0 : Nat) : Int))

/-- Where each question's scores stand, in the order of the headings, and the remarks on them. -/
abbrev Columns (K : Type) := List (QuestionRow K × Nat)

def Columns.holds (columns : Columns K) (q : QuestionRow K) : Bool := columns.any (fun p => p.1.id == q.id)

def mapColumns (questions : Dict Int (QuestionRow K)) :
    List (String × Nat) → Columns K → List String → Except PyError (Columns K × List String)
  | [], columns, warnings => .ok (columns, warnings)
  | (h, i) :: rest, columns, warnings =>
    match headingIdx w h with
    | .error e => .error e
    | .ok none => mapColumns questions rest columns warnings
    | .ok (some idx) =>
      match questions.get? idx with
      | none => mapColumns questions rest columns warnings
      | some q =>
        if columns.holds q then
          mapColumns questions rest columns (warnings ++ ["第 " ++ toString idx ++ " 题有重复得分列，已采用第一列，请核对"])
        else mapColumns questions rest (columns ++ [(q, i)]) warnings

def intList (ns : List Int) : String := "[" ++ ", ".intercalate (ns.map toString) ++ "]"

def mapQuestionColumns (e : Intake K) (header : List String) : Except PyError (Columns K × List String) :=
  let questions := Dict.ofList (e.questions.rows.map (fun q => (q.idx, q)))
  match mapColumns w questions header.zipIdx [] [] with
  | .error error => .error error
  | .ok (columns, warnings) =>
    let missing := (questions.entries.filter (fun p => !columns.holds p.2)).map Prod.fst
    .ok (columns, if missing.isEmpty then warnings
      else warnings ++ ["模板题目 " ++ intList (stableSort (fun a b => decide (a ≤ b)) missing) ++ " 在 Excel 表头中无对应列"])

/-- The students a row can name: by alias, and by external code before that. -/
def studentIndex (externalCode : Nat → Option String) (roster : List Student) : Dict String Student :=
  Dict.ofList (roster.map (fun s => (s.nameOrAlias, s)) ++
    roster.filterMap (fun s => (externalCode s.id).bind (fun code => if code.isEmpty then none else some (code, s))))

/-- The name a row gives; none where the row is blank. -/
def rowName (nameCol : Nat) (row : List (Cell K)) : Except ImportError (Option String) :=
  if row.all (blank w) then .ok none
  else
    match row[nameCol]? with
    | none => .error .indexError
    | some c => .ok (some (headerText w c))

section
variable [Field K] [LinearOrder K]

/-- A score and the remarks that replaced it, if any. -/
def parseScore (raw : Cell K) (full : PyFloat K) (studentName : String) (idx : Int) : Except PyError (PyFloat K × List String) :=
  match cellFloat w raw with
  | .error .overflowError => .error .overflowError
  | .error _ =>
    .ok (.fin 0, [studentName ++ " 第" ++ toString idx ++ "题分数无法解析：" ++ w.repr raw ++ "，按 0 分处理"])
  | .ok score =>
    if score.isFinite = false then
      .ok (.fin 0, [studentName ++ " 第" ++ toString idx ++ "题不是有限数值，按 0 分处理，需人工确认"])
    else if score.lt (.fin 0) = true ∨ full.lt score = true then
      .ok (.pyMax (.fin 0) (.pyMin full score),
        [studentName ++ " 第" ++ toString idx ++ "题分数越界：" ++ w.float score ++ "（满分 " ++ w.float full ++ "），已裁剪"])
    else .ok (score, [])

def cellScore (rowIdx : Nat) (name : String) (row : List (Cell K)) (q : QuestionRow K) (col : Nat) :
    Except PyError (PyFloat K × List String) :=
  let raw := row.getD col .empty
  if blank w raw then
    .ok (.fin 0, ["第" ++ toString rowIdx ++ "行:" ++ name ++ " 第" ++ toString q.idx ++ "题未填，按 0 分处理"])
  else parseScore w raw q.fullScore name q.idx

/-- The scores of a row, and all their remarks. A remark is what takes the confidence away. -/
def rowScores (rowIdx : Nat) (name : String) (row : List (Cell K)) :
    Columns K → Except PyError (List (QuestionRow K × Scored K) × List String)
  | [] => .ok ([], [])
  | (q, col) :: columns =>
    match cellScore w rowIdx name row q col with
    | .error e => .error e
    | .ok (score, remarks) =>
      match rowScores rowIdx name row columns with
      | .error e => .error e
      | .ok (scored, rest) =>
        .ok ((q, ⟨score, if remarks.isEmpty then .fin 1 else .fin 0, none, []⟩) :: scored, remarks ++ rest)

/-- The remarks on the total a row declares. -/
def totalRemarks (rowIdx : Nat) (name : String) (totalCol : Option Nat) (row : List (Cell K)) (computed : PyFloat K) :
    Except PyError (List String) :=
  match totalCol.bind (fun col => row[col]?) with
  | none | some .empty => .ok []
  | some c =>
    match cellFloat w c with
    | .error .overflowError => .error .overflowError
    | .error _ => .ok ["第" ++ toString rowIdx ++ "行:" ++ name ++ " 总分列无法解析"]
    | .ok declared =>
      if declared.isFinite = false then .ok ["第" ++ toString rowIdx ++ "行:" ++ name ++ " 原始总分不是有限数值，请核对"]
      else if (PyFloat.fin (ratio 1 100)).lt (declared.sub computed).abs then
        .ok ["第" ++ toString rowIdx ++ "行:" ++ name ++ " 总分 " ++ w.float declared ++ " 与逐题求和 " ++ w.float computed ++
          " 不一致，以求和为准"]
      else .ok []

end

def excelRow (studentId : Nat) (totalScore : PyFloat K) (sourceWarnings : List String) (id : Nat) : ResponseRow K :=
  ⟨id, studentId, totalScore, .excel, .pendingReview, if sourceWarnings.isEmpty then none else some sourceWarnings⟩

theorem key_excelRow (studentId : Nat) (totalScore : PyFloat K) (sourceWarnings : List String) (id : Nat) :
    Keyed.key (excelRow studentId totalScore sourceWarnings id) = id := rfl

/-- A repeated row leaves its remark on a response that is still open. -/
def note (warning : String) (r : ResponseRow K) : ResponseRow K :=
  if r.status = .pendingReview then { r with sourceWarnings := some (r.sourceWarnings.getD [] ++ [warning]) } else r

theorem key_note (warning : String) (r : ResponseRow K) : Keyed.key (note warning r) = Keyed.key r := by
  unfold note
  split <;> rfl

/-- What the heading row settles for all others. -/
structure Layout (K : Type) where
  nameCol : Nat
  totalCol : Option Nat
  columns : Columns K
  headerWarnings : List String
  students : Dict String Student

section
variable [Field K] [LinearOrder K] [FloorRing K]

/-- The rest of a row that names a student without a response. -/
def fileRow (layout : Layout K) (rowIdx : Nat) (name : String) (row : List (Cell K)) (student : Student)
    (state : Intake K × ImportResult) : Except PyError (Intake K × ImportResult) :=
  match rowScores w rowIdx name row layout.columns with
  | .error e => .error e
  | .ok (scored, remarks) =>
    let computed := PyFloat.sum (scored.map (fun p => p.2.score))
    match totalRemarks w rowIdx name layout.totalCol row computed with
    | .error e => .error e
    | .ok onTotal =>
      .ok ({ state.1 with
          responses := state.1.responses.insert
            (excelRow student.id (computed.round 2) (layout.headerWarnings ++ remarks ++ onTotal)) (key_excelRow _ _ _)
          answers := state.1.answers.insertAll (scoredRow state.1.responses.nextId) (key_scoredRow _) scored },
        { state.2 with
          imported := state.2.imported + 1
          warnings := state.2.warnings ++ remarks ++ onTotal })

def importRow (layout : Layout K) (state : Intake K × ImportResult) (rowIdx : Nat) (row : List (Cell K)) :
    Except ImportError (Intake K × ImportResult) :=
  let (e, result) := state
  match rowName w layout.nameCol row with
  | .error error => .error error
  | .ok none => .ok state
  | .ok (some name) =>
    match layout.students.get? name with
    | none =>
      .ok (e, { result with
        unmatchedStudents := result.unmatchedStudents ++ ["第" ++ toString rowIdx ++ "行:" ++ name] })
    | some student =>
      match e.responses.rows.find? (fun r => r.studentId == student.id) with
      | some existing =>
        let warning := "第" ++ toString rowIdx ++ "行:" ++ name ++ " 已有作答记录，疑似重复行，已跳过"
        .ok ({ e with responses := e.responses.modify existing.id (note warning) (key_note _) },
          { result with warnings := result.warnings ++ [warning] })
      | none =>
        match fileRow w layout rowIdx name row student state with
        | .error error => .error (.python error)
        | .ok after => .ok after

def importRows (layout : Layout K) :
    Intake K × ImportResult → Nat → List (List (Cell K)) → Except ImportError (Intake K × ImportResult)
  | state, _, [] => .ok state
  | state, rowIdx, row :: rows =>
    match importRow w layout state rowIdx row with
    | .error error => .error error
    | .ok after => importRows layout after (rowIdx + 1) rows

variable (externalCode : Nat → Option String)

def layoutOf (e : Intake K) (heading : List (Cell K)) : Except PyError (Layout K) :=
  let header := heading.map (headerText w)
  match mapQuestionColumns w e header with
  | .error error => .error error
  | .ok (columns, warnings) =>
    .ok ⟨findNameColumn header, findTotalColumn header, columns, warnings, studentIndex externalCode e.roster⟩

def importExcel (e : Intake K) (rows : List (List (Cell K))) : Except ImportError (Intake K × ImportResult) :=
  match rows with
  | [] => .error .emptySheet
  | heading :: rows =>
    match layoutOf w externalCode e heading with
    | .error error => .error (.python error)
    | .ok layout => importRows w layout (e, { warnings := layout.headerWarnings }) 2 rows

/-- The exam after the upload request: an error takes everything back. -/
def uploadExcel (e : Intake K) (rows : List (List (Cell K))) : Intake K :=
  match importExcel w externalCode e rows with
  | .error _ => e
  | .ok (after, _) => after

end

end KnowledgeGap.Ingestion
