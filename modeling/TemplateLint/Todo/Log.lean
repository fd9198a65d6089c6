import TemplateLint.Document.Node
import TemplateLint.Json.Parser
import TemplateLint.Json.Printer
import TemplateLint.Todo.Basic

/-! The text of a log of todos: one JSON object a line. -/

namespace TemplateLint

namespace Todo

/-- A date that is set, as a field. -/
def dateField (name : String) : Option Date → List (String × Json)
  | some date => [(name, .string (.ofList date.render))]
  | none => []

/-- The fields of a todo; a date that is not set has none. -/
def fields (todo : Todo) : List (String × Json) :=
  [("engine", .string todo.engine),
    ("rule", .string todo.rule),
    ("filePath", .string todo.filePath),
    ("line", .natural todo.line.toNat),
    ("column", .natural todo.column.toNat),
    ("source", .string todo.source),
    ("createdDate", .string (.ofList todo.createdDate.render))] ++
    dateField "warnDate" todo.warnDate ++ dateField "errorDate" todo.errorDate

/-- A todo as a JSON object. -/
def toJson (todo : Todo) : Json :=
  .object todo.fields

/-- The names of a todo's fields, in order. -/
def fieldNames : List String :=
  ["engine", "rule", "filePath", "line", "column", "source", "createdDate", "warnDate",
    "errorDate"]

/-- A 64-bit word in a document. -/
def word? (node : Node) : Option UInt64 :=
  (node.numberBelow? UInt64.size).map UInt64.ofNat

/-- A date in a document. -/
def date? (node : Node) : Option Date :=
  node.text?.bind fun text => Date.parse? text.toList

/-- A date in a document that may be absent. -/
def dateOrNone? (node : Node) : Option (Option Date) :=
  node.optional? date?

/-- The todo that a document holds. -/
def ofNode? (node : Node) : Option Todo :=
  match node.slots? fieldNames with
  | some [engine, rule, filePath, line, column, source, created, warn, error] => do
    some {
      engine := ← engine.required? Node.text?
      rule := ← rule.required? Node.text?
      filePath := ← filePath.required? Node.text?
      line := ← line.required? word?
      column := ← column.required? word?
      source := ← source.required? Node.text?
      createdDate := ← created.required? date?
      warnDate := ← warn.defaulted? dateOrNone? none
      errorDate := ← error.defaulted? dateOrNone? none }
  | _ => none

namespace Change

/-- The word for a kind of entry. -/
def word : Change → String
  | .add _ => "add"
  | .remove _ => "remove"

/-- The todo that an entry is about. -/
def todo : Change → Todo
  | .add todo => todo
  | .remove todo => todo

/-- The entry of a kind about a todo. -/
def ofWord? (word : String) (todo : Todo) : Option Change :=
  if word = "add" then some (.add todo)
  else if word = "remove" then some (.remove todo)
  else none

/-- An entry as a JSON object, its kind first. -/
def toJson (change : Change) : Json :=
  .object (("op", .string change.word) :: change.todo.fields)

/-- An entry as one line. -/
def line (change : Change) : List Char :=
  change.toJson.compact

/-- The entry that a JSON value holds: its kind beside or before the fields of its todo. -/
def ofJson? (value : Json) : Option Change :=
  if value.isSound Json.depthLimit then
    match value with
    | .object fields =>
      match fields.filter (·.1 = "op") with
      | [(_, .string kind)] =>
        (ofNode? (Json.object (fields.filter (·.1 ≠ "op"))).toNode).bind (ofWord? kind)
      | _ => none
    | .array (.string kind :: items) => (ofNode? (Json.array items).toNode).bind (ofWord? kind)
    | _ => none
  else none

/-- The entry that a line writes. -/
def parse? (line : List Char) : Option Change :=
  (Json.parse? line).bind ofJson?

end Change

/-- The text of entries, each on a line that ends with a line feed. -/
def renderLog (changes : List Change) : List Char :=
  changes.flatMap fun change => change.line ++ ['\n']

/-- The entries of lines counted from a number, or the number of the first line that is none. -/
def readLines (number : Nat) : List (List Char) → Except Nat (List Change)
  | [] => .ok []
  | line :: later =>
    if line.all isBlank then readLines (number + 1) later
    else
      match Change.parse? line with
      | none => .error number
      | some change =>
        match readLines (number + 1) later with
        | .error bad => .error bad
        | .ok changes => .ok (change :: changes)

/-- The entries of a log, or the number of its first line that is neither blank nor an entry. -/
def readLog (text : List Char) : Except Nat (List Change) :=
  readLines 1 (Text.lines text)

end Todo

end TemplateLint
