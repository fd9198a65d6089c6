import TemplateLint.Calendar.Date
import TemplateLint.Finding

/-! Todos: findings that are put off, how they are told apart, and how a log of them is read. -/

namespace TemplateLint

/-- A finding put off on a day, with the days from which it counts again. -/
structure Todo where
  engine : String
  rule : String
  filePath : String
  line : UInt64
  column : UInt64
  source : String
  createdDate : Date
  warnDate : Option Date
  errorDate : Option Date
  deriving DecidableEq

/-- A path without its leading dots and the slashes after them. -/
def stripDots (afterDot : Bool) : List Char → List Char
  | '.' :: '/' :: rest => stripDots true rest
  | '/' :: rest => if afterDot then stripDots true rest else '/' :: rest
  | path => path

/-- The path that a file's todos are kept under, the same for `a` and `./a`. -/
def storageKey (path : String) : String :=
  .ofList (stripDots false path.toList)

/-- Two spellings of one file. -/
def sameFile (first second : String) : Bool :=
  storageKey first = storageKey second

namespace Todo

/-- The todo stands for this very finding. -/
def matchesExactly (todo : Todo) (finding : Finding) : Bool :=
  todo.rule = finding.rule && sameFile todo.filePath finding.filePath &&
    todo.line = finding.line && todo.column = finding.column && todo.source = finding.source

/-- The todo stands for a finding of the same text, wherever it moved in its file. -/
def matchesLoosely (todo : Todo) (finding : Finding) : Bool :=
  todo.rule = finding.rule && sameFile todo.filePath finding.filePath &&
    todo.source = finding.source

/-- Two records of one todo, whatever their dates. -/
def isSame (first second : Todo) : Bool :=
  first.engine = second.engine && first.rule = second.rule &&
    sameFile first.filePath second.filePath && first.line = second.line &&
    first.column = second.column && first.source = second.source

/-- The severity of a finding that the todo covers, on a day. -/
def severityOn (todo : Todo) (today : Date) : Severity :=
  if todo.errorDate.any (·.isAtMost today) then .error
  else if todo.warnDate.any (·.isAtMost today) then .warning
  else .todo

/-- One entry of the log of todos. -/
inductive Change where
  | add (todo : Todo)
  | remove (todo : Todo)
  deriving DecidableEq

/-- The live todos after one more entry; a todo that is live already keeps its first record. -/
def apply (live : List Todo) : Change → List Todo
  | .add todo => if live.any (·.isSame todo) then live else live ++ [todo]
  | .remove todo => live.filter fun kept => !kept.isSame todo

/-- The live todos after more entries. -/
def applyAll (live : List Todo) (changes : List Change) : List Todo :=
  changes.foldl apply live

/-- The live todos of a log, in the order in which they were first added. -/
def live (changes : List Change) : List Todo :=
  applyAll [] changes

end Todo

end TemplateLint
