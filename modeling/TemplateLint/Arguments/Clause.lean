import TemplateLint.Arguments.Basic
import TemplateLint.Text.Basic

/-! The words of a command line, and the clauses that they make up. -/

namespace TemplateLint

/-- Why a command line is refused. -/
inductive ArgumentFault where
  | unknownOption
  | missingValue
  | unwantedValue
  | badValue
  | repeated
  deriving Repr, DecidableEq, Inhabited

/-- A question about the program itself, answered in place of a run. -/
inductive Inquiry where
  | help
  | version
  deriving Repr, DecidableEq, Inhabited

/-- What the name of an option stands for. -/
inductive OptionKind where
  | switch (switch : Switch)
  | setting (setting : Setting)
  | inquiry (inquiry : Inquiry)
  deriving Repr, DecidableEq, Inhabited

/-- One word of a command line by its form. -/
inductive Word where
  | plain (text : String)
  | long (name : String) (value : Option String)
  | short (letter : Char)
  | divider
  deriving Repr, DecidableEq, Inhabited

/-- One thing that a command line says. -/
inductive Clause where
  | path (text : String)
  | switch (switch : Switch)
  | attached (setting : Setting) (value : String)
  | detached (setting : Setting) (value : Option String)
  | inquiry (inquiry : Inquiry)
  | fault (fault : ArgumentFault)
  deriving Repr, DecidableEq, Inhabited

namespace OptionKind

/-- The options by their long names. -/
def named : List (String × OptionKind) :=
  [("config-path", .setting .configPath),
    ("config", .setting .config),
    ("rule", .setting .rule),
    ("filename", .setting .filename),
    ("fix", .switch .fix),
    ("format", .setting .format),
    ("output-file", .setting .outputFile),
    ("quiet", .switch .quiet),
    ("verbose", .switch .verbose),
    ("update-todo", .switch .updateTodo),
    ("include-todo", .switch .includeTodo),
    ("clean-todo", .switch .cleanTodo),
    ("compact-todo", .switch .compactTodo),
    ("todo-days-to-warn", .setting .daysToWarn),
    ("todo-days-to-error", .setting .daysToError),
    ("ignore-pattern", .setting .ignorePattern),
    ("no-ignore-pattern", .switch .noIgnorePattern),
    ("no-inline-config", .switch .noInlineConfig),
    ("print-config", .switch .printConfig),
    ("max-warnings", .setting .maxWarnings),
    ("working-directory", .setting .workingDirectory),
    ("help", .inquiry .help),
    ("version", .inquiry .version)]

/-- The options by their single letters. -/
def lettered : List (Char × OptionKind) :=
  [('h', .inquiry .help), ('V', .inquiry .version)]

end OptionKind

namespace Word

/-- A word by its form. A dash alone is no option, and of short options the first one counts. -/
def ofString (text : String) : Word :=
  match text.toList with
  | ['-', '-'] => .divider
  | '-' :: '-' :: option =>
    match Text.cutAt '=' option with
    | some (name, value) => .long (.ofList name) (some (.ofList value))
    | none => .long (.ofList option) none
  | '-' :: letter :: _ => .short letter
  | _ => .plain text

end Word

namespace Clause

/-- What an option says that stands without a value; a setting then waits for the next word. -/
def ofKind : OptionKind → Clause
  | .switch which => .switch which
  | .setting target => .detached target none
  | .inquiry question => .inquiry question

/-- What a long option says. -/
def ofLong (name : String) (value : Option String) : Clause :=
  match OptionKind.named.lookup name, value with
  | none, _ => .fault .unknownOption
  | some (.setting target), some value => .attached target value
  | some _, some _ => .fault .unwantedValue
  | some kind, none => ofKind kind

/-- What a short option says. -/
def ofShort (letter : Char) : Clause :=
  match OptionKind.lettered.lookup letter with
  | some kind => ofKind kind
  | none => .fault .unknownOption

/-- A setting that still waits for its value goes without. -/
def unmet : Option Setting → List Clause
  | some target => [.detached target none]
  | none => []

/--
What words say while a setting may wait for its value. Only a plain word is taken for a value, and
after the divider all words are paths.
-/
def ofWords : Option Setting → List String → List Clause
  | awaited, [] => unmet awaited
  | awaited, text :: later =>
    match Word.ofString text, awaited with
    | .plain value, some target => .detached target (some value) :: ofWords none later
    | .plain name, none => .path name :: ofWords none later
    | .divider, _ => unmet awaited ++ later.map .path
    | .short letter, _ => unmet awaited ++ ofShort letter :: ofWords none later
    | .long name value, _ =>
      match ofLong name value with
      | .detached target none => unmet awaited ++ ofWords (some target) later
      | clause => unmet awaited ++ clause :: ofWords none later

end Clause

end TemplateLint
