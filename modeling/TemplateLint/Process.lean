import TemplateLint.Arguments.Parser
import TemplateLint.Arguments.Usage
import TemplateLint.Invocation

/-! The command as a process, from its words to what it writes and how it ends. -/

namespace TemplateLint

/-- What a process has written, how it ended, and the disk that it leaves. -/
structure ProcessResult where
  status : Nat
  output : String
  complaints : String
  files : FileSystem

namespace ProcessResult

/-- Nothing done but a text printed. -/
def printing (files : FileSystem) (status : Nat) (output : String) : ProcessResult :=
  ⟨status, output, "", files⟩

/-- A command line that is refused. -/
def refusal (files : FileSystem) (fault : ArgumentFault) : ProcessResult :=
  ⟨2, "", "error: " ++ fault.message ++ "\n\n" ++ Usage.synopsis ++ "\n", files⟩

/-- What an invocation has shown, with its fault as the last line. -/
def ofInvocation {μ : Type} (colours : Bool) (result : Except LintError Nat)
    (session : Session μ) : ProcessResult :=
  let (status, lines) :=
    match result with
    | .ok status => (status, session.console)
    | .error error => (1, session.console ++ [⟨.error, error.message⟩])
  ⟨status, Line.standardOutput lines, Line.standardError colours lines, session.files⟩

/-- A command line makes the process read its standard input. -/
def readsInput (words : List String) : Bool :=
  match Arguments.parse words with
  | .ok arguments => asksForStdin arguments.paths
  | .error _ => false

/-- The process of a command line. -/
def ofWords (surroundings : Surroundings) (files : FileSystem) (input : Content)
    (atTerminal : Bool) (words : List String) : ProcessResult :=
  match Arguments.parse words with
  | .error (.asked .help) => printing files 0 Usage.text
  | .error (.asked .version) => printing files 0 versionText
  | .error (.refused fault) => refusal files fault
  | .ok arguments =>
    -- The command's own name counts as its first argument.
    if wantsUsage (words.length + 1) atTerminal then printing files 1 Usage.text
    else
      let (result, session) :=
        (Invocation.execute surroundings arguments).run.run ⟨files, input, [], none⟩
      ofInvocation surroundings.colours result session

end ProcessResult

end TemplateLint
