import TemplateLint.Arguments.Clause

/-! What the command tells about itself. -/

namespace TemplateLint

/-- The name of the command with its version. -/
def versionText : String :=
  "tmplint 0.1.0\n"

namespace Usage

/-- How the command is called. -/
def synopsis : String :=
  "Usage: tmplint [OPTIONS] [PATHS]..."

/-- Each option as it is written, and what it is for. -/
def options : List (String × String) :=
  [("    --config-path <CONFIG_PATH>",
      "Project config file (default: tmplint.toml|yaml|yml in the working directory)"),
    ("    --config <CONFIG>", "Inline JSON config merged over the project config"),
    ("    --rule <RULE>", "Override a rule severity: <rule>:<severity>"),
    ("    --filename <FILENAME>", "File name used for standard input"),
    ("    --fix", "Write fixes back to files"),
    ("    --format <FORMAT>", "Output format: pretty|json|multi|<external> (default: pretty)"),
    ("    --output-file <OUTPUT_FILE>", "Write formatter output to this file"),
    ("    --quiet", "Report errors only"),
    ("    --verbose", "Print source for each finding and debug logs"),
    ("    --update-todo", "Convert current errors into todos"),
    ("    --include-todo", "Include todo findings in the output"),
    ("    --clean-todo", "Remove todos that no longer match a finding"),
    ("    --compact-todo", "Compact the todo storage file and exit"),
    ("    --todo-days-to-warn <TODO_DAYS_TO_WARN>",
      "Days until new todos decay to warnings (requires --update-todo)"),
    ("    --todo-days-to-error <TODO_DAYS_TO_ERROR>",
      "Days until new todos decay to errors (requires --update-todo)"),
    ("    --ignore-pattern <IGNORE_PATTERN>", "Glob of files to ignore (repeatable)"),
    ("    --no-ignore-pattern", "Disable ignore patterns and gitignore"),
    ("    --no-inline-config", "Ignore tmplint-disable comments in templates"),
    ("    --print-config", "Print the effective config for a single file"),
    ("    --max-warnings <MAX_WARNINGS>", "Fail when the warning count exceeds this number"),
    ("    --working-directory <WORKING_DIRECTORY>", "Working directory (default: current dir)"),
    ("-h, --help", "Print help"),
    ("-V, --version", "Print version")]

/-- Calls that show what the command is for. -/
def examples : List String :=
  ["tmplint app/templates",
    "tmplint \"app/**/*.hbs\" --format json --output-file report.json",
    "cat a.hbs | tmplint --filename app/a.hbs",
    "tmplint . --update-todo --todo-days-to-warn 30 --todo-days-to-error 60"]

/-- Lines, each indented by two blanks more than its section. -/
def indented (lines : List String) : List String :=
  lines.map ("  " ++ ·)

/-- The whole usage, line by line. -/
def lines : List String :=
  ["tmplint — lint Handlebars templates (.hbs, .handlebars) with configurable pattern rules " ++
      "and a todo workflow for pre-existing findings.", "",
    "Configuration precedence: CLI > tmplint.toml > defaults.", "", synopsis, "", "Arguments:"] ++
  indented ["[PATHS]...",
    "        Files, directories or globs to lint; `-` or none reads standard input"] ++
  ["", "Options:"] ++
  indented (options.flatMap fun (option, purpose) => [option, "        " ++ purpose]) ++
  ["", "Examples:"] ++ indented examples

/-- The whole usage as it is printed. -/
def text : String :=
  String.join (lines.map (· ++ "\n"))

end Usage

namespace ArgumentFault

/-- The wording of a refused command line. -/
def message : ArgumentFault → String
  | .unknownOption => "unexpected argument found"
  | .missingValue => "a value is required for an option but none was supplied"
  | .unwantedValue => "unexpected value for an option that takes none"
  | .badValue => "invalid value for an option"
  | .repeated => "an option cannot be used multiple times"

end ArgumentFault

end TemplateLint
