import TemplateLint.Rules.Directive
import TemplateLint.Rules.Rule
import TemplateLint.Session

/-! The engine that tries configured rules on each line of a template. -/

namespace TemplateLint

/-- Rules, and whether comments in a template may turn them off. -/
structure RuleSet where
  rules : List Rule
  inlineConfig : Bool
  deriving Repr, DecidableEq

/-- The name under which the engine makes todos. -/
def engineName : String :=
  "tmplint"

namespace RuleSet

/-- The rules of a project. -/
def ofConfig (rules : Dictionary RuleConfig) (inlineConfig : Bool) : Except LintError RuleSet :=
  (Rule.ofEntries rules.entries).map (⟨·, inlineConfig⟩)

/-- The rules that no comment in a template turns off. -/
def active (set : RuleSet) (source : String) : List Rule :=
  let directives := if set.inlineConfig then Directive.all source else []
  set.rules.filter fun rule => !directives.any (·.disables rule.id)

/-- The findings of rules in lines that are numbered from a first one on. -/
def findingsFrom (rules : List Rule) (filePath : String) : Nat → List (List Char) → List Finding
  | _, [] => []
  | number, line :: later =>
    rules.flatMap (·.lineFindings filePath number line) ++
      findingsFrom rules filePath (number + 1) later

/-- The findings in a text by line, then by rule. -/
def findings (set : RuleSet) (source filePath : String) : List Finding :=
  findingsFrom (set.active source) filePath 1 (Text.lines source.toList)

/-- A text with the replacements of the active rules made, each over the whole text in turn. -/
def repair (set : RuleSet) (source : String) : String :=
  .ofList ((set.active source).foldl Rule.repair source.toList)

/-- The findings in a template. -/
def verify (set : RuleSet) (template : Template) : List Finding :=
  set.findings template.source template.filePath

/-- A template after the replacements, and what is found in it then. -/
def fix (set : RuleSet) (template : Template) : FixOutcome :=
  let output := set.repair template.source
  ⟨output ≠ template.source, output, set.findings output template.filePath⟩

/-- The settings in force for a template. -/
def settings (set : RuleSet) (template : Template) : Json :=
  .object [
    ("filePath", .string template.filePath),
    ("moduleId", .string template.moduleId),
    ("inlineConfig", .bool set.inlineConfig),
    ("rules", .object ((set.active template.source).map fun rule => (rule.id, rule.toJson)))]

/-- The engine of rules, which keeps its todos in a store and reads that store once. -/
def engine (set : RuleSet) (store : TodoStore) (today : Date) : Engine (Option (List Todo)) where
  verify template := pure (set.verify template)
  fix template := pure (set.fix template)
  settings template := pure (set.settings template)
  updateTodos template findings decay overriding :=
    Session.withTodos (store.update template.filePath findings decay overriding today)
  processTodos template findings _ cleanup overriding :=
    Session.withTodos (store.process template.filePath findings cleanup overriding today)

end RuleSet

end TemplateLint
