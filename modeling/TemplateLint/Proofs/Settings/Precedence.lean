import Mathlib.Data.List.Forall2
import Mathlib.Data.List.Induction
import TemplateLint.Proofs.Document.Dictionary
import TemplateLint.Proofs.Effect
import TemplateLint.Proofs.Text.Pieces
import TemplateLint.Settings.Effective

/-!
Where the settings of a rule come from. A severity given to the rule on the command line counts
before the configuration given there, and that before the configuration file, setting by setting.
-/

namespace TemplateLint

namespace RuleConfig

/-- A rule with nothing set overrides nothing. -/
@[simp] theorem overlay_blank (base : RuleConfig) : base.overlay .blank = base := by
  cases base
  rfl

end RuleConfig

namespace RuleOverride

/-- A text writes a rule and a severity on the two sides of its first colon, neither one blank. -/
def Writes (text : String) (override : RuleOverride) : Prop :=
  ∃ before after, text.toList = before ++ ':' :: after ∧ ':' ∉ before ∧
    override.rule.toList = Text.trim before ∧ override.severity.toList = Text.trim after ∧
    override.rule ≠ "" ∧ override.severity ≠ ""

/-- A text is read as the override that it writes, and as no other. -/
theorem parse_eq_ok_iff {text : String} {override : RuleOverride} :
    parse text = .ok override ↔ Writes text override := by
  have nonblank {side : List Char} {word : String} (same : word.toList = side) :
      word ≠ "" ↔ side ≠ [] := by
    rw [← same, ne_eq, ne_eq, String.toList_eq_nil_iff]
  constructor
  · intro read
    -- The text is cut at its first separator, and neither side may be blank.
    unfold parse at read
    split at read
    · rename_i before after cut
      obtain ⟨whole, first⟩ := Text.cutAt_eq_some cut
      simp only at read
      split at read
      · simp at read
      · rename_i blank
        obtain rfl := Except.ok.inj read
        simp only [Bool.or_eq_true, List.isEmpty_iff, not_or] at blank
        refine ⟨before, after, whole, first, String.toList_ofList, String.toList_ofList, ?_, ?_⟩
        · exact (nonblank String.toList_ofList).mpr blank.1
        · exact (nonblank String.toList_ofList).mpr blank.2
    · simp at read
  · rintro ⟨before, after, whole, first, rule, severity, named, set⟩
    have blank : ¬((Text.trim before).isEmpty || (Text.trim after).isEmpty) = true := by
      simp only [Bool.or_eq_true, List.isEmpty_iff, not_or]
      exact ⟨(nonblank rule).mp named, (nonblank severity).mp set⟩
    simp only [parse, whole, Text.cutAt_append first, if_neg blank]
    rw [← rule, ← severity, String.ofList_toList, String.ofList_toList]

end RuleOverride

namespace Settings

/-- What rules set for one of them, which is nothing if it is not among them. -/
def ruleIn (rules : Dictionary RuleConfig) (id : String) : RuleConfig :=
  (rules.find? id).getD .blank

/-- The rules of a configuration, none if there is none. -/
def rulesOf (config : Option ProjectConfig) : Dictionary RuleConfig :=
  (config.getD .blank).rules

/-- The severity that the last override of a rule gives it. -/
def lastSeverity? (overrides : List RuleOverride) (id : String) : Option String :=
  (overrides.filter (·.rule = id)).getLast?.map (·.severity)

/-- One more override counts for the rule that it names. -/
theorem lastSeverity?_concat (overrides : List RuleOverride) (last : RuleOverride) (id : String) :
    lastSeverity? (overrides ++ [last]) id =
      if id = last.rule then some last.severity else lastSeverity? overrides id := by
  by_cases own : last.rule = id
  · simp [lastSeverity?, own]
  · simp [lastSeverity?, own, Ne.symm own]

/-- A rule among others is found as what they set for it. -/
theorem find?_of_mem_keys {rules : Dictionary RuleConfig} {id : String} (member : id ∈ rules.keys) :
    rules.find? id = some (ruleIn rules id) := by
  obtain ⟨rule, found⟩ := Option.isSome_iff_exists.mp (Dictionary.mem_keys_iff.mp member)
  rw [ruleIn, found, Option.getD_some]

/-- Altering one rule leaves what is set for the others. -/
theorem ruleIn_alter (rules : Dictionary RuleConfig) (id : String)
    (change : Option RuleConfig → RuleConfig) (other : String) :
    ruleIn (rules.alter id change) other =
      if other = id then change (rules.find? id) else ruleIn rules other := by
  rw [ruleIn, Dictionary.find?_alter]
  split
  · rfl
  · rfl

/-- Rules that are laid over others add those that were not there. -/
theorem mem_keys_overlayRules {rules : Dictionary RuleConfig}
    {upper : List (String × RuleConfig)} {id : String} :
    id ∈ (overlayRules rules upper).keys ↔ id ∈ rules.keys ∨ ∃ entry ∈ upper, entry.1 = id := by
  induction upper generalizing rules with
  | nil => simp [overlayRules]
  | cons head later ih =>
    rw [overlayRules, List.foldl_cons]
    refine ih.trans ?_
    rw [Dictionary.mem_keys_alter, List.exists_mem_cons_iff, or_assoc, eq_comm]

/-- Rules that are laid over others override what they set, and leave what they do not. -/
theorem ruleIn_overlayRules {rules : Dictionary RuleConfig} {upper : List (String × RuleConfig)}
    (sorted : upper.Pairwise (·.1 < ·.1)) (id : String) :
    ruleIn (overlayRules rules upper) id =
      (ruleIn rules id).overlay ((upper.lookup id).getD .blank) := by
  induction upper generalizing rules with
  | nil => exact (RuleConfig.overlay_blank _).symm
  | cons head later ih =>
    obtain ⟨first, rule⟩ := head
    obtain ⟨follow, ordered⟩ := List.pairwise_cons.mp sorted
    rw [overlayRules, List.foldl_cons]
    refine (ih ordered).trans ?_
    rw [ruleIn_alter]
    split
    · -- The first rule is laid over its base once: no later one has its name.
      rename_i same
      subst same
      rw [Dictionary.lookup_of_before follow, List.lookup_cons_self, Option.getD_none,
        Option.getD_some, RuleConfig.overlay_blank]
      rfl
    · rename_i apart
      rw [Dictionary.lookup_cons_of_ne apart]

/-- Severities are set one after another, if all texts write them. -/
theorem setSeverities_eq_ok {rules : Dictionary RuleConfig} {texts : List String}
    {overrides : List RuleOverride} (written : List.Forall₂ RuleOverride.Writes texts overrides) :
    setSeverities rules texts = .ok (overrides.foldl setSeverity rules) := by
  induction written generalizing rules with
  | nil => rfl
  | cons writes _ ih =>
    rw [setSeverities, RuleOverride.parse_eq_ok_iff.mpr writes, List.foldl_cons]
    exact ih

/-- Severities are set for rules that were there and for new ones. -/
theorem mem_keys_setSeverity {rules : Dictionary RuleConfig} {overrides : List RuleOverride}
    {id : String} :
    id ∈ (overrides.foldl setSeverity rules).keys ↔
      id ∈ rules.keys ∨ ∃ override ∈ overrides, override.rule = id := by
  induction overrides generalizing rules with
  | nil => simp
  | cons first later ih =>
    rw [List.foldl_cons, ih, setSeverity, Dictionary.mem_keys_alter, List.exists_mem_cons_iff,
      or_assoc, eq_comm]

/-- Of the severities that are set for a rule the last one counts, and nothing else is set. -/
theorem ruleIn_setSeverity (rules : Dictionary RuleConfig) (overrides : List RuleOverride)
    (id : String) :
    ruleIn (overrides.foldl setSeverity rules) id =
      { ruleIn rules id with
        severity := (lastSeverity? overrides id).or (ruleIn rules id).severity } := by
  -- The last override is set last, so the induction takes overrides from the end.
  induction overrides using List.reverseRecOn with
  | nil => rfl
  | append_singleton earlier last ih =>
    rw [List.foldl_concat, setSeverity, ruleIn_alter, lastSeverity?_concat]
    split
    · rename_i same
      subst same
      change { ruleIn (earlier.foldl setSeverity rules) last.rule with
        severity := some last.severity } = _
      rw [ih]
      rfl
    · exact ih

/-- The rules of a project with those of a configuration that is given, if there is one. -/
theorem withInline_eq_ok {rules : Dictionary RuleConfig} {text : Option String}
    {inline : Option ProjectConfig}
    (parsed : Option.Rel (fun text config => ProjectConfig.ofJson? text = .ok config) text inline) :
    withInline rules text = .ok (overlayRules rules (rulesOf inline).entries) := by
  cases parsed with
  | none => rfl
  | some read => simp [withInline, read, rulesOf]

/-- Where all sources can be read, their rules are put together one source after another. -/
theorem effective_rules {files : FileSystem} {workingDir : String} {arguments : Arguments}
    {project inline : Option ProjectConfig} {overrides : List RuleOverride}
    (discovered : ProjectConfig.discover files workingDir arguments.configPath = .ok project)
    (parsed : Option.Rel (fun text config => ProjectConfig.ofJson? text = .ok config)
      arguments.config inline)
    (written : List.Forall₂ RuleOverride.Writes arguments.rules overrides) :
    ∃ settings, effective files workingDir arguments = .ok settings ∧
      settings.rules = overrides.foldl setSeverity
        (overlayRules (rulesOf project) (rulesOf inline).entries) ∧
      settings.overriding = (arguments.config.isSome || !arguments.rules.isEmpty) := by
  rw [effective, discovered]
  simp only [merge, withInline_eq_ok parsed, setSeverities_eq_ok written]
  exact ⟨_, rfl, rfl, rfl⟩

/--
The rules in force are those of the configuration file, of the configuration on the command line and
of the severities given there. Of a rule's severities the last one given by itself counts, then that
of the command line's configuration, then that of the file; its other settings come from the command
line's configuration, then from the file. Giving either kind on the command line overrides the
configuration, whatever it says.
-/
theorem effective_in_precedence {files : FileSystem} {workingDir : String} {arguments : Arguments}
    {project inline : Option ProjectConfig} {overrides : List RuleOverride}
    (discovered : ProjectConfig.discover files workingDir arguments.configPath = .ok project)
    (parsed : Option.Rel (fun text config => ProjectConfig.ofJson? text = .ok config)
      arguments.config inline)
    (written : List.Forall₂ RuleOverride.Writes arguments.rules overrides) :
    ∃ settings, effective files workingDir arguments = .ok settings ∧
      (∀ id, id ∈ settings.rules.keys ↔
        id ∈ (rulesOf project).keys ∨ id ∈ (rulesOf inline).keys ∨
          ∃ override ∈ overrides, override.rule = id) ∧
      (∀ id ∈ settings.rules.keys,
        let lower := ruleIn (rulesOf project) id
        let upper := ruleIn (rulesOf inline) id
        settings.rules.find? id = some {
          pattern := upper.pattern.or lower.pattern
          severity := (lastSeverity? overrides id).or (upper.severity.or lower.severity)
          message := upper.message.or lower.message
          fix := upper.fix.or lower.fix }) ∧
      (settings.overriding = true ↔ arguments.config ≠ none ∨ arguments.rules ≠ []) := by
  obtain ⟨settings, inForce, rules, overriding⟩ := effective_rules discovered parsed written
  refine ⟨settings, inForce, ?_, ?_, ?_⟩
  · intro id
    rw [rules, mem_keys_setSeverity, mem_keys_overlayRules, or_assoc, Dictionary.keys,
      Dictionary.keys, List.mem_map, List.mem_map]
  · -- The severities of the command line are laid over the rules of its configuration, and these
    -- over those of the project.
    intro id member
    rw [find?_of_mem_keys member, rules, ruleIn_setSeverity,
      ruleIn_overlayRules (rulesOf inline).sorted]
    rfl
  · rw [overriding, Bool.or_eq_true, Option.isSome_iff_ne_none, Bool.not_eq_true',
      List.isEmpty_eq_false_iff]

/-- A project with one rule in its configuration file. -/
def sampleProject : FileSystem :=
  ⟨[(["p"], .directory), (["p", "tmplint.toml"],
    .file (.text "[rules.a]\npattern=\"x\"\nseverity=\"off\"\nfix=\"y\"\n") false)]⟩

/-- A configuration that gives the rule a message and another severity, and has a rule of its own. -/
def sampleInline : String :=
  "\x7b\"rules\":\x7b\"a\":\x7b\"message\":\"m\",\"severity\":\"warn\"\x7d," ++
    "\"b\":\x7b\"pattern\":\"z\"\x7d\x7d\x7d"

/-- A command line that gives severities to the rule, twice, and to a third one. -/
def sampleOverrides : Arguments :=
  { Arguments.blank with
    config := some sampleInline
    rules := ["a:off", "c: warn", " a :error"] }

/-- The file's rule has its severity from the last text, and its message from the command line. -/
theorem effective_in_precedence_sample :
    ∃ settings, effective sampleProject "/p" sampleOverrides = .ok settings ∧
      (∀ id, id ∈ settings.rules.keys ↔ id = "a" ∨ id = "b" ∨ id = "c") ∧
      settings.rules.find? "a" = some ⟨some "x", some "error", some "m", some "y"⟩ ∧
      settings.rules.find? "b" = some ⟨some "z", none, none, none⟩ ∧
      settings.rules.find? "c" = some ⟨none, some "warn", none, none⟩ ∧
      settings.overriding = true := by
  -- The two configurations are read by evaluation; what is in force follows from the theorem.
  have filed : (ProjectConfig.discover sampleProject "/p" none).toOption.map
      (fun project => (rulesOf project).entries) =
        some [("a", ⟨some "x", some "off", none, some "y"⟩)] := by
    decide +kernel
  have given : (ProjectConfig.ofJson? sampleInline).toOption.map
      (fun inline => inline.rules.entries) =
        some [("a", ⟨none, some "warn", some "m", none⟩), ("b", ⟨some "z", none, none, none⟩)] := by
    decide +kernel
  obtain ⟨project, found, filed⟩ := Effect.exists_of_toOption_map filed
  obtain ⟨inline, read, given⟩ := Effect.exists_of_toOption_map given
  have discovered : ProjectConfig.discover sampleProject "/p" sampleOverrides.configPath =
      .ok project := found
  have parsed : Option.Rel (fun text config => ProjectConfig.ofJson? text = .ok config)
      sampleOverrides.config (some inline) := .some read
  have written : List.Forall₂ RuleOverride.Writes sampleOverrides.rules
      [⟨"a", "off"⟩, ⟨"c", "warn"⟩, ⟨"a", "error"⟩] :=
    .cons (RuleOverride.parse_eq_ok_iff.mp (by decide +kernel))
      (.cons (RuleOverride.parse_eq_ok_iff.mp (by decide +kernel))
        (.cons (RuleOverride.parse_eq_ok_iff.mp (by decide +kernel)) .nil))
  obtain ⟨settings, inForce, named, set, overriding⟩ :=
    effective_in_precedence discovered parsed written
  have keys : ∀ id, id ∈ settings.rules.keys ↔ id = "a" ∨ id = "b" ∨ id = "c" := by
    intro id
    have lower : (rulesOf project).keys = ["a"] := by simp [Dictionary.keys, filed]
    have upper : (rulesOf (some inline)).keys = ["a", "b"] := by
      simp [Dictionary.keys, rulesOf, given]
    rw [named, lower, upper, ← List.mem_map]
    simp only [List.map_cons, List.map_nil, List.mem_cons, List.not_mem_nil, or_false]
    grind
  have lower : ∀ id, ruleIn (rulesOf project) id =
      ([("a", ⟨some "x", some "off", none, some "y"⟩)].lookup id).getD .blank := by
    intro id
    rw [ruleIn, Dictionary.find?, filed]
  have upper : ∀ id, ruleIn (rulesOf (some inline)) id =
      ([("a", ⟨none, some "warn", some "m", none⟩), ("b", ⟨some "z", none, none, none⟩)].lookup
        id).getD .blank := by
    intro id
    rw [ruleIn, Dictionary.find?]
    exact congrArg (fun entries => (entries.lookup id).getD .blank) given
  refine ⟨settings, inForce, keys, ?_, ?_, ?_, ?_⟩
  · rw [set "a" ((keys "a").mpr (by decide)), lower, upper]
    decide
  · rw [set "b" ((keys "b").mpr (by decide)), lower, upper]
    decide
  · rw [set "c" ((keys "c").mpr (by decide)), lower, upper]
    decide
  · exact overriding.mpr (.inl (by decide))

end Settings

end TemplateLint
