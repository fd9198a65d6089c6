import TemplateLint.Proofs.Text.Pieces
import TemplateLint.Rules.Engine

/-!
Comments that turn rules off, as they are written and as they are read back: wherever they stand in
a template, the rules that stay active are those that no comment names, and none if a comment names
no rule.
-/

namespace TemplateLint

/-- What every comment that can turn off rules starts with. -/
def Directive.opening : List Char :=
  ['\x7b', '\x7b', '!']

/-- A name of a rule with the blanks before it, as it stands in a comment. -/
structure ListedName where
  gap : List Char
  name : List Char
  some_gap : gap ≠ []
  blank_gap : ∀ c ∈ gap, isBlank c = true
  some_name : name ≠ []
  whole_name : ∀ c ∈ name, isBlank c = false ∧ c ≠ '\x7d'

/--
A comment that turns off rules, in parts: hyphens that may follow the opening and come before the
closing braces, blanks around the keyword, and names with blanks after the last of them.
-/
structure DisablingComment where
  opensDashed : Bool
  lead : List Char
  listed : List ListedName
  trail : List Char
  closesDashed : Bool
  blank_lead : ∀ c ∈ lead, isBlank c = true
  blank_trail : ∀ c ∈ trail, isBlank c = true
  some_trail : listed ≠ [] → trail ≠ []

/-- A text in which no comment that can turn off rules starts. -/
structure PlainText where
  text : List Char
  plain : ¬ Directive.opening <:+: text

/-- A template as plain text with comments that turn off rules between its parts. -/
inductive CommentedText where
  | text (last : PlainText)
  | commented (before : PlainText) (comment : DisablingComment) (later : CommentedText)

namespace DisablingComment

/-- Two hyphens, where they are written. -/
def dashes (written : Bool) : List Char :=
  if written then ['-', '-'] else []

/-- The names in a comment, each with the blanks before it. -/
def listing (listed : List ListedName) : List Char :=
  listed.flatMap fun item => item.gap ++ item.name

/-- What stands in a comment between its keyword and its closing braces. -/
def arguments (comment : DisablingComment) : List Char :=
  listing comment.listed ++ comment.trail ++ dashes comment.closesDashed

/-- The comment from its opening to its closing braces. -/
def written (comment : DisablingComment) : List Char :=
  Directive.opening ++ dashes comment.opensDashed ++ comment.lead ++ Directive.keyword ++
    comment.arguments ++ ['\x7d', '\x7d']

/-- The names of the rules in the comment. -/
def names (comment : DisablingComment) : List String :=
  comment.listed.map fun item => String.ofList item.name

end DisablingComment

namespace CommentedText

/-- The template that the parts make up. -/
def written : CommentedText → List Char
  | .text last => last.text
  | .commented before comment later => before.text ++ comment.written ++ later.written

/-- The comments of the template. -/
def comments : CommentedText → List DisablingComment
  | .text _ => []
  | .commented _ comment later => comment :: later.comments

end CommentedText

namespace Directive

open DisablingComment

/-- Two hyphens at the end of a text are left out. -/
theorem withoutDashes_append (text : List Char) : withoutDashes (text ++ ['-', '-']) = text := by
  simp [withoutDashes]

/-- A text that does not end with a hyphen stays as it is. -/
theorem withoutDashes_of_getLast? {text : List Char} (ends : ∀ c ∈ text.getLast?, c ≠ '-') :
    withoutDashes text = text := by
  unfold withoutDashes
  split
  -- A reversed text that starts with two hyphens is one that ends with them.
  · rename_i earlier reversed
    obtain rfl : text = earlier.reverse ++ ['-', '-'] := by
      rw [← List.reverse_reverse text, reversed]
      simp
    exact absurd rfl (ends '-' (by simp))
  · rfl

/-- The names of a comment and the blanks behind them start with a blank, if there are any. -/
theorem isBlank_of_mem_head? (listed : List ListedName) {trail : List Char}
    (blank : ∀ c ∈ trail, isBlank c = true) :
    ∀ c ∈ (listing listed ++ trail).head?, isBlank c = true := by
  intro c first
  -- The first name has blanks before it, and without names the blanks behind them come first.
  cases listed with
  | nil => exact blank c (List.mem_of_mem_head? first)
  | cons item later =>
    obtain ⟨b, blanks, gap⟩ := List.exists_cons_of_ne_nil item.some_gap
    obtain rfl : b = c := by simpa [listing, gap] using first
    exact item.blank_gap b (by simp [gap])

/-- The names of a comment are its words. -/
theorem words_listing (listed : List ListedName) {trail : List Char}
    (blank : ∀ c ∈ trail, isBlank c = true) :
    Text.words (listing listed ++ trail) = listed.map ListedName.name := by
  -- Each name is a word of its own, since a blank or the end of the text stands behind it.
  induction listed with
  | nil => simpa [listing, Text.words] using Text.words_append_of_blank blank []
  | cons item later ih =>
    have parts : listing (item :: later) ++ trail =
        item.gap ++ (item.name ++ (listing later ++ trail)) := by
      simp [listing]
    rw [parts, Text.words_append_of_blank item.blank_gap,
      Text.words_append_of_noBlank item.some_name (fun c member => (item.whole_name c member).1)
        (isBlank_of_mem_head? later blank), ih, List.map_cons]

/-- Hyphens before the closing braces are told from names, which a blank ends. -/
theorem withoutDashes_arguments (comment : DisablingComment) (some : comment.trail ≠ []) :
    withoutDashes comment.arguments = listing comment.listed ++ comment.trail := by
  unfold arguments
  -- Without hyphens before the braces the last character is the blank behind the names.
  cases comment.closesDashed with
  | true => exact withoutDashes_append _
  | false =>
    rw [dashes, if_neg Bool.false_ne_true, List.append_nil]
    refine withoutDashes_of_getLast? fun c last => ?_
    obtain rfl : comment.trail.getLast some = c := by
      simpa [List.getLast?_append, List.getLast?_eq_some_getLast some] using last
    intro same
    exact absurd (comment.blank_trail _ (List.getLast_mem some)) (by rw [same]; decide)

/-- What stands between keyword and closing braces of a comment tells the names. -/
theorem ofArguments?_arguments (comment : DisablingComment) :
    ofArguments? comment.arguments = some ⟨comment.names⟩ := by
  by_cases nothing : comment.trail = []
  · -- Without a blank behind the keyword there are no names, and at most hyphens follow.
    have unnamed : comment.listed = [] :=
      Decidable.byContradiction fun some => comment.some_trail some nothing
    simp only [arguments, DisablingComment.names, nothing, unnamed, listing]
    cases comment.closesDashed <;> rfl
  · have trimmed := withoutDashes_arguments comment nothing
    have starts := isBlank_of_mem_head? comment.listed comment.blank_trail
    have words := words_listing comment.listed comment.blank_trail
    -- Something stands behind the keyword, and it starts with a blank.
    cases body : listing comment.listed ++ comment.trail with
    | nil => exact absurd (List.append_eq_nil_iff.mp body).2 nothing
    | cons c more =>
      have blank := starts c (by simp [body])
      have split : comment.arguments = c :: (more ++ dashes comment.closesDashed) := by
        rw [arguments, body, List.cons_append]
      rw [split, ofArguments?]
      rw [← split, trimmed, words]
      simp [blank, DisablingComment.names]

/-- No closing brace stands between the keyword and the closing braces of a comment. -/
theorem not_mem_arguments (comment : DisablingComment) : '\x7d' ∉ comment.arguments := by
  intro inside
  simp only [arguments, listing, List.mem_append, List.mem_flatMap] at inside
  -- Blanks, names and hyphens are all that stands there, and none of them is a brace.
  rcases inside with (⟨item, _, gap | name⟩ | trail) | dash
  · exact absurd (item.blank_gap _ gap) (by decide)
  · exact (item.whole_name _ name).2 rfl
  · exact absurd (comment.blank_trail _ trail) (by decide)
  · revert dash
    cases comment.closesDashed <;> decide

/-- Hyphens that follow the opening of a comment are passed over, and so are blanks. -/
theorem dropWhile_afterDashes (comment : DisablingComment) (rest : List Char) :
    (afterDashes (dashes comment.opensDashed ++ comment.lead ++ keyword ++ rest)).dropWhile
      isBlank = keyword ++ rest := by
  have keeps : (comment.lead ++ keyword ++ rest).dropWhile isBlank = keyword ++ rest := by
    rw [List.append_assoc, List.dropWhile_append_of_pos comment.blank_lead]
    rfl
  cases comment.opensDashed with
  | true => simpa [dashes, afterDashes] using keeps
  | false =>
    -- Neither a blank nor the keyword starts with a hyphen.
    have same : afterDashes (comment.lead ++ keyword ++ rest) =
        comment.lead ++ keyword ++ rest := by
      cases lead : comment.lead with
      | nil => rfl
      | cons c later =>
        have blank := comment.blank_lead c (by simp [lead])
        rw [List.cons_append, List.cons_append, afterDashes]
        intro others same
        obtain ⟨rfl, _⟩ := List.cons.inj same
        exact absurd blank (by decide)
    rw [dashes, if_neg Bool.false_ne_true, List.nil_append, same, keeps]

/-- A comment is read back with its names, and the text behind it is left. -/
theorem read?_written (comment : DisablingComment) (rest : List Char) :
    read? (comment.written ++ rest) = some (⟨comment.names⟩, rest) := by
  have parts : comment.written ++ rest = opening ++
      (dashes comment.opensDashed ++ comment.lead ++ keyword ++
        (comment.arguments ++ '\x7d' :: ('\x7d' :: rest))) := by
    simp [written]
  -- The reader takes off the parts one by one, in the order in which they are written.
  have opened := Text.after?_eq_some_iff.mpr parts
  have key := Text.after?_eq_some_iff.mpr (dropWhile_afterDashes comment
    (comment.arguments ++ '\x7d' :: ('\x7d' :: rest)))
  have cut := Text.cutAt_append (not_mem_arguments comment) ('\x7d' :: rest)
  have closed : Text.after? ['\x7d'] ('\x7d' :: rest) = some rest :=
    Text.after?_eq_some_iff.mpr rfl
  simp only [read?, ← opening.eq_def, opened, key, cut, closed, ofArguments?_arguments,
    Option.bind_eq_bind, Option.bind_some]

/-- Characters that are passed over are not looked at. -/
theorem scan_append (passed rest : List Char) :
    scan passed.length (passed ++ rest) = scan 0 rest := by
  induction passed with
  | nil => rfl
  | cons c later ih => simpa [scan] using ih

/-- Behind a comment the search for comments goes on. -/
theorem scan_written (comment : DisablingComment) (rest : List Char) :
    scan 0 (comment.written ++ rest) = ⟨comment.names⟩ :: scan 0 rest := by
  have read := read?_written comment rest
  obtain ⟨later, starts⟩ : ∃ later, comment.written = '\x7b' :: later := ⟨_, rfl⟩
  rw [starts, List.cons_append] at read ⊢
  rw [scan, read]
  -- The first character is looked at, and as many are passed over as the rest of the comment has.
  have skipped : (later ++ rest).length - rest.length = later.length := by simp
  simp only [skipped, scan_append]

/-- A text that does not start as comments do has no comment at its start. -/
theorem read?_of_not_opening {text : List Char} (differs : ¬ opening <+: text) :
    read? text = none := by
  rw [read?, ← opening.eq_def, Text.after?_eq_none_iff.mpr differs]
  rfl

/-- A comment cannot start in a plain text and go on behind it, where the next comment starts. -/
theorem not_prefix_append {c : Char} {text rest : List Char}
    (plain : ¬ opening <:+: c :: text) (next : rest = [] ∨ opening <+: rest) :
    ¬ opening <+: c :: text ++ rest := by
  rcases next with rfl | ⟨others, rfl⟩
  · rw [List.append_nil]
    exact fun starts => plain starts.isInfix
  · -- A text of fewer than three characters would have to go on like the opening, but starts anew.
    match text with
    | [] => simp [opening]
    | [d] => simp [opening]
    | d :: e :: more =>
      intro starts
      refine plain (List.IsPrefix.isInfix ?_)
      simpa [opening] using starts

/-- No comment is found in plain text that ends or that a comment follows. -/
theorem scan_plain {text rest : List Char} (plain : ¬ opening <:+: text)
    (next : rest = [] ∨ opening <+: rest) : scan 0 (text ++ rest) = scan 0 rest := by
  induction text with
  | nil => rfl
  | cons c later ih =>
    rw [List.cons_append, scan, ← List.cons_append,
      read?_of_not_opening (not_prefix_append plain next)]
    exact ih fun inside => plain (inside.trans (List.suffix_cons c later).isInfix)

/-- The directives of a template are those of its comments, in their order. -/
theorem scan_commented (commented : CommentedText) :
    scan 0 commented.written = commented.comments.map fun comment => ⟨comment.names⟩ := by
  -- Between two comments stands plain text, in which none starts and which none goes back into.
  induction commented with
  | text last =>
    have none := scan_plain last.plain (.inl rfl)
    simpa [CommentedText.written, CommentedText.comments, scan] using none
  | commented before comment later ih =>
    have next : opening <+: comment.written ++ later.written := by
      simp [DisablingComment.written]
    rw [CommentedText.written, List.append_assoc, scan_plain before.plain (.inr next),
      scan_written, ih, CommentedText.comments, List.map_cons]

/-- Hyphens are part of a name when a blank follows them, and a brace may stand before a comment. -/
example :
    all "\x7b\x7b\x7b!--tmplint-disable a-- --\n--\x7d\x7d \x7b\x7b! tmplint-disable--\x7d\x7d" =
      [⟨["a--", "--"]⟩, ⟨[]⟩] := by
  decide

end Directive

namespace RuleSet

/--
The rules that comments leave: all where comments do not count, none if a comment names no rule, and
otherwise those that no comment names.
-/
def spared (set : RuleSet) (comments : List DisablingComment) : List Rule :=
  if set.inlineConfig = false then set.rules
  else if ∃ comment ∈ comments, comment.names = [] then []
  else set.rules.filter fun rule => ∀ comment ∈ comments, rule.id ∉ comment.names

/-- Directives turn off the rules that the comments do not leave. -/
theorem active_eq_spared (set : RuleSet) (commented : CommentedText) :
    set.active (.ofList commented.written) = set.spared commented.comments := by
  have read : Directive.all (.ofList commented.written) =
      commented.comments.map fun comment => ⟨comment.names⟩ := by
    rw [Directive.all, String.toList_ofList, Directive.scan_commented]
  rw [active, spared]
  -- Comments count only if they are asked for; then one without names turns everything off.
  cases set.inlineConfig with
  | false => simp
  | true =>
    rw [if_pos rfl, if_neg (Ne.symm Bool.false_ne_true), read]
    split
    · rename_i unnamed
      obtain ⟨comment, member, none⟩ := unnamed
      refine List.filter_eq_nil_iff.mpr fun rule _ => ?_
      simp only [List.any_map, Bool.not_eq_true', Bool.not_eq_false, List.any_eq_true]
      exact ⟨comment, member, by simp [Directive.disables, none]⟩
    · rename_i named
      refine List.filter_congr fun rule _ => ?_
      have disables : ∀ comment ∈ commented.comments,
          Directive.disables ⟨comment.names⟩ rule.id = decide (rule.id ∈ comment.names) := by
        intro comment member
        have some : comment.names ≠ [] := fun none => named ⟨comment, member, none⟩
        simp [Directive.disables, some]
      rw [Bool.eq_iff_iff]
      simp only [List.any_map, Bool.not_eq_true', List.any_eq_false, decide_eq_true_eq]
      refine forall₂_congr fun comment member => ?_
      rw [Function.comp_apply, disables comment member, decide_eq_true_eq]

/--
In a template of plain text and comments that turn off rules, wherever these stand, the rules that
are tried, those that make replacements and those that are told as settings are the ones that the
comments leave.
-/
theorem uses_spared (set : RuleSet) (commented : CommentedText) (filePath : String) :
    let template : Template := ⟨.ofList commented.written, filePath⟩
    let spared := set.spared commented.comments
    set.verify template = findingsFrom spared filePath 1 (Text.lines commented.written) ∧
      (set.fix template).output = .ofList (spared.foldl Rule.repair commented.written) ∧
      set.settings template = .object [
        ("filePath", .string filePath),
        ("moduleId", .string template.moduleId),
        ("inlineConfig", .bool set.inlineConfig),
        ("rules", .object (spared.map fun rule => (rule.id, rule.toJson)))] := by
  have active := set.active_eq_spared commented
  simp only [verify, findings, fix, repair, settings, active, String.toList_ofList]
  exact ⟨trivial, trivial, trivial⟩

/-- A comment over two lines that names two rules, the second name ending in hyphens. -/
def twoNames : DisablingComment where
  opensDashed := true
  lead := [' ']
  listed := [⟨[' '], "bare".toList, by simp, by simp [isBlank], by simp, by simp [isBlank]⟩,
    ⟨['\n', ' '], "debug--".toList, by simp, by simp [isBlank], by simp, by simp [isBlank]⟩]
  trail := [' ']
  closesDashed := true
  blank_lead := by simp [isBlank]
  blank_trail := by simp [isBlank]
  some_trail := by simp

/-- A template that opens with a brace and a comment, and goes on after it. -/
def bracedComment : CommentedText :=
  .commented ⟨['\x7b'], by decide⟩ twoNames (.text ⟨"\tx\nz".toList, by decide⟩)

/-- A rule that the comment names, one whose id starts a name in it, and one that replaces tabs. -/
def threeRules : RuleSet :=
  ⟨(Rule.ofEntries [("bare", ⟨some "x", none, none, none⟩),
    ("debug", ⟨some "z", some "warn", none, none⟩),
    ("no-tabs", ⟨some "\t", none, none, some " "⟩)]).toOption.getD [], true⟩

/-- Where a comment turns off one of three rules, the two others are tried, applied and told. -/
theorem uses_spared_sample :
    bracedComment.written =
      "\x7b\x7b\x7b!-- tmplint-disable bare\n debug-- --\x7d\x7d\tx\nz".toList ∧
    threeRules.rules.map Rule.id = ["bare", "debug", "no-tabs"] ∧
    (threeRules.verify ⟨.ofList bracedComment.written, "a.hbs"⟩).map
        (fun found => (found.rule, found.line, found.column)) =
      [("no-tabs", 2, 13), ("debug", 3, 0)] ∧
    (threeRules.fix ⟨.ofList bracedComment.written, "a.hbs"⟩).output =
      "\x7b\x7b\x7b!-- tmplint-disable bare\n debug-- --\x7d\x7d x\nz" ∧
    (threeRules.settings ⟨.ofList bracedComment.written, "a.hbs"⟩).field? "rules" =
      some (.object ((threeRules.rules.drop 1).map fun rule => (rule.id, rule.toJson))) := by
  obtain ⟨found, fixed, told⟩ := threeRules.uses_spared bracedComment "a.hbs"
  -- The name that ends in hyphens is not that of the second rule, which therefore stays.
  have left : threeRules.spared bracedComment.comments = threeRules.rules.drop 1 := by
    decide +kernel
  rw [found, fixed, told, left]
  -- What the rules that are left do with the written template is computed.
  refine ⟨?_, ?_, ?_, ?_, rfl⟩ <;> decide +kernel

end RuleSet

end TemplateLint
