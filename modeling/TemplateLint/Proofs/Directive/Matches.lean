import TemplateLint.Proofs.Directive.Progress
import TemplateLint.Proofs.Regex.Reading

/-!
Reading directives in a template is finding the matches of their regular expression, with the names
in its group.
-/

namespace TemplateLint

namespace Directive

open Regex

variable {whole : List Char}

/-- The directive whose keyword a text follows, and the text after its closing braces. -/
def argumentsOf? (text : List Char) : Option (Directive × List Char) := do
  let (arguments, rest) ← Text.cutAt '\x7d' text
  let rest ← Text.after? ['\x7d'] rest
  some (← ofArguments? arguments, rest)

/-- The directive whose keyword follows blanks, and the text after its closing braces. -/
def keywordOf? (text : List Char) : Option (Directive × List Char) :=
  (Text.after? keyword (text.dropWhile isBlank)).bind argumentsOf?

/-- A directive is read up to its keyword first, and then up to its closing braces. -/
theorem read?_eq : read? = fun text =>
    (Text.after? opening text).bind fun inner => keywordOf? (afterDashes inner) :=
  rfl

/-- A character that is no closing brace belongs to what stands before the closing braces. -/
theorem argumentsOf?_cons {c : Char} (noBrace : c ≠ '\x7d') (text : List Char) :
    argumentsOf? (c :: text) = (Text.cutAt '\x7d' text).bind fun cut =>
      (Text.after? ['\x7d'] cut.2).bind fun rest =>
        (ofArguments? (c :: cut.1)).map fun directive => (directive, rest) := by
  rw [argumentsOf?, Text.cutAt, if_neg noBrace]
  cases Text.cutAt '\x7d' text with
  | none => rfl
  | some cut => simp [Option.map_eq_bind]

/-- Behind a blank any words are names. -/
theorem argumentsOf?_blank {c : Char} (blank : isBlank c = true) (text : List Char) :
    argumentsOf? (c :: text) = (Text.cutAt '\x7d' text).bind fun cut =>
      (Text.after? ['\x7d'] cut.2).map fun rest =>
        (⟨(Text.words (withoutDashes ([c] ++ cut.1))).map String.ofList⟩, rest) := by
  rw [argumentsOf?_cons (ne_of_isBlank blank (by decide))]
  simp only [ofArguments?, blank, if_true, Option.map_eq_bind, List.singleton_append]
  rfl

/-- Without a blank nothing but two hyphens stands before the closing braces. -/
theorem argumentsOf?_eq_none {c : Char} {text : List Char} (noBrace : c ≠ '\x7d')
    (noBlank : isBlank c = false) (other : ¬ ['-', '-', '\x7d'] <+: c :: text) :
    argumentsOf? (c :: text) = none := by
  rw [argumentsOf?_cons noBrace]
  cases cut : Text.cutAt '\x7d' text with
  | none => rfl
  | some parts =>
    obtain ⟨before, after⟩ := parts
    obtain ⟨rfl, _⟩ := Text.cutAt_eq_some cut
    -- If only two hyphens stood before the brace, the text would start with them and the brace.
    have differ : c :: before ≠ ['-', '-'] := by
      intro same
      exact other ⟨after, by rw [← List.cons_append, same]; rfl⟩
    have none : ofArguments? (c :: before) = none := by
      rw [ofArguments?, noBlank, if_neg Bool.false_ne_true, if_neg differ]
    simp [none]

/-- Where nothing is named the closing braces follow. -/
theorem argumentsOf?_closed (arguments : List Char) (noBrace : '\x7d' ∉ arguments)
    (empty : ofArguments? arguments = some ⟨[]⟩) (text : List Char) :
    argumentsOf? (arguments ++ '\x7d' :: text) =
      (Text.after? ['\x7d'] text).map fun rest => (⟨[]⟩, rest) := by
  rw [argumentsOf?, Text.cutAt_append noBrace]
  simp [empty, Option.map_eq_bind]

/-- Without a blank behind the keyword two hyphens may follow. -/
theorem tells_dashes : Tells whole [⟨39, []⟩] fun text => argumentsOf? ('-' :: text) := by
  have nothing : ∀ c text, ¬ ['-', '-', '\x7d'] <+: '-' :: c :: text →
      argumentsOf? ('-' :: c :: text) = none :=
    fun c text other => argumentsOf?_eq_none (by decide) (by decide) other
  -- Behind the second hyphen a closing brace has to come.
  have second : Tells whole [⟨40, []⟩] fun text => argumentsOf? ('-' :: '-' :: text) := by
    refine tells_of_steps [⟨41, []⟩] (fun _ => rfl) (by decide) rfl fun c => ?_
    by_cases brace : c = '\x7d'
    · subst brace
      have closed : (fun rest => argumentsOf? ('-' :: '-' :: '\x7d' :: rest)) = _ :=
        funext (argumentsOf?_closed ['-', '-'] (by decide) rfl)
      rw [closed]
      exact tells_closing whole []
    · have none : (fun rest => argumentsOf? ('-' :: '-' :: c :: rest)) = fun _ => none := by
        funext rest
        exact nothing _ _ (by simp [Ne.symm brace])
      simpa [advance, brace, none] using tells_nil
  refine tells_of_steps [⟨39, []⟩] (fun _ => rfl) (by decide) rfl fun c => ?_
  by_cases hyphen : c = '-'
  · subst hyphen
    exact second
  · have none : (fun rest => argumentsOf? ('-' :: c :: rest)) = fun _ => none := by
      funext rest
      exact nothing _ _ (by simp [Ne.symm hyphen])
    simpa [advance, hyphen, none] using tells_nil

/-- Behind the keyword the threads find what is read up to the closing braces. -/
theorem tells_arguments : Tells whole [⟨25, []⟩] argumentsOf? := by
  intro index previous text split
  -- Behind the keyword the program waits for a blank before the names, a blank behind them, a
  -- hyphen or a brace.
  have settled : ∀ place, regex.program.waiting place [⟨25, []⟩] =
      [⟨26, []⟩, ⟨35, []⟩, ⟨38, []⟩, ⟨41, []⟩] := fun _ => rfl
  have goesOn : ∀ thread ∈ [Thread.mk 26 [], ⟨35, []⟩, ⟨38, []⟩, ⟨41, []⟩],
      regex.program.accepts thread = false := by
    decide
  cases text with
  | nil =>
    rw [Program.longest_end (settled _) goesOn]
    rfl
  | cons c rest =>
    have behind := drop_succ split
    rw [Program.longest_cons rest (settled _) goesOn]
    cases blank : isBlank c with
    | true =>
      -- Behind a blank the search goes on as long as no brace comes, which is followed by what has
      -- been read.
      have differs : c ≠ '\x7d' ∧ c ≠ '-' :=
        ⟨ne_of_isBlank blank (by decide), ne_of_isBlank blank (by decide)⟩
      have threads : [Thread.mk 26 [], ⟨35, []⟩, ⟨38, []⟩, ⟨41, []⟩].filterMap
          (regex.program.advance? c) = [⟨27, []⟩, ⟨36, []⟩] := by
        simp [advance, blank, differs]
      have within : index < whole.length := by
        refine Nat.lt_of_not_le fun beyond => ?_
        rw [List.drop_eq_nil_of_le beyond] at split
        exact List.cons_ne_nil c rest split.symm
      have before : (whole.take index).length = index :=
        List.length_take_of_le (Nat.le_of_lt within)
      rw [threads, argumentsOf?_blank blank]
      have sound : (Progress.blanks [c]).Sound := by simpa [Progress.Sound] using blank
      refine Progress.told_arguments (whole.take index) sound ?_ ?_ ?_
      · rw [Progress.text, List.append_assoc, List.singleton_append, ← split, List.take_append_drop]
      · rw [Progress.text, List.length_append, before, List.length_singleton]
      · intro next
        rw [before]
        rfl
    | false =>
      -- Without a blank there are no names: hyphens or the braces follow, or nothing is found.
      by_cases hyphen : c = '-'
      · subst hyphen
        exact tells_dashes _ _ _ behind
      · by_cases brace : c = '\x7d'
        · subst brace
          exact (tells_closing whole [] _ _ _ behind).trans
            (argumentsOf?_closed [] List.not_mem_nil rfl rest).symm
        · rw [argumentsOf?_eq_none brace blank (by simp [Ne.symm hyphen])]
          have none : [Thread.mk 26 [], ⟨35, []⟩, ⟨38, []⟩, ⟨41, []⟩].filterMap
              (regex.program.advance? c) = [] := by
            simp [advance, blank, hyphen, brace]
          rw [none, Program.longest_nil]
          rfl

/-- Where the program waits before the keyword, and what it goes on with. -/
theorem advance_lead (c : Char) :
    regex.program.advance? c ⟨4, []⟩ = (if c = '-' then some ⟨5, []⟩ else none) ∧
      regex.program.advance? c ⟨8, []⟩ = (if isBlank c then some ⟨9, []⟩ else none) ∧
      regex.program.advance? c ⟨10, []⟩ = (if c = 't' then some ⟨11, []⟩ else none) := by
  have reads : regex.program[4]? = some (.read (.single '-') 5) ∧
      regex.program[8]? = some (.read Unicode.blanks 9) ∧
      regex.program[10]? = some (.read (.single 't') 11) := ⟨rfl, rfl, rfl⟩
  simp [Program.advance?, reads, contains_single, contains_blanks]

/-- Behind its first letter the rest of the keyword is read. -/
theorem tells_keyword : Tells whole [⟨11, []⟩] fun text =>
    (Text.after? keyword ('t' :: text)).bind argumentsOf? :=
  tells_word 11 keyword.tail tells_arguments (by decide)

/-- A text that starts with another letter does not start with the keyword. -/
theorem after?_keyword {c : Char} (other : c ≠ 't') (text : List Char) :
    Text.after? keyword (c :: text) = none := by
  rw [Text.after?_eq_none_iff]
  rintro ⟨rest, same⟩
  exact other (List.cons.inj same).1.symm

/-- Before the keyword the program waits for a blank or for the first letter. -/
theorem settle_lead (place : Regex.Place) :
    regex.program.waiting place [⟨9, []⟩] = [⟨8, []⟩, ⟨10, []⟩] :=
  rfl

/-- Before the keyword no match ends. -/
theorem goesOn_lead : ∀ thread ∈ [Thread.mk 8 [], ⟨10, []⟩],
    regex.program.accepts thread = false := by
  decide

/-- Blanks before the keyword are passed over. -/
theorem tells_lead : Tells whole [⟨9, []⟩] keywordOf? := by
  intro index previous text split
  -- The induction is on the text, of which the program passes over one blank after the other.
  induction text generalizing index previous with
  | nil =>
    rw [Program.longest_end (settle_lead _) goesOn_lead]
    rfl
  | cons c rest ih =>
    have behind := drop_succ split
    rw [Program.longest_cons rest (settle_lead _) goesOn_lead, keywordOf?]
    cases blank : isBlank c with
    | true =>
      have other : c ≠ 't' := ne_of_isBlank blank (by decide)
      have threads : [Thread.mk 8 [], ⟨10, []⟩].filterMap (regex.program.advance? c) =
          [⟨9, []⟩] := by
        simp [advance_lead, blank, other]
      rw [threads, List.dropWhile_cons_of_pos blank]
      exact ih (index + 1) (some c) behind
    | false =>
      rw [List.dropWhile_cons_of_neg (by simp [blank])]
      by_cases first : c = 't'
      · subst first
        exact tells_keyword (index + 1) (some 't') rest behind
      · have threads : [Thread.mk 8 [], ⟨10, []⟩].filterMap (regex.program.advance? c) = [] := by
          simp [advance_lead, blank, first]
        rw [threads, after?_keyword first]
        exact tells_nil (index + 1) (some c) rest behind

/-- Only two hyphens together are passed over. -/
theorem afterDashes_eq_self {text : List Char} (other : ¬ ['-', '-'] <+: text) :
    afterDashes text = text := by
  unfold afterDashes
  split
  · exact absurd ⟨_, rfl⟩ other
  · rfl

/-- Behind the opening two hyphens may follow, and blanks before the keyword. -/
theorem tells_start : Tells whole [⟨3, []⟩] fun inner => keywordOf? (afterDashes inner) := by
  intro index previous text split
  have settled : ∀ place, regex.program.waiting place [⟨3, []⟩] =
      [⟨4, []⟩, ⟨8, []⟩, ⟨10, []⟩] := fun _ => rfl
  have goesOn : ∀ thread ∈ [Thread.mk 4 [], ⟨8, []⟩, ⟨10, []⟩],
      regex.program.accepts thread = false := by
    decide
  cases text with
  | nil =>
    rw [Program.longest_end (settled _) goesOn]
    rfl
  | cons c rest =>
    rw [Program.longest_cons rest (settled _) goesOn]
    change _ = keywordOf? (afterDashes (c :: rest))
    -- Without hyphens the threads that would read them end, and the others are those that pass over
    -- blanks.
    by_cases hyphen : c = '-'
    · subst hyphen
      have second : Tells whole [⟨6, []⟩] keywordOf? := tells_lead.congr fun _ => rfl
      refine (second.letter 5 rfl (index + 1) (some '-') rest (drop_succ split)).trans ?_
      -- One hyphen alone is neither passed over nor the start of the keyword.
      by_cases dashes : ['-'] <+: rest
      · obtain ⟨later, rfl⟩ := dashes
        rfl
      · have unread : keywordOf? ('-' :: rest) = none := by
          rw [keywordOf?, List.dropWhile_cons_of_neg (by decide), after?_keyword (by decide)]
          rfl
        rw [afterDashes_eq_self (by simpa using dashes), unread]
        exact Option.bind_eq_none_iff.mpr (by simp [Text.after?_eq_none_iff.mpr dashes])
    · have same : [Thread.mk 4 [], ⟨8, []⟩, ⟨10, []⟩].filterMap (regex.program.advance? c) =
          [Thread.mk 8 [], ⟨10, []⟩].filterMap (regex.program.advance? c) := by
        simp [advance_lead, hyphen]
      rw [same, afterDashes_eq_self (by simp [Ne.symm hyphen]),
        ← Program.longest_cons rest (settle_lead ⟨index, previous, some c⟩) goesOn_lead]
      exact tells_lead index previous (c :: rest) split

/-- From its first point the program finds what is read as a directive. -/
theorem tells_read? : Tells whole [⟨0, []⟩] read? := by
  rw [read?_eq]
  exact tells_word 0 opening tells_start (by decide)

/-- What is behind a directive is shorter than the text that starts with it. -/
theorem length_lt_of_read? {text after : List Char} {directive : Directive}
    (read : read? text = some (directive, after)) : after.length < text.length := by
  simp only [read?_eq, keywordOf?, argumentsOf?, Option.bind_eq_bind, Option.bind_eq_some_iff,
    Text.after?_eq_some_iff, Option.some.injEq, Prod.mk.injEq] at read
  obtain ⟨inner, opened, behind, key, ⟨arguments, rest⟩, cut, later, closed, _, _, _, rfl⟩ := read
  -- No step of the reader makes the text longer, and the opening makes it shorter.
  have passed := (List.dropWhile_suffix isBlank (l := afterDashes inner)).length_le
  have dashes : (afterDashes inner).length ≤ inner.length := by
    unfold afterDashes
    split
    · simp only [List.length_cons]
      omega
    · exact Nat.le_refl _
  have cutLength := congrArg List.length (Text.cutAt_eq_some cut).1
  have keyLength := congrArg List.length key
  have innerLength := congrArg List.length opened
  have restLength := congrArg List.length closed
  simp only [List.length_append, List.length_cons, opening] at *
  omega

/-- At any place the program finds the directive that is read there. -/
theorem map_matchAt? {index : Nat} {text : List Char} (split : whole.drop index = text)
    (previous : Option Char) :
    (regex.program.matchAt? index previous text).map (fun found =>
      (ofMatch whole found, whole.drop found.stop)) = read? text := by
  rw [← tells_read? index previous text split, Program.matchAt?, Option.map_map]
  rfl

/-- From any place on the matches of the program tell the directives that are read from there on. -/
theorem map_matchesFrom {index : Nat} {text : List Char} (split : whole.drop index = text)
    (previous : Option Char) (skipped : Nat) (stopped : Option Nat) :
    (regex.program.matchesFrom index previous skipped stopped text).map (ofMatch whole) =
      scan skipped text := by
  -- Both searches go through the text character by character, and the numbers of characters that
  -- they still pass over agree.
  induction text generalizing index skipped previous stopped with
  | nil =>
    cases skipped with
    | succ skipped => rfl
    | zero =>
      have none : regex.program.matchAt? index previous [] = none :=
        Option.map_eq_none_iff.mp (map_matchAt? split previous)
      simp [Program.matchesFrom, none, scan]
  | cons c rest ih =>
    have behind := drop_succ split
    cases skipped with
    | succ skipped => exact ih behind (some c) skipped stopped
    | zero =>
      have read := map_matchAt? split previous
      cases found : regex.program.matchAt? index previous (c :: rest) with
      | none =>
        rw [found] at read
        have goesOn := ih behind (some c) 0 stopped
        simpa [Program.matchesFrom, found, scan, ← read] using goesOn
      | some own =>
        rw [found, Option.map_some] at read
        -- A match is never empty, so it is kept, and the search goes on behind it, where the reader
        -- does.
        have shorter := length_lt_of_read? read.symm
        have bounds := Program.bounds_of_matchAt? found
        have sizes := congrArg List.length split
        simp only [List.length_drop, List.length_cons] at shorter bounds sizes
        have passed : own.stop - index - 1 = rest.length - (whole.drop own.stop).length := by
          rw [List.length_drop]
          omega
        have goesOn := ih behind (some c) (own.stop - index - 1) (some own.stop)
        have kept : own.stop ≠ index := by omega
        rw [scan, ← read]
        dsimp only
        rw [← passed, ← goesOn, Program.matchesFrom.eq_def]
        simp [found, kept, Option.filter]

/--
The directives of a template are what the matches of the regular expression tell, from the first to
the last: the words of its group are the names.
-/
theorem all_eq_matches (source : String) :
    ∃ regex, Regex.ofString? pattern = some regex ∧
      all source = (regex.matchesOf source.toList).map fun found =>
        ⟨(Text.words (found.groupText source.toList 1)).map String.ofList⟩ := by
  have same : (regex.matchesOf source.toList).map (ofMatch source.toList) = all source :=
    map_matchesFrom List.drop_zero none 0 none
  exact ⟨regex, ofString?_pattern, same.symm⟩

end Directive

end TemplateLint
