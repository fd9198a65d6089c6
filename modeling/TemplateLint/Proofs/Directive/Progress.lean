import TemplateLint.Proofs.Directive.Expression
import TemplateLint.Proofs.Rules.Directive

/-!
Threads of the program of directives behind the keyword. What they find up to the closing braces is
what is read there.
-/

namespace TemplateLint

namespace Directive

open Regex

/-- The directive that a match in a text tells: the words of its group are the names. -/
def ofMatch (whole : List Char) (found : Match) : Directive :=
  ⟨(Text.words (found.groupText whole 1)).map String.ofList⟩

/-- What has been found in a text as a directive and the text behind it. -/
def told (whole : List Char) (found : Option (Nat × Marks)) : Option (Directive × List Char) :=
  found.map fun found => (ofMatch whole ⟨0, found.1, found.2⟩, whole.drop found.1)

/-- Behind one more character is what follows it. -/
theorem drop_succ {whole rest : List Char} {c : Char} {index : Nat}
    (split : whole.drop index = c :: rest) : whole.drop (index + 1) = rest := by
  rw [← List.tail_drop, split, List.tail_cons]

/-- A blank is no other character. -/
theorem ne_of_isBlank {c other : Char} (blank : isBlank c = true)
    (noBlank : isBlank other = false) : c ≠ other := by
  rintro rfl
  simp [blank] at noBlank

/-- From wherever threads start in a text, what they find is what a reader makes of the rest. -/
def Tells (whole : List Char) (threads : List Thread)
    (reader : List Char → Option (Directive × List Char)) : Prop :=
  ∀ index previous text, whole.drop index = text →
    told whole (regex.program.longest index previous threads none text) = reader text

variable {whole : List Char}

/-- Threads tell what other threads tell that end up waiting as they do. -/
theorem Tells.congr {threads others : List Thread}
    {reader : List Char → Option (Directive × List Char)} (tells : Tells whole others reader)
    (same : ∀ place, regex.program.waiting place threads = regex.program.waiting place others) :
    Tells whole threads reader := by
  intro index previous text rest
  -- A search looks at threads only by how they end up waiting.
  rw [Program.longest_congr (fun next => same ⟨index, previous, next⟩)]
  exact tells index previous text rest

/-- Without threads nothing is told. -/
theorem tells_nil : Tells whole [] fun _ => none := by
  intro index previous text _
  rw [Program.longest_nil]
  rfl

/-- Threads that wait tell what is told by those that go on with the next character. -/
theorem tells_of_steps {threads : List Thread} (settled : List Thread)
    {reader : List Char → Option (Directive × List Char)}
    (own : ∀ place, regex.program.waiting place threads = settled)
    (goesOn : ∀ thread ∈ settled, regex.program.accepts thread = false) (atEnd : reader [] = none)
    (steps : ∀ c, Tells whole (settled.filterMap (regex.program.advance? c))
      fun rest => reader (c :: rest)) : Tells whole threads reader := by
  intro index previous text split
  -- None of the threads accepts, so nothing is found at the end and at a character only the next
  -- step counts.
  cases text with
  | nil =>
    rw [Program.longest_end (own _) goesOn, atEnd]
    rfl
  | cons c rest =>
    rw [Program.longest_cons rest (own _) goesOn]
    exact steps c (index + 1) (some c) rest (drop_succ split)

/-- A thread that reads one character goes on behind that character. -/
theorem Tells.letter {next : Nat} {own : Char} {marks : Marks}
    {reader : List Char → Option (Directive × List Char)}
    (tells : Tells whole [⟨next, marks⟩] reader) (point : Nat)
    (stands : regex.program[point]? = some (.read (.single own) next)) :
    Tells whole [⟨point, marks⟩] fun text => (Text.after? [own] text).bind reader := by
  refine tells_of_steps [⟨point, marks⟩] ?_ ?_ rfl fun c => ?_
  · intro place
    simp [Program.waiting, Program.settle, stands, Program.waits]
  · simp [Program.accepts, stands]
  -- With its own character the thread stands at the next point, and with any other no thread is
  -- left.
  · by_cases same : own = c
    · simpa [Program.advance?, stands, contains_single, Text.after?, same] using tells
    · simpa [Program.advance?, stands, contains_single, Text.after?, same, Ne.symm same] using
        tells_nil

/-- A thread that reads a word goes on behind the word. -/
theorem tells_word (point : Nat) (own : List Char) {marks : Marks}
    {reader : List Char → Option (Directive × List Char)}
    (tells : Tells whole [⟨point + own.length, marks⟩] reader)
    (stands : ∀ place < own.length, regex.program[point + place]? =
      own[place]?.map fun c => .read (.single c) (point + place + 1)) :
    Tells whole [⟨point, marks⟩] fun text => (Text.after? own text).bind reader := by
  -- The induction is on the word: its first letter leads to the point where the rest of it is read.
  induction own generalizing point with
  | nil => simpa [Text.after?] using tells
  | cons c later ih =>
    have rest : Tells whole [⟨point + 1, marks⟩] fun text =>
        (Text.after? later text).bind reader := by
      refine ih (point + 1) ?_ fun place inside => ?_
      · rwa [Nat.add_assoc, Nat.add_comm 1, ← List.length_cons]
      · rw [Nat.add_assoc point, Nat.add_comm 1]
        exact stands (place + 1) (Nat.succ_lt_succ inside)
    have parts : (fun text => (Text.after? (c :: later) text).bind reader) = fun text =>
        (Text.after? [c] text).bind fun rest => (Text.after? later rest).bind reader := by
      funext text
      rw [Text.after?_cons, Option.bind_assoc]
    rw [parts]
    exact rest.letter point (stands 0 (Nat.succ_pos _))

/-- Where the program accepts the directive is complete. -/
theorem tells_accept (whole : List Char) (marks : Marks) :
    Tells whole [⟨43, marks⟩] fun text => some (ofMatch whole ⟨0, 0, marks⟩, text) := by
  intro index previous text rest
  have settled : ∀ place, regex.program.waiting place [⟨43, marks⟩] = [⟨43, marks⟩] :=
    fun _ => rfl
  have accepts : regex.program.accepts ⟨43, marks⟩ = true := rfl
  -- No thread goes on from here, so the match ends where it is.
  have found : regex.program.longest index previous [⟨43, marks⟩] none text =
      some (index, marks) := by
    cases text <;> simp [Program.longest, settled, accepts]
  rw [found, told, Option.map_some, rest]
  rfl

/-- Behind a closing brace only another one is read. -/
theorem tells_closing (whole : List Char) (marks : Marks) :
    Tells whole [⟨42, marks⟩] fun text =>
      (Text.after? ['\x7d'] text).map fun rest => (ofMatch whole ⟨0, 0, marks⟩, rest) := by
  have closed := (tells_accept whole marks).letter 42 rfl
  simpa only [Option.map_eq_bind, Function.comp_def] using closed

/-- Where the program waits behind the keyword, and what it goes on with. -/
theorem advance (c : Char) (marks : Marks) :
    regex.program.advance? c ⟨26, marks⟩ = (if isBlank c then some ⟨27, marks⟩ else none) ∧
      regex.program.advance? c ⟨30, marks⟩ = (if c = '\x7d' then none else some ⟨31, marks⟩) ∧
      regex.program.advance? c ⟨35, marks⟩ = (if isBlank c then some ⟨36, marks⟩ else none) ∧
      regex.program.advance? c ⟨38, marks⟩ = (if c = '-' then some ⟨39, marks⟩ else none) ∧
      regex.program.advance? c ⟨39, marks⟩ = (if c = '-' then some ⟨40, marks⟩ else none) ∧
      regex.program.advance? c ⟨41, marks⟩ = (if c = '\x7d' then some ⟨42, marks⟩ else none) := by
  have reads : regex.program[26]? = some (.read Unicode.blanks 27) ∧
      regex.program[30]? = some (.read (.complement (.single '\x7d')) 31) ∧
      regex.program[35]? = some (.read Unicode.blanks 36) ∧
      regex.program[38]? = some (.read (.single '-') 39) ∧
      regex.program[39]? = some (.read (.single '-') 40) ∧
      regex.program[41]? = some (.read (.single '\x7d') 42) := ⟨rfl, rfl, rfl, rfl, rfl, rfl⟩
  simp [Program.advance?, reads, contains_single, contains_blanks, contains_others]

/-- A character is a blank, a hyphen, or neither. -/
theorem blank_or_hyphen (c : Char) :
    (isBlank c = true ∧ c ≠ '-') ∨ (isBlank c = false ∧ c = '-') ∨ isBlank c = false ∧ c ≠ '-' := by
  -- A hyphen is no blank.
  by_cases hyphen : c = '-'
  · subst hyphen
    exact .inr (.inl ⟨by decide, rfl⟩)
  · cases blank : isBlank c
    · exact .inr (.inr ⟨rfl, hyphen⟩)
    · exact .inl ⟨rfl, hyphen⟩

/-- A text of blanks does not end with a hyphen. -/
theorem getLast?_ne_hyphen {blanks : List Char} (blank : ∀ c ∈ blanks, isBlank c = true) :
    ∀ c ∈ blanks.getLast?, c ≠ '-' := by
  intro c last
  exact ne_of_isBlank (blank c (List.mem_of_getLast? last)) (by decide)

/-- A single hyphen at the end of a text is not left out. -/
theorem withoutDashes_hyphen {text : List Char} (ends : ∀ c ∈ text.getLast?, c ≠ '-') :
    withoutDashes (text ++ ['-']) = text ++ ['-'] := by
  unfold withoutDashes
  split
  -- If two hyphens were at the end, the one before the last would be at the end of the text itself.
  · rename_i earlier reversed
    have first : text.reverse.head? = some '-' := by
      have inner := (List.cons.inj (List.reverse_append.symm.trans reversed)).2
      simpa using congrArg List.head? inner
    rw [List.head?_reverse] at first
    exact absurd rfl (ends '-' first)
  · rfl

/--
What has been read between keyword and closing braces that starts with a blank: blanks, what the
group holds if the braces follow, and blanks and up to two hyphens behind it.
-/
inductive Progress where
  | blanks (lead : List Char)
  | names (lead core trail : List Char)
  | hyphen (lead core trail : List Char)
  | hyphens (lead core trail : List Char)

namespace Progress

/-- The text that has been read. -/
def text : Progress → List Char
  -- The parts stand in the order in which they were read.
  | .blanks lead => lead
  | .names lead core trail => lead ++ core ++ trail
  | .hyphen lead core trail => lead ++ core ++ trail ++ ['-']
  | .hyphens lead core trail => lead ++ core ++ trail ++ ['-', '-']

/-- What is read with one more character, which is no closing brace. -/
def step (c : Char) : Progress → Progress
  -- A hyphen right behind the blanks is read behind a group that is empty.
  | .blanks lead =>
    if isBlank c then .blanks (lead ++ [c])
    else if c = '-' then .hyphen lead [] []
    else .names lead [c] []
  | .names lead core trail =>
    if isBlank c then .names lead core (trail ++ [c])
    else if c = '-' then .hyphen lead core trail
    else .names lead (core ++ trail ++ [c]) []
  -- Whatever follows the hyphen that is no second one, the hyphen belongs to the names.
  | .hyphen lead core trail =>
    if isBlank c then .names lead (core ++ trail ++ ['-']) [c]
    else if c = '-' then .hyphens lead core trail
    else .names lead (core ++ trail ++ ['-', c]) []
  | .hyphens lead core trail =>
    if isBlank c then .names lead (core ++ trail ++ ['-', '-']) [c]
    -- Of three hyphens the first belongs to the names.
    else if c = '-' then .hyphens lead (core ++ trail ++ ['-']) []
    else .names lead (core ++ trail ++ ['-', '-', c]) []

/-- The marks of the group, for blanks before it and what it holds. -/
def marks (start : Nat) (lead core : List Char) : Marks :=
  [(3, start + (lead ++ core).length), (2, start + lead.length)]

/-- What the group holds if the closing braces follow, with the blanks before it. -/
def held : Progress → List Char × List Char
  | .blanks lead => (lead, [])
  | .names lead core _ => (lead, core)
  | .hyphen lead core trail => (lead, core ++ trail ++ ['-'])
  | .hyphens lead core _ => (lead, core)

/-- The threads that wait, in order of preference. -/
def waiting (start : Nat) : Progress → List Thread
  -- The group may still be empty, so the points behind it are reached with the blanks read so far.
  | .blanks lead =>
    [⟨26, []⟩, ⟨35, marks start lead []⟩, ⟨38, marks start lead []⟩, ⟨41, marks start lead []⟩,
      ⟨30, [(2, start + lead.length)]⟩]
  | .names lead core _ =>
    [⟨35, marks start lead core⟩, ⟨38, marks start lead core⟩, ⟨41, marks start lead core⟩,
      ⟨30, [(2, start + lead.length)]⟩]
  | .hyphen lead core trail =>
    -- The hyphen is either the first of two behind the group or the end of a longer group.
    let longer := marks start lead (core ++ trail ++ ['-'])
    [⟨39, marks start lead core⟩, ⟨35, longer⟩, ⟨38, longer⟩, ⟨41, longer⟩,
      ⟨30, [(2, start + lead.length)]⟩]
  | .hyphens lead core trail =>
    -- The preferred thread has read both hyphens and the second one has read one of them.
    let longer := marks start lead (core ++ trail ++ ['-', '-'])
    [⟨41, marks start lead core⟩, ⟨39, marks start lead (core ++ trail ++ ['-'])⟩, ⟨35, longer⟩,
      ⟨38, longer⟩, ⟨30, [(2, start + lead.length)]⟩]

/-- Blanks stand before and behind the names, and no hyphen is left over. -/
def Sound : Progress → Prop
  | .blanks lead => ∀ c ∈ lead, isBlank c = true
  | .names lead core trail =>
    (∀ c ∈ lead, isBlank c = true) ∧ (∀ c ∈ trail, isBlank c = true) ∧
      ∀ c ∈ (lead ++ core ++ trail).getLast?, c ≠ '-'
  | .hyphen lead core trail =>
    (∀ c ∈ lead, isBlank c = true) ∧ (∀ c ∈ trail, isBlank c = true) ∧
      ∀ c ∈ (lead ++ core ++ trail).getLast?, c ≠ '-'
  | .hyphens lead _ trail =>
    (∀ c ∈ lead, isBlank c = true) ∧ ∀ c ∈ trail, isBlank c = true

/-- With one more character the text has one more character. -/
theorem text_step (c : Char) (progress : Progress) :
    (progress.step c).text = progress.text ++ [c] := by
  -- Each of the four forms looks at the same three kinds of characters.
  rcases blank_or_hyphen c with ⟨blank, other⟩ | ⟨blank, rfl⟩ | ⟨blank, other⟩ <;>
    cases progress <;> simp_all [step, text]

/-- With one more character the parts stay what they are. -/
theorem sound_step {progress : Progress} (sound : progress.Sound) (c : Char) :
    (progress.step c).Sound := by
  rcases blank_or_hyphen c with ⟨blank, other⟩ | ⟨blank, rfl⟩ | ⟨blank, other⟩
  · -- A blank goes behind the names, if there are any.
    cases progress <;> simp_all [Sound, step] <;> grind
  -- A hyphen behind blanks opens the group, and then the last character before it is a blank.
  · cases progress with
    | blanks lead =>
      have ends := getLast?_ne_hyphen sound
      simp_all [Sound, step]
    | names | hyphen | hyphens => simp_all [Sound, step]
  · -- Whatever has been read behind the names belongs to them.
    cases progress <;> simp_all [Sound, step]

/-- No match ends before the closing braces. -/
theorem goesOn (start : Nat) (progress : Progress) :
    ∀ thread ∈ progress.waiting start, regex.program.accepts thread = false := by
  -- The threads wait at six points, all before the braces are complete.
  have points : ∀ marks, regex.program.accepts ⟨26, marks⟩ = false ∧
      regex.program.accepts ⟨30, marks⟩ = false ∧ regex.program.accepts ⟨35, marks⟩ = false ∧
      regex.program.accepts ⟨38, marks⟩ = false ∧ regex.program.accepts ⟨39, marks⟩ = false ∧
      regex.program.accepts ⟨41, marks⟩ = false := fun _ => ⟨rfl, rfl, rfl, rfl, rfl, rfl⟩
  cases progress <;> simp [waiting, points]

/-- With a closing brace the group holds what is told of it. -/
theorem advance_brace (start : Nat) (progress : Progress) :
    (progress.waiting start).filterMap (regex.program.advance? '\x7d') =
      [⟨42, marks start progress.held.1 progress.held.2⟩] := by
  have noBlank : isBlank '\x7d' = false := by decide
  cases progress <;> simp [waiting, held, advance, noBlank]

/-- Blanks before the names go on, or the group starts and may be empty. -/
theorem settle_blanks (place : Regex.Place) (marks group : Marks) :
    regex.program.waiting place [⟨27, []⟩, ⟨36, marks⟩, ⟨31, group⟩] =
      [⟨26, []⟩, ⟨35, [(3, place.index), (2, place.index)]⟩,
        ⟨38, [(3, place.index), (2, place.index)]⟩, ⟨41, [(3, place.index), (2, place.index)]⟩,
        ⟨30, [(2, place.index)]⟩] :=
  rfl

/-- The group ends with what has just been read, or it goes on. -/
theorem settle_names (place : Regex.Place) (group : Marks) :
    regex.program.waiting place [⟨31, group⟩] =
      [⟨35, (3, place.index) :: group⟩, ⟨38, (3, place.index) :: group⟩,
        ⟨41, (3, place.index) :: group⟩, ⟨30, group⟩] :=
  rfl

/-- Blanks behind the group go on, which is preferred to a longer group. -/
theorem settle_trail (place : Regex.Place) (marks group : Marks) :
    regex.program.waiting place [⟨36, marks⟩, ⟨31, group⟩] =
      [⟨35, marks⟩, ⟨38, marks⟩, ⟨41, marks⟩, ⟨30, group⟩] :=
  rfl

/-- One hyphen has been read behind the group, or it belongs to a longer group. -/
theorem settle_hyphen (place : Regex.Place) (marks group : Marks) :
    regex.program.waiting place [⟨39, marks⟩, ⟨31, group⟩] =
      [⟨39, marks⟩, ⟨35, (3, place.index) :: group⟩, ⟨38, (3, place.index) :: group⟩,
        ⟨41, (3, place.index) :: group⟩, ⟨30, group⟩] :=
  rfl

/-- Two hyphens have been read behind the group, or one or none of them behind a longer group. -/
theorem settle_hyphens (place : Regex.Place) (marks longer group : Marks) :
    regex.program.waiting place [⟨40, marks⟩, ⟨39, longer⟩, ⟨31, group⟩] =
      [⟨41, marks⟩, ⟨39, longer⟩, ⟨35, (3, place.index) :: group⟩, ⟨38, (3, place.index) :: group⟩,
        ⟨30, group⟩] :=
  rfl

/-- The threads go on with one more character as the parts do. -/
theorem waiting_step {c : Char} (noBrace : c ≠ '\x7d') {start : Nat} {progress : Progress}
    (place : Regex.Place) (index : place.index = start + (progress.step c).text.length) :
    regex.program.waiting place ((progress.waiting start).filterMap (regex.program.advance? c)) =
      (progress.step c).waiting start := by
  -- For each kind of character and each form, the threads that stay are known by `advance`, and the
  -- lemma above that names them says where they settle.
  rcases blank_or_hyphen c with ⟨blank, other⟩ | ⟨blank, rfl⟩ | ⟨blank, other⟩
  · cases progress <;> simp only [step, blank, if_true] at index ⊢ <;>
      simp [waiting, advance, blank, other, noBrace, settle_blanks, settle_trail, index, text,
        marks]
  · cases progress <;> simp only [step, blank, if_true] at index ⊢ <;>
      simp [waiting, advance, blank, settle_hyphen, settle_hyphens, index, text, marks]
  · cases progress <;> simp only [step, blank, other, if_false] at index ⊢ <;>
      simp [waiting, advance, blank, other, noBrace, settle_names, index, text, marks]

/-- What the group holds stands behind the blanks before it. -/
theorem held_opens (progress : Progress) :
    progress.held.1 ++ progress.held.2 <+: progress.text := by
  cases progress <;> simp [held, text]

/-- What the group holds has the words of the text without hyphens at its end. -/
theorem words_held {progress : Progress} (sound : progress.Sound) :
    Text.words progress.held.2 = Text.words (withoutDashes progress.text) := by
  -- Blanks around the names are no words, and hyphens are part of the names unless two end the
  -- text.
  cases progress with
  | blanks lead =>
    have none := Text.words_append_of_blank sound []
    rw [text, withoutDashes_of_getLast? (getLast?_ne_hyphen sound), held]
    simpa using none.symm
  | names lead core trail =>
    obtain ⟨blankLead, blankTrail, ends⟩ := sound
    rw [text, withoutDashes_of_getLast? ends, held, List.append_assoc,
      Text.words_append_of_blank blankLead, Text.words_append_blanks core blankTrail]
  | hyphen lead core trail =>
    obtain ⟨blankLead, _, ends⟩ := sound
    -- One hyphen alone is part of what the group holds.
    rw [text, withoutDashes_hyphen ends, held]
    simp only [List.append_assoc, Text.words_append_of_blank blankLead]
  | hyphens lead core trail =>
    obtain ⟨blankLead, blankTrail⟩ := sound
    rw [text, withoutDashes_append, held, List.append_assoc,
      Text.words_append_of_blank blankLead, Text.words_append_blanks core blankTrail]

/-- A match whose group holds a part of the text tells the words of that part. -/
theorem ofMatch_marks {before lead core : List Char} (after : List Char)
    (split : whole = before ++ (lead ++ core ++ after)) :
    ofMatch whole ⟨0, 0, marks before.length lead core⟩ =
      ⟨(Text.words core).map String.ofList⟩ := by
  -- The marks of the group are the lengths of what stands before it and of what stands before its
  -- end.
  have starts : (marks before.length lead core).lookup 2 = some (before.length + lead.length) := rfl
  have stops : (marks before.length lead core).lookup 3 =
      some (before.length + (lead ++ core).length) := rfl
  have parts : whole = before ++ lead ++ (core ++ after) := by simp [split]
  have text : (Match.mk 0 0 (marks before.length lead core)).groupText whole 1 = core := by
    simp only [Match.groupText, Match.mark?, Nat.one_ne_zero, if_false, Nat.mul_one,
      Nat.reduceAdd, starts, stops]
    rw [parts, List.drop_left' (List.length_append ..)]
    exact List.take_left' (by simp only [List.length_append]; omega)
  rw [ofMatch, text]

/-- Behind a blank after the keyword the threads find what is read up to the closing braces. -/
theorem told_arguments (before : List Char) {text : List Char} {progress : Progress}
    (sound : progress.Sound) {index : Nat} {previous : Option Char} {threads : List Thread}
    (split : whole = before ++ progress.text ++ text)
    (place : index = (before ++ progress.text).length)
    (settled : ∀ next, regex.program.waiting ⟨index, previous, next⟩ threads =
      progress.waiting before.length) :
    told whole (regex.program.longest index previous threads none text) =
      (Text.cutAt '\x7d' text).bind fun cut => (Text.after? ['\x7d'] cut.2).map fun rest =>
        (⟨(Text.words (withoutDashes (progress.text ++ cut.1))).map String.ofList⟩, rest) := by
  -- The induction is on the text that is still to be read; what has been read is kept as progress,
  -- which one character more takes a step.
  induction text generalizing progress index previous threads with
  | nil =>
    rw [Program.longest_end (settled none) (goesOn _ progress)]
    rfl
  | cons c rest ih =>
    rw [Program.longest_cons rest (settled (some c)) (goesOn _ progress)]
    by_cases brace : c = '\x7d'
    · subst brace
      -- One thread is left behind the brace, and its group has the words of all that has been read.
      obtain ⟨more, held⟩ := progress.held_opens
      have names : ofMatch whole ⟨0, 0, marks before.length progress.held.1 progress.held.2⟩ =
          ⟨(Text.words (withoutDashes progress.text)).map String.ofList⟩ := by
        rw [← words_held sound]
        refine ofMatch_marks (more ++ '\x7d' :: rest) ?_
        rw [split, ← held]
        simp
      have behind : whole.drop (index + 1) = rest := by
        have parts : whole = before ++ progress.text ++ ['\x7d'] ++ rest := by simp [split]
        rw [parts, List.drop_left' (by simp [place, Nat.add_assoc])]
      have closed := tells_closing whole (marks before.length progress.held.1 progress.held.2)
        (index + 1) (some '\x7d') rest behind
      rw [advance_brace, closed, names]
      simp [Text.cutAt]
    -- The character belongs to what stands before the braces, on both sides.
    · have later : index + 1 = (before ++ (progress.step c).text).length := by
        simp [place, text_step, Nat.add_assoc]
      have further := ih (sound_step sound c) (by simp [split, text_step]) later fun next =>
        waiting_step brace ⟨index + 1, some c, next⟩ (by simpa using later)
      have cut : Text.cutAt '\x7d' (c :: rest) =
          (Text.cutAt '\x7d' rest).map fun cut => (c :: cut.1, cut.2) := by
        simp [Text.cutAt, brace]
      rw [further, cut, Option.bind_map]
      simp only [text_step, List.append_assoc, List.singleton_append]
      rfl

end Progress

end Directive

end TemplateLint
