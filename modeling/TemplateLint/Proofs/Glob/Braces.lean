import Mathlib.Algebra.BigOperators.Group.List.Basic
import Mathlib.Data.List.Forall2
import TemplateLint.Glob.Braces
import TemplateLint.Proofs.Text.Pieces

/-!
What a text with alternatives in braces stands for: no group is left in any of the texts, and groups
side by side yield every choice of alternatives once, in the order of the choices.
-/

namespace TemplateLint

namespace Glob

/-- No group is left in a text: no closing brace stands after an opening one. -/
def IsExpanded (text : List Char) : Prop :=
  ∀ before after, text = before ++ '{' :: after → '}' ∉ after

/-- A group is what stands between the first opening brace and the next closing one. -/
theorem firstGroup_append {head inner : List Char} (noOpening : '{' ∉ head)
    (noClosing : '}' ∉ inner) (tail : List Char) :
    firstGroup (head ++ '{' :: (inner ++ '}' :: tail)) =
      some (head, Text.splitOn ',' inner, tail) := by
  simp only [firstGroup, Text.cutAt_append noOpening, Text.cutAt_append noClosing]

/-- A text with a group in it is what stands around the alternatives of the group. -/
theorem firstGroup_eq_some {text head tail : List Char} {alternatives : List (List Char)}
    (group : firstGroup text = some (head, alternatives, tail)) :
    ∃ inner, text = head ++ '{' :: (inner ++ '}' :: tail) ∧
      alternatives = Text.splitOn ',' inner := by
  unfold firstGroup at group
  split at group
  · simp at group
  -- The group was found by two cuts, one at its opening brace and one at the first closing brace
  -- behind it.
  · rename_i before rest opened
    split at group
    · simp at group
    · rename_i inner after closed
      obtain ⟨rfl, rfl, rfl⟩ : before = head ∧ Text.splitOn ',' inner = alternatives ∧
        after = tail := by simpa using group
      obtain ⟨rfl, _⟩ := Text.cutAt_eq_some opened
      obtain ⟨rfl, _⟩ := Text.cutAt_eq_some closed
      exact ⟨inner, rfl, rfl⟩

/-- Everything after an opening brace stands after the first one. -/
theorem mem_rest_of_cutAt {text head rest before after : List Char} {c : Char}
    (cut : Text.cutAt '{' text = some (head, rest)) (split : text = before ++ '{' :: after)
    (member : c ∈ after) : c ∈ rest := by
  obtain ⟨rfl, noOpening⟩ := Text.cutAt_eq_some cut
  -- The cut is at the first opening brace, so that any other one stands at the same place or behind
  -- it.
  rcases List.append_eq_append_iff.mp split with ⟨more, rfl, same⟩ | ⟨more, rfl, same⟩
  · cases more with
    | nil =>
      obtain rfl := (List.cons.inj same).2
      exact member
    | cons first later =>
      obtain rfl := (List.cons.inj same).2
      simp [member]
  · cases more with
    | nil =>
      obtain rfl := (List.cons.inj same).2
      exact member
    | cons first later =>
      obtain ⟨rfl, _⟩ := List.cons.inj same
      simp at noOpening

/-- A text has no first group exactly when it has no group. -/
theorem firstGroup_eq_none_iff {text : List Char} : firstGroup text = none ↔ IsExpanded text := by
  constructor
  · -- Without a group there is no opening brace, or no closing brace behind the first one.
    intro none before after split inside
    unfold firstGroup at none
    split at none
    · rename_i opened
      rw [Text.cutAt_eq_none_iff, split] at opened
      simp at opened
    · rename_i head rest opened
      split at none
      · rename_i closed
        exact Text.cutAt_eq_none_iff.mp closed (mem_rest_of_cutAt opened split inside)
      · simp at none
  · -- A group that is found is an opening brace with a closing one behind it.
    intro expanded
    cases group : firstGroup text with
    | none => rfl
    | some parts =>
      obtain ⟨inner, split, _⟩ := firstGroup_eq_some group
      exact absurd (by simp) (expanded _ _ split)

instance (text : List Char) : Decidable (IsExpanded text) :=
  decidable_of_iff _ firstGroup_eq_none_iff

/-- An alternative in the place of its group leaves fewer opening braces. -/
theorem count_lt_of_firstGroup {text head tail alternative : List Char}
    {alternatives : List (List Char)} (group : firstGroup text = some (head, alternatives, tail))
    (member : alternative ∈ alternatives) :
    (head ++ alternative ++ tail).count '{' < text.count '{' := by
  obtain ⟨inner, rfl, rfl⟩ := firstGroup_eq_some group
  have fewer := (Text.sublist_of_mem_splitOn member).count_le '{'
  simp only [List.count_append, List.count_cons_self,
    List.count_cons_of_ne (show '}' ≠ '{' by decide)]
  omega

/-- Two depths that both suffice for the opening braces of a text yield the same. -/
theorem expandGroups_congr {one other : Nat} {text : List Char} (enoughOne : text.count '{' ≤ one)
    (enoughOther : text.count '{' ≤ other) :
    expandGroups one text = expandGroups other text := by
  -- The induction is on the first depth; without a group no depth is needed.
  induction one generalizing other text with
  | zero =>
    cases group : firstGroup text with
    | none => cases other <;> simp [expandGroups, group]
    | some parts =>
      obtain ⟨inner, rfl, _⟩ := firstGroup_eq_some group
      simp at enoughOne
  | succ one ih =>
    cases group : firstGroup text with
    | none => cases other <;> simp [expandGroups, group]
    | some parts =>
      obtain ⟨head, alternatives, tail⟩ := parts
      have fewer : ∀ alternative ∈ alternatives,
          (head ++ alternative ++ tail).count '{' < text.count '{' :=
        fun alternative member => count_lt_of_firstGroup group member
      cases other with
      | zero =>
        obtain ⟨inner, rfl, _⟩ := firstGroup_eq_some group
        simp at enoughOther
      | succ other =>
        simp only [expandGroups, group]
        refine List.flatMap_congr fun alternative member => ih ?_ ?_
        · have less := fewer alternative member
          omega
        · have less := fewer alternative member
          omega

/-- The first group is expanded, and then whatever groups are left with each alternative. -/
theorem expandBraces_eq (text : List Char) :
    expandBraces text =
      match firstGroup text with
      | none => [text]
      | some (head, alternatives, tail) =>
        alternatives.flatMap fun alternative => expandBraces (head ++ alternative ++ tail) := by
  unfold expandBraces
  cases group : firstGroup text with
  | none => cases text.count '{' <;> simp [expandGroups, group]
  | some parts =>
    obtain ⟨head, alternatives, tail⟩ := parts
    -- One level more than there are opening braces opens the recursion.
    rw [expandGroups_congr (Nat.le_refl _) (Nat.le_succ (text.count '{')), expandGroups, group]
    refine List.flatMap_congr fun alternative member => expandGroups_congr ?_ (Nat.le_refl _)
    exact Nat.le_of_lt (count_lt_of_firstGroup group member)

/-- No group is left in the texts that a text stands for. -/
theorem isExpanded_of_mem_expandBraces {text out : List Char} (member : out ∈ expandBraces text) :
    IsExpanded out := by
  -- Every expansion leaves fewer opening braces.
  induction left : text.count '{' using Nat.strongRecOn generalizing text with
  | _ left ih =>
    subst left
    rw [expandBraces_eq] at member
    cases group : firstGroup text with
    | none =>
      obtain rfl : out = text := by simpa [group] using member
      exact firstGroup_eq_none_iff.mp group
    | some parts =>
      obtain ⟨head, alternatives, tail⟩ := parts
      simp only [group, List.mem_flatMap] at member
      obtain ⟨alternative, known, inside⟩ := member
      exact ih _ (count_lt_of_firstGroup group known) inside rfl

/-- A text in parts: groups of alternatives, with text before each of them and after the last. -/
inductive Alternation where
  | text (last : List Char)
  | group (head : List Char) (alternatives : List (List Char)) (later : Alternation)
  deriving Repr, DecidableEq

namespace Alternation

/-- The text with its groups written in braces. -/
def written : Alternation → List Char
  | .text last => last
  | .group head alternatives later =>
    head ++ '{' :: (Text.joinWith [','] alternatives ++ '}' :: later.written)

/-- How many alternatives each group has. -/
def sizes : Alternation → List Nat
  | .text _ => []
  | .group _ alternatives later => alternatives.length :: later.sizes

/-- The text with one alternative of each group, told by their places in the groups. -/
def pick? : Alternation → List Nat → Option (List Char)
  | .text last, [] => some last
  | .group head alternatives later, place :: places => do
    some (head ++ (← alternatives[place]?) ++ (← later.pick? places))
  | _, _ => none

/--
Alternatives are some, without braces and commas; no text before a group has an opening brace, and
there is no group in the text after the last one.
-/
def IsPlain : Alternation → Prop
  | .text last => IsExpanded last
  | .group head alternatives later =>
    '{' ∉ head ∧ alternatives ≠ [] ∧
      (∀ alternative ∈ alternatives, '{' ∉ alternative ∧ '}' ∉ alternative ∧ ',' ∉ alternative) ∧
      later.IsPlain

instance : (alternation : Alternation) → Decidable alternation.IsPlain
  | .text last => inferInstanceAs (Decidable (IsExpanded last))
  | .group head alternatives later =>
    have := instDecidableIsPlain later
    inferInstanceAs (Decidable ('{' ∉ head ∧ alternatives ≠ [] ∧
      (∀ alternative ∈ alternatives, '{' ∉ alternative ∧ '}' ∉ alternative ∧ ',' ∉ alternative) ∧
      later.IsPlain))

end Alternation

/-- The ways to choose a place in each of some lists of given sizes, the last varying fastest. -/
def choices : List Nat → List (List Nat)
  | [] => [[]]
  | size :: later => (List.range size).flatMap fun place => (choices later).map (place :: ·)

/-- A choice names a place within each list. -/
theorem mem_choices {sizes places : List Nat} :
    places ∈ choices sizes ↔ List.Forall₂ (· < ·) places sizes := by
  induction sizes generalizing places with
  | nil => simp [choices]
  | cons size later ih =>
    simp only [choices, List.mem_flatMap, List.mem_range, List.mem_map, ih,
      List.forall₂_cons_right_iff]
    grind

/-- There are as many choices as the product of the sizes. -/
theorem length_choices (sizes : List Nat) : (choices sizes).length = sizes.prod := by
  induction sizes with
  | nil => rfl
  | cons size later ih => simp [choices, List.length_flatMap, ih]

/-- The choices stand in lexicographic order, the first place deciding before all others. -/
theorem pairwise_choices (sizes : List Nat) :
    (choices sizes).Pairwise (List.Lex (· < ·)) := by
  induction sizes with
  | nil => simp [choices]
  | cons size later ih =>
    -- Two choices that start with the same place are in the order of the rest, and all others in
    -- that of their first places.
    refine List.pairwise_flatMap.mpr ⟨fun place _ => ?_, ?_⟩
    · exact List.pairwise_map.mpr (ih.imp fun before => .cons before)
    · refine List.pairwise_lt_range.imp ?_
      intro one other before first firstMember second secondMember
      obtain ⟨_, _, rfl⟩ := List.mem_map.mp firstMember
      obtain ⟨_, _, rfl⟩ := List.mem_map.mp secondMember
      exact .rel before

/-- A text without opening braces in front of another one opens no group. -/
theorem isExpanded_append {before text : List Char} (noOpening : '{' ∉ before)
    (expanded : IsExpanded text) : IsExpanded (before ++ text) := by
  intro first after split
  -- The opening brace is not in the text in front, so it is in the other one.
  rcases List.append_eq_append_iff.mp split with ⟨more, rfl, same⟩ | ⟨more, rfl, same⟩
  · exact expanded more after same
  · cases more with
    | nil => exact expanded [] after same.symm
    | cons c later =>
      obtain ⟨rfl, _⟩ := List.cons.inj same
      simp at noOpening

/-- What is made of each item is made of the item at each place. -/
theorem flatMap_eq_range {α β : Type} {items : List α} {f : α → List β} {g : Nat → List β}
    (same : ∀ place item, items[place]? = some item → f item = g place) :
    items.flatMap f = (List.range items.length).flatMap g := by
  -- Items with their places stand between the items and the places.
  have places : List.range items.length = items.zipIdx.map Prod.snd := by
    rw [List.zipIdx_map_snd, List.range_eq_range']
  calc items.flatMap f
      = (items.zipIdx.map Prod.fst).flatMap f := by rw [List.zipIdx_map_fst]
    _ = items.zipIdx.flatMap fun entry => f entry.1 := List.flatMap_map ..
    _ = items.zipIdx.flatMap fun entry => g entry.2 :=
        List.flatMap_congr fun entry member =>
          same entry.2 entry.1 (List.mem_zipIdx_iff_getElem?.mp member)
    _ = (List.range items.length).flatMap g := by rw [places, List.flatMap_map]

/-- Behind a text without opening braces a text in parts stands for each of its choices. -/
theorem expandBraces_written {alternation : Alternation} (plain : alternation.IsPlain)
    {before : List Char} (noOpening : '{' ∉ before) :
    (expandBraces (before ++ alternation.written)).map some =
      (choices alternation.sizes).map fun places =>
        (alternation.pick? places).map (before ++ ·) := by
  -- What has been chosen already has no opening braces, so the next group is found behind it.
  induction alternation generalizing before with
  | text last =>
    have none := firstGroup_eq_none_iff.mpr (isExpanded_append noOpening plain)
    rw [expandBraces_eq, Alternation.written, none]
    rfl
  | group head alternatives later ih =>
    obtain ⟨noHead, some, whole, rest⟩ := plain
    have noInner : '}' ∉ Text.joinWith [','] alternatives := by
      intro inside
      rcases Text.mem_of_mem_joinWith inside with same | ⟨alternative, member, own⟩
      · simp at same
      · exact (whole alternative member).2.1 own
    have noFront : '{' ∉ before ++ head := by simp [noOpening, noHead]
    have pieces := Text.splitOn_joinWith some fun alternative member =>
      (whole alternative member).2.2
    rw [Alternation.written, ← List.append_assoc, expandBraces_eq,
      firstGroup_append noFront noInner, pieces, Alternation.sizes, choices]
    simp only [List.map_flatMap, List.map_map]
    refine flatMap_eq_range fun place alternative stands => ?_
    have known := List.mem_of_getElem? stands
    rw [ih rest (by simp [noOpening, noHead, (whole alternative known).1])]
    refine List.map_congr_left fun places _ => ?_
    simp only [Function.comp_apply, Alternation.pick?, stands, Option.bind_eq_bind,
      Option.bind_some, Option.map_bind]
    cases later.pick? places <;> simp

/--
As long as there is a group the first one is expanded, which leaves fewer opening braces to expand,
so this comes to an end, and no group is left in any of the texts. Groups side by side yield one
text for each choice of alternatives, in the order of the choices: first by the first group, then by
the second, and so on.
-/
theorem expandBraces_yields_choices (text : List Char) {alternation : Alternation}
    (plain : alternation.IsPlain) :
    (firstGroup text = none → expandBraces text = [text]) ∧
      (∀ head alternatives tail, firstGroup text = some (head, alternatives, tail) →
        (expandBraces text = alternatives.flatMap fun alternative =>
          expandBraces (head ++ alternative ++ tail)) ∧
        ∀ alternative ∈ alternatives,
          (head ++ alternative ++ tail).count '{' < text.count '{') ∧
      (∀ out ∈ expandBraces text, IsExpanded out) ∧
      (expandBraces alternation.written).map some =
        (choices alternation.sizes).map alternation.pick? ∧
      (expandBraces alternation.written).length = alternation.sizes.prod ∧
      (choices alternation.sizes).Pairwise (List.Lex (· < ·)) ∧
      ∀ places, places ∈ choices alternation.sizes ↔
        List.Forall₂ (· < ·) places alternation.sizes := by
  -- What is written is expanded as its alternatives are chosen, with nothing before it and nothing
  -- behind.
  have product : (expandBraces alternation.written).map some =
      (choices alternation.sizes).map alternation.pick? := by
    have law := expandBraces_written plain List.not_mem_nil
    simpa using law
  refine ⟨?_, ?_, fun out => isExpanded_of_mem_expandBraces, product, ?_,
    pairwise_choices _, fun places => mem_choices⟩
  · intro none
    rw [expandBraces_eq, none]
  · intro head alternatives tail group
    refine ⟨?_, fun alternative => count_lt_of_firstGroup group⟩
    rw [expandBraces_eq, group]
  · have lengths := congrArg List.length product
    rwa [List.length_map, List.length_map, length_choices] at lengths

/-- The text `a{b,}/}{c,d}}{`, in which braces also stand alone. -/
def sampleAlternation : Alternation :=
  .group ['a'] [['b'], []] (.group ['/', '}'] [['c'], ['d']] (.text ['}', '{']))

/-- Two groups of two alternatives yield four texts, those with the first alternative first. -/
theorem expandBraces_yields_choices_sample :
    sampleAlternation.IsPlain ∧
      (expandBraces sampleAlternation.written).map some =
        ["ab/\x7dc\x7d\x7b", "ab/\x7dd\x7d\x7b", "a/\x7dc\x7d\x7b", "a/\x7dd\x7d\x7b"].map
          (some ·.toList) ∧
      ∀ out ∈ expandBraces sampleAlternation.written, IsExpanded out := by
  have plain : sampleAlternation.IsPlain := by decide
  have law := expandBraces_yields_choices sampleAlternation.written plain
  refine ⟨plain, law.2.2.2.1.trans ?_, law.2.2.1⟩
  decide

end Glob

end TemplateLint
