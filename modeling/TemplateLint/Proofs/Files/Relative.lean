import Mathlib.Data.List.Induction
import TemplateLint.Proofs.Files.FileName

/-!
The way from a base to a path as a text: it goes up out of what the two do not share and then down
along the rest of the path, and read as a path again it asks for just these steps.
-/

namespace TemplateLint

namespace Text

/-- What a text holds besides separators stands in one of its pieces. -/
theorem mem_splitOn_of_mem {separator c : Char} {text : List Char} (member : c ∈ text)
    (other : c ≠ separator) : ∃ piece ∈ splitOn separator text, c ∈ piece := by
  induction text with
  | nil => simp at member
  | cons first rest ih =>
    simp only [splitOn]
    split
    · -- The first character is a separator, so the one looked for comes later.
      rename_i same
      rcases List.mem_cons.mp member with rfl | later
      · exact absurd same other
      · obtain ⟨piece, inside, holds⟩ := ih later
        exact ⟨piece, List.mem_cons_of_mem _ inside, holds⟩
    · cases pieces : splitOn separator rest with
      | nil => exact absurd pieces (splitOn_ne_nil separator rest)
      | cons piece later =>
        rcases List.mem_cons.mp member with rfl | after
        · exact ⟨c :: piece, List.mem_cons_self, List.mem_cons_self⟩
        · obtain ⟨own, inside, holds⟩ := ih after
          rw [pieces] at inside
          rcases List.mem_cons.mp inside with rfl | behind
          · exact ⟨first :: own, List.mem_cons_self, List.mem_cons_of_mem _ holds⟩
          · exact ⟨own, List.mem_cons_of_mem _ behind, holds⟩

/-- A text that ends in a separator ends in an empty piece. -/
theorem getLast?_splitOn {separator : Char} {text : List Char}
    (last : text.getLast? = some separator) : (splitOn separator text).getLast? = some [] := by
  obtain ⟨before, rfl⟩ := List.getLast?_eq_some_iff.mp last
  rw [splitOn_append]
  simp [splitOn]

/-- A text that begins with a separator begins with an empty piece. -/
theorem head?_splitOn {separator : Char} {text : List Char}
    (first : text.head? = some separator) : (splitOn separator text).head? = some [] := by
  obtain ⟨after, rfl⟩ := List.head?_eq_some_iff.mp first
  simp [splitOn]

end Text

namespace Stride

/-- A lone point asks for no move, and it is the only piece that asks for none. -/
theorem ofPiece_eq_stay {piece : List Char} : ofPiece piece = .stay ↔ piece = ['.'] := by
  unfold ofPiece
  split
  · simp_all
  · split <;> simp_all

end Stride

namespace Component

/-- A piece of a path is a name unless it is empty, a point or two points. -/
structure IsName (piece : List Char) : Prop where
  some : piece ≠ []
  whole : '/' ∉ piece
  here : piece ≠ ['.']
  up : piece ≠ ['.', '.']

/-- A step of a path that moves, as it is written. -/
def Moves : Component → Prop
  | .root => False
  | .here => False
  | .up => True
  | .name value => IsName value

/-- What a walk does at a step. -/
def stride : Component → Stride
  | .root => .stay
  | .here => .stay
  | .up => .up
  | .name value => .down (.ofList value)

/-- A piece that moves is walked as the step that it stands for. -/
theorem stride_ofPiece {piece : List Char} (moves : piece ≠ ['.']) :
    (ofPiece piece).stride = Stride.ofPiece piece := by
  unfold ofPiece Stride.ofPiece
  rw [if_neg moves]
  split <;> rfl

/-- The text of a step that moves is a piece of its own. -/
theorem Moves.text {step : Component} (moves : step.Moves) :
    step.text ≠ [] ∧ '/' ∉ step.text ∧ Stride.ofPiece step.text = step.stride := by
  -- Only a step up and a step to a name move.
  cases step with
  | root => exact moves.elim
  | here => exact moves.elim
  | up => exact ⟨by decide, by decide, rfl⟩
  | name value =>
    refine ⟨moves.some, moves.whole, ?_⟩
    rw [Component.text, Stride.ofPiece, if_neg moves.here, if_neg moves.up]
    rfl

/-- A piece that is neither empty nor a point is a step that moves. -/
theorem moves_ofPiece {piece : List Char} (some : piece ≠ []) (whole : '/' ∉ piece)
    (here : piece ≠ ['.']) : (ofPiece piece).Moves := by
  unfold ofPiece
  -- A piece that is no dot is either the way up or a name.
  split
  · exact trivial
  · rename_i up
    exact ⟨some, whole, here, up⟩

end Component

namespace Path

open Component

/-- The steps of a path from the root come after the root, move, and are walked as the path is. -/
theorem components_of_isAbsolute {path : String} (absolute : isAbsolute path = true) :
    ∃ steps, components path.toList = .root :: steps ∧ (∀ step ∈ steps, step.Moves) ∧
      Stride.moves path.toList = steps.map stride ∧
      ∀ step ∈ steps, ∀ c ∈ step.text, c ∈ path.toList ∨ c = '.' := by
  have start : path.toList.head? = some '/' := by simpa [isAbsolute] using absolute
  refine ⟨(((Text.splitOn '/' path.toList).filter (· ≠ [])).filter (· ≠ ['.'])).map ofPiece,
    ?_, ?_, ?_, ?_⟩
  · simp only [components, start, if_true]
  · intro step member
    obtain ⟨piece, kept, rfl⟩ := List.mem_map.mp member
    simp only [List.mem_filter, ne_eq, decide_not, Bool.not_eq_true',
      decide_eq_false_iff_not] at kept
    exact moves_ofPiece kept.1.2 (Text.not_mem_of_mem_splitOn kept.1.1) kept.2
  · -- To stay is what a lone point asks for, so it is the points that are left out.
    rw [Stride.moves_eq, Stride.ofPieces, List.filter_map, List.map_map]
    have points : ∀ piece ∈ (Text.splitOn '/' path.toList).filter (· ≠ []),
        ((fun step => decide (step ≠ Stride.stay)) ∘ Stride.ofPiece) piece =
          decide (piece ≠ ['.']) := by
      intro piece _
      simp only [Function.comp_apply, ne_eq, Stride.ofPiece_eq_stay]
    rw [List.filter_congr points]
    refine List.map_congr_left fun piece kept => ?_
    exact (stride_ofPiece (by simpa using (List.mem_filter.mp kept).2)).symm
  · intro step member c inside
    obtain ⟨piece, kept, rfl⟩ := List.mem_map.mp member
    have own : piece ∈ Text.splitOn '/' path.toList :=
      (List.mem_filter.mp (List.mem_filter.mp kept).1).1
    unfold ofPiece at inside
    split at inside
    · exact .inr (by simpa [Component.text] using inside)
    · exact .inl ((Text.sublist_of_mem_splitOn own).mem inside)

/-- A base that is left altogether is left by going up for each of its steps. -/
theorem stepsBetween_nil (base : List Component) :
    stepsBetween false [] base = some (List.replicate base.length .up) := by
  induction base with
  | nil => rfl
  | cons step later ih => simp [stepsBetween, ih, List.replicate_succ]

/-- From a base of names the way goes up out of what is not shared, and down along the rest. -/
theorem stepsBetween_eq {path base : List Component}
    (named : ∀ step ∈ base, ∃ value, step = .name value) :
    ∃ shared gone rest, base = shared ++ gone ∧ path = shared ++ rest ∧
      stepsBetween true path base = some (List.replicate gone.length .up ++ rest) := by
  -- The induction is on the base: as long as both begin alike, the first step is shared.
  induction base generalizing path with
  | nil =>
    refine ⟨[], [], path, rfl, rfl, ?_⟩
    cases path <;> rfl
  | cons other later ih =>
    cases path with
    | nil =>
      refine ⟨[], other :: later, [], rfl, rfl, ?_⟩
      rw [stepsBetween, stepsBetween_nil]
      simp [List.replicate_succ]
    | cons step rest =>
      obtain ⟨value, rfl⟩ := named other List.mem_cons_self
      by_cases same : step = .name value
      · subst same
        obtain ⟨shared, gone, onward, rfl, rfl, between⟩ :=
          @ih rest fun step member => named step (List.mem_cons_of_mem _ member)
        exact ⟨.name value :: shared, gone, onward, rfl, rfl, by simp [stepsBetween, between]⟩
      · refine ⟨[], .name value :: later, step :: rest, rfl, rfl, ?_⟩
        simp [stepsBetween, same, List.replicate_succ, List.map_const']

/-- A path that is built from steps that move has their texts as its pieces. -/
theorem splitOn_ofComponents {steps : List Component} (some : steps ≠ [])
    (moves : ∀ step ∈ steps, step.Moves) :
    Text.splitOn '/' (ofComponents steps).toList = steps.map Component.text := by
  -- The steps are taken from the first on, so the induction is on what comes last.
  induction steps using List.reverseRecOn with
  | nil => exact absurd rfl some
  | append_singleton before step ih =>
    obtain ⟨text, whole, _⟩ := (moves step (by simp)).text
    have joined : ofComponents (before ++ [step]) =
        join (ofComponents before) (.ofList step.text) := by
      rw [ofComponents, List.foldl_append]
      rfl
    rw [joined]
    by_cases none : before = []
    · subst none
      simpa [ofComponents, join] using Text.splitOn_of_not_mem whole
    · have pieces := ih none fun other member => moves other (by simp [member])
      -- What was built so far does not end in a slash, since its last piece is not empty.
      have unslashed : (ofComponents before).toList.getLast? ≠ Option.some '/' := by
        intro slashed
        have last := Text.getLast?_splitOn slashed
        rw [pieces, List.getLast?_map, Option.map_eq_some_iff] at last
        obtain ⟨other, member, empty⟩ := last
        exact (moves other (by simp [List.mem_of_getLast? member])).text.1 empty
      have more : (ofComponents before).toList ≠ [] := by
        intro empty
        rw [empty] at pieces
        obtain ⟨other, rest, rfl⟩ := List.exists_cons_of_ne_nil none
        have first : [] = other.text := (List.cons.inj pieces).1
        exact (moves other (by simp)).text.1 first.symm
      rcases @join_cases (ofComponents before) (.ofList step.text) (by simpa using whole)
        with ⟨empty, _⟩ | ⟨slashed, _⟩ | ⟨_, _, same⟩
      · simp [empty] at more
      · exact absurd slashed unslashed
      · have ends : (ofComponents before ++ "/" ++ String.ofList step.text).toList =
            (ofComponents before).toList ++ '/' :: step.text := by
          simp
        rw [same, ends, Text.splitOn_append, pieces, Text.splitOn_of_not_mem whole,
          List.map_append]
        rfl

/-- Steps that move are built to a path that asks for them. -/
theorem ofPieces_ofComponents {steps : List Component} (some : steps ≠ [])
    (moves : ∀ step ∈ steps, step.Moves) :
    Stride.ofPieces (ofComponents steps).toList = steps.map stride := by
  have texts : ∀ piece ∈ steps.map Component.text, decide (piece ≠ []) = true := by
    intro piece member
    obtain ⟨step, inside, rfl⟩ := List.mem_map.mp member
    simpa using (moves step inside).text.1
  rw [Stride.ofPieces, splitOn_ofComponents some moves, List.filter_eq_self.mpr texts, List.map_map]
  exact List.map_congr_left fun step member => (moves step member).text.2.2

/-- A path that is built from steps that move starts and ends inside their texts. -/
theorem ends_ofComponents {steps : List Component} (some : steps ≠ [])
    (moves : ∀ step ∈ steps, step.Moves) :
    isAbsolute (ofComponents steps) = false ∧ (ofComponents steps).toList ≠ [] ∧
      (ofComponents steps).toList.getLast? ≠ Option.some '/' := by
  have pieces := splitOn_ofComponents some moves
  -- A slash at either end would leave an empty piece there, and an empty path is one.
  have full : ∀ step ∈ steps, step.text ≠ [] := fun step member => (moves step member).text.1
  refine ⟨?_, ?_, ?_⟩
  · rw [Bool.eq_false_iff]
    intro absolute
    have first := Text.head?_splitOn (by simpa [isAbsolute] using absolute)
    rw [pieces, List.head?_map, Option.map_eq_some_iff] at first
    obtain ⟨step, member, empty⟩ := first
    exact full step (List.mem_of_head? member) empty
  · intro none
    rw [none] at pieces
    obtain ⟨step, rest, rfl⟩ := List.exists_cons_of_ne_nil some
    exact full step List.mem_cons_self (List.cons.inj pieces).1.symm
  · intro slashed
    have last := Text.getLast?_splitOn slashed
    rw [pieces, List.getLast?_map, Option.map_eq_some_iff] at last
    obtain ⟨step, member, empty⟩ := last
    exact full step (List.mem_of_getLast? member) empty

/-- What a path holds that is built from steps that move stands in one of them or parts them. -/
theorem mem_ofComponents {steps : List Component} (moves : ∀ step ∈ steps, step.Moves) {c : Char}
    (member : c ∈ (ofComponents steps).toList) : c = '/' ∨ ∃ step ∈ steps, c ∈ step.text := by
  by_cases none : steps = []
  · subst none
    simp [ofComponents] at member
  · by_cases slash : c = '/'
    · exact .inl slash
    -- A character that is no slash stands in a piece, and the pieces are the texts of the steps.
    · obtain ⟨piece, inside, holds⟩ := Text.mem_splitOn_of_mem member slash
      rw [splitOn_ofComponents none moves] at inside
      obtain ⟨step, own, rfl⟩ := List.mem_map.mp inside
      exact .inr ⟨step, own, holds⟩

end Path

end TemplateLint
