import Mathlib.Algebra.GroupWithZero.Nat
import TemplateLint.Proofs.Files.Relative
import TemplateLint.Proofs.Files.Walk

/-!
A path as seen from a directory leads, through the directory, where it leads by itself: the way goes
down to the directory, up out of it again, and on as the path does.
-/

namespace TemplateLint

namespace Stride

/-- The second steps are the first without some of those that stay. -/
inductive Skips : List Stride → List Stride → Prop where
  | done : Skips [] []
  | same {steps others : List Stride} (step : Stride) (later : Skips steps others) :
      Skips (step :: steps) (step :: others)
  | stay {steps others : List Stride} (later : Skips steps others) : Skips (.stay :: steps) others

namespace Skips

/-- Nothing has to be left out. -/
theorem refl (steps : List Stride) : Skips steps steps := by
  induction steps with
  | nil => exact .done
  | cons step later ih => exact .same step ih

/-- Steps that are put before both change nothing. -/
theorem append_left (before : List Stride) {steps others : List Stride}
    (skips : Skips steps others) : Skips (before ++ steps) (before ++ others) := by
  induction before with
  | nil => exact skips
  | cons step later ih => exact .same step ih

/-- All the steps that stay may be left out. -/
theorem filter (steps : List Stride) : Skips steps (steps.filter (· ≠ .stay)) := by
  induction steps with
  | nil => exact .done
  | cons step later ih =>
    -- A step that stays is skipped, and any other is taken by both.
    by_cases stays : step = .stay
    · subst stays
      simpa using Skips.stay ih
    · rw [List.filter_cons_of_pos (by simpa using stays)]
      exact .same step ih

end Skips

end Stride

namespace FileSystem

open Stride

variable {files : FileSystem}

/-- Where a walk finds something it does so with fewer steps that stay. -/
theorem stroll_skips {slashed other : Bool}
    {onward followed : Location → List Stride → Except FileError Place}
    (later : ∀ {current steps others location}, Skips steps others →
      onward current steps = .ok (.present location) →
      followed current others = .ok (.present location))
    {current location : Location} {steps others : List Stride} (skips : Skips steps others)
    (found : files.stroll true slashed onward current steps = .ok (.present location)) :
    files.stroll true other followed current others = .ok (.present location) := by
  -- The induction is on what is left out; a step that stays only asks for a directory.
  induction skips generalizing current with
  | done => exact found
  | stay _ ih =>
    simp only [stroll] at found
    split at found
    · simp at found
    · exact ih found
  | same step rest ih =>
    simp only [stroll] at found ⊢
    split at found
    · simp at found
    · rename_i here
      rw [if_neg here]
      cases step with
      | stay => exact ih found
      | up => exact ih found
      | down name =>
        simp only at found ⊢
        split at found
        · simp at found
        · rename_i short
          rw [if_neg short]
          split at found
          · split at found
            · simp at found
            · split at found <;> simp at found
          · -- The steps behind a link come before those that are still ahead.
            simp only [Bool.not_true, Bool.and_false, Bool.false_eq_true, if_false] at found ⊢
            exact later (rest.append_left _) found
          · exact ih found

/-- Where a walk finds something it does so with fewer steps that stay. -/
theorem walk_skips {slashed : Bool} (other : Bool) {links : Nat} {current location : Location}
    {steps others : List Stride} (skips : Skips steps others)
    (found : files.walk true slashed links current steps = .ok (.present location)) :
    files.walk true other links current others = .ok (.present location) := by
  induction links generalizing current location steps others with
  | zero => exact stroll_skips (by simp) skips found
  | succ links ih =>
    refine stroll_skips ?_ skips found
    exact fun fewer there => ih fewer there

/-- Directories stand at a location and at all locations above it. -/
def Open (files : FileSystem) (location : Location) : Prop :=
  ∀ outer, outer <+: location → files.entry? outer = some .directory

/-- A directory that is reached stands below directories. -/
theorem Reached.isOpen {location : Location} (reached : Reached files location)
    (directory : files.entry? location = some .directory) : files.Open location := by
  intro outer above
  by_cases same : outer = location
  · rw [same, directory]
  · exact reached.below outer above same

/-- Above a location that stands below directories so do all others. -/
theorem Open.above {location outer : Location} (isOpen : files.Open location)
    (above : outer <+: location) : files.Open outer :=
  fun further within => isOpen further (within.trans above)

variable {followLast slashed : Bool}
  {onward : Location → List Stride → Except FileError Place}

/-- Through directories a walk goes down along their names. -/
theorem stroll_down (base : Location) {names : Location} (more : List Stride)
    (isOpen : files.Open (base ++ names))
    (short : ∀ name ∈ names, name.utf8ByteSize ≤ longestName) :
    files.stroll followLast slashed onward base (names.map .down ++ more) =
      files.stroll followLast slashed onward (base ++ names) more := by
  induction names generalizing base with
  | nil => simp
  | cons name later ih =>
    -- After one step the way goes on from one directory further down.
    have grouped : base ++ name :: later = (base ++ [name]) ++ later := by simp
    have here : files.entry? base = some .directory :=
      isOpen base (List.prefix_append base _)
    have next : files.entry? (base ++ [name]) = some .directory := by
      refine isOpen _ ?_
      rw [grouped]
      exact List.prefix_append _ _
    have fits : ¬longestName < name.utf8ByteSize :=
      Nat.not_lt.mpr (short name List.mem_cons_self)
    rw [List.map_cons, List.cons_append, stroll]
    simp only [here, ne_eq, not_true_eq_false, if_false, fits, next]
    rw [grouped] at isOpen ⊢
    exact ih (base ++ [name]) isOpen fun other member => short other (List.mem_cons_of_mem _ member)

/-- Out of directories a walk goes up, once for each. -/
theorem stroll_up {base names : Location} (more : List Stride)
    (isOpen : files.Open (base ++ names)) :
    files.stroll followLast slashed onward (base ++ names)
        (List.replicate names.length .up ++ more) =
      files.stroll followLast slashed onward base more := by
  -- The innermost directory is left first, so the induction takes names from the end.
  induction names using List.reverseRecOn with
  | nil => simp
  | append_singleton before name ih =>
    have here : files.entry? (base ++ (before ++ [name])) = some .directory :=
      isOpen _ (List.prefix_refl _)
    have outer : files.Open (base ++ before) := by
      refine isOpen.above ?_
      rw [← List.append_assoc]
      exact List.prefix_append _ _
    rw [List.length_append, List.length_singleton, List.replicate_succ, List.cons_append, stroll]
    simp only [here, ne_eq, not_true_eq_false, if_false]
    rw [← List.append_assoc, List.dropLast_concat]
    exact ih outer

/-- A walk down to a directory and up out of it again is one to where it turns. -/
theorem walk_detour {links : Nat} {shared gone : Location} (more : List Stride)
    (isOpen : files.Open (shared ++ gone))
    (short : ∀ name ∈ shared ++ gone, name.utf8ByteSize ≤ longestName) :
    files.walk followLast slashed links []
        ((shared ++ gone).map .down ++ (List.replicate gone.length .up ++ more)) =
      files.walk followLast slashed links [] (shared.map .down ++ more) := by
  have outer : files.Open shared := isOpen.above (List.prefix_append _ _)
  have fits : ∀ name ∈ shared, name.utf8ByteSize ≤ longestName :=
    fun name member => short name (List.mem_append_left _ member)
  have strolls (onward : Location → List Stride → Except FileError Place) :
      files.stroll followLast slashed onward []
          ((shared ++ gone).map .down ++ (List.replicate gone.length .up ++ more)) =
        files.stroll followLast slashed onward [] (shared.map .down ++ more) :=
    calc
      _ = files.stroll followLast slashed onward (shared ++ gone)
            (List.replicate gone.length .up ++ more) := stroll_down [] _ isOpen short
      _ = files.stroll followLast slashed onward shared more := stroll_up _ isOpen
      _ = _ := (stroll_down [] _ outer fits).symm
  -- Only directories are passed, so it does not matter how many links may be followed.
  cases links with
  | zero => exact strolls _
  | succ links => exact strolls _

/-- A walk down along the names of directories ends at the last of them. -/
theorem walk_down {links : Nat} {names : Location} (isOpen : files.Open names)
    (short : ∀ name ∈ names, name.utf8ByteSize ≤ longestName) :
    files.walk followLast slashed links [] (names.map .down) = .ok (.present names) := by
  have strolls (onward : Location → List Stride → Except FileError Place) :
      files.stroll followLast slashed onward [] (names.map .down) = .ok (.present names) := by
    have down := @stroll_down files followLast slashed onward [] names [] isOpen short
    rw [List.append_nil] at down
    exact down
  cases links with
  | zero => exact strolls _
  | succ links => exact strolls _

/-- Names that a walk can step to: pieces of a path that are not too long. -/
def Proper (location : Location) : Prop :=
  ∀ name ∈ location, Component.IsName name.toList ∧ name.utf8ByteSize ≤ longestName

/-- Steps whose names are pieces of a path. -/
def NamesPieces (steps : List Stride) : Prop :=
  ∀ name, .down name ∈ steps → Component.IsName name.toList

/-- The steps of a path name its pieces. -/
theorem namesPieces_ofPath (path : List Char) : NamesPieces (Stride.ofPath path) := by
  intro name member
  rw [Stride.ofPath_eq, List.mem_append] at member
  -- The slash at the end of a path names nothing.
  rcases member with inside | last
  · obtain ⟨piece, kept, same⟩ := List.mem_map.mp inside
    simp only [List.mem_filter, ne_eq, decide_not, Bool.not_eq_true',
      decide_eq_false_iff_not] at kept
    have own := Stride.ofPiece_eq_down same
    subst own
    refine ⟨kept.2, Text.not_mem_of_mem_splitOn kept.1, ?_, ?_⟩
    · intro here
      simp [Stride.ofPiece, here] at same
    · intro up
      simp [Stride.ofPiece, up] at same
  · split at last <;> simp at last

/-- A walk that starts below proper names ends below proper names. -/
theorem stroll_proper
    (later : ∀ {current steps location}, Proper current → NamesPieces steps →
      onward current steps = .ok (.present location) → Proper location)
    {current location : Location} {steps : List Stride} (proper : Proper current)
    (pieces : NamesPieces steps)
    (found : files.stroll followLast slashed onward current steps = .ok (.present location)) :
    Proper location := by
  induction steps generalizing current with
  | nil =>
    obtain rfl : current = location := by simpa [stroll] using found
    exact proper
  | cons step rest ih =>
    have ahead : NamesPieces rest := fun name member => pieces name (List.mem_cons_of_mem _ member)
    unfold stroll at found
    split at found
    · simp at found
    · cases step with
      | stay => exact ih proper ahead found
      | up => exact ih (fun name member => proper name (List.dropLast_subset _ member)) ahead found
      | down name =>
        simp only at found
        split at found
        · simp at found
        · rename_i short
          have below : Proper (current ++ [name]) := by
            intro other member
            rcases List.mem_append.mp member with old | new
            · exact proper other old
            · obtain rfl : other = name := List.mem_singleton.mp new
              exact ⟨pieces other List.mem_cons_self, Nat.le_of_not_lt short⟩
          split at found
          · split at found
            · simp at found
            · split at found <;> simp at found
          · rename_i target stands
            split at found
            · -- The link itself is what is found.
              obtain rfl : current ++ [name] = location := by simpa using found
              exact below
            · refine later ?_ ?_ found
              · split
                · simp [Proper]
                · exact proper
              · intro other member
                rcases List.mem_append.mp member with inside | outside
                · exact namesPieces_ofPath _ other inside
                · exact ahead other outside
          · exact ih below ahead found

/-- A path leads below proper names. -/
theorem find_proper {path : String} {location : Location} (found : files.find path = .ok location) :
    Proper location := by
  -- The induction is on the number of links that may still be followed, each of which starts a walk
  -- with one fewer.
  have walks : ∀ links {followLast slashed current steps location}, Proper current →
      NamesPieces steps →
      files.walk followLast slashed links current steps = .ok (.present location) →
        Proper location := by
    intro links
    induction links with
    | zero => exact fun proper pieces found => stroll_proper (by simp) proper pieces found
    | succ links ih => exact fun proper pieces found => stroll_proper ih proper pieces found
  obtain ⟨_, _, _, walked⟩ := locate_eq_walk (find_eq_ok.mp found)
  exact walks _ (by simp [Proper]) (namesPieces_ofPath _) walked

/-- The pieces of a location's path are its names, after nothing before the first slash. -/
theorem splitOn_names {location : Location} (proper : Proper location) :
    Text.splitOn '/' (location.foldl (fun path name => path ++ "/" ++ name) "").toList =
      [] :: location.map String.toList := by
  -- Names are added at the end of the path, so the induction takes them from there.
  induction location using List.reverseRecOn with
  | nil => rfl
  | append_singleton before name ih =>
    have whole := (proper name (by simp)).1.whole
    have slash : "/".toList = ['/'] := rfl
    rw [List.foldl_append, List.foldl_cons, List.foldl_nil, String.toList_append,
      String.toList_append, List.append_assoc, slash, List.singleton_append,
      Text.splitOn_append, ih fun other member => proper other (by simp [member]),
      Text.splitOn_of_not_mem whole, List.map_append]
    rfl

/-- The pieces of a location's path that count are its names. -/
theorem pieces_pathOf {location : Location} (proper : Proper location) :
    (Text.splitOn '/' (pathOf location).toList).filter (· ≠ []) = location.map String.toList := by
  have some : ∀ piece ∈ location.map String.toList, decide (piece ≠ []) = true := by
    intro piece member
    obtain ⟨name, inside, rfl⟩ := List.mem_map.mp member
    simpa using (proper name inside).1.some
  -- The path of a location starts with a slash, so that one empty piece stands before the names.
  cases location with
  | nil => decide
  | cons first later =>
    have path : pathOf (first :: later) =
        (first :: later).foldl (fun path name => path ++ "/" ++ name) "" := rfl
    rw [path, splitOn_names proper, List.filter_cons_of_neg (by simp),
      List.filter_eq_self.mpr some]

/-- A location's path asks for one step down along each of its names. -/
theorem ofPieces_pathOf {location : Location} (proper : Proper location) :
    Stride.ofPieces (pathOf location).toList = location.map .down := by
  rw [Stride.ofPieces, pieces_pathOf proper, List.map_map]
  refine List.map_congr_left fun name member => ?_
  have own := (proper name member).1
  simp [Stride.ofPiece, own.here, own.up]

/-- A location's path starts at the root. -/
theorem isAbsolute_pathOf (location : Location) : Path.isAbsolute (pathOf location) = true := by
  -- The first name comes after a slash, and the others come later.
  have start : ∀ (names : Location) (path : String), path.toList.head? = some '/' →
      (names.foldl (fun path name => path ++ "/" ++ name) path).toList.head? = some '/' := by
    intro names
    induction names with
    | nil => exact fun _ first => first
    | cons name later ih =>
      intro path first
      refine ih _ ?_
      rw [String.toList_append, String.toList_append, List.append_assoc, List.head?_append, first]
      rfl
  cases location with
  | nil => decide
  | cons first later => simpa [Path.isAbsolute, pathOf] using start later _ (by simp)

/-- The steps of a location's path are the root and its names. -/
theorem components_pathOf {location : Location} (proper : Proper location) :
    Path.components (pathOf location).toList =
      .root :: location.map fun name => .name name.toList := by
  have start : (pathOf location).toList.head? = some '/' := by
    simpa [Path.isAbsolute] using isAbsolute_pathOf location
  -- No name is a dot, so that no piece is left out.
  have moving : ∀ piece ∈ location.map String.toList, decide (piece ≠ ['.']) = true := by
    intro piece member
    obtain ⟨name, inside, rfl⟩ := List.mem_map.mp member
    simpa using (proper name inside).1.here
  simp only [Path.components, start, if_true, pieces_pathOf proper]
  rw [List.filter_eq_self.mpr moving, List.map_map]
  refine congrArg (Component.root :: ·) (List.map_congr_left fun name member => ?_)
  simp [Component.ofPiece, (proper name member).1.up]

/-- A location's path holds slashes and what its names hold. -/
theorem mem_pathOf {location : Location} (proper : Proper location) {c : Char}
    (member : c ∈ (pathOf location).toList) : c = '/' ∨ ∃ name ∈ location, c ∈ name.toList := by
  by_cases slash : c = '/'
  · exact .inl slash
  -- A character other than a slash is in a piece of the path, and the pieces are the names.
  · obtain ⟨piece, inside, own⟩ := Text.mem_splitOn_of_mem member slash
    have counts : piece ∈ location.map String.toList := by
      rw [← pieces_pathOf proper, List.mem_filter]
      exact ⟨inside, by simpa using List.ne_nil_of_mem own⟩
    obtain ⟨name, among, rfl⟩ := List.mem_map.mp counts
    exact .inr ⟨name, among, own⟩

/-- The path of a directory that stands below directories leads to it. -/
theorem find_pathOf {location : Location} (proper : Proper location) (isOpen : files.Open location)
    (noNul : ∀ name ∈ location, '\u0000' ∉ name.toList)
    (short : (pathOf location).utf8ByteSize ≤ longestPath) :
    files.find (pathOf location) = .ok location := by
  have clean : '\u0000' ∉ (pathOf location).toList := by
    intro nul
    rcases mem_pathOf proper nul with slash | ⟨name, member, own⟩
    · exact absurd slash (by decide)
    · exact noNul name member own
  have down {slashed : Bool} : files.walk true slashed linkLimit [] (location.map .down) =
      .ok (.present location) :=
    walk_down isOpen fun name member => (proper name member).2
  rw [find_eq_ok, locate_of_walk clean (pathOf_ne_nil location) short, Stride.ofPath_eq,
    ofPieces_pathOf proper]
  split
  · -- A path with a slash at its end asks for a directory, which there is.
    exact walk_stay down (isOpen location (List.prefix_refl _))
  · rw [List.append_nil]
    exact down

/-- The path of a directory that stands below directories is its own canonical form. -/
theorem canonical_pathOf {location : Location} (proper : Proper location)
    (isOpen : files.Open location) (noNul : ∀ name ∈ location, '\u0000' ∉ name.toList)
    (short : (pathOf location).utf8ByteSize ≤ longestPath) :
    files.canonical (pathOf location) = .ok (pathOf location) ∧
      files.isDirectory (pathOf location) = true := by
  have leads := find_pathOf proper isOpen noNul short
  have stands := isOpen location (List.prefix_refl _)
  refine ⟨by simp only [canonical, leads], ?_⟩
  simp only [isDirectory, follow?, leads, stands, beq_self_eq_true]

/-- A location's path is made of its names, with a slash before each of them. -/
theorem utf8ByteSize_pathOf {location : Location} (some : location ≠ []) :
    (pathOf location).utf8ByteSize =
      (location.map fun name => name.utf8ByteSize + 1).sum := by
  -- The path is put together by a fold, so that the statement is about any path before the names.
  have grows (names : Location) (path : String) :
      (names.foldl (fun path name => path ++ "/" ++ name) path).utf8ByteSize =
        path.utf8ByteSize + (names.map fun name => name.utf8ByteSize + 1).sum := by
    induction names generalizing path with
    | nil => simp
    | cons name later ih =>
      rw [List.foldl_cons, ih, String.utf8ByteSize_append, String.utf8ByteSize_append,
        List.map_cons, List.sum_cons]
      have slash : "/".utf8ByteSize = 1 := rfl
      omega
  -- Without a name the path is a slash and not empty.
  cases location with
  | nil => exact absurd rfl some
  | cons first later => simpa [pathOf] using grows (first :: later) ""

/-- Names that are joined to the root one after another make the path of their location. -/
theorem foldl_join_names {names : Location}
    (named : ∀ name ∈ names, name.toList ≠ [] ∧ '/' ∉ name.toList) :
    names.foldl Path.join "/" = pathOf names := by
  -- Behind a name no path ends with a slash, so one is put before each later name.
  have unslashed (path : String) {name : String} (own : name.toList ≠ [] ∧ '/' ∉ name.toList) :
      (path ++ name).toList.getLast? ≠ some '/' ∧ path ++ name ≠ "" := by
    obtain ⟨before, c, same⟩ := (List.eq_nil_or_concat name.toList).resolve_left own.1
    have last : c ≠ '/' := by
      rintro rfl
      exact own.2 (by simp [same])
    refine ⟨by simpa [String.toList_append, same] using last, fun empty => own.1 ?_⟩
    obtain ⟨_, rfl⟩ : path = "" ∧ name = "" := by simpa using empty
    rfl
  have onward (names : Location) (named : ∀ name ∈ names, name.toList ≠ [] ∧ '/' ∉ name.toList)
      (path : String) (behind : path.toList.getLast? ≠ some '/' ∧ path ≠ "") :
      names.foldl Path.join path = names.foldl (fun path name => path ++ "/" ++ name) path := by
    induction names generalizing path with
    | nil => rfl
    | cons name later ih =>
      obtain ⟨own, rest⟩ := List.forall_mem_cons.mp named
      have joined : Path.join path name = path ++ "/" ++ name := by
        rcases Path.join_cases path own.2 with ⟨none, _⟩ | ⟨slashed, _⟩ | ⟨_, _, joined⟩
        · exact absurd none behind.2
        · exact absurd slashed behind.1
        · exact joined
      rw [List.foldl_cons, List.foldl_cons, joined]
      exact ih rest _ (unslashed _ own)
  cases names with
  | nil => rfl
  | cons name later =>
    obtain ⟨own, rest⟩ := List.forall_mem_cons.mp named
    have joined : Path.join "/" name = "" ++ "/" ++ name := by
      rcases Path.join_cases "/" own.2 with ⟨none, _⟩ | ⟨_, joined⟩ | ⟨_, last, _⟩
      · exact absurd none (by decide)
      · exact joined
      · exact absurd rfl last
    rw [List.foldl_cons, joined]
    exact onward later rest _ (unslashed _ own)

/-- A path that is its own canonical form is the path of a location below proper names. -/
theorem eq_pathOf_of_canonical {path : String} (canonical : files.canonical path = .ok path) :
    ∃ location, files.find path = .ok location ∧ Proper location ∧ path = pathOf location := by
  unfold FileSystem.canonical at canonical
  split at canonical
  · simp at canonical
  · rename_i location found
    exact ⟨location, found, find_proper found, (Except.ok.inj canonical).symm⟩

/-- The way from a base to a path: up out of what they do not share, and then along the path. -/
def detour (left : Location) (rest : List Component) : List Component :=
  List.replicate left.length .up ++ rest

/-- A path shares the start of a base, leaves the rest of the base, and goes on by itself. -/
structure Parts (base : Location) (path : String) (shared left : Location)
    (rest : List Component) : Prop where
  whole : base = shared ++ left
  moves : ∀ step ∈ rest, step.Moves
  walked : Stride.moves path.toList = shared.map .down ++ rest.map Component.stride
  seen : Path.relativeTo? (pathOf base) path = some (Path.ofComponents (detour left rest))
  within : ∀ step ∈ rest, ∀ c ∈ step.text, c ∈ path.toList ∨ c = '.'

/-- Every path from the root parts from a base somewhere. -/
theorem exists_parts {base : Location} (proper : Proper base) {path : String}
    (absolute : Path.isAbsolute path = true) :
    ∃ shared left rest, Parts base path shared left rest := by
  obtain ⟨steps, rooted, moves, walked, within⟩ := Path.components_of_isAbsolute absolute
  obtain ⟨shared, gone, rest, parts, rfl, between⟩ :=
    @Path.stepsBetween_eq steps (base.map fun name => .name name.toList) (by simp)
  -- What is shared are names of the base, and so is what is left.
  obtain ⟨above, left, rfl, rfl, rfl⟩ := List.map_eq_append_iff.mp parts
  refine ⟨above, left, rest, rfl, fun step member => moves step (List.mem_append_right _ member),
    ?_, ?_, fun step member => within step (List.mem_append_right _ member)⟩
  · rw [walked, List.map_append, List.map_map]
    simp [Component.stride, Function.comp_def]
  · have root (path base : List Component) : Path.stepsBetween true (.root :: path) (.root :: base) =
        Path.stepsBetween true path base := by
      simp [Path.stepsBetween]
    rw [Path.relativeTo?, absolute, isAbsolute_pathOf, if_pos rfl, rooted, components_pathOf proper,
      root, between, List.length_map]
    rfl

namespace Parts

variable {base shared left location : Location} {path : String} {rest : List Component}

/-- Every step of the way moves. -/
theorem moves_detour (parts : Parts base path shared left rest) :
    ∀ step ∈ detour left rest, step.Moves := by
  intro step member
  rcases List.mem_append.mp member with up | inside
  · rw [List.eq_of_mem_replicate up]
    exact trivial
  · exact parts.moves step inside

/-- What the path that is seen holds comes from the path, save for points and slashes. -/
theorem mem_seen (parts : Parts base path shared left rest) {c : Char}
    (member : c ∈ (Path.ofComponents (detour left rest)).toList) :
    c ∈ path.toList ∨ c = '.' ∨ c = '/' := by
  rcases Path.mem_ofComponents parts.moves_detour member with slash | ⟨step, inside, holds⟩
  · exact .inr (.inr slash)
  · rcases List.mem_append.mp inside with up | own
    · rw [List.eq_of_mem_replicate up] at holds
      exact .inr (.inl (by simpa [Component.text] using holds))
    · exact (parts.within step own c holds).imp_right .inl

/-- A path that leads somewhere is walked without its stays: down what is shared, and on. -/
theorem walk_path (parts : Parts base path shared left rest)
    (found : files.find path = .ok location) (slashed : Bool) :
    files.walk true slashed linkLimit [] (shared.map .down ++ rest.map Component.stride) =
      .ok (.present location) := by
  obtain ⟨_, _, _, walk⟩ := locate_eq_walk (find_eq_ok.mp found)
  rw [← parts.walked]
  exact walk_skips slashed (Skips.filter _) walk

/-- A path to anything but a directory goes on beyond what it shares with an open base. -/
theorem rest_ne_nil (parts : Parts base path shared left rest) (proper : Proper base)
    (isOpen : files.Open base) (found : files.find path = .ok location)
    (other : files.entry? location ≠ some .directory) : rest ≠ [] := by
  rintro rfl
  -- Otherwise it would lead to one of the directories down to the base.
  have inside : shared <+: base := by simp [parts.whole]
  have outer : files.Open shared := isOpen.above inside
  have ends : files.walk true false linkLimit [] (shared.map .down) = .ok (.present shared) :=
    walk_down outer fun name member => (proper name (inside.subset member)).2
  have walk := parts.walk_path found false
  rw [List.map_nil, List.append_nil, ends] at walk
  obtain rfl : shared = location := by simpa using walk
  exact other (outer shared (List.prefix_refl _))

/-- Joined to the base, the path that is seen goes down the base and then along the way. -/
theorem ofPath_join (parts : Parts base path shared left rest) (proper : Proper base)
    (goesOn : rest ≠ []) :
    Stride.ofPath (Path.join (pathOf base) (Path.ofComponents (detour left rest))).toList =
      base.map .down ++ (List.replicate left.length .up ++ rest.map Component.stride) := by
  have some : detour left rest ≠ [] := by simp [detour, goesOn]
  obtain ⟨relative, more, unslashed⟩ := Path.ends_ofComponents some parts.moves_detour
  -- The joined path ends as the path that is seen does, which is not with a slash.
  have ends : (Path.join (pathOf base) (Path.ofComponents (detour left rest))).toList.getLast? ≠
      Option.some '/' := by
    intro last
    obtain ⟨before, same⟩ := Path.suffix_join (pathOf base) (Path.ofComponents (detour left rest))
    rw [← same, List.getLast?_append, Option.or_eq_some_iff] at last
    rcases last with own | ⟨none, _⟩
    · exact unslashed own
    · exact more (List.getLast?_eq_none_iff.mp none)
  rw [Stride.ofPath_eq, if_neg ends, List.append_nil, Path.ofPieces_join relative,
    ofPieces_pathOf proper, Path.ofPieces_ofComponents some parts.moves_detour, detour,
    List.map_append, List.map_replicate]
  rfl

end Parts

/--
From a directory that is its own canonical form a path is seen, and the path that is seen leads,
joined to the directory, where the first one leads, unless it becomes too long.
-/
theorem find_seen {workingDir path : String} {location : Location}
    (canonical : files.canonical workingDir = .ok workingDir)
    (directory : files.isDirectory workingDir = true) (absolute : Path.isAbsolute path = true)
    (found : files.find path = .ok location) (other : files.entry? location ≠ some .directory) :
    ∃ seen, Path.relativeTo? workingDir path = some seen ∧
      ((Path.join workingDir seen).utf8ByteSize ≤ longestPath →
        files.find (Path.join workingDir seen) = .ok location) := by
  obtain ⟨base, here, proper, rfl⟩ := eq_pathOf_of_canonical canonical
  have stands : files.entry? base = some .directory := by
    simpa [isDirectory, follow?, here] using directory
  have isOpen : files.Open base := (locate_reached (find_eq_ok.mp here)).isOpen stands
  obtain ⟨shared, left, rest, parts⟩ := exists_parts proper absolute
  have goesOn : rest ≠ [] := parts.rest_ne_nil proper isOpen found other
  refine ⟨_, parts.seen, fun short => ?_⟩
  -- Neither the directory nor the path holds a zero byte, so the joined path does not.
  have clean : '\u0000' ∉
      (Path.join (pathOf base) (Path.ofComponents (detour left rest))).toList := by
    intro nul
    rcases Path.mem_of_mem_join nul with inBase | slash | inSeen
    · exact (locate_eq_walk (find_eq_ok.mp here)).1 inBase
    · exact absurd slash (by decide)
    · rcases parts.mem_seen inSeen with inPath | point | slash
      · exact (locate_eq_walk (find_eq_ok.mp found)).1 inPath
      · exact absurd point (by decide)
      · exact absurd slash (by decide)
  rw [find_eq_ok, locate_of_walk clean (Path.join_ne_nil (pathOf_ne_nil _) _) short,
    parts.ofPath_join proper goesOn]
  obtain rfl := parts.whole
  exact (walk_detour _ isOpen fun name member => (proper name member).2).trans
    (parts.walk_path found _)

end FileSystem

end TemplateLint
