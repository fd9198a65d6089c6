import Mathlib.Data.List.TakeWhile
import TemplateLint.Proofs.Files.Staying
import TemplateLint.Proofs.Todo.Reconcile

/-!
The paths that todos are kept under. Dots in front of a path are taken off in rounds, and what is
left is a canonical spelling: all spellings of a relative path behind dots come down to it, and it
leads where they lead.
-/

namespace TemplateLint

namespace Path

/-- The pieces between the slashes of a path, without empty ones and dots. -/
def pieces (path : List Char) : List (List Char) :=
  (Text.splitOn '/' path).filter fun piece => piece ≠ [] ∧ piece ≠ ['.']

/-- A slash parts the pieces before it from those after it. -/
theorem pieces_append (before after : List Char) :
    pieces (before ++ '/' :: after) = pieces before ++ pieces after := by
  rw [pieces, Text.splitOn_append, List.filter_append]
  rfl

/-- Slashes in front of a path add no pieces. -/
theorem pieces_replicate_slash (count : Nat) (path : List Char) :
    pieces (List.replicate count '/' ++ path) = pieces path := by
  induction count with
  | zero => rfl
  | succ count ih => exact (pieces_append [] _).trans ih

/-- Dots in front of a path add no pieces. -/
theorem pieces_dotted (extras : List Nat) (path : List Char) :
    pieces (dotted extras path) = pieces path := by
  induction extras with
  | nil => rfl
  | cons extra later ih =>
    refine (pieces_append ['.'] _).trans ?_
    rw [pieces_replicate_slash, ih]
    rfl

end Path

/-- One round takes a dot off the front of a path, with all the slashes after it. -/
def shed? : List Char → Option (List Char)
  | '.' :: '/' :: rest => some (rest.dropWhile (· = '/'))
  | _ => none

/-- Rounds that take dots off a path come to an end, at a path that is left. -/
inductive Sheds : List Char → List Char → Prop where
  | done {path : List Char} (bare : shed? path = none) : Sheds path path
  | round {path shorter key : List Char} (shed : shed? path = some shorter)
      (later : Sheds shorter key) : Sheds path key

/-- A round can be made as long as a dot and a slash stand in front. -/
theorem shed?_eq_none_iff {path : List Char} : shed? path = none ↔ ¬['.', '/'] <+: path := by
  unfold shed?
  split
  · simp
  · rename_i other
    simp only [true_iff]
    rintro ⟨rest, rfl⟩
    exact other rest rfl

/-- A round takes off a dot, a slash and as many more slashes as there are. -/
theorem shed?_eq_some_iff {path shorter : List Char} :
    shed? path = some shorter ↔
      (∃ extra, path = '.' :: '/' :: (List.replicate extra '/' ++ shorter)) ∧
        shorter.head? ≠ some '/' := by
  constructor
  · intro shed
    unfold shed? at shed
    split at shed
    · rename_i rest
      obtain rfl := Option.some.inj shed
      constructor
      -- What is shed behind the dot is as many slashes as stand there.
      · have slashes : rest.takeWhile (· = '/') =
            List.replicate (rest.takeWhile (· = '/')).length '/' := by
          refine List.eq_replicate_iff.mpr ⟨rfl, fun c member => ?_⟩
          simpa using List.mem_takeWhile_imp member
        exact ⟨_, by rw [← slashes, List.takeWhile_append_dropWhile]⟩
      · intro slash
        have stops := List.head?_dropWhile_not (fun c => decide (c = '/')) rest
        simp [slash] at stops
    · simp at shed
  · rintro ⟨⟨extra, rfl⟩, relative⟩
    have all : (List.replicate extra '/' ++ shorter).dropWhile (· = '/') = shorter := by
      induction extra with
      | zero =>
        cases shorter with
        | nil => rfl
        | cons c rest => simpa using relative
      | succ count ih => simpa [List.replicate_succ] using ih
    rw [shed?, all]

namespace Sheds

/-- At the end no round can be made. -/
theorem bare {path key : List Char} (sheds : Sheds path key) : shed? key = none := by
  induction sheds with
  | done bare => exact bare
  | round _ _ ih => exact ih

/-- The rounds end at one path. -/
theorem unique {path key other : List Char} (first : Sheds path key) (second : Sheds path other) :
    key = other := by
  -- Each round is determined by the path, and so is whether there is another one.
  induction first with
  | done bare =>
    cases second with
    | done _ => rfl
    | round shed _ => simp [bare] at shed
  | round shed _ ih =>
    cases second with
    | done bare => simp [bare] at shed
    | round own later =>
      obtain rfl := Option.some.inj (shed.symm.trans own)
      exact ih later

/-- The rounds take dots off, each with its slashes, and leave a relative path. -/
theorem exists_dotted {path key : List Char} (sheds : Sheds path key) :
    ∃ extras, path = Path.dotted extras key ∧ (extras ≠ [] → key.head? ≠ some '/') := by
  induction sheds with
  | done _ => exact ⟨[], rfl, by simp⟩
  | round shed _ ih =>
    obtain ⟨⟨extra, rfl⟩, relative⟩ := shed?_eq_some_iff.mp shed
    obtain ⟨later, rfl, bare⟩ := ih
    refine ⟨extra :: later, rfl, fun _ => ?_⟩
    -- Without a further round the path that is left is the one that this round leaves.
    cases later with
    | nil => exact relative
    | cons _ _ => exact bare (by simp)

/-- From a relative path the rounds end where they end from behind dots. -/
theorem dotted {path key : List Char} (sheds : Sheds path key) (relative : path.head? ≠ some '/')
    (extras : List Nat) : Sheds (Path.dotted extras path) key := by
  induction extras with
  | nil => exact sheds
  | cons extra later ih =>
    exact .round (shed?_eq_some_iff.mpr ⟨⟨extra, rfl⟩, Path.head?_dotted relative⟩) ih

end Sheds

/-- Stripping dots makes all the rounds; after a dot slashes are taken off before the next round. -/
theorem sheds_stripDots (afterDot : Bool) (path : List Char) :
    Sheds (if afterDot then path.dropWhile (· = '/') else path) (stripDots afterDot path) := by
  induction afterDot, path using stripDots.induct with
  | case1 afterDot rest ih =>
    rw [if_pos rfl] at ih
    rw [stripDots]
    -- No slash stands before the dot, so this is a round whatever came before.
    cases afterDot with
    | true => exact .round rfl ih
    | false => exact .round rfl ih
  | case2 rest ih =>
    have stripped : stripDots true ('/' :: rest) = stripDots true rest := by simp [stripDots]
    rw [stripped]
    exact ih
  | case3 afterDot rest noDot =>
    have stripped : stripDots afterDot ('/' :: rest) = '/' :: rest := by simp [stripDots, noDot]
    rw [stripped, if_neg noDot]
    exact .done rfl
  | case4 afterDot path noDot noSlash =>
    have same : path.dropWhile (· = '/') = path := by
      cases path with
      | nil => rfl
      | cons c rest =>
        have other : c ≠ '/' := by
          rintro rfl
          exact noSlash rest rfl
        simp [other]
    have bare : shed? path = none := by
      rw [shed?_eq_none_iff]
      rintro ⟨rest, rfl⟩
      exact noDot rest rfl
    have stripped : stripDots afterDot path = path := by
      rw [stripDots]
      · exact noDot
      · exact noSlash
    rw [stripped, same, ite_self]
    exact .done bare

/-- The key of a path is what the rounds leave of it. -/
theorem sheds_storageKey (path : String) : Sheds path.toList (storageKey path).toList := by
  rw [storageKey, String.toList_ofList]
  exact sheds_stripDots false path.toList

/-- A path has one key, at which the rounds end. -/
theorem storageKey_of_sheds {path key : String} (sheds : Sheds path.toList key.toList) :
    storageKey path = key :=
  String.toList_inj.mp ((sheds_storageKey path).unique sheds)

/-- A path that starts at the root is its own key. -/
theorem storageKey_of_isAbsolute {path : String} (absolute : Path.isAbsolute path = true) :
    storageKey path = path := by
  refine storageKey_of_sheds (.done ?_)
  rw [shed?_eq_none_iff]
  rintro ⟨rest, same⟩
  simp [Path.isAbsolute, ← same] at absolute

/-- A relative path is its key behind dots, and its key is relative. -/
theorem exists_dotted_storageKey {path : String} (relative : Path.isAbsolute path = false) :
    Path.isAbsolute (storageKey path) = false ∧
      ∃ extras, path.toList = Path.dotted extras (storageKey path).toList := by
  obtain ⟨extras, behind, bare⟩ := (sheds_storageKey path).exists_dotted
  refine ⟨?_, extras, behind⟩
  rw [Path.isAbsolute_eq_false_iff] at relative ⊢
  cases extras with
  | nil => rwa [behind] at relative
  | cons _ _ => exact bare (by simp)

/-- From a directory a relative path leads where its key leads. -/
theorem lead_join_storageKey {files : FileSystem} {base path : String}
    (directory : files.isDirectory base = true) (relative : Path.isAbsolute path = false)
    (followLast : Bool) :
    files.lead (Path.join base path) followLast =
      files.lead (Path.join base (storageKey path)) followLast := by
  obtain ⟨alike, extras, behind⟩ := exists_dotted_storageKey relative
  exact FileSystem.lead_join_dotted directory alike behind followLast

/--
Two paths lead to one place from every directory, with links at their ends followed or not; where
neither becomes too long to be looked up, both are found there.
-/
def LeadAlike (first second : String) : Prop :=
  ∀ (files : FileSystem) (base : String) (followLast : Bool), files.isDirectory base = true →
    files.lead (Path.join base first) followLast = files.lead (Path.join base second) followLast ∧
    ((Path.join base first).utf8ByteSize ≤ FileSystem.longestPath →
      (Path.join base second).utf8ByteSize ≤ FileSystem.longestPath →
        files.locate (Path.join base first) followLast =
          files.locate (Path.join base second) followLast)

/-- Relative paths of one key lead to one place. -/
theorem leadAlike_of_storageKey {first second : String}
    (relative : Path.isAbsolute first = false) (alike : Path.isAbsolute second = false)
    (same : storageKey first = storageKey second) : LeadAlike first second := by
  intro files base followLast directory
  -- Both lead where their one key leads.
  have leads : files.lead (Path.join base first) followLast =
      files.lead (Path.join base second) followLast := by
    rw [lead_join_storageKey directory relative, same, ← lead_join_storageKey directory alike]
  refine ⟨leads, fun short brief => ?_⟩
  rw [FileSystem.locate_eq_lead short, FileSystem.locate_eq_lead brief, leads]

/--
The key of a path is a canonical spelling of it. Dots are taken off in rounds that come to an end;
what is left is its own key, ends the path, has no dot and slash in front, and has the pieces of the
path. It starts at the root only if the path does, which is then left as it is. Relative paths of
one key lead to one place from any directory, and all spellings of a relative path behind dots, with
any number of slashes after each, have its key.
-/
theorem storageKey_canonical (path : String) :
    Sheds path.toList (storageKey path).toList ∧
      storageKey (storageKey path) = storageKey path ∧
      (storageKey path).toList <:+ path.toList ∧
      ¬['.', '/'] <+: (storageKey path).toList ∧
      (Path.isAbsolute path = true → storageKey path = path) ∧
      (Path.isAbsolute path = false → Path.isAbsolute (storageKey path) = false) ∧
      Path.pieces (storageKey path).toList = Path.pieces path.toList ∧
      (Path.isAbsolute path = false → ∀ other, Path.isAbsolute other = false →
        storageKey path = storageKey other → LeadAlike path other) ∧
      (Path.isAbsolute path = false → ∀ extras,
        storageKey (.ofList (Path.dotted extras path.toList)) = storageKey path) := by
  -- The path is its key with as many dots and slashes before it as have been shed.
  obtain ⟨extras, behind, _⟩ := (sheds_storageKey path).exists_dotted
  refine ⟨sheds_storageKey path, storageKey_storageKey path, ?_,
    shed?_eq_none_iff.mp (sheds_storageKey path).bare, storageKey_of_isAbsolute,
    fun relative => (exists_dotted_storageKey relative).1, ?_,
    fun relative _ alike same => leadAlike_of_storageKey relative alike same, ?_⟩
  · rw [behind, Path.dotted_eq_append]
    exact List.suffix_append _ _
  · conv => rhs; rw [behind, Path.pieces_dotted]
  · intro relative extras
    refine storageKey_of_sheds ?_
    rw [String.toList_ofList]
    exact (sheds_storageKey path).dotted (Path.isAbsolute_eq_false_iff.mp relative) extras

/-- Only dots in front are taken off, and only those with a slash. -/
example : storageKey ".//././app/./.hidden" = "app/./.hidden" ∧ storageKey "." = "." := by
  decide

end TemplateLint
