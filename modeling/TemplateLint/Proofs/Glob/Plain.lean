import TemplateLint.Proofs.Files.Detour
import TemplateLint.Proofs.Glob.Braces
import TemplateLint.Proofs.Glob.Expansion
import TemplateLint.Proofs.Text.Pieces

/-!
Patterns without wildcards: they read as they are written, and find at most the path that they
spell.
-/

namespace TemplateLint

namespace Glob

/-- A text holds nothing that a pattern reads as anything but itself. -/
def IsPlain (text : List Char) : Prop :=
  ∀ c ∈ text, c ≠ '?' ∧ c ≠ '*' ∧ c ≠ '['

/-- Plain characters are read one by one. -/
theorem readTokens_of_plain {text : List Char} (plain : IsPlain text) {steps : Nat}
    (enough : text.length ≤ steps) (before : Option Char) (read : List Token) :
    readTokens steps before read text = .ok ((text.map Token.char).reverse ++ read) := by
  -- The induction is on the text; what has been read grows at its front.
  induction text generalizing steps before read with
  | nil => cases steps <;> rfl
  | cons c rest ih =>
    cases steps with
    | zero => simp at enough
    | succ steps =>
      obtain ⟨noAny, noStar, noBracket⟩ := plain c List.mem_cons_self
      rw [readTokens, if_neg noAny, if_neg noStar, if_neg noBracket,
        ih (fun other member => plain other (List.mem_cons_of_mem _ member))
          (by simpa using enough)]
      simp

/-- A plain text is a pattern of its own characters. -/
theorem parse_of_plain {text : List Char} (plain : IsPlain text) :
    GlobPattern.parse (.ofList text) = .ok ⟨text.map Token.char⟩ := by
  simp only [GlobPattern.parse, tokens, String.toList_ofList,
    readTokens_of_plain plain (Nat.le_refl _), List.append_nil, List.reverse_reverse]

/-- A pattern of characters matches one name. -/
theorem literal?_chars (text : List Char) :
    (GlobPattern.mk (text.map Token.char)).literal? = some (.ofList text) := by
  have read (one : Token → Option Char) (reads : ∀ c, one (.char c) = some c) :
      (text.map Token.char).mapM one = some text := by
    -- Whatever else is read, characters are read as they are.
    induction text with
    | nil => rfl
    | cons c rest ih => simp [ih, reads]
  rw [GlobPattern.literal?, read _ fun _ => rfl, Option.map_some]

/-- The names in a path, without the slash at its start. -/
def pieces (path : List Char) : List (List Char) :=
  let names := Text.splitOn '/' path
  if names.getLast? = some [] then names.dropLast else names

/-- The names in a plain path are plain. -/
theorem isPlain_of_mem_pieces {path piece : List Char} (plain : IsPlain path)
    (member : piece ∈ pieces path) : IsPlain piece := by
  have inside : piece ∈ Text.splitOn '/' path := by
    unfold pieces at member
    simp only at member
    split at member
    · exact List.dropLast_subset _ member
    · exact member
  exact fun c own => plain c ((Text.sublist_of_mem_splitOn inside).mem own)

/-- Each name in a plain path is a pattern of its own characters. -/
theorem namePatterns_of_plain {path : List Char} (plain : IsPlain path) :
    namePatterns path = .ok ((pieces path).map fun piece => ⟨piece.map Token.char⟩) := by
  -- Names without wildcards are patterns of their own characters, one after another.
  have each (names : List (List Char)) (all : ∀ name ∈ names, IsPlain name) :
      names.mapM (fun name => GlobPattern.parse (.ofList name)) =
        .ok (names.map fun name => (⟨name.map Token.char⟩ : GlobPattern)) := by
    induction names with
    | nil => rfl
    | cons name later ih =>
      rw [List.mapM_cons, parse_of_plain (all name List.mem_cons_self),
        ih fun other member => all other (List.mem_cons_of_mem _ member)]
      rfl
  exact each (pieces path) fun _ => isPlain_of_mem_pieces plain

variable {files : FileSystem} {directoriesOnly : Bool}

/-- Patterns of one name each lead to nothing but the path that their names spell. -/
theorem candidates_of_chars {names : List (List Char)} {path : String} {candidate : Candidate}
    (member : candidate ∈
      candidates files (names.map fun name => ⟨name.map Token.char⟩) path) :
    candidate = ⟨(names.map String.ofList).foldl Path.join path, []⟩ := by
  -- The induction is on the names, along which the path grows.
  induction names generalizing path with
  | nil => simp [candidates] at member
  | cons name later ih =>
    rw [List.map_cons, candidates_of_literal (literal?_chars name)] at member
    split at member
    · cases later with
      | nil => simpa [proceed] using member
      | cons next others => exact ih (by simpa [proceed] using member)
    · simp at member

/-- A pattern without wildcards finds at most the path that it spells. -/
theorem eq_of_mem_paths {pattern path : String} {found : List String}
    (plain : IsPlain (pattern.toList.drop 1)) (matched : paths files pattern = .ok found)
    (member : path ∈ found) :
    path = ((pieces (pattern.toList.drop 1)).map String.ofList).foldl Path.join "/" := by
  unfold paths at matched
  rw [namePatterns_of_plain plain] at matched
  split at matched
  · simp at matched
  · obtain rfl := Except.ok.inj matched
    obtain ⟨candidate, inside, reached⟩ := List.mem_flatMap.mp member
    obtain rfl := candidates_of_chars inside
    -- No patterns are left, so the candidate leads to its own path or to none.
    rw [reach_nil, keptPath] at reached
    split at reached
    · exact List.mem_singleton.mp reached
    · simp at reached

/-- Names put together to a path one by one are what is between its slashes. -/
theorem toList_foldl_names {names : List (List Char)} (nonempty : names ≠ []) (path : String) :
    ((names.map String.ofList).foldl (fun path name => path ++ "/" ++ name) path).toList =
      path.toList ++ '/' :: Text.joinWith ['/'] names := by
  induction names generalizing path with
  | nil => exact absurd rfl nonempty
  | cons name later ih =>
    rw [List.map_cons, List.foldl_cons]
    -- The fold puts a slash before each name, and joining puts one between two of them.
    cases later with
    | nil => simp [Text.joinWith]
    | cons next others =>
      rw [ih (List.cons_ne_nil _ _)]
      simp [Text.joinWith]

/-- A path without wildcards and doubled slashes finds nothing but itself. -/
theorem eq_pattern_of_mem_paths {pattern path : String} {found : List String}
    (plain : IsPlain (pattern.toList.drop 1)) (absolute : Path.isAbsolute pattern = true)
    (named : ∀ piece ∈ Text.splitOn '/' (pattern.toList.drop 1), piece ≠ [])
    (matched : paths files pattern = .ok found) (member : path ∈ found) : path = pattern := by
  obtain ⟨rest, start⟩ : ∃ rest, pattern.toList = '/' :: rest :=
    List.head?_eq_some_iff.mp (by simpa [Path.isAbsolute] using absolute)
  rw [start, List.drop_one, List.tail_cons] at named
  -- The path ends in no slash, so all of its pieces are names.
  have own : pieces rest = Text.splitOn '/' rest :=
    if_neg fun last => named [] (List.mem_of_getLast? last) rfl
  have below : ∀ name ∈ (Text.splitOn '/' rest).map String.ofList,
      name.toList ≠ [] ∧ '/' ∉ name.toList := by
    intro name among
    obtain ⟨piece, inside, rfl⟩ := List.mem_map.mp among
    simpa using And.intro (named piece inside) (Text.not_mem_of_mem_splitOn inside)
  have spelled := eq_of_mem_paths plain matched member
  rw [start, List.drop_one, List.tail_cons, own, FileSystem.foldl_join_names below] at spelled
  obtain ⟨first, later, split⟩ := List.exists_cons_of_ne_nil (Text.splitOn_ne_nil '/' rest)
  rw [spelled, ← String.toList_inj, start]
  calc (FileSystem.pathOf ((Text.splitOn '/' rest).map String.ofList)).toList
      = "".toList ++ '/' :: Text.joinWith ['/'] (Text.splitOn '/' rest) := by
        rw [← toList_foldl_names (Text.splitOn_ne_nil '/' rest), split]
        rfl
    _ = '/' :: rest := by rw [Text.joinWith_splitOn]; rfl

/-- A text without braces stands for itself. -/
theorem expandBraces_of_not_mem {text : List Char} (noBrace : '{' ∉ text) :
    expandBraces text = [text] := by
  rw [expandBraces, List.count_eq_zero.mpr noBrace, expandGroups]

open FileSystem in
/-- The names in a path below a directory are those of the directory and then the path's own. -/
theorem splitOn_below {base : Location} (proper : Proper base) (nested : base ≠ [])
    (name : String) :
    Text.splitOn '/' ((pathOf base ++ "/" ++ name).toList.drop 1) =
      base.map String.toList ++ Text.splitOn '/' name.toList := by
  have names : Text.splitOn '/' (pathOf base).toList = [] :: base.map String.toList := by
    cases base with
    | nil => exact absurd rfl nested
    | cons first later => exact splitOn_names proper
  have slash : "/".toList = ['/'] := rfl
  have whole : Text.splitOn '/' (pathOf base ++ "/" ++ name).toList =
      [] :: (base.map String.toList ++ Text.splitOn '/' name.toList) := by
    rw [String.toList_append, String.toList_append, List.append_assoc, slash,
      List.singleton_append, Text.splitOn_append, names, List.cons_append]
  -- The path starts at the root, and before its first slash stands the empty piece.
  obtain ⟨rest, start⟩ : ∃ rest, (pathOf base ++ "/" ++ name).toList = '/' :: rest := by
    have absolute : (pathOf base).toList.head? = some '/' := by
      simpa [Path.isAbsolute] using isAbsolute_pathOf base
    obtain ⟨after, same⟩ := List.head?_eq_some_iff.mp absolute
    exact ⟨_, by rw [String.toList_append, String.toList_append, same]; rfl⟩
  rw [start, Text.splitOn, if_pos rfl] at whole
  rw [start, List.drop_one, List.tail_cons]
  exact (List.cons.inj whole).2

end Glob

/-- A text without wildcards needs no brackets around them. -/
theorem GlobPattern.escape_of_plain {text : String} (plain : Glob.IsPlain text.toList)
    (noClosing : ']' ∉ text.toList) : escape text = text := by
  -- Only the four characters that mean something are put in brackets.
  have same : text.toList.flatMap (fun c =>
      if c = '?' ∨ c = '*' ∨ c = '[' ∨ c = ']' then ['[', c, ']'] else [c]) = text.toList := by
    refine (List.flatMap_congr fun c member => ?_).trans (List.flatMap_singleton' _)
    obtain ⟨noAny, noStar, noOpening⟩ := plain c member
    have other : c ≠ ']' := fun closing => noClosing (closing ▸ member)
    rw [if_neg (by simp [noAny, noStar, noOpening, other])]
  rw [escape, same, String.ofList_toList]

end TemplateLint
