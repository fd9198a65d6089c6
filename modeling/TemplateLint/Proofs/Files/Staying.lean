import TemplateLint.Proofs.Files.Detour

/-!
Steps that stay in a directory on the way make no difference to where a walk leads, so neither do
dots in front of a path that is joined to the directory.
-/

namespace TemplateLint

namespace FileSystem

variable {files : FileSystem} {followLast slashed other : Bool}

/-- From a directory a walk goes on as if it had not stayed there. -/
theorem stroll_replicate_stay {onward : Location → List Stride → Except FileError Place}
    {current : Location} (here : files.entry? current = some .directory) (count : Nat)
    (more : List Stride) :
    files.stroll followLast slashed onward current (List.replicate count .stay ++ more) =
      files.stroll followLast slashed onward current more := by
  induction count with
  | zero => rfl
  | succ count ih =>
    rw [List.replicate_succ, List.cons_append, stroll, if_neg (by simp [here])]
    exact ih

/-- Where steps lead to a directory a walk goes on from it as if it had not stayed there. -/
theorem stroll_idle {onward followed : Location → List Stride → Except FileError Place}
    {count : Nat} {more : List Stride} (goesOn : more ≠ [])
    (later : ∀ {current steps directory}, followed current steps = .ok (.present directory) →
      files.entry? directory = some .directory →
      onward current (steps ++ (List.replicate count .stay ++ more)) =
        onward current (steps ++ more))
    {current directory : Location} {steps : List Stride}
    (found : files.stroll true other followed current steps = .ok (.present directory))
    (stands : files.entry? directory = some .directory) :
    files.stroll followLast slashed onward current (steps ++ (List.replicate count .stay ++ more)) =
      files.stroll followLast slashed onward current (steps ++ more) := by
  -- The induction is on the steps to the directory, which both walks take first.
  induction steps generalizing current with
  | nil =>
    obtain rfl : current = directory := by simpa [stroll] using found
    exact stroll_replicate_stay stands count more
  | cons step rest ih =>
    simp only [stroll] at found
    split at found
    · simp at found
    · rename_i here
      simp only [List.cons_append, stroll, if_neg here]
      cases step with
      | stay => exact ih found
      | up => exact ih found
      | down name =>
        simp only at found ⊢
        split at found
        · simp at found
        · rename_i short
          simp only [if_neg short]
          cases there : files.entry? (current ++ [name]) with
          | none =>
            -- A free name is no way to a directory.
            simp only [there] at found
            split at found
            · simp at found
            · split at found <;> simp at found
          | some entry =>
            simp only [there] at found
            cases entry with
            | file content executable => exact ih found
            | directory => exact ih found
            | sink => exact ih found
            | link target =>
              -- With steps still ahead both walks follow the link.
              simp only [Bool.not_true, Bool.and_false, Bool.false_eq_true, if_false] at found
              simp only [goesOn, List.append_eq_nil_iff, and_false, decide_false, Bool.false_and,
                Bool.false_eq_true, if_false, ← List.append_assoc]
              simpa using later found stands

/-- Where steps lead to a directory a walk goes on from it as if it had not stayed there. -/
theorem walk_idle {count links : Nat} {more : List Stride} (goesOn : more ≠ [])
    {current directory : Location} {steps : List Stride}
    (found : files.walk true other links current steps = .ok (.present directory))
    (stands : files.entry? directory = some .directory) :
    files.walk followLast slashed links current (steps ++ (List.replicate count .stay ++ more)) =
      files.walk followLast slashed links current (steps ++ more) := by
  induction links generalizing current directory steps with
  | zero => exact stroll_idle goesOn (by simp) found stands
  | succ links ih =>
    refine stroll_idle goesOn ?_ found stands
    exact fun there directory => ih there directory

/-- The place that a path leads to, even if it is too long to be looked up. -/
def lead (files : FileSystem) (path : String) (followLast : Bool) : Except FileError Place :=
  if '\u0000' ∈ path.toList then .error .nulInPath
  else if path.toList = [] then .error .notFound
  else files.walk followLast (path.toList.getLast? = some '/') linkLimit []
    (Stride.ofPath path.toList)

/-- A path that is not too long is found where it leads. -/
theorem locate_eq_lead {path : String} (short : path.utf8ByteSize ≤ longestPath)
    (files : FileSystem) (followLast : Bool) :
    files.locate path followLast = files.lead path followLast := by
  simp only [locate, lead, if_neg (Nat.not_lt.mpr short), List.contains_iff_mem]

/-- A directory is reached by the pieces of its path, with or without a slash at the end. -/
theorem walk_ofPieces {path : String} {location : Location}
    (found : files.locate path true = .ok (.present location)) :
    files.walk true slashed linkLimit [] (Stride.ofPieces path.toList) =
      .ok (.present location) := by
  obtain ⟨_, _, _, walked⟩ := locate_eq_walk found
  -- The slash asks for one step more, which stays.
  refine walk_skips slashed ?_ walked
  rw [Stride.ofPath_eq]
  split
  · simpa using Stride.Skips.append_left (Stride.ofPieces path.toList) (.stay .done)
  · simpa using Stride.Skips.refl (Stride.ofPieces path.toList)

end FileSystem

namespace Path

/-- A relative path stands behind its base and a slash. -/
theorem exists_stem {base : String} (some : base ≠ "") :
    ∃ stem, Stride.ofPieces stem = Stride.ofPieces base.toList ∧
      ∀ path, isAbsolute path = false →
        (join base path).toList = stem ++ '/' :: path.toList := by
  have notEmpty : base.isEmpty = false := by
    simpa [String.isEmpty_iff] using some
  by_cases slashed : base.toList.getLast? = Option.some '/'
  · -- The slash at the end of the base is the one that parts the two.
    obtain ⟨stem, same⟩ := List.getLast?_eq_some_iff.mp slashed
    refine ⟨stem, ?_, ?_⟩
    · rw [same, Stride.ofPieces_append]
      simp [Stride.ofPieces, Text.splitOn]
    · intro path relative
      simp [join, relative, notEmpty, same]
  · refine ⟨base.toList, rfl, ?_⟩
    intro path relative
    simp [join, relative, notEmpty, slashed]

/-- The steps that a path asks for behind a slash. -/
def furtherSteps (path : List Char) : List Stride :=
  Stride.ofPieces path ++ if ('/' :: path).getLast? = some '/' then [.stay] else []

/-- Behind a slash the steps before it are taken first. -/
theorem ofPath_append (before after : List Char) :
    Stride.ofPath (before ++ '/' :: after) = Stride.ofPieces before ++ furtherSteps after := by
  rw [Stride.ofPath_eq, Stride.ofPieces_append, List.getLast?_append, List.getLast?_cons,
    Option.some_or, List.append_assoc, furtherSteps, List.getLast?_cons]

/-- A relative path behind a slash asks for a step, if only for one that stays. -/
theorem furtherSteps_ne_nil {path : List Char} (relative : path.head? ≠ some '/') :
    furtherSteps path ≠ [] := by
  cases path with
  | nil => simp [furtherSteps]
  | cons c rest =>
    -- The first piece holds the first character.
    have other : c ≠ '/' := by simpa using relative
    have steps : Stride.ofPieces (c :: rest) ≠ [] := by
      simp only [Stride.ofPieces, Text.splitOn, if_neg other]
      split <;> simp
    simp [furtherSteps, steps]

/-- A path is relative if it does not start with a slash. -/
theorem isAbsolute_eq_false_iff {path : String} :
    isAbsolute path = false ↔ path.toList.head? ≠ some '/' := by
  simp [isAbsolute]

/-- A path behind dots, each of them with a slash and some more slashes after it. -/
def dotted : List Nat → List Char → List Char
  | [], path => path
  | extra :: later, path => '.' :: '/' :: (List.replicate extra '/' ++ dotted later path)

/-- Dots stand in front of a path. -/
theorem dotted_eq_append (extras : List Nat) (path : List Char) :
    dotted extras path = dotted extras [] ++ path := by
  induction extras with
  | nil => rfl
  | cons extra later ih => simp [dotted, ih]

/-- Behind dots a relative path is relative. -/
theorem head?_dotted {extras : List Nat} {path : List Char} (relative : path.head? ≠ some '/') :
    (dotted extras path).head? ≠ some '/' := by
  cases extras with
  | nil => exact relative
  | cons extra later => simp [dotted]

/-- Slashes in front of a path ask for no steps. -/
theorem ofPieces_replicate_slash (count : Nat) (path : List Char) :
    Stride.ofPieces (List.replicate count '/' ++ path) = Stride.ofPieces path := by
  induction count with
  | zero => rfl
  | succ count ih => exact (Stride.ofPieces_append [] _).trans ih

/-- Each dot in front of a path asks for one step that stays. -/
theorem ofPieces_dotted (extras : List Nat) (path : List Char) :
    Stride.ofPieces (dotted extras path) =
      List.replicate extras.length .stay ++ Stride.ofPieces path := by
  induction extras with
  | nil => rfl
  | cons extra later ih =>
    refine (Stride.ofPieces_append ['.'] _).trans ?_
    rw [ofPieces_replicate_slash, ih]
    rfl

/-- Behind a slash a path ends as it does with dots in front of it. -/
theorem getLast?_dotted (extras : List Nat) (path : List Char) :
    ('/' :: dotted extras path).getLast? = ('/' :: path).getLast? := by
  induction extras with
  | nil => rfl
  | cons extra later ih =>
    -- More slashes behind the first change nothing about what the path ends with.
    have slashes : ('/' :: (List.replicate extra '/' ++ dotted later path)).getLast? =
        ('/' :: dotted later path).getLast? := by
      induction extra with
      | zero => rfl
      | succ count same => rwa [List.replicate_succ, List.cons_append, List.getLast?_cons_cons]
    rw [dotted, List.getLast?_cons_cons, List.getLast?_cons_cons, slashes, ih]

/-- Each dot in front of a path asks for one step that stays, and the path for the steps it did. -/
theorem furtherSteps_dotted (extras : List Nat) (path : List Char) :
    furtherSteps (dotted extras path) =
      List.replicate extras.length .stay ++ furtherSteps path := by
  rw [furtherSteps, ofPieces_dotted, getLast?_dotted, List.append_assoc, furtherSteps]

/-- Dots bring in nothing but points and slashes. -/
theorem mem_dotted {c : Char} (noPoint : c ≠ '.') (noSlash : c ≠ '/') {extras : List Nat}
    {path : List Char} : c ∈ dotted extras path ↔ c ∈ path := by
  induction extras with
  | nil => rfl
  | cons extra later ih =>
    simp [dotted, noPoint, noSlash, ih]

end Path

namespace FileSystem

/-- From a directory a relative path leads where it leads behind dots, however many there are. -/
theorem lead_join_dotted {files : FileSystem} {base path other : String} {extras : List Nat}
    (directory : files.isDirectory base = true) (relative : Path.isAbsolute path = false)
    (behind : other.toList = Path.dotted extras path.toList) (followLast : Bool) :
    files.lead (Path.join base other) followLast = files.lead (Path.join base path) followLast := by
  obtain ⟨here, found, stands⟩ : ∃ here, files.locate base true = .ok (.present here) ∧
      files.entry? here = some .directory :=
    follow?_eq_some.mp (by simpa [isDirectory] using directory)
  obtain ⟨_, some, _, _⟩ := locate_eq_walk found
  obtain ⟨stem, same, joined⟩ := @Path.exists_stem base (by rintro rfl; simp at some)
  have starts := Path.isAbsolute_eq_false_iff.mp relative
  have alike : Path.isAbsolute other = false := by
    rw [Path.isAbsolute_eq_false_iff, behind]
    exact Path.head?_dotted starts
  -- The walk is in the directory when it comes to the dots, so it goes on as without them.
  have walks (slashed : Bool) :
      files.walk followLast slashed linkLimit []
          (Stride.ofPath (stem ++ '/' :: Path.dotted extras path.toList)) =
        files.walk followLast slashed linkLimit []
          (Stride.ofPath (stem ++ '/' :: path.toList)) := by
    rw [Path.ofPath_append, Path.ofPath_append, same, Path.furtherSteps_dotted]
    exact walk_idle (Path.furtherSteps_ne_nil starts) (@walk_ofPieces files false _ _ found) stands
  have ends : (stem ++ '/' :: Path.dotted extras path.toList).getLast? =
      (stem ++ '/' :: path.toList).getLast? := by
    rw [List.getLast?_append, Path.getLast?_dotted, ← List.getLast?_append]
  have nul : '\u0000' ∈ stem ++ '/' :: Path.dotted extras path.toList ↔
      '\u0000' ∈ stem ++ '/' :: path.toList := by
    simp [Path.mem_dotted]
  simp [lead, joined _ relative, joined _ alike, behind, nul, ends, walks]

end FileSystem

end TemplateLint
