import TemplateLint.Proofs.Files.FileSystem
import TemplateLint.Proofs.Files.Path

/-! What a walk passes through, and what becomes of it when its steps or its rules change. -/

namespace TemplateLint

namespace FileSystem

/-- Something stands at a location, and directories stand at all locations above it. -/
structure Reached (files : FileSystem) (location : Location) : Prop where
  stands : files.entry? location ≠ none
  below : ∀ outer, outer <+: location → outer ≠ location → files.entry? outer = some .directory

/-- The root is reached. -/
theorem reached_root (files : FileSystem) : Reached files [] := by
  refine ⟨by simp, ?_⟩
  intro outer above notRoot
  exact absurd (List.prefix_nil.mp above) notRoot

/-- From what is reached the directory above it is reached. -/
theorem Reached.up {files : FileSystem} {location : Location} (reached : Reached files location) :
    Reached files location.dropLast := by
  -- The directory above the root is the root itself.
  by_cases root : location = []
  · subst root
    exact reached
  · have shorter : location.dropLast ≠ location := by
      intro same
      have sizes := congrArg List.length same
      have some := List.length_pos_iff.mpr root
      simp only [List.length_dropLast] at sizes
      omega
    -- The directory above is one of those that were passed on the way.
    refine ⟨?_, ?_⟩
    · rw [reached.below _ (List.dropLast_prefix location) shorter]
      simp
    · intro outer above _
      refine reached.below outer (above.trans (List.dropLast_prefix location)) ?_
      intro same
      subst same
      exact shorter (List.IsPrefix.eq_of_length_le (List.dropLast_prefix _) above.length_le)

/-- What stands in a directory that is reached is reached. -/
theorem Reached.down {files : FileSystem} {location : Location} (reached : Reached files location)
    (directory : files.entry? location = some .directory) {name : String}
    (stands : files.entry? (location ++ [name]) ≠ none) : Reached files (location ++ [name]) := by
  refine ⟨stands, ?_⟩
  intro outer above notThere
  -- A shorter start of the location is a start of the directory's.
  rcases List.prefix_concat_iff.mp above with same | within
  · exact absurd same notThere
  · by_cases same : outer = location
    · rw [same, directory]
    · exact reached.below outer within same

/-- A walk from a place that is reached ends at a place that is reached. -/
theorem stroll_reached {files : FileSystem} {followLast slashed : Bool}
    {onward : Location → List Stride → Except FileError Place}
    (later : ∀ {current steps location}, Reached files current →
      onward current steps = .ok (.present location) → Reached files location)
    {current location : Location} {steps : List Stride} (reached : Reached files current)
    (found : files.stroll followLast slashed onward current steps = .ok (.present location)) :
    Reached files location := by
  induction steps generalizing current with
  | nil =>
    obtain rfl : current = location := by simpa [stroll] using found
    exact reached
  | cons step rest ih =>
    unfold stroll at found
    split at found
    · simp at found
    · rename_i here
      simp only [ne_eq, Decidable.not_not] at here
      cases step with
      | stay => exact ih reached found
      | up => exact ih reached.up found
      | down name =>
        simp only at found
        split at found
        · simp at found
        · split at found
          · split at found
            · simp at found
            · split at found <;> simp at found
          · rename_i target stands
            split at found
            · -- The link itself is what is found.
              obtain rfl : current ++ [name] = location := by simpa using found
              exact reached.down here (by simp [stands])
            · refine later ?_ found
              split
              · exact reached_root files
              · exact reached
          · -- What is neither a link nor free is stepped to, below a directory.
            rename_i entry _ stands
            exact ih (reached.down here (by simp [stands])) found

/-- Every walk ends at a place that is reached. -/
theorem walk_reached {files : FileSystem} {followLast slashed : Bool} {links : Nat}
    {current location : Location} {steps : List Stride} (reached : Reached files current)
    (found : files.walk followLast slashed links current steps = .ok (.present location)) :
    Reached files location := by
  induction links generalizing current location steps with
  | zero => exact stroll_reached (by simp) reached found
  | succ links ih => exact stroll_reached ih reached found

/-- A path leads to what is reached. -/
theorem locate_reached {files : FileSystem} {path : String} {followLast : Bool}
    {location : Location} (found : files.locate path followLast = .ok (.present location)) :
    Reached files location := by
  obtain ⟨_, _, _, walked⟩ := locate_eq_walk found
  exact walk_reached (reached_root files) walked

/-- A path is found where it leads to something. -/
theorem find_eq_ok {files : FileSystem} {path : String} {location : Location} :
    files.find path = .ok location ↔ files.locate path true = .ok (.present location) := by
  simp only [find]
  cases place : files.locate path true with
  | error cause => simp
  | ok found => cases found <;> simp

/-- Where a text is read there is a file that holds it, or a sink that holds nothing. -/
theorem readText_eq_ok {files : FileSystem} {path text : String} :
    files.readText path = .ok text ↔
      ∃ location, files.find path = .ok location ∧
        ((∃ executable, files.entry? location = some (.file (.text text) executable)) ∨
          files.entry? location = some .sink ∧ text = "") := by
  simp only [readText, read]
  -- Of what can stand at a location only files and sinks can be read.
  cases found : files.find path with
  | error cause => simp
  | ok location =>
    simp only [Except.ok.injEq, exists_eq_left']
    cases stands : files.entry? location with
    | none => simp
    | some entry =>
      cases entry with
      | file content executable => cases content <;> simp [Content.text?, eq_comm]
      | directory => simp
      | link target => simp
      | sink => simp [Content.text?, Content.empty, eq_comm]

/-- What stands at a location is a directory or one of the entries of the disk. -/
theorem mem_of_stands {files : FileSystem} {location : Location} {entry : Entry}
    (stands : files.entry? location = some entry) :
    entry = .directory ∨ (location, entry) ∈ files.entries := by
  unfold entry? at stands
  -- The root is not stored, but always there.
  split at stands
  · exact .inl (Option.some.inj stands).symm
  · obtain ⟨before, after, split, _⟩ := List.lookup_eq_some_iff.mp stands
    exact .inr (by simp [split])

/-- A path holds something exactly when it leads to a place where something is. -/
theorem holds_iff {files : FileSystem} {path : String} :
    files.holds path = true ↔ ∃ location, files.locate path true = .ok (.present location) := by
  simp only [holds, follow?, ← find_eq_ok]
  -- What a walk leads to is there, so only the walk can fail.
  cases found : files.find path with
  | error cause => simp
  | ok location =>
    have reached := locate_reached (find_eq_ok.mp found)
    simp [Option.isSome_iff_ne_none, reached.stands]

/-- A path names something exactly when it leads to a place without following a last link. -/
theorem names_iff {files : FileSystem} {path : String} :
    files.names path = true ↔ ∃ location, files.locate path false = .ok (.present location) := by
  simp only [names]
  cases place : files.locate path false with
  | error cause => simp
  | ok found => cases found <;> simp

/-- Where nothing is found at the end of a walk, its last link was no link to follow. -/
theorem stroll_follow {files : FileSystem} {slashed : Bool}
    {onward followed : Location → List Stride → Except FileError Place}
    (later : ∀ {current steps}, (∀ location, onward current steps ≠ .ok (.present location)) →
      followed current steps = onward current steps)
    {current : Location} {steps : List Stride}
    (absent : ∀ location, files.stroll false slashed onward current steps ≠
      .ok (.present location)) :
    files.stroll true slashed followed current steps =
      files.stroll false slashed onward current steps := by
  induction steps generalizing current with
  | nil => rfl
  | cons step rest ih =>
    by_cases here : files.entry? current = some .directory
    · cases step with
      | stay =>
        simp only [stroll, here, ne_eq, not_true_eq_false, if_false] at absent ⊢
        exact ih absent
      | up =>
        simp only [stroll, here, ne_eq, not_true_eq_false, if_false] at absent ⊢
        exact ih absent
      | down name =>
        simp only [stroll, here, ne_eq, not_true_eq_false, if_false] at absent ⊢
        by_cases long : longestName < name.utf8ByteSize
        · simp only [long, if_true]
        · simp only [long, if_false] at absent ⊢
          cases stands : files.entry? (current ++ [name]) with
          | none => rfl
          | some entry =>
            simp only [stands] at absent ⊢
            cases entry with
            | file content executable => exact ih absent
            | directory => exact ih absent
            | sink => exact ih absent
            | link target =>
              -- A link at the very end would have been found itself.
              by_cases last : rest = []
              · simp [last] at absent
              · simp only [last, if_false, Bool.false_and, decide_false,
                  Bool.false_eq_true] at absent ⊢
                exact later absent
    · simp only [stroll, ne_eq, here, not_false_eq_true, if_true]

/-- A path that names nothing leads to the same place whether or not its last link counts. -/
theorem locate_follow {files : FileSystem} {path : String}
    (absent : ∀ location, files.locate path false ≠ .ok (.present location)) :
    files.locate path true = files.locate path false := by
  -- The two walks part only at a link in the last place, which would be found.
  have walks : ∀ links {slashed current steps},
      (∀ location, files.walk false slashed links current steps ≠ .ok (.present location)) →
        files.walk true slashed links current steps =
          files.walk false slashed links current steps := by
    intro links
    induction links with
    | zero => exact fun absent => stroll_follow (fun _ => rfl) absent
    | succ links ih => exact fun absent => stroll_follow ih absent
  simp only [locate] at absent ⊢
  split
  · rfl
  · split
    · rfl
    · split
      · rfl
      · rename_i noNul notEmpty notLong
        simp only [noNul, notEmpty, notLong, if_false, Bool.false_eq_true] at absent
        exact walks _ absent

/-- A free spot that is found without following a last link has the name of the last step. -/
theorem stroll_vacant_name {files : FileSystem} {slashed : Bool}
    {onward : Location → List Stride → Except FileError Place}
    (later : ∀ {current steps spot}, onward current steps = .ok (.vacant spot false) →
      ∃ name, steps.getLast? = some (.down name) ∧ spot.getLast? = some name)
    {current spot : Location} {steps : List Stride}
    (found : files.stroll false slashed onward current steps = .ok (.vacant spot false)) :
    ∃ name, steps.getLast? = some (.down name) ∧ spot.getLast? = some name := by
  induction steps generalizing current with
  | nil => simp [stroll] at found
  | cons step rest ih =>
    -- A last step that is still ahead is the last one now.
    have ahead : ∀ {name}, rest.getLast? = some (.down name) →
        (step :: rest).getLast? = some (.down name) := by
      intro name last
      rw [List.getLast?_cons, last]
      rfl
    have onwards : (∃ name, rest.getLast? = some (.down name) ∧ spot.getLast? = some name) →
        ∃ name, (step :: rest).getLast? = some (.down name) ∧ spot.getLast? = some name := by
      rintro ⟨name, last, named⟩
      exact ⟨name, ahead last, named⟩
    unfold stroll at found
    split at found
    · simp at found
    · cases step with
      | stay => exact onwards (ih found)
      | up => exact onwards (ih found)
      | down other =>
        simp only at found
        split at found
        · simp at found
        · split at found
          · split at found
            · rename_i none
              subst none
              obtain rfl : current ++ [other] = spot := by simpa using found
              exact ⟨other, rfl, List.getLast?_concat⟩
            · split at found <;> simp at found
          · split at found
            · simp at found
            · rename_i notLast
              have more : rest ≠ [] := by simpa using notLast
              obtain ⟨name, last, named⟩ := later found
              have ends := List.getLast?_eq_some_getLast more
              rw [List.getLast?_append, ends, Option.some_or, ← ends] at last
              exact ⟨name, ahead last, named⟩
          · exact onwards (ih found)

/-- A free spot that a path leads to without following a last link has the path's last name. -/
theorem locate_vacant_name {files : FileSystem} {path : String} {spot : Location}
    (found : files.locate path false = .ok (.vacant spot false)) :
    ∃ name, (Stride.ofPath path.toList).getLast? = some (.down name) ∧
      spot.getLast? = some name := by
  -- Links on the way put their steps in front, so the last step stays the last.
  have walks : ∀ links {slashed current steps spot},
      files.walk false slashed links current steps = .ok (.vacant spot false) →
        ∃ name, steps.getLast? = some (.down name) ∧ spot.getLast? = some name := by
    intro links
    induction links with
    | zero => exact fun found => stroll_vacant_name (by simp) found
    | succ links ih => exact fun found => stroll_vacant_name ih found
  obtain ⟨_, _, _, walked⟩ := locate_eq_walk found
  exact walks _ walked

/-- There are no links on the disk. -/
def Unlinked (files : FileSystem) : Prop :=
  ∀ location target, files.entry? location ≠ some (.link target)

/-- Without links a walk does not depend on what becomes of them. -/
theorem stroll_of_unlinked {files : FileSystem} (unlinked : files.Unlinked)
    (first second slashed : Bool) (onward other : Location → List Stride → Except FileError Place)
    (current : Location) (steps : List Stride) :
    files.stroll first slashed onward current steps =
      files.stroll second slashed other current steps := by
  -- Only at a link do the two walks look at what tells them apart.
  induction steps generalizing current with
  | nil => rfl
  | cons step rest ih =>
    unfold stroll
    split
    · rfl
    · cases step with
      | stay => exact ih current
      | up => exact ih current.dropLast
      | down name =>
        simp only
        split
        · rfl
        · split
          · rfl
          · rename_i target stands
            exact absurd stands (unlinked _ target)
          · exact ih (current ++ [name])

/-- Without links a path leads where its names lead. -/
theorem locate_of_unlinked {files : FileSystem} (unlinked : files.Unlinked) (path : String) :
    files.locate path true = files.locate path false := by
  have walks : ∀ links slashed current steps,
      files.walk true slashed links current steps = files.walk false slashed links current steps := by
    intro links slashed current steps
    -- A walk that may follow no link and one that may do the same steps.
    cases links with
    | zero => exact stroll_of_unlinked unlinked true false slashed _ _ current steps
    | succ links => exact stroll_of_unlinked unlinked true false slashed _ _ current steps
  simp only [locate, walks]

/-- A walk that goes on after some steps has come to a place by them from which it can go on. -/
theorem stroll_through {files : FileSystem} {followLast slashed other : Bool}
    {onward followed : Location → List Stride → Except FileError Place} {more : List Stride}
    (goesOn : more ≠ []) {enters : Location → Prop}
    (later : ∀ {current steps location}, onward current (steps ++ more) = .ok (.present location) →
      ∃ through, followed current steps = .ok (.present through) ∧ enters through)
    (start : ∀ {current location},
      files.stroll followLast slashed onward current more = .ok (.present location) →
        enters current)
    {current location : Location} {steps : List Stride}
    (found : files.stroll followLast slashed onward current (steps ++ more) =
      .ok (.present location)) :
    ∃ through, files.stroll true other followed current steps = .ok (.present through) ∧
      enters through := by
  induction steps generalizing current with
  | nil => exact ⟨current, rfl, start found⟩
  | cons step rest ih =>
    -- With steps still ahead no link is the last, so both walks follow it.
    have unfinished : rest ++ more ≠ [] := by simp [goesOn]
    simp only [List.cons_append, stroll] at found
    split at found
    · simp at found
    · rename_i here
      simp only [ne_eq, Decidable.not_not] at here
      cases step with
      | stay =>
        simp only [stroll, here, ne_eq, not_true_eq_false, if_false]
        exact ih found
      | up =>
        simp only [stroll, here, ne_eq, not_true_eq_false, if_false]
        exact ih found
      | down name =>
        simp only at found
        simp only [stroll, here, ne_eq, not_true_eq_false, if_false]
        by_cases long : longestName < name.utf8ByteSize
        · simp [long] at found
        · simp only [long, if_false] at found ⊢
          cases stands : files.entry? (current ++ [name]) with
          | none =>
            simp only [stands] at found
            split at found <;> simp at found
          | some entry =>
            simp only [stands] at found ⊢
            cases entry with
            | file content executable => exact ih found
            | directory => exact ih found
            | sink => exact ih found
            | link target =>
              simp only [unfinished, decide_false, Bool.false_and, Bool.false_eq_true, if_false,
                ← List.append_assoc] at found
              simpa using later found

/-- A step starts in a directory, and a step down leads to something. -/
def Enters (files : FileSystem) (step : Stride) (location : Location) : Prop :=
  files.entry? location = some .directory ∧
    ∀ name, step = .down name → files.entry? (location ++ [name]) ≠ none

/-- One step that is taken could be taken. -/
theorem enters_of_stroll {files : FileSystem} {followLast slashed : Bool}
    {onward : Location → List Stride → Except FileError Place} {step : Stride}
    {current location : Location}
    (found : files.stroll followLast slashed onward current [step] = .ok (.present location)) :
    Enters files step current := by
  simp only [stroll] at found
  -- A free name in the last place would have been found as free.
  split at found
  · simp at found
  · rename_i here
    refine ⟨by simpa using here, ?_⟩
    rintro name rfl
    simp only at found
    split at found
    · simp at found
    · split at found
      · simp at found
      · rename_i stands
        simp [stands]
      · rename_i entry _ stands
        simp [stands]

/-- What lies one step beyond others is found only if the step can be taken where these lead. -/
theorem walk_through {files : FileSystem} {followLast slashed other : Bool} {links : Nat}
    {step : Stride} {current location : Location} {steps : List Stride}
    (found : files.walk followLast slashed links current (steps ++ [step]) =
      .ok (.present location)) :
    ∃ through, files.walk true other links current steps = .ok (.present through) ∧
      Enters files step through := by
  induction links generalizing current location steps with
  | zero => exact stroll_through (by simp) (by simp) enters_of_stroll found
  | succ links ih => exact stroll_through (by simp) ih enters_of_stroll found

/-- Walks that move alike find the same, wherever else they stay. -/
theorem stroll_agrees {files : FileSystem} {slashed other : Bool}
    {onward followed : Location → List Stride → Except FileError Place}
    (later : ∀ {current steps others location found},
      steps.filter (· ≠ .stay) = others.filter (· ≠ .stay) →
      onward current steps = .ok (.present location) →
      followed current others = .ok (.present found) → location = found)
    {current location found : Location} {steps others : List Stride}
    (alike : steps.filter (· ≠ .stay) = others.filter (· ≠ .stay))
    (first : files.stroll true slashed onward current steps = .ok (.present location))
    (second : files.stroll true other followed current others = .ok (.present found)) :
    location = found := by
  -- Where one walk stays the other waits, and every move is made by both.
  induction steps generalizing current others with
  | nil =>
    obtain rfl : current = location := by simpa [stroll] using first
    induction others with
    | nil => simpa [stroll] using second
    | cons step rest ih =>
      cases step with
      | stay =>
        simp only [stroll] at second
        split at second
        · simp at second
        · exact ih (by simpa using alike) second
      | up => simp at alike
      | down name => simp at alike
  | cons step rest ih =>
    simp only [stroll] at first
    split at first
    · simp at first
    · rename_i here
      simp only [ne_eq, Decidable.not_not] at here
      cases step with
      | stay => exact ih (by simpa using alike) first second
      | up =>
        induction others with
        | nil => simp at alike
        | cons own more waits =>
          simp only [stroll, here, ne_eq, not_true_eq_false, if_false] at second
          cases own with
          -- The second walk stays where it is and makes the move after that.
          | stay => exact waits second (by simpa using alike)
          | up => exact ih (by simpa using alike) first second
          | down name => simp at alike
      | down name =>
        induction others with
        | nil => simp at alike
        | cons own more waits =>
          simp only [stroll, here, ne_eq, not_true_eq_false, if_false] at second
          cases own with
          | stay => exact waits second (by simpa using alike)
          | up => simp at alike
          | down same =>
            obtain ⟨rfl, rest⟩ : name = same ∧ _ := by simpa using alike
            simp only at first second
            split at first
            · simp at first
            · rename_i short
              simp only [short, if_false] at second
              -- Both find the same entry under the name, and go on from it alike.
              cases stands : files.entry? (current ++ [name]) with
              | none =>
                simp only [stands] at first
                split at first
                · simp at first
                · split at first <;> simp at first
              | some entry =>
                simp only [stands] at first second
                cases entry with
                | file content executable => exact ih (by simpa using rest) first second
                | directory => exact ih (by simpa using rest) first second
                | sink => exact ih (by simpa using rest) first second
                | link target =>
                  simp only [Bool.not_true, Bool.and_false, Bool.false_eq_true, if_false] at first second
                  refine later ?_ first second
                  simp [rest]

/-- Walks that move alike find the same, however many links they follow. -/
theorem walk_agrees {files : FileSystem} {slashed other : Bool} {links : Nat}
    {current location found : Location} {steps others : List Stride}
    (alike : steps.filter (· ≠ .stay) = others.filter (· ≠ .stay))
    (first : files.walk true slashed links current steps = .ok (.present location))
    (second : files.walk true other links current others = .ok (.present found)) :
    location = found := by
  -- The induction is on the links; each stroll hands on to walks that move alike.
  induction links generalizing current location found steps others with
  | zero => exact stroll_agrees (by simp) alike first second
  | succ links ih =>
    refine stroll_agrees ?_ alike first second
    exact fun same here there => ih same here there

/-- A path that can be walked leads where the walk does. -/
theorem locate_of_walk {path : String} (noNul : '\u0000' ∉ path.toList) (some : path.toList ≠ [])
    (short : path.utf8ByteSize ≤ longestPath) (files : FileSystem) (followLast : Bool) :
    files.locate path followLast =
      files.walk followLast (path.toList.getLast? = Option.some '/') linkLimit []
        (Stride.ofPath path.toList) := by
  simp only [locate]
  rw [if_neg (by simpa using noNul), if_neg some, if_neg (Nat.not_lt.mpr short)]

/-- Paths that move alike lead to one location if they lead anywhere. -/
theorem find_agrees {files : FileSystem} {first second : String} {location found : Location}
    (alike : Stride.moves first.toList = Stride.moves second.toList)
    (here : files.find first = .ok location) (there : files.find second = .ok found) :
    location = found := by
  have one := locate_eq_walk (find_eq_ok.mp here)
  have two := locate_eq_walk (find_eq_ok.mp there)
  exact walk_agrees alike one.2.2.2 two.2.2.2

/-- Paths that move alike hold one text if they hold any. -/
theorem readText_agrees {files : FileSystem} {first second text other : String}
    (alike : Stride.moves first.toList = Stride.moves second.toList)
    (here : files.readText first = .ok text) (there : files.readText second = .ok other) :
    text = other := by
  obtain ⟨location, found, stands⟩ := readText_eq_ok.mp here
  obtain ⟨place, foundOther, standsOther⟩ := readText_eq_ok.mp there
  -- Both paths lead to one location, where one entry stands.
  obtain rfl := find_agrees alike found foundOther
  rcases stands with ⟨executable, file⟩ | ⟨sink, rfl⟩
  · rcases standsOther with ⟨_, same⟩ | ⟨sink, rfl⟩
    · rw [file] at same
      simpa using (Entry.file.inj (Option.some.inj same)).1
    · simp [file] at sink
  · rcases standsOther with ⟨_, same⟩ | ⟨_, rfl⟩
    · simp [sink] at same
    · rfl

/-- A walk that follows links to a directory may stay there for one more step. -/
theorem stroll_stay {files : FileSystem} {slashed : Bool}
    {onward : Location → List Stride → Except FileError Place}
    (later : ∀ {current steps location}, onward current steps = .ok (.present location) →
      files.entry? location = some .directory →
      onward current (steps ++ [.stay]) = .ok (.present location))
    {current location : Location} {steps : List Stride}
    (found : files.stroll true slashed onward current steps = .ok (.present location))
    (directory : files.entry? location = some .directory) :
    files.stroll true slashed onward current (steps ++ [.stay]) = .ok (.present location) := by
  -- The further step matters only at the end, where a directory stands.
  induction steps generalizing current with
  | nil =>
    obtain rfl : current = location := by simpa [stroll] using found
    simp [stroll, directory]
  | cons step rest ih =>
    simp only [List.cons_append, stroll] at found ⊢
    split at found
    · simp at found
    · rename_i here
      rw [if_neg here]
      cases step with
      | stay => exact ih found
      | up => exact ih found
      | down name =>
        simp only at found ⊢
        split at found
        · simp at found
        · rename_i short
          rw [if_neg short]
          split at found
          · split at found
            · simp at found
            · split at found <;> simp at found
          · -- What a link leads to is walked later, with one link fewer to follow.
            rename_i target stands
            simp only [Bool.not_true, Bool.and_false, Bool.false_eq_true, if_false] at found
            simpa [stands] using later found directory
          · exact ih found

/-- A walk that follows links to a directory may stay there for one more step. -/
theorem walk_stay {files : FileSystem} {slashed : Bool} {links : Nat}
    {current location : Location} {steps : List Stride}
    (found : files.walk true slashed links current steps = .ok (.present location))
    (directory : files.entry? location = some .directory) :
    files.walk true slashed links current (steps ++ [.stay]) = .ok (.present location) := by
  induction links generalizing current location steps with
  | zero => exact stroll_stay (by simp) found directory
  | succ links ih => exact stroll_stay ih found directory

/-- What a path from a base leads to is found in the directory that the base leads to. -/
theorem through_of_join {files : FileSystem} {path name : String} {followLast : Bool}
    {location : Location} (some : path.toList ≠ []) (whole : '/' ∉ name.toList)
    (found : files.locate (Path.join path name) followLast = .ok (.present location)) :
    ∃ through, files.walk true (path.toList.getLast? = Option.some '/') linkLimit []
        (Stride.ofPieces path.toList) = .ok (.present through) ∧
      Enters files (Path.lastStride name) through ∧
      '\u0000' ∉ path.toList ∧ path.utf8ByteSize ≤ longestPath := by
  obtain ⟨noNul, _, short, walked⟩ := locate_eq_walk found
  rw [Path.ofPath_join some whole] at walked
  -- The walk along the joined path passes the place that the base leads to.
  obtain ⟨through, passed, enters⟩ := walk_through walked
  refine ⟨through, passed, enters, ?_, ?_⟩
  · intro nul
    exact noNul (Path.mem_join_of_mem whole nul)
  · exact Nat.le_trans (Path.utf8ByteSize_le_join whole) short

/-- A path through which a name leads somewhere leads to a directory. -/
theorem find_of_join {files : FileSystem} {path name : String} {followLast : Bool}
    {location : Location} (some : path.toList ≠ []) (whole : '/' ∉ name.toList)
    (found : files.locate (Path.join path name) followLast = .ok (.present location)) :
    ∃ directory, files.find path = .ok directory ∧
      files.entry? directory = Option.some .directory := by
  obtain ⟨through, passed, enters, noNul, short⟩ := through_of_join some whole found
  refine ⟨through, find_eq_ok.mpr ?_, enters.1⟩
  rw [locate_of_walk noNul some short, Stride.ofPath_eq]
  -- A slash at the end of the path asks for what the name asks for as well.
  split
  · exact walk_stay passed enters.1
  · rw [List.append_nil, passed]

/-- A path through which a name leads somewhere is one of a directory. -/
theorem isDirectory_of_join {files : FileSystem} {path name : String} {followLast : Bool}
    {location : Location} (some : path.toList ≠ []) (whole : '/' ∉ name.toList)
    (found : files.locate (Path.join path name) followLast = .ok (.present location)) :
    files.isDirectory path = true := by
  obtain ⟨directory, here, stands⟩ := find_of_join some whole found
  rw [isDirectory, follow?_eq_some.mpr ⟨directory, find_eq_ok.mp here, stands⟩]
  rfl

/-- A name in a directory leads to what stands under it there. -/
theorem stands_of_join {files : FileSystem} {path name : String} {followLast : Bool}
    {location directory : Location} (some : path.toList ≠ []) (whole : '/' ∉ name.toList)
    (proper : Path.lastStride name = .down name) (here : files.find path = .ok directory)
    (found : files.locate (Path.join path name) followLast = .ok (.present location)) :
    files.entry? (directory ++ [name]) ≠ none := by
  obtain ⟨through, passed, enters, _, _⟩ := through_of_join some whole found
  obtain ⟨_, _, _, walked⟩ := locate_eq_walk (find_eq_ok.mp here)
  -- The path itself may end in a slash, which moves it no further.
  have same := walk_agrees (by rw [← Stride.moves_eq, Stride.moves]) passed walked
  rw [← same]
  exact enters.2 name proper

end FileSystem

end TemplateLint
