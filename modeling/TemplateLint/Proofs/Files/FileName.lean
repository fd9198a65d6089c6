import TemplateLint.Proofs.Files.Path

/-! How a path ends, how its last name ends, and how a path seen from a base ends. -/

namespace TemplateLint

namespace Text

/-- What follows a text without a separator makes its last piece longer. -/
theorem splitOn_append_of_not_mem {separator : Char} {after : List Char}
    (absent : separator ∉ after) (before : List Char) :
    ∃ pieces last, splitOn separator before = pieces ++ [last] ∧
      splitOn separator (before ++ after) = pieces ++ [last ++ after] := by
  -- The induction is on the text before: its first piece grows until a separator comes.
  induction before with
  | nil => exact ⟨[], [], rfl, by simp [splitOn_of_not_mem absent]⟩
  | cons c rest ih =>
    obtain ⟨pieces, last, old, new⟩ := ih
    by_cases same : c = separator
    · exact ⟨[] :: pieces, last, by simp [splitOn, same, old], by simp [splitOn, same, new]⟩
    · cases pieces with
      | nil => exact ⟨[], c :: last, by simp [splitOn, same, old], by simp [splitOn, same, new]⟩
      | cons piece more =>
        exact ⟨(c :: piece) :: more, last, by simp [splitOn, same, old],
          by simp [splitOn, same, new]⟩

end Text

namespace Path

/-- The steps of a path are those of its pieces, after one for how it starts. -/
theorem components_eq (path : List Char) :
    ∃ start, components path = start ++
      (((Text.splitOn '/' path).filter (· ≠ [])).filter (· ≠ ['.'])).map Component.ofPiece := by
  simp only [components]
  -- A path may start at the root, with a point, or with a name.
  split
  · exact ⟨[.root], rfl⟩
  · split
    · exact ⟨[.here], rfl⟩
    · exact ⟨[], rfl⟩

/-- A path that ends in neither a slash nor a point ends as its last name does. -/
theorem fileName?_of_getLast? {path : String} {c : Char} (last : path.toList.getLast? = some c)
    (noSlash : c ≠ '/') (noPoint : c ≠ '.') :
    ∃ name, fileName? path = some name ∧ name.getLast? = some c := by
  obtain ⟨before, text⟩ := List.getLast?_eq_some_iff.mp last
  have whole : '/' ∉ [c] := by simpa using noSlash.symm
  obtain ⟨pieces, piece, _, split⟩ := Text.splitOn_append_of_not_mem whole before
  obtain ⟨start, steps⟩ := components_eq path.toList
  refine ⟨piece ++ [c], ?_, List.getLast?_concat⟩
  -- The last piece is neither empty nor made of points, so it is a name.
  have notHere : piece ++ [c] ≠ ['.'] := by
    intro same
    have ends := congrArg List.getLast? same
    rw [List.getLast?_concat] at ends
    exact noPoint (by simpa using ends)
  have notUp : piece ++ [c] ≠ ['.', '.'] := by
    intro same
    have ends := congrArg List.getLast? same
    rw [List.getLast?_concat] at ends
    exact noPoint (by simpa using ends)
  -- What is left out before it does not matter, since it comes last.
  have kept : (((Text.splitOn '/' path.toList).filter (· ≠ [])).filter (· ≠ ['.'])).map
      Component.ofPiece =
        ((pieces.filter (· ≠ [])).filter (· ≠ ['.'])).map Component.ofPiece ++
          [.name (piece ++ [c])] := by
    rw [text, split, List.filter_append, List.filter_append, List.map_append]
    simp [notHere, Component.ofPiece, notUp]
  rw [fileName?, steps, kept, ← List.append_assoc, List.getLast?_concat]

/-- An extension ends as the name does. -/
theorem extension?_getLast? {path : String} {name extension : List Char} {c : Char}
    (named : fileName? path = some name) (last : name.getLast? = some c) (noPoint : c ≠ '.')
    (found : extension? path = some extension) : extension.getLast? = some c := by
  -- Read from its end, the name opens with a character that is no point.
  obtain ⟨before, rfl⟩ := List.getLast?_eq_some_iff.mp last
  have pointless : (decide (c ≠ '.')) = true := by simpa using noPoint
  simp only [extension?, named, List.reverse_append, List.reverse_cons, List.reverse_nil,
    List.nil_append, List.singleton_append, List.takeWhile_cons, List.dropWhile_cons, pointless,
    if_true] at found
  split at found
  · obtain rfl := Option.some.inj found
    simp
  · simp at found

/-- Where nothing is shared only the way from nothing to nothing has no steps. -/
theorem eq_nil_of_stepsBetween {path base : List Component}
    (between : stepsBetween false path base = some []) : path = [] := by
  -- Every further step of the base would be a step up.
  cases path with
  | nil => rfl
  | cons step rest =>
    cases base with
    | nil => simp [stepsBetween] at between
    | cons other base => cases other <;> simp [stepsBetween] at between

/-- The way to a path is empty, or it ends by going up or as the path does. -/
theorem getLast?_of_stepsBetween {shared : Bool} {path base steps : List Component}
    (between : stepsBetween shared path base = some steps) :
    steps = [] ∨ steps.getLast? = some .up ∨ steps.getLast? = path.getLast? := by
  induction base generalizing shared path steps with
  | nil =>
    cases path with
    | nil => exact .inl (Option.some.inj between).symm
    | cons step rest => exact .inr (.inr (by rw [← Option.some.inj between]))
  | cons other base ih =>
    cases path with
    | nil =>
      simp only [stepsBetween, Option.map_eq_some_iff] at between
      obtain ⟨rest, inner, rfl⟩ := between
      -- One more step up comes before those out of the rest of the base.
      refine .inr (.inl ?_)
      rcases ih inner with rfl | up | same
      · rfl
      · rw [List.getLast?_cons, up]
        rfl
      · have none : rest = [] := by simpa using same
        simp [none]
    | cons step rest =>
      simp only [stepsBetween] at between
      split at between
      · -- A shared step is not taken, and the path may end with it.
        rcases ih between with none | up | same
        · exact .inl none
        · exact .inr (.inl up)
        · cases rest with
          | nil => exact .inl (by simpa using same)
          | cons next more => exact .inr (.inr (by rw [same, List.getLast?_cons_cons]))
      · -- A point in the base stays in place, a step up has no inverse, and a name is left.
        split at between
        · simp only [Option.map_eq_some_iff] at between
          obtain ⟨later, inner, rfl⟩ := between
          refine .inr ?_
          rcases ih inner with rfl | up | same
          · rw [eq_nil_of_stepsBetween inner]
            exact .inr rfl
          · rw [List.getLast?_cons, up]
            exact .inl rfl
          · rw [List.getLast?_cons, List.getLast?_cons, same]
            exact .inr rfl
        · simp at between
        · refine .inr (.inr ?_)
          rw [← Option.some.inj between, List.cons_append, List.getLast?_cons,
            List.getLast?_append]
          cases last : (step :: rest).getLast? with
          | none => simp at last
          | some own => rfl

/-- A path that is built from steps ends as its last step does. -/
theorem ofComponents_concat (steps : List Component) (step : Component) :
    step.text <:+ (ofComponents (steps ++ [step])).toList := by
  rw [ofComponents, List.foldl_append]
  simpa using suffix_join (steps.foldl (fun path step => join path (.ofList step.text)) "")
    (.ofList step.text)

/-- A step of a path is some text. -/
theorem text_ne_nil {path : List Char} {step : Component} (member : step ∈ components path) :
    step.text ≠ [] := by
  cases step with
  | root => simp [Component.text]
  | here => simp [Component.text]
  | up => simp [Component.text]
  | name value =>
    -- A name is a piece between slashes, of which the empty ones do not count.
    have inside : Component.name value ∈ (((Text.splitOn '/' path).filter (· ≠ [])).filter
        (· ≠ ['.'])).map Component.ofPiece := by
      simp only [components] at member
      split at member
      · simpa using member
      · split at member
        · simpa using member
        · exact member
    -- The first component may be the root or a point, but a name it is not.
    obtain ⟨piece, kept, same⟩ := List.mem_map.mp inside
    have some : piece ≠ [] := by simpa using (List.mem_filter.mp (List.mem_filter.mp kept).1).2
    simp only [Component.ofPiece] at same
    split at same
    · simp at same
    · obtain rfl : piece = value := by simpa using same
      exact some

/-- A path as seen from a base ends, if not with a point, as the path's last name does. -/
theorem fileName?_of_relativeTo? {base path relative : String} {c : Char}
    (seen : relativeTo? base path = some relative) (last : relative.toList.getLast? = some c)
    (noSlash : c ≠ '/') (noPoint : c ≠ '.') :
    ∃ name, fileName? path = some name ∧ name.getLast? = some c := by
  simp only [relativeTo?] at seen
  split at seen
  · obtain ⟨steps, between, rfl⟩ := Option.map_eq_some_iff.mp seen
    -- The last step of the way decides how its text ends.
    rcases List.eq_nil_or_concat steps with rfl | ⟨before, step, parts⟩
    · simp [ofComponents] at last
    · rw [List.concat_eq_append] at parts
      subst parts
      have ends := getLast?_of_stepsBetween between
      rw [List.getLast?_concat] at ends
      have suffix := ofComponents_concat before step
      have text : step.text ≠ [] → step.text.getLast? = some c := by
        intro some
        obtain ⟨start, same⟩ := suffix
        rw [← same, List.getLast?_append] at last
        cases own : step.text.getLast? with
        | none => exact absurd (List.getLast?_eq_none_iff.mp own) some
        | some d => simpa [own] using last
      -- It is a step up, which ends in a point, or the last step of the path itself.
      rcases ends with none | up | same
      · simp at none
      · obtain rfl : step = .up := by simpa using up
        have dots := text (by simp [Component.text])
        exact absurd (by simpa [Component.text] using dots.symm) noPoint
      · have member : step ∈ components path.toList := List.mem_of_getLast? same.symm
        have own := text (text_ne_nil member)
        cases step with
        | root => exact absurd (by simpa [Component.text] using own.symm) noSlash
        | here => exact absurd (by simpa [Component.text] using own.symm) noPoint
        | up => exact absurd (by simpa [Component.text] using own.symm) noPoint
        | name value => exact ⟨value, by rw [fileName?, ← same], own⟩
  · split at seen
    · obtain rfl := Option.some.inj seen
      exact fileName?_of_getLast? last noSlash noPoint
    · simp at seen

/-- A path from a base ends as the path does, if not with a slash. -/
theorem getLast?_of_join {base path : String} {c : Char}
    (last : (join base path).toList.getLast? = some c) (noSlash : c ≠ '/') :
    path.toList.getLast? = some c := by
  unfold join at last
  split at last
  · exact last
  · -- An empty path would leave the slash before it at the end.
    have ends : ∀ before : List Char, before.getLast? = some '/' →
        (before ++ path.toList).getLast? = some c → path.toList.getLast? = some c := by
      intro before slash whole
      rw [List.getLast?_append] at whole
      cases own : path.toList.getLast? with
      | none =>
        rw [own, slash] at whole
        exact absurd (by simpa using whole.symm) noSlash
      | some d => simpa [own] using whole
    split at last
    · rename_i slashed
      rw [String.toList_append] at last
      exact ends _ (by simpa using slashed) last
    · rw [String.toList_append, String.toList_append] at last
      exact ends _ (by simp) last

end Path

end TemplateLint
