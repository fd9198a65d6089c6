import TemplateLint.Files.FileSystem

/-! The steps that a path asks for when it is joined from parts, and those of them that move. -/

namespace TemplateLint

namespace Text

/-- A text has pieces. -/
theorem splitOn_ne_nil (separator : Char) (text : List Char) : splitOn separator text ≠ [] := by
  -- Even an empty text is one piece, an empty one.
  cases text with
  | nil => simp [splitOn]
  | cons c rest =>
    simp only [splitOn]
    split
    · simp
    · split <;> simp

/-- A separator parts the pieces before it from those after it. -/
theorem splitOn_append (separator : Char) (before after : List Char) :
    splitOn separator (before ++ separator :: after) =
      splitOn separator before ++ splitOn separator after := by
  induction before with
  | nil => simp [splitOn]
  | cons c rest ih =>
    simp only [List.cons_append, splitOn, ih]
    split
    · simp
    · -- The first piece grows by one character, and there is a first piece.
      cases pieces : splitOn separator rest with
      | nil => exact absurd pieces (splitOn_ne_nil separator rest)
      | cons piece later => simp

/-- A text without separators is one piece. -/
theorem splitOn_of_not_mem {separator : Char} {text : List Char} (absent : separator ∉ text) :
    splitOn separator text = [text] := by
  -- The induction adds characters in front, none of which opens a piece.
  induction text with
  | nil => simp [splitOn]
  | cons c rest ih =>
    simp only [List.mem_cons, not_or] at absent
    simp only [splitOn, if_neg (Ne.symm absent.1), ih absent.2]

/-- Every piece is part of the text that is split. -/
theorem sublist_of_mem_splitOn {separator : Char} {text piece : List Char}
    (member : piece ∈ splitOn separator text) : piece.Sublist text := by
  induction text generalizing piece with
  | nil => simp_all [splitOn]
  | cons c rest ih =>
    simp only [splitOn] at member
    -- A separator opens a new piece, and any other character goes on with the first one.
    split at member
    · rcases List.mem_cons.mp member with rfl | later
      · exact List.nil_sublist _
      · exact (ih later).cons c
    · split at member
      · rename_i none
        exact absurd none (splitOn_ne_nil separator rest)
      · rename_i first others pieces
        rcases List.mem_cons.mp member with rfl | later
        · exact (ih (by simp [pieces])).cons_cons c
        · exact (ih (by simp [pieces, later])).cons c

/-- No piece holds a separator. -/
theorem not_mem_of_mem_splitOn {separator : Char} {text piece : List Char}
    (member : piece ∈ splitOn separator text) : separator ∉ piece := by
  induction text generalizing piece with
  | nil => simp_all [splitOn]
  | cons c rest ih =>
    simp only [splitOn] at member
    -- A separator opens a new piece, and any other character goes on with the first one.
    split at member
    · rcases List.mem_cons.mp member with rfl | later
      · simp
      · exact ih later
    · rename_i apart
      split at member
      · rename_i none
        exact absurd none (splitOn_ne_nil separator rest)
      · rename_i first others pieces
        rcases List.mem_cons.mp member with rfl | later
        · simp only [List.mem_cons, not_or]
          exact ⟨Ne.symm apart, ih (by simp [pieces])⟩
        · exact ih (by simp [pieces, later])

end Text

namespace Stride

/-- The step that a piece between slashes asks for. -/
def ofPiece (piece : List Char) : Stride :=
  if piece = ['.'] then .stay
  else if piece = ['.', '.'] then .up
  else .down (.ofList piece)

/-- The steps of the pieces of a path. -/
def ofPieces (path : List Char) : List Stride :=
  ((Text.splitOn '/' path).filter (· ≠ [])).map ofPiece

/-- The steps of a path are those of its pieces, and one more for a slash at its end. -/
theorem ofPath_eq (path : List Char) :
    ofPath path = ofPieces path ++ if path.getLast? = some '/' then [.stay] else [] := by
  simp only [ofPath, ofPieces]
  split
  · rfl
  · rw [List.append_nil]
    rfl

/-- A slash parts the steps before it from those after it. -/
theorem ofPieces_append (before after : List Char) :
    ofPieces (before ++ '/' :: after) = ofPieces before ++ ofPieces after := by
  simp only [ofPieces, Text.splitOn_append, List.filter_append, List.map_append]

/-- A name is one piece. -/
theorem ofPieces_name {name : List Char} (some : name ≠ []) (whole : '/' ∉ name) :
    ofPieces name = [ofPiece name] := by
  rw [ofPieces, Text.splitOn_of_not_mem whole, List.filter_cons_of_pos (by simpa using some)]
  rfl

/-- A path of one name asks for one step. -/
theorem ofPath_name {name : List Char} (some : name ≠ []) (whole : '/' ∉ name) :
    ofPath name = [ofPiece name] := by
  have ends : name.getLast? ≠ Option.some '/' := fun last => whole (List.mem_of_getLast? last)
  rw [ofPath_eq, if_neg ends, List.append_nil, ofPieces_name some whole]

/-- A piece that is a name is the name. -/
theorem ofPiece_eq_down {piece : List Char} {name : String} (named : ofPiece piece = .down name) :
    name.toList = piece := by
  -- One point and two points are no names.
  unfold ofPiece at named
  split at named
  · simp at named
  · split at named
    · simp at named
    · rw [← Stride.down.inj named, String.toList_ofList]

/-- A path that asks for a name in the last step ends in the name. -/
theorem suffix_of_getLast? {path : List Char} {name : String}
    (last : (ofPath path).getLast? = some (.down name)) : name.toList <:+ path := by
  rw [ofPath_eq] at last
  split at last
  · simp at last
  · rename_i unslashed
    rw [List.append_nil] at last
    by_cases slash : '/' ∈ path
    · -- The name is what stands behind the last slash.
      obtain ⟨back, front, split, whole⟩ :=
        List.eq_append_cons_of_mem (List.mem_reverse.mpr slash)
      obtain rfl : path = front.reverse ++ '/' :: back.reverse := by
        rw [← List.reverse_reverse path, split]
        simp
      have some : back.reverse ≠ [] := by
        intro none
        exact unslashed (by rw [none, List.getLast?_concat])
      rw [ofPieces_append, ofPieces_name some (by simpa using whole), List.getLast?_concat] at last
      rw [ofPiece_eq_down (Option.some.inj last)]
      exact (List.suffix_cons _ _).trans (List.suffix_append _ _)
    · by_cases none : path = []
      · subst none
        simp [ofPieces, Text.splitOn] at last
      · rw [ofPieces_name none slash] at last
        simp [ofPiece_eq_down (Option.some.inj last)]

/-- The steps of a path that move. -/
def moves (path : List Char) : List Stride :=
  (ofPath path).filter (· ≠ .stay)

/-- A slash at the end of a path moves nothing. -/
theorem moves_eq (path : List Char) : moves path = (ofPieces path).filter (· ≠ .stay) := by
  rw [moves, ofPath_eq, List.filter_append]
  split <;> simp

/-- A slash parts the moves before it from those after it. -/
theorem moves_append (before after : List Char) :
    moves (before ++ '/' :: after) = moves before ++ moves after := by
  simp only [moves_eq, ofPieces_append, List.filter_append]

/-- No path moves nowhere. -/
@[simp] theorem moves_nil : moves [] = [] :=
  rfl

end Stride

namespace Path

/-- A path from a base has the steps of its pieces after those of the base. -/
theorem ofPieces_join {base path : String} (relative : isAbsolute path = false) :
    Stride.ofPieces (join base path).toList =
      Stride.ofPieces base.toList ++ Stride.ofPieces path.toList := by
  simp only [join, relative, Bool.false_or]
  split
  · -- Without a base the path stands alone.
    rename_i none
    have empty : base = "" := String.isEmpty_iff.mp none
    simp [empty, Stride.ofPieces, Text.splitOn]
  · split
    · rename_i slashed
      obtain ⟨before, same⟩ := List.getLast?_eq_some_iff.mp (beq_iff_eq.mp slashed)
      rw [String.toList_append, same, List.append_assoc, List.singleton_append,
        Stride.ofPieces_append, Stride.ofPieces_append]
      simp [Stride.ofPieces, Text.splitOn]
    · rw [String.toList_append, String.toList_append]
      exact (congrArg Stride.ofPieces (by simp)).trans (Stride.ofPieces_append _ _)

/-- A path from a base is reached through the moves of the base. -/
theorem moves_join {base path : String} (relative : isAbsolute path = false) :
    Stride.moves (join base path).toList = Stride.moves base.toList ++ Stride.moves path.toList := by
  simp only [Stride.moves_eq, ofPieces_join relative, List.filter_append]

/-- A path that starts at the root needs no base. -/
theorem join_of_isAbsolute {path : String} (absolute : isAbsolute path = true) (base : String) :
    join base path = path := by
  simp [join, absolute]

/-- A path without slashes is relative. -/
theorem isAbsolute_of_whole {path : String} (whole : '/' ∉ path.toList) :
    isAbsolute path = false := by
  -- Only a slash in front would make it absolute.
  cases characters : path.toList with
  | nil => simp [isAbsolute, characters]
  | cons c rest =>
    have other : c ≠ '/' := fun same => whole (by simp [characters, same])
    simpa [isAbsolute, characters] using other

/-- A name is joined to a base with one slash between them. -/
theorem join_cases (base : String) {name : String} (whole : '/' ∉ name.toList) :
    (base = "" ∧ join base name = name) ∨
      (base.toList.getLast? = some '/' ∧ join base name = base ++ name) ∨
      (base.toList ≠ [] ∧ base.toList.getLast? ≠ some '/' ∧
        join base name = base ++ "/" ++ name) := by
  simp only [join, isAbsolute_of_whole whole, Bool.false_or]
  -- No slash is put after an empty base, nor after one that ends in a slash.
  by_cases none : base.isEmpty = true
  · exact .inl ⟨String.isEmpty_iff.mp none, by rw [if_pos none]⟩
  · rw [if_neg none]
    have some : base.toList ≠ [] := by
      intro empty
      exact none (String.isEmpty_iff.mpr (String.toList_eq_nil_iff.mp empty))
    by_cases slashed : base.toList.getLast? = Option.some '/'
    · exact .inr (.inl ⟨slashed, by rw [if_pos (by simpa using slashed)]⟩)
    · exact .inr (.inr ⟨some, slashed, by rw [if_neg (by simpa using slashed)]⟩)

/-- The last step of a path that is joined with a name; no name stays where the path leads. -/
def lastStride (name : String) : Stride :=
  if name.toList = [] then .stay else Stride.ofPiece name.toList

/-- A name that is joined to a base takes one step from there. -/
theorem ofPath_join {base name : String} (some : base.toList ≠ []) (whole : '/' ∉ name.toList) :
    Stride.ofPath (join base name).toList = Stride.ofPieces base.toList ++ [lastStride name] := by
  have unslashed : name.toList ≠ [] → name.toList.getLast? ≠ Option.some '/' :=
    fun _ last => whole (List.mem_of_getLast? last)
  have own : name.toList ≠ [] → Stride.ofPieces name.toList = [lastStride name] := by
    intro named
    rw [lastStride, if_neg named, Stride.ofPieces_name named whole]
  -- With a slash at its end the base is that of the pieces before the slash.
  have slashing : ∀ before, Stride.ofPath (before ++ '/' :: name.toList) =
      Stride.ofPieces before ++ [lastStride name] := by
    intro before
    rw [Stride.ofPath_eq, Stride.ofPieces_append]
    by_cases none : name.toList = []
    · simp [none, Stride.ofPieces, Text.splitOn, lastStride]
    · have ends : (before ++ '/' :: name.toList).getLast? = name.toList.getLast? := by
        rw [List.getLast?_append, List.getLast?_cons_of_ne_nil none]
        cases last : name.toList.getLast? with
        | none => exact absurd (List.getLast?_eq_none_iff.mp last) none
        | some c => rfl
      rw [ends, if_neg (unslashed none), List.append_nil, own none]
  rcases join_cases base whole with ⟨rfl, _⟩ | ⟨slashed, joined⟩ | ⟨_, _, joined⟩
  · simp at some
  · obtain ⟨before, same⟩ := List.getLast?_eq_some_iff.mp slashed
    rw [joined, String.toList_append, same, List.append_assoc, List.singleton_append, slashing,
      Stride.ofPieces_append]
    simp [Stride.ofPieces, Text.splitOn]
  · rw [joined, String.toList_append, String.toList_append, List.append_assoc]
    exact slashing _

/-- The last step to a name that is joined to a base is that of the name. -/
theorem getLast?_ofPath_join {name : String} (named : name.toList ≠ []) (whole : '/' ∉ name.toList)
    (base : String) : (Stride.ofPath (join base name).toList).getLast? = some (lastStride name) := by
  -- Without a base the path is the name alone.
  by_cases none : base.toList = []
  · have alone : join base name = name := by
      rw [String.toList_eq_nil_iff.mp none]
      simp [join]
    rw [alone, Stride.ofPath_name named whole, lastStride, if_neg named]
    rfl
  · rw [ofPath_join none whole, List.getLast?_concat]

/-- A joined path holds the characters of its base. -/
theorem mem_join_of_mem {base name : String} (whole : '/' ∉ name.toList) {c : Char}
    (member : c ∈ base.toList) : c ∈ (join base name).toList := by
  rcases join_cases base whole with ⟨rfl, _⟩ | ⟨_, joined⟩ | ⟨_, _, joined⟩
  · simp at member
  · simp [joined, member]
  · simp [joined, member]

/-- What is joined to a path is a path. -/
theorem join_ne_nil {base : String} (start : base.toList ≠ []) (path : String) :
    (join base path).toList ≠ [] := by
  unfold join
  -- The base is dropped only before a path that starts at the root.
  split
  · rename_i alone
    rcases Bool.or_eq_true_iff.mp alone with absolute | empty
    · intro none
      simp [isAbsolute, none] at absolute
    · rw [String.isEmpty_iff.mp empty] at start
      simp at start
  · split
    · simp [start]
    · simp

/-- A slash between them is the most that a relative path is joined by. -/
theorem utf8ByteSize_join_le (base : String) {path : String}
    (relative : isAbsolute path = false) :
    (join base path).utf8ByteSize ≤ (base ++ "/" ++ path).utf8ByteSize := by
  simp only [join, relative, Bool.false_or]
  split
  · simp
  · split <;> simp

/-- A joined path holds its base and what is joined to it, which does not start at the root. -/
theorem add_utf8ByteSize_le_join (base : String) {path : String}
    (relative : isAbsolute path = false) :
    base.utf8ByteSize + path.utf8ByteSize ≤ (join base path).utf8ByteSize := by
  unfold join
  split
  · -- The base is left out only if it is empty.
    rename_i alone
    have none : base.isEmpty = true := by simpa [relative] using alone
    simp [String.isEmpty_iff.mp none]
  · split
    · exact Nat.le_of_eq String.utf8ByteSize_append.symm
    · rw [String.utf8ByteSize_append, String.utf8ByteSize_append]
      omega

/-- A joined path is no shorter than its base. -/
theorem utf8ByteSize_le_join {base name : String} (whole : '/' ∉ name.toList) :
    base.utf8ByteSize ≤ (join base name).utf8ByteSize :=
  Nat.le_trans (Nat.le_add_right _ _) (add_utf8ByteSize_le_join base (isAbsolute_of_whole whole))

/-- What a joined path holds comes from its base or the path, save a slash between them. -/
theorem mem_of_mem_join {base path : String} {c : Char}
    (member : c ∈ (join base path).toList) : c ∈ base.toList ∨ c = '/' ∨ c ∈ path.toList := by
  unfold join at member
  split at member
  · exact .inr (.inr member)
  · split at member
    · rw [String.toList_append, List.mem_append] at member
      exact member.imp_right .inr
    · simpa [or_assoc] using member

/-- A joined path ends in what it was joined with. -/
theorem suffix_join (base path : String) : path.toList <:+ (join base path).toList := by
  -- Whatever stands before the path, the path stands last.
  simp only [join]
  split
  · exact List.suffix_refl _
  · split
    · rw [String.toList_append]
      exact List.suffix_append _ _
    · rw [String.toList_append]
      exact List.suffix_append _ _

end Path

end TemplateLint
