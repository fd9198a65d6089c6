import Mathlib.Tactic.SplitIfs
import TemplateLint.Proofs.Text.Pieces
import TemplateLint.Unicode.Lookup

/-! The characters that continue a word are none of the control characters that come first. -/

namespace TemplateLint

/-- A text that begins with two hexadecimal digits, the first of them not zero. -/
def BeginsHigh (text : List Char) : Prop :=
  ∃ c d rest high low, text = c :: d :: rest ∧ Text.hexValue? c = some high ∧ 0 < high ∧
    Text.hexValue? d = some low

namespace CharSet

/-- Reading further digits makes no number smaller. -/
theorem le_foldlM_hexValue? {digits : List Char} {number total : Nat}
    (read : digits.foldlM (fun number c => (Text.hexValue? c).map (number * 16 + ·)) number =
      some total) : number ≤ total := by
  induction digits generalizing number with
  | nil =>
    obtain rfl : number = total := by simpa using read
    exact Nat.le_refl _
  | cons c rest ih =>
    rw [List.foldlM_cons, Option.bind_eq_bind, Option.bind_eq_some_iff] at read
    obtain ⟨more, step, later⟩ := read
    obtain ⟨value, _, rfl⟩ := Option.map_eq_some_iff.mp step
    -- Each digit makes the number at least sixteen times as great.
    have atLeast := ih later
    omega

/-- Two digits of which the first is not zero write a number of at least sixteen. -/
theorem sixteen_le_of_beginsHigh {digits : List Char} {number : Nat} (high : BeginsHigh digits)
    (read : Text.hexNumber? digits = some number) : 16 ≤ number := by
  obtain ⟨c, d, rest, high, low, rfl, first, positive, second⟩ := high
  have later : rest.foldlM (fun number c => (Text.hexValue? c).map (number * 16 + ·))
      (high * 16 + low) = some number := by
    simpa [Text.hexNumber?, first, second] using read
  have atLeast := le_foldlM_hexValue? later
  omega

/-- A hexadecimal digit is neither a blank nor a hyphen. -/
theorem hexDigit_plain {c : Char} {value : Nat} (read : Text.hexValue? c = some value) :
    isBlank c = false ∧ c ≠ '-' := by
  have small : c.toNat < 103 := by
    unfold Text.hexValue? at read
    split_ifs at read with digit lower upper
    · exact Nat.lt_of_le_of_lt (show c.toNat ≤ 57 from digit.2) (by decide)
    · exact Nat.lt_of_le_of_lt (show c.toNat ≤ 102 from lower.2) (by decide)
    · exact Nat.lt_of_le_of_lt (show c.toNat ≤ 70 from upper.2) (by decide)
  -- There are few characters up to the last digit, and each is looked at.
  have all : ∀ n < 103, (Text.hexValue? (Char.ofNat n)).isSome = true →
      isBlank (Char.ofNat n) = false ∧ Char.ofNat n ≠ '-' := by decide
  simpa only [Char.ofNat_toNat] using all c.toNat small (by rw [Char.ofNat_toNat, read]; rfl)

/-- A range that is written with two digits at the start begins at sixteen or later. -/
theorem sixteen_le_of_rangeOfHex? {text : List Char} {range : Nat × Nat} (high : BeginsHigh text)
    (read : rangeOfHex? text = some range) : 16 ≤ range.1 := by
  unfold rangeOfHex? at read
  split at read
  · rename_i first last cut
    obtain ⟨rfl, _⟩ := Text.cutAt_eq_some cut
    simp only [Option.bind_eq_bind, Option.bind_eq_some_iff, Option.some.injEq] at read
    obtain ⟨start, number, stop, _, rfl⟩ := read
    -- The hyphen stands behind the two digits, so they begin the first number.
    refine sixteen_le_of_beginsHigh ?_ number
    obtain ⟨c, d, rest, high, low, split, digit, positive, other⟩ := high
    match first with
    | [] => exact absurd (List.cons.inj split).1.symm (hexDigit_plain digit).2
    | [_] =>
      have same := (List.cons.inj (List.cons.inj split).2).1
      exact absurd same.symm (hexDigit_plain other).2
    | one :: two :: more =>
      obtain ⟨own, split⟩ := List.cons.inj split
      rw [← own] at digit
      rw [← (List.cons.inj split).1] at other
      exact ⟨one, two, more, high, low, rfl, digit, positive, other⟩
  · obtain ⟨number, whole, rfl⟩ := Option.map_eq_some_iff.mp read
    exact sixteen_le_of_beginsHigh high whole

/-- A set that is listed with two digits at the start of each range has no code below sixteen. -/
theorem has_ofHex_of_beginsHigh {text : String}
    (high : ∀ word ∈ Text.words text.toList, BeginsHigh word) {code : Nat} (small : code < 16) :
    (ofHex text).has code = false := by
  rw [ofHex, has, List.any_eq_false]
  rintro ⟨first, last⟩ member
  obtain ⟨word, known, read⟩ := List.mem_filterMap.mp member
  -- The first number of each range is beyond the line ends, and so is all that is in the range.
  have atLeast := sixteen_le_of_rangeOfHex? (high word known) read
  have below : ¬first ≤ code := by
    simp only at atLeast
    omega
  simp [below]

end CharSet

namespace Unicode

/-- All words of a text, but for one that has begun already, begin with two digits as wanted. -/
def wordsBeginHigh : Bool → List Char → Bool
  | _, [] => true
  | true, c :: rest => wordsBeginHigh (!isBlank c) rest
  | false, c :: rest =>
    if isBlank c then wordsBeginHigh false rest
    else
      match rest with
      | [] => false
      | d :: _ =>
        (Text.hexValue? c).any (0 < ·) && (Text.hexValue? d).isSome && wordsBeginHigh true rest

/-- Behind a word that has begun the other words are those behind the next blank. -/
theorem wordsBeginHigh_dropWhile {text : List Char} (checked : wordsBeginHigh true text = true) :
    wordsBeginHigh false (text.dropWhile (!isBlank ·)) = true := by
  induction text with
  | nil => rfl
  | cons c rest ih =>
    rw [wordsBeginHigh] at checked
    -- Inside a word nothing is checked until the next blank.
    cases blank : isBlank c with
    | true =>
      simp only [blank, Bool.not_true] at checked
      simp [blank, wordsBeginHigh, checked]
    | false =>
      simp only [blank, Bool.not_false] at checked
      simpa [blank] using ih checked

/-- The check finds every word that does not begin with two digits as wanted. -/
theorem beginsHigh_of_wordsBeginHigh {text : List Char} (checked : wordsBeginHigh false text = true)
    {word : List Char} (member : word ∈ Text.words text) : BeginsHigh word := by
  -- A word is taken off as a whole, so the text gets shorter by more than one character.
  induction size : text.length using Nat.strongRecOn generalizing text with
  | _ size ih =>
    subst size
    cases text with
    | nil => simp [Text.words] at member
    | cons c rest =>
      rw [wordsBeginHigh.eq_def] at checked
      cases blank : isBlank c with
      | true =>
        rw [Text.words_blank blank] at member
        exact ih rest.length (by simp) (by simpa [blank] using checked) member rfl
      | false =>
        rw [Text.words_cons blank] at member
        cases rest with
        | nil => simp [blank] at checked
        | cons d later =>
          simp only [blank, Bool.false_eq_true, if_false, Bool.and_eq_true, Option.any_eq_true,
            decide_eq_true_eq] at checked
          obtain ⟨⟨⟨high, first, positive⟩, second⟩, others⟩ := checked
          obtain ⟨low, second⟩ := Option.isSome_iff_exists.mp second
          rcases List.mem_cons.mp member with rfl | other
          · -- The second digit is no blank, so it belongs to the word.
            have noBlank := (CharSet.hexDigit_plain second).1
            rw [List.takeWhile_cons_of_pos (by simp [noBlank])]
            exact ⟨c, d, _, high, low, rfl, first, positive, second⟩
          · refine ih _ ?_ (wordsBeginHigh_dropWhile others) other rfl
            have shorter := (List.dropWhile_sublist (l := d :: later) (!isBlank ·)).length_le
            simp only [List.length_cons] at shorter ⊢
            omega

set_option maxRecDepth 60000 in
/-- The characters that continue a word are listed as is wanted. -/
theorem wordRanges_beginHigh :
    ∃ text, wordRanges = String.ofList text ∧ wordsBeginHigh false text = true :=
  ⟨_, rfl, by decide +kernel⟩

/-- No line end continues a word. -/
theorem wordCharacters_lineEnds :
    wordCharacters.contains '\n' = false ∧ wordCharacters.contains '\r' = false := by
  obtain ⟨text, same, checked⟩ := wordRanges_beginHigh
  have high : ∀ word ∈ Text.words wordRanges.toList, BeginsHigh word := by
    rw [same, String.toList_ofList]
    exact fun word => beginsHigh_of_wordsBeginHigh checked
  exact ⟨CharSet.has_ofHex_of_beginsHigh high (by decide),
    CharSet.has_ofHex_of_beginsHigh high (by decide)⟩

end Unicode

end TemplateLint
