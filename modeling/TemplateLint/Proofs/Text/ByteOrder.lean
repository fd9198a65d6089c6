import Mathlib.Tactic.SplitIfs

/-! The order of texts by their characters is the order by their UTF-8 bytes. -/

namespace TemplateLint

namespace Text

/-- The UTF-8 bytes of a text. -/
def bytes (text : String) : List UInt8 :=
  text.toUTF8.data.toList

/-- The bytes of a text are those of its characters in turn. -/
theorem bytes_eq (text : String) : bytes text = text.toList.flatMap String.utf8EncodeChar := by
  rw [bytes, String.toUTF8, ← String.utf8Encode_toList, List.utf8Encode, List.data_toByteArray]

/-- Small numbers are in the order of the bytes that they are. -/
theorem ofNat_lt_ofNat_iff {first second : Nat} (firstSmall : first < 256)
    (secondSmall : second < 256) : UInt8.ofNat first < UInt8.ofNat second ↔ first < second := by
  rw [UInt8.lt_iff_toNat_lt, UInt8.toNat_ofNat_of_lt' firstSmall,
    UInt8.toNat_ofNat_of_lt' secondSmall]

/-- Small numbers are the same when the bytes that they are are the same. -/
theorem ofNat_eq_ofNat_iff {first second : Nat} (firstSmall : first < 256)
    (secondSmall : second < 256) : UInt8.ofNat first = UInt8.ofNat second ↔ first = second := by
  rw [← UInt8.toNat_inj, UInt8.toNat_ofNat_of_lt' firstSmall,
    UInt8.toNat_ofNat_of_lt' secondSmall]

/-- The bytes of a smaller character come before those of a greater one, whatever follows. -/
theorem utf8EncodeChar_lt {first second : Char} (less : first < second) (rest other : List UInt8) :
    String.utf8EncodeChar first ++ rest < String.utf8EncodeChar second ++ other := by
  have order : first.val.toNat < second.val.toNat := less
  have bound : second.val.toNat < 0x110000 := by
    have valid := second.valid
    simp only [UInt32.isValidChar, Nat.isValidChar] at valid
    omega
  -- The digits of a code are taken off one after another.
  have twice : ∀ code, code / 4096 = code / 64 / 64 := fun code => by
    rw [Nat.div_div_eq_div_mul]
  have thrice : ∀ code, code / 262144 = code / 64 / 64 / 64 := fun code => by
    rw [Nat.div_div_eq_div_mul, Nat.div_div_eq_div_mul]
  simp only [String.utf8EncodeChar, twice, thrice]
  -- More bytes begin with a greater one; with as many bytes the codes are compared digit by digit.
  split_ifs <;> first
    | omega
    | simp (disch := omega) only [List.cons_append, List.nil_append, List.cons_lt_cons_iff,
        ofNat_lt_ofNat_iff, ofNat_eq_ofNat_iff]
      omega

/-- A character has some bytes. -/
theorem utf8EncodeChar_ne_nil (c : Char) : String.utf8EncodeChar c ≠ [] := by
  simp only [String.utf8EncodeChar]
  split_ifs <;> simp

/-- A text that comes before another one by its characters does so by its bytes. -/
theorem bytes_lt_bytes {first second : String} (less : first < second) :
    bytes first < bytes second := by
  rw [bytes_eq, bytes_eq]
  rw [String.lt_iff] at less
  generalize first.toList = one at less
  generalize second.toList = other at less
  -- Up to the first difference the bytes are the same.
  induction less with
  | nil =>
    rename_i c rest
    rw [List.flatMap_nil, List.flatMap_cons]
    cases bytes : String.utf8EncodeChar c with
    | nil => exact absurd bytes (utf8EncodeChar_ne_nil c)
    | cons byte more => exact .nil
  | cons _ ih =>
    rw [List.flatMap_cons, List.flatMap_cons]
    exact List.append_left_lt ih
  | rel order => exact utf8EncodeChar_lt order _ _

end Text

end TemplateLint
