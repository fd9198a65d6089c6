/-! What a file or a stream holds: text, or bytes that are no text. -/

namespace TemplateLint

/-- Text, or bytes that are not the UTF-8 form of any text. -/
inductive Content where
  | text (value : String)
  | bytes (value : List UInt8)
  deriving Repr, DecidableEq, Inhabited

namespace Content

/-- Nothing at all. -/
def empty : Content :=
  .text ""

/-- The bytes as text wherever they are valid UTF-8. -/
def ofBytes (bytes : List UInt8) : Content :=
  match String.fromUTF8? bytes.toByteArray with
  | some value => .text value
  | none => .bytes bytes

/-- The bytes as they stand in a file. -/
def toBytes : Content → List UInt8
  | .text value => value.toUTF8.toList
  | .bytes value => value

/-- The text, if the content is text. -/
def text? : Content → Option String
  | .text value => some value
  | .bytes _ => none

/-- Content followed by text; bytes that are no text do not become text by what follows. -/
def appendText (content : Content) (more : String) : Content :=
  match content with
  | .text value => .text (value ++ more)
  | .bytes value => .bytes (value ++ more.toUTF8.toList)

/-- One content after another. -/
def append (first second : Content) : Content :=
  match first, second with
  | .text a, .text b => .text (a ++ b)
  | _, _ => ofBytes (first.toBytes ++ second.toBytes)

end Content

/-- What stands at the head of a byte sequence: a character or a fault, with its length. -/
inductive ByteStep where
  | char (value : Char) (length : Nat)
  | fault (length : Nat)

namespace ByteStep

/-- A continuation byte within the given bounds. -/
def isBetween (low high : UInt8) (byte : UInt8) : Bool :=
  low ≤ byte && byte ≤ high

/-- The bounds of the second byte and the number of bytes that a lead byte announces. -/
def announced (lead : UInt8) : Option (Nat × UInt8 × UInt8) :=
  if isBetween 0xc2 0xdf lead then some (2, 0x80, 0xbf)
  else if lead == 0xe0 then some (3, 0xa0, 0xbf)
  else if lead == 0xed then some (3, 0x80, 0x9f)
  else if isBetween 0xe1 0xef lead then some (3, 0x80, 0xbf)
  else if lead == 0xf0 then some (4, 0x90, 0xbf)
  else if isBetween 0xf1 0xf3 lead then some (4, 0x80, 0xbf)
  else if lead == 0xf4 then some (4, 0x80, 0x8f)
  else none

/-- The low six bits of a continuation byte. -/
def payload (byte : UInt8) : Nat :=
  byte.toNat % 64

/-- The head of a nonempty byte sequence; a fault spans the longest start of a character. -/
def ofHead (lead : UInt8) (rest : List UInt8) : ByteStep :=
  if lead < 0x80 then .char (Char.ofNat lead.toNat) 1
  else
    match announced lead with
    | none => .fault 1
    | some (2, low, high) =>
      match rest with
      | b :: _ =>
        if isBetween low high b then .char (Char.ofNat (lead.toNat % 32 * 64 + payload b)) 2
        else .fault 1
      | [] => .fault 1
    | some (3, low, high) =>
      match rest with
      | b :: more =>
        if isBetween low high b then
          match more with
          | c :: _ =>
            if isBetween 0x80 0xbf c then
              .char (Char.ofNat ((lead.toNat % 16 * 64 + payload b) * 64 + payload c)) 3
            else .fault 2
          | [] => .fault 2
        else .fault 1
      | [] => .fault 1
    | some (_, low, high) =>
      match rest with
      | b :: more =>
        if isBetween low high b then
          match more with
          | c :: last =>
            if isBetween 0x80 0xbf c then
              match last with
              | d :: _ =>
                if isBetween 0x80 0xbf d then
                  .char (Char.ofNat
                    (((lead.toNat % 8 * 64 + payload b) * 64 + payload c) * 64 + payload d)) 4
                else .fault 3
              | [] => .fault 3
            else .fault 2
          | [] => .fault 2
        else .fault 1
      | [] => .fault 1

end ByteStep

namespace Content

/-- The characters of a byte sequence, reading at most the given number of steps. -/
def lossyCharacters : Nat → List UInt8 → List Char
  | 0, _ => []
  | _, [] => []
  | steps + 1, lead :: rest =>
    match ByteStep.ofHead lead rest with
    | .char value length => value :: lossyCharacters steps (rest.drop (length - 1))
    | .fault length => '\ufffd' :: lossyCharacters steps (rest.drop (length - 1))

/-- The content as text, every fault in its bytes shown as a replacement character. -/
def lossyText : Content → String
  | .text value => value
  | .bytes value => .ofList (lossyCharacters value.length value)

end Content

end TemplateLint
