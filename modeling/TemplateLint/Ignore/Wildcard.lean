/-! Patterns of ignore files, matched byte by byte. -/

namespace TemplateLint

namespace Ignore

/-- A byte with a meaning in patterns. -/
def byteOf (c : Char) : UInt8 :=
  UInt8.ofNat c.toNat

/-- The byte that parts the names of a path. -/
def slash : UInt8 :=
  byteOf '/'

/-- The classes that brackets may name. -/
def inClass? (name : List UInt8) (byte : UInt8) : Option Bool :=
  let c := Char.ofNat byte.toNat
  let isPunctuation := '!' ≤ c && c ≤ '~' && !c.isAlphanum
  let named (text : String) : Bool := name = text.toList.map byteOf
  if named "alnum" then some c.isAlphanum
  else if named "alpha" then some c.isAlpha
  else if named "blank" then some (c = ' ' || c = '\t')
  else if named "cntrl" then some (byte < 32 || byte = 127)
  else if named "digit" then some c.isDigit
  else if named "graph" then some ('!' ≤ c && c ≤ '~')
  else if named "lower" then some c.isLower
  else if named "print" then some (' ' ≤ c && c ≤ '~')
  else if named "punct" then some isPunctuation
  else if named "space" then some (c = ' ' || (9 ≤ byte && byte ≤ 13))
  else if named "upper" then some c.isUpper
  else if named "xdigit" then
    some (c.isDigit || ('a' ≤ c && c ≤ 'f') || ('A' ≤ c && c ≤ 'F'))
  else none

/-- The members of a bracket: a byte is listed so far, and the pattern after the bracket. -/
def inBracket (byte : UInt8) :
    Nat → Bool → Bool → Option UInt8 → List UInt8 → Option (Bool × List UInt8)
  | 0, _, _, _, _ => none
  | steps + 1, first, found, previous, pattern =>
    match pattern with
    | [] => none
    | p :: rest =>
      if p = byteOf ']' && !first then some (found, rest)
      else if p = byteOf '\\' then
        match rest with
        | [] => none
        | escaped :: more =>
          inBracket byte steps false (found || byte = escaped) (some escaped) more
      else if p = byteOf '[' && rest.head? = some (byteOf ':') then
        let name := (rest.drop 1).takeWhile (· ≠ byteOf ']')
        let after := (rest.drop 1).dropWhile (· ≠ byteOf ']')
        if after.isEmpty then none
        else if name.getLast? = some (byteOf ':') then
          match inClass? name.dropLast byte with
          | none => none
          | some isIn => inBracket byte steps false (found || isIn) none (after.drop 1)
        else
          -- Without a colon before the closing bracket the opening one is a member itself.
          inBracket byte steps false (found || byte = p) (some p) rest
      else
        match previous, rest with
        | some low, high :: more =>
          if p = byteOf '-' && high ≠ byteOf ']' then
            match (if high = byteOf '\\' then more else high :: more) with
            | [] => none
            | last :: after =>
              inBracket byte steps false (found || (low ≤ byte && byte ≤ last)) none after
          else inBracket byte steps false (found || byte = p) (some p) rest
        | _, _ => inBracket byte steps false (found || byte = p) (some p) rest

/-- A rest of the text satisfies a test; the skipped bytes hold no slash unless they may. -/
def someSuffix (slashes : Bool) (test : List UInt8 → Bool) : List UInt8 → Bool
  | [] => test []
  | byte :: rest =>
    test (byte :: rest) || ((slashes || byte ≠ slash) && someSuffix slashes test rest)

/--
A pattern matches a whole text within a number of steps. In a path a star stays within a name, and
two stars between slashes cross them; otherwise every star matches every run.
-/
def matchBytes (isPath : Bool) : Nat → Bool → List UInt8 → List UInt8 → Bool
  | 0, _, _, _ => false
  | _, _, [], text => text.isEmpty
  | steps + 1, atStart, p :: rest, text =>
    if p = byteOf '*' then
      let after := rest.dropWhile (· = byteOf '*')
      let isDouble := rest.head? = some p
      let bounded := atStart &&
        (after.isEmpty || after.head? = some slash ||
          after.take 2 = [byteOf '\\', slash])
      let crosses := !isPath || (isDouble && bounded)
      let skipsNothing := isPath && isDouble && bounded && after.head? = some slash &&
        matchBytes isPath steps true (after.drop 1) text
      if skipsNothing then true
      else if after.isEmpty then crosses || !text.contains slash
      else if !crosses && after.head? = some slash then
        matchBytes isPath steps false after (text.dropWhile (· ≠ slash))
      else someSuffix crosses (fun suffix => matchBytes isPath steps false after suffix) text
    else
      match text with
      | [] => false
      | byte :: more =>
        if p = byteOf '?' then
          (!isPath || byte ≠ slash) && matchBytes isPath steps false rest more
        else if p = byteOf '[' then
          let negated := rest.head? = some (byteOf '!') || rest.head? = some (byteOf '^')
          let listed := if negated then rest.drop 1 else rest
          match inBracket byte (listed.length + 1) true false none listed with
          | none => false
          | some (found, after) =>
            found ≠ negated && (!isPath || byte ≠ slash) && matchBytes isPath steps false after more
        else if p = byteOf '\\' then
          match rest with
          | [] => false
          | escaped :: after =>
            byte = escaped && matchBytes isPath steps (escaped = slash) after more
        else byte = p && matchBytes isPath steps (p = slash) rest more

end Ignore

end TemplateLint
