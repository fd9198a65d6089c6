import TemplateLint.Yaml.Token

/-! The settings document that the tokens of a YAML text make up. -/

namespace TemplateLint

namespace Yaml

/--
What is still to be read, the anchors met so far with their numbers, the latest first, the complete
documents by the numbers of their anchors, and the handles of tags.
-/
structure Reader where
  tokens : List Token
  anchors : List (List Char × Nat)
  complete : List (Nat × Node)
  handles : List (List Char × List Char)
  deriving Repr, BEq

/-- A step of reading, which may find that the text is no YAML. -/
abbrev Reading := StateT Reader Option

/-- The tag of what has no value. -/
def nullTag : List Char :=
  "tag:yaml.org,2002:null".toList

/-- A scalar as a settings document. -/
def scalarNode (text : List Char) (plain : Bool) (tag : Option (List Char)) : Node :=
  let written := some (String.ofList text)
  -- What is quoted or in a block is a text, whatever it looks like.
  if !plain then .scalar { text := written }
  -- The tag of no value asks for one of the words for it.
  else if tag = some nullTag then
    if isNullWord text then .scalar { text := written, isNull := true } else .unreadable
  else
    .scalar {
      text := written
      number := number? text
      isNull := tag.isNone && (text.isEmpty || isNullWord text)
      isVoid := text.isEmpty }

/-- The document of what is left out. -/
def absent : Node :=
  scalarNode [] true none

/-- A mapping as a settings document, which has texts for keys. -/
def mappingNode (pairs : List (Node × Node)) : Node :=
  match pairs.mapM fun (key, value) => key.text?.map fun name => (name, value) with
  | some entries => .mapping entries
  | none => .unreadable

namespace Reading

/-- The next token, which is left in place. -/
def peek : Reading (Option Token) := do
  pure (← get).tokens.head?

/-- Passes over a token. -/
def drop : Reading Unit :=
  modify fun reader => { reader with tokens := reader.tokens.drop 1 }

/-- Passes over an expected token and says whether it is there. -/
def skip (expected : Token) : Reading Bool := do
  if (← peek) = some expected then
    drop
    pure true
  else pure false

/-- Passes over a token that must be there. -/
def expect (expected : Token) : Reading Unit := do
  guard (← skip expected)

/-- One of some tokens comes next. -/
def isBefore (expected : List Token) : Reading Bool := do
  pure ((← peek).any expected.contains)

/-- The full text of a tag. -/
def resolve : Tag → Reading (List Char)
  | .verbatim text => pure text
  | .shorthand handle suffix => do
    match (← get).handles.lookup handle with
    | some target => pure (target ++ suffix)
    | none => failure

/-- An anchor before a node, if there is one. -/
def anchor? : Reading (Option (List Char)) := do
  match ← peek with
  | some (.anchor name) =>
    drop
    pure (some name)
  | _ => pure none

/-- A tag before a node, if there is one. -/
def tag? : Reading (Option (List Char)) := do
  match ← peek with
  | some (.tag tag) =>
    drop
    pure (some (← resolve tag))
  | _ => pure none

/-- An anchor and a tag before a node, in either order. -/
def properties : Reading (Option (List Char) × Option (List Char)) := do
  match ← anchor? with
  | some name => pure (some name, ← tag?)
  | none =>
    -- Without a tag there is no second chance for an anchor.
    let tag ← tag?
    if tag.isSome then pure (← anchor?, tag) else pure (none, none)

/-- Takes note of an anchor and gives it a number. -/
def register (name : List Char) : Reading Nat := do
  let number := (← get).anchors.length
  modify fun reader => { reader with anchors := (name, number) :: reader.anchors }
  pure number

/-- Remembers the document of an anchor. -/
def remember (number : Nat) (node : Node) : Reading Unit :=
  modify fun reader => { reader with complete := (number, node) :: reader.complete }

/-- The document of an alias; within its own anchor it cannot be read. -/
def dereference (name : List Char) : Reading Node := do
  match (← get).anchors.lookup name with
  | some number => pure (((← get).complete.lookup number).getD .unreadable)
  | none => failure

/-- What ends the entry of a sequence in a block. -/
def blockEnds : List Token :=
  [.entry, .blockEnd]

/-- What ends a key or a value in a block. -/
def pairEnds : List Token :=
  [.key, .value, .blockEnd]

/-- What ends a key or a value in brackets. -/
def bracketEnds : List Token :=
  [.flowEntry, .flowSequenceEnd]

/-- What ends a key or a value in braces. -/
def braceEnds : List Token :=
  [.flowEntry, .flowMappingEnd]

mutual
/-- A node; in a block or in flow style, and where a sequence need not be indented or must. -/
def node : Nat → Bool → Bool → Reading Node
  | 0, _, _ => failure
  | fuel + 1, inBlock, unindented => do
    match ← peek with
    | some (.alias name) =>
      drop
      dereference name
    | _ =>
      let (anchor, tag) ← properties
      match anchor with
      | none => content fuel inBlock unindented false tag
      | some name =>
        -- An alias within the node finds the anchor, though not its document.
        let number ← register name
        let found ← content fuel inBlock unindented true tag
        remember number found
        pure found

/-- The content of a node after its anchor and tag. -/
def content : Nat → Bool → Bool → Bool → Option (List Char) → Reading Node
  | 0, _, _, _, _ => failure
  | fuel + 1, inBlock, unindented, anchored, tag => do
    match ← peek with
    | some (.scalar text plain) =>
      drop
      pure (scalarNode text plain tag)
    | some .flowSequenceStart =>
      drop
      pure (.sequence (← flowItems fuel true) true)
    | some .flowMappingStart =>
      drop
      pure (mappingNode (← flowPairs fuel true))
    -- Entries that no start comes before are of a sequence that is not indented.
    | some .entry =>
      if unindented then do pure (.sequence (← unindentedItems fuel) true)
      else bare anchored tag
    | some .sequenceStart =>
      if inBlock then do
        drop
        pure (.sequence (← blockItems fuel) true)
      else bare anchored tag
    | some .mappingStart =>
      if inBlock then do
        drop
        pure (mappingNode (← blockPairs fuel))
      else bare anchored tag
    | _ => bare anchored tag

/-- A node that is only an anchor or a tag. -/
def bare (anchored : Bool) (tag : Option (List Char)) : Reading Node := do
  -- Where not even an anchor or a tag stands there is no node.
  guard (anchored || tag.isSome)
  pure (scalarNode [] true tag)

/-- The items of a sequence in a block up to its end. -/
def blockItems : Nat → Reading (List Node)
  | 0 => failure
  | fuel + 1 => do
    if ← skip .entry then
      -- A hyphen before another one, or before the end, is an item without a value.
      let item ← if ← isBefore blockEnds then pure absent else node fuel true false
      pure (item :: (← blockItems fuel))
    else do
      expect .blockEnd
      pure []

/-- The items of a sequence that is indented no deeper than the key it belongs to. -/
def unindentedItems : Nat → Reading (List Node)
  | 0 => failure
  | fuel + 1 => do
    if ← skip .entry then
      let item ← if ← isBefore (.entry :: pairEnds) then pure absent else node fuel true false
      pure (item :: (← unindentedItems fuel))
    else pure []

/-- The pairs of a mapping in a block up to its end. -/
def blockPairs : Nat → Reading (List (Node × Node))
  | 0 => failure
  | fuel + 1 => do
    if ← skip .key then
      let key ← if ← isBefore pairEnds then pure absent else node fuel true true
      -- A key need not have a value, and either of them may be left out behind its mark.
      let value ←
        if ← skip .value then
          if ← isBefore pairEnds then pure absent else node fuel true true
        else pure absent
      pure ((key, value) :: (← blockPairs fuel))
    else do
      expect .blockEnd
      pure []

/-- The items of a sequence in brackets up to the closing one. -/
def flowItems : Nat → Bool → Reading (List Node)
  | 0, _ => failure
  | fuel + 1, first => do
    if ← skip .flowSequenceEnd then pure []
    else do
      -- A comma parts an item from the one before, and may also come before the closing bracket.
      if !first then expect .flowEntry
      if ← skip .key then do
        let pair ← flowPair fuel
        pure (pair :: (← flowItems fuel false))
      else if ← skip .flowSequenceEnd then pure []
      else do
        let item ← node fuel false false
        pure (item :: (← flowItems fuel false))

/-- A pair in brackets after its mark, which is a mapping of its own. -/
def flowPair : Nat → Reading Node
  | 0 => failure
  | fuel + 1 => do
    let key ←
      -- What comes in place of a key is passed over, be it the mark of the value or what ends the
      -- pair.
      if ← isBefore (.value :: bracketEnds) then do
        drop
        pure absent
      else node fuel false false
    let value ← flowValue fuel bracketEnds
    pure (mappingNode [(key, value)])

/-- The value of a pair in flow style, if there is one before what ends it. -/
def flowValue : Nat → List Token → Reading Node
  | 0, _ => failure
  | fuel + 1, ends => do
    if ← skip .value then
      if ← isBefore ends then pure absent else node fuel false false
    else pure absent

/-- The pairs of a mapping in braces up to the closing one. -/
def flowPairs : Nat → Bool → Reading (List (Node × Node))
  | 0, _ => failure
  | fuel + 1, first => do
    if ← skip .flowMappingEnd then pure []
    else do
      if !first then expect .flowEntry
      if ← skip .key then do
        let key ←
          if ← isBefore (.value :: braceEnds) then pure absent else node fuel false false
        let value ← flowValue fuel braceEnds
        pure ((key, value) :: (← flowPairs fuel false))
      else if ← skip .flowMappingEnd then pure []
      else do
        -- Without any mark a node is a key that has no value.
        let key ← node fuel false false
        pure ((key, absent) :: (← flowPairs fuel false))
end

/-- The directives before a document, of which each is given once. -/
def directives : Nat → Bool → Reading Unit
  | 0, _ => failure
  | fuel + 1, versioned => do
    match ← peek with
    | some (.version major minor) =>
      -- Two versions are known, and a document names one of them at most once.
      guard (!versioned && major = 1 && (minor = 1 || minor = 2))
      drop
      directives fuel true
    | some (.tagHandle handle target) =>
      guard ((← get).handles.lookup handle).isNone
      drop
      modify fun reader => { reader with handles := (handle, target) :: reader.handles }
      directives fuel versioned
    | _ => pure ()

/-- The handles of tags that need no directive. -/
def standardHandles : List (List Char × List Char) :=
  [(['!'], ['!']), (['!', '!'], "tag:yaml.org,2002:".toList)]

/-- The document after its directives and marker, which may both be missing. -/
def document (fuel : Nat) : Reading Node := do
  directives fuel false
  modify fun reader => { reader with handles := reader.handles ++ standardHandles }
  -- Behind its marker a document may have nothing in it.
  if ← skip .documentStart then
    match ← peek with
    | none => pure absent
    | some .documentStart => pure absent
    | some .documentEnd => pure absent
    | some (.version _ _) => pure absent
    | some (.tagHandle _ _) => pure absent
    | _ => node fuel true false
  else node fuel true false

/-- Passes over the markers of a document's end. -/
def skipEnds : Nat → Reading Unit
  | 0 => pure ()
  | fuel + 1 => do
    if ← skip .documentEnd then skipEnds fuel

/-- The only document of a text, which is as good as empty if the text is. -/
def onlyDocument (fuel : Nat) : Reading Node := do
  if (← get).tokens.isEmpty then pure absent
  else
    let found ← document fuel
    skipEnds fuel
    -- A second document is one too many.
    guard (← get).tokens.isEmpty
    pure found

end Reading

/-- The settings document that a YAML text writes. -/
def parse? (text : List Char) : Option Node := do
  let tokens ← tokens? text
  -- Between two tokens that are passed over, the reader takes four steps at most.
  let (found, _) ← (Reading.onlyDocument (4 * tokens.length + 8)).run ⟨tokens, [], [], []⟩
  some found

end Yaml

end TemplateLint
