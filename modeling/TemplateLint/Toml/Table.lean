import TemplateLint.Document.Node

/-! Tables as the statements of a TOML text build them, none of which may redefine another. -/

namespace TemplateLint

namespace Toml

/--
What stands under a key. A table is implied while no header names it; it is dotted when a dotted
key made it. Of an array of tables only the last one still grows.
-/
inductive Item where
  | value (node : Node)
  | table (implied dotted : Bool) (entries : List (String × Item))
  | tables (earlier : List Node) (last : List (String × Item))
  deriving Inhabited

/-- Keys and what stands under them. -/
abbrev Entries := List (String × Item)

mutual
/-- An item as a settings document. -/
def Item.toNode : Item → Node
  | .value node => node
  | .table _ _ entries => .mapping (entryNodes entries)
  | .tables earlier last => .sequence (earlier ++ [.mapping (entryNodes last)]) false

/-- Entries as those of a settings document. -/
def entryNodes : List (String × Item) → List (String × Node)
  | [] => []
  | (key, item) :: later => (key, item.toNode) :: entryNodes later
end

namespace Entries

/-- Entries with another item under a key that is there. -/
def replace (key : String) (item : Item) : Entries → Entries
  | [] => []
  | (other, old) :: later =>
    if other = key then (key, item) :: later else (other, old) :: replace key item later

/--
Changes the entries at the end of a path and is told whether they belong to a dotted table. Tables
that the path lacks are implied. A dotted path may not go on through a table that has a header.
-/
def alter (byDots : Bool) (change : Bool → Entries → Option Entries) :
    List String → Bool → Entries → Option Entries
  | [], dotted, entries => change dotted entries
  | key :: path, _, entries =>
    match entries.lookup key with
    | none => do
      let inner ← alter byDots change path byDots []
      some (entries ++ [(key, .table true byDots inner)])
    | some (.value _) => none
    | some (.table implied dotted inner) =>
      -- A table that a header has opened is complete as far as dots go.
      if byDots && !implied then none
      else do
        let inner ← alter byDots change path dotted inner
        some (replace key (.table implied dotted inner) entries)
    | some (.tables earlier last) => do
      -- Below the name of an array the path goes on in its last table.
      let last ← alter byDots change path false last
      some (replace key (.tables earlier last) entries)

/-- The last key of a path and the keys before it. -/
def splitLast? : List String → Option (List String × String)
  | [] => none
  | [key] => some ([], key)
  | key :: path => (splitLast? path).map fun (before, last) => (key :: before, last)

/-- Sets the value of a key, dotted or not, which nothing has set before. -/
def assign? (path : List String) (value : Node) (entries : Entries) : Option Entries := do
  let (before, key) ← splitLast? path
  let insert (dotted : Bool) (target : Entries) : Option Entries :=
    -- A dotted key sets a value in a table of its own making only.
    if dotted = before.isEmpty then none
    else if (target.lookup key).isSome then none
    else some (target ++ [(key, .value value)])
  alter true insert before false entries

/-- Opens the table that a header names, which may have been implied but not opened. -/
def openTable? (path : List String) (entries : Entries) : Option Entries := do
  let (before, key) ← splitLast? path
  let insert (_ : Bool) (target : Entries) : Option Entries :=
    match target.lookup key with
    | none => some (target ++ [(key, .table false false [])])
    -- What longer headers have put into the table stays in it.
    | some (.table true false inner) => some (replace key (.table false false inner) target)
    | some _ => none
  alter false insert before false entries

/-- Opens a new last table of the array that a header names. -/
def openArray? (path : List String) (entries : Entries) : Option Entries := do
  let (before, key) ← splitLast? path
  let insert (_ : Bool) (target : Entries) : Option Entries :=
    match target.lookup key with
    | none => some (target ++ [(key, .tables [] [])])
    -- The table that was the last one is complete from here on.
    | some (.tables earlier last) =>
      some (replace key (.tables (earlier ++ [.mapping (entryNodes last)]) []) target)
    | some _ => none
  alter false insert before false entries

/-- Sets the value of a key in the table of a header. -/
def assignIn? (header path : List String) (value : Node) (entries : Entries) : Option Entries :=
  alter false (fun _ => assign? path value) header false entries

end Entries

end Toml

end TemplateLint
