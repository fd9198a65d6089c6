/-! The files to lint: an ordered set of paths, or standard input. -/

namespace TemplateLint

/-- One thing to lint. -/
inductive FileSpec where
  | stdin
  | path (value : String)
  deriving Repr, DecidableEq, Inhabited

/-- The name that standard input goes by. -/
def stdinName : String :=
  "/dev/stdin"

namespace FileSpec

/-- The name by which a thing to lint is told apart. -/
def identifier : FileSpec → String
  | .stdin => stdinName
  | .path value => value

end FileSpec

/-- Things to lint in the order in which they were named, no name twice. -/
structure FileSet where
  specs : List FileSpec
  distinct : (specs.map FileSpec.identifier).Nodup

namespace FileSet

/-- Nothing to lint. -/
def empty : FileSet :=
  ⟨[], by simp⟩

/-- The names of all things to lint, in order. -/
def identifiers (files : FileSet) : List String :=
  files.specs.map FileSpec.identifier

/-- The name of a thing to lint is there already. -/
def contains (files : FileSet) (spec : FileSpec) : Bool :=
  files.identifiers.contains spec.identifier

/-- The set with one more thing at its end, unless its name is there already. -/
def insert (files : FileSet) (spec : FileSpec) : FileSet :=
  if present : spec.identifier ∈ files.identifiers then files
  else
    ⟨files.specs ++ [spec], by
      -- A new name keeps the names distinct.
      simp only [List.map_append, List.map_cons, List.map_nil, List.nodup_append,
        List.nodup_cons, List.mem_cons, List.not_mem_nil, or_false]
      refine ⟨files.distinct, ⟨not_false, List.nodup_nil⟩, ?_⟩
      intro name member other same equal
      exact present (same ▸ equal ▸ member)⟩

/-- The set with more things, one after another. -/
def insertAll (files : FileSet) (specs : List FileSpec) : FileSet :=
  specs.foldl insert files

/-- Only standard input. -/
def stdin : FileSet :=
  empty.insert .stdin

/-- How many things there are to lint. -/
def size (files : FileSet) : Nat :=
  files.specs.length

/-- The set is standard input and nothing else. -/
def isStdin (files : FileSet) : Bool :=
  files.specs = [.stdin]

/-- There is nothing to lint. -/
def isEmpty (files : FileSet) : Bool :=
  files.specs.isEmpty

end FileSet

/-- No path at all, or one that names standard input, asks for standard input. -/
def asksForStdin (patterns : List String) : Bool :=
  patterns.isEmpty || patterns.any fun pattern => pattern = "-" || pattern = stdinName

end TemplateLint
