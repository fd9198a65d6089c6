import TemplateLint.Todo.Basic

/-! Which todo covers which finding: exact matches first, then matches of moved findings. -/

namespace TemplateLint

/-- A todo for each finding or none, and which todos are taken. -/
structure Pairing where
  assigned : List (Option Nat)
  taken : List Bool
  deriving Repr, DecidableEq

namespace Pairing

/-- The position, counted from the given one, of the first todo that is free and satisfies a test. -/
def firstFree (test : Todo → Bool) : Nat → List Todo → List Bool → Option Nat
  | position, todo :: todos, used :: later =>
    if !used && test todo then some position else firstFree test (position + 1) todos later
  | _, _, _ => none

/-- The findings without a todo take the first free one that matches, one finding after another. -/
def pass (test : Todo → Finding → Bool) (todos : List Todo) :
    List Finding → List (Option Nat) → List Bool → Pairing
  | finding :: findings, none :: assigned, taken =>
    match firstFree (test · finding) 0 todos taken with
    | some position =>
      let rest := pass test todos findings assigned (taken.set position true)
      { rest with assigned := some position :: rest.assigned }
    | none =>
      let rest := pass test todos findings assigned taken
      { rest with assigned := none :: rest.assigned }
  | _ :: findings, some position :: assigned, taken =>
    let rest := pass test todos findings assigned taken
    { rest with assigned := some position :: rest.assigned }
  | _, assigned, taken => ⟨assigned, taken⟩

/-- Every finding takes at most one todo: its own if it is there, else one of the same text. -/
def of (todos : List Todo) (findings : List Finding) : Pairing :=
  -- Every exact match is made before the first moved finding takes a todo.
  let exact := pass Todo.matchesExactly todos findings
    (findings.map fun _ => none) (todos.map fun _ => false)
  pass Todo.matchesLoosely todos findings exact.assigned exact.taken

/-- The todos that no finding took. -/
def unmatched (pairing : Pairing) (todos : List Todo) : List Todo :=
  ((todos.zip pairing.taken).filter (!·.2)).map (·.1)

end Pairing

end TemplateLint
