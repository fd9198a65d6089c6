import TemplateLint.Regex.Expression

/-! Regular expressions as programs of a machine that reads a text once. -/

namespace TemplateLint

namespace Regex

/-- What the machine does at a point, and the points it goes on to, the preferred one first. -/
inductive Instruction where
  | read (set : CharSet) (next : Nat)
  | look (look : Look) (next : Nat)
  | mark (slot next : Nat)
  | jump (next : Nat)
  | fork (first second : Nat)
  | accept
  deriving Repr, DecidableEq, Inhabited

namespace Instruction

/-- A fork that prefers its first way when greedy, and its second way otherwise. -/
def prefer (greedy : Bool) (first second : Nat) : Instruction :=
  if greedy then .fork first second else .fork second first

end Instruction

namespace Expression

/-- How many instructions an expression takes. -/
def size : Expression → Nat
  | .empty => 1
  | .char _ => 1
  | .look _ => 1
  | .group _ body => body.size + 2
  | .sequence first second => first.size + second.size
  | .choice first second => first.size + second.size + 1
  | .repeated 0 none _ body => body.size + 2
  | .repeated (least + 1) none _ body => (least + 1) * body.size + 1
  | .repeated least (some most) _ body => least * body.size + (most - least) * (body.size + 1) + 1

/-- Copies of code one after another, each written for the point it starts at. -/
def copies (count width start : Nat) (code : Nat → List Instruction) : List Instruction :=
  (List.range count).flatMap fun n => code (start + n * width)

/-- The instructions of an expression that start at a point and go on to another one. -/
def code : Expression → Nat → Nat → List Instruction
  | .empty, _, next => [.jump next]
  | .char set, _, next => [.read set next]
  | .look place, _, next => [.look place next]
  -- The two slots of a group mark where it starts and where it stops.
  | .group index body, start, next =>
    .mark (2 * index) (start + 1) :: body.code (start + 1) (start + 1 + body.size) ++
      [.mark (2 * index + 1) next]
  | .sequence first second, start, next =>
    first.code start (start + first.size) ++ second.code (start + first.size) next
  -- The first branch is preferred, and both go on to what follows.
  | .choice first second, start, next =>
    .fork (start + 1) (start + 1 + first.size) ::
      first.code (start + 1) next ++ second.code (start + 1 + first.size) next
  | .repeated 0 none greedy body, start, next =>
    -- One pass or none, and after each pass another one or none.
    .prefer greedy (start + 1) next :: body.code (start + 1) (start + 1 + body.size) ++
      [.prefer greedy (start + 1) next]
  -- The last of the passes that are needed may be made again and again.
  | .repeated (least + 1) none greedy body, start, next =>
    copies (least + 1) body.size start (fun point => body.code point (point + body.size)) ++
      [.prefer greedy (start + least * body.size) next]
  | .repeated least (some most) greedy body, start, next =>
    -- Each pass beyond those that are needed may be left out, and all later ones with it.
    let optional := start + least * body.size
    copies least body.size start (fun point => body.code point (point + body.size)) ++
      copies (most - least) (body.size + 1) optional (fun point =>
        .prefer greedy (point + 1) next :: body.code (point + 1) (point + 1 + body.size)) ++
      [.jump next]

end Expression

/-- The instructions by their points; the machine starts at the first. -/
abbrev Program := Array Instruction

/-- The program of an expression, which accepts where the expression ends. -/
def Expression.program (expression : Expression) : Program :=
  (expression.code 0 expression.size ++ [Instruction.accept]).toArray

end Regex

end TemplateLint
