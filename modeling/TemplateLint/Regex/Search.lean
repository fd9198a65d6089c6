import TemplateLint.Regex.Program

/-! Running programs on texts: the preferred match at a place, and all matches of a text. -/

namespace TemplateLint

namespace Regex

/-- The marks that a run has made, latest first: a slot and a place in the text. -/
abbrev Marks := List (Nat × Nat)

/-- A run of the machine among others: where it is, and its marks. -/
structure Thread where
  point : Nat
  marks : Marks
  deriving Repr, DecidableEq

/-- A match: the places where it starts and stops, counted in characters, and its marks. -/
structure Match where
  start : Nat
  stop : Nat
  marks : Marks
  deriving Repr, DecidableEq, Inhabited

/-- A place in a text: its number, and the characters beside it. -/
structure Place where
  index : Nat
  previous : Option Char
  next : Option Char
  deriving Repr, DecidableEq

namespace Thread

/-- The threads that a thread becomes without reading; none where it has to read or accepts. -/
def forks (place : Place) (thread : Thread) : Instruction → List Thread
  | .read _ _ => []
  | .accept => []
  | .look look next =>
    if look.holds place.previous place.next then [{ thread with point := next }] else []
  | .mark slot next => [⟨next, (slot, place.index) :: thread.marks⟩]
  | .jump next => [{ thread with point := next }]
  | .fork first second => [{ thread with point := first }, { thread with point := second }]

end Thread

namespace Program

/-- A thread at a point waits there for a character or for the end of the match. -/
def waits : Instruction → Bool
  | .read _ _ => true
  | .accept => true
  | _ => false

/--
The threads that wait once all threads have gone as far as they can at a place, in order of
preference. A point that was reached before is not entered again.
-/
def settle (program : Program) (place : Place) : Nat → List Thread → List Nat → List Thread
  | 0, _, _ => []
  | _, [], _ => []
  | fuel + 1, thread :: later, seen =>
    -- The thread that reached the point before is preferred.
    if thread.point ∈ seen then settle program place fuel later seen
    else
      match program[thread.point]? with
      | none => settle program place fuel later seen
      | some instruction =>
        let seen := thread.point :: seen
        -- The ways that a thread forks into come before the threads that are preferred less.
        if waits instruction then thread :: settle program place fuel later seen
        else settle program place fuel (thread.forks place instruction ++ later) seen

/-- The waiting threads at a place; each point adds two threads to the work at most. -/
def waiting (program : Program) (place : Place) (threads : List Thread) : List Thread :=
  settle program place (2 * program.size + threads.length + 1) threads []

/-- A thread stands where its program accepts. -/
def accepts (program : Program) (thread : Thread) : Bool :=
  program[thread.point]? = some .accept

/-- The thread after reading a character. -/
def advance? (program : Program) (c : Char) (thread : Thread) : Option Thread :=
  match program[thread.point]? with
  | some (.read set next) => if set.contains c then some { thread with point := next } else none
  | _ => none

/--
The preferred match of threads over the rest of a text, given the best one so far: where it stops,
and its marks. A thread that accepts silences the threads that are preferred less.
-/
def longest (program : Program) :
    Nat → Option Char → List Thread → Option (Nat × Marks) → List Char → Option (Nat × Marks)
  | index, previous, threads, best, [] =>
    match (program.waiting ⟨index, previous, none⟩ threads).find? program.accepts with
    | some thread => some (index, thread.marks)
    | none => best
  | index, previous, threads, best, c :: rest =>
    let waiting := program.waiting ⟨index, previous, some c⟩ threads
    let best :=
      match waiting.find? program.accepts with
      | some thread => some (index, thread.marks)
      | none => best
    -- Threads behind one that accepts would only lead to matches that are preferred less.
    let preferred := waiting.takeWhile fun thread => !program.accepts thread
    match preferred.filterMap (program.advance? c) with
    | [] => best
    | advanced => longest program (index + 1) (some c) advanced best rest

/-- The preferred match that starts at a place, given the text after it. -/
def matchAt? (program : Program) (index : Nat) (previous : Option Char) (rest : List Char) :
    Option Match :=
  (program.longest index previous [⟨0, []⟩] none rest).map fun (stop, marks) => ⟨index, stop, marks⟩

/--
The matches of a text from a place on, leftmost first and without overlap: as many characters as
told are passed over first, and where a match has just stopped no empty one starts.
-/
def matchesFrom (program : Program) :
    Nat → Option Char → Nat → Option Nat → List Char → List Match
  | index, _, skipped + 1, stopped, c :: rest =>
    matchesFrom program (index + 1) (some c) skipped stopped rest
  | _, _, _ + 1, _, [] => []
  | index, previous, 0, stopped, rest =>
    -- An empty match right behind another one is left out.
    let found := (program.matchAt? index previous rest).filter fun found =>
      found.stop ≠ index || stopped ≠ some index
    match rest, found with
    | [], found => found.toList
    | c :: rest, some found =>
      -- The first character of the match is passed over by this step itself.
      let skipped := found.stop - index - 1
      found :: matchesFrom program (index + 1) (some c) skipped (some found.stop) rest
    | c :: rest, none => matchesFrom program (index + 1) (some c) 0 stopped rest

end Program

namespace Match

/-- The latest mark in a slot. -/
def mark? (found : Match) (slot : Nat) : Option Nat :=
  found.marks.lookup slot

/-- What a match holds of a text. -/
def text (found : Match) (text : List Char) : List Char :=
  (text.drop found.start).take (found.stop - found.start)

/-- What a group of a match holds of a text; the whole match is group zero. -/
def groupText (found : Match) (text : List Char) (index : Nat) : List Char :=
  if index = 0 then found.text text
  else
    match found.mark? (2 * index), found.mark? (2 * index + 1) with
    | some start, some stop => (text.drop start).take (stop - start)
    | _, _ => []

end Match

end Regex

end TemplateLint
