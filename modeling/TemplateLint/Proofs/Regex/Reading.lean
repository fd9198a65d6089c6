import Mathlib.Data.Finset.Card
import Mathlib.Data.Finset.Range
import TemplateLint.Proofs.Regex.Search

/-!
What a program reads: runs from point to point that end where the program accepts. The machine finds
a match at a place exactly when there is such a run, and a match that it finds is one.
-/

namespace TemplateLint

namespace Regex

namespace Instruction

/-- The points that a point leads to without reading, between two neighbours. -/
def targets (previous next : Option Char) : Instruction → List Nat
  | .read _ _ => []
  | .look sought target => if sought.holds previous next then [target] else []
  | .mark _ target => [target]
  | .jump target => [target]
  | .fork first second => [first, second]
  | .accept => []

/-- An instruction leads to two points at most. -/
theorem length_targets_le (previous next : Option Char) (instruction : Instruction) :
    (instruction.targets previous next).length ≤ 2 := by
  cases instruction <;> simp only [targets]
  case look => split <;> simp
  all_goals simp

/-- A point where threads wait leads nowhere without reading. -/
theorem targets_of_waits {instruction : Instruction} (waits : Program.waits instruction = true)
    (previous next : Option Char) : instruction.targets previous next = [] := by
  cases instruction <;> simp_all [Program.waits, targets]

end Instruction

/-- The points of the threads that a thread becomes do not depend on its marks. -/
theorem points_forks (place : Place) (thread : Thread) (instruction : Instruction) :
    (thread.forks place instruction).map Thread.point =
      instruction.targets place.previous place.next := by
  cases instruction <;> simp only [Thread.forks, Instruction.targets]
  case look => split <;> rfl
  all_goals rfl

namespace Program

/--
From a point, with a character before it, the program can read the front of a text up to where it
accepts, so that the end of the text is left.
-/
inductive Reads (program : Program) : Option Char → Nat → List Char → List Char → Prop where
  | accept {previous : Option Char} {point : Nat} {text : List Char}
      (instruction : program[point]? = some .accept) : Reads program previous point text text
  | read {previous : Option Char} {point next : Nat} {set : CharSet} {c : Char}
      {rest left : List Char} (instruction : program[point]? = some (.read set next))
      (member : set.contains c = true) (later : Reads program (some c) next rest left) :
      Reads program previous point (c :: rest) left
  | slide {previous : Option Char} {point target : Nat} {own : Instruction}
      {text left : List Char} (instruction : program[point]? = some own)
      (leads : target ∈ own.targets previous text.head?)
      (later : Reads program previous target text left) :
      Reads program previous point text left

variable {program : Program} {previous : Option Char} {text left : List Char}

/-- What is left of a text is the end of it. -/
theorem Reads.suffix {point : Nat} (reads : program.Reads previous point text left) :
    left <:+ text := by
  induction reads with
  | accept => exact List.suffix_refl _
  | read _ _ _ ih => exact ih.trans (List.suffix_cons _ _)
  | slide _ _ _ ih => exact ih

/-- What reads is a point of the program. -/
theorem Reads.isSome {point : Nat} (reads : program.Reads previous point text left) :
    program[point]?.isSome := by
  cases reads <;> simp_all

/-! The threads at a place -/

/-- A thread that waits has come from one that can read all that it can. -/
theorem reads_of_settle {place : Place} {fuel : Nat} {threads : List Thread} {seen : List Nat}
    {thread : Thread} (member : thread ∈ settle program place fuel threads seen)
    (next : text.head? = place.next)
    (reads : program.Reads place.previous thread.point text left) :
    ∃ origin ∈ threads, program.Reads place.previous origin.point text left := by
  fun_induction settle program place fuel threads seen with
  | case1 => simp at member
  | case2 => simp at member
  | case3 fuel first later seen old ih =>
    obtain ⟨origin, known, same⟩ := ih member
    exact ⟨origin, List.mem_cons_of_mem _ known, same⟩
  | case4 fuel first later seen new none ih =>
    obtain ⟨origin, known, same⟩ := ih member
    exact ⟨origin, List.mem_cons_of_mem _ known, same⟩
  | case5 fuel first later seen new own instruction seen' waits ih =>
    rcases List.mem_cons.mp member with rfl | other
    · exact ⟨_, List.mem_cons_self, reads⟩
    · obtain ⟨origin, known, same⟩ := ih other
      exact ⟨origin, List.mem_cons_of_mem _ known, same⟩
  | case6 fuel first later seen new own instruction seen' moves ih =>
    obtain ⟨origin, known, same⟩ := ih member
    rcases List.mem_append.mp known with forked | other
    · -- A fork of the first thread continues a run of it.
      have leads : origin.point ∈ own.targets place.previous text.head? := by
        rw [next, ← points_forks place first own]
        exact List.mem_map_of_mem forked
      exact ⟨first, List.mem_cons_self, .slide instruction leads same⟩
    · exact ⟨origin, List.mem_cons_of_mem _ other, same⟩

/-- How many points of a program are not among some points. -/
def unseen (program : Program) (seen : List Nat) : Nat :=
  ((Finset.range program.size).filter (· ∉ seen)).card

/-- A point of the program that is new is one that has not been seen. -/
theorem unseen_cons {point : Nat} {own : Instruction} {seen : List Nat}
    (instruction : program[point]? = some own) (new : point ∉ seen) :
    unseen program (point :: seen) < unseen program seen := by
  have inside := (Array.getElem?_eq_some_iff.mp instruction).1
  refine Finset.card_lt_card (Finset.ssubset_iff_of_subset ?_ |>.mpr ⟨point, ?_, ?_⟩)
  · exact Finset.monotone_filter_right _ fun other _ unseen => by simp_all
  · simp [inside, new]
  · simp

/-- Without any point seen all points of the program are left. -/
theorem unseen_nil (program : Program) : unseen program [] = program.size := by
  simp [unseen]

/--
Points that have been visited once threads have gone as far as they can: those seen before, those of
the threads, and with each new point those that it leads to. Where a thread has to wait one does.
-/
structure Visited (program : Program) (place : Place) (seen : List Nat)
    (threads waiting : List Thread) (points : List Nat) : Prop where
  old : ∀ point ∈ seen, point ∈ points
  origin : ∀ thread ∈ threads, program[thread.point]?.isSome → thread.point ∈ points
  closed : ∀ point ∈ points, point ∉ seen → ∀ own, program[point]? = some own →
    (∀ target ∈ own.targets place.previous place.next,
      program[target]?.isSome → target ∈ points) ∧
    (waits own = true → ∃ thread ∈ waiting, thread.point = point)

/-- A thread that is not followed, because its point is seen or none, adds nothing. -/
theorem Visited.skip {place : Place} {seen : List Nat} {thread : Thread}
    {threads waiting : List Thread} {points : List Nat}
    (visited : Visited program place seen threads waiting points)
    (known : program[thread.point]?.isSome → thread.point ∈ seen) :
    Visited program place seen (thread :: threads) waiting points where
  old := visited.old
  origin other member valid := by
    rcases List.mem_cons.mp member with rfl | later
    · exact visited.old _ (known valid)
    · exact visited.origin other later valid
  closed := visited.closed

/-- With enough fuel all points that can be reached are visited. -/
theorem exists_visited {place : Place} {fuel : Nat} {threads : List Thread} {seen : List Nat}
    (enough : threads.length + 2 * unseen program seen < fuel) :
    ∃ points,
      Visited program place seen threads (settle program place fuel threads seen) points := by
  -- Every step takes a thread off the list, and pays for two new ones with a point not seen before.
  fun_induction settle program place fuel threads seen with
  | case1 => omega
  | case2 fuel seen =>
    exact ⟨seen, fun _ => id, by simp, fun _ known new => absurd known new⟩
  | case3 fuel thread later seen old ih =>
    simp only [List.length_cons] at enough
    obtain ⟨points, visited⟩ := ih (by omega)
    exact ⟨points, visited.skip fun _ => old⟩
  | case4 fuel thread later seen new none ih =>
    simp only [List.length_cons] at enough
    obtain ⟨points, visited⟩ := ih (by omega)
    exact ⟨points, visited.skip fun valid => by simp [none] at valid⟩
  | case5 fuel thread later seen new own instruction seen' waits ih =>
    simp only [List.length_cons] at enough
    have fewer : unseen program seen' < unseen program seen := unseen_cons instruction new
    obtain ⟨points, visited⟩ := ih (by omega)
    refine ⟨points, fun point known => visited.old point (List.mem_cons_of_mem _ known), ?_, ?_⟩
    · intro other member valid
      rcases List.mem_cons.mp member with rfl | rest
      · exact visited.old _ List.mem_cons_self
      · exact visited.origin other rest valid
    · intro point known fresh other there
      by_cases same : point = thread.point
      · -- The thread waits at its own point.
        subst same
        obtain rfl : own = other := by simpa [instruction] using there
        exact ⟨by simp [Instruction.targets_of_waits waits], fun _ => ⟨_, List.mem_cons_self, rfl⟩⟩
      · obtain ⟨targets, waiting⟩ :=
          visited.closed point known (by simp [seen', same, fresh]) other there
        refine ⟨targets, fun stops => ?_⟩
        obtain ⟨waiter, inside, at_⟩ := waiting stops
        exact ⟨waiter, List.mem_cons_of_mem _ inside, at_⟩
  | case6 fuel thread later seen new own instruction seen' moves ih =>
    simp only [List.length_cons] at enough
    have fewer : unseen program seen' < unseen program seen := unseen_cons instruction new
    have forks := congrArg List.length (points_forks place thread own)
    have few := own.length_targets_le place.previous place.next
    rw [List.length_map] at forks
    have enoughLeft :
        (thread.forks place own ++ later).length + 2 * unseen program seen' < fuel := by
      rw [List.length_append]
      omega
    obtain ⟨points, visited⟩ := ih enoughLeft
    refine ⟨points, fun point known => visited.old point (List.mem_cons_of_mem _ known), ?_, ?_⟩
    · intro other member valid
      rcases List.mem_cons.mp member with rfl | rest
      · exact visited.old _ List.mem_cons_self
      · exact visited.origin other (List.mem_append_right _ rest) valid
    · intro point known fresh other there
      by_cases same : point = thread.point
      · -- The forks of the thread have been followed too.
        subst same
        obtain rfl : own = other := by simpa [instruction] using there
        refine ⟨fun target leads valid => ?_, fun stops => absurd stops (by simpa using moves)⟩
        rw [← points_forks place thread own] at leads
        obtain ⟨fork, inside, rfl⟩ := List.mem_map.mp leads
        exact visited.origin fork (List.mem_append_left _ inside) valid
      · exact visited.closed point known (by simp [seen', same, fresh]) other there

/-- The machine has a thread that accepts here, or one that goes on with the next character. -/
theorem exists_waiting {previous : Option Char} (index : Nat) {threads : List Thread}
    {thread : Thread} (member : thread ∈ threads)
    (reads : program.Reads previous thread.point text left) :
    (∃ waiter ∈ program.waiting ⟨index, previous, text.head?⟩ threads,
      program.accepts waiter = true) ∨
    ∃ c rest, text = c :: rest ∧
      ∃ waiter ∈ program.waiting ⟨index, previous, text.head?⟩ threads,
        ∃ advanced, program.advance? c waiter = some advanced ∧
          program.Reads (some c) advanced.point rest left := by
  obtain ⟨points, visited⟩ : ∃ points, Visited program ⟨index, previous, text.head?⟩ [] threads
      (program.waiting ⟨index, previous, text.head?⟩ threads) points := by
    refine exists_visited ?_
    rw [unseen_nil]
    omega
  have start := visited.origin thread member reads.isSome
  -- The run is followed through the visited points until it waits.
  generalize thread.point = point at reads start
  induction reads with
  | accept instruction =>
    obtain ⟨waiter, inside, at_⟩ := (visited.closed _ start (by simp) _ instruction).2 rfl
    exact .inl ⟨waiter, inside, by simp [accepts, at_, instruction]⟩
  | read instruction has later =>
    obtain ⟨waiter, inside, at_⟩ := (visited.closed _ start (by simp) _ instruction).2 rfl
    refine .inr ⟨_, _, rfl, waiter, inside, { waiter with point := _ }, ?_, later⟩
    simp [advance?, at_, instruction, has]
  | slide instruction leads later ih =>
    exact ih visited ((visited.closed _ start (by simp) _ instruction).1 _ leads later.isSome)

/-! Matches -/

/-- A match that has been found before is only given up for another one. -/
theorem isSome_longest_of_best {index : Nat} {threads : List Thread} {best : Option (Nat × Marks)}
    (found : best.isSome) : (program.longest index previous threads best text).isSome := by
  -- The induction is on the text: a step keeps what has been found or replaces it with a longer
  -- match.
  induction text generalizing index previous threads best with
  | nil =>
    rw [longest]
    split <;> simp [found]
  | cons c rest ih =>
    simp only [longest]
    split
    · split <;> simp [found]
    · refine ih ?_
      split <;> simp [found]

/-- What some thread can read is found. -/
theorem isSome_longest {index : Nat} {threads : List Thread} {best : Option (Nat × Marks)}
    {thread : Thread} (member : thread ∈ threads)
    (reads : program.Reads previous thread.point text left) :
    (program.longest index previous threads best text).isSome := by
  induction text generalizing index previous threads best thread with
  | nil =>
    rw [longest]
    rcases exists_waiting index member reads with ⟨waiter, inside, stops⟩ | ⟨_, _, no, _⟩
    · have found := List.find?_isSome.mpr ⟨waiter, inside, stops⟩
      obtain ⟨first, same⟩ := Option.isSome_iff_exists.mp found
      simp only [List.head?_nil] at same
      simp [same]
    · simp at no
  | cons c rest ih =>
    simp only [longest]
    cases found : (program.waiting ⟨index, previous, some c⟩ threads).find? program.accepts with
    | some first =>
      simp only
      split
      · rfl
      · exact isSome_longest_of_best rfl
    | none =>
      -- No thread accepts here, so all go on that can.
      have goesOn := List.find?_eq_none.mp found
      rcases exists_waiting index member reads with
        ⟨waiter, inside, stops⟩ | ⟨_, _, same, waiter, inside, advanced, step, later⟩
      · exact absurd stops (goesOn waiter inside)
      · obtain ⟨rfl, rfl⟩ := List.cons.inj same
        have all : (program.waiting ⟨index, previous, some c⟩ threads).takeWhile
            (fun thread => !program.accepts thread) =
              program.waiting ⟨index, previous, some c⟩ threads :=
          List.takeWhile_eq_self_iff.mpr fun other known => by simpa using goesOn other known
        have known : advanced ∈ (program.waiting ⟨index, previous, some c⟩ threads).filterMap
            (program.advance? c) := List.mem_filterMap.mpr ⟨waiter, inside, step⟩
        simp only [all]
        split
        · rename_i none
          simp [none] at known
        · exact ih known later

/-- A thread that accepts at a place has come from one that reads nothing. -/
theorem reads_of_accepts (text : List Char) {index : Nat} {threads : List Thread} {thread : Thread}
    (first : (program.waiting ⟨index, previous, text.head?⟩ threads).find? program.accepts =
      some thread) : ∃ origin ∈ threads, program.Reads previous origin.point text text := by
  have stops : program[thread.point]? = some .accept := by
    simpa [accepts] using List.find?_some first
  exact reads_of_settle (List.mem_of_find?_eq_some first) rfl (.accept stops)

/-- A thread that goes on with a character has come from one that reads it. -/
theorem reads_of_advance? {index : Nat} {threads : List Thread} {c : Char} {rest : List Char}
    {waiter advanced : Thread} (inside : waiter ∈ program.waiting ⟨index, previous, some c⟩ threads)
    (step : program.advance? c waiter = some advanced)
    (reads : program.Reads (some c) advanced.point rest left) :
    ∃ origin ∈ threads, program.Reads previous origin.point (c :: rest) left := by
  -- The thread was settled from one of those given, and then it has read the character.
  refine reads_of_settle inside rfl ?_
  unfold advance? at step
  split at step
  · rename_i set next instruction
    split at step
    · rename_i has
      obtain rfl : { waiter with point := next } = advanced := by simpa using step
      exact .read instruction has reads
    · simp at step
  · simp at step

/-- A match that is found is what some thread reads, unless it was found before. -/
theorem reads_of_longest {index : Nat} {threads : List Thread} {best : Option (Nat × Marks)}
    {stop : Nat} {marks : Marks}
    (found : program.longest index previous threads best text = some (stop, marks)) :
    best = some (stop, marks) ∨
      ∃ thread ∈ threads, ∃ left, program.Reads previous thread.point text left ∧
        index + text.length = stop + left.length := by
  induction text generalizing index previous threads best with
  | nil =>
    rw [longest] at found
    split at found
    · rename_i thread first
      obtain ⟨rfl, rfl⟩ : index = stop ∧ thread.marks = marks := by simpa using found
      obtain ⟨origin, known, reads⟩ := reads_of_accepts [] first
      exact .inr ⟨origin, known, [], reads, rfl⟩
    · exact .inl found
  | cons c rest ih =>
    simp only [longest] at found
    -- What a thread reads that goes on has been read from a thread here, with the character.
    have further : (∃ thread ∈ ((program.waiting ⟨index, previous, some c⟩ threads).takeWhile
          fun thread => !program.accepts thread).filterMap (program.advance? c),
        ∃ left, program.Reads (some c) thread.point rest left ∧
          index + 1 + rest.length = stop + left.length) →
      ∃ thread ∈ threads, ∃ left, program.Reads previous thread.point (c :: rest) left ∧
        index + (c :: rest).length = stop + left.length := by
      rintro ⟨thread, known, left, reads, sizes⟩
      obtain ⟨waiter, inside, step⟩ := List.mem_filterMap.mp known
      obtain ⟨origin, there, same⟩ :=
        reads_of_advance? ((List.takeWhile_sublist _).mem inside) step reads
      refine ⟨origin, there, left, same, ?_⟩
      rw [List.length_cons]
      omega
    cases first : (program.waiting ⟨index, previous, some c⟩ threads).find? program.accepts with
    | none =>
      simp only [first] at found
      split at found
      · exact .inl found
      · exact (ih found).imp_right further
    | some thread =>
      -- The match that ends here is replaced if threads that are preferred find another one.
      have here : some (index, thread.marks) = some (stop, marks) →
          ∃ thread ∈ threads, ∃ left, program.Reads previous thread.point (c :: rest) left ∧
            index + (c :: rest).length = stop + left.length := by
        intro same
        obtain ⟨rfl, rfl⟩ : index = stop ∧ thread.marks = marks := by simpa using same
        obtain ⟨origin, known, reads⟩ := reads_of_accepts (c :: rest) first
        exact ⟨origin, known, _, reads, rfl⟩
      simp only [first] at found
      split at found
      · exact .inr (here found)
      · exact .inr ((ih found).elim here further)

/-- A match at a place is found if and only if the program can read something there. -/
theorem isSome_matchAt?_iff (index : Nat) :
    (program.matchAt? index previous text).isSome ↔ ∃ left, program.Reads previous 0 text left := by
  rw [matchAt?, Option.isSome_map]
  constructor
  · intro found
    obtain ⟨⟨stop, marks⟩, found⟩ := Option.isSome_iff_exists.mp found
    -- What is found comes from a thread, and the only one starts at the first point of the program.
    rcases reads_of_longest found with no | ⟨thread, known, left, reads, _⟩
    · simp at no
    · obtain rfl := List.mem_singleton.mp known
      exact ⟨left, reads⟩
  · rintro ⟨left, reads⟩
    exact isSome_longest List.mem_cons_self reads

/-- A match that is found at a place is what the program reads there. -/
theorem reads_of_matchAt? {index : Nat} {found : Match}
    (matched : program.matchAt? index previous text = some found) :
    ∃ left, program.Reads previous 0 text left ∧
      index + text.length = found.stop + left.length := by
  obtain ⟨⟨stop, marks⟩, own, rfl⟩ := Option.map_eq_some_iff.mp matched
  rcases reads_of_longest own with no | ⟨thread, known, left, reads, sizes⟩
  · simp at no
  · obtain rfl := List.mem_singleton.mp known
    exact ⟨left, reads, sizes⟩

/-- A match does not stop before it starts, nor after the end of the text. -/
theorem bounds_of_matchAt? {index : Nat} {found : Match}
    (matched : program.matchAt? index previous text = some found) :
    index ≤ found.stop ∧ found.stop ≤ index + text.length := by
  obtain ⟨left, reads, sizes⟩ := reads_of_matchAt? matched
  have shorter := reads.suffix.length_le
  omega

end Program

end Regex

end TemplateLint
