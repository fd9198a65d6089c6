import TemplateLint.Proofs.Run.Trace
import TemplateLint.Proofs.Run
import TemplateLint.Proofs.Todo.Lengthening

/-!
What holds of the disk is kept by a whole run, whether it completes or fails at any point, if each
call of the engine and each write keeps it. So the log of todos only gets longer.
-/

namespace TemplateLint

open Effect

namespace Run

/-- A step keeps what holds of the disk. -/
abbrev Respects {μ α : Type} (holds : FileSystem → Prop) (action : Lint μ α) : Prop :=
  Keeps (fun session => holds session.files) action

/-- Every call and every write that a run may make on its files keeps what holds of the disk. -/
structure Upholds {μ : Type} (holds : FileSystem → Prop) (engine : Engine μ) (workingDir : String)
    (options : RunOptions) (decay : Decay) (overriding : Bool) (specs : List FileSpec) : Prop where
  verify : ∀ template, Respects holds (engine.verify template)
  fix : ∀ template, Respects holds (engine.fix template)
  settings : ∀ template, Respects holds (engine.settings template)
  write : ∀ path, .path path ∈ specs → ∀ source output,
    Respects holds (writeBack workingDir ⟨source, path⟩ output : Lint μ Unit)
  update : options.updateTodo = true → ∀ template found,
    Respects holds (engine.updateTodos template found decay overriding)
  process : ∀ template found, Respects holds
    (engine.processTodos template found decay (options.fix || options.cleanTodo) overriding)

section Upholds

variable {μ : Type} {holds : FileSystem → Prop} {engine : Engine μ} {workingDir : String}
  {options : RunOptions} {decay : Decay} {overriding : Bool} {specs : List FileSpec}

/-- To load a template changes nothing on the disk. -/
theorem load_respects (workingDir : String) (stdinFilename : Option String) (spec : FileSpec) :
    Respects holds (load workingDir stdinFilename spec : Lint μ Template) := by
  cases spec with
  | stdin =>
    refine keeps_get_bind fun session held => ?_
    -- The input is read to its end, and either it is text or not.
    simp only [perform_bind, perform_set]
    cases session.input.text? <;> exact held
  | path path =>
    refine keeps_get_bind fun session held => ?_
    simp only
    cases session.files.readText (Path.join workingDir path) <;> exact held

/-- The findings of a file are obtained, and the file is written to at most. -/
theorem findings_respects
    (upholds : Upholds holds engine workingDir options decay overriding specs) {spec : FileSpec}
    (member : spec ∈ specs) {template : Template}
    (named : ∀ path, spec = .path path → template.filePath = path) :
    Respects holds
      (findings engine workingDir options.fix (decide (spec = .stdin)) template) := by
  unfold findings
  split
  · refine keeps_bind (upholds.fix template) fun outcome => ?_
    split
    · rename_i writes
      -- Nothing is written back to standard input, and a file is written under its own name.
      cases spec with
      | stdin => simp at writes
      | path path =>
        obtain ⟨source, filePath⟩ := template
        obtain rfl : filePath = path := named path rfl
        exact keeps_bind (upholds.write filePath member source outcome.output)
          fun _ => keeps_pure _
    · exact keeps_pure _
  · exact upholds.verify template

/-- A file is linted. -/
theorem lintFile_respects
    (upholds : Upholds holds engine workingDir options decay overriding specs) {spec : FileSpec}
    (member : spec ∈ specs) :
    Respects holds (lintFile engine workingDir options decay overriding spec) := by
  rw [lintFile_eq]
  refine keeps_bind_of_answer (load_respects workingDir options.stdinFilename spec) ?_
  intro template session left loaded
  -- A template remembers the path that it was loaded from, and a fix is written there.
  have named : ∀ path, spec = .path path → template.filePath = path := by
    rintro path rfl
    exact (perform_load_path.mp loaded).2.1
  refine keeps_bind (findings_respects upholds member named) fun found => ?_
  refine keeps_bind ?_ fun counts => keeps_bind ?_ fun reported => keeps_pure _
  · split
    · rename_i updates
      exact upholds.update updates template found
    · exact keeps_pure _
  · split
    · exact keeps_pure _
    · exact upholds.process template found

/-- Files are linted one after another, up to the first that fails. -/
theorem lintFiles_respects
    (upholds : Upholds holds engine workingDir options decay overriding specs)
    {some : List FileSpec} (within : ∀ spec ∈ some, spec ∈ specs) :
    Respects holds (lintFiles engine workingDir options decay overriding some) := by
  -- The induction is on the files; the first failure ends it early.
  induction some with
  | nil => exact keeps_pure _
  | cons spec later ih =>
    refine keeps_bind (lintFile_respects upholds (within spec List.mem_cons_self)) fun first => ?_
    exact keeps_bind (ih fun other member => within other (List.mem_cons_of_mem _ member))
      fun rest => keeps_pure _

/-- A run keeps what its calls and writes keep, wherever it ends. -/
theorem run_respects {files : FileSet}
    (upholds : Upholds holds engine workingDir options decay overriding files.specs) :
    Respects holds (run engine workingDir options decay overriding files) := by
  unfold run
  -- Settings are shown for a single file, and everything else is linted.
  split
  · split
    · exact keeps_pure _
    · rename_i spec single
      refine keeps_bind (keeps_bind (load_respects workingDir options.stdinFilename spec)
        fun template => keeps_bind (upholds.settings template) fun settings => ?_)
        fun _ => keeps_pure _
      exact fun session held => held
    · exact keeps_throw _
  · exact keeps_bind (lintFiles_respects upholds fun _ member => member) fun _ => keeps_pure _

end Upholds

/-- The entries that a run may add to the log: todos are made and dropped only if that is asked. -/
def MayLog (options : RunOptions) (overriding : Bool) : Todo.Change → Prop
  | .add _ => options.updateTodo = true
  | .remove _ => overriding = false ∧
    (options.updateTodo = true ∨ options.fix = true ∨ options.cleanTodo = true)

variable {set : RuleSet} {store : TodoStore} {today : Date} {workingDir : String}
  {options : RunOptions} {decay : Decay} {overriding : Bool}

/-- What a step of the store keeps of the disk, it keeps in a run. -/
theorem withTodos_respects {α : Type} {action : TodoAction α} (holds : FileSystem → Prop)
    (kept : Keeps (fun memory => holds memory.files) action) :
    Respects holds (Session.withTodos action) := by
  intro session held
  rw [Session.perform_withTodos]
  exact kept session.todos held

/-- A file that does not lead to the log is written to. -/
theorem writeBack_respects {μ : Type} {may : Todo.Change → Prop} {files : FileSystem}
    {path : String}
    (away : ∀ spot, store.IsLogPlace files spot →
      files.target? (Path.join workingDir path) ≠ some spot) (source output : String) :
    Respects (store.Tended may files)
      (writeBack workingDir ⟨source, path⟩ output : Lint μ Unit) := by
  refine keeps_get_bind fun session tended => ?_
  simp only
  cases done : session.files.write (Path.join workingDir path) output with
  | error cause => exact tended
  | ok made =>
    -- All paths lead where they led when the run began.
    refine tended.trans (TodoStore.tended_of_write done ?_)
    intro spot place
    rw [TodoStore.isLogPlace_of_overwritten tended.written] at place
    rw [tended.written.targets]
    exact away spot place

/-- Fixed files are written to, and the log gets longer by what may be added to it. -/
theorem upholds_tended {files : FileSystem} {specs : List FileSpec}
    (away : ∀ path, .path path ∈ specs → ∀ spot, store.IsLogPlace files spot →
      files.target? (Path.join workingDir path) ≠ some spot) :
    Upholds (store.Tended (MayLog options overriding) files) (set.engine store today) workingDir
      options decay overriding specs := by
  -- Rules only read, so the disk is touched by writes and by the store alone.
  refine ⟨?_, ?_, ?_, ?_, ?_, ?_⟩
  · exact fun template => keeps_pure (set.verify template)
  · exact fun template => keeps_pure (set.fix template)
  · exact fun template => keeps_pure (set.settings template)
  · exact fun path member => writeBack_respects (away path member)
  · intro updates template found
    have adds : ∀ todo, MayLog options overriding (.add todo) := fun _ => updates
    have removes : overriding = false → ∀ todo, MayLog options overriding (.remove todo) :=
      fun plain _ => ⟨plain, .inl updates⟩
    have kept : Keeps (fun memory => store.Tended (MayLog options overriding) files memory.files)
        (store.update template.filePath found decay overriding today) :=
      TodoStore.update_keeps_tended adds removes template.filePath found decay today
    simp only [RuleSet.engine]
    exact withTodos_respects (store.Tended (MayLog options overriding) files) kept
  · intro template found
    have removes : (options.fix || options.cleanTodo) = true → overriding = false →
        ∀ todo, MayLog options overriding (.remove todo) :=
      fun cleans plain _ => ⟨plain, .inr (Bool.or_eq_true_iff.mp cleans)⟩
    have kept : Keeps (fun memory => store.Tended (MayLog options overriding) files memory.files)
        (store.process template.filePath found (options.fix || options.cleanTodo) overriding
          today) :=
      TodoStore.process_keeps_tended removes template.filePath found today
    simp only [RuleSet.engine]
    exact withTodos_respects (store.Tended (MayLog options overriding) files) kept

/-- The log only gets longer in a run over files of which none leads to it. -/
theorem run_tends_log {specs : FileSet} {session : Session (Option (List Todo))}
    (away : ∀ path, .path path ∈ specs.specs → ∀ spot, store.IsLogPlace session.files spot →
      session.files.target? (Path.join workingDir path) ≠ some spot) :
    store.Tended (MayLog options overriding) session.files
      (perform (run (set.engine store today) workingDir options decay overriding specs)
        session).2.files :=
  run_respects (upholds_tended away) session (.refl store _ session.files)

end Run

end TemplateLint
