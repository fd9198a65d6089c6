import TemplateLint.Proofs.Files.Overwrite
import TemplateLint.Proofs.Run.Invariant

/-!
What a run writes when its engine touches no file: the fixes that are reported for files, and
nothing else. The disk that it leaves, and the one that it works on at any moment, is the one before
it with the last of these texts at each location.
-/

namespace TemplateLint

open Effect

/-- An action leaves the disk as it is, whether it succeeds or fails. -/
def Spares {μ α : Type} (action : Lint μ α) : Prop :=
  ∀ session, (perform action session).2.files = session.files

/-- What spares the disk leaves the one that it found. -/
theorem Spares.files_eq {μ α : Type} {action : Lint μ α} (spares : Spares action)
    {session left : Session μ} {reply : Except LintError α}
    (done : perform action session = (reply, left)) : left.files = session.files := by
  have kept := spares session
  rw [done] at kept
  exact kept

/-- No call of an engine touches the disk. -/
structure Engine.SparesFiles {μ : Type} (engine : Engine μ) : Prop where
  verify : ∀ template, Spares (engine.verify template)
  fix : ∀ template, Spares (engine.fix template)
  settings : ∀ template, Spares (engine.settings template)
  updateTodos : ∀ template found decay overriding,
    Spares (engine.updateTodos template found decay overriding)
  processTodos : ∀ template found decay cleanup overriding,
    Spares (engine.processTodos template found decay cleanup overriding)

namespace Run

open FileSystem

variable {μ : Type}

namespace Event

/-- The path and the text of a write, whether it succeeds or fails. -/
def attempt? : Event → Option (String × String)
  | .write template output _ => some (template.filePath, output)
  | _ => none

/-- The path and the text of a write that succeeds. -/
def save? : Event → Option (String × String)
  | .write template output (.ok _) => some (template.filePath, output)
  | _ => none

end Event

/-- The paths and the texts of all writes, in order. -/
def attempts (events : List Event) : List (String × String) :=
  events.filterMap Event.attempt?

/-- The paths and the texts of the writes that succeed, in order. -/
def saves (events : List Event) : List (String × String) :=
  events.filterMap Event.save?

/--
The fixes that are reported for files, in order: the path of the file that was loaded last, and its
text after the fix. Before a file is loaded there is none, and standard input is no file.
-/
def reportedFixes : Option String → List Event → List (String × String)
  | _, [] => []
  | _, .load (.path path) (.ok _) :: later => reportedFixes (some path) later
  -- Neither standard input nor a file that is not read has a path to write to.
  | _, .load _ _ :: later => reportedFixes none later
  | some path, .fix _ (.ok outcome) :: later =>
    if outcome.isFixed then (path, outcome.output) :: reportedFixes (some path) later
    else reportedFixes (some path) later
  | current, _ :: later => reportedFixes current later

/-- The last text that is written to a location. -/
def lastAt (files : FileSystem) (workingDir : String) (location : Location)
    (saves : List (String × String)) : Option String :=
  ((saves.filter fun save =>
    files.target? (Path.join workingDir save.1) = some location).getLast?).map Prod.snd

section Disk

variable {engine : Engine μ} {workingDir : String} {stdinFilename : Option String}
  {session left : Session μ}

/-- Nothing is written by nothing. -/
@[simp] theorem lastAt_nil (files : FileSystem) (location : Location) :
    lastAt files workingDir location [] = none :=
  rfl

/-- A text counts if none is written to its location after it. -/
theorem lastAt_cons (files : FileSystem) (location : Location) (save : String × String)
    (later : List (String × String)) :
    lastAt files workingDir location (save :: later) =
      (lastAt files workingDir location later).or
        (if files.target? (Path.join workingDir save.1) = some location then some save.2
          else none) := by
  simp only [lastAt, List.filter_cons]
  by_cases leads : files.target? (Path.join workingDir save.1) = some location
  · simp only [leads, decide_true, if_true, List.getLast?_cons, Option.map_some]
    cases List.getLast? _ <;> rfl
  · simp [leads]

/-- On disks of one shape the same texts are the last ones. -/
theorem lastAt_congr {files others : FileSystem} (same : SameShape files others)
    (location : Location) (saves : List (String × String)) :
    lastAt files workingDir location saves = lastAt others workingDir location saves := by
  simp only [lastAt, target?_congr same]

/-- What is not a write that succeeds leaves the disk as it is. -/
theorem Event.Occurs.spares (spares : engine.SparesFiles) {event : Event}
    (occurs : event.Occurs engine workingDir stdinFilename session left)
    (unsaved : event.save? = none) : left.files = session.files := by
  -- Only an event of writing can change files, and one that has failed has left them alone.
  cases event with
  | load spec reply =>
    have loads (files : FileSystem) :
        Respects (· = files) (Run.load workingDir stdinFilename spec : Lint μ Template) :=
      load_respects workingDir stdinFilename spec
    exact Spares.files_eq (fun session => loads session.files session rfl) occurs
  | verify template reply => exact (spares.verify template).files_eq occurs
  | fix template reply => exact (spares.fix template).files_eq occurs
  | write template output reply =>
    cases reply with
    | ok value => simp [Event.save?] at unsaved
    | error error =>
      simp only [Event.Occurs, writeBack, perform_bind, perform_get] at occurs
      cases done : session.files.write (Path.join workingDir template.filePath) output with
      | error cause =>
        simp only [done, perform_throw] at occurs
        rw [← (Prod.mk.inj occurs).2]
      | ok made => simp [done] at occurs
  | update template findings decay overriding reply =>
    exact (spares.updateTodos template findings decay overriding).files_eq occurs
  | process template findings decay cleanup overriding reply =>
    exact (spares.processTodos template findings decay cleanup overriding).files_eq occurs
  | settings template reply => exact (spares.settings template).files_eq occurs
  | display inForce reply =>
    obtain ⟨_, rfl⟩ := Prod.mk.inj occurs
    rfl

/-- A write that succeeds puts its text on the disk. -/
theorem Event.Occurs.writes {event : Event} {path text : String}
    (occurs : event.Occurs engine workingDir stdinFilename session left)
    (saved : event.save? = some (path, text)) :
    session.files.write (Path.join workingDir path) text = .ok left.files := by
  -- Only a template that has been written is a save.
  cases event with
  | write template output reply =>
    cases reply with
    | error error => simp [Event.save?] at saved
    | ok value =>
      obtain ⟨rfl, rfl⟩ : template.filePath = path ∧ output = text := by
        simpa [Event.save?] using saved
      simp only [Event.Occurs, writeBack, perform_bind, perform_get] at occurs
      cases done : session.files.write (Path.join workingDir template.filePath) output with
      | error cause => simp [done] at occurs
      | ok made =>
        simp only [done, perform_set] at occurs
        rw [← (Prod.mk.inj occurs).2]
  | _ => simp [Event.save?] at saved

/--
As things occur, the disk changes by what is written: each location holds the last text that was
written there, and where none was, what it held before.
-/
theorem occur_settles (spares : engine.SparesFiles) {events : List Event}
    (occur : Occur engine workingDir stdinFilename events session left)
    (stored : ∀ save ∈ saves events, session.files.Stores (Path.join workingDir save.1)) :
    SameShape left.files session.files ∧ ∀ location, left.files.entry? location =
      settled (session.files.entry? location)
        (lastAt session.files workingDir location (saves events)) := by
  -- The induction is on the events; the disk keeps its shape, so paths lead where they led.
  induction events generalizing session with
  | nil =>
    obtain rfl : left = session := occur
    exact ⟨fun _ => rfl, fun location => by simp [saves]⟩
  | cons event later ih =>
    obtain ⟨mid, occurs, occurLater⟩ := occur
    cases saved : event.save? with
    | none =>
      have same := occurs.spares spares saved
      have same_saves : saves (event :: later) = saves later := by simp [saves, saved]
      rw [same_saves] at stored ⊢
      rw [← same] at stored ⊢
      exact ih occurLater stored
    | some save =>
      obtain ⟨path, text⟩ := save
      have first_save : saves (event :: later) = (path, text) :: saves later := by
        simp [saves, saved]
      rw [first_save] at stored ⊢
      -- A file or a sink stands there, so the text replaces what is held or is swallowed.
      obtain ⟨spot, entry, found, stands, _⟩ := stored _ List.mem_cons_self
      have leads := (find_iff_target.mp found).1
      obtain ⟨place, leadsThere, changed⟩ := changed_of_change (occurs.writes saved)
      obtain rfl : spot = place := Option.some.inj (leads.symm.trans leadsThere)
      obtain ⟨shape, entries⟩ := changed.settled (by simp [stands])
      obtain ⟨shapeLater, entriesLater⟩ := ih occurLater fun save member =>
        SameShape.stores (fun location => (shape location).symm)
          (stored save (List.mem_cons_of_mem _ member))
      refine ⟨fun location => (shapeLater location).trans (shape location), fun location => ?_⟩
      rw [entriesLater, entries, settled_settled, lastAt_congr shape, lastAt_cons, leads]
      simp only [Option.some.injEq]

/-- A file is loaded with the last text that was written to it. -/
theorem load_saved (spares : engine.SparesFiles) {before : List Event}
    (occur : Occur engine workingDir stdinFilename before session left)
    (stored : ∀ save ∈ saves before, session.files.Stores (Path.join workingDir save.1))
    {path text : String} {location : Location}
    (leads : session.files.target? (Path.join workingDir path) = some location)
    (last : lastAt session.files workingDir location (saves before) = some text)
    (notSink : session.files.entry? location ≠ some .sink) :
    perform (load workingDir stdinFilename (.path path)) left = (.ok ⟨text, path⟩, left) := by
  obtain ⟨shape, entries⟩ := occur_settles spares occur stored
  -- A text was written there, so what stands there is a file.
  obtain ⟨content, executable, stands⟩ : ∃ content executable,
      session.files.entry? location = some (.file content executable) := by
    obtain ⟨save, final, _⟩ := Option.map_eq_some_iff.mp last
    have member := List.mem_filter.mp (List.mem_of_getLast? final)
    obtain ⟨spot, entry, found, stands, kind⟩ := stored save member.1
    have same : some spot = some location :=
      (find_iff_target.mp found).1.symm.trans (by simpa using member.2)
    obtain rfl := Option.some.inj same
    cases entry with
    | file content executable => exact ⟨content, executable, stands⟩
    | sink => exact absurd stands notSink
    | directory => simp [Entry.isFile] at kind
    | link target => simp [Entry.isFile] at kind
  have holds : left.files.entry? location = some (.file (.text text) executable) := by
    rw [entries, last, stands]
    rfl
  have leadsThere : left.files.target? (Path.join workingDir path) = some location :=
    (target?_congr shape _).trans leads
  have found := find_iff_target.mpr ⟨leadsThere, by simp [holds]⟩
  exact perform_load_path.mpr
    ⟨readText_eq_ok.mpr ⟨location, found, .inl ⟨executable, holds⟩⟩, rfl, rfl⟩

end Disk

/-- Events are those that were due, or those up to one of them that failed. -/
def Attained (due events : List Event) : Prop :=
  events = due ∨ ∃ error, Breaks due error events

section Attained

/-- What an action does, it does of what was due. -/
theorem attained_of_accords {α : Type} {complete : α → List Event → Prop}
    {answer : Except LintError α} {events : List Event} (accords : Accords complete answer events) :
    ∃ value due, complete value due ∧ Attained due events := by
  cases answer with
  | ok value => exact ⟨value, events, accords, .inl rfl⟩
  | error error =>
    obtain ⟨value, due, fits, breaks⟩ := accords
    exact ⟨value, due, fits, .inr ⟨error, breaks⟩⟩

/-- When nothing is due nothing is done. -/
theorem attained_nil {events : List Event} (attained : Attained [] events) : events = [] := by
  rcases attained with rfl | ⟨error, before, event, after, due, _⟩
  · rfl
  · simp at due

/-- The first event that is due fails, or it is followed by others. -/
theorem attained_cons {event : Event} {later events : List Event}
    (attained : Attained (event :: later) events) :
    (∃ error, events = [event.failing error]) ∨
      ∃ rest, events = event :: rest ∧ Attained later rest := by
  -- Either everything has happened that was due, or all before an event that broke off.
  rcases attained with rfl | ⟨error, before, broken, after, due, rfl⟩
  · exact .inr ⟨later, rfl, .inl rfl⟩
  · cases before with
    | nil =>
      obtain ⟨rfl, rfl⟩ := List.cons.inj due
      exact .inl ⟨error, rfl⟩
    | cons first before =>
      obtain ⟨rfl, rfl⟩ := List.cons.inj due
      exact .inr ⟨before ++ [broken.failing error], rfl, .inr ⟨error, before, broken, after,
        rfl, rfl⟩⟩

/-- Of two parts that are due the first breaks off, or it is done and the second is begun. -/
theorem attained_append {first later events : List Event}
    (attained : Attained (first ++ later) events) :
    (∃ error, Breaks first error events) ∨
      ∃ rest, events = first ++ rest ∧ Attained later rest := by
  -- The induction is on the events that come first: what breaks off among them leaves nothing of
  -- the later ones.
  induction first generalizing events with
  | nil => exact .inr ⟨events, rfl, attained⟩
  | cons event first ih =>
    rcases attained_cons attained with ⟨error, rfl⟩ | ⟨rest, rfl, begun⟩
    · exact .inl ⟨error, breaks_cons event first error⟩
    · rcases ih begun with ⟨error, breaks⟩ | ⟨rest, rfl, onward⟩
      · exact .inl ⟨error, breaks_append_left [event] breaks⟩
      · exact .inr ⟨rest, rfl, onward⟩

end Attained

/-- An event is no load and no write, and it reports no fix. -/
def Event.IsAside : Event → Prop
  | .load _ _ | .write _ _ _ | .fix _ (.ok _) => False
  | _ => True

/-- Asides are done as far as possible. -/
theorem asides_of_attained {due events : List Event} (asides : ∀ event ∈ due, event.IsAside)
    (attained : Attained due events) : ∀ event ∈ events, event.IsAside := by
  rcases attained with rfl | ⟨error, before, broken, after, rfl, rfl⟩
  · exact asides
  · intro event member
    rcases List.mem_append.mp member with earlier | last
    · exact asides event (List.mem_append_left _ earlier)
    · obtain rfl := List.mem_singleton.mp last
      have aside := asides broken (by simp)
      -- An aside that fails is an aside.
      cases broken <;> first | exact aside.elim | trivial

/-- What is done about one thing to lint, as far as it gets; fixes are asked for or not. -/
inductive Passage (fixes : Bool) : FileSpec → List Event → Prop where
  | unread (spec : FileSpec) (error : LintError) : Passage fixes spec [.load spec (.error error)]
  | unfixed (spec : FileSpec) (template : Template) (rest : List Event)
      (asides : ∀ event ∈ rest, event.IsAside) :
      Passage fixes spec (.load spec (.ok template) :: rest)
  | unsaved (spec : FileSpec) (template : Template) (outcome : FixOutcome) (rest : List Event)
      (asked : fixes = true) (stays : outcome.isFixed = false ∨ spec = .stdin)
      (asides : ∀ event ∈ rest, event.IsAside) :
      Passage fixes spec (.load spec (.ok template) :: .fix template (.ok outcome) :: rest)
  | saved (path : String) (template : Template) (outcome : FixOutcome)
      (reply : Except LintError Unit) (rest : List Event) (asked : fixes = true)
      (fixed : outcome.isFixed = true) (asides : ∀ event ∈ rest, event.IsAside) :
      Passage fixes (.path path) (.load (.path path) (.ok template) ::
        .fix template (.ok outcome) :: .write template outcome.output reply :: rest)

/-- Passages of things to lint, one after another and maybe not of all of them. -/
inductive Passages (fixes : Bool) : List FileSpec → List Event → Prop where
  | stop (specs : List FileSpec) : Passages fixes specs []
  | next {spec : FileSpec} {later : List FileSpec} {events rest : List Event}
      (passage : Passage fixes spec events) (others : Passages fixes later rest) :
      Passages fixes (spec :: later) (events ++ rest)

section Passages

variable {options : RunOptions} {decay : Decay} {overriding : Bool}

/-- What becomes of the todos is aside. -/
theorem Visit.asides (options : RunOptions) (decay : Decay) (overriding : Bool) (visit : Visit) :
    ∀ event ∈ visit.updating decay overriding ++ visit.processing options decay overriding,
      event.IsAside := by
  intro event member
  rcases List.mem_append.mp member with updating | processing
  · obtain ⟨_, _, rfl⟩ := List.mem_map.mp updating
    trivial
  · obtain ⟨_, _, rfl⟩ := List.mem_map.mp processing
    trivial

/-- A visit is a passage, wherever it ends. -/
theorem Visit.passage {visit : Visit} (obeys : visit.Obeys options) {events : List Event}
    (attained : Attained (visit.events options decay overriding) events) :
    Passage options.fix visit.spec events := by
  obtain ⟨spec, template, check, counts, processed⟩ := visit
  have asides := Visit.asides options decay overriding ⟨spec, template, check, counts, processed⟩
  -- Each event that is due is done or fails, and the first failure ends the passage.
  rcases attained_cons attained with ⟨error, rfl⟩ | ⟨rest, rfl, loaded⟩
  · exact .unread spec error
  · cases check with
    | verified found =>
      refine .unfixed spec template rest (asides_of_attained ?_ loaded)
      exact List.forall_mem_cons.mpr ⟨trivial, asides⟩
    | fixed outcome =>
      have asked : options.fix = true := obeys.fixes.symm
      rcases attained_cons loaded with ⟨error, rfl⟩ | ⟨rest, rfl, checked⟩
      · exact .unfixed spec template _ (by simp [Event.failing, Event.IsAside])
      · -- A write is due after the fix exactly when a file was fixed.
        simp only [Check.writing] at checked
        split at checked
        · rename_i writes
          obtain ⟨fixed, file⟩ := Bool.and_eq_true_iff.mp writes
          cases spec with
          | stdin => simp at file
          | path path =>
            rcases attained_cons checked with ⟨error, rfl⟩ | ⟨rest, rfl, written⟩
            · exact .saved path template outcome (.error error) [] asked fixed (by simp)
            · exact .saved path template outcome (.ok ⟨⟩) rest asked fixed
                (asides_of_attained asides written)
        · rename_i stays
          refine .unsaved spec template outcome rest asked ?_ (asides_of_attained asides checked)
          simpa [Classical.or_iff_not_imp_left] using stays

/-- Visits are passages, wherever they end. -/
theorem passages_of_visits {visits : List Visit} (obeys : ∀ visit ∈ visits, visit.Obeys options)
    {events : List Event}
    (attained : Attained (visits.flatMap (Visit.events options decay overriding)) events) :
    Passages options.fix (visits.map Visit.spec) events := by
  -- The induction is on the visits; the first one that breaks off is the last.
  induction visits generalizing events with
  | nil =>
    obtain rfl := attained_nil attained
    exact .stop _
  | cons visit later ih =>
    obtain ⟨obeysFirst, obeysLater⟩ := List.forall_mem_cons.mp obeys
    rcases attained_append attained with ⟨error, breaks⟩ | ⟨rest, rfl, begun⟩
    · rw [← List.append_nil events]
      exact .next (Visit.passage obeysFirst (.inr ⟨error, breaks⟩)) (.stop _)
    · exact .next (Visit.passage obeysFirst (.inl rfl)) (ih obeysLater begun)

/-- What follows the protocol is made of passages; to show settings asks for no fix. -/
theorem passages_of_protocol {specs : List FileSpec} {outcome : RunOutcome}
    {due events : List Event} (protocol : Protocol options decay overriding specs outcome due)
    (attained : Attained due events) :
    Passages (options.fix && !options.printConfig) specs events := by
  -- Visits to files are passages of them; what is shown is loaded before, and the files of a run
  -- that refuses are not reached.
  cases protocol with
  | linted visits lints inOrder obeys =>
    subst inOrder
    rw [lints, Bool.not_false, Bool.and_true]
    exact passages_of_visits obeys attained
  | shown spec template settings shows single =>
    subst single
    rw [← List.append_nil events]
    refine .next ?_ (.stop [])
    rcases attained_cons attained with ⟨error, rfl⟩ | ⟨rest, rfl, loaded⟩
    · exact .unread spec error
    · exact .unfixed spec template rest
        (asides_of_attained (by simp [Event.IsAside]) loaded)
  | nothing shows none =>
    obtain rfl := attained_nil attained
    exact .stop specs

end Passages

section Writes

variable {engine : Engine μ} {workingDir : String} {stdinFilename : Option String}
  {session left : Session μ} {fixes : Bool}

/-- A write that succeeds is a write. -/
theorem mem_attempts_of_mem_saves {events : List Event} {save : String × String}
    (member : save ∈ saves events) : save ∈ attempts events := by
  obtain ⟨event, occurs, saved⟩ := List.mem_filterMap.mp member
  refine List.mem_filterMap.mpr ⟨event, occurs, ?_⟩
  cases event with
  | write template output reply => cases reply <;> simp_all [Event.save?, Event.attempt?]
  | _ => simp [Event.save?] at saved

/-- Nothing was written yet. -/
@[simp] theorem attempts_nil : attempts [] = [] :=
  rfl

/-- What is written at first and then. -/
@[simp] theorem attempts_append (first later : List Event) :
    attempts (first ++ later) = attempts first ++ attempts later :=
  List.filterMap_append

/-- To load is not to write. -/
@[simp] theorem attempts_load (spec : FileSpec) (reply : Except LintError Template)
    (later : List Event) : attempts (.load spec reply :: later) = attempts later :=
  rfl

/-- To report a fix is not to write it. -/
@[simp] theorem attempts_fix (template : Template) (reply : Except LintError FixOutcome)
    (later : List Event) : attempts (.fix template reply :: later) = attempts later :=
  rfl

/-- A write names the file of the template. -/
@[simp] theorem attempts_write (template : Template) (output : String)
    (reply : Except LintError Unit) (later : List Event) :
    attempts (.write template output reply :: later) =
      (template.filePath, output) :: attempts later :=
  rfl

/-- Asides are no writes. -/
theorem attempts_asides {rest : List Event} (asides : ∀ event ∈ rest, event.IsAside) :
    attempts rest = [] := by
  refine List.filterMap_eq_nil_iff.mpr fun event member => ?_
  have aside := asides event member
  cases event <;> first | rfl | exact aside.elim

/-- Asides report no fix. -/
theorem reportedFixes_asides {rest : List Event} (asides : ∀ event ∈ rest, event.IsAside)
    (current : Option String) (others : List Event) :
    reportedFixes current (rest ++ others) = reportedFixes current others := by
  induction rest with
  | nil => rfl
  | cons event rest ih =>
    obtain ⟨aside, asides⟩ := List.forall_mem_cons.mp asides
    rw [List.cons_append, ← ih asides]
    -- A fix that fails is an aside, whatever was loaded before.
    cases event with
    | load spec reply => exact aside.elim
    | write template output reply => exact aside.elim
    | fix template reply =>
      cases reply with
      | error error => cases current <;> rfl
      | ok outcome => exact aside.elim
    | _ => cases current <;> rfl

/-- In a passage at most one text is written: to the file of the passage, which was read. -/
theorem Passage.attempts {spec : FileSpec} {events : List Event}
    (passage : Passage fixes spec events)
    (occur : Occur engine workingDir stdinFilename events session left) :
    ∀ attempt ∈ Run.attempts events, spec = .path attempt.1 ∧ fixes = true ∧
      session.files.Stores (Path.join workingDir attempt.1) := by
  -- Only a passage that saves attempts to write, and the file has been read before.
  cases passage with
  | unread spec error => simp
  | unfixed spec template rest asides => simp [attempts_asides asides]
  | unsaved spec template outcome rest asked stays asides => simp [attempts_asides asides]
  | saved path template outcome reply rest asked fixed asides =>
    obtain ⟨mid, loaded, _⟩ := occur
    obtain ⟨read, rfl, rfl⟩ := perform_load_path.mp loaded
    intro attempt member
    obtain rfl : attempt = (template.filePath, outcome.output) := by
      simpa [attempts_asides asides] using member
    exact ⟨rfl, asked, stores_of_readText read⟩

/-- What is written in a passage is the fix that is reported in it, if one is for a file. -/
theorem Passage.reportedFixes {spec : FileSpec} {events : List Event}
    (passage : Passage fixes spec events)
    (occur : Occur engine workingDir stdinFilename events session left) (current : Option String)
    (others : List Event) :
    ∃ next, Run.reportedFixes current (events ++ others) =
      Run.attempts events ++ Run.reportedFixes next others := by
  cases passage with
  | unread spec error => exact ⟨none, by cases spec <;> rfl⟩
  | unfixed spec template rest asides =>
    rw [attempts_load, attempts_asides asides]
    cases spec with
    | stdin => exact ⟨none, reportedFixes_asides asides none others⟩
    | path path => exact ⟨some path, reportedFixes_asides asides (some path) others⟩
  | unsaved spec template outcome rest asked stays asides =>
    rw [attempts_load, attempts_fix, attempts_asides asides]
    cases spec with
    | stdin => exact ⟨none, reportedFixes_asides asides none others⟩
    | path path =>
      -- A file stays as it is only if nothing was fixed.
      have unfixed : outcome.isFixed = false := by simpa using stays
      refine ⟨some path, ?_⟩
      simp only [List.cons_append, Run.reportedFixes, unfixed, Bool.false_eq_true, if_false,
        reportedFixes_asides asides, List.nil_append]
  | saved path template outcome reply rest asked fixed asides =>
    rw [attempts_load, attempts_fix, attempts_write, attempts_asides asides]
    obtain ⟨mid, loaded, _⟩ := occur
    obtain ⟨_, rfl, _⟩ := perform_load_path.mp loaded
    refine ⟨some template.filePath, ?_⟩
    simp only [List.cons_append, Run.reportedFixes, fixed, if_true,
      reportedFixes_asides asides, List.nil_append]

/-- Texts are written to files of the list that were read, and only if fixes are asked for. -/
theorem Passages.attempts (spares : engine.SparesFiles) {specs : List FileSpec}
    {events : List Event} (passages : Passages fixes specs events)
    (occur : Occur engine workingDir stdinFilename events session left) :
    ∀ attempt ∈ Run.attempts events, .path attempt.1 ∈ specs ∧ fixes = true ∧
      session.files.Stores (Path.join workingDir attempt.1) := by
  induction passages generalizing session with
  | stop specs => simp [Run.attempts]
  | @next spec later events rest passage others ih =>
    obtain ⟨mid, occurFirst, occurLater⟩ := occur_append.mp occur
    have first := passage.attempts occurFirst
    intro attempt member
    rw [attempts_append] at member
    rcases List.mem_append.mp member with here | after
    · obtain ⟨rfl, asked, stored⟩ := first attempt here
      exact ⟨List.mem_cons_self, asked, stored⟩
    · -- The disk has the shape that it had before the first passage.
      have shape := (occur_settles spares occurFirst fun save member =>
        (first save (mem_attempts_of_mem_saves member)).2.2).1
      obtain ⟨listed, asked, stored⟩ := ih occurLater attempt after
      exact ⟨List.mem_cons_of_mem _ listed, asked, shape.stores stored⟩

/-- What is written is what is reported to be fixed in files, in the same order. -/
theorem Passages.attempts_eq {specs : List FileSpec} {events : List Event}
    (passages : Passages fixes specs events)
    (occur : Occur engine workingDir stdinFilename events session left)
    (current : Option String) : Run.attempts events = Run.reportedFixes current events := by
  -- A passage begins with a load, so what was loaded before it is left open.
  induction passages generalizing session current with
  | stop specs => cases current <;> rfl
  | @next spec later events rest passage others ih =>
    obtain ⟨mid, occurFirst, occurLater⟩ := occur_append.mp occur
    obtain ⟨next, reported⟩ := passage.reportedFixes occurFirst current rest
    rw [reported, ← ih occurLater next, attempts_append]

end Writes

/--
A run writes only what its engine reports to be fixed. Whatever the engine replies and wherever the
run ends, it writes, as far as writes succeed, the outputs of the fixes that are reported for
files of the list, in their order. At the end each file holds the last text that was written to
it, and all else is as it was, where a write is refused too; a file that is named again later is
loaded with that text. The null device alone takes texts and keeps none.
-/
theorem run_saves_reported_fixes {engine : Engine μ} (spares : engine.SparesFiles)
    {workingDir : String} {options : RunOptions} {decay : Decay} {overriding : Bool}
    {files : FileSet} {session left : Session μ} {answer : Except LintError RunOutcome}
    (done : perform (run engine workingDir options decay overriding files) session =
      (answer, left)) :
    ∃ events,
      Occur engine workingDir options.stdinFilename events session left ∧
      (if options.printConfig = true ∧ 1 < files.size then events = []
        else Accords (Protocol options decay overriding files.specs) answer events) ∧
      attempts events = reportedFixes none events ∧
      (∀ attempt ∈ attempts events, .path attempt.1 ∈ files.specs ∧ options.fix = true ∧
        options.printConfig = false) ∧
      (∀ save ∈ saves events, session.files.Stores (Path.join workingDir save.1)) ∧
      (∀ location, left.files.entry? location =
        settled (session.files.entry? location)
          (lastAt session.files workingDir location (saves events))) ∧
      ∀ before path reply after location text,
        events = before ++ .load (.path path) reply :: after →
        session.files.target? (Path.join workingDir path) = some location →
        lastAt session.files workingDir location (saves before) = some text →
        session.files.entry? location ≠ some .sink → reply = .ok ⟨text, path⟩ := by
  -- In either case what is done is made of passages.
  obtain ⟨events, occur, due, passages⟩ : ∃ events,
      Occur engine workingDir options.stdinFilename events session left ∧
      (if options.printConfig = true ∧ 1 < files.size then events = []
        else Accords (Protocol options decay overriding files.specs) answer events) ∧
      Passages (options.fix && !options.printConfig) files.specs events := by
    split
    · rename_i several
      rw [perform_run_several engine workingDir options decay overriding several.1 several.2]
        at done
      exact ⟨[], (Prod.mk.inj done).2.symm, rfl, .stop _⟩
    · rename_i few
      obtain ⟨events, occur, accords⟩ :=
        performs_run engine workingDir options decay overriding few session
      rw [done] at occur accords
      obtain ⟨_, due, protocol, attained⟩ := attained_of_accords accords
      exact ⟨events, occur, accords, passages_of_protocol protocol attained⟩
  have written := passages.attempts spares occur
  have stored : ∀ save ∈ saves events, session.files.Stores (Path.join workingDir save.1) :=
    fun save member => (written save (mem_attempts_of_mem_saves member)).2.2
  refine ⟨events, occur, due, passages.attempts_eq occur none, ?_, stored,
    (occur_settles spares occur stored).2, ?_⟩
  · intro attempt member
    obtain ⟨listed, asked, _⟩ := written attempt member
    simpa [listed] using asked
  · -- The events before a load have brought the disk to what it is then.
    rintro before path reply after location text rfl leads last notSink
    obtain ⟨mid, earlier, next, loads, _⟩ := occur_append.mp occur
    have storedBefore : ∀ save ∈ saves before,
        session.files.Stores (Path.join workingDir save.1) := by
      intro save member
      refine stored save ?_
      rw [saves, List.filterMap_append]
      exact List.mem_append_left _ member
    have loaded := load_saved spares earlier storedBefore leads last notSink
    exact (Prod.mk.inj (loads.symm.trans loaded)).1

/-- An engine that marks every template at its end, and remembers which templates it was given. -/
def marker : Engine (List Template) where
  verify _ := pure []
  fix template := do
    modify fun session => { session with memory := session.memory ++ [template] }
    pure ⟨true, template.source ++ "!", []⟩
  settings _ := pure .null
  updateTodos _ _ _ _ := pure ⟨0, 0⟩
  processTodos _ found _ _ _ := pure found

/-- To mark templates touches no file. -/
theorem sparesFiles_marker : marker.SparesFiles :=
  ⟨fun _ _ => rfl, fun _ _ => rfl, fun _ _ => rfl, fun _ _ _ _ _ => rfl, fun _ _ _ _ _ _ => rfl⟩

/-- A disk with one template. -/
def templateDisk : FileSystem :=
  ⟨[(["p"], .directory), (["p", "a.hbs"], .file (.text "x") true)]⟩

/-- A disk with the null device. -/
def nullDisk : FileSystem :=
  ⟨[(["dev"], .directory), (["dev", "null"], .sink)]⟩

/-- What the marker leaves of a disk when it is to fix a file that is named in two spellings. -/
def marked (disk : FileSystem) (specs : List FileSpec)
    (distinct : (specs.map FileSpec.identifier).Nodup) :
    Except LintError RunOutcome × Session (List Template) :=
  perform (run marker "/p" ⟨true, false, false, false, none⟩ .never false ⟨specs, distinct⟩)
    ⟨disk, .empty, [], []⟩

/-- A template that is named in two spellings is marked twice. -/
theorem run_saves_reported_fixes_sample :
    marker.SparesFiles ∧
    (marked templateDisk [.path "a.hbs", .path "./a.hbs"] (by decide)).2.memory =
      [⟨"x", "a.hbs"⟩, ⟨"x!", "./a.hbs"⟩] ∧
    ∃ events, attempts events = reportedFixes none events ∧
      lastAt templateDisk "/p" ["p", "a.hbs"] (saves events) = some "x!!" := by
  have given : (marked templateDisk [.path "a.hbs", .path "./a.hbs"] (by decide)).2.memory =
      [⟨"x", "a.hbs"⟩, ⟨"x!", "./a.hbs"⟩] := by
    decide +kernel
  have holds : (marked templateDisk [.path "a.hbs", .path "./a.hbs"] (by decide)).2.files.entry?
      ["p", "a.hbs"] = some (.file (.text "x!!") true) := by
    decide +kernel
  have held : templateDisk.entry? ["p", "a.hbs"] = some (.file (.text "x") true) := by
    decide +kernel
  -- What the run leaves is not computed again.
  generalize done : marked templateDisk [.path "a.hbs", .path "./a.hbs"] (by decide) = result
    at given holds ⊢
  obtain ⟨events, _, _, reported, _, _, entries, _⟩ :=
    run_saves_reported_fixes sparesFiles_marker done
  refine ⟨sparesFiles_marker, given, events, reported, ?_⟩
  have law := entries ["p", "a.hbs"]
  rw [holds, held] at law
  -- The file held another text, so it is the last one written that it holds.
  generalize lastAt templateDisk "/p" ["p", "a.hbs"] (saves events) = last at law ⊢
  cases last with
  | none => simp at law
  | some text => simpa [settled, eq_comm] using law

/--
The null device keeps no fix: it is named in two spellings and a fix of it is written, but then it
reads as nothing still, and as nothing it is loaded again.
-/
theorem null_device_keeps_no_fix :
    marker.SparesFiles ∧
    (∀ template session,
      (perform (marker.fix template) session).1 = .ok ⟨true, template.source ++ "!", []⟩) ∧
    nullDisk.target? (Path.join "/p" "/dev/null") =
      nullDisk.target? (Path.join "/p" "/dev/./null") ∧
    (marked nullDisk [.path "/dev/null", .path "/dev/./null"] (by decide)).1.toOption =
      some (.completed ⟨[], 0, 0⟩) ∧
    (marked nullDisk [.path "/dev/null", .path "/dev/./null"] (by decide)).2.memory =
      [⟨"", "/dev/null"⟩, ⟨"", "/dev/./null"⟩] ∧
    ((marked nullDisk [.path "/dev/null", .path "/dev/./null"]
      (by decide)).2.files.readText "/dev/null").toOption = some "" :=
  ⟨sparesFiles_marker, fun _ _ => rfl, by decide +kernel, by decide +kernel, by decide +kernel,
    by decide +kernel⟩

end Run

end TemplateLint
