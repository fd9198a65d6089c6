import TemplateLint.Proofs.Run.Verdict

/-! What a run makes of files that are none the same: for each of them what it makes of it alone. -/

namespace TemplateLint

namespace Run

open Effect FileSystem TodoStore

/-- The path of a thing to lint as seen from the root. -/
def pathFrom (workingDir : String) (spec : FileSpec) : String :=
  Path.join workingDir spec.identifier

/-- The things to lint are regular files, no two of them the same one and none of them the log. -/
structure Apart (store : TodoStore) (workingDir : String) (files : FileSystem)
    (specs : List FileSpec) : Prop where
  regular : ∀ spec ∈ specs, spec ≠ .stdin ∧ files.isFile (pathFrom workingDir spec) = true
  different : specs.Pairwise fun first second =>
    files.find (pathFrom workingDir first) ≠ files.find (pathFrom workingDir second)
  unlogged : ∀ spec ∈ specs, files.find (pathFrom workingDir spec) ≠ files.find store.logPath

namespace Apart

variable {store : TodoStore} {workingDir : String} {files : FileSystem} {specs : List FileSpec}

/-- A file to lint stands at a place that is not the log's. -/
theorem stands (apart : Apart store workingDir files specs) {spec : FileSpec}
    (member : spec ∈ specs) :
    ∃ spot content executable, files.find (pathFrom workingDir spec) = .ok spot ∧
      files.entry? spot = some (.file content executable) ∧ ¬store.IsLogPlace files spot := by
  have file := (apart.regular spec member).2
  rw [FileSystem.isFile] at file
  split at file
  · rename_i content executable leads
    obtain ⟨spot, place, entry⟩ := follow?_eq_some.mp leads
    have found := find_eq_ok.mpr place
    refine ⟨spot, content, executable, found, entry, ?_⟩
    intro isLog
    -- The log would be found where the file is.
    exact apart.unlogged spec member
      (found.trans (find_iff_target.mpr ⟨isLog, by simp [entry]⟩).symm)
  · simp at file

/-- Files to lint in another order are as far apart. -/
theorem perm (apart : Apart store workingDir files specs) {others : List FileSpec}
    (same : specs.Perm others) : Apart store workingDir files others where
  regular spec member := apart.regular spec (same.mem_iff.mpr member)
  different := (same.pairwise_iff fun differ => Ne.symm differ).mp apart.different
  unlogged spec member := apart.unlogged spec (same.mem_iff.mpr member)

/-- Files that are far apart stay so when some are written to. -/
theorem overwritten (apart : Apart store workingDir files specs) {spots : Location → Prop}
    {others : FileSystem} (written : Overwritten spots files others) :
    Apart store workingDir others specs := by
  -- Writing moves no file, so each is found where it was.
  have found : ∀ spec ∈ specs,
      others.find (pathFrom workingDir spec) = files.find (pathFrom workingDir spec) := by
    intro spec member
    obtain ⟨spot, _, _, here, _⟩ := apart.stands member
    rw [here, written.find here]
  refine ⟨fun spec member => ⟨(apart.regular spec member).1, ?_⟩, ?_, ?_⟩
  · obtain ⟨spot, content, executable, here, entry, _⟩ := apart.stands member
    obtain ⟨other, stands, shaped⟩ := written.stands entry
    have follows : others.follow? (pathFrom workingDir spec) = some other :=
      follow?_eq_some.mpr ⟨spot, find_eq_ok.mp (written.find here), stands⟩
    cases other <;> simp [Entry.shape] at shaped
    exact isFile_of_follow? follows
  · refine apart.different.imp_of_mem ?_
    intro first second firstMember secondMember differ
    rw [found first firstMember, found second secondMember]
    exact differ
  · intro spec member same
    obtain ⟨spot, _, _, here, entry, notLog⟩ := apart.stands member
    rw [found spec member, here, eq_comm] at same
    have leads := (find_iff_target.mp same).1
    rw [written.targets] at leads
    exact notLog leads

/-- Files at different places keep their todos under different keys. -/
theorem keys (apart : Apart store workingDir files specs) :
    specs.Pairwise fun first second =>
      storageKey first.identifier ≠ storageKey second.identifier := by
  -- Paths with one key lead to one place.
  refine apart.different.imp_of_mem ?_
  intro first second firstMember secondMember differ same
  obtain ⟨spot, _, _, here, _⟩ := apart.stands firstMember
  obtain ⟨other, _, _, there, _⟩ := apart.stands secondMember
  have agree := find_agrees (moves_join_of_storageKey same workingDir) here there
  exact differ (by rw [here, there, agree])

end Apart

section Files

variable {set : RuleSet} {store : TodoStore} {today : Date} {workingDir : String}
  {options : RunOptions} {decay : Decay} {overriding : Bool}

/-- What is made of a file as it stands on a disk. -/
def verdictOf (set : RuleSet) (store : TodoStore) (today : Date) (workingDir : String)
    (options : RunOptions) (decay : Decay) (overriding : Bool) (files : FileSystem)
    (live : List Todo) (spec : FileSpec) : Verdict :=
  verdict set store today options decay overriding spec.identifier
    ((files.readText (pathFrom workingDir spec)).toOption.getD "") live

/-- What is made of a file is the same once files elsewhere are written and their todos settled. -/
theorem verdictOf_congr {files others : FileSystem} {live after : List Todo} {spec : FileSpec}
    (text : others.readText (pathFrom workingDir spec) = files.readText (pathFrom workingDir spec))
    (todos : todosIn after spec.identifier = todosIn live spec.identifier) :
    verdictOf set store today workingDir options decay overriding others after spec =
      verdictOf set store today workingDir options decay overriding files live spec := by
  rw [verdictOf, verdictOf, text]
  exact verdict_congr todos _

/-- The results for files: the findings of each in turn, and the sums of the counts. -/
def resultsOf (own : FileSpec → Verdict) (specs : List FileSpec) : RunResults :=
  ⟨specs.flatMap fun spec => (own spec).findings,
    (specs.map fun spec => (own spec).counts.added).sum,
    (specs.map fun spec => (own spec).counts.removed).sum⟩

/-- The entries for files, those of each in turn. -/
def changesOf (own : FileSpec → Verdict) (specs : List FileSpec) : List Todo.Change :=
  specs.flatMap fun spec => (own spec).changes

/-- A text can be read of every file, and the entries for them can be written. -/
def CanLint (store : TodoStore) (workingDir : String) (files : FileSystem)
    (own : FileSpec → Verdict) (specs : List FileSpec) : Prop :=
  (∀ spec ∈ specs, ∃ text, files.readText (pathFrom workingDir spec) = .ok text) ∧
    store.Ready files (changesOf own specs)

/-- What is left when files are done with, given what is made of each. -/
structure AllDone (store : TodoStore) (workingDir : String) (changes : List Todo.Change)
    (own : FileSpec → Verdict) (specs : List FileSpec)
    (session left : Session (Option (List Todo))) : Prop where
  coherent : store.Coherent left.todos (changes ++ changesOf own specs)
  disk : Overwritten (fun location =>
      (∃ spec ∈ specs, session.files.find (pathFrom workingDir spec) = .ok location) ∨
        store.IsLogPlace session.files location) session.files left.files
  written : ∀ spec ∈ specs, ∀ location content executable,
    session.files.find (pathFrom workingDir spec) = .ok location →
      session.files.entry? location = some (.file content executable) →
        left.files.entry? location = some (.file (.text (own spec).output) executable)
  idle : (∀ spec ∈ specs,
      session.files.readText (pathFrom workingDir spec) = .ok (own spec).output) →
    changesOf own specs = [] → left.files = session.files

/-- Of files that are far apart the others are so without the first. -/
theorem Apart.tail {files : FileSystem} {spec : FileSpec} {later : List FileSpec}
    (apart : Apart store workingDir files (spec :: later)) :
    Apart store workingDir files later where
  regular other member := apart.regular other (List.mem_cons_of_mem _ member)
  different := (List.pairwise_cons.mp apart.different).2
  unlogged other member := apart.unlogged other (List.mem_cons_of_mem _ member)

/-- What was written for one file is not what another file leads to. -/
theorem Apart.away {files : FileSystem} {spec other : FileSpec} {later : List FileSpec}
    (apart : Apart store workingDir files (spec :: later)) (member : other ∈ later)
    {spot place : Location} (here : files.find (pathFrom workingDir spec) = .ok spot)
    (there : files.find (pathFrom workingDir other) = .ok place) :
    ¬(place = spot ∨ store.IsLogPlace files place) := by
  -- Two templates of a run are different files, and none of them is the log.
  rintro (rfl | isLog)
  · exact (List.pairwise_cons.mp apart.different).1 other member (here.trans there.symm)
  · obtain ⟨_, _, _, found, _, notLog⟩ := apart.stands (List.mem_cons_of_mem _ member)
    rw [there] at found
    obtain rfl := Except.ok.inj found
    exact notLog isLog

section First

variable {spec : FileSpec} {source : String} {later : List FileSpec} {own : FileSpec → Verdict}
  {session mid left : Session (Option (List Todo))} {changes : List Todo.Change}
  {spot : Location} {executable : Bool}

/-- Once the first file is done with the others are found where they were, and not near it. -/
theorem Done.find_later (done : Done store changes spot source executable (own spec) session mid)
    (apart : Apart store workingDir session.files (spec :: later))
    (found : session.files.find (pathFrom workingDir spec) = .ok spot) :
    ∀ other ∈ later, ∃ place,
      session.files.find (pathFrom workingDir other) = .ok place ∧
        mid.files.find (pathFrom workingDir other) = .ok place ∧
        ¬(place = spot ∨ store.IsLogPlace session.files place) := by
  intro other member
  obtain ⟨place, _, _, before, _, _⟩ := apart.stands (List.mem_cons_of_mem _ member)
  exact ⟨place, before, done.disk.find before, apart.away member found before⟩

/-- The texts of the other files are the same once the first one is done with. -/
theorem Done.readText_later
    (done : Done store changes spot source executable (own spec) session mid)
    (apart : Apart store workingDir session.files (spec :: later))
    (found : session.files.find (pathFrom workingDir spec) = .ok spot) :
    ∀ other ∈ later, mid.files.readText (pathFrom workingDir other) =
      session.files.readText (pathFrom workingDir other) := by
  intro other member
  obtain ⟨place, before, _, away⟩ := done.find_later apart found other member
  exact done.disk.readText before away

/-- What is made of the other files is the same once the first one is done with. -/
theorem Done.verdictOf_later
    (done : Done store changes spot source executable (own spec) session mid)
    (apart : Apart store workingDir session.files (spec :: later))
    (found : session.files.find (pathFrom workingDir spec) = .ok spot)
    (about : ∀ change ∈ (own spec).changes, change.IsOf spec.identifier)
    (made : ∀ other ∈ later, own other = verdictOf set store today workingDir options decay
      overriding session.files (Todo.live changes) other) :
    ∀ other ∈ later, own other = verdictOf set store today workingDir options decay overriding
      mid.files (Todo.live (changes ++ (own spec).changes)) other := by
  intro other member
  rw [made other member]
  refine (verdictOf_congr (done.readText_later apart found other member) ?_).symm
  rw [Todo.live_append]
  -- The entries of the first file are about that file, which has another key.
  refine todosIn_applyAll_other ?_
  intro change inside same
  exact (List.pairwise_cons.mp apart.keys).1 other member ((about change inside).symm.trans same)

/-- Files can be linted when the first one can and, once it is done with, the others. -/
theorem Done.canLint_iff (done : Done store changes spot source executable (own spec) session mid)
    (apart : Apart store workingDir session.files (spec :: later))
    (found : session.files.find (pathFrom workingDir spec) = .ok spot)
    (text : session.files.readText (pathFrom workingDir spec) = .ok source)
    (ready : store.Ready session.files (own spec).changes) :
    CanLint store workingDir session.files own (spec :: later) ↔
      CanLint store workingDir mid.files own later := by
  -- The first file can be read, and the log takes still what it took.
  have same := done.readText_later apart found
  simp only [CanLint, changesOf, List.flatMap_cons, ready_append, ready, true_and,
    ready_of_overwritten done.disk, List.forall_mem_cons, text]
  refine and_congr ?_ Iff.rfl
  constructor
  · rintro ⟨_, readable⟩ other member
    rw [same other member]
    exact readable other member
  · intro readable
    refine ⟨⟨source, rfl⟩, ?_⟩
    intro other member
    rw [← same other member]
    exact readable other member

/-- All that is written for the first file and then for the others is theirs or the log. -/
theorem Done.disk_cons (done : Done store changes spot source executable (own spec) session mid)
    (apart : Apart store workingDir session.files (spec :: later))
    (found : session.files.find (pathFrom workingDir spec) = .ok spot)
    (others : AllDone store workingDir (changes ++ (own spec).changes) own later mid left) :
    Overwritten (fun location =>
      (∃ other ∈ spec :: later, session.files.find (pathFrom workingDir other) = .ok location) ∨
        store.IsLogPlace session.files location) session.files left.files := by
  -- Both the first file and the later ones write only to their own files and to the log, and the
  -- log is the same afterwards.
  refine (done.disk.mono ?_).trans (others.disk.mono ?_)
  · rintro location (rfl | isLog)
    · exact .inl ⟨spec, List.mem_cons_self, found⟩
    · exact .inr isLog
  · rintro location (⟨other, member, after⟩ | isLog)
    · obtain ⟨place, before, now, _⟩ := done.find_later apart found other member
      obtain rfl : location = place := Except.ok.inj (after.symm.trans now)
      exact .inl ⟨other, List.mem_cons_of_mem _ member, before⟩
    · rw [isLogPlace_of_overwritten done.disk] at isLog
      exact .inr isLog

/-- The first file holds its output still when the others are done with. -/
theorem Done.written_first
    (done : Done store changes spot source executable (own spec) session mid)
    (apart : Apart store workingDir session.files (spec :: later))
    (found : session.files.find (pathFrom workingDir spec) = .ok spot)
    (others : AllDone store workingDir (changes ++ (own spec).changes) own later mid left) :
    left.files.entry? spot = some (.file (.text (own spec).output) executable) := by
  -- For the others only their own files and the log are written.
  rw [← done.written]
  refine others.disk.elsewhere spot ?_
  rintro (⟨other, member, after⟩ | isLog)
  · obtain ⟨place, _, now, away⟩ := done.find_later apart found other member
    exact away (.inl (Except.ok.inj (now.symm.trans after)))
  · rw [isLogPlace_of_overwritten done.disk] at isLog
    obtain ⟨_, _, _, here, _, notLog⟩ := apart.stands List.mem_cons_self
    obtain rfl := Except.ok.inj (found.symm.trans here)
    exact notLog isLog

/-- All is done with when the first file is and then the others are. -/
theorem Done.cons (done : Done store changes spot source executable (own spec) session mid)
    (apart : Apart store workingDir session.files (spec :: later))
    (found : session.files.find (pathFrom workingDir spec) = .ok spot)
    (stood : session.files.entry? spot = some (.file (.text source) executable))
    (others : AllDone store workingDir (changes ++ (own spec).changes) own later mid left) :
    AllDone store workingDir changes own (spec :: later) session left := by
  refine ⟨?_, done.disk_cons apart found others, ?_, ?_⟩
  · simpa [changesOf] using others.coherent
  · intro other member location content mode leads stands
    rcases List.mem_cons.mp member with rfl | member
    · obtain rfl := Except.ok.inj (found.symm.trans leads)
      rw [stood] at stands
      obtain ⟨_, rfl⟩ := Entry.file.inj (Option.some.inj stands)
      exact done.written_first apart found others
    · obtain ⟨place, before, now, away⟩ := done.find_later apart found other member
      obtain rfl : location = place := Except.ok.inj (leads.symm.trans before)
      exact others.written other member location content mode now
        ((done.disk.elsewhere location away).trans stands)
  · intro texts none
    have text : session.files.readText (pathFrom workingDir spec) = .ok source :=
      readText_eq_ok.mpr ⟨spot, found, .inl ⟨executable, stood⟩⟩
    obtain ⟨first, rest⟩ := List.forall_mem_cons.mp texts
    simp only [changesOf, List.flatMap_cons, List.append_eq_nil_iff] at none
    rw [text] at first
    -- If no file and no entry is to be written, neither step touches the disk.
    have unchanged := done.idle (Except.ok.inj first).symm none.1
    exact (others.idle (unchanged ▸ rest) none.2).trans unchanged

/-- The first of files far apart is linted and done with, or else they cannot all be linted. -/
theorem lintFile_of_apart (coherent : store.Coherent session.todos changes)
    (apart : Apart store workingDir session.files (spec :: later))
    (made : own spec = verdictOf set store today workingDir options decay overriding session.files
      (Todo.live changes) spec) :
    (∃ mid spot source executable,
      perform (lintFile (set.engine store today) workingDir options decay overriding spec)
          session =
        (.ok ⟨(own spec).findings, (own spec).counts.added, (own spec).counts.removed⟩, mid) ∧
      session.files.find (pathFrom workingDir spec) = .ok spot ∧
      session.files.entry? spot = some (.file (.text source) executable) ∧
      store.Ready session.files (own spec).changes ∧
      Done store changes spot source executable (own spec) session mid) ∨
    ((∃ error left,
      perform (lintFile (set.engine store today) workingDir options decay overriding spec)
        session = (.error error, left)) ∧
      ¬CanLint store workingDir session.files own (spec :: later)) := by
  obtain ⟨spot, content, executable, found, stood, notLog⟩ := apart.stands List.mem_cons_self
  cases spec with
  | stdin => exact absurd rfl (apart.regular .stdin List.mem_cons_self).1
  | path path =>
    cases content with
    | bytes value =>
      -- What is no text is not loaded, whether or not the log takes entries.
      have unreadable : ∀ text,
          session.files.readText (Path.join workingDir path) ≠ .ok text := by
        have here : session.files.find (Path.join workingDir path) = .ok spot := found
        intro text read
        simp [FileSystem.readText, FileSystem.read, here, stood, Content.text?] at read
      refine .inr ⟨lintFile_of_unreadable unreadable, fun can => ?_⟩
      obtain ⟨text, read⟩ := can.1 _ List.mem_cons_self
      exact unreadable text read
    | text source =>
      have text : session.files.readText (pathFrom workingDir (.path path)) = .ok source :=
        readText_eq_ok.mpr ⟨spot, found, .inl ⟨executable, stood⟩⟩
      have first : own (.path path) = verdict set store today options decay overriding path
          source (Todo.live changes) := by
        rw [made, verdictOf, text]
        rfl
      have leads : session.files.target? (Path.join workingDir path) = some spot :=
        (find_iff_target.mp found).1
      obtain ⟨succeeds, fails⟩ := lintFile_of_file coherent leads stood notLog first
      by_cases ready : store.Ready session.files (own (.path path)).changes
      · obtain ⟨mid, linted, done⟩ := succeeds ready
        exact .inl ⟨mid, spot, source, executable, linted, found, stood, ready, done⟩
      · exact .inr ⟨fails ready, fun can => ready (ready_append.mp can.2).1⟩

end First

/-- Files far apart are linted each by itself if they can be read and logged, else they are not. -/
theorem lintFiles_of_apart {specs : List FileSpec} {own : FileSpec → Verdict}
    {session : Session (Option (List Todo))} {changes : List Todo.Change}
    (coherent : store.Coherent session.todos changes)
    (apart : Apart store workingDir session.files specs)
    (made : ∀ spec ∈ specs, own spec = verdictOf set store today workingDir options decay
      overriding session.files (Todo.live changes) spec) :
    (CanLint store workingDir session.files own specs → ∃ left,
      perform (lintFiles (set.engine store today) workingDir options decay overriding specs)
          session = (.ok (resultsOf own specs), left) ∧
        AllDone store workingDir changes own specs session left) ∧
    (¬CanLint store workingDir session.files own specs → ∃ error left,
      perform (lintFiles (set.engine store today) workingDir options decay overriding specs)
        session = (.error error, left)) := by
  -- The induction is on the files; what is made of those to come does not change on the way.
  induction specs generalizing session changes with
  | nil =>
    refine ⟨fun _ => ⟨session, rfl, by simpa [changesOf] using coherent, .refl _ _, by simp,
      fun _ _ => rfl⟩, ?_⟩
    exact fun refused => absurd ⟨by simp, fun some => absurd rfl some⟩ refused
  | cons spec later ih =>
    obtain ⟨first, others⟩ := List.forall_mem_cons.mp made
    rcases lintFile_of_apart coherent apart first with
      ⟨mid, spot, source, executable, linted, found, stood, ready, done⟩ |
      ⟨⟨error, left, failed⟩, cannot⟩
    · have text : session.files.readText (pathFrom workingDir spec) = .ok source :=
        readText_eq_ok.mpr ⟨spot, found, .inl ⟨executable, stood⟩⟩
      have about : ∀ change ∈ (own spec).changes, change.IsOf spec.identifier := by
        rw [first]
        exact fun _ => isOf_of_mem_verdict
      obtain ⟨onward, stuck⟩ := ih done.coherent (apart.tail.overwritten done.disk)
        (done.verdictOf_later apart found about others)
      rw [done.canLint_iff apart found text ready]
      constructor
      · intro can
        obtain ⟨left, rest, all⟩ := onward can
        refine ⟨left, ?_, done.cons apart found stood all⟩
        rw [lintFiles, perform_bind_of_ok _ linted, perform_bind_of_ok _ rest]
        rfl
      · intro cannot
        obtain ⟨error, left, failed⟩ := stuck cannot
        refine ⟨error, left, ?_⟩
        rw [lintFiles, perform_bind_of_ok _ linted, perform_bind, failed]
    · refine ⟨fun can => absurd can cannot, fun _ => ⟨error, left, ?_⟩⟩
      rw [lintFiles, perform_bind, failed]

/-- Of the entries for files those about a path are those for the files of its key. -/
theorem filter_changesOf {own : FileSpec → Verdict} {specs : List FileSpec}
    (about : ∀ spec ∈ specs, ∀ change ∈ (own spec).changes, change.IsOf spec.identifier)
    (path : String) :
    (changesOf own specs).filter (fun change => change.IsOf path) =
      changesOf own (specs.filter fun spec => storageKey spec.identifier = storageKey path) := by
  induction specs with
  | nil => rfl
  | cons spec later ih =>
    obtain ⟨first, others⟩ := List.forall_mem_cons.mp about
    have rest := ih others
    simp only [changesOf, List.flatMap_cons, List.filter_append] at rest ⊢
    rw [rest]
    -- Either all entries of a file are about the path, or none is.
    by_cases same : storageKey spec.identifier = storageKey path
    · rw [List.filter_cons_of_pos (by simpa using same), List.flatMap_cons,
        List.filter_eq_self.mpr]
      intro change member
      exact decide_eq_true ((first change member).trans same)
    · rw [List.filter_cons_of_neg (by simpa using same), List.filter_eq_nil_iff.mpr,
        List.nil_append]
      intro change member
      rw [decide_eq_true_iff]
      exact fun own => same ((first change member).symm.trans own)

/-- Of files with different keys only one has the key that it has. -/
theorem filter_key_of_mem {specs : List FileSpec}
    (keys : specs.Pairwise fun first second =>
      storageKey first.identifier ≠ storageKey second.identifier) {spec : FileSpec}
    (member : spec ∈ specs) {path : String} (key : storageKey spec.identifier = storageKey path) :
    (specs.filter fun other => storageKey other.identifier = storageKey path) = [spec] := by
  -- The induction is on the files: the one that has the key keeps it from all others.
  induction specs with
  | nil => simp at member
  | cons first later ih =>
    obtain ⟨apart, others⟩ := List.pairwise_cons.mp keys
    rcases List.mem_cons.mp member with rfl | inside
    · rw [List.filter_cons_of_pos (by simpa using key), List.filter_eq_nil_iff.mpr]
      intro other further
      simpa [← key] using Ne.symm (apart other further)
    · rw [List.filter_cons_of_neg (by simpa [← key] using apart spec inside)]
      exact ih others inside

/-- The todos of a file that is done with are those that its own entries lead to. -/
theorem todosIn_changesOf {own : FileSpec → Verdict} {specs : List FileSpec}
    (about : ∀ spec ∈ specs, ∀ change ∈ (own spec).changes, change.IsOf spec.identifier)
    (keys : specs.Pairwise fun first second =>
      storageKey first.identifier ≠ storageKey second.identifier) {spec : FileSpec}
    (member : spec ∈ specs) (changes : List Todo.Change) :
    todosIn (Todo.live (changes ++ changesOf own specs)) spec.identifier =
      todosIn (Todo.applyAll (Todo.live changes) (own spec).changes) spec.identifier := by
  rw [Todo.live_append, todosIn_applyAll, filter_changesOf about, filter_key_of_mem keys member rfl,
    todosIn_applyAll_own (about spec member), changesOf, List.flatMap_singleton]

/-- What is made of each file in a list, as the list and its texts stand on a disk. -/
theorem about_verdictOf (files : FileSystem) (live : List Todo) (spec : FileSpec) :
    (∀ change ∈ (verdictOf set store today workingDir options decay overriding files live
      spec).changes, change.IsOf spec.identifier) ∧
    ∀ finding ∈ (verdictOf set store today workingDir options decay overriding files live
      spec).findings, finding.filePath = spec.identifier :=
  ⟨fun _ => isOf_of_mem_verdict, fun _ => filePath_of_mem_verdict⟩

/-- A run that shows no settings answers what linting its files answers. -/
theorem perform_run_of_lints (lints : options.printConfig = false)
    (engine : Engine (Option (List Todo))) (files : FileSet)
    (session : Session (Option (List Todo))) :
    perform (run engine workingDir options decay overriding files) session =
      mapAnswer RunOutcome.completed
        (perform (lintFiles engine workingDir options decay overriding files.specs) session) := by
  simp only [run, lints, Bool.false_eq_true, if_false]
  exact perform_bind_pure _ _ _

/-- A run over files that are far apart completes exactly when they can be linted. -/
theorem run_of_apart {files : FileSet} {session : Session (Option (List Todo))}
    {changes : List Todo.Change} (coherent : store.Coherent session.todos changes)
    (apart : Apart store workingDir session.files files.specs)
    (lints : options.printConfig = false) {own : FileSpec → Verdict}
    (made : own = verdictOf set store today workingDir options decay overriding session.files
      (Todo.live changes)) :
    (CanLint store workingDir session.files own files.specs → ∃ left,
      perform (run (set.engine store today) workingDir options decay overriding files) session =
          (.ok (.completed (resultsOf own files.specs)), left) ∧
        AllDone store workingDir changes own files.specs session left) ∧
    (¬CanLint store workingDir session.files own files.specs → ∃ error left,
      perform (run (set.engine store today) workingDir options decay overriding files) session =
        (.error error, left)) := by
  obtain ⟨linted, failed⟩ := lintFiles_of_apart coherent apart fun spec _ => congrFun made spec
  rw [perform_run_of_lints lints]
  -- What the run answers is what linting its files one by one comes to.
  constructor
  · intro can
    obtain ⟨left, done, all⟩ := linted can
    exact ⟨left, by rw [done, mapAnswer_ok], all⟩
  · intro cannot
    obtain ⟨error, left, done⟩ := failed cannot
    exact ⟨error, left, by rw [done, mapAnswer_error]⟩

end Files

/-- A project with two templates, one of them with a todo in the log. -/
def sampleDisk : FileSystem :=
  ⟨[(["p"], .directory),
    (["p", "a.hbs"], .file (.text "\t\n") false),
    (["p", "b.hbs"], .file (.text "x\t") true),
    (["p", ".lint-todo"],
      .file (.text (.ofList (Todo.renderLog [.add (sampleTodo 1)]))) false)]⟩

/-- A rule against tabs, which replaces them, and one that replaces nothing. -/
def sampleRules : RuleSet :=
  ⟨(Rule.ofEntries [("no-tabs", ⟨some "\t", none, none, some " "⟩),
    ("no-x", ⟨some "x", none, none, none⟩)]).toOption.getD [], false⟩

/-- The two templates of the project in one order. -/
def sampleFiles : FileSet :=
  ⟨[.path "a.hbs", .path "b.hbs"], by decide⟩

/-- The log of the project holds one todo of the first template. -/
theorem coherent_sampleDisk :
    sample.Coherent (Session.fresh sampleDisk .empty).todos [.add (sampleTodo 1)] := by
  have stands : sampleDisk.follow? sample.logPath =
      some (.file (.text (.ofList (Todo.renderLog [.add (sampleTodo 1)]))) false) := by
    decide +kernel
  refine ⟨.closed stands ?_ ?_, by simp [Session.fresh, Session.todos]⟩
  · rw [String.toList_ofList]
    exact Todo.renderLog_closed _
  · rw [String.toList_ofList]
    exact Todo.readLog_renderLog _

/-- The two templates are different files. -/
theorem apart_sampleDisk : Apart sample "/p" sampleDisk sampleFiles.specs :=
  ⟨by decide +kernel, by decide +kernel, by decide +kernel⟩

end Run

end TemplateLint
