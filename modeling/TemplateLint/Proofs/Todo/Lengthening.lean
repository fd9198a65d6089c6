import TemplateLint.Proofs.Files.Growth
import TemplateLint.Proofs.Todo.Append

/-!
The log of todos only grows at its end, whatever it holds: each step of the store adds entries of
the kinds that are asked for, or adds none and leaves the log as it is.
-/

namespace TemplateLint

namespace Content

/-- Bytes are listed one after another, those that were listed before first. -/
theorem toList_loop (bytes : ByteArray) (start : Nat) (listed : List UInt8) :
    ByteArray.toList.loop bytes start listed = listed.reverse ++ bytes.data.toList.drop start := by
  -- The induction is on the loop, which lists the bytes in reverse.
  fun_induction ByteArray.toList.loop bytes start listed with
  | case1 start listed more ih =>
    have inside : start < bytes.data.toList.length := more
    have here : bytes.get! start = bytes.data.toList[start] :=
      getElem!_pos bytes.data start inside
    rw [ih, List.reverse_cons, List.append_assoc, List.singleton_append, here,
      List.drop_eq_getElem_cons inside]
  | case2 start listed done =>
    have outside : bytes.data.toList.length ≤ start := Nat.le_of_not_lt done
    rw [List.drop_eq_nil_of_le outside, List.append_nil]

/-- Bytes in turn are listed in turn. -/
theorem toList_append (first second : ByteArray) :
    (first ++ second).toList = first.toList ++ second.toList := by
  simp [ByteArray.toList, toList_loop]

/-- Text that follows content puts its bytes behind those of the content. -/
theorem toBytes_appendText (content : Content) (more : String) :
    (content.appendText more).toBytes = content.toBytes ++ more.toUTF8.toList := by
  cases content with
  | text value => simp [appendText, toBytes, toList_append]
  | bytes value => rfl

/-- Text that follows nothing stands alone. -/
theorem toBytes_appendText_empty (more : String) :
    (empty.appendText more).toBytes = more.toUTF8.toList := by
  simp [empty, appendText, toBytes]

end Content

namespace TodoStore

open Todo Effect FileSystem

/-- The bytes of the log, if it can be read. -/
def logBytes? (store : TodoStore) (files : FileSystem) : Option (List UInt8) :=
  files.bytes? store.logPath

/-- The bytes of entries as the log holds them. -/
def entryBytes (changes : List Change) : List UInt8 :=
  (String.ofList (renderLog changes)).toUTF8.toList

/-- Entries in turn have their bytes in turn. -/
theorem entryBytes_append (changes more : List Change) :
    entryBytes (changes ++ more) = entryBytes changes ++ entryBytes more := by
  simp [entryBytes, renderLog, Content.toList_append]

/-- Entries that may be added stand behind the bytes of the log; without any it is as it was. -/
def Lengthened (store : TodoStore) (may : Change → Prop) (files others : FileSystem) : Prop :=
  ∃ more : List Change, (∀ change ∈ more, may change) ∧
    (store.logBytes? others).getD [] = (store.logBytes? files).getD [] ++ entryBytes more ∧
    (more = [] → store.logBytes? others = store.logBytes? files)

section Lengthened

variable {store : TodoStore} {may : Change → Prop} {files others last : FileSystem}

/-- A log that reads as it did has not changed. -/
theorem lengthened_of_eq (same : store.logBytes? others = store.logBytes? files) :
    store.Lengthened may files others :=
  ⟨[], by simp, by simp [same, entryBytes, renderLog], fun _ => same⟩

/-- A log that got longer and longer is longer. -/
theorem Lengthened.trans (first : store.Lengthened may files others)
    (second : store.Lengthened may others last) : store.Lengthened may files last := by
  obtain ⟨more, mayMore, bytes, idle⟩ := first
  obtain ⟨further, mayFurther, bytesLater, idleLater⟩ := second
  -- The entries of the two are appended one after the other.
  refine ⟨more ++ further, ?_, ?_, ?_⟩
  · intro change member
    rcases List.mem_append.mp member with early | late
    · exact mayMore change early
    · exact mayFurther change late
  · rw [bytesLater, bytes, entryBytes_append, List.append_assoc]
  · intro none
    obtain ⟨rfl, rfl⟩ := List.append_eq_nil_iff.mp none
    exact (idleLater rfl).trans (idle rfl)

/-- Writing elsewhere leaves the log as it is. -/
theorem logBytes?_of_overwritten {spots : Location → Prop}
    (overwritten : Overwritten spots files others)
    (away : ∀ location, store.IsLogPlace files location → ¬spots location) :
    store.logBytes? others = store.logBytes? files := by
  simp only [logBytes?, bytes?_eq, overwritten.follow? away]

/-- What stands in the log's place is read as the log. -/
theorem logBytes?_of_isLogPlace {spot : Location} (place : store.IsLogPlace files spot) :
    store.logBytes? files = (files.entry? spot).bind Entry.bytes? := by
  rw [IsLogPlace] at place
  simp only [logBytes?, bytes?_eq, follow?_eq_bind, place, Option.bind_some]

/-- Entries that are written to the log stand behind what was there. -/
theorem lengthened_of_changed {more : List Change} (allowed : ∀ change ∈ more, may change)
    (some : more ≠ []) {spot : Location} (place : store.IsLogPlace files spot)
    (changed : Changed files spot
      (fun content => content.appendText (.ofList (renderLog more))) others) :
    store.Lengthened may files others := by
  have stays : store.IsLogPlace others spot := by
    rw [isLogPlace_of_overwritten changed.overwritten]
    exact place
  -- The change says what the log holds afterwards, also when its cases are split.
  have done := changed
  cases changed with
  | @replaced content executable stood =>
    refine ⟨more, allowed, ?_, fun none => absurd none some⟩
    have written := done.entry stood
    rw [logBytes?_of_isLogPlace stays, logBytes?_of_isLogPlace place, stood, written]
    exact Content.toBytes_appendText content _
  | made free =>
    refine ⟨more, allowed, ?_, fun none => absurd none some⟩
    rw [logBytes?_of_isLogPlace stays, logBytes?_of_isLogPlace place, free,
      entry?_put (nonroot_of_free free), if_pos rfl]
    exact Content.toBytes_appendText_empty _
  | swallowed sink =>
    -- A sink takes everything and shows nothing of it.
    exact lengthened_of_eq rfl

end Lengthened

/-- Files were written to, and to the log nothing was but entries that may be added. -/
structure Tended (store : TodoStore) (may : Change → Prop) (files others : FileSystem) : Prop where
  written : Overwritten (fun _ => True) files others
  log : store.Lengthened may files others

section Tended

variable {store : TodoStore} {may : Change → Prop} {files others last : FileSystem}

/-- Nothing was written to. -/
theorem Tended.refl (store : TodoStore) (may : Change → Prop) (files : FileSystem) :
    store.Tended may files files :=
  ⟨.refl _ files, lengthened_of_eq rfl⟩

/-- What is tended twice is tended. -/
theorem Tended.trans (first : store.Tended may files others)
    (second : store.Tended may others last) : store.Tended may files last :=
  ⟨first.written.trans second.written, first.log.trans second.log⟩

/-- A file is written to whose path does not lead to the log. -/
theorem tended_of_write {path text : String} (done : files.write path text = .ok others)
    (away : ∀ spot, store.IsLogPlace files spot → files.target? path ≠ some spot) :
    store.Tended may files others := by
  obtain ⟨spot, leads, changed⟩ := changed_of_change done
  refine ⟨changed.overwritten.mono fun _ _ => trivial, lengthened_of_eq ?_⟩
  -- What is written is not in the place of the log.
  refine logBytes?_of_overwritten changed.overwritten ?_
  rintro location place rfl
  exact away location place leads

/-- Entries that may be added are added to the log, if it takes any. -/
theorem append_keeps_tended {more : List Change} (allowed : ∀ change ∈ more, may change) :
    Keeps (fun memory => store.Tended may files memory.files) (store.append more) := by
  intro memory tended
  by_cases none : more = []
  · subst none
    exact tended
  · rw [perform_append_of_ne_nil none]
    -- Entries that are refused leave the disk as it was.
    cases done : memory.files.append store.logPath (.ofList (renderLog more)) with
    | error cause => exact tended
    | ok made =>
      obtain ⟨spot, place, changed⟩ := changed_of_change done
      exact tended.trans ⟨changed.overwritten.mono fun _ _ => trivial,
        lengthened_of_changed allowed none place changed⟩

/-- To read the live todos of a file changes nothing on the disk, even when they are not readable. -/
theorem todosOf_keeps (store : TodoStore) (holds : FileSystem → Prop) (path : String) :
    Keeps (fun memory => holds memory.files) (store.todosOf path) := by
  refine keeps_bind (keeps_get_bind ?_) fun _ => keeps_pure _
  intro memory held
  -- The log is read at most once, and reading it may fail.
  cases memory.live with
  | some live => exact held
  | none =>
    simp only [perform_bind, perform_lift]
    cases store.readChanges memory.files with
    | error error => exact held
    | ok changes => exact held

/-- An update adds entries that make todos, and such as drop todos unless rules are overridden. -/
theorem update_keeps_tended {overriding : Bool} (adds : ∀ todo, may (.add todo))
    (removes : overriding = false → ∀ todo, may (.remove todo)) (path : String)
    (findings : List Finding) (decay : Decay) (today : Date) :
    Keeps (fun memory => store.Tended may files memory.files)
      (store.update path findings decay overriding today) := by
  refine keeps_bind (todosOf_keeps store (store.Tended may files) path) fun existing =>
    keeps_bind (append_keeps_tended ?_) fun _ => keeps_pure _
  intro change member
  rcases List.mem_append.mp member with added | removed
  · obtain ⟨finding, _, rfl⟩ := List.mem_map.mp added
    exact adds _
  · -- An override drops no todo.
    cases overriding with
    | true => exact absurd removed List.not_mem_nil
    | false =>
      obtain ⟨todo, _, rfl⟩ := List.mem_map.mp removed
      exact removes rfl todo

/-- Held against findings, todos are dropped on cleanup, unless rules are overridden. -/
theorem process_keeps_tended {cleanup overriding : Bool}
    (removes : cleanup = true → overriding = false → ∀ todo, may (.remove todo)) (path : String)
    (findings : List Finding) (today : Date) :
    Keeps (fun memory => store.Tended may files memory.files)
      (store.process path findings cleanup overriding today) := by
  refine keeps_bind (todosOf_keeps store (store.Tended may files) path) fun existing => ?_
  simp only
  split
  · exact keeps_pure _
  · rename_i stale
    -- Stale todos count only for a run without overrides.
    have plain : overriding = false := by
      simp only [Bool.or_eq_true, not_or, Bool.not_eq_true] at stale
      exact stale.1
    split
    · rename_i cleans
      refine keeps_bind (append_keeps_tended ?_) fun _ => keeps_pure _
      intro change member
      obtain ⟨todo, _, rfl⟩ := List.mem_map.mp member
      exact removes cleans plain todo
    · exact keeps_pure _

end Tended

end TodoStore

end TemplateLint
