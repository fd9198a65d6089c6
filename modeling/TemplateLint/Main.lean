import Std.Time.Zoned
import TemplateLint.Process

/-!
The command itself. It takes a picture of the disk around the current directory, lets the process
work on that picture, and writes back what the process changed.
-/

namespace TemplateLint

namespace Disk

/-- The program that runs scripts, and the device that swallows what is written to it. -/
def standing : List (Location × Entry) :=
  [(["bin"], .directory), (["bin", "sh"], .file .empty true), (["dev"], .directory),
    (["dev", "null"], .sink)]

/-- Permissions are not part of the picture: a file that names an interpreter is a program. -/
def isProgram (content : Content) : Bool :=
  match content.text? with
  | some text => (Program.interpreter? text.toList).isSome
  | none => false

/-- The names that lead from the root to a canonical path. -/
def locationOf (path : String) : Location :=
  (path.splitOn "/").filter (· ≠ "")

/-- What stands at a name in a directory, and below it; what cannot be read is left out. -/
partial def picture (directory : Location) (name : String) : IO (List (Location × Entry)) := do
  let entry : IO.FS.DirEntry := ⟨FileSystem.pathOf directory, name⟩
  let here := directory ++ [name]
  try
    match (← entry.path.symlinkMetadata).type with
    | .dir =>
      let below ← (← entry.path.readDir).toList.mapM fun inner => picture here inner.fileName
      return (here, .directory) :: below.flatten
    | .file =>
      let content := Content.ofBytes (← IO.FS.readBinFile entry.path).toList
      return [(here, .file content (isProgram content))]
    | .symlink => return [(here, .link (← IO.FS.realPath entry.path).toString)]
    | .other => return [(here, .sink)]
  catch _ => return []

/-- A location with all that stands below it, and what decides on ignored files above it. -/
def around (location : Location) : IO (List (Location × Entry)) := do
  let above := (List.range location.length).map location.take
  let directories := (above.filter (· ≠ [])).map fun directory => (directory, Entry.directory)
  let deciding ← above.mapM fun directory =>
    return (← picture directory ".git") ++ (← picture directory ".gitignore")
  let below ←
    match location.getLast? with
    | some name => picture location.dropLast name
    | none => pure []
  return directories ++ deciding.flatten ++ below

/-- A picture with more entries, each at a location of its own. -/
def extend (entries more : List (Location × Entry)) : List (Location × Entry) :=
  entries ++ more.filter fun entry => !entries.any (·.1 = entry.1)

/-- The locations of what words name, where that exists. -/
def named (words : List String) : IO (List Location) :=
  words.filterMapM fun (word : String) => do
    try return some (locationOf (← IO.FS.realPath word).toString)
    catch _ => return none

/-- The disk around a directory, and around all else that the words of a command line name. -/
def forWords (directory : Location) (words : List String) : IO FileSystem := do
  let elsewhere := (← named words).filter fun location => !directory.isPrefixOf location
  let entries ← (directory :: elsewhere).foldlM (fun entries location =>
    return extend entries (← around location)) []
  return ⟨extend standing entries⟩

/-- Writes what differs between two pictures. -/
def save (before after : FileSystem) : IO Unit :=
  after.entries.forM fun (location, entry) => do
    if before.entry? location ≠ some entry then
      match entry with
      | .directory => IO.FS.createDirAll (FileSystem.pathOf location)
      | .file content _ =>
        IO.FS.writeBinFile (FileSystem.pathOf location) content.toBytes.toByteArray
      | _ => pure ()

/-- All that is left in a stream. -/
partial def drain (stream : IO.FS.Stream) (read : ByteArray) : IO ByteArray := do
  let more ← stream.read 65536
  if more.isEmpty then return read else drain stream (read ++ more)

/-- The date of today. -/
def today : IO Date := do
  let date ← Std.Time.PlainDate.now
  match Date.ofCivil? date.year.toInt date.month.toNat date.day.toNat with
  | some today => return today
  | none => throw (IO.userError "today has no date")

end Disk

end TemplateLint

open TemplateLint in
/-- Runs the command on its words. -/
def main (words : List String) : IO UInt32 := do
  let stdin ← IO.getStdin
  let currentDir := (← IO.currentDir).toString
  let before ← Disk.forWords (Disk.locationOf currentDir) words
  let input ←
    if ProcessResult.readsInput words then Disk.drain stdin .empty else pure .empty
  let surroundings : Surroundings :=
    ⟨currentDir, ← Disk.today, (← IO.getEnv "NO_COLOR").isNone⟩
  let result := ProcessResult.ofWords surroundings before (.ofBytes input.toList)
    (← stdin.isTty) words
  Disk.save before result.files
  IO.print result.output
  IO.eprint result.complaints
  return result.status.toUInt32
