import TemplateLint.Error
import TemplateLint.Json.Printer
import TemplateLint.Script.Command

/-! Running programs: shell scripts that read, print, write files and end with a status. -/

namespace TemplateLint

namespace Script

/-- What a command does: what it prints, what it leaves unread, and how it ends. -/
structure Effect where
  output : List UInt8
  errors : List UInt8
  input : List UInt8
  status : Nat
  ending : Option Ending

/-- A shell between two commands. -/
structure Shell where
  name : String
  directory : String
  files : FileSystem
  input : List UInt8
  output : List UInt8
  errors : List UInt8
  status : Nat
  ending : Option Ending

/-- Where a stream of a command goes. -/
inductive Target where
  | input
  | output
  | errors
  | file (path : String)
  deriving DecidableEq

/-- Where a command reads and writes. -/
structure Streams where
  source : Option (List UInt8)
  output : Target
  errors : Target

/-- The bytes of characters. -/
def bytesOf (text : List Char) : List UInt8 :=
  (String.ofList text).toUTF8.toList

/-- The number of a shell's process. -/
def processNumber : Nat :=
  4242

/-- The value of a parameter. -/
def Shell.parameter (shell : Shell) (name : List Char) : List Char :=
  if name = ['$'] then Nat.toDigits 10 processNumber
  else if name = ['?'] then Nat.toDigits 10 shell.status
  else if name = ['#'] then ['0']
  else if name = ['0'] then shell.name.toList
  else if name = "PWD".toList then shell.directory.toList
  else []

/-- The argument that a word stands for. -/
def Shell.expand (shell : Shell) (word : Word) : List Char :=
  word.flatMap fun piece =>
    match piece with
    | .text value => value
    | .parameter name => shell.parameter name

/-- The argument that a word stands for, none for a lone parameter without a value. -/
def Shell.argument? (shell : Shell) (word : Word) : Option (List Char) :=
  match word with
  | [.parameter name] =>
    let value := shell.parameter name
    if value.isEmpty then none else some value
  | _ => some (shell.expand word)

/-- The byte of up to a number of octal digits, and the text after them. -/
def readOctal : Nat → Nat → List Char → Nat × List Char
  | 0, value, text => (value, text)
  | limit + 1, value, c :: rest =>
    if '0' ≤ c ∧ c ≤ '7' then readOctal limit (value * 8 + (c.toNat - 48)) rest
    else (value, c :: rest)
  | _, value, [] => (value, [])

/-- The bytes of a one-letter escape. -/
def letterEscape? (c : Char) : Option (List UInt8) :=
  if c = 'n' then some [10]
  else if c = 't' then some [9]
  else if c = 'r' then some [13]
  else if c = 'a' then some [7]
  else if c = 'b' then some [8]
  else if c = 'f' then some [12]
  else if c = 'v' then some [11]
  else if c = '\\' then some [92]
  else none

/-- What `echo` prints for its joined arguments, and whether printing stops there. -/
def echoBytes : Nat → List Char → List UInt8 × Bool
  | 0, _ => ([], false)
  | _, [] => ([], false)
  | _ + 1, '\\' :: 'c' :: _ => ([], true)
  | steps + 1, '\\' :: '0' :: rest =>
    let (value, after) := readOctal 3 0 rest
    let (more, stops) := echoBytes steps after
    (UInt8.ofNat value :: more, stops)
  | steps + 1, '\\' :: c :: rest =>
    let (more, stops) := echoBytes steps rest
    ((letterEscape? c).getD (bytesOf ['\\', c]) ++ more, stops)
  | steps + 1, c :: rest =>
    let (more, stops) := echoBytes steps rest
    (bytesOf [c] ++ more, stops)

/-- What a format prints, and the arguments that it leaves. -/
def formatBytes : Nat → List Char → List (List Char) → List UInt8 × List (List Char)
  | 0, _, arguments => ([], arguments)
  | _, [], arguments => ([], arguments)
  | steps + 1, '%' :: '%' :: rest, arguments =>
    let (more, left) := formatBytes steps rest arguments
    (37 :: more, left)
  | steps + 1, '%' :: c :: rest, arguments =>
    let (argument, later) :=
      match arguments with
      | [] => ([], [])
      | first :: later => (first, later)
    let (more, left) := formatBytes steps rest later
    let shown :=
      if c = 's' then bytesOf argument
      else if c = 'b' then (echoBytes (argument.length + 1) argument).1
      else if c = 'c' then bytesOf (argument.take 1)
      else if c = 'd' ∨ c = 'i' ∨ c = 'u' then bytesOf (if argument.isEmpty then ['0'] else argument)
      else bytesOf ['%', c]
    (shown ++ more, left)
  | steps + 1, '\\' :: c :: rest, arguments =>
    if '0' ≤ c ∧ c ≤ '7' then
      let (value, after) := readOctal 3 0 (c :: rest)
      let (more, left) := formatBytes steps after arguments
      (UInt8.ofNat value :: more, left)
    else
      let (more, left) := formatBytes steps rest arguments
      let shown := if c = '"' then [34] else (letterEscape? c).getD (bytesOf ['\\', c])
      (shown ++ more, left)
  | steps + 1, c :: rest, arguments =>
    let (more, left) := formatBytes steps rest arguments
    (bytesOf [c] ++ more, left)

/-- What `printf` prints: its format again and again while it uses up arguments. -/
def printfBytes (format : List Char) : Nat → List (List Char) → List UInt8
  | 0, _ => []
  | rounds + 1, arguments =>
    let (shown, left) := formatBytes (format.length + 1) format arguments
    -- A round that takes no argument would only print the same for ever.
    if left.isEmpty || left.length = arguments.length then shown
    else shown ++ printfBytes format rounds left

/-- The number that decimal digits write. -/
def number? (text : List Char) : Option Nat :=
  if !text.isEmpty && text.all Char.isDigit then some (Nat.ofDigitChars 10 text 0) else none

/-- The signals that a script may name. -/
def signalNumber? (name : List Char) : Option Nat :=
  match number? name with
  | some value => some value
  | none =>
    (Ending.signalNames.find? fun signal =>
      signal.2.toList = name ∨ signal.2.toList.drop 3 = name).map (·.1)

/-- The signal and the processes that the arguments of `kill` name. -/
def killArguments : List (List Char) → Option (Nat × List (List Char))
  | ['-', 's'] :: name :: processes => (signalNumber? name).map (·, processes)
  | ('-' :: name) :: processes => (signalNumber? name).map (·, processes)
  | processes => some (15, processes)

/-- The content of files in order, or the complaint about the first that cannot be read. -/
def gatherFiles (shell : Shell) : List (List Char) → List UInt8 × List UInt8
  | [] => ([], [])
  | ['-'] :: later =>
    let (content, complaints) := gatherFiles shell later
    (shell.input ++ content, complaints)
  | path :: later =>
    let (content, complaints) := gatherFiles shell later
    match shell.files.read (Path.join shell.directory (.ofList path)) with
    | .ok found => (found.toBytes ++ content, complaints)
    | .error cause =>
      -- The wording ends before the number that is given in brackets elsewhere.
      let reason := (cause.message.toList.takeWhile (· ≠ '(')).dropLast
      (content, bytesOf ("cat: ".toList ++ path ++ ": ".toList ++ reason ++ ['\n']) ++ complaints)

/-- How often a byte stands in a sequence. -/
def countByte (byte : UInt8) (bytes : List UInt8) : Nat :=
  bytes.count byte

/-- The lines of a byte sequence without their line feeds. -/
def byteLines : List UInt8 → List (List UInt8)
  | [] => []
  | byte :: rest =>
    if byte = 10 then [] :: byteLines rest
    else
      match byteLines rest with
      | [] => [[byte]]
      | line :: later =>
        -- A line feed directly after this byte ends its line.
        (byte :: line) :: later

/-- How often a pattern stands in a sequence without overlap. -/
def occurrences (pattern : List UInt8) : Nat → List UInt8 → Nat
  | 0, _ => 0
  | _, [] => 0
  | steps + 1, byte :: rest =>
    if pattern.isPrefixOf (byte :: rest) then
      1 + occurrences pattern steps ((byte :: rest).drop pattern.length)
    else occurrences pattern steps rest

/-- A command that ends well after printing. -/
def printing (shell : Shell) (output : List UInt8) : Effect :=
  ⟨output, [], shell.input, 0, none⟩

/-- A command that ends with a status after a complaint. -/
def failing (shell : Shell) (status : Nat) (complaint : List Char) : Effect :=
  ⟨[], bytesOf complaint, shell.input, status, none⟩

/-- What the commands do that work on text. -/
def filterEffect? (shell : Shell) (name : List Char) (arguments : List (List Char)) :
    Option Effect :=
  let used (output : List UInt8) : Option Effect := some ⟨output, [], [], 0, none⟩
  if name = "cat".toList then
    match arguments with
    | [] => used shell.input
    | _ =>
      let (content, complaints) := gatherFiles shell arguments
      some ⟨content, complaints, shell.input, if complaints.isEmpty then 0 else 1, none⟩
  else if name = "wc".toList then
    let shown (n : Nat) : Option Effect := used (bytesOf (Nat.toDigits 10 n ++ ['\n']))
    if arguments = ["-l".toList] then shown (countByte 10 shell.input)
    else if arguments = ["-c".toList] then shown shell.input.length
    else none
  else if name = "grep".toList then
    match arguments with
    | [option, pattern] =>
      let found := occurrences (bytesOf pattern) (shell.input.length + 1) shell.input
      let status := if found = 0 then 1 else 0
      if option = "-o".toList then
        some ⟨(List.replicate found (bytesOf pattern ++ [10])).flatten, [], [], status, none⟩
      else if option = "-c".toList then
        let matching := (byteLines shell.input).countP fun line =>
          occurrences (bytesOf pattern) (line.length + 1) line ≠ 0
        some ⟨bytesOf (Nat.toDigits 10 matching ++ ['\n']), [], [],
          if matching = 0 then 1 else 0, none⟩
      else if option = "-q".toList then some ⟨[], [], [], status, none⟩
      else none
    | _ => none
  else if name = "tr".toList then
    match arguments with
    | [['-', 'd'], dropped] =>
      let bytes := (echoBytes (dropped.length + 1) dropped).1
      used (shell.input.filter fun byte => !bytes.contains byte)
    | _ => none
  else if name = "head".toList then
    match arguments with
    | [['-', 'c'], count] => (number? count).bind fun n => used (shell.input.take n)
    | [['-', 'n'], count] => (number? count).bind fun n =>
      used (((byteLines shell.input).take n).flatMap (· ++ [10]))
    | _ => none
  else none

/-- What a command does. -/
def effect (shell : Shell) (line : Nat) (name : List Char) (arguments : List (List Char)) :
    Effect :=
  if name = "echo".toList then
    let (quiet, shown) :=
      match arguments with
      | ['-', 'n'] :: later => (true, later)
      | all => (false, all)
    let text := Text.joinWith [' '] shown
    let (bytes, stops) := echoBytes (text.length + 1) text
    printing shell (if quiet || stops then bytes else bytes ++ [10])
  else if name = "printf".toList then
    match arguments with
    | [] => failing shell 2 "printf: usage: printf format [arg ...]\n".toList
    | format :: values => printing shell (printfBytes format (values.length + 1) values)
  else if name = "exit".toList then
    let status :=
      match arguments with
      | [] => shell.status
      | value :: _ => (number? value).getD 2 % 256
    ⟨[], [], shell.input, status, some (.exited status)⟩
  else if name = "kill".toList then
    match killArguments arguments with
    | some (signal, processes) =>
      if processes = [Nat.toDigits 10 processNumber] then
        if signal = 0 then printing shell []
        else ⟨[], [], shell.input, 128 + signal, some (.killed signal)⟩
      else failing shell 1 "kill: No such process\n".toList
    | none => failing shell 2 "kill: Illegal option\n".toList
  else if name = "pwd".toList then printing shell (bytesOf (shell.directory.toList ++ ['\n']))
  else if name = "true".toList ∨ name = ":".toList ∨ name = "sleep".toList then printing shell []
  else if name = "false".toList then failing shell 1 []
  else
    match filterEffect? shell name arguments with
    | some done => done
    | none =>
      failing shell 127 (shell.name.toList ++ ": ".toList ++ Nat.toDigits 10 line ++ ": ".toList ++
        name ++ ": not found\n".toList)

/-- The path of a file that a word names. -/
def Shell.path (shell : Shell) (word : Word) : String :=
  Path.join shell.directory (.ofList (shell.expand word))

/-- The complaint about a file that cannot be opened. -/
def Shell.cannotOpen (shell : Shell) (line : Nat) (action : String) (word : Word)
    (cause : FileError) : List Char :=
  let reason :=
    match cause with
    | .notFound => if action = "create" then "Directory nonexistent" else "No such file"
    | .notDirectory => if action = "create" then "Directory nonexistent" else "No such file"
    | other => String.ofList (other.message.toList.takeWhile (· ≠ '(')).dropLast
  shell.name.toList ++ ": ".toList ++ Nat.toDigits 10 line ++ ": cannot ".toList ++
    action.toList ++ [' '] ++ shell.expand word ++ ": ".toList ++ reason.toList ++ ['\n']

/-- The disk and the streams of a command after one redirection, or a complaint. -/
def redirect (shell : Shell) (line : Nat) (streams : Streams) :
    Redirection → Except (List Char) (FileSystem × Streams)
  | .read word =>
    match shell.files.read (shell.path word) with
    | .ok content => .ok (shell.files, { streams with source := some content.toBytes })
    | .error cause => .error (shell.cannotOpen line "open" word cause)
  | .write stream word =>
    let path := shell.path word
    -- The file is made, or emptied, before the command runs.
    match shell.files.write path "" with
    | .ok files => .ok (files, aim streams stream (.file path))
    | .error cause => .error (shell.cannotOpen line "create" word cause)
  | .extend stream word =>
    let path := shell.path word
    match shell.files.append path "" with
    | .ok files => .ok (files, aim streams stream (.file path))
    | .error cause => .error (shell.cannotOpen line "create" word cause)
  | .duplicate stream word =>
    let source := shell.expand word
    let target := if source = ['1'] then streams.output else streams.errors
    .ok (shell.files, aim streams stream target)
where
  /-- The streams with one of them aimed elsewhere. -/
  aim (streams : Streams) (stream : Nat) (target : Target) : Streams :=
    if stream = 2 then { streams with errors := target } else { streams with output := target }

/-- The disk and streams after redirections in order, or the first complaint. -/
def redirectAll (shell : Shell) (line : Nat) (streams : Streams) :
    List Redirection → Except (List Char) (FileSystem × Streams)
  | [] => .ok (shell.files, streams)
  | first :: later =>
    match redirect shell line streams first with
    | .error complaint => .error complaint
    -- A later redirection sees the disk and the streams that the earlier ones leave.
    | .ok (files, next) => redirectAll { shell with files } line next later

/-- A shell after bytes went to where a stream is aimed. -/
def deliver (shell : Shell) (target : Target) (bytes : List UInt8) : Shell :=
  match target with
  | .output => { shell with output := shell.output ++ bytes }
  | .errors => { shell with errors := shell.errors ++ bytes }
  | .input => shell
  | .file path =>
    match shell.files.change path fun content => .ofBytes (content.toBytes ++ bytes) with
    | .ok files => { shell with files }
    -- What cannot be written any more is lost without a complaint.
    | .error _ => shell

/-- A shell after one command. -/
def runCommand (shell : Shell) (command : Command) : Shell :=
  match redirectAll shell command.line ⟨none, .output, .errors⟩ command.redirections with
  | .error complaint =>
    -- Without its streams the command does not run.
    { shell with errors := shell.errors ++ bytesOf complaint, status := 2 }
  | .ok (files, streams) =>
    match command.words.filterMap shell.argument? with
    | [] => { shell with files, status := 0 }
    | name :: arguments =>
      let fed := { shell with files, input := streams.source.getD shell.input }
      let done := effect fed command.line name arguments
      -- A command that reads a file leaves the shell's own input as it is.
      let input := if streams.source.isSome then shell.input else done.input
      let after := { shell with files, input, status := done.status, ending := done.ending }
      deliver (deliver after streams.output done.output) streams.errors done.errors

/-- A shell after commands of which each reads what the one before it wrote. -/
def runPipeline (shell : Shell) : List Command → Shell
  | [] => shell
  | [command] => runCommand shell command
  | command :: next :: later =>
    let first := runCommand { shell with output := [] } command
    let rest := runPipeline { first with input := first.output, output := [], ending := none }
      (next :: later)
    -- A command before the last runs in a shell of its own, which alone its ending ends.
    { rest with output := shell.output ++ rest.output, input := first.input,
                ending := none }

/-- A shell after pipelines, up to the one that ends it. -/
def runAll (shell : Shell) : List Pipeline → Shell
  | [] => shell
  | pipeline :: later =>
    let runs :=
      match pipeline.link with
      | .always => true
      | .ifGood => shell.status = 0
      | .ifBad => shell.status ≠ 0
    -- A pipeline that does not run leaves the status for the links after it.
    let after := if runs then runPipeline shell pipeline.commands else shell
    if after.ending.isSome then after else runAll after later

/-- A whole script run in a directory on an input. -/
def run (name directory : String) (files : FileSystem) (input : List UInt8) (text : List Char) :
    Shell :=
  let shell : Shell := ⟨name, directory, files, input, [], [], 0, none⟩
  match parse? text with
  | some pipelines => runAll shell pipelines
  | none =>
    { shell with errors := bytesOf (name.toList ++ ": Syntax error\n".toList), status := 2 }

end Script

/-- What a program leaves behind. -/
structure ProgramResult where
  ending : Ending
  output : Content
  errors : Content
  files : FileSystem

namespace Program

/-- The interpreter that the first line of a script names, and the argument for it. -/
def interpreter? (text : List Char) : Option (List Char × List Char) :=
  match text with
  | '#' :: '!' :: rest =>
    let isGap (c : Char) : Bool := c == ' ' || c == '\t'
    let line := (rest.takeWhile (· ≠ '\n')).dropWhile isGap
    let path := line.takeWhile (!isGap ·)
    let argument := Text.dropEndWhile isGap ((line.drop path.length).dropWhile isGap)
    if path.isEmpty then none else some (path, argument)
  | _ => none

/-- Runs the script of a program in a directory on an input. -/
def run (files : FileSystem) (program directory : String) (input : String) :
    Except FileError ProgramResult :=
  match files.read program with
  | .error cause => .error cause
  | .ok content =>
    match content.text?.bind fun text => (interpreter? text.toList).map (text, ·) with
    | none => .error .notExecutable
    | some (text, path, _) =>
      if files.isExecutable (Path.join directory (.ofList path)) then
        let shell := Script.run program directory files input.toUTF8.toList text.toList
        .ok ⟨shell.ending.getD (.exited shell.status), .ofBytes shell.output,
          .ofBytes shell.errors, shell.files⟩
      else .error .notFound

end Program

end TemplateLint
