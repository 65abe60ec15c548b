import Agenda.Shell.Detour
import Agenda.Shell.Feed
import Agenda.Shell.Tool

/-!
# Programs

Where the commands are found that are no part of the shell: scripts in files, the programs of the
system, and what a call of the shell is asked to run.
-/

namespace Agenda.Shell

/-- What a command that is no part of the shell stands for: a script in a file at a path, or a tool
of the system. -/
inductive Program
  | script (file : File) (path : Text)
  | tool (name : Text)

namespace Session

def programAt (session : Session) (path : Text) : Except Disk.Reason Program :=
  match FileTool.at? session.disk session.here path, Outside.at? path with
  | some (_, .file file), _ =>
    if Text.endsWith "/" path then .error .notDirectory
    else if file.executable then .ok (.script file path)
    else .error .denied
  | some _, _ | none, some .directory => .error .isDirectory
  | none, some .program => .ok (.tool (FileTool.lastName path))
  | none, some _ => .error .denied
  | none, none => .error (FileTool.reasonAt session.disk session.here path)

/-- The path of a name in a directory; no directory is the one at hand. -/
def pathIn (directory name : Text) : Text :=
  if directory.isEmpty then name else directory ++ '/' :: name

/-- The first program of a name in some directories. If there is none but something else of that
name was found, that cannot be called. -/
def firstProgram (session : Session) (name : Text) : List Text → Except Disk.Reason Program
  | [] => .error .missing
  | directory :: rest =>
    match session.programAt (pathIn directory name), session.firstProgram name rest with
    | .ok program, _ | .error _, .ok program => .ok program
    | .error .denied, _ | .error .isDirectory, _ => .error .denied
    | .error _, .error reason => .error reason

def directoriesOf (path? : Option Text) : List Text :=
  match path? with
  | some path => path.splitOn ':'
  | none => []

/-- The program that a name stands for: what is at that path, or the first one of that name in some
directories. -/
def program (session : Session) (directories : List Text) (name : Text) :
    Except Disk.Reason Program :=
  if name.contains '/' then session.programAt name else session.firstProgram name directories

def searched (session : Session) : List Text := directoriesOf (session.bindings.lookup "PATH".toList)

/-- The directories in which tools look for the programs that they call. -/
def searchedByTools (session : Session) : List Text :=
  directoriesOf ((session.environment.lookup "PATH".toList).getD "/bin:/usr/bin")

/-- Says that a command cannot be called. -/
def refusesCommand (session : Session) (name : Text) (reason : Disk.Reason) : Session :=
  let isPath := name.contains '/'
  let denied : Bool := reason = .denied ∨ reason = .isDirectory
  let (words, status) : Text × Nat :=
    if session.large then
      if isPath then (reason.words, if reason = .missing then 127 else 126)
      else if denied then (Disk.Reason.denied.words, 126)
      else if session.searched.all List.isEmpty then (Disk.Reason.missing.words, 127)
      else ("command not found", 127)
    else (if denied then Disk.Reason.denied.words else "not found",
      if denied && (isPath || session.caller = "exec".toList) then 126 else 127)
  session.failsWithin (name ++ ": " ++ words) status

def refusesCall (session : Session) (tool command : Text) (reason : Disk.Reason) : Session :=
  let reason : Disk.Reason := if reason = .isDirectory then .denied
    else if command.isEmpty then .missing else reason
  ((Detour.complaints tool command reason.words).foldl complains session).ended
    (if reason = .missing then 127 else 126)

def scriptOf (file : File) : Text := (Text.ofBytes? file.contents).getD (rawOf file.contents)

/-- What the shell is asked to run: a script with its name and arguments, the letters of the options
that it is run with, and whether it is written in the larger language. -/
structure ShellCall where
  script : Text
  name : Text
  arguments : List Text
  letters : Text := []
  large : Bool := false
  inline : Bool := false

/-- The call that a file with a script stands for. Its first line may name the larger language, and
options behind a space. -/
def ShellCall.ofFile (file : File) (name : Text) (arguments : List Text) : ShellCall :=
  let script := scriptOf file
  let first := script.takeWhile (· ≠ '\n')
  let (program, option) := (Text.cutAt? ' ' first).getD (first, [])
  { script, name, arguments
    letters := if Text.startsWith "#!/" first ∧ option.head? = some '-' then option.tail else []
    large := Text.startsWith "#!" first && Text.endsWith "bash" program }

/-- The variables that a shell starts with besides those that it is told of. -/
def firstBindings (large : Bool) : List (Text × Text) :=
  let common : List (Text × Text) := [("IFS", " \t\n"), ("OPTIND", "1"), ("PS2", "> "), ("PS4", "+ ")]
  if large then common else ("PS1", "# ") :: common

def forCall (session : Session) (shellCall : ShellCall) : Session :=
  let first := firstBindings shellCall.large
  let known := session.environment.filter fun (name, _) =>
    (first.lookup name).isNone && name ≠ "PWD".toList
  let knowsPaths := (known.lookup "PATH".toList).isSome
  let paths : List (Text × Text) := if knowsPaths then []
    else [("PATH", "/usr/local/sbin:/usr/local/bin:/usr/sbin:/usr/bin:/sbin:/bin")]
  shellCall.letters.foldl (setOption · true) { session with
    name := shellCall.name, arguments := shellCall.arguments, large := shellCall.large
    inline := shellCall.inline, maps := [], forms := [], references := [], statuses := []
    switches := [], failsAnywhere := false
    strict := false, demanding := false, plainPaths := false, readsOnly := false
    careful := false, traced := false, exportsAll := false, idleOptions := []
    bindings := (("PWD" : Text), FileTool.pathText session.way) :: first ++ known.reverse ++ paths
    exported := "PWD" :: known.map (·.1), told := none, constants := []
    line := 1, caller := [], aliases := [] }

/-- The options of a shell among its arguments, those that are off, and the operands behind them;
one hyphen alone ends the options as well. -/
def shellOptions : List Text → Text × Text × List Text
  | [] => ([], [], [])
  | word :: rest =>
    match word with
    | ['-'] | ['-', '-'] => ([], [], rest)
    | '-' :: '-' :: _ => shellOptions rest
    | '-' :: letters =>
      let (on, off, operands) := shellOptions rest
      (letters ++ on, off, operands)
    | '+' :: letters =>
      let (on, off, operands) := shellOptions rest
      (on, letters ++ off, operands)
    | _ => ([], [], word :: rest)

/-- What a shell is asked to run by its arguments: a script that is one of them, or that is in a
file, or that is its input. -/
def shellCall (session : Session) (shell : Text) (arguments : List Text) :
    Except Text ShellCall :=
  let large := shell = "bash".toList
  let (letters, off, operands) := shellOptions arguments
  let unknown? := if large then none
    else (letters ++ off).find? (!"cefIimnsxvVECabuop".toList.contains ·)
  let letters := letters.filter (!off.contains ·)
  let fromInput (arguments : List Text) : ShellCall :=
    ⟨rawOf session.input, shell, arguments, letters, large, false⟩
  if let some letter := unknown? then .error ("Illegal option -" ++ [letter])
  else if letters.contains 'c' then
    match operands with
    | [] => .error "-c requires an argument"
    | [script] => .ok ⟨script, shell, [], letters, large, true⟩
    | script :: name :: arguments => .ok ⟨script, name, arguments, letters, large, true⟩
  else match operands, letters.contains 's' with
    | arguments, true => .ok (fromInput arguments)
    | [], false => .ok (fromInput [])
    | path :: arguments, false =>
      match FileTool.at? session.disk session.here path with
      | some (_, .file file) => .ok ⟨scriptOf file, path, arguments, letters, large, false⟩
      | some _ => .ok ⟨[], path, arguments, letters, large, false⟩
      | none => .error ("cannot open " ++ path ++ ": No such file")

/-- The commands whose assignments stay. -/
def specialBuiltins : List Text := [".", ":", "break", "continue", "eval", "exec", "exit", "export",
  "local", "readonly", "return", "set", "shift", "times", "trap", "unset"]

/-- The file that a script is read from inside another one, with its path; without a slash in its
name it is looked for like a program. If there is none, that is complained about. -/
def sourced (session : Session) (path : Text) : Except Session (Text × File) :=
  let paths := if path.contains '/' then [path]
    else session.searched.map (pathIn · path) ++ if session.large then [path] else []
  let file? (path : Text) : Option (Text × File) :=
    match FileTool.at? session.disk session.here path with
    | some (_, .file file) => some (path, file)
    | _ => none
  match paths.findSome? file? with
  | some found => .ok found
  | none =>
    let isThere (path : Text) : Bool := (FileTool.at? session.disk session.here path).isSome
    .error (if session.large then
        if isThere path then session.failsAs (".: " ++ path ++ ": is a directory") 1
        else session.failsAs (path ++ ": No such file or directory") 1
      else if path.isEmpty ∨ (path.contains '/' ∧ isThere path) then session.ended 0
      else session.failsAs (if path.contains '/' then ".: cannot open " ++ path ++ ": No such file"
        else ".: " ++ path ++ ": not found") 2)

def programPath? (session : Session) (directories : List Text) (name : Text) : Option Text :=
  let paths := if name.contains '/' then [name] else directories.map (pathIn · name)
  paths.find? fun path => (session.programAt path).isOk

/-- What a script finds for a name: a path may also lead to something that cannot be called. -/
def foundPath? (session : Session) (name : Text) : Option Text :=
  if name.contains '/' then
    if session.ask 'e' name then some name else none
  else session.programPath? session.searched name

/-- Tells where a command is found, if it is found. -/
def tellsWhere (session : Session) (name : Text) : Session :=
  if keywords.contains name ∨ Builtin.has session.large name ∨
      (session.functions.lookup name).isSome then
    session.utters (raw (name ++ "\n"))
  else match session.aliases.lookup name with
  | some value => session.utters (raw ("alias " ++ name ++ "=" ++ singleQuoted value ++ "\n"))
  | none => match session.foundPath? name with
    | some path => session.utters (raw (path ++ "\n"))
    | none => session.ended (if session.large then 1 else 127)

def tellsKinds (session : Session) (names : List Text) : Session :=
  names.foldl (fun session name =>
    let found (kind : Text) : Session := session.print 1 (raw (name ++ " is " ++ kind ++ "\n"))
    if keywords.contains name then found "a shell keyword"
    else if (session.aliases.lookup name).isSome then
      found ("an alias for " ++ (session.aliases.lookup name).getD [])
    else if (session.functions.lookup name).isSome then found "a shell function"
    else if !session.large && specialBuiltins.contains name then found "a special shell builtin"
    else if Builtin.has session.large name then found "a shell builtin"
    else match session.foundPath? name with
      | some path => found path
      | none =>
        if session.large then session.failsAs ("type: " ++ name ++ ": not found") 1
        else (session.print 1 (raw (name ++ ": not found\n"))).ended 127) (session.ended 0)

/-- Finds programs, so that it is known where they are; there has to be one for each name that is no
path and no command of the shell. -/
def findsPrograms (session : Session) (arguments : List Text) : Session :=
  match lettersOf (if session.large then "dlprt" else "rv") arguments with
  | .error letter => session.refusesOption "hash" "hash [-lr] [-p pathname] [-dt] [name ...]" letter
  | .ok (letters, names) =>
    if session.large && letters.isEmpty && names.isEmpty then
      session.utters "hash: hash table empty\n"
    else names.foldl (fun session name =>
      let isKnown := name.contains '/' || (session.functions.lookup name).isSome ||
        Builtin.has session.large name || (session.programPath? session.searched name).isSome
      if isKnown then session else session.failsAs ("hash: " ++ name ++ ": not found") 1)
      (session.ended 0)

def tellsPaths (session : Session) (names : List Text) : Session :=
  names.foldl (fun session name =>
    match session.programPath? session.searchedByTools name with
    | some path => session.print 1 (raw (path ++ "\n"))
    | none => session.ended 1) (session.ended (if names.isEmpty then 1 else 0))

end Session

end Agenda.Shell
