import Agenda.Shell.Builtin.Variable
import Agenda.Shell.Field
import Agenda.Shell.Process

/-!
# Commands of the shell itself

The commands that read or change the state of a running script: its place, its variables and
parameters, its options and what is to be done when it ends.
-/

namespace Agenda.Shell

/-- The number that an argument of `exit` or of a loop control writes. -/
def numberOr (default : Nat) (arguments : List Text) : Nat :=
  match arguments with
  | t :: _ => Text.natOfDigits (t.takeWhile Char.isDigit)
  | [] => default

def shells : List Text := ["sh", "dash", "bash"]

namespace Session

/-- The words of a line shared out among names; the last name takes all that is left. White space
around words is dropped, and one other separator behind each of them. -/
def shareOut (separators : Text) : List Text → Text → List (Text × Text)
  | [], _ => []
  | [name], line =>
    let isGap (c : Char) : Bool := c.isWhitespace && separators.contains c
    [(name, ((line.dropWhile isGap).reverse.dropWhile isGap).reverse)]
  | name :: names, line =>
    let isGap (c : Char) : Bool := c.isWhitespace && separators.contains c
    let line := line.dropWhile isGap
    let word := line.takeWhile fun c => !separators.contains c
    let rest := (line.drop word.length).dropWhile isGap
    let rest := match rest with
      | c :: behind => if separators.contains c then behind else rest
      | [] => []
    (name, word) :: shareOut separators names rest

/-- A line up to its end without its backslashes, and what is behind it; a backslash at the end of a
line joins it with the next one. The last value says whether the line was ended. -/
def joinedLine (ending : Char) : Text → Text × Text × Bool
  | [] => ([], [], false)
  | '\\' :: c :: rest =>
    let (line, behind) := joinedLine ending rest
    (if c = '\n' then line else c :: line, behind)
  | c :: rest =>
    if c = ending then ([], rest, true)
    else
      let (line, behind) := joinedLine ending rest
      (c :: line, behind)

/-- Reads a line from the input: the session behind it, the line, and whether it was ended. -/
def takeLine (session : Session) (options : Options) : Session × Text × Bool :=
  let ending := match options.value? 'd' with
    | some mark => mark.headD '\x00'
    | none => '\n'
  let stream? := (options.value? 'u').map Text.natOfDigits
  let t := match stream? with
    | some stream => rawOf ((session.others.lookup stream).getD .empty)
    | none => rawOf session.input
  let t' := match (options.value? 'n').or (options.value? 'N') with
    | some count => t.take (Text.natOfDigits count)
    | none => t
  let (line, rest, ended) : Text × Text × Bool :=
    if options.has 'r' then
      let line := t'.takeWhile (· ≠ ending)
      (line, t'.drop (line.length + 1), decide (line.length < t'.length))
    else joinedLine ending t'
  let left := bytesOf (rest ++ t.drop t'.length)
  let session := match stream? with
    | some stream => session.readOn stream left
    | none => { session with input := left }
  (session, (Text.ofBytes? (bytesOf line)).getD line, ended || t'.length < t.length)

/-- Reads a line and gives its words to variables; the last variable takes all that is left. In the
larger language the words may become a list, and a line that is given to no variable stays whole. -/
def readLine (session : Session) (arguments : List Text) : Session :=
  let known : Known := if session.large then
      { plain := "rse", valued := "pndtNua", leading := true }
    else { plain := "r", valued := "p", leading := true }
  match known.split? arguments with
  | none =>
    let letter := (arguments.find? fun argument => argument.head? = some '-').getD []
    session.failsAs ("read: Illegal option -" ++ (letter.drop 1).take 1) 2
  | some (options, names) =>
    match names.find? fun name => !isName (name.takeWhile (· ≠ '[')), options.value? 'a' with
    | some name, _ => session.failsAs ("read: " ++ name ++ ": bad variable name") 2
    | none, some list =>
      let (session, line, ended) := session.takeLine options
      let words := (line.splitBy fun a b =>
        session.separators.contains a == session.separators.contains b).filter fun word =>
          !word.all session.separators.contains
      (session.assignList list false words).ended (if ended then 0 else 1)
    | none, none =>
      if names.isEmpty ∧ !session.large then session.failsAs "read: arg count" 2
      else
        let (session, line, ended) := session.takeLine options
        let shares := if names.isEmpty then [(("REPLY" : Text), line)]
          else shareOut session.separators names line
        let assigned :=
          shares.foldl (fun session (name, value) => session.assignFor "read" name value) session
        assigned.ended (if ended then 0 else 1)

def setOption (session : Session) (on : Bool) (letter : Char) : Session :=
  match letter with
  | 'e' => { session with strict := on }
  | 'u' => { session with demanding := on }
  | 'f' => { session with plainPaths := on }
  | 'n' => { session with readsOnly := on }
  | 'C' => { session with careful := on }
  | 'x' => { session with traced := on }
  | 'a' => { session with exportsAll := on }
  | '|' => { session with failsAnywhere := on }
  | letter =>
    let others := session.idleOptions.filter (· ≠ letter)
    { session with idleOptions := if on then letter :: others else others }

/-- The letters of options by their names, in the order in which they are listed. -/
def optionNames : List (Text × Char) := [("errexit", 'e'), ("noglob", 'f'), ("ignoreeof", 'I'),
  ("interactive", 'i'), ("monitor", 'm'), ("noexec", 'n'), ("stdin", 's'), ("xtrace", 'x'),
  ("verbose", 'v'), ("vi", 'V'), ("emacs", 'E'), ("noclobber", 'C'), ("allexport", 'a'),
  ("notify", 'b'), ("nounset", 'u'), ("privileged", 'p'), ("nolog", ' '), ("debug", ' ')]

def listOptions (session : Session) (asCommands : Bool) : Session :=
  let lines := optionNames.map fun (name, letter) =>
    let isOn := session.isOn letter
    if asCommands then (if isOn then "set -o " else "set +o ").toList ++ name
    else name ++ List.replicate (16 - name.length) ' ' ++ (if isOn then "on" else "off").toList
  let title : List Text := if asCommands then [] else ["Current option settings"]
  session.utters (raw ((title ++ lines).flatMap (· ++ ['\n'])))

/-- Sets options and parameters; there is no session if an option is not known. -/
def setOptions? (session : Session) : List Text → Option Session
  | [] => some (session.ended 0)
  | ['-', '-'] :: rest => some (({ session with arguments := rest }).ended 0)
  | (sign :: c :: letters) :: rest =>
    let on := sign = '-'
    if sign = '-' ∨ sign = '+' then
      if (c :: letters).all "aefnuvxCmbhIVEpsi".toList.contains then
        setOptions? ((c :: letters).foldl (setOption · on) session) rest
      else if (c :: letters).getLast? = some 'o' then
        match rest with
        | [] => some (session.listOptions (sign = '+'))
        | name :: rest =>
          let known : List (Text × Char) :=
            if session.large then ("pipefail", '|') :: optionNames else optionNames
          (known.lookup name).bind fun letter =>
            setOptions? (((c :: letters).dropLast ++ [letter]).foldl (setOption · on) session) rest
      else none
    else some (({ session with arguments := (sign :: c :: letters) :: rest }).ended 0)
  | rest => some (({ session with arguments := rest }).ended 0)

/-- The first option among some words that is not known. -/
def unknownOption : List Text → Text
  | [] => []
  | (sign :: letters) :: rest =>
    match letters.find? (!"aefnuvxCmbhIVEpsio".toList.contains ·) with
    | some letter => [sign, letter]
    | none => if letters.getLast? = some 'o' then [sign, 'o', ' '] ++ rest.headD []
      else unknownOption rest
  | [] :: rest => unknownOption rest

/-- Sets options and parameters; an option that is not known ends the script. -/
def setOptions (session : Session) (arguments : List Text) : Course × Session :=
  match arguments, session.setOptions? arguments with
  | [], _ => (.goesOn, session.listsAll)
  | _, some session => (.goesOn, session)
  | _, none =>
    let unknown := unknownOption arguments
    if session.large then (.goesOn, session.failsAs ("set: " ++ unknown ++ ": invalid option") 2)
    else (.exits, session.failsAs ("set: Illegal option " ++ unknown) 2)

def readLines (session : Session) (arguments : List Text) : Session :=
  match { plain := "t", valued := "nd", leading := true : Known }.split? arguments with
  | none => session.failsAs "mapfile: invalid option" 2
  | some (options, names) =>
    let t := rawOf session.input
    let lines := t.splitBy fun c _ => c ≠ '\n'
    let lines := match options.value? 'n' with
      | some count => lines.take (Text.natOfDigits count)
      | none => lines
    let values := lines.map fun line =>
      let line := if options.has 't' ∧ line.getLast? = some '\n' then line.dropLast else line
      (Text.ofBytes? (bytesOf line)).getD line
    let left := bytesOf (t.drop lines.flatten.length)
    ({ session with input := left }.assignList (names.headD "MAPFILE".toList) false values).ended 0

/-- The answer of `test` under one of its names. -/
def answers (session : Session) (name : Text) (words : List Text) : Session :=
  match Condition.holds session.informant words with
  | .ok answer => session.ended (if answer then 0 else 1)
  | .error fault =>
    let words := if session.large then fault.largeMessage words else fault.message
    session.failsAs (name ++ ": " ++ words) 2

/-- The answer of `test` where the last word has to be a bracket. -/
def answersInBrackets (session : Session) (words : List Text) : Session :=
  if words.getLast? = some [']'] then session.answers ['['] words.dropLast
  else session.failsAs (if session.large then "[: missing \x60]'" else "[: missing ]") 2

/-- Ends a script or a function with a status, which has to be a number. -/
def leave (session : Session) (course : Course) (arguments : List Text) : Course × Session :=
  if (arguments.headD ['0']).all Char.isDigit ∧ arguments.head? ≠ some [] then
    let status := numberOr session.status arguments
    (course, session.ended (if course = .exits then status % 256 else status))
  else
    let command : Text := if course = .exits then "exit" else "return"
    (.exits, session.failsAs (command ++ ": Illegal number: " ++ arguments.headD []) 2)

/-- Leaves loops or goes on with their next pass; outside a loop that means nothing. -/
def leaveLoops (session : Session) (command : Text) (course : Nat → Course)
    (arguments : List Text) : Course × Session :=
  let count := min (numberOr 1 arguments) session.loops
  if (arguments.headD ['1']).all Char.isDigit ∧ numberOr 1 arguments ≠ 0 then
    (if count = 0 then .goesOn else course count, session.ended 0)
  else (.exits, session.failsAs (command ++ ": Illegal number: " ++ arguments.headD []) 2)

/-- The scripts that were noted for the end and for signals, as they are noted again. -/
def trapsListed (session : Session) : Text :=
  let last := if session.farewell.isEmpty then [] else [(0, session.farewell)]
  let all := (last ++ session.traps).mergeSort fun a b => decide (a.1 ≤ b.1)
  (all.map fun (signal, script) =>
    let name := if session.large ∧ 0 < signal then "SIG" ++ Signal.name signal
      else Signal.name signal
    "trap -- " ++ singleQuoted script ++ " " ++ name ++ "\n").flatten

/-- Notes what is to be run in the end, or when a signal comes. -/
def setTraps (session : Session) (arguments : List Text) : Session :=
  let arguments := if arguments.head? = some "--".toList then arguments.tail else arguments
  let number? := Signal.number? session.large
  let (script, signals) := match arguments with
    | [] => ([], [])
    | [signal] => (['-'], [signal])
    | script :: signals =>
      if (number? script).isSome then (['-'], script :: signals) else (script, signals)
  if arguments.isEmpty then session.utters (raw session.trapsListed)
  else signals.foldl (fun session signal =>
    match number? signal with
    | none =>
      let session := session.complains ("trap: " ++ signal ++ ": bad trap")
      session.ended 1
    | some 0 => { session with farewell := if script = ['-'] then [] else script }
    | some signal =>
      let others := session.traps.filter (·.1 ≠ signal)
      { session with traps := if script = ['-'] then others else (signal, script) :: others })
    (session.ended 0)

/-- What may not be done with new files, by letters. -/
def maskLetters (mask : Nat) : Text :=
  let rights (digit : Nat) : Text :=
    (if digit / 4 % 2 = 0 then ['r'] else []) ++ (if digit / 2 % 2 = 0 then ['w'] else []) ++
      if digit % 2 = 0 then ['x'] else []
  "u=" ++ rights (mask / 64 % 8) ++ ",g=" ++ rights (mask / 8 % 8) ++ ",o=" ++ rights (mask % 8)

/-- Tells or sets what may not be done with new files. -/
def setMask (session : Session) (arguments : List Text) : Session :=
  match arguments with
  | [] =>
    let digits := Nat.toDigits 8 session.disk.mask
    session.utters (List.replicate (4 - digits.length) '0' ++ digits ++ ['\n'])
  | [['-', 'S']] => session.utters (maskLetters session.disk.mask ++ ['\n'])
  | mode :: _ =>
    let masked (mask : Nat) : Session := { session with disk := { session.disk with mask } }.ended 0
    if mode.all isOctal then masked (ofDigits 8 mode % 512)
    else match FileTool.Mode.ofText? mode with
      | some chosen =>
        masked (511 ^^^ (511 &&& chosen.applied 0 false (511 ^^^ session.disk.mask)))
      | none =>
        if (mode.headD ' ').isDigit then session.failsAs ("umask: Illegal number: " ++ mode) 2
        else session.failsAs ("umask: Illegal mode: " ++ mode) 2

/-- Tells or sets the words that stand for others. -/
def setAliases (session : Session) (arguments : List Text) : Session :=
  let told (session : Session) (name value : Text) : Session :=
    let start : Text := if session.large then "alias " else []
    session.print 1 (raw (start ++ name ++ ['='] ++ singleQuoted value ++ ['\n']))
  if arguments.isEmpty then
    (if session.large then session.aliases.mergeSort fun a b => decide (¬ b.1 < a.1)
      else session.aliases.reverse.mergeSort fun a b =>
        decide (smallBucketOf a.1 ≤ smallBucketOf b.1)).foldl
      (fun session (name, value) => told session name value) (session.ended 0)
  else arguments.foldl (fun session argument =>
    match Text.cutAt? '=' argument with
    | some (name, value) =>
      { session with aliases := (name, value) :: session.aliases.filter (·.1 ≠ name) }
    | none =>
      match session.aliases.lookup argument with
      | some value => told session argument value
      | none =>
        let session := session.complains ("alias: " ++ argument ++ " not found")
        session.ended 1) (session.ended 0)

/-- Lets words stand for themselves again. -/
def forgetAliases (session : Session) (arguments : List Text) : Session :=
  if arguments = ["-a".toList] then { session with aliases := [] }.ended 0
  else arguments.foldl (fun session name =>
    if (session.aliases.lookup name).isSome then
      { session with aliases := session.aliases.filter (·.1 ≠ name) }
    else
      let session := session.complains ("unalias: " ++ name ++ " not found")
      session.ended 1) (session.ended 0)

/-- Drops parameters from the front; there have to be so many. -/
def shift (session : Session) (arguments : List Text) : Course × Session :=
  let count := numberOr 1 arguments
  if !(arguments.headD ['1']).all Char.isDigit then
    (.exits, session.failsAs ("shift: Illegal number: " ++ arguments.headD []) 2)
  else if session.arguments.length < count then
    (.exits, session.failsAs "shift: can't shift that many" 2)
  else (.goesOn, ({ session with arguments := session.arguments.drop count }).ended 0)

/-- The parameters that are read for options, the next of them, and the option at hand in it. -/
def optionAt (session : Session) (arguments : List Text) : Nat × Option (Char × Text) :=
  let index := match session.bindings.lookup ("OPTIND" : Text) with
    | some t => Text.natOfDigits t
    | none => 1
  let letter := if index = 1 ∧ session.letter = 0 then 0 else session.letter
  match arguments[index - 1]? with
  | some ('-' :: c :: rest) =>
    if c = '-' ∧ rest.isEmpty then (index + 1, none)
    else match (c :: rest).drop letter with
      | c :: rest => (index, some (c, rest))
      | [] => (index, none)
  | _ => (index, none)

/-- Reads the next option among some words. A colon in the list of letters stands behind an option
that has a value; one in front means that nothing is said about bad options. -/
def nextOption (session : Session) (letters name : Text) (words : List Text) : Session :=
  let silent := letters.head? = some ':'
  let (index, found) := session.optionAt words
  let moved (session : Session) (index letter : Nat) : Session :=
    { session.assign "OPTIND" (Text.ofNat index) with letter }
  let without (session : Session) : Session := session.forgetVariables ["OPTARG"]
  match found with
  | none => ((moved session index 0).assign name ['?']).ended 1
  | some (c, rest) =>
    let ahead (session : Session) : Session :=
      if rest.isEmpty then moved session (index + 1) 0 else moved session index (session.letter + 1)
    let bad (session : Session) (mark : Char) : Session :=
      let words : Text := if mark = ':' then "No arg for -" ++ [c] ++ " option"
        else "Illegal option -" ++ [c]
      (if silent then (session.assign "OPTARG" [c]).assign name [mark]
        else ((without session).assign name ['?']).complains words).ended 0
    match (letters.dropWhile fun letter => letter != c || letter == ':') with
    | [] => bad (ahead session) '?'
    | _ :: ':' :: _ =>
      if !rest.isEmpty then
        (((moved session (index + 1) 0).assign "OPTARG" rest).assign name [c]).ended 0
      else match words[index]? with
        | some value =>
          (((moved session (index + 2) 0).assign "OPTARG" value).assign name [c]).ended 0
        | none => bad (moved session (index + 1) 0) ':'
    | _ => ((without (ahead session)).assign name [c]).ended 0

end Session

end Agenda.Shell
