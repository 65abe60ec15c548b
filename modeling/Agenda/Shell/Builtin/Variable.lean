import Agenda.Shell.Reshape
import Agenda.Shell.Session

/-!
# Variables of scripts

The commands of the shell that give variables values, tell other processes of them, make them keep
their values or forget them, and that list them.
-/

namespace Agenda.Shell

def doubleQuoted (t : Text) : Text :=
  '\x22' :: t.flatMap (fun c => if "\\\x22$\x60".toList.contains c then ['\\', c] else [c]) ++ ['\x22']

/-- A value as the larger language lists it: between quotes only where it needs them. -/
def listedValue (t : Text) : Text :=
  let isPlain (c : Char) : Bool := c.isAlphanum || 0x80 ≤ c.toNat || "_-./:=@%+,".toList.contains c
  if t.all isPlain then t else quotedAlways t

namespace Session

def isName (t : Text) : Bool :=
  !t.isEmpty && t.all isNameChar && !(t.headD '0').isDigit

/-- Gives a variable a value on behalf of a command. -/
def assignFor (session : Session) (command name value : Text) : Session :=
  { { session with caller := command }.assign name value with caller := session.caller }

/-- The name in front of a value that an argument writes. -/
def nameOf (argument : Text) : Text := argument.takeWhile (· ≠ '=')

def inOrder (names : List Text) : List Text :=
  (names.mergeSort fun a b => decide (¬ b < a)).eraseDups

/-- The names of the variables that are bound, without those of elements of lists. -/
def boundNames (session : Session) : List Text :=
  session.bindings.map fun (name, _) => name.takeWhile (· ≠ '[')

/-- The value of a variable as the larger language declares it, with the letters for what it is. -/
def declared (session : Session) (name : Text) : Text × Text :=
  let elements := session.elements name
  let isList := (session.bindings.lookup name).isNone && !elements.isEmpty
  let isMap := session.maps.contains name
  let inside := elements.map fun (key, value) =>
    '[' :: (if isMap then listedValue key else key) ++ "]=".toList ++ doubleQuoted value
  let forms := (session.forms.filter (·.1 = name)).map (·.2)
  let letters := (if isMap then ['A'] else if isList then ['a'] else []) ++
    (if forms.contains 'i' then ['i'] else []) ++
    (if (session.references.lookup name).isSome then ['n'] else []) ++
    (if session.constants.contains name then ['r'] else []) ++
    (if session.exported.contains name then ['x'] else []) ++ forms.filter (· ≠ 'i')
  let value : Text :=
    if isMap then "=(".toList ++ inside.flatMap (· ++ [' ']) ++ [')']
    else if isList then "=(".toList ++ Text.join " " inside ++ [')']
    else match (session.references.lookup name).or (session.parameter? name) with
      | some value => '=' :: doubleQuoted value
      | none => []
  (letters, value)

/-- A line that declares a variable in the larger language. -/
def declaration (session : Session) (name : Text) : Text :=
  let (letters, value) := session.declared name
  "declare -" ++ (if letters.isEmpty then ['-'] else letters) ++ ' ' :: name ++ value ++ ['\n']

/-- Lists some variables as a command that makes them what they are. -/
def listsAs (session : Session) (command : Text) (names : List Text) : Session :=
  session.utters (raw ((inOrder names).flatMap fun name =>
    if session.large then session.declaration name
    else command ++ ' ' :: name ++ (match session.parameter? name with
      | some value => '=' :: singleQuoted value
      | none => []) ++ ['\n']))

def listsAll (session : Session) : Session :=
  let names := inOrder ("PPID" :: session.boundNames)
  session.utters (raw (names.flatMap fun name =>
    name ++ '=' :: (if session.large then
        match session.declared name with
        | (letters, value) =>
          if letters.any "aA".toList.contains then value.drop 1
          else listedValue ((session.parameter? name).getD [])
      else singleQuoted ((session.parameter? name).getD [])) ++ ['\n']))

/-- Gives variables the values that some arguments write. -/
def assignAll (session : Session) (arguments : List Text) : Session :=
  (arguments.foldl (fun session argument =>
    match Text.cutAt? '=' argument with
    | some (name, value) => session.assign name value
    | none => session) session).ended 0

/-- Gives variables values on behalf of a command; arguments that write no variable end the script.
-/
def declare (session : Session) (command : Text) (operands : List Text) : Course × Session :=
  match operands.find? fun argument => !isName (nameOf argument) with
  | none =>
    let after := { session with caller := command }.assignAll operands
    (if after.stopped && !session.large then .exits else .goesOn,
      { after with caller := session.caller })
  | some argument =>
    if session.large then
      (.goesOn, session.failsAs (command ++ ": \x60" ++ argument ++ "': not a valid identifier") 1)
    else (.exits, session.failsAs (command ++ ": " ++ nameOf argument ++ ": bad variable name") 2)

/-- Makes names a function's own: what is bound to them now is bound to them again behind it. In the
larger language nothing is bound to them at first. -/
def owns (session : Session) (names : List Text) : Session :=
  match session.own with
  | none => session
  | some own =>
    let isNew (name : Text) : Bool := (own.lookup name).isNone
    let saved := (names.filter isNew).map fun name => (name, session.boundTo name)
    let session := { session with own := some (saved ++ own) }
    if session.large then (names.filter isNew).foldl unbound session else session

def listsFunctions (session : Session) (operands : List Text) : Session :=
  let isThere (name : Text) : Bool := (session.functions.lookup name).isSome
  if operands.isEmpty then
    session.utters (raw ((inOrder (session.functions.map (·.1))).flatMap fun name =>
      "declare -f " ++ name ++ "\n"))
  else operands.foldl (fun session name =>
    if isThere name then session.print 1 (raw (name ++ "\n")) else session.ended 1)
    (session.ended 0)

/-- Gives variables values in the larger language; some options say what they are and what is done
with their values, or that they keep their values, or that other processes are told of them; and
others, that they or the functions are only listed. -/
def declareAs (session : Session) (command : Text) (arguments : List Text) : Course × Session :=
  match lettersOf "aAfFgiIlnprtux" arguments with
  | .error letter =>
    (.goesOn, session.refusesOption command
      (command ++ " [-aAfFgiIlnrtux] [name[=value] ...] or " ++ command ++
        " -p [-aAfFilnrtux] [name ...]") letter)
  | .ok (letters, operands) =>
    if letters.contains 'F' then (.goesOn, session.listsFunctions operands)
    else if letters.contains 'p' then
      let chosen (name : Text) : Bool :=
        letters.all fun letter => letter = 'p' || (session.declared name).1.contains letter
      if operands.isEmpty then
        (.goesOn, session.listsAs command (session.boundNames.filter chosen))
      else
        (.goesOn, operands.foldl (fun session name =>
          if session.boundNames.contains name || session.constants.contains name then
            session.print 1 (raw (session.declaration name))
          else session.failsAs (command ++ ": " ++ name ++ ": not found") 1) (session.ended 0))
    else
      let names := operands.map nameOf
      let session := if letters.contains 'g' then session else session.owns names
      let isReference := letters.contains 'n'
      let forms := names.flatMap fun name =>
        ("iul".toList.filter letters.contains).map (name, ·)
      let session := { session with
        forms := forms ++ session.forms
        references := (if isReference then operands.filterMap (Text.cutAt? '=') else []) ++
          session.references }
      let (course, after) :=
        if isReference then (.goesOn, session.ended 0) else session.declare command operands
      (course, { after with
        maps := if letters.contains 'A' then names ++ after.maps else after.maps
        constants := if letters.contains 'r' then names ++ after.constants else after.constants
        exported := if letters.contains 'x' then names ++ after.exported else after.exported })

/-- Refuses an option of a command without which the smaller language cannot go on. -/
def refusesOptionOf (session : Session) (command usage : Text) (letter : Char) : Course × Session :=
  (if session.large then .goesOn else .exits, session.refusesOption command usage letter)

/-- Tells other processes of variables, or prints which ones they are told of. -/
def exports (session : Session) (arguments : List Text) : Course × Session :=
  match lettersOf (if session.large then "fnp" else ['p']) arguments with
  | .error letter =>
    session.refusesOptionOf "export" "export [-fn] [name[=value] ...] or export -p" letter
  | .ok (letters, operands) =>
    let names := operands.map nameOf
    if letters.contains 'f' then (.goesOn, session.ended 0)
    else if letters.contains 'p' ∨ operands.isEmpty then
      (.goesOn, session.listsAs "export" session.exported)
    else
      let (course, session) := session.declare "export" operands
      (course, { session with
        exported := if letters.contains 'n' then session.exported.filter (!names.contains ·)
          else names ++ session.exported })

/-- Makes variables keep their values, or those that some arguments write. -/
def makeConstant (session : Session) (arguments : List Text) : Course × Session :=
  match lettersOf (if session.large then "aAfp" else ['p']) arguments with
  | .error letter =>
    session.refusesOptionOf "readonly" "readonly [-aAf] [name[=value] ...] or readonly -p" letter
  | .ok (letters, operands) =>
    if letters.contains 'p' ∨ operands.isEmpty then
      (.goesOn, session.listsAs "readonly" session.constants)
    else
      let (course, session) := session.declare "readonly" operands
      (course, { session with constants := operands.map nameOf ++ session.constants })

/-- Makes variables a function's own, with the values that some arguments write. -/
def makeOwn (session : Session) (arguments : List Text) : Course × Session :=
  match session.own.isSome with
  | false =>
    if session.large then (.goesOn, session.failsAs "local: can only be used in a function" 1)
    else (.exits, session.failsAs "local: not in a function" 2)
  | true =>
    if session.large then session.declareAs "local" arguments
    else
      let arguments := arguments.filter (· ≠ ['-'])
      (session.owns (arguments.map nameOf)).declare "local" arguments

/-- A session behind a function as far as the variables are concerned that were the function's own:
they are again what they were before it. -/
def giveBack (session before : Session) : Session :=
  let names := (session.own.getD []).map (·.1)
  let kept {α : Type} (old new : List α) (name : α → Text) : List α :=
    old.filter (fun one => names.contains (name one)) ++
      new.filter fun one => !names.contains (name one)
  let session := (session.own.getD []).foldl (fun session (name, bound) =>
    { session with bindings := bound ++ (session.unbound name).bindings }) session
  { session with
    maps := kept before.maps session.maps id
    forms := kept before.forms session.forms (·.1)
    references := kept before.references session.references (·.1) }

def forgetFunctions (session : Session) (names : List Text) : Session :=
  { session with functions := session.functions.filter fun (name, _) => !names.contains name }

def forgetVariables (session : Session) (names : List Text) : Session :=
  { names.foldl unbound session with
    exported := session.exported.filter fun name => !names.contains name
    maps := session.maps.filter fun name => !names.contains name
    forms := session.forms.filter fun form => !names.contains form.1 }

/-- The name of what is to be forgotten, with the index of an element as it is known. -/
def forgotten (session : Session) (argument : Text) : Text :=
  let name := session.target argument
  match indexed? name with
  | some (list, index) =>
    if session.maps.contains list then name
    else match Sum.evaluate true session.numberOf index with
      | .ok (n, _) => elementName list (session.keyAt list n)
      | .error _ => name
  | none => name

/-- Forgets variables, or functions. Variables that keep their values are not forgotten. -/
def forget (session : Session) (arguments : List Text) : Course × Session :=
  match lettersOf (if session.large then "fnv" else "fv") arguments with
  | .error letter => session.refusesOptionOf "unset" "unset [-f] [-v] [-n] [name ...]" letter
  | .ok (letters, names) =>
    if letters.getLast? = some 'f' then (.goesOn, (session.forgetFunctions names).ended 0)
    else if letters.contains 'n' then
      let left := session.references.filter fun reference => !names.contains reference.1
      (.goesOn, { session with references := left }.ended 0)
    else
      let isKept (name : Text) : Bool := session.constants.contains name
      if session.large then
        let functions := names.filter fun name =>
          !letters.contains 'v' && (session.boundTo (session.target name)).isEmpty
        let left := (session.forgetVariables
          ((names.filter (!isKept ·)).map session.forgotten)).forgetFunctions functions
        match names.find? isKept with
        | none => (.goesOn, left.ended 0)
        | some name =>
          (.goesOn, left.failsAs ("unset: " ++ name ++ ": cannot unset: readonly variable") 1)
      else
        match names.find? fun argument => !isName argument || isKept argument with
        | none => (.goesOn, (session.forgetVariables names).ended 0)
        | some argument =>
          (.exits, session.failsAs ("unset: " ++ argument ++
            (if isName argument then ": is read only" else ": bad variable name")) 2)

end Session

end Agenda.Shell
