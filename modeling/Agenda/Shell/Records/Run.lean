import Agenda.Shell.Records.Reader
import Agenda.Shell.Records.State

/-!
# Running record scripts

What a record script does with what it reads. Every call is given some fuel, which is the depth to
which steps and formulas may call others; a script that needs more is cut short.
-/

namespace Agenda.Shell.Records

/-- How a step ended, as far as those behind it are concerned. -/
inductive Flow
  | goesOn
  | next
  | exits
  | breaks
  | continues
  | gives (value : Value)

/-- What is left of a division, with the sign of the dividend. -/
def remainder (x y : Float) : Float :=
  if x.isNaN || y.isNaN || x.isInf || y == 0 then 0 / 0
  else if y.isInf then x
  else
    let (m, mPlaces) := decimalOf x
    let (n, nPlaces) := decimalOf y
    let left := (m * powerOfTen nPlaces) % (n * powerOfTen mPlaces)
    let size := Float.ofScientific left true (mPlaces + nPlaces)
    if x < 0 then -size else size

def calculate? (format sign : Text) (a b : Value) : Option Value :=
  let x := a.toNumber
  let y := b.toNumber
  let compared (numbers : Float → Float → Bool) (texts : Text → Text → Bool) : Option Value :=
    some (.ofBool (Value.holds numbers texts format a b))
  match sign with
  | [] => some (.text (a.toText format ++ b.toText format))
  | ['+'] => some (.number (x + y))
  | ['-'] => some (.number (x - y))
  | ['*'] => some (.number (x * y))
  | ['/'] => some (.number (x / y))
  | ['%'] => some (.number (remainder x y))
  | ['^'] => some (.number (Float.pow x y))
  | ['<'] => compared (fun x y => x < y) fun s t => s < t
  | ['<', '='] => compared (fun x y => x ≤ y) fun s t => !(t < s)
  | ['=', '='] => compared (· == ·) (· == ·)
  | ['!', '='] => compared (· != ·) (· != ·)
  | ['>'] => compared (fun x y => y < x) fun s t => t < s
  | ['>', '='] => compared (fun x y => y ≤ x) fun s t => !(s < t)
  | _ => none

/-- What a function of one number makes of it. -/
def functionOf? (name : Text) : Option (Float → Float) :=
  let table : List (Text × (Float → Float)) := [("exp", Float.exp), ("log", Float.log),
    ("sin", Float.sin), ("cos", Float.cos), ("sqrt", Float.sqrt),
    ("int", fun x => if x < 0 then Float.ceil x else Float.floor x)]
  table.lookup name

/-- The part of a text from a place on, counted from one, with a length. Both are cut down to
integers first; a part that would start before the text starts with it and is longer by as much. -/
def partAt (t : Text) (start : Int) (length : Option Int) : Text :=
  let rest := t.drop (start.toNat - 1)
  match length with
  | none => rest
  | some length => rest.take (if start < 1 then length - start else length).toNat

/-- The place of a text in another one, counted from one; zero if it is not there. -/
def placeIn (part : Text) : Nat → Text → Nat
  | n, [] => if part.isEmpty then n else 0
  | n, c :: rest => if Text.startsWith part (c :: rest) then n else placeIn part (n + 1) rest

/-- What takes the place of matches, with the backslashes that replacements need. -/
def replacementText : Text → Text
  | '\\' :: '&' :: rest => '\\' :: '&' :: replacementText rest
  | '\\' :: '\\' :: rest => '\\' :: '\\' :: replacementText rest
  | '\\' :: rest => '\\' :: '\\' :: replacementText rest
  | c :: rest => c :: replacementText rest
  | [] => []

def isFound (pattern t : Text) : Bool := (expressionOf? pattern).any fun e => e.occurs false t

/-- A script that is run, and what it can do in the world around it. -/
structure Context (ω : Type) where
  script : Script
  world : World ω

variable {ω : Type}

mutual

def value (context : Context ω) : Nat → Formula → State ω → Value × State ω
  | 0, _, state => (.unset, state)
  | fuel + 1, formula, state =>
    match formula with
    | .number x => (.number x, state)
    | .text t => (.text t, state)
    | .pattern t => (.ofBool (isFound t state.record), state)
    | .name name => (state.variableAt name, state)
    | .element list index =>
      let ((key, counted), state) := keyOf context fuel index state
      let (found, elements) := Element.find? key counted (state.list list)
      match found with
      | some found => (found, state.setList list elements)
      | none => (.unset, state.setList list (Element.put key counted .unset elements))
    | .field index =>
      let (n, state) := value context fuel index state
      if n.toInt < 0 then (.unset, { state with broken := true })
      else (state.field n.toInt, state)
    | .assign sign place inside =>
      let (new, state) := value context fuel inside state
      if sign.isEmpty then
        (new, store context fuel place new state)
      else
        let (old, state) := value context fuel place state
        match calculate? (state.setting "CONVFMT") sign old new with
        | some made => (made, store context fuel place made state)
        | none => (.unset, { state with broken := true })
    | .choice condition yes no =>
      let (answer, state) := value context fuel condition state
      value context fuel (if answer.isTrue then yes else no) state
    | .both first second =>
      let (answer, state) := value context fuel first state
      if answer.isTrue then
        let (answer, state) := value context fuel second state
        (.ofBool answer.isTrue, state)
      else (.ofBool false, state)
    | .either first second =>
      let (answer, state) := value context fuel first state
      if answer.isTrue then (.ofBool true, state)
      else
        let (answer, state) := value context fuel second state
        (.ofBool answer.isTrue, state)
    | .binary sign first second =>
      let (a, state) := value context fuel first state
      let (b, state) := value context fuel second state
      match calculate? (state.setting "CONVFMT") sign a b with
      | some made => (made, state)
      | none => (.unset, { state with broken := true })
    | .fits negated subject pattern =>
      let (t, state) := value context fuel subject state
      let (pattern, state) := patternOf context fuel pattern state
      (.ofBool (isFound pattern (state.textOf t) != negated), state)
    | .holds index list =>
      let ((key, counted), state) := keyOf context fuel index state
      let (found, elements) := Element.find? key counted (state.list list)
      (.ofBool found.isSome, if found.isSome then state.setList list elements else state)
    | .not inside =>
      let (answer, state) := value context fuel inside state
      (.ofBool !answer.isTrue, state)
    | .negative inside =>
      let (n, state) := value context fuel inside state
      (.number (-n.toNumber), state)
    | .plain inside =>
      let (n, state) := value context fuel inside state
      (.number n.toNumber, state)
    | .group inside => value context fuel inside state
    | .count before up place =>
      let (old, state) := value context fuel place state
      let made := Value.number (if up then old.toNumber + 1 else old.toNumber - 1)
      (if before then made else .number old.toNumber, store context fuel place made state)
    | .call name arguments => call context fuel name arguments state
    | .readLine place source => readLine context fuel place source state

def readLine (context : Context ω) :
    Nat → Option Formula → Source Formula → State ω → Value × State ω
  | 0, _, _, state => (.unset, state)
  | fuel + 1, place, source, state =>
    let taken (record : Text) (state : State ω) : Value × State ω :=
      match place with
      | some place => (.number 1, store context fuel place (.given record) state)
      | none => (.number 1, state.withRecord record)
    let other (isCommand : Bool) (formula : Formula) : Value × State ω :=
      let (name, state) := value context fuel formula state
      let (found, state) := state.nextOf context.world (state.textOf name) isCommand
      match found with
      | none => (.number (-1), state)
      | some [] => (.number 0, state)
      | some (record :: _) =>
        taken record (if isCommand then state.countUp "NR" else state)
    match source with
    | .records =>
      match state.next? context.world with
      | some (record, state) => taken record state
      | none => (.number 0, { state with sources := [], waiting := [] })
    | .file path => other false path
    | .command script => other true script

def values (context : Context ω) : Nat → List Formula → State ω → List Value × State ω
  | 0, _, state => ([], state)
  | fuel + 1, formulas, state =>
    formulas.foldl (fun (found, state) formula =>
      let (more, state) := value context fuel formula state
      (found ++ [more], state)) ([], state)

/-- The text under which an element is kept, and whether it is that of a number. -/
def keyOf (context : Context ω) : Nat → List Formula → State ω → (Text × Bool) × State ω
  | 0, _, state => (([], false), state)
  | fuel + 1, index, state =>
    let (found, state) := values context fuel index state
    match found with
    | [value] => (state.keyOf value, state)
    | found => ((Text.join (state.setting "SUBSEP") (found.map state.textOf), false), state)

def patternOf (context : Context ω) : Nat → Formula → State ω → Text × State ω
  | 0, _, state => ([], state)
  | fuel + 1, formula, state =>
    match formula with
    | .pattern t => (t, state)
    | formula =>
      let (found, state) := value context fuel formula state
      let pattern := state.textOf found
      (pattern, if (expressionOf? pattern).isNone then { state with broken := true } else state)

def store (context : Context ω) : Nat → Formula → Value → State ω → State ω
  | 0, _, _, state => state
  | fuel + 1, place, new, state =>
    match place with
    | .name name => state.setVariable name new
    | .element list index =>
      let ((key, counted), state) := keyOf context fuel index state
      let (_, elements) := Element.find? key counted (state.list list)
      state.setList list (Element.put key counted new elements)
    | .field index =>
      let (n, state) := value context fuel index state
      if n.toInt < 0 then { state with broken := true } else state.setField n.toInt new
    | .group place => store context fuel place new state
    | _ => state

/-- Replaces matches in a place, and counts them. -/
def replace (context : Context ω) : Nat → (everywhere : Bool) → (pattern : Text) → (new : Text) →
    Formula → State ω → Value × State ω
  | 0, _, _, _, _, state => (.unset, state)
  | fuel + 1, everywhere, pattern, new, place, state =>
    let (old, state) := value context fuel place state
    let t := state.textOf old
    match expressionOf? pattern with
    | none => (.number 0, state)
    | some e =>
      let (made, found) :=
        Replacement.apply ⟨e, false, replacementText new, 1, everywhere⟩ t
      if found then
        let count := if everywhere then (e.matches? false (t.length + 1) none t).length else 1
        (.ofNat (max count 1), store context fuel place (.given made) state)
      else (.number 0, state)

def call (context : Context ω) : Nat → Text → List Formula → State ω → Value × State ω
  | 0, _, _, state => (.unset, state)
  | fuel + 1, name, arguments, state =>
    let isCalled (word : String) : Bool := name = word.toList
    let argument (n : Nat) (default : Formula) : Formula := arguments.getD n default
    let whole : Formula := .field (.number 0)
    if isCalled "length" then
      match arguments with
      | [.name list] =>
        if (state.lists.lookup (state.listName list)).isSome then
          (.ofNat (state.list list).length, state)
        else (.ofNat (state.textOf (state.variableAt list)).length, state)
      | arguments =>
        let (t, state) := value context fuel (arguments.headD whole) state
        (.ofNat (state.textOf t).length, state)
    else if isCalled "split" then
      let (t, state) := value context fuel (argument 0 whole) state
      let (separator, state) : Separator × State ω := match arguments.drop 2 with
        | .pattern t :: _ => (.ofPattern t, state)
        | separator :: _ =>
          let (found, state) := value context fuel separator state
          (.ofText (state.textOf found), state)
        | [] => (.ofText (state.setting "FS"), state)
      let parts := separator.parts (state.textOf t)
      let elements := parts.zipIdx.map fun (part, n) =>
        (⟨Text.ofNat (n + 1), true, Value.given part⟩ : Element)
      match argument 1 whole with
      | .name list => (.ofNat parts.length, state.setList list elements)
      | _ => (.ofNat parts.length, state)
    else if isCalled "sub" || isCalled "gsub" then
      let (pattern, state) := patternOf context fuel (argument 0 whole) state
      let (new, state) := value context fuel (argument 1 whole) state
      replace context fuel (isCalled "gsub") pattern (state.textOf new) (argument 2 whole) state
    else if isCalled "match" then
      let (t, state) := value context fuel (argument 0 whole) state
      let (pattern, state) := patternOf context fuel (argument 1 whole) state
      let (start, length) : Value × Value :=
        match (expressionOf? pattern).bind fun e => e.find? false none (state.textOf t) with
        | some found => (.ofNat (found.skipped.length + 1), .ofNat found.found.length)
        | none => (.number 0, .number (-1))
      (start, (state.setVariable "RSTART" start).setVariable "RLENGTH" length)
    else match context.script.functions.lookup name with
      | some function =>
        let depth := state.calls + 1
        let (bound, aliases, inner) :=
          (function.parameters.zipIdx).foldl (fun (bound, aliases, state) (parameter, n) =>
            match arguments[n]? with
            | some (.name list) =>
              (bound ++ [(parameter, state.variableAt list)],
                aliases ++ [(parameter, state.listName list)], state)
            | some formula =>
              let (found, state) := value context fuel formula state
              (bound ++ [(parameter, found)], aliases, state)
            | none =>
              (bound ++ [(parameter, Value.unset)],
                aliases ++ [(parameter, '#' :: Text.ofNat depth ++ parameter)], state))
            (([] : List (Text × Value)), ([] : List (Text × Text)), state)
        let (flow, after) := run context fuel function.body
          { inner with locals := bound, aliases, calls := depth }
        let after := { after with locals := state.locals, aliases := state.aliases }
        match flow with
        | .gives found => (found, after)
        | .exits => (.unset, { after with exiting := true })
        | _ => (.unset, after)
      | none =>
        let (found, state) := values context fuel arguments state
        let first := (found.headD .unset)
        let second := found.getD 1 .unset
        let t := state.textOf first
        if let some function := functionOf? name then
          (.number (function first.toNumber), state)
        else if isCalled "atan2" then
          (.number (Float.atan2 first.toNumber second.toNumber), state)
        else if isCalled "substr" then
          let length := found[2]?.map fun length => truncated length.toNumber
          (.text (partAt t (truncated second.toNumber) length), state)
        else if isCalled "index" then (.ofNat (placeIn (state.textOf second) 1 t), state)
        else if isCalled "sprintf" then
          let (t, well) := formatFrom (state.setting "CONVFMT") 0 t found.tail
          (.text t, { state with broken := state.broken || !well })
        else if isCalled "tolower" then (.text (t.map Char.toLower), state)
        else if isCalled "toupper" then (.text (t.map Char.toUpper), state)
        else if isCalled "system" then
          let state := state.flush context.world
          let (after, status) := context.world.run state.world none t
          (.ofNat status, { state with world := after })
        else if isCalled "close" then
          let (status, state) := state.close context.world t
          (.number (Float.ofInt status), state)
        else if isCalled "fflush" then (.number 0, state.flush context.world)
        else if isCalled "srand" then
          let old := state.seed
          (old, { state with seed := if found.isEmpty then .unset else first })
        else (.unset, { state with broken := true })

def run (context : Context ω) : Nat → Step → State ω → Flow × State ω
  | 0, _, state => (.exits, state)
  | fuel + 1, step, state =>
    let checked (flow : Flow) (state : State ω) : Flow × State ω :=
      if state.broken || state.exiting then (.exits, state) else (flow, state)
    match step with
    | .nothing => (.goesOn, state)
    | .evaluate formula => checked .goesOn (value context fuel formula state).2
    | .print formulas goal =>
      let (found, state) := if formulas.isEmpty then ([.given state.record], state)
        else values context fuel formulas state
      let texts := found.map (Value.toText (state.setting "OFMT"))
      let t := Text.join (state.setting "OFS") texts ++ state.setting "ORS"
      let (outlet, state) := outletOf context fuel goal state
      if state.broken then (.exits, state)
      else checked .goesOn (state.print context.world outlet t)
    | .format formulas goal =>
      let (found, state) := values context fuel formulas state
      let (t, well) :=
        formatFrom (state.setting "CONVFMT") 0 (state.textOf (found.headD .unset)) found.tail
      let (outlet, state) := outletOf context fuel goal state
      if state.broken then (.exits, state)
      else checked .goesOn { state.print context.world outlet t with broken := !well }
    | .sequence first second =>
      match run context fuel first state with
      | (.goesOn, state) => run context fuel second state
      | ended => ended
    | .branch condition yes no =>
      let (answer, state) := value context fuel condition state
      match checked .goesOn state with
      | (.goesOn, state) => run context fuel (if answer.isTrue then yes else no) state
      | ended => ended
    | .loop condition body behind =>
      let (answer, state) := value context fuel condition state
      match checked .goesOn state with
      | (.goesOn, state) =>
        if answer.isTrue then
          match run context fuel body state with
          | (.goesOn, state) | (.continues, state) =>
            match run context fuel behind state with
            | (.goesOn, state) => run context fuel (.loop condition body behind) state
            | ended => ended
          | (.breaks, state) => (.goesOn, state)
          | ended => ended
        else (.goesOn, state)
      | ended => ended
    | .each name list body =>
      runEach context fuel name (Element.keys (state.list list)) body
        (state.setList list (Element.settled (state.list list)))
    | .delete list none => (.goesOn, state.setList list [])
    | .delete list (some index) =>
      let ((key, _), state) := keyOf context fuel index state
      (.goesOn, state.setList list ((state.list list).filter (·.key ≠ key)))
    | .next => (.next, state)
    | .nextFile => (.next, { state with waiting := [] })
    | .exit none => (.exits, state)
    | .exit (some status) =>
      let (n, state) := value context fuel status state
      (.exits, { state with status := (n.toInt % 256).toNat })
    | .breaks => (.breaks, state)
    | .continues => (.continues, state)
    | .gives none => (.gives .unset, state)
    | .gives (some formula) =>
      let (found, state) := value context fuel formula state
      checked (.gives found) state

def runEach (context : Context ω) : Nat → Text → List Text → Step → State ω → Flow × State ω
  | 0, _, _, _, state => (.goesOn, state)
  | _ + 1, _, [], _, state => (.goesOn, state)
  | fuel + 1, name, key :: keys, body, state =>
    match run context fuel body (state.setVariable name (.text key)) with
    | (.goesOn, state) | (.continues, state) => runEach context fuel name keys body state
    | (.breaks, state) => (.goesOn, state)
    | ended => ended

def outletOf (context : Context ω) : Nat → Goal → State ω → Outlet × State ω
  | 0, _, state => (.output, state)
  | fuel + 1, goal, state =>
    match goal with
    | .output => (.output, state)
    | .file append path =>
      let (path, state) := value context fuel path state
      let path := state.textOf path
      if path = "/dev/stdout".toList ∨ path = ['-'] then (.output, state)
      else if path = "/dev/stderr".toList then (.complaints, state)
      else (.file append path, state)
    | .command script =>
      let (script, state) := value context fuel script state
      (.command (state.textOf script), state)

end

/-- Whether a rule applies to the record at hand, and the state behind that question. -/
def applies (context : Context ω) (fuel number : Nat) (scope : Scope) (state : State ω) :
    Bool × State ω :=
  match scope with
  | .start | .stop => (false, state)
  | .always => (true, state)
  | .on condition =>
    let (answer, state) := value context fuel condition state
    (answer.isTrue, state)
  | .between first last =>
    let (starts, state) := if state.active.contains number then (true, state)
      else
        let (answer, state) := value context fuel first state
        (answer.isTrue, state)
    if starts then
      let (answer, state) := value context fuel last state
      let others := state.active.filter (· ≠ number)
      (true, { state with active := if answer.isTrue then others else number :: others })
    else (false, state)

/-- Goes through the rules for one record; whether the script goes on. -/
def applyRules (context : Context ω) (fuel : Nat) :
    List (Rule × Nat) → State ω → Bool × State ω
  | [], state => (true, state)
  | (rule, number) :: rest, state =>
    let (fits, state) := applies context fuel number rule.scope state
    if state.broken || state.exiting then (false, state)
    else if fits then
      match run context fuel rule.body state with
      | (.exits, state) => (false, state)
      | (.next, state) => (true, state)
      | (_, state) => applyRules context fuel rest state
    else applyRules context fuel rest state

/-- Goes through the rules of a scope that come before or behind all records; whether the script
goes on. -/
def applyOnce (context : Context ω) (fuel : Nat) : List Rule → State ω → Bool × State ω
  | [], state => (true, state)
  | rule :: rest, state =>
    match run context fuel rule.body state with
    | (.exits, state) => (false, state)
    | (_, state) => applyOnce context fuel rest state

def applyAll (context : Context ω) (fuel : Nat) : Nat → State ω → State ω
  | 0, state => state
  | count + 1, state =>
    match state.next? context.world with
    | none => { state with waiting := [], sources := [] }
    | some (record, state) =>
      match applyRules context fuel context.script.rules.zipIdx (state.withRecord record) with
      | (true, state) => applyAll context fuel count state
      | (false, state) => state

def Scope.isStart : Scope → Bool
  | start => true
  | _ => false

def Scope.isStop : Scope → Bool
  | stop => true
  | _ => false

def runAll (context : Context ω) (fuel : Nat) (state : State ω) : State ω :=
  let rules := context.script.rules
  let (goesOn, state) := applyOnce context fuel (rules.filter (·.scope.isStart)) state
  let state := if goesOn && rules.any fun rule => !rule.scope.isStart
    then applyAll context fuel fuel state else state
  let state := if state.broken then state
    else (applyOnce context fuel (rules.filter (·.scope.isStop)) { state with exiting := false }).2
  (if state.broken then { state with status := 2 } else state).closeAll context.world

end Agenda.Shell.Records
