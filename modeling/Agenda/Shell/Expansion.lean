import Agenda.Shell.Brace
import Agenda.Shell.Program

/-!
# What words stand for

A tilde at the start of a word stands for a home directory: that of the user, or that of the one who
is named behind it. It has to be written without quotes, and so has the name. In a value also the
start of each path of a list counts.

Parameters, sums and the outputs of scripts inside a word are replaced from the outside in. The
scripts are run by whatever runs the script around them.
-/

namespace Agenda.Shell

/-! ### Home directories -/

/-- The home directories of the users of a system. -/
def homes : List (Text × Text) := [("root", "/root"), ("daemon", "/usr/sbin"), ("bin", "/bin"),
  ("sys", "/dev"), ("sync", "/bin"), ("games", "/usr/games"), ("man", "/var/cache/man"),
  ("lp", "/var/spool/lpd"), ("mail", "/var/mail"), ("news", "/var/spool/news"),
  ("uucp", "/var/spool/uucp"), ("proxy", "/bin"), ("www-data", "/var/www"),
  ("backup", "/var/backups"), ("list", "/var/list"), ("irc", "/run/ircd"),
  ("_apt", "/nonexistent"), ("nobody", "/nonexistent")]

namespace Session

/-- The directory that a name behind a tilde stands for. -/
def home? (session : Session) (name : Text) : Option Text :=
  if name.isEmpty then
    (session.bindings.lookup "HOME".toList).or
      (if session.large then homes.lookup "root".toList else none)
  else if session.large ∧ name = ['+'] then session.bindings.lookup "PWD".toList
  else if session.large ∧ name = ['-'] then session.bindings.lookup "OLDPWD".toList
  else homes.lookup name

/-- The parts of a plain text whose tilde stands for a directory; `closed` says that nothing of the
word comes behind it. -/
def partsAtHome (session : Session) (closed : Bool) (t : Text) : Word :=
  match t with
  | '~' :: rest =>
    let name := rest.takeWhile (· ≠ '/')
    let behind := rest.drop name.length
    match if behind.isEmpty && !closed then none else session.home? name with
    | some home =>
      (if home.isEmpty then [] else [.plain true home]) ++
        if behind.isEmpty then [] else [.plain false behind]
    | none => [.plain false t]
  | t => [.plain false t]

/-- The parts of a plain text in which tildes stand for directories: one in front, and, in a list of
paths, one at the start of each of them. -/
def partsOfPaths (session : Session) (list starts closed : Bool) (t : Text) : Word :=
  match if list then t.splitOn ':' else [t] with
  | [] => []
  | first :: rest =>
    let head : Word :=
      if starts then session.partsAtHome (closed || !rest.isEmpty) first else [.plain false first]
    head ++ rest.zipIdx.flatMap fun (path, index) =>
      .plain false [':'] :: session.partsAtHome (closed || index + 1 < rest.length) path

def partAtHome (session : Session) (list starts closed : Bool) (part : Part) : Word :=
  match part with
  | .plain false t =>
    if t.contains '~' then session.partsOfPaths list starts closed t else [.plain false t]
  | part => [part]

def restAtHome (session : Session) (list : Bool) : (starts : Bool) → Word → Word
  | _, [] => []
  | starts, part :: rest =>
    session.partAtHome list starts rest.isEmpty part ++ restAtHome session list false rest

/-- A word with its tildes replaced; `list` says that it is a value. -/
def atHome (session : Session) (list : Bool) (word : Word) : Word :=
  session.restAtHome list true word

end Session

/-! ### Pieces and patterns -/

/-- The text of a known value as a part of a word. -/
def valueGlyphs (separators : Text) (quoted : Bool) (value : Option Text) : List Glyph :=
  match value with
  | some value => Glyph.ofValue separators quoted value
  | none => if quoted then [.quote] else []

/-- Several values as a part of a word, each a field of its own. -/
def valuesGlyphs (session : Session) (quoted : Bool) (values : List Text) : List Glyph :=
  [Glyph.gap ' '].intercalate (values.map (Glyph.ofValue session.separators quoted))

/-- The word for the file that a script does nothing with but to name it as its input. -/
def onlyFile? (script : Text) : Option Word :=
  match (tokensOf true false script).filter (!Token.endsLine ·) with
  | [.operator ['<'], .word word] => some word
  | _ => none

/-- The pattern and what takes the place of what it finds, which a slash parts from it. -/
def parted (extent : Extent) (argument : Text) : Text × Text :=
  match extent, argument with
  | .everywhere, c :: rest =>
    match Enclosure.marked? '/' rest with
    | some (pattern, replacement) => (c :: pattern, replacement)
    | none => (argument, [])
  | _, _ => (Enclosure.marked? '/' argument).getD (argument, [])

/-- Whether a command is one that gives variables values. -/
def declares (words : List Word) : Bool :=
  match (words.map literal?).dropWhile (· = some "command".toList) with
  | some name :: _ =>
    (["alias", "declare", "export", "local", "readonly", "typeset"] : List Text).contains name
  | _ => false

/-- The words about a redirection that cannot be carried out, and whether that ends the script. -/
structure Hindrance where
  words : Text
  ends : Bool := false

/-- Whether a stream is to lead to where another one leads, but none is named. -/
def namesNoStream (direction : Direction) (target : Text) : Bool :=
  direction = .same && match target with
    | [c] => !c.isDigit && c != '-'
    | _ => true

/-- The status of a script that was run by itself. -/
def statusAfter (course : Course) (session : Session) : Nat :=
  match course with
  | .killed signal => 128 + signal
  | _ => session.status

namespace Session

/-- The path of a new file that holds some bytes. -/
def provides (session : Session) (bytes : ByteArray) : Text × Session :=
  let name := Text.ofNat (63 - session.outputCount % 61)
  let file := session.disk.newFile bytes
  let disk := (session.disk.put ["dev"] .commonDirectory).put ["dev", "fd"] .commonDirectory
  ("/dev/fd/" ++ name, { session with
    disk := disk.putFile ["dev", "fd", name] file, outputCount := session.outputCount + 1 })

/-- Calculates an expression, and gives names the values that it gives them. -/
def calculate (session : Session) (expression : Text) : Option Int × Session :=
  match Sum.evaluate session.large session.numberOf expression with
  | .ok (n, assigned) =>
    (some n, assigned.reverse.foldl (fun session (name, n) => session.assign name (Text.ofInt n))
      session)
  | .error fault => (none, session.stops (.badSum (fault.message session.large expression)))

/-- Whether a pattern of known pieces stands for a text; `asked` says that it is in a question. -/
def fits (session : Session) (asked : Bool) (glyphs : List Glyph) (t : Text) : Bool :=
  Wildcard.fits (session.style asked) (Glyph.pattern glyphs) t

/-- Whether a variable or an element of a list has a value. -/
def isBound (session : Session) (name : Text) : Bool :=
  match indexed? name with
  | some (list, ['@']) | some (list, ['*']) => !(session.elements list).isEmpty
  | _ => (session.parameter? name).isSome

def copyFile (session : Session) (path : Text) : Session :=
  match session.readFrom? path with
  | some led => session.utters (rawOf led.input)
  | none => session.failsAs (session.redirectComplaint .read path) 1

/-- The values that a name in braces stands for if it stands for several ones: all parameters, or
the elements of a list. -/
def several? (session : Session) (name : Text) : Option (List Text) :=
  if name = ['@'] ∨ name = ['*'] then some session.arguments
  else match indexed? name with
    | some (name, ['@']) | some (name, ['*']) => some ((session.elements name).map (·.2))
    | _ => none

end Session

/-! ### Words -/

/-- What runs the scripts inside words: in processes of their own, and with what they have left in
the background from some number on. -/
structure Inner where
  run : (script : Text) → Session → Course × Session
  runJobs : (least : Nat) → Session → Session

namespace Inner

variable (inner : Inner)

mutual

/-- The pieces that a part of a word stands for. -/
def glyphsOfPart : Nat → Part → Session → List Glyph × Session
  | 0, _, session => ([], session)
  | fuel + 1, part, session =>
    let ofValue (quoted : Bool) (value : Text) : List Glyph :=
      Glyph.ofValue session.separators quoted value
    match part with
    | .plain true t => (ofValue true t, session)
    | .plain false t => (t.map (Glyph.char false), session)
    | .unfinished _ => ([], session)
    | .reading script =>
      let (part, index) := session.collect 1
      let (_, after) := inner.run script part.inside
      let after := inner.runJobs (session.jobCount + 1) after
      let session := (session.afterPart after).ended session.status
      let (path, session) := session.provides (after.collected index)
      (ofValue true path, session)
    | .output quoted script =>
      let (part, index) := session.collect 1
      let file? := if session.large then onlyFile? script else none
      let (course, after) : Course × Session := match file? with
        | some word =>
          let (glyphs, part) := glyphsOf fuel (word.map Part.whole) part.inside
          (.goesOn, part.copyFile (Glyph.text glyphs))
        | none => inner.run script part.inside
      let after := inner.runJobs (session.jobCount + 1) after
      let bytes := after.collected index
      let t := dropLineEnds ((Text.ofBytes? bytes).getD (rawOf bytes))
      let session := ((session.afterPart after).behindPart course).ended session.status
      (ofValue quoted t, { session with outcome := statusAfter course after })
    | .sum quoted expression =>
      let (glyphs, session) :=
        glyphsOf fuel (expressionWord session.large expression) session
      match session.calculate (Glyph.text glyphs) with
      | (some n, session) => (ofValue quoted (Text.ofInt n), session)
      | (none, session) => ([], session)
    | .parameter quoted name change argument =>
      match if session.large then Session.indexed? name else none with
      | some (list, index) =>
        if index = ['@'] ∨ index = ['*'] then
          parameterGlyphs fuel quoted name change argument session
        else
          let (key?, session) := keyOf fuel list index session
          match key? with
          | some key =>
            let name := if (session.bindings.lookup list).isSome ∧ key = ['0'] then list
              else Session.elementName list key
            parameterGlyphs fuel quoted name change argument session
          | none => ([], session)
      | none => parameterGlyphs fuel quoted name change argument session

/-- The index of an element of a list as it is known, or its name; an index below zero counts from
the end. -/
def keyOf : Nat → (list index : Text) → Session → Option Text × Session
  | 0, _, _, session => (none, session)
  | fuel + 1, list, index, session =>
    if session.maps.contains (session.target list) then
      let (glyphs, session) :=
        glyphsOf fuel ((wholeWord true index).map Part.whole) session
      (some (Glyph.text glyphs), session)
    else
      let (glyphs, session) := glyphsOf fuel (expressionWord true index) session
      match session.calculate (Glyph.text glyphs) with
      | (some n, session) => (some (session.keyAt list n), session)
      | (none, session) => (none, session)

/-- The pieces that a parameter stands for whose name is known. -/
def parameterGlyphs :
    Nat → (quoted : Bool) → (name : Text) → Change → (argument : Text) → Session →
      List Glyph × Session
  | 0, _, _, _, _, session => ([], session)
  | fuel + 1, quoted, name, change, argument, session =>
    let ofValue (value : Text) : List Glyph := Glyph.ofValue session.separators quoted value
    let ofFound (value : Option Text) : List Glyph :=
      valueGlyphs session.separators quoted value
    let ofMany (values : List Text) : List Glyph :=
      if quoted ∧ (name = ['*'] ∨ Text.endsWith "[*]" name) then
        ofValue (Text.join (session.separators.take 1) values)
      else valuesGlyphs session quoted values
    let many := session.several? name
    let value := match many with
      | some values => if name = ['@'] ∨ name = ['*'] then session.parameter? name
        else if values.isEmpty then none else some (Text.join " " values)
      | none => session.parameter? name
    let pattern :=
      session.atHome false (wholeWord session.large argument)
    let word := if quoted then quotedWord argument else pattern
    let missing (orEmpty : Bool) : Bool := value.isNone || (orEmpty && value == some [])
    let each (change : Text → Text) : List Glyph :=
      match many with
      | some values => ofMany (values.map change)
      | none => ofFound (value.map change)
    let bad : List Glyph × Session := ([], session.stops (.malformed (name ++ argument)))
    if (name.contains '[' ∧ !session.large) ∨ name.isEmpty then bad
    else match change with
      | .malformed => bad
      | .none =>
        match many with
        | some values => (ofMany values, session)
        | none =>
          if value.isNone ∧ session.demanding then ([], session.stops (.unset name))
          else (ofFound value, session)
      | .base =>
        let calculates := session.forms.contains (session.target name, 'i')
        (ofValue (value.getD [] ++ if calculates then ['+'] else []), session)
      | .length =>
        let size := match many with
          | some values => values.length
          | none =>
            let value := value.getD []
            if session.large then value.length else (raw value).length
        if value.isNone ∧ session.demanding ∧ many.isNone then
          ([], session.stops (.unset name))
        else (ofValue (Text.ofNat size), session)
      | .default orEmpty =>
        if missing orEmpty then glyphsOf fuel word session
        else if many.isSome then (each id, session)
        else (ofFound value, session)
      | .assign orEmpty =>
        if missing orEmpty then
          let (glyphs, session) := glyphsOf fuel word session
          let value := Glyph.text glyphs
          (ofValue value, session.assign name value)
        else (ofFound value, session)
      | .instead orEmpty => if missing orEmpty then ([], session) else glyphsOf fuel word session
      | .demand orEmpty =>
        if missing orEmpty then
          let (glyphs, session) := glyphsOf fuel word session
          ([], session.stops (if argument.isEmpty then .missing name orEmpty
            else .demanded name (Glyph.text glyphs)))
        else (ofFound value, session)
      | .dropEnd longest =>
        let (glyphs, session) := glyphsOf fuel pattern session
        (each (dropEnd longest (session.fits false glyphs)), session)
      | .dropStart longest =>
        let (glyphs, session) := glyphsOf fuel pattern session
        (each (dropStart longest (session.fits false glyphs)), session)
      | .quote => if session.large then (each quotedAlways, session) else bad
      | .unescape => if session.large then (each unescape, session) else bad
      | .describe =>
        if !session.large then bad
        else
          let own := (Session.indexed? name).elim name (·.1)
          let (letters, shown) := session.declared own
          if letters.isEmpty then (ofFound (value.map fun value =>
            name ++ '=' :: quotedAlways value), session)
          else (ofValue ("declare -" ++ letters ++ ' ' :: own ++ shown), session)
      | .letters =>
        if session.large then (ofValue (session.declared name).1, session) else bad
      | .names =>
        let names := (Session.inOrder session.boundNames).filter (Text.startsWith name)
        (if quoted ∧ argument = ['*'] then ofValue (Text.join (session.separators.take 1) names)
          else valuesGlyphs session quoted names, session)
      | .recase capital all =>
        if !session.large then bad
        else
          let (glyphs, session) := glyphsOf fuel pattern session
          let fits := if argument.isEmpty then fun _ => true else session.fits false glyphs
          (each (recase capital all fits), session)
      | .indirect =>
        if !session.large then bad
        else match many, Session.indexed? name with
          | some _, some (list, _) =>
            (ofMany ((session.elements list).map (·.1)), session)
          | _, _ => (ofFound ((session.references.lookup name).or
              (value.bind session.parameter?)), session)
      | .slice =>
        if !session.large then bad
        else
          let (first, second) : Text × Option Text := match Text.cutAt? ':' argument with
            | some (first, second) => (first, some second)
            | none => (argument, none)
          let number (t : Text) (session : Session) : Int × Session :=
            let (glyphs, session) := glyphsOf fuel (expressionWord true t) session
            let (n, session) := session.calculate (Glyph.text glyphs)
            (n.getD 0, session)
          let (start, session) := number first session
          let (length, session) : Option Int × Session := match second with
            | some t =>
              let (n, session) := number t session
              (some n, session)
            | none => (none, session)
          match many with
          | some values =>
            let values := if name = ['@'] ∨ name = ['*'] then session.name :: values else values
            let rest := values.drop (if start < 0 then start + values.length else start).toNat
            (ofMany (match length with
              | some length => rest.take length.toNat
              | none => rest), session)
          | none => (ofFound (value.map (slice start length)), session)
      | .replace extent =>
        if !session.large then bad
        else
          let (pattern, replacement) := parted extent argument
          let (glyphs, session) := glyphsOf fuel (wholeWord true pattern) session
          let (inside, session) := glyphsOf fuel (wholeWord true replacement) session
          let isNothing := (Glyph.text glyphs).isEmpty && extent matches .once | .everywhere
          if isNothing then (each id, session)
          else (each (replaceIn extent (session.fits false glyphs) (Glyph.inserted inside)), session)

def glyphsOf : Nat → Word → Session → List Glyph × Session
  | 0, _, session => ([], session)
  | fuel + 1, word, session =>
    word.foldl (fun (glyphs, session) part =>
      let (more, session) := glyphsOfPart fuel part session
      (glyphs ++ more, session)) ([], session)

end

/-- The words that a command is given in the end. -/
def wordsOf (fuel : Nat) (words : List Word) (session : Session) : List Text × Session :=
  let words := if session.large then words.flatMap Brace.expand else words
  words.foldl (fun (found, session) word =>
    let (glyphs, session) := inner.glyphsOf fuel (session.atHome false word) session
    let (words, session) := session.wordsOfGlyphs glyphs
    (found ++ words, session)) ([], session)

/-- The words of a simple command as they are given to it in the end. Behind a command that gives
variables values, a word that writes one is kept in one piece. -/
def fieldsOf (fuel : Nat) (words : List Word) (session : Session) : List Text × Session :=
  if declares words then
    words.foldl (fun (found, session) word =>
      match assignment? word with
      | some (name, value) =>
        let (glyphs, session) :=
          inner.glyphsOf fuel ((session.atHome true value).map Part.whole) session
        (found ++ [name ++ '=' :: Glyph.text glyphs], session)
      | none =>
        let (more, session) := inner.wordsOf fuel [word] session
        (found ++ more, session)) ([], session)
  else inner.wordsOf fuel words session

/-- Gives variables the values of some words, one after the other. -/
def assignWords (fuel : Nat) (assignments : List (Text × Word)) (session : Session) : Session :=
  assignments.foldl (fun session (name, word) =>
    let (glyphs, session) :=
      inner.glyphsOf fuel ((session.atHome true word).map Part.whole) session
    session.assign name (Glyph.text glyphs)) session

/-- Carries out redirections; if one of them cannot be, that is what is complained about. -/
def redirectAll (fuel : Nat) (redirects : List Redirect) (session : Session) :
    Except Hindrance Session :=
  redirects.foldl (fun session redirect =>
    session.bind fun session =>
      let (glyphs, session) :=
        inner.glyphsOf fuel ((session.atHome false redirect.target).map Part.whole) session
      let target := Glyph.text glyphs
      if namesNoStream redirect.direction target ∧ !session.large then
        .error ⟨"Syntax error: Bad fd number", true⟩
      else match session.redirect? redirect.stream redirect.direction target with
      | some session => .ok session
      | none => .error { words := session.redirectComplaint redirect.direction target })
    (.ok session)

def answer (fuel : Nat) (question : Question) (session : Session) : Bool × Session :=
  match question with
  | .isFilled word =>
    let (glyphs, session) := inner.glyphsOf fuel (word.map Part.whole) session
    (!(Glyph.text glyphs).isEmpty, session)
  | .one letter word =>
    let (glyphs, session) := inner.glyphsOf fuel (word.map Part.whole) session
    let t := Glyph.text glyphs
    (match letter with
      | 'n' => !t.isEmpty
      | 'z' => t.isEmpty
      | 'v' => session.isBound t
      | 'o' => session.hasOption t
      | letter => session.ask letter t, session)
  | .two sign first second =>
    let (glyphs, session) := inner.glyphsOf fuel (first.map Part.whole) session
    let a := Glyph.text glyphs
    let (glyphs, session) := inner.glyphsOf fuel (second.map Part.whole) session
    let b := Glyph.text glyphs
    let (written, session) := inner.glyphsOf fuel second session
    if sign = "==".toList ∨ sign = "=".toList then (session.fits true written a, session)
    else if sign = "!=".toList then (!session.fits true written a, session)
    else if sign = "=~".toList then
      let fold := session.isSwitched "nocasematch"
      match (Expression.read? .conditions (Glyph.expression written)).bind fun e =>
        Expression.find? fold e none a with
      | some found =>
        let groups := found.groups.map fun (number, t) =>
          (Session.elementName "BASH_REMATCH" (Text.ofNat number), t)
        let session := session.assignList "BASH_REMATCH" false [found.found]
        (true, { session with bindings := groups ++ session.bindings })
      | none => (false, session)
    else if sign = ['<'] then (decide (a < b), session)
    else if sign = ['>'] then (decide (b < a), session)
    else if Condition.isNumeric sign then
      match session.calculate a with
      | (some m, session) =>
        match session.calculate b with
        | (some n, session) =>
          (match Condition.compared session.informant (Text.ofInt m) sign (Text.ofInt n) with
            | .ok answer => answer
            | .error _ => false, session)
        | (none, session) => (false, session)
      | (none, session) => (false, session)
    else if Condition.twoSigns.contains sign then (session.compare a sign b, session)
    else (false, session)
  | .not question =>
    let (found, session) := answer fuel question session
    (!found, session)
  | .both first second =>
    match answer fuel first session with
    | (true, session) => answer fuel second session
    | found => found
  | .either first second =>
    match answer fuel first session with
    | (false, session) => answer fuel second session
    | found => found

end Inner

end Agenda.Shell
