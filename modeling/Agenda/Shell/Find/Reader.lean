import Agenda.Shell.Find.Query

/-!
# How searches are written

The words of a search: a few options, the paths to start with, and a query. The words of a query are
read to signs first, and the signs to a tree: what has to hold at the same time ties more strongly
than what one of has to hold.
-/

namespace Agenda.Shell.Find

inductive Links
  | none
  | starts
  | all
deriving DecidableEq

/-- The expressions of paths if nothing else is asked for: the plus and the question mark need no
backslash. -/
def pathDialect : Dialect := { bare := true }

/-- How a search goes through trees. -/
structure Plan where
  least : Nat := 0
  most : Option Nat := none
  /-- Whether what is in a directory comes before it, and whether that was asked for. -/
  upwards : Bool := false
  asksUpwards : Bool := false
  prunes : Bool := false
  links : Links := .none
  dialect : Dialect := pathDialect
  /-- Whether times are counted from the last moment of the day. -/
  wholeDays : Bool := false
  /-- The files that are written. -/
  outputs : List Text := []
  /-- What is said about the words. -/
  remarks : List Text := []

/-- What is read from the words of a search, or some lines about what is wrong with them. -/
abbrev Reading (α : Type) := Except (List Text) α

/-- Says what is wrong. -/
def refuse {α : Type} (words : Text) : Reading α := .error [words]

/-- What is around a search: the disk, and the directory in which it starts. -/
structure Setting where
  disk : Disk
  here : Place

def refuseValue {α : Type} (word value : Text) : Reading α :=
  refuse ("invalid argument \x60" ++ value ++ "' to \x60" ++ word ++ "'")

/-- Whether more or less than a number is asked for, and the number. -/
def orderOf : Text → Ordering × Text
  | '+' :: t => (.gt, t)
  | '-' :: t => (.lt, t)
  | t => (.eq, t)

/-- The number that a word asks for. -/
def Amount.ofText? (t : Text) : Option Amount :=
  let (order, t) := orderOf t
  let digits := match t.dropWhile isGap with
    | '+' :: digits => digits
    | digits => digits
  if !digits.isEmpty && digits.all Char.isDigit then some ⟨order, Text.natOfDigits digits⟩ else none

/-- The letters of some kinds of files, with commas between them; `seen` are those before. -/
def kindsFrom (word seen : Text) : Text → Reading Text
  | [] => refuse ("Arguments to " ++ word ++ " should contain at least one letter")
  | c :: rest =>
    if !"bcdflps".toList.contains c then
      refuse ("Unknown argument to " ++ word ++ ": " ++ [c])
    else if seen.contains c then
      refuse ("Duplicate file type '" ++ [c] ++ "' in the argument list to " ++ word ++ ".")
    else match rest with
      | [] => .ok (seen ++ [c])
      | [','] =>
        refuse ("Last file type in list argument to " ++ word ++
          " is missing, i.e., list is ending on: ','")
      | ',' :: rest => kindsFrom word (seen ++ [c]) rest
      | _ => refuse ("Must separate multiple arguments to " ++ word ++ " using: ','")

def sizeQuestion (t : Text) : Reading Question :=
  let units : List (Char × Nat) := [('c', 1), ('w', 2), ('b', 512), ('k', 1024), ('M', 1048576),
    ('G', 1073741824)]
  match t.getLast? with
  | none => refuse "invalid null argument to -size"
  | some last =>
    let unit := units.lookup last
    if unit.isNone && !last.isDigit then
      refuse ("invalid -size type \x60".toList ++ last :: ['\x27'])
    else match Amount.ofText? (if unit.isSome then t.dropLast else t) with
      | some amount => .ok (.size amount (unit.getD 512))
      | none =>
        refuse ("Invalid argument \x60" ++ t ++ "' to -size")

/-- What is said about a mode of which any bit has to be there if it has none. -/
def emptyModeRemark (t : Text) : Text :=
  "warning: you have specified a mode pattern " ++ t ++ " (which is equivalent to /000). The " ++
    "meaning of -perm /000 has now been changed to be consistent with -perm -000; that is, while " ++
    "it used to match no files, it now matches all files."

def modeQuestion (t : Text) : Reading Question :=
  let (likeness, chosen) : Likeness × Text := match t with
    | '-' :: t => (.all, t)
    | '/' :: t => (.any, t)
    | t => (.exact, t)
  match FileTool.Mode.ofText? chosen with
  | some mode => .ok (.mode likeness (mode.applied 0 false 0) (mode.applied 0 true 0))
  | none => refuse ("invalid mode " ++ FileTool.printed t)

def minute : Int := 60000

/-- The question about an age that a word writes, in units of minutes or of days. -/
def ageQuestion (setting : Setting) (plan : Plan) (word : Text) (unit : Int) (t : Text) :
    Reading Question :=
  let now := setting.disk.clock
  let last := if plan.wholeDays then (now / Clock.dayLength + 1) * Clock.dayLength - 1 else now
  let (order, number) := orderOf t
  match Quantity.at? (number.dropWhile isGap) with
  | some (.finite negative digits places, []) =>
    let span := unit * digits / powerOfTen places
    let span := if negative then -span else span
    let bound := if unit = minute then last
      else if order = .lt then last - 1000 else last - unit
    .ok (.written order (bound - span) unit)
  | _ => refuseValue word t

/-- What is at the end of a path that a word names. -/
def named (setting : Setting) (plan : Plan) (path : Text) : Reading (Place × Entry) :=
  match FileTool.look setting.disk (plan.links ≠ .none) setting.here path with
  | .ok found => .ok found
  | .error reason => refuse (FileTool.printed path ++ ": " ++ reason.words)

/-- The question whether a file is newer than what two letters and a value say. -/
def newerQuestion (setting : Setting) (plan : Plan) (word : Text) (own other : Char) (value : Text) :
    Reading Question := do
  let invalid : Reading Question := refuse ("invalid predicate \x60" ++ word ++ "'")
  if !"aBcm".toList.contains own then invalid
  else if other = 't' then
    match Clock.moment? setting.disk.clock value with
    | some moment => return .written .lt moment 0
    | none =>
      refuse ("I cannot figure out how to interpret " ++ FileTool.printed value ++
        " as a date or time")
  else if "aBcm".toList.contains other then
    let (_, entry) ← named setting plan value
    return .written .lt (FileTool.timeOf entry) 0
  else invalid

/-- The owners that a system knows, with their numbers. -/
def owners : List (Text × Nat) := [("root", 0), ("daemon", 1), ("bin", 2), ("sys", 3),
  ("games", 5), ("man", 6), ("lp", 7), ("mail", 8), ("news", 9), ("uucp", 10), ("proxy", 13),
  ("www-data", 33), ("backup", 34), ("list", 38), ("irc", 39)]

def singleOwners : List (Text × Nat) := [("sync", 4), ("_apt", 42), ("nobody", 65534)]

def singleGroups : List (Text × Nat) := [("adm", 4), ("tty", 5), ("users", 100), ("nogroup", 65534)]

def ownerQuestion (value : Text) : Reading Question :=
  if value.isEmpty then refuse "The argument to -user should not be empty"
  else match (owners ++ singleOwners).lookup value with
    | some number => .ok (.always (number = 0))
    | none =>
      if value.all Char.isDigit then .ok (.always (Text.natOfDigits value = 0))
      else refuse (FileTool.printed value ++ " is not the name of a known user")

def groupQuestion (value : Text) : Reading Question :=
  let rest := value.dropWhile Char.isDigit
  let unknown : Text := FileTool.printed value ++ " is not the name of an existing group"
  if value.isEmpty then refuse "argument to -group is empty, but should be a group name"
  else match (owners ++ singleGroups).lookup value with
    | some number => .ok (.always (number = 0))
    | none =>
      if rest.isEmpty then .ok (.always (Text.natOfDigits value = 0))
      else if rest.length < value.length then
        refuse (unknown ++ " and it does not look like a numeric group ID because it has the " ++
          "unexpected suffix " ++ FileTool.printed rest)
      else refuse unknown

def dialects : List (Text × Dialect) := [("findutils-default", pathDialect), ("ed", {}),
  ("emacs", pathDialect), ("gnu-awk", .records), ("grep", {}), ("posix-awk", .records),
  ("awk", .records), ("posix-basic", {}), ("posix-egrep", .conditions), ("egrep", .conditions),
  ("posix-extended", { extended := true }), ("posix-minimal-basic", {}), ("sed", {})]

/-- The question about a whole path that an expression writes. -/
def expressionQuestion (plan : Plan) (fold : Bool) (value : Text) : Reading Question :=
  match Expression.read plan.dialect (raw value) with
  | .ok e => .ok (.expression fold e)
  | .error fault =>
    refuse ("failed to compile regular expression '" ++ value ++ "': " ++ fault.words)

/-- What a word stands for that takes a value, if it is one of those. -/
def valued? (setting : Setting) (plan : Plan) (word value : Text) : Option (Reading (Query × Plan)) :=
  let ask (question : Question) : Reading (Query × Plan) := .ok (.ask question, plan)
  let asks (question : Reading Question) : Reading (Query × Plan) := question.bind ask
  let goes (plan : Plan) : Reading (Query × Plan) := .ok (.ask (.always true), plan)
  let amount (question : Amount → Question) : Reading (Query × Plan) :=
    match Amount.ofText? value with
    | some amount => ask (question amount)
    | none => refuseValue word value
  let depth (planFor : Nat → Plan) : Reading (Query × Plan) :=
    if !value.isEmpty && value.all Char.isDigit then goes (planFor (Text.natOfDigits value))
    else refuse ("Expected a positive decimal integer argument to " ++ word ++ ", but got " ++
      FileTool.printed value)
  let writes (action : Action) : Reading (Query × Plan) :=
    .ok (.act action, { plan with outputs := plan.outputs ++ [value] })
  let age (unit : Int) : Reading (Query × Plan) := asks (ageQuestion setting plan word unit value)
  match String.ofList word with
  | "-name" => some (ask (.name false value))
  | "-iname" => some (ask (.name true value))
  | "-path" | "-wholename" => some (ask (.wholePath false value))
  | "-ipath" | "-iwholename" => some (ask (.wholePath true value))
  | "-lname" => some (ask (.target false value))
  | "-ilname" => some (ask (.target true value))
  | "-regex" => some (asks (expressionQuestion plan false value))
  | "-iregex" => some (asks (expressionQuestion plan true value))
  | "-regextype" =>
    some (match dialects.lookup value with
      | some dialect => goes { plan with dialect }
      | none =>
        refuse ("Unknown regular expression type " ++ FileTool.printed value ++
          "; valid types are " ++
          Text.join ", " (dialects.map fun (name, _) => FileTool.printed name) ++ "."))
  | "-type" => some ((kindsFrom word [] value).bind fun letters => ask (.kind letters))
  | "-xtype" => some ((kindsFrom word [] value).bind fun letters => ask (.otherKind letters))
  | "-size" => some (asks (sizeQuestion value))
  | "-perm" =>
    some ((modeQuestion value).map fun question =>
      let remarks := match question with
        | .mode .any 0 0 => [emptyModeRemark value]
        | _ => []
      (.ask question, { plan with remarks := plan.remarks ++ remarks }))
  | "-links" => some (amount .names)
  | "-uid" | "-gid" => some (amount .owner)
  | "-inum" | "-used" => some (amount fun _ => .always false)
  | "-user" => some (asks (ownerQuestion value))
  | "-group" => some (asks (groupQuestion value))
  | "-fstype" => some (ask (.always false))
  | "-mtime" | "-atime" | "-ctime" => some (age Clock.dayLength)
  | "-mmin" | "-amin" | "-cmin" => some (age minute)
  | "-newer" | "-anewer" | "-cnewer" => some (asks (newerQuestion setting plan word 'm' 'm' value))
  | "-samefile" => some ((named setting plan value).bind fun (place, _) => ask (.same place))
  | "-maxdepth" => some (depth fun n => { plan with most := some n })
  | "-mindepth" => some (depth fun n => { plan with least := n })
  | "-printf" =>
    some (match segmentsFrom 0 (raw value) with
      | .ok (segments, words) =>
        .ok (.act (.printAs none segments), { plan with remarks := plan.remarks ++ words })
      | .error words => refuse words)
  | "-fprint" => some (writes (.print (some value) '\n'))
  | "-fprint0" => some (writes (.print (some value) '\x00'))
  | "-fls" => some (writes (.list (some value)))
  | _ => none

/-- What a word stands for that takes no value, if it is one of those. -/
def simple? (plan : Plan) (word : Text) : Option (Query × Plan) :=
  let ask (question : Question) : Option (Query × Plan) := some (.ask question, plan)
  let act (action : Action) : Option (Query × Plan) := some (.act action, plan)
  let goes (plan : Plan) : Option (Query × Plan) := some (.ask (.always true), plan)
  match String.ofList word with
  | "-print" => act (.print none '\n')
  | "-print0" => act (.print none '\x00')
  | "-ls" => act (.list none)
  | "-quit" => act .quit
  | "-prune" => some (.act .prune, { plan with prunes := true })
  | "-delete" => some (.act .remove, { plan with upwards := true })
  | "-empty" => ask .empty
  | "-executable" => ask .executable
  | "-true" | "-readable" | "-writable" | "-xdev" | "-mount" | "-noleaf" | "-warn" | "-nowarn"
  | "-ignore_readdir_race" | "-noignore_readdir_race" => ask (.always true)
  | "-false" | "-nouser" | "-nogroup" => ask (.always false)
  | "-depth" | "-d" => goes { plan with upwards := true, asksUpwards := true }
  | "-daystart" => goes { plan with wholeDays := true }
  | "-follow" => goes { plan with links := .all }
  | _ => none

/-- Two braces, which stand for a path in a command. -/
def braces : Text := ['\x7b', '\x7d']

/-- Whether a word of a command holds two braces. -/
def hasBraces (word : Text) : Bool := Text.replaceAll braces [] word != word

/-- The words of a command up to its end, whether that gathers paths, and the number of all words;
`behind` says that the word before holds two braces. -/
def commandWords (gathers behind : Bool) : List Text → Option (List Text × Bool × Nat)
  | [] => none
  | word :: rest =>
    if word = [';'] then some ([], false, 1)
    else if gathers && behind && word = ['+'] then some ([], true, 1)
    else (commandWords gathers (hasBraces word) rest).map fun (words, found, count) =>
      (word :: words, found, count + 1)

def callAction (word : Text) (rest : List Text) : Reading (Action × Nat) :=
  let inside := Text.endsWith "dir" word
  let asks := Text.startsWith "-ok" word
  match commandWords (!asks) false rest with
  | none => refuse ("missing argument to \x60" ++ word ++ "'")
  | some ([], _, _) => refuseValue word ";"
  | some (words, false, count) => .ok (.call { words, inside, asks }, count)
  | some (words, true, count) =>
    match words.filter hasBraces with
    | [marked] =>
      if marked = braces then .ok (.gather { words := words.dropLast, inside }, count)
      else refuse ("In " ++ FileTool.printed (word ++ " ... \x7b\x7d +") ++ " the " ++
        FileTool.printed braces ++ " must appear by itself, but you specified " ++
        FileTool.printed marked)
    | _ => refuse ("Only one instance of \x7b\x7d is supported with " ++ word ++ " ... +")

/-- The words for commands. -/
def callNames : List Text := ["-exec", "-execdir", "-ok", "-okdir"]

/-- The query that a word with those behind it starts, the plan with it, and the number of words
that belong to it besides the first one. -/
def readWord (setting : Setting) (plan : Plan) (word : Text) (rest : List Text) :
    Reading (Query × Plan × Nat) :=
  let missing : Reading (Query × Plan × Nat) := refuse ("missing argument to \x60" ++ word ++ "'")
  let unknown : Reading (Query × Plan × Nat) := refuse ("unknown predicate \x60" ++ word ++ "'")
  if let some (query, plan) := simple? plan word then .ok (query, plan, 0)
  else if callNames.contains word then
    (callAction word rest).map fun (action, count) => (.act action, plan, count)
  else if word = "-fprintf".toList then
    match rest with
    | [] => missing
    | [path] => refuseValue word path
    | path :: format :: _ =>
      match segmentsFrom 0 (raw format) with
      | .ok (segments, words) =>
        .ok (.act (.printAs (some path) segments), { plan with
          outputs := plan.outputs ++ [path], remarks := plan.remarks ++ words }, 2)
      | .error words => refuse words
  else match valued? setting plan word (rest.headD []), rest, word with
    | some _, [], _ => missing
    | some found, _ :: _, _ => found.map fun (query, plan) => (query, plan, 1)
    | none, rest, ['-', 'n', 'e', 'w', 'e', 'r', own, other] =>
      match rest with
      | [] => refuse ("The " ++ FileTool.printed word ++ " test needs an argument")
      | value :: _ =>
        (newerQuestion setting plan word own other value).map fun question =>
          (.ask question, plan, 1)
    | none, _, _ => unknown

inductive Sign
  | query (query : Query)
  | not (word : Text)
  | opens
  | closes
  | joint (word : Text) (joint : Joint)

/-- The sign that a word is by itself, if it is one. -/
def signOf? (word : Text) : Option Sign :=
  match String.ofList word with
  | "!" | "-not" => some (.not word)
  | "(" => some .opens
  | ")" => some .closes
  | "-a" | "-and" => some (.joint word .both)
  | "-o" | "-or" => some (.joint word .either)
  | "," => some (.joint word .behind)
  | _ => none

def isQueryWord (first : Bool) (word : Text) : Bool :=
  match word with
  | '-' :: _ :: _ => true
  | ['!'] | ['('] => true
  | [')'] | [','] => !first
  | _ => false

/-- The signs that some words write, and the plan; `skip` words have been read already, and `last`
is the last one that stands for something. -/
def signsFrom (setting : Setting) : Nat → Plan → Text → List Text → Reading (Plan × List Sign)
  | _, plan, _, [] => .ok (plan, [])
  | skip + 1, plan, last, _ :: rest => signsFrom setting skip plan last rest
  | 0, plan, last, word :: rest =>
    if !isQueryWord false word then
      .error (("paths must precede expression: \x60" ++ word ++ "'") ::
        if (FileTool.self? setting.disk setting.here word).isSome then
          ["possible unquoted pattern after predicate \x60" ++ last ++ "'?"]
        else [])
    else match signOf? word with
      | some sign => do
        let (plan, signs) ← signsFrom setting 0 plan word rest
        return (plan, sign :: signs)
      | none => do
        let (query, plan, count) ← readWord setting plan word rest
        let (plan, signs) ← signsFrom setting count plan word rest
        return (plan, .query query :: signs)

def closeBehind : Query × List Sign → Reading (Query × List Sign)
  | (query, .closes :: rest) => .ok (query, rest)
  | _ => refuse "invalid expression; I was expecting to find a ')' somewhere but did not see one."

mutual

/-- Reads one query behind a word; `closed` says that the signs stand in parentheses that were not
written. -/
def readUnit : Nat → (closed : Bool) → (word : Text) → List Sign → Reading (Query × List Sign)
  | 0, _, _, _ => refuse "invalid expression"
  | fuel + 1, closed, word, signs =>
    match signs with
    | [] =>
      refuse (if closed then "expected an expression after '" ++ word ++ "'"
        else "invalid expression")
    | sign :: rest =>
      match sign with
      | .query query => .ok (query, rest)
      | .joint word _ =>
        refuse ("invalid expression; you have used a binary operator '" ++ word ++
          "' with nothing before it.")
      | .closes =>
        refuse (if word.isEmpty then "invalid expression; you have too many ')'"
          else "expected an expression between '" ++ word ++ "' and ')'")
      | .not word => (readUnit fuel closed word rest).map fun (query, rest) => (.not query, rest)
      | .opens =>
        match rest with
        | [] =>
          refuse ("invalid expression; expected to find a ')' but didn't see one. " ++
            "Perhaps you need an extra predicate after '('")
        | .closes :: _ => refuse "invalid expression; empty parentheses are not allowed."
        | rest => (readJoined fuel closed rest).bind closeBehind

def readJoined : Nat → (closed : Bool) → List Sign → Reading (Query × List Sign)
  | 0, _, _ => refuse "invalid expression"
  | fuel + 1, closed, signs =>
    (readUnit fuel closed [] signs).bind fun (first, rest) => readBehind fuel closed 0 first rest

/-- Reads what is joined to a query more strongly than some strength. -/
def readBehind : Nat → (closed : Bool) → (least : Nat) → Query → List Sign →
    Reading (Query × List Sign)
  | 0, _, _, _, _ => refuse "invalid expression"
  | fuel + 1, closed, least, first, signs =>
    let joined (word : Text) (joint : Joint) (behind : List Sign) : Reading (Query × List Sign) :=
      if joint.strength ≤ least then .ok (first, signs)
      else do
        let (second, rest) ← readUnit fuel closed word behind
        let (second, rest) ← readBehind fuel closed joint.strength second rest
        readBehind fuel closed least (.join joint first second) rest
    match signs with
    | [] | .closes :: _ => .ok (first, signs)
    | .joint word joint :: behind => joined word joint behind
    | signs => joined "-a" .both signs

end

/-- The query that signs write. If it does nothing of itself, it prints paths. -/
def queryOf (signs : List Sign) : Reading Query := do
  let print : Query := .act (.print none '\n')
  let acts := signs.any fun
    | .query query => query.acts
    | _ => false
  if signs.isEmpty then return print
  let (query, rest) ← readJoined (4 * signs.length + 4) (!acts) signs
  if rest.isEmpty then return if acts then query else .join .both query print
  refuse "you have too many ')'"

/-- Reads the options in front of the paths. -/
def leading : Plan → List Text → Reading (Plan × List Text)
  | plan, [] => .ok (plan, [])
  | plan, word :: rest =>
    match String.ofList word with
    | "-H" => leading { plan with links := .starts } rest
    | "-L" => leading { plan with links := .all } rest
    | "-P" => leading { plan with links := .none } rest
    | "--" => .ok (plan, rest)
    | "-D" =>
      match rest with
      | [] => refuse "Missing argument after the -D option."
      | flag :: rest =>
        leading { plan with remarks := plan.remarks ++
          ["Ignoring unrecognised debug flag " ++ FileTool.printed flag] } rest
    | "-O" => refuse "The -O option must be immediately followed by a decimal integer"
    | _ =>
      if !Text.startsWith "-O" word then .ok (plan, word :: rest)
      else if (word.drop 2).all Char.isDigit then leading plan rest
      else refuse "Please specify a decimal number immediately after -O"

/-- A search: the paths that it starts with, what is asked, and how it goes. -/
structure Request where
  starts : List Text
  query : Query
  plan : Plan

/-- The search that some words write. -/
def Request.read (setting : Setting) (arguments : List Text) : Reading Request := do
  let (plan, words) ← leading {} arguments
  let (starts, words) := words.span fun word => !isQueryWord true word
  let (plan, signs) ← signsFrom setting 0 plan [] words
  let query ← queryOf signs
  if plan.prunes && plan.upwards && !plan.asksUpwards then
    refuse ("The -delete action automatically turns on -depth, but -prune does nothing when -depth " ++
      "is in effect.  If you want to carry on anyway, just explicitly use the -depth option.")
  else return ⟨if starts.isEmpty then [['.']] else starts, query, plan⟩

end Agenda.Shell.Find
