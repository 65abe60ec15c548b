import Agenda.Shell.Filter.Digest.Line
import Agenda.Shell.Filter.Dump
import Agenda.Shell.FilterTool.Basic

/-!
# Tools for digests

The tools that print digests of files, and that verify lists of such digests: every file of a list
is read again, and in the end it is told how many lines could not be read, how many files could not
be read, and how many digests are others.
-/

namespace Agenda.Shell

open Filter.Digest

namespace FilterTool

/-- What is counted while a list of digests is verified. -/
structure Verdict where
  entries : Nat := 0
  matched : Nat := 0
  misformed : Nat := 0
  unread : Nat := 0
  mismatched : Nat := 0

/-- Whether all that a list says is right. -/
def Verdict.good (verdict : Verdict) (strict : Bool) : Bool :=
  0 < verdict.matched && verdict.unread == 0 && verdict.mismatched == 0 &&
    (!strict || verdict.misformed == 0)

/-- What is told in the end about a list of that name. -/
def Verdict.words (verdict : Verdict) (list : Text) (options : Options) : List Text :=
  let warning (count : Nat) (one several : Text) : List Text :=
    if count = 0 then []
    else [("WARNING: " : Text) ++ Text.ofNat count ++ if count = 1 then one else several]
  if verdict.entries = 0 then [list ++ ": no properly formatted checksum lines found"]
  else if options.has 'S' then []
  else
    warning verdict.misformed " line is improperly formatted"
        " lines are improperly formatted" ++
      warning verdict.unread " listed file could not be read"
        " listed files could not be read" ++
      warning verdict.mismatched " computed checksum did NOT match"
        " computed checksums did NOT match" ++
      (if options.has 'i' ∧ verdict.matched = 0 then [list ++ ": no file was verified"] else [])

def digestKnown : Known where
  plain := "btzwc"
  words := [("binary", 'b'), ("text", 't'), ("zero", 'z'), ("warn", 'w'), ("check", 'c'),
    ("tag", 'T'), ("quiet", 'q'), ("status", 'S'), ("strict", 's'), ("ignore-missing", 'i')]

def digestMisuse? (options : Options) : Option Misuse :=
  let meaningful (letter : Char) (word : Text) : Option Text :=
    if options.has letter then
      some ("the --" ++ word ++ " option is meaningful only when verifying checksums")
    else none
  let words? : Option Text :=
    if options.has 'c' then
      if options.has 'z' then
        some "the --zero option is not supported when verifying checksums".toList
      else if options.has 'T' then
        some "the --tag option is meaningless when verifying checksums".toList
      else if options.has 'b' || options.has 't' then
        some ("the --binary and --text options are meaningless " ++
          "when verifying checksums").toList
      else none
    else
      (meaningful 'i' "ignore-missing").or ((meaningful 'S' "status").or
        ((meaningful 'w' "warn").or ((meaningful 'q' "quiet").or (meaningful 's' "strict"))))
  words?.map fun words => .other [words] true

/-- The number of digits that options ask for. -/
def digestLength (method : Method) (options : Options) : Except Misuse Nat :=
  match options.value? 'l' with
  | none => .ok method.length
  | some value =>
    let refused (words : List Text) : Except Misuse Nat :=
      .error (.other ((Misuse.badValue "length" value).words :: words) false)
    match Filter.whole? value with
    | none => refused []
    | some 0 => .ok method.length
    | some n =>
      if 512 < n then
        refused ["b2sum: maximum digest length for ‘BLAKE2b’ is 512 bits"]
      else if n % 8 ≠ 0 then refused ["b2sum: length is not a multiple of 8"]
      else .ok (n / 4)

end FilterTool

namespace Session

open FilterTool

/-- Verifies a line of a list, with the methods that may have been used for it. -/
def verifiesLine (session : Session) (tool list : Text) (options : Options)
    (methods : List Method) (verdict : Verdict) (line : Text) (n : Nat) : Session × Verdict :=
  let line := if Text.endsWith "\r" line then line.dropLast else line
  if line.isEmpty ∨ line.head? = some '#' then (session, verdict)
  else
    let found := methods.findSome? fun method =>
      (method.entry? line).bind fun entry =>
        if list = "'standard input'".toList ∧ entry.name = ['-'] then none
        else some (method, entry)
    match found with
    | none =>
      let tag := (methods.head?.map Method.tag).getD []
      let session := if options.has 'w' then
          session.complains (tool ++ ": " ++ list ++ ": " ++ Text.ofNat n ++
            ": improperly formatted " ++ (if methods.length = 1 then tag ++ " " else []) ++
            "checksum line")
        else session
      (session, { verdict with misformed := verdict.misformed + 1 })
    | some (method, entry) =>
      let verdict := { verdict with entries := verdict.entries + 1 }
      let say (session : Session) (words : Text) : Session :=
        if options.has 'S' then session
        else session.print 1 (nameLine entry.name ++ ": " ++ words ++ "\n")
      match session.supply (charactersOf entry.name) with
      | (session, .refused path reason) =>
        if options.has 'i' ∧ reason = .missing then (session, verdict)
        else
          (say (session.complains (unreadable tool path reason)) "FAILED open or read",
            { verdict with unread := verdict.unread + 1 })
      | (session, .text _ t) =>
        if method.of entry.digits.length t = entry.digits.map Char.toLower then
          (if options.has 'q' then session else say session "OK",
            { verdict with matched := verdict.matched + 1 })
        else (say session "FAILED", { verdict with mismatched := verdict.mismatched + 1 })

/-- Verifies a list of digests, and tells whether all is right. -/
def verifiesList (session : Session) (tool : Text) (options : Options) (methods : List Method)
    (path : Text) : Session × Bool :=
  let list : Text := if path = ['-'] then "'standard input'" else FileTool.named path
  match session.supply path with
  | (session, .refused path reason) =>
    let words := if reason = .isDirectory then tool ++ ": " ++ list ++ ": read error"
      else unreadable tool path reason
    (session.complains words, false)
  | (session, .text _ t) =>
    let (session, verdict) := ((Filter.linesOf t).zipIdx 1).foldl
      (fun (session, verdict) (line, n) =>
        session.verifiesLine tool list options methods verdict line n) (session, {})
    ((verdict.words list options).foldl (fun session words =>
      session.complains (tool ++ ": " ++ words)) session, verdict.good (options.has 's'))

def verifies (session : Session) (tool : Text) (options : Options) (methods : List Method)
    (operands : List Text) : Session :=
  let lists := if operands.isEmpty then [['-']] else operands
  let (session, well) := lists.foldl (fun (session, well) path =>
    let (session, good) := session.verifiesList tool options methods path
    (session, well && good)) (session, true)
  session.ended (if well then 0 else 1)

end Session

namespace FilterTool

def digestPassing (method : Method) (form : LineForm) (length : Nat) (write : Text → Text) :
    Passing Unit where
  start := ()
  step := fun _ name t =>
    let name := if name.isEmpty then ['-'] else name
    ((), form.line (method.tagFor length) (write (method.of length t)) name)

def lineForm (options : Options) : LineForm where
  binary := options.lastOf "bt" = some 'b'
  mark := Filter.lineMark options

def digest (name method : Text) (sized : Bool) : Text × FilterTool :=
  let known := if sized then { digestKnown with
      valued := ['l'], words := ("length", 'l') :: digestKnown.words }
    else digestKnown
  (name, ⟨known, fun session options operands => do
    match Method.all.lookup method with
    | none => return session
    | some method =>
      let length ← digestLength method options
      match digestMisuse? options with
      | some misuse => .error misuse
      | none =>
        if options.has 'c' then return session.verifies name options [method] operands
        else
          let form := { lineForm options with tagged := options.has 'T' }
          return session.passes name operands (digestPassing method form length id)⟩)

/-- Prints a sum of each file, with its name if it is an operand. -/
def sumPassing (mark : Char) (line : Text → Text) : Passing Unit where
  start := ()
  step := fun _ name t =>
    ((), line t ++ (if name.isEmpty then [] else ' ' :: name) ++ [mark])

/-- The sums that are not digests, by their names. -/
def plainSums : List (Text × (Text → Text)) :=
  [("bsd", turningLine), ("sysv", plainLine), ("crc", cyclicLine)]

/-- What is said about a kind of digest that there is none of. -/
def unknownMethod (value : Text) : Misuse :=
  .other ([("invalid argument " : Text) ++ Misuse.marked value ++ " for ‘--algorithm’",
    "Valid arguments are:"] ++
    ((plainSums.map (·.1)) ++ Method.all.map (·.1) ++ [("sm3" : Text)]).map fun name =>
      "  - " ++ Misuse.marked name) true

def anyDigest : FilterTool where
  known := { plain := "zwcbt", valued := "al", words := [("algorithm", 'a'), ("base64", 'B'),
    ("check", 'c'), ("length", 'l'), ("tag", 'T'), ("untagged", 'U'), ("zero", 'z'),
    ("ignore-missing", 'i'), ("quiet", 'q'), ("status", 'S'), ("strict", 's'), ("warn", 'w')] }
  run := fun session options operands => do
    let kind := Filter.valueOr options 'a' "crc"
    if options.has 'l' ∧ kind ≠ "blake2b".toList then
      .error (.other [("--length is only supported with --algorithm=blake2b" : Text)] false)
    let misuse? := digestMisuse? (options.filter fun option => option.1 ≠ 'T')
    match plainSums.lookup kind, Method.all.lookup kind, misuse? with
    | none, none, _ => .error (unknownMethod kind)
    | some _, _, _ =>
      if options.has 'c' then
        if options.has 'a' then
          .error (.other [("--check is not supported with --algorithm=\x7bbsd,sysv,crc\x7d" : Text)] false)
        else
          let methods := Method.all.map fun (_, method) => { method with needsTag := true }
          return session.verifies "cksum" options methods operands
      else
        return session.passes "cksum" operands (sumPassing (Filter.lineMark options)
          ((plainSums.lookup kind).getD id))
    | none, _, some misuse => .error misuse
    | none, some method, none =>
      if options.has 'c' then return session.verifies "cksum" options [method] operands
      else
        let length ← digestLength method options
        let write (digits : Text) : Text :=
          if options.has 'B' then
            let bytes := (Filter.Coding.fourBits.decode false (digits.map Char.toUpper)).1
            Filter.Coding.sixBits.encode 0 bytes
          else digits
        let form := { lineForm options with tagged := options.lastOf "TU" ≠ some 'U' }
        return session.passes "cksum" operands (digestPassing method form length write)

def digests : List (Text × FilterTool) := [
  digest "md5sum" "md5" false, digest "sha1sum" "sha1" false, digest "sha224sum" "sha224" false,
  digest "sha256sum" "sha256" false, digest "sha384sum" "sha384" false,
  digest "sha512sum" "sha512" false, digest "b2sum" "blake2b" true, ("cksum", anyDigest),
  passing "sum" { plain := "rs", words := [("sysv", 's')] } fun options =>
    .ok (sumPassing '\n' (if options.lastOf "rs" = some 's' then plainLine else turningLine))]

end FilterTool

end Agenda.Shell
