import Agenda.Shell.FileTool.Copy
import Agenda.Shell.Clock.Format

/-!
# Making files

Directories are made, with those on the way to them if that is asked for; files get another time, or
another size, and are made where there are none.
-/

namespace Agenda.Shell.FileTool

/-- The words for a directory that cannot be made. -/
def cannotMake (path : Text) (reason : Disk.Reason) : Text :=
  "cannot create directory " ++ printed path ++ ": " ++ reason.words

/-- Makes one directory with a mode, and says so if asked to. -/
def makeFolder (here : Place) (options : Options) (mode : Option Nat) (path : Text) (deed : Deed) :
    Deed :=
  match deed.disk.makeDirectory here path with
  | .error refusal => deed.fail (cannotMake path refusal.reason)
  | .ok disk =>
    let disk := match mode, self? disk here path with
      | some mode, some (place, _) => disk.put place (.directory mode)
      | _, _ => disk
    let deed := deed.on disk
    if options.has 'v' then deed.tell ("mkdir: created directory " ++ shown path ++ "\n") else deed

/-- Makes a directory with a mode, and those on the way to it. -/
def makeWay (here : Place) (options : Options) (mode : Option Nat) (path : Text) (deed : Deed) :
    Deed :=
  let (fine, deed) := (waysTo path).foldl (fun (fine, deed) way =>
    if !fine then (fine, deed)
    else match look deed.disk true here way with
      | .ok (_, .directory _) => (true, deed)
      | .ok _ => (false, deed.fail (cannotMake way .notDirectory))
      | .error .missing =>
        let after := makeFolder here options none way { deed with well := true }
        (after.well, { after with well := after.well && deed.well })
      | .error reason => (false, deed.fail (cannotMake way reason))) (true, deed)
  if !fine || isFolder deed.disk here path then deed else makeFolder here options mode path deed

def makes (here : Place) (options : Options) (deed : Deed) (operands : List Text) :
    Except Misuse Deed :=
  let chosen := (options.value? 'm').map fun text => (text, Mode.ofText? text)
  match operands, chosen with
  | [], _ => .error (.fewOperands none)
  | _, some (text, none) => Filter.refuse ("invalid mode " ++ printed text)
  | operands, chosen =>
    let mode := (chosen.bind (·.2)).map (·.applied deed.disk.mask true 511)
    let make := if options.has 'p' then makeWay else makeFolder
    .ok (operands.foldl (fun deed path => make here options mode path deed) deed)

/-- The moment that the options of `touch` name. -/
def chosenMoment (disk : Disk) (here : Place) (options : Options) : Except Misuse Int :=
  let invalid (words : Text) : Except Misuse Int :=
    Filter.refuse ("invalid date format " ++ printed words)
  match options.value? 't', options.value? 'r', options.value? 'd' with
  | some words, _, _ =>
    match Clock.stamp? disk.clock words with
    | some moment => .ok moment
    | none => invalid words
  | none, some path, words =>
    match look disk true here path, words with
    | .error reason, _ => Filter.refuse (complaint "failed to get attributes of" path reason)
    | .ok (_, entry), none => .ok (timeOf entry)
    | .ok (_, entry), some words =>
      match Clock.moment? (timeOf entry) words with
      | some moment => .ok moment
      | none => invalid words
  | none, none, some words =>
    match Clock.moment? disk.clock words with
    | some moment => .ok moment
    | none => invalid words
  | none, none, none => .ok disk.clock

/-- Notes that a file was written at a moment, and makes an empty one where there is nothing, unless
nothing is to be made. -/
def touchOne (here : Place) (options : Options) (moment : Int) (deed : Deed) (path : Text) : Deed :=
  let disk := deed.disk
  if path = ['-'] then deed
  else match look disk true here path with
  | .ok (place, .file file) =>
    if options.has 'a' && !options.has 'm' then deed
    else deed.on (disk.putFile place { file with time := moment })
  | .ok _ => deed
  | .error reason =>
    if (options.has 'c' || options.has 'h') && reason = .missing then deed
    else if Text.endsWith "/" path then deed.fail (complaint "setting times of" path reason)
    else match disk.findWritable here path with
      | .ok place => deed.on (disk.put place (.file { disk.newFile .empty with time := moment }))
      | .error reason => deed.fail (complaint "cannot touch" path reason)

/-- Gives files another time. -/
def touches (here : Place) (options : Options) (deed : Deed) (operands : List Text) :
    Except Misuse Deed := do
  let moment ← chosenMoment deed.disk here options
  if operands.isEmpty then Filter.refuseWithHint "missing file operand"
  else return operands.foldl (touchOne here options moment) deed

/-- What a size that is asked for has to do with the size at hand. -/
inductive Resizing
  | exactly
  | more
  | less
  | atMost
  | atLeast
  | downTo
  | upTo
deriving DecidableEq

def resizing? (value : Text) : Option (Resizing × Nat) :=
  let table : List (Char × Resizing) := [('+', .more), ('-', .less), ('<', .atMost),
    ('>', .atLeast), ('/', .downTo), ('%', .upTo)]
  match value.dropWhile isGap with
  | c :: rest =>
    match table.lookup c with
    | some resizing => (Filter.amount? rest).map (resizing, ·)
    | none => (Filter.amount? (c :: rest)).map (.exactly, ·)
  | [] => none

def Resizing.applied (resizing : Resizing) (count size : Nat) : Nat :=
  match resizing with
  | exactly => count
  | more => size + count
  | less => size - count
  | atMost => min size count
  | atLeast => max size count
  | downTo => size / count * count
  | upTo => (size + count - 1) / count * count

/-- Makes a file as long as asked for, with zeros at its end if it grows. -/
def resizeOne (here : Place) (options : Options) (resizing : Resizing) (count : Nat)
    (base : Option Nat) (deed : Deed) (path : Text) : Deed :=
  let there := at? deed.disk here path
  let old := match there with
    | some (_, .file file) => rawOf file.contents
    | _ => []
  let size := resizing.applied count (base.getD old.length)
  if options.has 'c' && there.isNone then deed
  else match deed.disk.write here path
      (bytesOf (old.take size ++ List.replicate (size - old.length) '\x00')) with
    | (none, disk) => deed.on disk
    | (some refusal, disk) =>
      (deed.on disk).fail ("cannot open " ++ shown path ++ " for writing: " ++ refusal.reason.words)

/-- Gives files another size. -/
def resizes (here : Place) (options : Options) (deed : Deed) (operands : List Text) :
    Except Misuse Deed := do
  let chosen ← (options.value? 's').mapM fun value =>
    match resizing? value with
    | some (resizing, count) =>
      if count = 0 ∧ (resizing = .downTo ∨ resizing = .upTo) then Filter.refuse "division by zero"
      else Except.ok (resizing, if options.has 'o' then count * 4096 else count)
    | none => Filter.refuse ("Invalid number: " ++ printed value)
  match chosen, options.value? 'r', operands with
  | none, none, _ =>
    Filter.refuseWithHint "you must specify either ‘--size’ or ‘--reference’"
  | some (.exactly, _), some _, _ =>
    Filter.refuseWithHint "you must specify a relative ‘--size’ with ‘--reference’"
  | _, _, [] => Filter.refuseWithHint "missing file operand"
  | chosen, other, operands =>
    let (resizing, count) := chosen.getD (.more, 0)
    let base ← other.mapM fun path =>
      match look deed.disk true here path with
      | .ok (_, entry) => Except.ok (sizeOf entry)
      | .error reason => Filter.refuse (complaint "cannot stat" path reason)
    return operands.foldl (resizeOne here options resizing count base) deed

end Agenda.Shell.FileTool
