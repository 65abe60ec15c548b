import Agenda.Shell.FileTool.Aim
import Agenda.Shell.FileTool.Mode

/-!
# Copying files

Files are copied with their contents, or get a second name, or are led to by a symbolic link.
Directories are copied with all that is in them, if that is asked for; a directory that is copied
into itself is not copied again when it is met there.
-/

namespace Agenda.Shell.FileTool

/-- A copy that is under way: what is copied to where, and how. -/
structure Copying where
  here : Place
  options : Options
  source : Text
  goal : Text
  omits : Text := "-r not specified; omitting directory "

namespace Copying

/-- Whether directories are copied. -/
def deep (copying : Copying) : Bool :=
  copying.options.has 'r' || copying.options.has 'R' || copying.options.has 'a'

/-- Whether a symbolic link is followed; `outer` says that it is named itself. -/
def follows (copying : Copying) (outer : Bool) : Bool :=
  match copying.options.lastOf "LHPda" with
  | some 'L' => true
  | some 'H' => outer
  | some _ => false
  | none => !copying.deep || copying.options.has 'l'

/-- Whether files keep their times and modes. -/
def exact (copying : Copying) : Bool :=
  copying.options.has 'p' || copying.options.has 'a' || copying.options.has 'k'

def fresh (copying : Copying) (disk : Disk) (file : File) : File :=
  if copying.exact then { file with group := none }
  else
    let mode := modeOf file &&& (511 ^^^ disk.mask)
    { file with
      group := none
      time := disk.clock
      executable := mode &&& 73 ≠ 0
      mode := if disk.mask = 18 ∧ file.mode.isNone then none else some mode }

/-- The disk with the contents of a file at a place; a file that is there keeps what may be done
with it. -/
def fill (copying : Copying) (file : File) (place : Place) (disk : Disk) : Disk :=
  let copy := copying.fresh disk file
  match disk.get? place with
  | some (.file old) =>
    disk.putFile place (if copying.exact then { copy with group := old.group }
      else { old with contents := file.contents, time := disk.clock })
  | _ => disk.put place (.file copy)

/-- Makes what stands for a file at a new place, or in the place of the file there. -/
def make (copying : Copying) (source goal : Text) (place : Place) (entry : Entry) (target : Place)
    (batch : Batch) : Batch :=
  let disk := batch.deed.disk
  let there := (disk.get? target).isSome && !copying.options.has 'f'
  if !disk.isDirectory target.dropLast then
    batch.fail (complaint "cannot create regular file" goal .missing)
  else if copying.options.has 'l' then
    if there then
      batch.fail ("cannot create hard link " ++ shown goal ++ " to " ++ shown source ++ ": " ++
        Disk.Reason.occupied.words)
    else batch.make target (share disk place target)
  else if copying.options.has 's' then
    if !Text.startsWith "/" source && target.dropLast ≠ copying.here then
      batch.fail (named goal ++ ": can make relative symbolic links only in current directory")
    else if there then
      batch.fail ("cannot create symbolic link " ++ shown goal ++ " to " ++ shown source ++ ": " ++
        Disk.Reason.occupied.words)
    else batch.make target (disk.put target (.link source))
  else match entry with
    | .file file => batch.make target (copying.fill file target disk)
    | entry => batch.make target (disk.put target entry)

def copyLeaf (copying : Copying) (source goal : Text) (place : Place) (entry : Entry)
    (batch : Batch) : Batch :=
  let disk := batch.deed.disk
  let options := copying.options
  let kind : Text := match entry with
    | .link _ => "symbolic link"
    | _ => "regular file"
  let own := "lsbBSe".toList.any options.has || kind = "symbolic link".toList
  match disk.trace (!own) copying.here goal with
  | .error .missing => batch.fail (complaint ("cannot create " ++ kind) goal .missing)
  | .error reason => batch.fail (complaint "cannot stat" goal reason)
  | .ok target =>
    let line (note : Option Text) : Text := shown source ++ " -> " ++ shown goal ++
      match note with
      | some kept => " (backup: " ++ kept ++ ")"
      | none => []
    match disk.get? target.place with
    | none =>
      if target.slash then batch.fail (complaint ("cannot create " ++ kind) goal .notDirectory)
      else if (self? disk copying.here goal).isSome then
        batch.fail ("not writing through dangling symlink " ++ shown goal)
      else copying.make source goal place entry target.place (batch.tell options (line none))
    | some (.directory _) =>
      batch.fail ("cannot overwrite directory " ++ shown goal ++ " with non-directory")
    | some there =>
      if target.slash then batch.fail (complaint "cannot stat" goal .notDirectory)
      else if isSame disk place target.place then
        if options.has 'l' then batch else batch.fail (sameFile source goal)
      else
        let (may, batch) := batch.mayReplace options "in" goal (timeOf entry) there
        if !may then batch
        else if batch.made.contains target.place then
          batch.fail ("will not overwrite just-created " ++ shown goal ++ " with " ++ shown source)
        else
          let (batch, note) := batch.keep copying.here options goal target.place
          let removes := note.isNone && (options.has 'e' || kind = "symbolic link".toList)
          let batch := if removes then
              { batch with deed := batch.deed.on (batch.deed.disk.erase target.place) }
            else batch
          let batch := if removes && options.has 'e' then
              batch.tell options ("removed " ++ shown goal)
            else batch
          copying.make source goal place entry target.place (batch.tell options (line note))

def copyStream (copying : Copying) (source goal : Text) (device : Device) (batch : Batch) : Batch :=
  let contents := if device = .input then batch.deed.input else .empty
  let deed := if device = .input then { batch.deed with input := .empty } else batch.deed
  copying.copyLeaf source goal [] (.file { contents, time := deed.disk.clock }) { batch with deed }

def pour (file : File) (device : Device) (batch : Batch) : Batch :=
  match device with
  | .output => { batch with deed := batch.deed.say (.prints (rawOf file.contents)) }
  | .complaints => { batch with deed := batch.deed.say (.mutters (rawOf file.contents)) }
  | _ => batch

/-- Copies what a path leads to, with all below it; `outer` says that the path is a source itself,
and not in one. -/
def copyAt (copying : Copying) : Nat → (outer : Bool) → (source goal : Text) → Batch → Batch
  | 0, _, _, _, batch => batch
  | fuel + 1, outer, source, goal, batch =>
    let disk := batch.deed.disk
    match look disk (copying.follows outer) copying.here source, device? source, device? goal with
    | .error _, some device, _ => copying.copyStream source goal device batch
    | .ok (_, .file file), _, some device => pour file device batch
    | .error reason, none, _ => batch.fail (complaint "cannot stat" source reason)
    | .ok (place, .directory mode), _, _ =>
      if !copying.deep then batch.fail (copying.omits ++ shown source)
      else if outer && batch.sources.contains place then
        batch.warn ("warning: source directory " ++ shown source ++ " specified more than once")
      else if batch.first = some place then
        { batch.fail ("cannot copy a directory, " ++ shown copying.source ++ ", into itself, " ++
            shown copying.goal) with looped := true }
      else
        let batch := if outer then { batch with sources := place :: batch.sources } else batch
        let inside (batch : Batch) : Batch :=
          (batch.deed.disk.children place).foldl (fun batch name =>
            if batch.looped then batch
            else copyAt copying fuel false (below source name) (below goal name) batch) batch
        match disk.trace false copying.here goal with
        | .error .missing => batch.fail (complaint "cannot create directory" goal .missing)
        | .error reason => batch.fail (complaint "cannot stat" goal reason)
        | .ok target =>
          match disk.get? target.place with
          | some (.directory _) => inside batch
          | some _ => batch.fail ("cannot overwrite non-directory " ++ shown goal ++
              " with directory " ++ shown source)
          | none =>
            if !disk.isDirectory target.place.dropLast then
              batch.fail (complaint "cannot create directory" goal .missing)
            else
              let mode := if copying.exact then mode else mode &&& (4095 ^^^ disk.mask)
              let batch := batch.make target.place (disk.put target.place (.directory mode))
              inside ({ batch with first := batch.first.or (some target.place) }.tell
                copying.options (shown source ++ " -> " ++ shown goal))
    | .ok (place, entry), _, _ =>
      if outer && batch.sources.contains place && !"bBS".toList.any copying.options.has then
        batch.warn ("warning: source file " ++ shown source ++ " specified more than once")
      else
        let batch := if outer then { batch with sources := place :: batch.sources } else batch
        copying.copyLeaf source goal place entry batch

end Copying

def waysTo (path : Text) : List Text :=
  let isStep (k : Nat) : Bool :=
    path[k]? == some '/' && (path[k - 1]?.any (· ≠ '/')) && 0 < k &&
      (path.drop k).any (· ≠ '/')
  (List.range path.length).filterMap fun k => if isStep k then some (path.take k) else none

/-- Makes the directories on the way to a source below a goal. -/
def makeParents (here : Place) (options : Options) (goal source : Text) (batch : Batch) : Batch :=
  (waysTo source).foldl (fun batch way =>
    let path := below goal way
    if isFolder batch.deed.disk here path then batch
    else match batch.deed.disk.makeDirectory here path with
      | .ok disk =>
        { batch with deed := batch.deed.on disk }.tell options (way ++ " -> " ++ path)
      | .error refusal => batch.fail (complaint "cannot make directory" path refusal.reason)) batch

/-- Copies every operand but the last one to the last one. -/
def copies (here : Place) (options : Options) (deed : Deed) (operands : List Text) :
    Except Misuse Deed := do
  let (sources, aim) ← aimed deed.disk here options false operands
  let fuel := deed.disk.entries.length + 2
  match options.has 'q', aim with
  | true, .path _ =>
    Filter.refuseWithHint "with --parents, the destination must be a directory"
  | parents, aim =>
    let batch := sources.foldl (fun batch source =>
      let (goal, batch) : Text × Batch := match parents, aim with
        | true, .directory goal => (below goal source, makeParents here options goal source batch)
        | _, aim => (aim.goalOf source, batch)
      let copying : Copying := { here, options, source, goal }
      copying.copyAt fuel true source goal { batch with first := none, looped := false })
      ({ deed } : Batch)
    return batch.deed

/-- Makes a directory and those on the way to it, and says so if asked to. -/
def installFolder (here : Place) (options : Options) (deed : Deed) (path : Text) : Deed :=
  (waysTo path ++ [path]).foldl (fun deed way =>
    if isFolder deed.disk here way then deed
    else match deed.disk.makeDirectory here way with
      | .ok disk =>
        let deed := deed.on disk
        if options.has 'v' then deed.tell ("install: creating directory " ++ shown way ++ "\n")
        else deed
      | .error refusal => deed.fail (complaint "cannot create directory" way refusal.reason)) deed

/-- Copies files as programs, or makes directories. -/
def installs (here : Place) (options : Options) (deed : Deed) (operands : List Text) :
    Except Misuse Deed := do
  let chosen := (options.value? 'm').getD "755".toList
  let some mode := Mode.ofText? chosen
    | Filter.refuse ("invalid mode " ++ printed chosen)
  if options.has 'd' then
    if operands.isEmpty then Filter.refuseWithHint "missing file operand"
    else return operands.foldl (installFolder here options) deed
  else
    let front : Text := match options.value? 't', operands.getLast? with
      | some goal, _ => below goal "x"
      | none, some goal => goal
      | none, none => []
    let deed := if options.has 'D' then
        ((waysTo front).getLast?.map (installFolder here options deed)).getD deed
      else deed
    let (sources, aim) ← aimed deed.disk here options false operands
    let batch := sources.foldl (fun batch source =>
      let goal := aim.goalOf source
      let options := ('e', []) :: options.filter fun (letter, _) => "vpbBS".toList.contains letter
      let copying : Copying := { here, options, source, goal, omits := "omitting directory " }
      let before := batch.deed.well
      let batch := copying.copyAt 1 true source goal
        { batch with deed := { batch.deed with well := true }, sources := [] }
      let well := batch.deed.well
      let deed := match well, at? batch.deed.disk here goal with
        | true, some (place, .file file) =>
          batch.deed.on (batch.deed.disk.putFile place (withMode (mode.applied 0 false 0) file))
        | _, _ => batch.deed
      { batch with deed := { deed with well := well && before } }) ({ deed } : Batch)
    return batch.deed

end Agenda.Shell.FileTool
