import Agenda.Shell.FileTool.Aim

/-!
# Moving and linking files

Files and directories get another path, and files a second one; symbolic links are made to any path.
-/

namespace Agenda.Shell.FileTool

def cannotMove (source goal : Text) : Text :=
  "cannot move " ++ shown source ++ " to " ++ shown goal ++ ": "

def moveAt (here : Place) (options : Options) (source goal : Text) (batch : Batch) : Batch :=
  let disk := batch.deed.disk
  let letters : Text := "inf"
  match look disk false here source, disk.trace false here goal with
  | .error reason, _ => batch.fail (complaint "cannot stat" source reason)
  | .ok _, .error .missing => batch.fail (cannotMove source goal ++ Disk.Reason.missing.words)
  | .ok _, .error reason => batch.fail (complaint "cannot stat" goal reason)
  | .ok (place, entry), .ok target =>
    let moved (batch : Batch) (note : Option Text) : Batch :=
      let note := match note with
        | some kept => " (backup: " ++ kept ++ ")"
        | none => []
      (batch.make target.place (relocate batch.deed.disk place target.place)).tell options
        ("renamed " ++ shown source ++ " -> " ++ shown goal ++ note)
    if [(".".toList), "..".toList].contains (lastName source) then
      batch.fail (cannotMove source goal ++ "Device or resource busy")
    else match disk.get? target.place with
    | none =>
      if place.isPrefixOf target.place then
        batch.fail ("cannot move " ++ shown source ++ " to a subdirectory of itself, " ++
          shown goal)
      else if !disk.isDirectory target.place.dropLast then
        batch.fail (cannotMove source goal ++ Disk.Reason.missing.words)
      else if target.slash && !entry.isDirectory then
        batch.fail (cannotMove source goal ++ Disk.Reason.notDirectory.words)
      else moved batch none
    | some there =>
      if target.slash && !there.isDirectory then
        batch.fail (complaint "cannot stat" goal .notDirectory)
      else if place = target.place then batch.fail (sameFile source goal)
      else
        let (may, batch) := batch.mayReplace options letters goal (timeOf entry) there
        if !may then batch
        else if entry.isDirectory && !there.isDirectory then
          batch.fail ("cannot overwrite non-directory " ++ shown goal ++ " with directory " ++
            shown source)
        else if batch.made.contains target.place then
          batch.fail ("will not overwrite just-created " ++ shown goal ++ " with " ++ shown source)
        else if !entry.isDirectory && there.isDirectory then
          batch.fail ("cannot overwrite directory " ++ shown goal ++ " with non-directory")
        else if isSame disk place target.place then
          batch.make target.place (disk.erase place)
        else if place.isPrefixOf target.place then
          batch.fail ("cannot move " ++ shown source ++ " to a subdirectory of itself, " ++
            shown goal)
        else
          let (batch, note) := batch.keep here options goal target.place
          if !(batch.deed.disk.children target.place).isEmpty then
            batch.fail (complaint "cannot overwrite" goal .notEmpty)
          else moved batch note

/-- Moves every operand but the last one to the last one. -/
def moves (here : Place) (options : Options) (deed : Deed) (operands : List Text) :
    Except Misuse Deed := do
  let (sources, aim) ← aimed deed.disk here options false operands
  let batch := sources.foldl (fun batch source =>
    moveAt here options source (aim.goalOf source) batch) ({ deed } : Batch)
  return batch.deed

def linkAt (here : Place) (options : Options) (source goal : Text) (batch : Batch) : Batch :=
  let disk := batch.deed.disk
  let symbolic := options.has 's'
  let found := look disk (options.has 'L') here source
  let failed (reason : Disk.Reason) : Text :=
    let kind : Text := if symbolic then "symbolic" else "hard"
    let toward : Text := if symbolic then (if source.isEmpty then " -> ''" else [])
      else if reason = .occupied then [] else " => " ++ shown source
    "failed to create " ++ kind ++ " link " ++ shown goal ++ toward ++ ": " ++ reason.words
  let text := match options.has 'r', disk.follow here source, disk.follow here goal with
    | true, .ok source, .ok goal => pathBetween goal.place.dropLast source.place
    | _, _, _ => source
  let arrow : Text := if symbolic then " -> " else " => "
  let made (batch : Batch) (target : Place) (note : Option Text) : Batch :=
    let disk := batch.deed.disk
    let batch := batch.make target (match symbolic, found with
      | false, .ok (place, _) => share disk place target
      | _, _ => disk.put target (.link text))
    let note := match note with
      | some kept => kept ++ " ~ "
      | none => []
    batch.tell options (note ++ shown goal ++ arrow ++ shown text)
  match symbolic, found, disk.trace false here goal with
  | false, .error reason, _ => batch.fail (complaint "failed to access" source reason)
  | false, .ok (_, .directory _), _ =>
    batch.fail (named source ++ ": hard link not allowed for directory")
  | _, _, .error reason => batch.fail (failed reason)
  | _, _, .ok target =>
    let replaces := options.has 'f' || options.has 'i' || "bBS".toList.any options.has
    if symbolic && source.isEmpty then batch.fail (failed .missing)
    else match disk.get? target.place, found with
    | none, _ =>
      if target.slash || !disk.isDirectory target.place.dropLast then batch.fail (failed .missing)
      else made batch target.place none
    | some there, found =>
      if !replaces then batch.fail (failed .occupied)
      else if there.isDirectory then
        batch.fail (named goal ++ ": cannot overwrite directory")
      else if batch.made.contains target.place then
        batch.fail ("will not overwrite just-created " ++ shown goal ++ " with " ++ shown source)
      else
        let same := match found with
          | .ok (place, _) => place = target.place || (!symbolic && isSame disk place target.place)
          | .error _ => false
        if same && !(symbolic && "bBS".toList.any options.has) then
          batch.fail (sameFile source goal)
        else
          let (may, batch) : Bool × Batch := match options.lastOf "if" with
            | some 'i' =>
              let (yes, deed) := batch.deed.ask ("replace " ++ shown goal ++ "? ")
              (yes, { batch with deed := if yes then deed else deed.lose })
            | _ => (true, batch)
          if !may then batch
          else
            let (batch, note) := batch.keep here options goal target.place
            if note.isNone && !options.has 'f' && !options.has 'i' then
              batch.fail (failed .occupied)
            else made batch target.place note

/-- Makes links to every operand but the last one, at the last one or in a directory. -/
def links (here : Place) (options : Options) (deed : Deed) (operands : List Text) :
    Except Misuse Deed := do
  let alone := operands.length = 1 ∧ !options.has 't' ∧ !options.has 'T'
  let (sources, aim) ← if alone then pure (operands, Aim.directory ['.'])
    else aimed deed.disk here options (options.has 'n') operands
  let batch := sources.foldl (fun batch source =>
    let goal := if alone then "./".toList ++ lastName source else aim.goalOf source
    linkAt here options source goal batch) ({ deed } : Batch)
  return batch.deed

end Agenda.Shell.FileTool
