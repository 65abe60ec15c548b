import Agenda.Shell.Find.Reader
import Agenda.Shell.Session

/-!
# Searches

What a search keeps in mind while it goes through trees: where it may not go on, which commands are
to be called in the end with which paths, and where the files are that it writes. How a command is
called is left open here.
-/

namespace Agenda.Shell.Find

/-- A command that is to be called in the end, the directory that it is called in if that is not the
one at hand, and the paths behind it. -/
structure Batch where
  call : Call
  folder : Option Text
  paths : List Text

structure Search where
  /-- Whether it goes no further down, and whether it ends. -/
  prunes : Bool := false
  ends : Bool := false
  batches : List Batch := []
  outputs : List (Text × Channel) := []

def addPath (call : Call) (folder : Option Text) (path : Text) : List Batch → List Batch
  | [] => [⟨call, folder, [path]⟩]
  | batch :: rest =>
    if batch.call = call ∧ batch.folder = folder then
      { batch with paths := batch.paths ++ [path] } :: rest
    else batch :: addPath call folder path rest

/-- The path by which a command names a file in its directory. -/
def Item.innerPath (item : Item) : Text :=
  let last := FileTool.lastName item.path
  "./".toList ++ last

/-- Keeps a file in mind for a command. -/
def Search.gather (search : Search) (call : Call) (item : Item) : Search :=
  { search with
    batches := if call.inside then addPath call (some item.folder) item.innerPath search.batches
      else addPath call none item.path search.batches }

/-- The words of a command with a file in the place of two braces. -/
def Call.wordsFor (call : Call) (item : Item) : List Text :=
  call.words.map (Text.replaceAll braces (if call.inside then item.innerPath else item.path))

/-- Opens a file that a search writes. -/
def openOutput (session : Session) (path : Text) : Except Text (Channel × Session) :=
  match session.leadToFile? 9 path false with
  | some led => .ok ((led.channels.lookup 9).getD .nowhere, { led with channels := session.channels })
  | none =>
    let reason : Disk.Reason := match session.disk.findWritable session.here path with
      | .error reason => reason
      | .ok _ => .missing
    .error (FileTool.printed path ++ ": " ++ reason.words)

/-- Opens the files that a search writes. -/
def openOutputs : List Text → Session → Except Text (List (Text × Channel) × Session)
  | [], session => .ok ([], session)
  | path :: rest, session => do
    let (channel, session) ← openOutput session path
    let (outputs, session) ← openOutputs rest session
    return ((path, channel) :: outputs, session)

/-- Prints a text to a file that a search writes, or else where its output goes. -/
def Search.print (search : Search) (goal : Option Text) (t : Text) (session : Session) : Session :=
  match goal.bind fun path => search.outputs.lookup path with
  | some channel => session.printTo channel t
  | none => session.print 1 t

/-- Says why a search cannot go on somewhere. -/
def complain (words : Text) (session : Session) : Session :=
  (session.complains ("find: " ++ words)).ended 1

def startAt (plan : Plan) (path : Text) (session : Session) : Except Text Item :=
  match FileTool.look session.disk false session.here path with
  | .ok (place, entry) =>
    let item : Item := { path, start := path, depth := 0, place, entry, self := entry }
    if plan.links = .none then .ok item else item.followed session.disk session.here
  | .error reason => .error (FileTool.printed path ++ ": " ++ reason.words)

/-- What is directly below what a search has come to, as far as it can be followed, and what is said
about the rest. -/
def itemsBelow (plan : Plan) (item : Item) (session : Session) : List (Except Text Item) :=
  if item.entry.isDirectory && (session.disk.get? item.place).isNone then
    [.error (FileTool.printed item.path ++ ": " ++ Disk.Reason.missing.words)]
  else (item.below session.disk).map fun inner =>
    if plan.links = .all then inner.followed session.disk session.here else .ok inner

def remove (item : Item) (session : Session) : Bool × Session :=
  if item.entry.isDirectory ∧ !(session.disk.children item.place).isEmpty then
    (false, complain ("cannot delete " ++ FileTool.printed item.path ++ ": Directory not empty")
      session)
  else if item.place = session.here then (true, session)
  else (true, { session with disk := session.disk.erase item.place })

def ask (call : Call) (item : Item) (session : Session) : Bool × Session :=
  let session := session.print 2 (raw ("< " ++ call.words.headD [] ++ " ... " ++ item.path ++
    " > ? "))
  let t := rawOf session.input
  let line := t.takeWhile (· ≠ '\n')
  (line.head? = some 'y' || line.head? = some 'Y',
    { session with input := bytesOf (t.drop (line.length + 1)) })

/-- The session in the directory of a file. -/
def insideOf (folder : Option Text) (session : Session) : Session :=
  match folder.bind fun path => FileTool.at? session.disk session.here path with
  | some (place, _) => { session with here := place }
  | none => session

/-! ### Going through trees -/

variable (call : List Text → Session → Session)

def put (query : Query) (item : Item) (search : Search) (session : Session) :
    Bool × Search × Session :=
  match query with
  | .ask question =>
    (question.answer session.disk session.here item, search, session)
  | .act (.print goal ending) => (true, search, search.print goal (raw item.path ++ [ending]) session)
  | .act (.printAs goal format) =>
    (true, search, search.print goal (item.formatted session.disk session.here format) session)
  | .act (.list goal) => (true, search, search.print goal (item.listed session.disk) session)
  | .act .remove =>
    let (well, session) := remove item session
    (well, search, session)
  | .act (.call action) =>
    let (wanted, session) := if action.asks then ask action item session else (true, session)
    if wanted then
      let start := insideOf (if action.inside then some item.folder else none) session
      let start := if action.asks then { start with input := .empty } else start
      let after := call (action.wordsFor item) start
      let input := if action.asks then session.input else after.input
      (after.status = 0, search, { after with here := session.here, input }.ended session.status)
    else (false, search, session)
  | .act (.gather action) => (true, search.gather action item, session)
  | .act .prune => (true, { search with prunes := true }, session)
  | .act .quit => (true, { search with ends := true }, session)
  | .not query =>
    let (found, search, session) := put query item search session
    (!found, search, session)
  | .join joint first second =>
    let (found, search, session) := put first item search session
    if joint = .behind || found = (joint = .both) then put second item search session
    else (found, search, session)

mutual

/-- Goes through some of what a search has come to, and says what cannot be followed. -/
def findAll : Nat → Request → List (Except Text Item) → Search → Session →
    Search × Session
  | 0, _, _, search, session => (search, session)
  | _ + 1, _, [], search, session => (search, session)
  | fuel + 1, request, .error words :: rest, search, session =>
    findAll fuel request rest search (if search.ends then session else complain words session)
  | fuel + 1, request, .ok item :: rest, search, session =>
    let (search, session) := findBelow fuel request item { search with prunes := false } session
    findAll fuel request rest search session

/-- Goes through what a search has come to and all below it. -/
def findBelow : Nat → Request → Item → Search → Session → Search × Session
  | 0, _, _, search, session => (search, session)
  | fuel + 1, request, item, search, session =>
    let visit (search : Search) (session : Session) : Search × Session :=
      if request.plan.least ≤ item.depth && !search.ends then
        let (_, search, session) :=
          put call request.query item { search with prunes := false } session
        (search, session)
      else ({ search with prunes := false }, session)
    let descend (search : Search) (session : Session) : Search × Session :=
      if search.prunes || search.ends || request.plan.most.any (· ≤ item.depth) then
        (search, session)
      else findAll fuel request (itemsBelow request.plan item session) search session
    if request.plan.upwards then
      let (search, session) := descend search session
      visit search session
    else
      let (search, session) := visit search session
      descend search session

end

/-- Goes through trees of files. -/
def search (fuel : Nat) (arguments : List Text) (session : Session) : Session :=
  match Request.read ⟨session.disk, session.here⟩ arguments with
  | .error lines =>
    (lines.foldl (fun session words => session.complains ("find: " ++ words)) session).ended 1
  | .ok request =>
    let session := request.plan.remarks.foldl
      (fun session words => session.complains ("find: " ++ words)) (session.ended 0)
    match openOutputs request.plan.outputs session with
    | .error words => complain words session
    | .ok (outputs, session) =>
      let (search, session) := findAll call fuel request
        (request.starts.map fun path => startAt request.plan path session) { outputs } session
      search.batches.foldl (fun session batch =>
        let after := call (batch.call.words ++ batch.paths)
          (insideOf batch.folder session)
        { after with here := session.here }.ended
          (if after.status = 0 then session.status else 1)) session

end Agenda.Shell.Find
