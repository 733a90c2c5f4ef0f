import VolumeService.Cursor
import VolumeService.DeviceDir
import VolumeService.Session.Basic

/-! # What the steps about nodes do

Each step looks up the labels it mentions, and is answered by `none` if one of them is not
what it should be.  A response is the session afterwards, the result, and what was made; who
asks for the step decides whether that is kept. -/

namespace VolumeService.Session

/-- What a step did: the session afterwards, the result, and what was made. -/
structure Response where
  session : Session
  result : Result
  made : Option Thing := none

/-- The response with a value. -/
def respond (s : Session) (value : Value) : Response := { session := s, result := .value value }

/-- The response with a node as value. -/
def respondNode (s : Session) (n : NodeId) : Response :=
  { session := s
    result := .value (.node (s.graph.name n) (s.graph.kind n))
    made := some (.node .other n) }

/-- The response of a search for a node that may fail. -/
def respondLookup (s : Session) : Except NodeError NodeId → Response
  | .ok n => s.respondNode n
  | .error cause => { session := s, result := .nodeError cause }

/-- The response of a search for a node that may come to nothing. -/
def respondNode? (s : Session) : Option NodeId → Response
  | some n => s.respondNode n
  | none => s.respond .absent

/-- The response of making a node. -/
def respondNew (s : Session) (origin : Origin) (node : Node) : Response :=
  { session := s.setGraph (s.graph.push node)
    result := .value .done
    made := some (.node origin s.graph.fresh) }

/-- The response of a change of a directory. -/
def respondChange (s : Session) : Except NodeError Graph → Response
  | .ok g => (s.setGraph g).respond .done
  | .error cause => { session := s, result := .nodeError cause }

/-- The links of a fixed directory with their labels looked up. -/
def links? (s : Session) :
    List (String × Except NodeError Label) → Option (List (String × Except NodeError NodeId))
  | [] => some []
  | (name, .error cause) :: rest => (s.links? rest).map ((name, .error cause) :: ·)
  | (name, .ok label) :: rest =>
    match s.node? label, s.links? rest with
    | some n, some links => some ((name, .ok n) :: links)
    | _, _ => none

/-- The answer of a change of a directory between two uses of a cursor. -/
def changed (cursor : Cursor) (g : Graph) :
    Except NodeError Graph → CursorAnswer × Cursor × Graph
  | .ok g => (.done, cursor, g)
  | .error cause => (.refused cause, cursor, g)

/-- One use of a cursor over the listing of a node, or one change between two uses. -/
def cursorStep (s : Session) (node : NodeId) (cursor : Cursor) (g : Graph) :
    CursorStep → Option (CursorAnswer × Cursor × Graph)
  | .next =>
    match cursor.next? g node with
    | some (line, cursor) => some (.line (some line), cursor, g)
    | none => some (.line none, cursor, g)
  | .rest =>
    let read := cursor.rest g node
    some (.lines read.1, read.2, g)
  | .position => some (.position cursor.position, cursor, g)
  | .rewind => some (.done, cursor.rewind, g)
  | .seek position => some (.done, cursor.seek position, g)
  | .add dir child =>
    match s.dir? dir, s.node? child with
    | some dir, some child => some (changed cursor g (g.add dir child))
    | _, _ => none
  | .remove dir name =>
    (s.dir? dir).map fun dir => changed cursor g ((g.remove dir name).map (·.2))

/-- Uses of one cursor in a row. -/
def browse (s : Session) (node : NodeId) :
    Cursor → Graph → List CursorStep → Option (List CursorAnswer × Graph)
  | _, g, [] => some ([], g)
  | cursor, g, step :: rest =>
    match s.cursorStep node cursor g step with
    | none => none
    | some (answer, cursor, g) =>
      (s.browse node cursor g rest).map fun more => (answer :: more.1, more.2)

/-- What a step about nodes does. -/
def performNode (s : Session) : NodeStep → Option Response
  | .newDirectory name => some (s.respondNew .directory (.newDirectory name))
  | .newNull => some (s.respondNew .other .newNull)
  | .newZero => some (s.respondNew .other .newZero)
  | .newImage name bytes => some (s.respondNew .image (.newImage name bytes))
  | .newBare name kind readFault =>
    some (s.respondNew .other { name, content := .bare kind readFault })
  | .newFixed name listing links =>
    (s.links? links).map fun links =>
      s.respondNew .other { name, content := .fixed listing links }
  | .newDevices devices =>
    (devices.mapM s.node?).map fun devices =>
      match DeviceDir.createWith s.graph devices with
      | (.ok dir, g) =>
        { session := s.setGraph g, result := .value .done, made := some (.node .devices dir) }
      | (.error cause, g) => { session := s.setGraph g, result := .nodeError cause }
  | .add dir child =>
    match s.dir? dir, s.node? child with
    | some dir, some child => some (s.respondChange (s.graph.add dir child))
    | _, _ => none
  | .remove dir name =>
    (s.dir? dir).map fun dir =>
      match s.graph.remove dir name with
      | .ok (child, g) => (s.setGraph g).respondNode child
      | .error cause => { session := s, result := .nodeError cause }
  | .info node =>
    (s.node? node).map fun n =>
      s.respond (.nodeInfo (s.graph.name n) (s.graph.kind n) (s.graph.isDevice n)
        ((s.graph.parent? n).map s.graph.name))
  | .read node offset size =>
    (s.node? node).map fun n =>
      match s.graph.read n offset (List.replicate size 0xAA) with
      | .ok (count, buffer) => s.respond (.bytes count buffer)
      | .error cause => { session := s, result := .nodeError cause }
  | .lineAt node index =>
    (s.node? node).map fun n =>
      match s.graph.lineAt n index with
      | .ok (some line) => s.respond (.line line)
      | .ok none => s.respond .absent
      | .error cause => { session := s, result := .nodeError cause }
  | .line node index =>
    (s.node? node).map fun n =>
      match Namespace.line? s.graph n index with
      | some line => s.respond (.line line)
      | none => s.respond .absent
  | .lookup node name =>
    (s.node? node).map fun n => s.respondLookup (s.graph.lookup n name)
  | .child node name =>
    (s.node? node).map fun n => s.respondNode? (Namespace.child? s.graph n name)
  | .parent node => (s.node? node).map fun n => s.respondNode? (s.graph.parent? n)
  | .reparent node parent =>
    match s.node? node, s.node? parent with
    | some n, some parent => some ((s.setGraph (s.graph.reparent n parent)).respond .done)
    | _, _ => none
  | .resolve root path =>
    (s.node? root).map fun n => s.respondLookup (Namespace.resolve s.graph n path)
  | .browse node steps =>
    (s.node? node).bind fun n =>
      (s.browse n .start s.graph steps).map fun browsed =>
        (s.setGraph browsed.2).respond (.browsed browsed.1)

end VolumeService.Session
