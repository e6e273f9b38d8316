import RobotBus.Bus.Basic

namespace RobotBus

inductive NetworkOrder
  | nodes
  | read (node name : String)
  | write (node name : String) (words : List Word)
  | addFilter
  | send (id : EventId) (words : List Word)
  | loadScript (file : String)
deriving DecidableEq, Repr

inductive FilterOrder
  | allow (id : EventId)
  | free
deriving DecidableEq, Repr

namespace NetworkOrder

def names? : List Value → Option (String × String)
  | .text node :: .text name :: _ => some (node, name)
  | _ => none

def ofCall (method : String) (args : List Value) : Except Fault NetworkOrder :=
  match method with
  | "GetNodesList" => .ok nodes
  | "GetVariable" =>
    match names? args with
    | some (node, name) => .ok (read node name)
    | none => .error (.invalidArguments "expected node and variable names")
  | "SetVariable" =>
    match names? args with
    | some (node, name) =>
      match args[2]?.bind Value.words? with
      | some ws => .ok (write node name ws)
      | none => .error (.invalidArguments "expected int16 array")
    | none => .error (.invalidArguments "expected node and variable names")
  | "CreateEventFilter" => .ok addFilter
  | "SendEvent" =>
    match args[0]?.bind Value.uint16? with
    | some id =>
      match args[1]?.bind Value.words? with
      | some ws => .ok (send ⟨id⟩ ws)
      | none => .error (.invalidArguments "expected int16 array")
    | none => .error (.invalidArguments "expected event id")
  | "LoadScripts" =>
    match args[0]?.bind Value.text? with
    | some file => .ok (loadScript file)
    | none => .error (.invalidArguments "expected file name")
  | method => .error (.unknownMethod networkInterface method)

end NetworkOrder

namespace FilterOrder

def ofCall (method : String) (args : List Value) : Except Fault FilterOrder :=
  match method with
  | "ListenEvent" =>
    match args[0]?.bind Value.uint16? with
    | some id => .ok (allow ⟨id⟩)
    | none => .error (.invalidArguments "expected event id")
  | "Free" => .ok free
  | method => .error (.unknownMethod filterInterface method)

end FilterOrder

namespace Bus

variable {ρ : Type}

def unknownNode (node : String) : Fault :=
  .invalidArguments ("node " ++ node ++ " does not exist")

def unknownVariable (node name : String) : Fault :=
  .invalidArguments ("variable " ++ name ++ " does not exist in node " ++ node)

def serveNetwork (b : Bus ρ) : NetworkOrder → Reply × Bus ρ
  | .nodes => (.ok [.texts (b.nodes.map Node.name)], b)
  | .read node name =>
    match b.node? node with
    | none => (.error (unknownNode node), b)
    | some n =>
      match n.values.get? name with
      | some ws => (.ok [.words ws], b)
      | none => (.error (unknownVariable n.name name), b)
  | .write node name ws =>
    match writeWords node name ws b.nodes with
    | some ns => (.ok [], { b with nodes := ns })
    | none => (.error (unknownNode node), b)
  | .addFilter =>
    let (path, b) := b.addFilter
    (.ok [.path path], b)
  | .send id ws => (.ok [], { b with sent := b.sent ++ [(id, ws)] })
  | .loadScript file => (.ok [], { b with scripts := b.scripts ++ [file] })

def serveFilter (b : Bus ρ) (n : Nat) : FilterOrder → Reply × Bus ρ
  | .allow id =>
    match b.filters.get? n with
    | some ids => (.ok [], { b with filters := b.filters.insert n (ids.insert id ()) })
    | none => (.ok [], b)
  | .free => (.ok [], { b with filters := b.filters.erase n })

def refusal? (b : Bus ρ) (method : String) : Option Fault :=
  if b.serving then b.refusals.get? method else some (.serviceUnknown serviceName)

/-- A call is read as an order first; an order that is refused changes nothing. -/
def serve (b : Bus ρ) (path interface method : String) (args : List Value) : Reply × Bus ρ :=
  match b.refusal? method with
  | some f => (.error f, b)
  | none =>
    if interface = networkInterface then
      if path = networkPath then
        match NetworkOrder.ofCall method args with
        | .ok o => b.serveNetwork o
        | .error f => (.error f, b)
      else (.error (.unknownObject path), b)
    else if interface = filterInterface then
      match b.liveFilter? path with
      | none => (.error (.unknownObject path), b)
      | some n =>
        match FilterOrder.ofCall method args with
        | .ok o => b.serveFilter n o
        | .error f => (.error f, b)
    else (.error (.unknownMethod interface method), b)

end Bus

end RobotBus
