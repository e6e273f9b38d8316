import RobotBus.Bus.Service

namespace RobotBus.Bus

variable {ρ : Type}

def connect (b : Bus ρ) (scope : Scope) : Except Fault Unit × Bus ρ :=
  match b.connectRefusal with
  | some f => (.error f, b)
  | none => (.ok (), { b with connected := true }.note (.connect scope))

def disconnect (b : Bus ρ) : Bus ρ := { b with connected := false }.note .disconnect

def reach (b : Bus ρ) (path : String) : Except Fault Unit × Bus ρ :=
  (if b.serving then .ok () else .error (.serviceUnknown serviceName), b.note (.reach path))

def call (b : Bus ρ) (path interface method : String) (args : List Value) : Reply × Bus ρ :=
  (b.note (.call path method)).serve path interface method args

/-- A call whose caller does not wait. Its effect is there at once; the reply may be held back. -/
def submit (b : Bus ρ) (path interface method : String) (args : List Value) (target : ρ) :
    Option Reply × Bus ρ :=
  let (reply, b) := (b.note (.submit path method)).serve path interface method args
  if b.holding then (none, { b with held := b.held ++ [(target, reply)] }) else (some reply, b)

/-- The token names the watch, and has not been used before. -/
def watch (b : Bus ρ) (path interface signal : String) (listener : Listener) : Nat × Bus ρ :=
  let b := b.note (.watch path signal)
  (b.nextToken,
    { b with
      watches := b.watches.insert b.nextToken ⟨path, interface, signal, listener⟩
      nextToken := b.nextToken + 1 })

def unwatch (b : Bus ρ) (token : Nat) : Bus ρ :=
  let b := b.note (.unwatch token)
  { b with watches := b.watches.erase token }

def children (b : Bus ρ) (path : String) : Except Fault (List String) :=
  if path = networkPath then .ok (if b.hadFilter then [filtersName] else [])
  else if path = filtersPath ∧ b.hadFilter then .ok (b.filters.keys.map toString)
  else .error (.unknownObject path)

def listChildren (b : Bus ρ) (path : String) : Except Fault (List String) × Bus ρ :=
  (b.children path, b.note (.listChildren path))

def forwarding (b : Bus ρ) (id : EventId) : List String :=
  (b.filters.entries.filter (fun e ↦ e.2.contains id)).map (fun e ↦ pathOfFilter e.1)

def hears (paths : List String) (w : Watch) : Bool :=
  w.interface = filterInterface && w.signal = eventSignal && paths.contains w.path

/-- Who receives an event, in the order in which they began to watch. -/
def listeners (b : Bus ρ) (id : EventId) : List Listener :=
  (b.watches.entries.filter (fun e ↦ hears (b.forwarding id) e.2)).map (fun e ↦ e.2.listener)

def eventBody (id : EventId) (name : String) (values : List Word) : List Value :=
  [.uint16 id.val, .text name, .words values]

def release (b : Bus ρ) : List (ρ × Reply) × Bus ρ := (b.held, { b with held := [] })

def setServing (b : Bus ρ) (serving : Bool) : Bus ρ := { b with serving := serving }

def refuseConnections (b : Bus ρ) (f : Fault) : Bus ρ := { b with connectRefusal := some f }

def refuseMethod (b : Bus ρ) (method : String) (f : Fault) : Bus ρ :=
  { b with refusals := b.refusals.insert method f }

def clearRefusals (b : Bus ρ) : Bus ρ := { b with refusals := .empty, connectRefusal := none }

def setHolding (b : Bus ρ) (holding : Bool) : Bus ρ := { b with holding := holding }

def clearJournal (b : Bus ρ) : Bus ρ := { b with journal := [] }

end RobotBus.Bus
