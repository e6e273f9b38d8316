import RobotBus.Settings
import RobotBus.Text.Affix
import RobotBus.Text.Digits

namespace RobotBus

def serviceName : String := "ch.epfl.mobots.Aseba"

def networkPath : String := "/"

def networkInterface : String := "ch.epfl.mobots.AsebaNetwork"

def filterInterface : String := "ch.epfl.mobots.EventFilter"

def filtersName : String := "events_filters"

def filtersPath : String := "/" ++ filtersName

def eventSignal : String := "Event"

inductive Listener
  | mailbox (n : Nat)
  | log (tag : String)
deriving DecidableEq, Repr

inductive JournalEntry
  | connect (scope : Scope)
  | reach (path : String)
  | call (path method : String)
  | submit (path method : String)
  | watch (path signal : String)
  | unwatch (token : Nat)
  | listChildren (path : String)
  | disconnect
deriving DecidableEq, Repr

structure Node where
  name : String
  values : Directory String (List Word)
deriving DecidableEq, Repr

structure Watch where
  path : String
  interface : String
  signal : String
  listener : Listener
deriving DecidableEq, Repr

/-- A bus with the network service of a group of robots on it. `ρ` tells where the reply of a
submitted call goes. -/
structure Bus (ρ : Type) where
  /-- Whether the service is there. -/
  serving : Bool
  connected : Bool
  connectRefusal : Option Fault
  nodes : List Node
  /-- The live filters by number, with the events each of them passes on. -/
  filters : Directory Nat EventSet
  /-- A counter of 32 bits, taken not to overflow: it stays below `filterBound`. -/
  nextFilter : Nat
  /-- Whether there has ever been a filter. -/
  hadFilter : Bool
  watches : Directory Nat Watch
  /-- A counter of 64 bits, taken not to overflow. -/
  nextToken : Nat
  scripts : List String
  sent : List (EventId × List Word)
  refusals : Directory String Fault
  /-- Whether replies are held back. -/
  holding : Bool
  held : List (ρ × Reply)
  journal : List JournalEntry

namespace Bus

variable {ρ : Type}

def start : Bus ρ where
  serving := true
  connected := false
  connectRefusal := none
  nodes := []
  filters := .empty
  nextFilter := 0
  hadFilter := false
  watches := .empty
  nextToken := 0
  scripts := []
  sent := []
  refusals := .empty
  holding := false
  held := []
  journal := []

def note (b : Bus ρ) (e : JournalEntry) : Bus ρ := { b with journal := b.journal ++ [e] }

def pathOfFilter (n : Nat) : String := filtersPath ++ "/" ++ toString n

/-- Filter numbers have 32 bits. -/
def filterBound : Nat := 4294967296

/-- The number at the end of a filter's path, in any spelling: a plus sign and leading zeros are
accepted, numbers beyond the bound are not. -/
def numberInPath? (path : String) : Option Nat :=
  match Text.after? (filtersPath ++ "/").toList path.toList with
  | none => none
  | some s => (Text.unsigned? 10 s).filter (· < filterBound)

def liveFilter? (b : Bus ρ) (path : String) : Option Nat :=
  (numberInPath? path).filter b.filters.contains

/-- A new filter passes nothing on. Its number has not been used before, which is so as
long as the counter stays below `filterBound`. -/
def addFilter (b : Bus ρ) : String × Bus ρ :=
  (pathOfFilter b.nextFilter,
    { b with
      filters := b.filters.insert b.nextFilter .empty
      nextFilter := b.nextFilter + 1
      hadFilter := true })

def livePaths (b : Bus ρ) : List String := b.filters.keys.map pathOfFilter

def allowed? (b : Bus ρ) (path : String) : Option (List EventId) :=
  ((numberInPath? path).bind b.filters.get?).map Directory.keys

def node? (b : Bus ρ) (name : String) : Option Node := b.nodes.find? (fun n ↦ n.name = name)

def wordsOf (b : Bus ρ) (node name : String) : Option (List Word) :=
  (b.node? node).bind (fun n ↦ n.values.get? name)

def addNode (b : Bus ρ) (name : String) (values : List (String × List Word)) : Bus ρ :=
  { b with nodes := b.nodes ++ [⟨name, .ofList values⟩] }

/-- Of several nodes with one name the first is written. -/
def writeWords (node name : String) (ws : List Word) : List Node → Option (List Node)
  | [] => none
  | n :: ns =>
    if n.name = node then some ({ n with values := n.values.insert name ws } :: ns)
    else (writeWords node name ws ns).map (n :: ·)

end Bus

end RobotBus
