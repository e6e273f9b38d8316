import RobotBus.EventNames.Request
import RobotBus.Session.Loop

namespace RobotBus.Simulation

inductive BusStep
  | addNode (name : String) (values : List (String × List Word))
  | setServing (serving : Bool)
  | refuseConnections (f : Fault)
  | refuseMethod (method : String) (f : Fault)
  | clearRefusals
  | setHolding (holding : Bool)
  | clearJournal
  | deliver
  | addFilter
  | emit (id : EventId) (name : String) (values : List Word)
  | wordsOf (node name : String)
  | livePaths
  | allowed (path : String)
  | sent
  | scripts
  | countWatches
  | connected
  | journal
  | signal (token : Nat) (body : List Value)
  | addOverride (o : Override)
  | clearOverrides
  | connect (scope : Scope)
  | disconnect
  | reach (path interface : String)
  | call (path interface method : String) (args : List Value)
  | submit (tag path interface method : String) (args : List Value)
  | watch (tag path interface signal : String)
  | unwatch (token : Nat)
  | listChildren (path : String)

inductive SessionStep (κ : Type)
  | subscribe (event : Mention) (callback : κ)
  | send (event : Mention) (args : List Word)
  | locate (event : Mention)
  | sweep
  | nodes
  | read (node name : String)
  | write (node name : String) (value : WordValue)
  | loadScript (path : String)
  | loadNames (path : String) (file : StoredFile)
  | rate (event : Mention)
  | rates
  | names (q : EventNames.Request)
  | runQueued
  | runBriefly
  | run
  | close
  | state

/-- Steps inside a bracketed session. A problem of one of the session's own steps ends the bracket
unless it is caught. -/
inductive BodyStep (κ : Type)
  | bus (s : BusStep)
  | session (s : SessionStep κ) (caught : Bool)
  | remote (e : Effect κ)

inductive FilterStep
  | sweep
  | obtain
  | allow (id : EventId)
  | giveUp
  | state (id : EventId)

inductive AccessStep
  | nodes
  | read (node name : String)
  | write (node name : String) (value : WordValue)
  | loadScript (path : String)
  | send (id : EventId) (args : List Word) (tag : String)

/-- Sessions, remotes, filter keepers and node accesses have names, each kind its own. -/
inductive Step (κ : Type)
  | bus (s : BusStep)
  | session (name : String) (s : SessionStep κ)
  | connect (name : String) (c : Settings)
  | offline (name : String)
  | drop (name : String)
  | remote (name : String) (e : Effect κ)
  | openFilters (name : String)
  | filters (name : String) (s : FilterStep)
  | openAccess (name : String)
  | offlineAccess (name : String) (readLength : Nat)
  | access (name : String) (s : AccessStep)
  | bracket (c : Settings) (body : List (BodyStep κ))

/-- All that a simulation tells of a rate. How large one is depends on the clock. -/
inductive RateSign
  | zero
  | positive
  | negative
deriving DecidableEq, Repr

def RateSign.ofFloat (x : Float) : RateSign :=
  if 0 < x then positive else if x < 0 then negative else zero

structure SessionState where
  closed : Bool
  offline : Bool
  filter : Option String
  settings : Settings
deriving DecidableEq, Repr

inductive Answer
  | nothing
  | absent
  | flag (b : Bool)
  | count (n : Nat)
  | text (s : String)
  | texts (ss : List String)
  | event (id : EventId)
  | words (ws : Option (List Word))
  | events (ids : Option (List EventId))
  | sent (es : List (EventId × List Word))
  | journal (es : List JournalEntry)
  | values (vs : List Value)
  | object (path description : String)
  | wordValue (v : WordValue)
  | rate (r : RateSign)
  | rates (rs : List (EventId × RateSign))
  | names (a : EventNames.Answer)
  | session (s : SessionState)
  | filter (path : Option String) (present allowed : Bool)
  | bracket (body : List Answer) (result : Except Problem Unit)
  | fault (f : Fault)
  | problem (p : Problem)
  | unfinished

namespace Answer

variable {α : Type}

def ofResult (f : α → Answer) : Except Problem α → Answer
  | .ok a => f a
  | .error p => problem p

def ofReply (f : α → Answer) : Except Fault α → Answer
  | .ok a => f a
  | .error e => fault e

end Answer

end RobotBus.Simulation
