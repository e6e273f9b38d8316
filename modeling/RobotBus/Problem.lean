import RobotBus.Bus.Value
import RobotBus.EventList.Failure
import RobotBus.Text.Quoted

namespace RobotBus

inductive Problem
  | noConnection (f : Fault)
  | unknownName (name : String)
  | numberOutOfRange (n : Int)
  | unreadableList (path : String) (reason : EventList.LoadFailure)
  | repeatedName (name : String)
  | tooManyNames (n : Nat)
  | refusedCall (method : String) (f : Fault)
  | refusedSend (f : Fault)
  | strangeReply (method expected : String) (got : Option Value)
  | panicked (id : EventId) (message : String)
  | emptyWindow
  | closedSession
  | unreadableFile (f : ReadFailure)
  | malformedSettings
deriving DecidableEq, Repr

namespace Problem

def kindOfReply : Option Value → String
  | some v => v.kind
  | none => "nothing"

def message : Problem → String
  | noConnection f =>
    "Can not connect to Aseba bus services: " ++ f.text ++ ". Is asebamedulla running?"
  | unknownName name =>
    "Event " ++ name ++ " is unknown. Did you load the list of events with load_events_list?"
  | numberOutOfRange n =>
    "Event ID " ++ toString n ++ " is outside the 16-bit range the bus can address"
  | unreadableList path reason =>
    "Failed to load event list from " ++ Text.quoted path ++ ": " ++ reason.message
  | repeatedName name => "Duplicate event name in event list: " ++ name
  | tooManyNames n =>
    "Event list holds " ++ toString n ++ " events, more than the bus can address"
  | refusedCall method f => "Bus call " ++ method ++ " failed: " ++ f.text
  | refusedSend f => "Asynchronous event send failed: " ++ f.text
  | strangeReply method expected got =>
    "Unexpected reply to " ++ method ++ ": expected " ++ expected ++ ", got " ++ kindOfReply got
  | panicked id message => "Callback for event " ++ id.text ++ " panicked: " ++ message
  | emptyWindow => "Invalid configuration: frequency_window must be at least 1"
  | closedSession => "Session is closed"
  | unreadableFile f => "IO error: " ++ f.message
  | malformedSettings => "Serialization error: <syntax>"

def endsSession : Problem → Bool
  | noConnection _ => true
  | refusedSend _ => true
  | panicked _ _ => true
  | _ => false

end Problem

end RobotBus
