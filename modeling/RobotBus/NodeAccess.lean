import RobotBus.Hub

namespace RobotBus

/-- Offline every request is answered on the spot: reads give zeros, everything else does nothing.
-/
inductive NodeAccess
  | online
  | offline (readLength : Nat)
deriving DecidableEq, Repr

namespace NodeAccess

variable {σ κ : Type} [Line σ]

def callNetwork (l : σ) (method : String) (args : List Value) :
    Except Problem (List Value) × σ :=
  match Line.call l networkPath networkInterface method args with
  | (.ok values, l) => (.ok values, l)
  | (.error f, l) => (.error (.refusedCall method f), l)

def nodes (a : NodeAccess) (l : σ) : Except Problem (List String) × σ :=
  match a with
  | offline _ => (.ok [], l)
  | online =>
    match callNetwork l "GetNodesList" [] with
    | (.error p, l) => (.error p, l)
    | (.ok reply, l) =>
      match reply.head?.bind Value.texts? with
      | some names => (.ok names, l)
      | none => (.error (.strangeReply "GetNodesList" "a string array" reply.head?), l)

def read (a : NodeAccess) (l : σ) (node name : String) : Except Problem WordValue × σ :=
  match a with
  | offline n => (.ok (.array (List.replicate n 0)), l)
  | online =>
    match callNetwork l "GetVariable" [.text node, .text name] with
    | (.error p, l) => (.error p, l)
    | (.ok reply, l) =>
      match reply.head?.bind Value.words? with
      | some ws => (.ok (.ofList ws), l)
      | none => (.error (.strangeReply "GetVariable" "an int16 array" reply.head?), l)

def accepted {α : Type} : Except Problem α × σ → Except Problem Unit × σ
  | (.ok _, l) => (.ok (), l)
  | (.error p, l) => (.error p, l)

def write (a : NodeAccess) (l : σ) (node name : String) (value : WordValue) :
    Except Problem Unit × σ :=
  match a with
  | offline _ => (.ok (), l)
  | online =>
    accepted (callNetwork l "SetVariable" [.text node, .text name, .words value.words])

def loadScript (a : NodeAccess) (l : σ) (path : String) : Except Problem Unit × σ :=
  match a with
  | offline _ => (.ok (), l)
  | online => accepted (callNetwork l "LoadScripts" [.text path])

def send (a : NodeAccess) (h : Hub σ κ) (id : EventId) (args : List Word)
    (target : ReplyTarget) : Hub σ κ :=
  match a with
  | offline _ => h
  | online =>
    h.submit networkPath networkInterface "SendEvent" [.uint16 id.val, .words args] target

end NodeAccess

end RobotBus
