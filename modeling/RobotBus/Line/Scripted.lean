import RobotBus.Line

namespace RobotBus

/-- An answer that is given in advance leaves no trace on the bus. -/
structure ScriptedLine where
  bus : Bus ReplyTarget
  overrides : List Override

namespace ScriptedLine

def start : ScriptedLine := ⟨.start, []⟩

def used (o : Override) : List Override :=
  match o.uses with
  | none => [o]
  | some n => if n ≤ 1 then [] else [{ o with uses := some (n - 1) }]

variable {α : Type}

/-- The first override for this kind of request and this key, and what is left of them all. -/
def find (select : Override.Answer → Option α) (key : String) :
    List Override → Option (α × List Override)
  | [] => none
  | o :: os =>
    match select o.answer, decide (o.key = "*" ∨ o.key = key) with
    | some a, true => some (a, used o ++ os)
    | _, _ =>
      match find select key os with
      | some (a, rest) => some (a, o :: rest)
      | none => none

def answer (l : ScriptedLine) (select : Override.Answer → Option α) (key : String)
    (serve : Bus ReplyTarget → α × Bus ReplyTarget) : α × ScriptedLine :=
  match find select key l.overrides with
  | some (a, rest) => (a, { l with overrides := rest })
  | none =>
    let (a, b) := serve l.bus
    (a, { l with bus := b })

def callReply : Override.Answer → Option Reply
  | .call r => some r
  | _ => none

def listChildrenReply : Override.Answer → Option (Except Fault (List String))
  | .listChildren r => some r
  | _ => none

def reachReply : Override.Answer → Option (Except Fault Unit)
  | .reach f => some (.error f)
  | _ => none

def watchReply : Override.Answer → Option (Except Fault Nat)
  | .watch f => some (.error f)
  | _ => none

def unwatchReply : Override.Answer → Option (Except Fault Unit)
  | .unwatch f => some (.error f)
  | _ => none

instance : Line ScriptedLine where
  bus l := l.bus
  withBus l b := { l with bus := b }
  reach l path := l.answer reachReply path (Line.reach · path)
  call l path interface method args :=
    l.answer callReply method (Line.call · path interface method args)
  watch l path interface signal listener :=
    l.answer watchReply signal (Line.watch · path interface signal listener)
  unwatch l token := l.answer unwatchReply (toString token) (Line.unwatch · token)
  listChildren l path := l.answer listChildrenReply path (Line.listChildren · path)
  addOverride l o := { l with overrides := l.overrides ++ [o] }
  clearOverrides l := { l with overrides := [] }

end ScriptedLine

end RobotBus
