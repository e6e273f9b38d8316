import RobotBus.Line
import RobotBus.Router

namespace RobotBus

inductive Message (κ : Type)
  | event (e : Event)
  | problem (p : Problem)
  | request (r : Request κ)

inductive LogEntry (κ : Type)
  | called (mailbox : Nat) (id : EventId) (callback : κ) (values : List Word)
  | signal (tag : String) (body : List Value)
  | reply (tag : String) (values : List Value)
  | refusal (tag : String) (f : Fault)
  | failure (tag : String) (f : Fault)

/-- What the sessions on one bus share. -/
structure Hub (σ κ : Type) where
  line : σ
  mailboxes : List (List (Message κ))
  log : List (LogEntry κ)
  clock : Instant

namespace Hub

variable {σ κ : Type}

def start (l : σ) : Hub σ κ := ⟨l, [], [], 0⟩

def note (h : Hub σ κ) (e : LogEntry κ) : Hub σ κ := { h with log := h.log ++ [e] }

/-- No two readings of the clock are equal. -/
def now (h : Hub σ κ) : Instant × Hub σ κ := (h.clock + 1, { h with clock := h.clock + 1 })

def openMailbox (h : Hub σ κ) : Nat × Hub σ κ :=
  (h.mailboxes.length, { h with mailboxes := h.mailboxes ++ [[]] })

def post (h : Hub σ κ) (n : Nat) (m : Message κ) : Hub σ κ :=
  { h with mailboxes := h.mailboxes.modify n (· ++ [m]) }

def queue (h : Hub σ κ) (n : Nat) : List (Message κ) := (h.mailboxes[n]?).getD []

def take (h : Hub σ κ) (n : Nat) : Option (Message κ × Hub σ κ) :=
  match h.queue n with
  | [] => none
  | m :: ms => some (m, { h with mailboxes := h.mailboxes.set n ms })

@[simp] theorem queue_post (h : Hub σ κ) (n k : Nat) (m : Message κ) :
    (h.post n m).queue k =
      if n = k ∧ k < h.mailboxes.length then h.queue k ++ [m] else h.queue k := by
  simp only [post, queue, List.getElem?_modify]
  by_cases hn : n = k <;> by_cases hk : k < h.mailboxes.length <;> simp [hn, hk]

@[simp] theorem take_eq_none_iff (h : Hub σ κ) (n : Nat) : h.take n = none ↔ h.queue n = [] := by
  unfold take; split <;> simp_all

def event? : List Value → Option Event
  | .uint16 id :: .text name :: .words values :: _ => some ⟨⟨id⟩, name, values⟩
  | _ => none

/-- A mailbox passes over a signal that is no event. -/
def receive (h : Hub σ κ) (l : Listener) (body : List Value) : Hub σ κ :=
  match l with
  | .log tag => h.note (.signal tag body)
  | .mailbox n =>
    match event? body with
    | some e => h.post n (.event e)
    | none => h

def answer (h : Hub σ κ) (target : ReplyTarget) (r : Reply) : Hub σ κ :=
  match target, r with
  | .mailbox n, .error f => h.post n (.problem (.refusedSend f))
  | .mailbox _, .ok _ => h
  | .log tag, .ok values => h.note (.reply tag values)
  | .log tag, .error f => h.note (.refusal tag f)
  | .failures tag, .error f => h.note (.failure tag f)
  | .failures _, .ok _ => h

variable [Line σ]

def bus (h : Hub σ κ) : Bus ReplyTarget := Line.bus h.line

def withBus (h : Hub σ κ) (b : Bus ReplyTarget) : Hub σ κ :=
  { h with line := Line.withBus h.line b }

def emit (h : Hub σ κ) (id : EventId) (name : String) (values : List Word) : Nat × Hub σ κ :=
  let ls := h.bus.listeners id
  (ls.length, ls.foldl (fun h l ↦ h.receive l (Bus.eventBody id name values)) h)

def submit (h : Hub σ κ) (path interface method : String) (args : List Value)
    (target : ReplyTarget) : Hub σ κ :=
  match Line.submit h.line path interface method args target with
  | (some r, l) => { h with line := l }.answer target r
  | (none, l) => { h with line := l }

def deliver (h : Hub σ κ) : Nat × Hub σ κ :=
  let (held, b) := h.bus.release
  (held.length, held.foldl (fun h e ↦ h.answer e.1 e.2) (h.withBus b))

/-- What a callback asks for goes to the mailbox of its own session. -/
def perform (h : Hub σ κ) (n : Nat) : Effect κ → Hub σ κ
  | .request r => h.post n (.request r)
  | .emit id name values => (h.emit id name values).2

def performAll (h : Hub σ κ) (n : Nat) (es : List (Effect κ)) : Hub σ κ :=
  es.foldl (fun h e ↦ h.perform n e) h

end Hub

end RobotBus
