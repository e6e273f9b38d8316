import RobotBus.Line

namespace RobotBus

/-- The event filter of a session. The service passes events on through filters only; filters that
nobody frees are left behind, where they can be swept up. -/
structure FilterKeeper where
  /-- The path of the filter, once there is one. -/
  filter : Option String
  /-- The events that the filter lets through. -/
  allowed : EventSet
deriving DecidableEq, Repr

namespace FilterKeeper

def start : FilterKeeper := ⟨none, .empty⟩

def allows (k : FilterKeeper) (id : EventId) : Bool := k.allowed.contains id

variable {σ : Type} [Line σ]

/-- Frees one filter that is not ours. It may be gone by now, which is no error. -/
def freeOne (l : σ) (path : String) : Except Problem Bool × σ :=
  match Line.reach l path with
  | (.error f, l) => (.error (.refusedCall "Free" f), l)
  | (.ok (), l) =>
    match Line.call l path filterInterface "Free" [] with
    | (.ok _, l) => (.ok true, l)
    | (.error f, l) =>
      if f.isUnknownObject then (.ok false, l) else (.error (.refusedCall "Free" f), l)

def sweepEach (k : FilterKeeper) (l : σ) (freed : Nat) : List String → Except Problem Nat × σ
  | [] => (.ok freed, l)
  | child :: children =>
    let path := filtersPath ++ "/" ++ child
    if k.filter = some path then sweepEach k l freed children
    else
      match freeOne l path with
      | (.error p, l) => (.error p, l)
      | (.ok true, l) => sweepEach k l (freed + 1) children
      | (.ok false, l) => sweepEach k l freed children

/-- Frees every filter but our own and counts them. Where there has never been a filter there is
nothing to sweep up. -/
def sweep (k : FilterKeeper) (l : σ) : Except Problem Nat × σ :=
  match Line.listChildren l filtersPath with
  | (.ok children, l) => k.sweepEach l 0 children
  | (.error f, l) =>
    if f.isUnknownObject then (.ok 0, l) else (.error (.refusedCall "Introspect" f), l)

def pathInReply : List Value → Except Problem String
  | .path p :: _ => .ok p
  | .text p :: _ => .ok p
  | reply => .error (.strangeReply "CreateEventFilter" "an object path" reply.head?)

def obtain (k : FilterKeeper) (l : σ) : Except Problem String × FilterKeeper × σ :=
  match k.filter with
  | some path => (.ok path, k, l)
  | none =>
    match Line.call l networkPath networkInterface "CreateEventFilter" [] with
    | (.error f, l) => (.error (.refusedCall "CreateEventFilter" f), k, l)
    | (.ok reply, l) =>
      match pathInReply reply with
      | .error p => (.error p, k, l)
      | .ok path =>
        match Line.reach l path with
        | (.error f, l) => (.error (.refusedCall "CreateEventFilter" f), k, l)
        | (.ok (), l) => (.ok path, { k with filter := some path }, l)

/-- Has the filter let an event through. Each event is asked for once. -/
def allow (k : FilterKeeper) (l : σ) (id : EventId) : Except Problem Unit × FilterKeeper × σ :=
  if k.allows id then (.ok (), k, l)
  else
    match k.obtain l with
    | (.error p, k, l) => (.error p, k, l)
    | (.ok path, k, l) =>
      match Line.call l path filterInterface "ListenEvent" [.uint16 id.val] with
      | (.error f, l) => (.error (.refusedCall "ListenEvent" f), k, l)
      | (.ok _, l) => (.ok (), { k with allowed := k.allowed.insert id () }, l)

/-- Frees the filter, if there is one. It is given up even if the service refuses. -/
def giveUp (k : FilterKeeper) (l : σ) : Except Problem Unit × FilterKeeper × σ :=
  match k.filter with
  | none => (.ok (), start, l)
  | some path =>
    match Line.call l path filterInterface "Free" [] with
    | (.error f, l) => (.error (.refusedCall "Free" f), start, l)
    | (.ok _, l) => (.ok (), start, l)

end FilterKeeper

end RobotBus
