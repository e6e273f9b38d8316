import RobotBus.Proofs.Hearing
import RobotBus.Proofs.World.Isolation

namespace RobotBus

open Bus

variable {κ : Type}

def LogEntry.invocation? (n : Nat) : LogEntry κ → Option (Invocation κ)
  | .called n' id callback values => if n' = n then some ⟨id, callback, values⟩ else none
  | _ => none

theorem LogEntry.invocation?_eq_none {n : Nat} {e : LogEntry κ} (he : e.call? n = none) :
    e.invocation? n = none := by
  cases e with
  | called n' id callback values =>
    simp only [LogEntry.call?] at he
    split at he
    · cases he
    · next hne => exact if_neg hne
  | signal | reply | refusal | failure => rfl

namespace Hub

def invocations {σ : Type} (h : Hub σ κ) (n : Nat) : List (Invocation κ) :=
  h.log.filterMap (LogEntry.invocation? n)

theorem Extends.invocations {σ : Type} {h h' : Hub σ κ} (hx : Extends h h') (n : Nat) :
    h'.invocations n = h.invocations n := by
  obtain ⟨es, hes, hnone⟩ := hx.log
  have hes' : es.filterMap (LogEntry.invocation? n) = [] :=
    List.filterMap_eq_nil_iff.mpr fun e he ↦ LogEntry.invocation?_eq_none (hnone e he n)
  rw [Hub.invocations, hes, List.filterMap_append, hes', List.append_nil, Hub.invocations]

variable {h : Hub (Bus ReplyTarget) κ} {n : Nat}

theorem queue_performAll_of_unheard (hn : n < h.mailboxes.length) (k : Nat) {es : List (Effect κ)}
    (hes : ∀ e ∈ es, ∃ id name vs, e = .emit id name vs ∧
      (h.line.listeners id).count (.mailbox n) = 0) :
    (h.performAll k es).queue n = h.queue n := by
  induction es generalizing h with
  | nil => rfl
  | cons e es ih =>
    obtain ⟨id, name, vs, rfl, hcount⟩ := hes e List.mem_cons_self
    have hx := extends_emit h id name vs
    have hone : (h.emit id name vs).2.queue n = h.queue n := by
      rw [queue_emit h hn, hcount]
      exact List.append_nil _
    have hrest := ih (h := (h.emit id name vs).2) (hx.length ▸ hn) fun e he ↦ by
      rw [hx.line]
      exact hes e (List.mem_cons_of_mem _ he)
    exact hrest.trans hone

end Hub

namespace Session

variable {s : Session κ} {h : Hub (Bus ReplyTarget) κ}

theorem length_logCall (s : Session κ) (h : Hub (Bus ReplyTarget) κ) (id : EventId)
    (c : Option (Call κ)) : (s.logCall h id c).mailboxes.length = h.mailboxes.length := by
  cases c with
  | none => rfl
  | some c => exact (Hub.extends_performAll (h.note _) s.mailbox c.effects).length

theorem queue_logCall_of_unheard (hn : s.mailbox < h.mailboxes.length) (id : EventId)
    {c : Option (Call κ)}
    (hc : ∀ c', c = some c' → ∀ e ∈ c'.effects, ∃ id name vs, e = .emit id name vs ∧
      (h.line.listeners id).count (.mailbox s.mailbox) = 0) :
    (s.logCall h id c).queue s.mailbox = h.queue s.mailbox := by
  cases c with
  | none => rfl
  | some c => exact Hub.queue_performAll_of_unheard (h := h.note _) hn s.mailbox (hc c rfl)

theorem invocations_logCall (s : Session κ) (h : Hub (Bus ReplyTarget) κ) (id : EventId)
    (c : Option (Call κ)) :
    (s.logCall h id c).invocations s.mailbox =
      h.invocations s.mailbox ++ c.toList.map (Call.invocation id) := by
  cases c with
  | none => exact (List.append_nil _).symm
  | some c =>
    rw [Session.logCall, (Hub.extends_performAll _ _ _).invocations, Hub.invocations, Hub.note,
      List.filterMap_append]
    simp [LogEntry.invocation?, Call.invocation, Hub.invocations]

end Session

/-- What happens around a session that is left to itself but for events. -/
inductive Cue
  | emit (e : Event)
  | wait
  | run
deriving DecidableEq, Repr

def Cue.emission? : Cue → Option Event
  | .emit e => some e
  | .wait => none
  | .run => none

/-- What runs of the loop answer: so many messages handled each time, up to the one that breaks off
with a problem, and then that the session is closed. -/
def Told (problem : Option Problem) (as : List (Except Problem Nat)) : Prop :=
  ∃ (counts : List Nat) (more : Nat), as = counts.map .ok ++
    match problem with
    | none => []
    | some p => .error p :: List.replicate more (.error .closedSession)

theorem told_nil : Told none [] := ⟨[], 0, rfl⟩

theorem Told.ok {as : List (Except Problem Nat)} (h : Told none as) (n : Nat) :
    Told none (as ++ [.ok n]) := by
  obtain ⟨counts, _, rfl⟩ := h
  exact ⟨counts ++ [n], 0, by simp⟩

theorem Told.error {as : List (Except Problem Nat)} (h : Told none as) (p : Problem) :
    Told (some p) (as ++ [.error p]) := by
  obtain ⟨counts, _, rfl⟩ := h
  exact ⟨counts, 0, by simp⟩

theorem Told.closed {as : List (Except Problem Nat)} {p : Problem} (h : Told (some p) as) :
    Told (some p) (as ++ [.error .closedSession]) := by
  obtain ⟨counts, more, rfl⟩ := h
  exact ⟨counts, more + 1, by simp [List.replicate_succ']⟩

namespace Situation

variable [Callback κ]

/-- What is answered to a cue, and what becomes of the situation. There is no result if `fuel`
messages do not suffice for a run. -/
def cue (fuel : Nat) (w : Situation κ) : Cue → Option (List (Except Problem Nat) × Situation κ)
  | .emit e => some ([], ⟨w.session, (w.hub.emit e.id e.name e.values).2⟩)
  | .wait => some ([], ⟨w.session, w.hub.now.2⟩)
  | .run => (w.session.runQueued fuel w.hub).map (fun r ↦ ([r.1], ⟨r.2.1, r.2.2⟩))

def follow (fuel : Nat) (w : Situation κ) :
    List Cue → Option (List (Except Problem Nat) × Situation κ)
  | [] => some ([], w)
  | c :: cs =>
    (w.cue fuel c).bind fun (as, w') ↦
      (follow fuel w' cs).map fun (as', w'') ↦ (as ++ as', w'')

def passed (w : Situation κ) (n : Nat) (es : List Event) : List Event :=
  es.filter (fun e ↦ pathOfFilter n ∈ w.hub.line.forwarding e.id)

omit [Callback κ] in
theorem passed_append (w : Situation κ) (n : Nat) (es es' : List Event) :
    w.passed n (es ++ es') = w.passed n es ++ w.passed n es' := List.filter_append ..

/-- The mailbox of a live session receives what the filter passes on, and its callbacks ask for
nothing and emit nothing that the filter passes on. -/
structure Undisturbed (w : Situation κ) (n token : Nat) : Prop where
  live : w.session.Live (pathOfFilter n) token
  mailbox_lt : w.session.mailbox < w.hub.mailboxes.length
  count : ∀ id, (w.hub.line.listeners id).count (.mailbox w.session.mailbox) =
    if pathOfFilter n ∈ w.hub.line.forwarding id then 1 else 0
  asksNothing : w.session.router.AsksNothing fun id ↦ pathOfFilter n ∉ w.hub.line.forwarding id

/-- A session that was left to itself, has heard something since, and has more of it waiting. -/
structure InStep (o : Situation κ) (n token : Nat) (x : Router.Hearing κ) (todo : List Event)
    (w : Situation κ) : Prop where
  live : w.session.Live (pathOfFilter n) token
  mailbox : w.session.mailbox = o.session.mailbox
  length : w.hub.mailboxes.length = o.hub.mailboxes.length
  line : w.hub.line = o.hub.line
  queue : w.hub.queue o.session.mailbox = todo.map Message.event
  router : w.session.router.SameOutline x.router
  invocations : w.hub.invocations o.session.mailbox =
    o.hub.invocations o.session.mailbox ++ x.invocations

structure Ended (o : Situation κ) (n token : Nat) (x : Router.Hearing κ) (w : Situation κ) :
    Prop where
  closed : w.session.closed = true
  line : w.hub.line = o.hub.line.dismantled (pathOfFilter n) token
  router : ∀ id, w.session.router.outline id = none
  invocations : w.hub.invocations o.session.mailbox =
    o.hub.invocations o.session.mailbox ++ x.invocations

variable {o w : Situation κ} {n token : Nat} {x : Router.Hearing κ} {todo : List Event}

omit [Callback κ] in
theorem InStep.close (hw : InStep o n token x todo w) : Ended o n token x w.close where
  closed := Session.close_closed _ _
  line := by
    rw [line_close hw.live, hw.line]
    rfl
  router id := by
    obtain ⟨ids, hp⟩ := hw.live.presence
    simp only [Situation.close, Session.close, hw.live.opened, hp, Bool.false_eq_true, if_false]
    rfl
  invocations := by
    have hhub := Session.close_hub w.session w.hub
    simp only [Situation.close]
    rw [hhub]
    exact hw.invocations

omit [Callback κ] in
theorem InStep.take {e : Event} (hw : InStep o n token x (e :: todo) w) :
    ∃ h, w.hub.take w.session.mailbox = some (.event e, h) ∧
      InStep o n token x todo ⟨w.session, h⟩ := by
  have hqueue := hw.queue
  rw [← hw.mailbox] at hqueue
  cases ht : w.hub.take w.session.mailbox with
  | none => exact nomatch hqueue.symm.trans ((w.hub.take_eq_none_iff _).mp ht)
  | some mh =>
    obtain ⟨m, h⟩ := mh
    obtain ⟨hq, hline, hlog, hlength⟩ := Hub.queue_of_take ht
    obtain ⟨rfl, hrest⟩ := List.cons.inj (hq.symm.trans hqueue)
    refine ⟨h, rfl, hw.live, hw.mailbox, hlength.trans hw.length, hline.trans hw.line,
      hw.mailbox ▸ hrest, hw.router, ?_⟩
    rw [← hw.invocations, Hub.invocations, Hub.invocations, hlog]

theorem InStep.received (ho : o.Undisturbed n token) {done : List Event}
    (hp : (o.session.router.hear done).problem = none)
    (hw : InStep o n token (o.session.router.hear done) todo w) (e : Event) :
    (w.session.router.route e.id e.values w.hub.now.1).problem? =
        (o.session.router.hear (done ++ [e])).problem ∧
      InStep o n token (o.session.router.hear (done ++ [e])) todo (w.received w.hub e) := by
  obtain ⟨hcall, hproblem, hrouter⟩ := hw.router.route e.id e.values w.hub.now.1 0
  rw [Router.hear_append hp, Router.hear_singleton]
  refine ⟨hproblem, ⟨hw.live.opened, hw.live.presence⟩, hw.mailbox, ?_, ?_, ?_, hrouter, ?_⟩
  · exact (w.session.length_logCall w.hub.now.2 e.id _).trans hw.length
  · exact (line_received w w.hub e).trans hw.line
  · rw [← hw.queue, ← hw.mailbox]
    refine Session.queue_logCall_of_unheard ?_ e.id ?_
    · rw [hw.mailbox]
      exact ho.mailbox_lt.trans_eq hw.length.symm
    · intro c hc a ha
      obtain ⟨id, name, vs, rfl, hunheard⟩ :=
        (ho.asksNothing.hear done).effects (hcall.symm.trans hc) a ha
      refine ⟨id, name, vs, rfl, ?_⟩
      rw [show w.hub.now.2.line = o.hub.line from hw.line, hw.mailbox, ho.count, if_neg hunheard]
  · have hlogged := w.session.invocations_logCall w.hub.now.2 e.id
      (w.session.router.route e.id e.values w.hub.now.1).call
    rw [hw.mailbox] at hlogged
    rw [← List.append_assoc, ← hw.invocations]
    dsimp only
    rw [← hcall]
    exact hlogged

inductive Concluded (o : Situation κ) (n token : Nat) (x : Router.Hearing κ) :
    Session.Ending → Situation κ → Prop
  | idle {w : Situation κ} (hp : x.problem = none) (hw : InStep o n token x [] w) :
      Concluded o n token x .idle w
  | failed {w : Situation κ} {p : Problem} (hp : x.problem = some p) (hw : Ended o n token x w) :
      Concluded o n token x (.failed p) w

theorem handle_event (w : Situation κ) (e : Event) :
    let v := w.received w.hub e
    w.session.handle w.hub (.event e) =
      match (w.session.router.route e.id e.values w.hub.now.1).problem? with
      | none => (.running, v.session, v.hub)
      | some p => (.failed p, v.close.session, v.close.hub) := by
  simp only [Session.handle, Session.receive, Routed.problem?]
  cases (w.session.router.route e.id e.values w.hub.now.1).outcome <;> rfl

theorem InStep.drain (ho : o.Undisturbed n token) {done : List Event}
    (hp : (o.session.router.hear done).problem = none)
    (hw : InStep o n token (o.session.router.hear done) todo w) {fuel : Nat}
    (hfuel : todo.length ≤ fuel) (handled : Nat) :
    ∃ d, w.session.drain fuel w.hub handled = some d ∧
      Concluded o n token (o.session.router.hear (done ++ todo)) d.ending ⟨d.session, d.hub⟩ := by
  induction todo generalizing done w fuel handled with
  | nil =>
    have hempty : w.hub.take w.session.mailbox = none := by
      rw [Hub.take_eq_none_iff, hw.mailbox]
      exact hw.queue
    rw [Session.drain.eq_def, hempty, List.append_nil]
    exact ⟨_, rfl, .idle hp hw⟩
  | cons e todo ih =>
    obtain ⟨fuel, rfl⟩ : ∃ k, fuel = k + 1 := ⟨fuel - 1, by simp at hfuel; omega⟩
    obtain ⟨h, ht, hw⟩ := hw.take
    obtain ⟨hproblem, hheard⟩ := hw.received ho hp e
    have hhandle := handle_event ⟨w.session, h⟩ e
    rw [hproblem] at hhandle
    rw [Session.drain, ht]
    have hsplit : done ++ e :: todo = (done ++ [e]) ++ todo := by simp
    cases hx : (o.session.router.hear (done ++ [e])).problem with
    | none =>
      rw [hx] at hhandle
      simp only [hhandle, hsplit]
      exact ih hx hheard (Nat.le_of_succ_le_succ hfuel) (handled + 1)
    | some p =>
      rw [hx] at hhandle
      simp only [hhandle, hsplit, Router.hear_append_of_problem hx]
      exact ⟨_, rfl, .failed hx hheard.close⟩

theorem InStep.emit (ho : o.Undisturbed n token) (hw : InStep o n token x todo w) (e : Event) :
    InStep o n token x (todo ++ o.passed n [e])
      ⟨w.session, (w.hub.emit e.id e.name e.values).2⟩ where
  live := hw.live
  mailbox := hw.mailbox
  length := (Hub.extends_emit w.hub e.id e.name e.values).length.trans hw.length
  line := (Hub.extends_emit w.hub e.id e.name e.values).line.trans hw.line
  queue := by
    rw [Hub.queue_emit w.hub (ho.mailbox_lt.trans_eq hw.length.symm), hw.queue, hw.line, ho.count,
      List.map_append]
    by_cases hmem : pathOfFilter n ∈ o.hub.line.forwarding e.id <;> simp [passed, hmem]
  router := hw.router
  invocations := by
    rw [(Hub.extends_emit w.hub e.id e.name e.values).invocations]
    exact hw.invocations

omit [Callback κ] in
theorem Ended.of_extends (hw : Ended o n token x w) {h : Hub (Bus ReplyTarget) κ}
    (hx : Hub.Extends w.hub h) : Ended o n token x ⟨w.session, h⟩ where
  closed := hw.closed
  line := hx.line.trans hw.line
  router := hw.router
  invocations := (hx.invocations _).trans hw.invocations

/-- What has come of a schedule so far, by the events that the session was to hear. As long as it is
open they are those that it has heard and those that are waiting; once it is closed it does not
matter which of them ever reached the mailbox. -/
inductive Keeping (o : Situation κ) (n token : Nat) (es : List Event) :
    List (Except Problem Nat) → Situation κ → Prop
  | inStep {as : List (Except Problem Nat)} {w : Situation κ} {done todo : List Event}
      (hes : done ++ todo = es) (hp : (o.session.router.hear done).problem = none)
      (hw : InStep o n token (o.session.router.hear done) todo w) (ht : Told none as) :
      Keeping o n token es as w
  | ended {as : List (Except Problem Nat)} {w : Situation κ} {p : Problem}
      (hp : (o.session.router.hear es).problem = some p)
      (hw : Ended o n token (o.session.router.hear es) w) (ht : Told (some p) as) :
      Keeping o n token es as w

variable {es : List Event} {as : List (Except Problem Nat)}

theorem Keeping.run (ho : o.Undisturbed n token) (hw : Keeping o n token es as w) {fuel : Nat}
    (hfuel : es.length ≤ fuel) :
    ∃ r, w.session.runQueued fuel w.hub = some r ∧
      Keeping o n token es (as ++ [r.1]) ⟨r.2.1, r.2.2⟩ ∧
      (r.2.1.closed = false → r.2.2.queue r.2.1.mailbox = []) := by
  cases hw with
  | ended hp hw ht =>
    refine ⟨(.error .closedSession, w.session, w.hub), ?_, .ended hp hw ht.closed, ?_⟩
    · exact if_pos hw.closed
    · exact fun hopen ↦ nomatch hopen.symm.trans hw.closed
  | @inStep done todo hes hp hw ht =>
    have hle : todo.length ≤ fuel := by
      rw [← hes, List.length_append] at hfuel
      omega
    obtain ⟨d, hd, hconcluded⟩ := hw.drain ho hp hle 0
    rw [hes] at hconcluded
    have hopen : ¬w.session.closed = true := by simp [hw.live.opened]
    obtain ⟨ending, handled, s, h⟩ := d
    simp only [Session.runQueued, Session.runLoop, if_neg hopen, hd]
    cases hconcluded with
    | idle hp' hw' =>
      refine ⟨_, rfl, .inStep (List.append_nil es) hp' hw' (ht.ok handled), fun _ ↦ ?_⟩
      rw [show s.mailbox = o.session.mailbox from hw'.mailbox]
      exact hw'.queue
    | failed hp' hw' =>
      refine ⟨_, rfl, .ended hp' hw' (ht.error _), fun hopen ↦ ?_⟩
      exact nomatch hopen.symm.trans hw'.closed

theorem Keeping.cue (ho : o.Undisturbed n token) (hw : Keeping o n token es as w) {fuel : Nat}
    (hfuel : es.length ≤ fuel) (c : Cue) :
    ∃ as' w', w.cue fuel c = some (as', w') ∧
      Keeping o n token (es ++ o.passed n c.emission?.toList) (as ++ as') w' ∧
      (c = .run → w'.session.closed = false → w'.hub.queue w'.session.mailbox = []) := by
  have hnone (c : Cue) (hc : c.emission? = none) :
      es ++ o.passed n c.emission?.toList = es := by
    rw [hc]
    exact List.append_nil es
  cases c with
  | emit e =>
    refine ⟨[], _, rfl, ?_, nofun⟩
    rw [List.append_nil]
    cases hw with
    | inStep hes hp hw ht =>
      refine .inStep ?_ hp (hw.emit ho e) ht
      rw [← hes, List.append_assoc]
      rfl
    | ended hp hw ht =>
      -- The session is closed: it would not have heard of this one either if it had waited.
      have hsame := Router.hear_append_of_problem hp (o.passed n [e])
      refine .ended (hsame ▸ hp) ?_ ht
      exact hsame.symm ▸ hw.of_extends (Hub.extends_emit w.hub e.id e.name e.values)
  | wait =>
    refine ⟨[], _, rfl, ?_, nofun⟩
    rw [List.append_nil, hnone .wait rfl]
    cases hw with
    | inStep hes hp hw ht =>
      exact .inStep hes hp ⟨hw.live, hw.mailbox, hw.length, hw.line, hw.queue, hw.router,
        hw.invocations⟩ ht
    | ended hp hw ht => exact .ended hp ⟨hw.closed, hw.line, hw.router, hw.invocations⟩ ht
  | run =>
    obtain ⟨r, hr, hkeeping, hempty⟩ := hw.run ho hfuel
    refine ⟨[r.1], ⟨r.2.1, r.2.2⟩, ?_, ?_, fun _ ↦ hempty⟩
    · rw [Situation.cue, hr]
      rfl
    · rw [hnone .run rfl]
      exact hkeeping

/-- A schedule is a run of cues. One that ends with a run of the loop leaves nothing waiting, unless
the session is closed. -/
theorem Keeping.follow (ho : o.Undisturbed n token) (hw : Keeping o n token es as w) {fuel : Nat}
    (cs : List Cue)
    (hfuel : (es ++ o.passed n (cs.filterMap Cue.emission?)).length ≤ fuel) :
    ∃ as' w', w.follow fuel cs = some (as', w') ∧
      Keeping o n token (es ++ o.passed n (cs.filterMap Cue.emission?)) (as ++ as') w' ∧
      (cs.getLast? = some .run → w'.session.closed = false →
        w'.hub.queue w'.session.mailbox = []) := by
  induction cs generalizing es as w with
  | nil =>
    refine ⟨[], w, rfl, ?_, nofun⟩
    rw [List.append_nil]
    exact (List.append_nil es).symm ▸ hw
  | cons c cs ih =>
    have hcons : (c :: cs).filterMap Cue.emission? =
        c.emission?.toList ++ cs.filterMap Cue.emission? := by
      rw [List.filterMap_cons]
      cases c.emission? <;> rfl
    have hsplit : es ++ o.passed n ((c :: cs).filterMap Cue.emission?) =
        (es ++ o.passed n c.emission?.toList) ++ o.passed n (cs.filterMap Cue.emission?) := by
      rw [hcons, passed_append, List.append_assoc]
    rw [hsplit] at hfuel ⊢
    have hle : es.length ≤ fuel := by
      simp only [List.length_append] at hfuel
      omega
    obtain ⟨as₁, w₁, hcue, hkeeping, hempty⟩ := hw.cue ho hle c
    obtain ⟨as₂, w₂, hfollow, hkeeping', hempty'⟩ := ih hkeeping hfuel
    refine ⟨as₁ ++ as₂, w₂, ?_, ?_, ?_⟩
    · simp only [Situation.follow, hcue, hfollow, Option.bind_some, Option.map_some]
    · rw [← List.append_assoc]
      exact hkeeping'
    · intro hlast
      cases cs with
      | nil =>
        cases hfollow
        exact hempty (by simpa using hlast)
      | cons c' cs => exact hempty' (by simpa using hlast)

structure Rests (o : Situation κ) (n token : Nat) (x : Router.Hearing κ)
    (as : List (Except Problem Nat)) (w : Situation κ) : Prop where
  closed : w.session.closed = x.problem.isSome
  told : Told x.problem as
  line : w.hub.line =
    if x.problem.isSome then o.hub.line.dismantled (pathOfFilter n) token else o.hub.line
  router : ∀ id, w.session.router.outline id =
    if x.problem.isSome then none else x.router.outline id
  invocations : w.hub.invocations o.session.mailbox =
    o.hub.invocations o.session.mailbox ++ x.invocations

theorem Keeping.rests (hw : Keeping o n token es as w)
    (hempty : w.session.closed = false → w.hub.queue w.session.mailbox = []) :
    Rests o n token (o.session.router.hear es) as w := by
  cases hw with
  | ended hp hw ht =>
    refine ⟨?_, ?_, ?_, ?_, hw.invocations⟩
    · rw [hp]
      exact hw.closed
    · rw [hp]
      exact ht
    · rw [hp]
      exact hw.line
    · rw [hp]
      exact hw.router
  | @inStep done todo hes hp hw ht =>
    obtain rfl : todo = [] := by
      have hnone := hempty hw.live.opened
      rw [hw.mailbox, hw.queue] at hnone
      exact List.map_eq_nil_iff.mp hnone
    obtain rfl : done = es := by rw [← hes, List.append_nil]
    refine ⟨?_, ?_, ?_, ?_, hw.invocations⟩
    · rw [hp]
      exact hw.live.opened
    · rw [hp]
      exact ht
    · rw [hp]
      exact hw.line
    · rw [hp]
      exact hw.router.outline

end Situation

namespace World

open Situation

variable [Callback κ] {h : Hub (Bus ReplyTarget) κ} {ss : List (Session κ)} {s : Session κ}

theorem undisturbed (hw : World h ss) (hs : s ∈ ss) {n token : Nat}
    (hl : s.Live (pathOfFilter n) token)
    (hasks : s.router.AsksNothing fun id ↦ pathOfFilter n ∉ h.line.forwarding id) :
    Situation.Undisturbed ⟨s, h⟩ n token where
  live := hl
  mailbox_lt := hw.sound.mailbox_lt s hs
  count := by
    obtain ⟨ids, hosts⟩ := (hw.sound.seated s hs).hosts hl
    exact hosts.tied.count_listeners hw.sound.reachable.settled.sound
  asksNothing := hasks

/-- It does not matter when the loop of a session runs, as long as it runs last. Two schedules in
which the same events are emitted make the same calls in the same order, leave the same
subscriptions with as many delays pending, and the same bus; the session is open after both or
closed after both, because of the same panic. The callbacks queue no requests, and emit no event
that the session would hear itself. -/
theorem schedules_agree (hw : World h ss) (hs : s ∈ ss) (ho : s.closed = false)
    (hon : s.settings.offline = false) (hq : h.queue s.mailbox = [])
    (hasks : s.router.AsksNothing fun id ↦
      ∀ path, s.filterPath = some path → path ∉ h.line.forwarding id)
    {cs cs' : List Cue} (hsame : cs.filterMap Cue.emission? = cs'.filterMap Cue.emission?)
    (hlast : cs.getLast? = some .run) (hlast' : cs'.getLast? = some .run) {fuel : Nat}
    (hfuel : (cs.filterMap Cue.emission?).length ≤ fuel) :
    ∃ problem as w as' w',
      follow fuel ⟨s, h⟩ cs = some (as, w) ∧ follow fuel ⟨s, h⟩ cs' = some (as', w') ∧
      (∀ p, problem = some p → ∃ id message, p = .panicked id message) ∧
      Told problem as ∧ Told problem as' ∧
      w.session.closed = problem.isSome ∧ w'.session.closed = problem.isSome ∧
      w.hub.invocations s.mailbox = w'.hub.invocations s.mailbox ∧
      (∀ id, w.session.router.outline id = w'.session.router.outline id) ∧
      w.hub.line = w'.hub.line := by
  obtain ⟨n, token, hl⟩ := (hw.sound.seated s hs).live_of_open ho hon
  obtain ⟨ids, hp⟩ := hl.presence
  have hpath : s.filterPath = some (pathOfFilter n) := by rw [Session.filterPath, hp]; rfl
  have hquiet := hw.undisturbed hs hl fun id e he c hc values a ha ↦ by
    obtain ⟨id', name, vs, rfl, hunheard⟩ := hasks id e he c hc values a ha
    exact ⟨id', name, vs, rfl, hunheard _ hpath⟩
  have hstep : InStep ⟨s, h⟩ n token (s.router.hear []) [] ⟨s, h⟩ :=
    ⟨hl, rfl, rfl, rfl, hq, .refl _, (List.append_nil _).symm⟩
  -- both schedules start from here, and each of them is compared with hearing the events at once
  have hstart : Keeping ⟨s, h⟩ n token [] [] ⟨s, h⟩ := .inStep rfl rfl hstep told_nil
  have hle : (passed ⟨s, h⟩ n (cs.filterMap Cue.emission?)).length ≤ fuel :=
    (List.length_filter_le _ _).trans hfuel
  obtain ⟨as, w, hfollow, hkeeping, hempty⟩ := hstart.follow hquiet cs hle
  obtain ⟨as', w', hfollow', hkeeping', hempty'⟩ := hstart.follow hquiet cs' (hsame ▸ hle)
  have hrests := hkeeping.rests (hempty hlast)
  have hrests' := hkeeping'.rests (hempty' hlast')
  rw [← hsame] at hrests'
  refine ⟨_, as, w, as', w', hfollow, hfollow', ?_, hrests.told, hrests'.told, hrests.closed,
    hrests'.closed, ?_, ?_, ?_⟩
  · intro p hproblem
    exact Router.panicked_of_hear hproblem
  · exact hrests.invocations.trans hrests'.invocations.symm
  · intro id
    exact (hrests.router id).trans (hrests'.router id).symm
  · exact hrests.line.trans hrests'.line.symm

def strict : Settings := { Settings.default with panicPolicy := .abort }

def careful : Session Fuse := .fresh 0 strict (some ⟨⟨some (pathOfFilter 0), .empty⟩, some 0⟩)

def carefulHub : Hub (Bus ReplyTarget) Fuse := (Session.connect (.start Bus.start) strict).2

def brittle : Situation Fuse :=
  Situation.after ⟨careful, carefulHub⟩
    (.step 0 (.subscribe (.byId ⟨1⟩) ⟨"brittle", some (.text "no more"), some 2, 0⟩))

def nearby : Event := ⟨⟨1⟩, "near", [5]⟩

def eager : List Cue := [.emit nearby, .run, .emit nearby, .run, .emit nearby, .run]

def lazy : List Cue := [.emit nearby, .emit nearby, .wait, .emit nearby, .run]

/-- The callback panics on the second event. In one schedule the third comes when the session is
closed, in the other it was waiting by then. -/
theorem schedules_agree_on_panic :
    ∃ w w', follow 3 brittle eager =
        some ([.ok 1, .error (.panicked ⟨1⟩ "no more"), .error .closedSession], w) ∧
      follow 3 brittle lazy = some ([.error (.panicked ⟨1⟩ "no more")], w') ∧
      w.hub.line = w'.hub.line ∧ w.session.closed = true ∧ w'.session.closed = true ∧
      (w.hub.invocations 0).map Invocation.values = [[5], [5]] ∧
      w.hub.invocations 0 = w'.hub.invocations 0 := by
  have hw : World brittle.hub [brittle.session] :=
    .move (.step 0 (.subscribe (.byId ⟨1⟩) _)) nofun (.connect strict .start rfl)
  have hasks : brittle.session.router.AsksNothing fun id ↦
      ∀ path, brittle.session.filterPath = some path → path ∉ brittle.hub.line.forwarding id :=
    fun _ _ _ _ _ _ _ ha ↦ nomatch ha
  have hsame : eager.filterMap Cue.emission? = lazy.filterMap Cue.emission? := rfl
  have hthree : (eager.filterMap Cue.emission?).length ≤ 3 := Nat.le_refl 3
  obtain ⟨_, as, w, as', w', heager, hlazy, -, -, -, hclosed, hclosed', hcalls, -, hline⟩ :=
    schedules_agree hw List.mem_cons_self rfl rfl rfl hasks hsame rfl rfl hthree
  change follow 3 brittle eager = some (as, w) at heager
  change follow 3 brittle lazy = some (as', w') at hlazy
  have hended : (follow 3 brittle eager).map (fun r ↦
        (r.1, r.2.session.closed, (r.2.hub.invocations 0).map Invocation.values)) =
      some ([.ok 1, .error (.panicked ⟨1⟩ "no more"), .error .closedSession], true,
        [[5], [5]]) := rfl
  have hended' : (follow 3 brittle lazy).map Prod.fst =
      some [.error (.panicked ⟨1⟩ "no more")] := rfl
  rw [heager] at hended
  rw [hlazy] at hended'
  obtain ⟨rfl, hend⟩ := Prod.mk.inj (Option.some.inj hended)
  obtain ⟨hopen, hvalues⟩ := Prod.mk.inj hend
  obtain rfl := Option.some.inj hended'
  exact ⟨w, w', heager, hlazy, hline, hopen, hclosed'.trans (hclosed.symm.trans hopen), hvalues,
    hcalls⟩

def echoing : Situation Script :=
  (Situation.after ⟨Session.first, Session.firstHub⟩
    (.step 0 (.subscribe (.byId ⟨1⟩) ⟨"first", none, [.emit ⟨2⟩ [7]], 0⟩))).after
      (.step 0 (.subscribe (.byId ⟨2⟩) ⟨"second", none, [], 0⟩))

/-- What a callback emits for its own session waits behind what was emitted before the loop ran. -/
theorem schedules_disagree_on_echo :
    World echoing.hub [echoing.session] ∧ echoing.session.closed = false ∧
      echoing.session.settings.offline = false ∧
      echoing.hub.queue echoing.session.mailbox = [] ∧
      echoing.session.router.AsksNothing (fun _ ↦ True) ∧
      ∃ as w as' w',
        follow 3 echoing [.emit nearby, .run, .emit ⟨⟨2⟩, "far", [6]⟩, .run] = some (as, w) ∧
        follow 3 echoing [.emit nearby, .emit ⟨⟨2⟩, "far", [6]⟩, .run] = some (as', w') ∧
        (w.hub.invocations 0).map Invocation.values = [[5], [7], [6]] ∧
        (w'.hub.invocations 0).map Invocation.values = [[5], [6], [7]] := by
  have hw : World echoing.hub [echoing.session] :=
    .move (.step 0 (.subscribe (.byId ⟨2⟩) _)) nofun
      (.move (.step 0 (.subscribe (.byId ⟨1⟩) _)) nofun (.connect .default .start rfl))
  have hasks : echoing.session.router.AsksNothing (fun _ ↦ True) := by
    refine Router.AsksNothing.subscribe (.subscribe (Router.asksNothing_start 10 .isolate) ⟨1⟩
      (Script.asksNothing ?_) 1) ⟨2⟩ (Script.asksNothing ?_) 2
    · intro a ha
      exact ⟨⟨2⟩, [7], List.mem_singleton.mp ha, trivial⟩
    · exact fun a ha ↦ nomatch ha
  exact ⟨hw, rfl, rfl, rfl, hasks, _, _, _, _, rfl, rfl, rfl, rfl⟩

end World

end RobotBus
