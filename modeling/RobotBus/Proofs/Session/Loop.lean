import RobotBus.Callback.Script
import RobotBus.Proofs.Hub
import RobotBus.Simulation.Run

namespace RobotBus

variable {σ κ : Type}

def Mild {α : Type} (r : Except Problem α) : Prop := ∀ p, r = .error p → p.endsSession = false

theorem mild_ok {α : Type} (a : α) : Mild (.ok a) := nofun

theorem mild_error {α : Type} {p : Problem} (hp : p.endsSession = false) :
    Mild (.error p : Except Problem α) := by
  intro p' h
  cases h
  exact hp

theorem EventNames.mild_locate (e : EventNames) (event : Mention) : Mild (e.locate event) := by
  cases event with
  | byId id => exact mild_ok id
  | outOfRange n => exact mild_error rfl
  | byName name =>
    rw [locate, find]
    split
    · exact mild_ok _
    · exact mild_error rfl

namespace FilterKeeper

variable [Line σ]

theorem mild_obtain (k : FilterKeeper) (l : σ) : Mild (k.obtain l).1 := by
  have hread (reply : List Value) : Mild (pathInReply reply) := by
    unfold pathInReply
    split
    · exact mild_ok _
    · exact mild_ok _
    · exact mild_error rfl
  unfold obtain
  split
  · exact mild_ok _
  · split
    · exact mild_error rfl
    · next reply l' _ =>
      split
      · next p hp => exact mild_error (hread reply p hp)
      · split
        · exact mild_error rfl
        · exact mild_ok _

theorem mild_allow (k : FilterKeeper) (l : σ) (id : EventId) : Mild (k.allow l id).1 := by
  unfold allow
  split
  · exact mild_ok _
  · have ho := k.mild_obtain l
    split
    · next p k' l' heq => exact mild_error (ho p (congrArg Prod.fst heq))
    · split
      · exact mild_error rfl
      · exact mild_ok _

end FilterKeeper

namespace Session

variable [Line σ]

theorem close_closed (s : Session κ) (h : Hub σ κ) : (s.close h).2.1.closed = true := by
  unfold close
  split
  · assumption
  · cases s.presence <;> rfl

theorem close_hub (s : Session κ) (h : Hub σ κ) :
    (s.close h).2.2 = { h with line := (s.close h).2.2.line } := by
  unfold close
  split
  · rfl
  · cases s.presence <;> rfl

theorem frame_of_close {s s' : Session κ} {h h' : Hub σ κ} {r : Except Problem Unit}
    (hc : s.close h = (r, s', h')) :
    s'.closed = true ∧ s'.mailbox = s.mailbox ∧ ∀ n, h'.queue n = h.queue n := by
  unfold close at hc
  split at hc
  · next hs =>
    cases hc
    exact ⟨hs, rfl, fun _ ↦ rfl⟩
  · split at hc <;> cases hc <;> exact ⟨rfl, rfl, fun _ ↦ rfl⟩

theorem close_of_closed {s : Session κ} (hs : s.closed = true) (h : Hub σ κ) :
    s.close h = (.ok (), s, h) := by
  rw [close, if_pos hs]

theorem conclude_snd {α : Type} (s : Session κ) (h : Hub σ κ) (result : Except Problem α) :
    (s.conclude h result).2 = (s.close h).2.2 := by
  unfold conclude
  rcases s.close h with ⟨_ | _, s', h'⟩ <;> cases result <;> rfl

theorem mild_send (s : Session κ) (h : Hub σ κ) (event : Mention) (args : List Word) :
    Mild (s.send h event args).1 := by
  have hl := s.names.mild_locate event
  unfold send
  split
  · exact mild_error rfl
  · split
    · next p hp => exact mild_error (hl p hp)
    · exact mild_ok ()

theorem queue_send (s : Session κ) (h : Hub σ κ) (event : Mention) (args : List Word) (n : Nat) :
    h.queue n <+: (s.send h event args).2.queue n := by
  unfold send
  split
  · exact List.prefix_rfl
  · split
    · exact List.prefix_rfl
    · next id _ =>
      cases s.access with
      | offline n => exact List.prefix_rfl
      | online => exact (Hub.submit_extends h _ _ _ _ _).queue n

theorem mild_write (s : Session κ) (h : Hub σ κ) (node name : String) (value : WordValue) :
    Mild (s.write h node name value).1 := by
  unfold write ask
  split
  · exact mild_error rfl
  · cases s.access with
    | offline n => exact mild_ok ()
    | online =>
      simp only [NodeAccess.write, NodeAccess.callNetwork]
      split
      · exact mild_ok ()
      · exact mild_error rfl

omit [Line σ] in
theorem ask_hub {α : Type} (s : Session κ) (h : Hub σ κ) (f : σ → Except Problem α × σ) :
    (s.ask h f).2 = { h with line := (s.ask h f).2.line } := by
  unfold ask
  split <;> rfl

theorem mild_allow (s : Session κ) (h : Hub σ κ) (id : EventId) : Mild (s.allow h id).1 := by
  unfold allow
  split
  · exact mild_ok ()
  · exact FilterKeeper.mild_allow _ _ _

theorem subscribe_frame (s : Session κ) (h : Hub σ κ) (event : Mention) (callback : κ) :
    let r := s.subscribe h event callback
    Mild r.1 ∧ r.2.1.closed = s.closed ∧ r.2.1.mailbox = s.mailbox ∧
      r.2.2.mailboxes = h.mailboxes := by
  have hallow (id : EventId) : (s.allow h id).2.1.closed = s.closed ∧
      (s.allow h id).2.1.mailbox = s.mailbox ∧ (s.allow h id).2.2.mailboxes = h.mailboxes := by
    unfold allow
    cases s.presence <;> exact ⟨rfl, rfl, rfl⟩
  unfold subscribe
  split
  · exact ⟨mild_error rfl, rfl, rfl, rfl⟩
  · split
    · next p hp => exact ⟨mild_error (s.names.mild_locate event p hp), rfl, rfl, rfl⟩
    · next id _ =>
      have h' := hallow id
      have hm := s.mild_allow h id
      split
      · next p s' h'' heq =>
        rw [heq] at h' hm
        exact ⟨mild_error (hm p rfl), h'⟩
      · next s' h'' heq =>
        rw [heq] at h'
        exact ⟨mild_ok id, h'⟩

theorem judge_of_mild {α : Type} {r : Except Problem α} (hr : Mild r) (s : Session κ)
    (h : Hub σ κ) : judge r s h = (.running, s, h) := by
  cases r with
  | ok a => rfl
  | error p => rw [judge, hr p rfl, if_neg Bool.false_ne_true]

variable [Callback κ]

inductive Cause
  | asked
  | problem (p : Problem)

def cause? (s : Session κ) : Message κ → Option Cause
  | .event e =>
    match s.router.subscriptions.entries.get? e.id with
    | none => none
    | some sub =>
      match (Callback.react sub.callback e.values).panic, s.router.policy with
      | some p, .abort => some (.problem (.panicked e.id p.message))
      | _, _ => none
  | .problem p => some (.problem p)
  | .request .stop => some .asked
  | .request _ => none

/-- What a loop comes to that a cause has ended, if closing came to `closed`. -/
def Cause.result {α : Type} (c : Cause) (a : α) (closed : Except Problem Unit) : Except Problem α :=
  match c with
  | asked => closed.map (fun _ ↦ a)
  | problem p => .error p

/-- What a message that ends the session leaves before the session is closed: the callback of an
event has been called by then. -/
def heard (s : Session κ) (h : Hub σ κ) : Message κ → Session κ × Hub σ κ
  | .event e =>
    let (now, h) := h.now
    let routed := s.router.route e.id e.values now
    ({ s with router := routed.router }, s.logCall h e.id routed.call)
  | .problem _ => (s, h)
  | .request _ => (s, h)

theorem outcome_route (s : Session κ) (e : Event) (now : Instant) :
    (s.cause? (.event e) = none ∧ ∃ r, (s.router.route e.id e.values now).outcome = .ok r) ∨
      ∃ p, s.cause? (.event e) = some (.problem p) ∧
        (s.router.route e.id e.values now).outcome = .error p := by
  simp only [cause?, Router.route]
  cases s.router.subscriptions.entries.get? e.id with
  | none => exact .inl ⟨rfl, _, rfl⟩
  | some sub =>
    dsimp only
    cases (Callback.react sub.callback e.values).panic with
    | none => exact .inl ⟨rfl, _, rfl⟩
    | some p =>
      cases s.router.policy with
      | isolate => exact .inl ⟨rfl, _, rfl⟩
      | abort => exact .inr ⟨_, rfl, rfl⟩

omit [Callback κ] in
theorem logCall_queue (s : Session κ) (h : Hub σ κ) (id : EventId) (c : Option (Call κ)) (n : Nat) :
    h.queue n <+: (s.logCall h id c).queue n := by
  cases c with
  | none => exact List.prefix_rfl
  | some c => exact (Hub.extends_performAll (h.note _) s.mailbox c.effects).queue n

theorem heard_frame (s : Session κ) (h : Hub σ κ) (m : Message κ) :
    (s.heard h m).1.mailbox = s.mailbox ∧ ∀ n, h.queue n <+: (s.heard h m).2.queue n := by
  cases m with
  | event e => exact ⟨rfl, s.logCall_queue h.now.2 _ _⟩
  | problem | request => exact ⟨rfl, fun _ ↦ List.prefix_rfl⟩

theorem handle_event {s : Session κ} {e : Event} (hc : s.cause? (.event e) = none) (h : Hub σ κ) :
    s.handle h (.event e) = (.running, (s.heard h (.event e)).1, (s.heard h (.event e)).2) := by
  rcases s.outcome_route e h.now.1 with ⟨-, r, ho⟩ | ⟨p, hp, -⟩
  · simp only [handle, receive, heard, ho]
  · rw [hc] at hp
    cases hp

/-- A message with no cause to end the session is handled, and what is posted meanwhile is behind
what was in the mailbox. -/
theorem handle_running {s : Session κ} (hs : s.closed = false) {m : Message κ}
    (hc : s.cause? m = none) (h : Hub σ κ) :
    ∃ s' h', s.handle h m = (.running, s', h') ∧ s'.closed = false ∧ s'.mailbox = s.mailbox ∧
      h.queue s.mailbox <+: h'.queue s.mailbox := by
  cases m with
  | event e =>
    refine ⟨_, _, handle_event hc h, hs, rfl, ?_⟩
    exact s.logCall_queue h.now.2 _ _ _
  | problem p => cases hc
  | request q =>
    cases q with
    | send event args =>
      refine ⟨s, _, judge_of_mild (s.mild_send h event args) s _, hs, rfl, ?_⟩
      exact s.queue_send h event args _
    | write node name value =>
      refine ⟨s, (s.write h node name value).2,
        judge_of_mild (s.mild_write h node name value) s _, hs, rfl, ?_⟩
      rw [write, ask_hub]
      exact List.prefix_rfl
    | subscribe event callback =>
      obtain ⟨hm, hclosed, hmailbox, hq⟩ := s.subscribe_frame h event callback
      have hsame : (s.subscribe h event callback).2.2.queue s.mailbox = h.queue s.mailbox :=
        congrArg (fun qs ↦ (qs[s.mailbox]?).getD []) hq
      exact ⟨_, (s.subscribe h event callback).2.2, judge_of_mild hm _ _, hclosed.trans hs,
        hmailbox, hsame ▸ List.prefix_rfl⟩
    | stop => cases hc

theorem handle_of_cause {s s' : Session κ} {m : Message κ} {c : Cause} (hc : s.cause? m = some c)
    {h h' : Hub σ κ} {closed : Except Problem Unit}
    (hclose : (s.heard h m).1.close (s.heard h m).2 = (closed, s', h')) :
    s.handle h m =
      match c.result () closed with
      | .ok () => (.stopped, s', h')
      | .error p => (.failed p, s', h') := by
  cases m with
  | event e =>
    rcases s.outcome_route e h.now.1 with ⟨hnone, -⟩ | ⟨p, hp, ho⟩
    · rw [hc] at hnone
      cases hnone
    · cases hc.symm.trans hp
      simp only [heard] at hclose
      simp only [handle, receive, ho, breakOff, hclose, Cause.result]
  | problem p =>
    cases hc
    simp only [heard] at hclose
    simp only [handle, breakOff, hclose, Cause.result]
  | request q =>
    cases q with
    | send | write | subscribe => cases hc
    | stop =>
      cases hc
      simp only [heard] at hclose
      simp only [handle, carryOut, hclose, Cause.result]
      cases closed <;> rfl

theorem handle_closed (s : Session κ) (h : Hub σ κ) (m : Message κ) (hs : s.closed = false) :
    (s.handle h m).2.1.closed = true ↔ (s.handle h m).1 ≠ .running := by
  cases hc : s.cause? m with
  | none =>
    obtain ⟨s', h', hm, hopen, -⟩ := handle_running hs hc h
    simp [hm, hopen]
  | some c =>
    have hclosed := close_closed (s.heard h m).1 (s.heard h m).2
    rcases hclose : (s.heard h m).1.close (s.heard h m).2 with ⟨closed, s', h'⟩
    rw [hclose] at hclosed
    rw [handle_of_cause hc hclose]
    cases c.result () closed with
    | ok => simpa using hclosed
    | error => simpa using hclosed

/-- The loop of an open session handles messages that do not end it. The second list is what is
posted to its own mailbox meanwhile. -/
inductive Handles : Session κ → Hub σ κ → List (Message κ) → List (Message κ) →
    Session κ → Hub σ κ → Prop
  | nothing (s : Session κ) (h : Hub σ κ) : Handles s h [] [] s h
  | next {s s' s'' : Session κ} {h g h' h'' : Hub σ κ} {m : Message κ}
      {ms ps ps' : List (Message κ)} (ht : h.take s.mailbox = some (m, g))
      (hc : s.cause? m = none) (hm : s.handle g m = (.running, s', h'))
      (hq : h'.queue s.mailbox = g.queue s.mailbox ++ ps) (hms : Handles s' h' ms ps' s'' h'') :
      Handles s h (m :: ms) (ps ++ ps') s'' h''

variable {s s₁ : Session κ} {h h₁ : Hub σ κ} {ms ps : List (Message κ)}

theorem Handles.frame (hh : Handles s h ms ps s₁ h₁) (hs : s.closed = false) :
    s₁.closed = false ∧ s₁.mailbox = s.mailbox ∧
      h.queue s.mailbox ++ ps = ms ++ h₁.queue s.mailbox := by
  induction hh with
  | nothing s h => exact ⟨hs, rfl, List.append_nil _⟩
  | @next s s' s'' h g h' h'' m ms ps ps' ht hc hm hq _ ih =>
    obtain ⟨s₂, h₂, hm', hopen, hmailbox, -⟩ := handle_running hs hc g
    rw [hm] at hm'
    cases hm'
    obtain ⟨hopen', hmailbox', hfifo⟩ := ih hopen
    refine ⟨hopen', hmailbox'.trans hmailbox, ?_⟩
    rw [hmailbox, hq] at hfifo
    rw [(Hub.queue_of_take ht).1, List.cons_append, ← List.append_assoc, hfifo, List.cons_append]

theorem drain_of_handles (hh : Handles s h ms ps s₁ h₁) (fuel handled : Nat) :
    s.drain (fuel + ms.length) h handled = s₁.drain fuel h₁ (handled + ms.length) := by
  induction hh generalizing handled with
  | nothing => rfl
  | @next s s' s'' h g h' h'' m ms ps ps' ht hc hm hq _ ih =>
    rw [List.length_cons, ← Nat.add_assoc, drain, ht]
    simp only [hm]
    rw [ih, Nat.add_right_comm, Nat.add_assoc handled]

/-- Whatever fuel there is, it is spent on messages that do not end the session, or the loop comes
to an empty mailbox or to a message that does. -/
theorem exists_handles (hs : s.closed = false) (h : Hub σ κ) (fuel : Nat) :
    ∃ ms ps s₁ h₁, Handles s h ms ps s₁ h₁ ∧ ms.length ≤ fuel ∧
      (ms.length < fuel → h₁.queue s.mailbox = [] ∨
        ∃ m g c, h₁.take s.mailbox = some (m, g) ∧ s₁.cause? m = some c) := by
  induction fuel generalizing s h with
  | zero => exact ⟨[], [], s, h, .nothing s h, Nat.le_refl _, nofun⟩
  | succ fuel ih =>
    cases ht : h.take s.mailbox with
    | none =>
      refine ⟨[], [], s, h, .nothing s h, Nat.zero_le _, fun _ ↦ .inl ?_⟩
      exact (h.take_eq_none_iff s.mailbox).mp ht
    | some mg =>
      obtain ⟨m, g⟩ := mg
      cases hc : s.cause? m with
      | some c => exact ⟨[], [], s, h, .nothing s h, Nat.zero_le _, fun _ ↦ .inr ⟨m, g, c, ht, hc⟩⟩
      | none =>
        obtain ⟨s', h', hm, hopen, hmailbox, ps, hq⟩ := handle_running hs hc g
        obtain ⟨ms, ps', s₁, h₁, hms, hle, hend⟩ := ih hopen h'
        refine ⟨m :: ms, ps ++ ps', s₁, h₁, .next ht hc hm hq.symm hms, ?_, fun hlt ↦ ?_⟩
        · exact Nat.succ_le_succ hle
        · rw [hmailbox] at hend
          exact hend (Nat.lt_of_succ_lt_succ hlt)

theorem drain_of_cause {s' : Session κ} {m : Message κ} {g h' : Hub σ κ} {c : Cause}
    {closed : Except Problem Unit} (ht : h.take s.mailbox = some (m, g))
    (hc : s.cause? m = some c)
    (hclose : (s.heard g m).1.close (s.heard g m).2 = (closed, s', h')) (fuel handled : Nat) :
    s.drain (fuel + 1) h handled =
      match c.result () closed with
      | .ok () => some ⟨.stopped, handled + 1, s', h'⟩
      | .error p => some ⟨.failed p, handled + 1, s', h'⟩ := by
  have hm := handle_of_cause hc hclose
  rw [drain, ht]
  cases hr : c.result () closed with
  | ok u =>
    rw [hr] at hm
    simp only [hm]
  | error p =>
    rw [hr] at hm
    simp only [hm]

theorem drain_of_take {m : Message κ} {g : Hub σ κ} (ht : h.take s.mailbox = some (m, g))
    (fuel handled : Nat) :
    s.drain (fuel + 1) h handled =
      match s.handle g m with
      | (.running, s, h) => s.drain fuel h (handled + 1)
      | (.stopped, s, h) => some ⟨.stopped, handled + 1, s, h⟩
      | (.failed p, s, h) => some ⟨.failed p, handled + 1, s, h⟩ := by
  rcases hm : s.handle g m with ⟨progress, s', h'⟩
  rw [drain, ht]
  cases progress <;> simp only [hm]

theorem drain_of_empty (hempty : h.queue s.mailbox = []) (fuel handled : Nat) :
    s.drain fuel h handled = some ⟨.idle, handled, s, h⟩ := by
  rw [drain, (h.take_eq_none_iff s.mailbox).mpr hempty]

theorem runQueued_of_drain (ho : s.closed = false) {fuel : Nat} {d : Drained σ κ}
    (hd : s.drain fuel h 0 = some d) :
    s.runQueued fuel h =
      some (match d.ending with
        | .failed p => .error p
        | _ => .ok d.handled, d.session, d.hub) := by
  simp only [runQueued, runLoop, ho, Bool.false_eq_true, if_false, hd]
  cases d.ending <;> rfl

theorem runLoop_of_handles {α : Type} (hh : Handles s h ms ps s₁ h₁) (hs : s.closed = false)
    (result : Drained σ κ → Option (Except Problem α)) {fuel : Nat} (hf : ms.length ≤ fuel) :
    s.runLoop fuel h result =
      match s₁.drain (fuel - ms.length) h₁ ms.length with
      | none => none
      | some d => (result d).map (fun r ↦ (r, d.session, d.hub)) := by
  have hd := drain_of_handles hh (fuel - ms.length) 0
  rw [Nat.sub_add_cancel hf, Nat.zero_add] at hd
  rw [runLoop, hs, hd]
  rfl

theorem runs_of_cause (hh : Handles s h ms ps s₁ h₁) (hs : s.closed = false) {s₂ : Session κ}
    {m : Message κ} {g h₂ : Hub σ κ} {c : Cause} {closed : Except Problem Unit}
    (ht : h₁.take s₁.mailbox = some (m, g)) (hc : s₁.cause? m = some c)
    (hclose : (s₁.heard g m).1.close (s₁.heard g m).2 = (closed, s₂, h₂)) {fuel : Nat}
    (hf : ms.length < fuel) :
    s.runQueued fuel h = some (c.result (ms.length + 1) closed, s₂, h₂) ∧
      s.runBriefly fuel h = some (c.result true closed, s₂, h₂) ∧
      s.run fuel h = some (c.result () closed, s₂, h₂) := by
  have hd := drain_of_cause ht hc hclose (fuel - ms.length - 1) ms.length
  rw [Nat.sub_add_cancel (Nat.sub_pos_of_lt hf)] at hd
  simp only [runQueued, runBriefly, run, runLoop_of_handles hh hs _ hf.le, hd]
  rcases c with _ | p
  · cases closed <;> exact ⟨rfl, rfl, rfl⟩
  · exact ⟨rfl, rfl, rfl⟩

/-- A closed session leaves the hub as it is, and does no more than load names. -/
theorem sessionStep_of_closed (hs : s.closed = true) (fuel : Nat) (h : Hub σ κ)
    (st : Simulation.SessionStep κ) :
    ∃ r s', Simulation.sessionStep fuel s h st = some (r, s', h) ∧
      ∃ names, s' = { s with names := names } := by
  cases st with
  | loadNames path file =>
    simp only [Simulation.sessionStep, loadNames]
    cases EventNames.ofFile path file with
    | error e => exact ⟨_, s, rfl, s.names, rfl⟩
    | ok names => exact ⟨_, _, rfl, names, rfl⟩
  | names q => exact ⟨_, _, rfl, _, rfl⟩
  | _ =>
    refine ⟨?_, s, ?_, s.names, rfl⟩
    rotate_left
    · simp only [Simulation.sessionStep, Simulation.changed, Simulation.unchanged, subscribe, send,
        sweep, nodes, read, write, loadScript, ask, runQueued, runBriefly, run, runLoop,
        close_of_closed hs, hs, if_true, Option.bind_some]
      rfl

/-- What may become of a closed session: it does whatever it can, and others post to its mailbox. -/
inductive Later (s : Session κ) (h : Hub σ κ) : Session κ → Hub σ κ → Prop
  | refl : Later s h s h
  | step {s' s'' : Session κ} {h' h'' : Hub σ κ} (fuel : Nat) (st : Simulation.SessionStep κ)
      (r : Except Problem Simulation.Answer) (hl : Later s h s' h')
      (hr : Simulation.sessionStep fuel s' h' st = some (r, s'', h'')) : Later s h s'' h''
  | drop {s' : Session κ} {h' : Hub σ κ} (hl : Later s h s' h') :
      Later s h (s'.close h').2.1 (s'.close h').2.2
  | other {s' : Session κ} {h' h'' : Hub σ κ} (hl : Later s h s' h')
      (hq : h'.queue s'.mailbox <+: h''.queue s'.mailbox) : Later s h s' h''

theorem Later.frame (hl : Later s h s₁ h₁) (hs : s.closed = true) :
    s₁.closed = true ∧ s₁.mailbox = s.mailbox ∧ h.queue s.mailbox <+: h₁.queue s.mailbox := by
  induction hl with
  | refl => exact ⟨hs, rfl, List.prefix_rfl⟩
  | @step s' s'' h' h'' fuel st r _ hr ih =>
    obtain ⟨hclosed, hmailbox, hq⟩ := ih
    obtain ⟨r', s₄, hr', names, rfl⟩ := sessionStep_of_closed hclosed fuel h' st
    rw [hr'] at hr
    cases hr
    exact ⟨hclosed, hmailbox, hq⟩
  | @drop s' h' _ ih =>
    rw [close_of_closed ih.1 h']
    exact ih
  | other _ hq ih => exact ⟨ih.1, ih.2.1, ih.2.2.trans (ih.2.1 ▸ hq)⟩

/-- The loop handles what is in the mailbox of an open session in order, and what is posted
meanwhile after it, up to the first message that ends the session. That message decides what the
loop comes to, and closing tells its own problem only if the session was asked to stop. What is
behind the message stays in the mailbox for good. With no such message the loop empties the
mailbox. -/
theorem first_cause_decides (s : Session κ) (h : Hub σ κ) (hs : s.closed = false) :
    (∀ ms ps s₁ h₁, Handles s h ms ps s₁ h₁ →
      s₁.closed = false ∧ h.queue s.mailbox ++ ps = ms ++ h₁.queue s.mailbox ∧
      (h₁.queue s.mailbox = [] → ∀ fuel, ms.length ≤ fuel →
        s.runQueued fuel h = some (.ok ms.length, s₁, h₁) ∧
        s.runBriefly fuel h = some (.ok false, s₁, h₁) ∧ s.run fuel h = none) ∧
      ∀ m g c, h₁.take s.mailbox = some (m, g) → s₁.cause? m = some c →
        ∀ closed s₂ h₂, (s₁.heard g m).1.close (s₁.heard g m).2 = (closed, s₂, h₂) →
          (∀ fuel, ms.length < fuel →
            s.runQueued fuel h = some (c.result (ms.length + 1) closed, s₂, h₂) ∧
            s.runBriefly fuel h = some (c.result true closed, s₂, h₂) ∧
            s.run fuel h = some (c.result () closed, s₂, h₂)) ∧
          ∀ s₃ h₃, Later s₂ h₂ s₃ h₃ →
            s₃.closed = true ∧ g.queue s.mailbox <+: h₃.queue s.mailbox ∧
            ∀ fuel st, ∃ r s₄, Simulation.sessionStep fuel s₃ h₃ st = some (r, s₄, h₃)) ∧
    ∀ fuel, ∃ ms ps s₁ h₁, Handles s h ms ps s₁ h₁ ∧ ms.length ≤ fuel ∧
      (ms.length < fuel → h₁.queue s.mailbox = [] ∨
        ∃ m g c, h₁.take s.mailbox = some (m, g) ∧ s₁.cause? m = some c) := by
  refine ⟨?_, exists_handles hs h⟩
  intro ms ps s₁ h₁ hh
  obtain ⟨hopen, hmailbox, hfifo⟩ := hh.frame hs
  refine ⟨hopen, hfifo, ?_, ?_⟩
  · intro hempty fuel hf
    rw [← hmailbox] at hempty
    have hd : s₁.drain (fuel - ms.length) h₁ ms.length = some ⟨.idle, ms.length, s₁, h₁⟩ := by
      rw [drain, (h₁.take_eq_none_iff s₁.mailbox).mpr hempty]
    simp only [runQueued, runBriefly, run, runLoop_of_handles hh hs _ hf, hd]
    exact ⟨rfl, rfl, rfl⟩
  · intro m g c ht hc closed s₂ h₂ hclose
    rw [← hmailbox] at ht
    refine ⟨fun fuel hf ↦ runs_of_cause hh hs ht hc hclose hf, ?_⟩
    intro s₃ h₃ hl
    obtain ⟨hclosed₂, hmailbox₂, hq₂⟩ := frame_of_close hclose
    obtain ⟨hclosed₃, -, hq₃⟩ := hl.frame hclosed₂
    obtain ⟨hmailbox', hq'⟩ := s₁.heard_frame g m
    have hn : s₂.mailbox = s.mailbox := hmailbox₂.trans (hmailbox'.trans hmailbox)
    rw [hn, hq₂] at hq₃
    refine ⟨hclosed₃, (hq' s.mailbox).trans hq₃, fun fuel st ↦ ?_⟩
    obtain ⟨r, s₄, hr, -⟩ := sessionStep_of_closed hclosed₃ fuel h₃ st
    exact ⟨r, s₄, hr⟩

/-- A callback asks to stop, but a problem is already waiting, and decides. -/
theorem first_cause_decides_of_script :
    let s : Session Script :=
      { (offline (.start Bus.start : Hub (Bus ReplyTarget) Script)).1 with
        router := (Router.start 10 .abort).subscribe ⟨0⟩ ⟨"ask", none, [.stop], 0⟩ 0 }
    let h : Hub (Bus ReplyTarget) Script :=
      ⟨Bus.start, [[.event ⟨⟨0⟩, "near", []⟩, .problem .emptyWindow, .request .stop]], [], 0⟩
    s.closed = false ∧
      (s.runQueued 2 h).map (fun r ↦ (r.1, r.2.2.queue 0)) =
        some (.error .emptyWindow, [.request .stop, .request .stop]) ∧
      (s.run 2 h).map Prod.fst = some (.error .emptyWindow) := by
  intro s h
  refine ⟨rfl, ?_⟩
  have hh := Handles.next (s := s) (h := h) rfl rfl rfl rfl (.nothing _ _)
  obtain ⟨-, -, -, hend⟩ := (first_cause_decides s h rfl).1 _ _ _ _ hh
  obtain ⟨hrun, -⟩ := hend _ _ _ rfl rfl _ _ _ rfl
  obtain ⟨hqueued, -, hrun⟩ := hrun 2 (by decide)
  rw [hqueued, hrun]
  exact ⟨rfl, rfl⟩

end Session

end RobotBus
