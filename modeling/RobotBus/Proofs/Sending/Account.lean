import RobotBus.Proofs.Sending.Outcome

namespace RobotBus

open Bus Hub

variable {κ : Type}

namespace Hub

variable {h h' h'' : Hub (Bus ReplyTarget) κ} {n : Nat} {xs xs' : List Sending}
  {ps ps' : List Problem}

/-- What the owner of a mailbox was owed, and what was refused since, is what it was told and what
it is owed now. -/
def Settles (n : Nat) (h h' : Hub (Bus ReplyTarget) κ) (xs : List Sending) (ps : List Problem) :
    Prop :=
  (ps ++ h'.owed n).Perm (h.owed n ++ xs.filterMap Sending.problem?)

theorem Settles.trans (hs : Settles n h h' xs ps) (hs' : Settles n h' h'' xs' ps') :
    Settles n h h'' (xs ++ xs') (ps ++ ps') := by
  rw [Settles, List.append_assoc, List.filterMap_append, ← List.append_assoc (h.owed n)]
  calc
    (ps ++ (ps' ++ h''.owed n)).Perm (ps ++ (h'.owed n ++ xs'.filterMap Sending.problem?)) :=
      List.Perm.append_left ps hs'
    _ = (ps ++ h'.owed n) ++ xs'.filterMap Sending.problem? := (List.append_assoc _ _ _).symm
    List.Perm _ _ := List.Perm.append_right _ hs

theorem settles_of_owed (ho : h'.owed n = h.owed n) : Settles n h h' [] [] := by
  simp [Settles, ho]

/-- From one hub to the other the owner of a mailbox sends some events and is told some problems. -/
structure Balanced (n : Nat) (h h' : Hub (Bus ReplyTarget) κ) (xs : List Sending)
    (ps : List Problem) : Prop where
  sent : h'.line.sent = h.line.sent ++ xs.filterMap Sending.entry?
  settles : Settles n h h' xs ps

theorem Calm.balanced (hc : Calm n h h') : Balanced n h h' [] [] :=
  ⟨hc.sent.trans (List.append_nil _).symm, settles_of_owed hc.owed⟩

theorem Outcome.balanced {x : Sending} (ho : Outcome n h h' x) : Balanced n h h' [x] [] := by
  obtain ⟨id, args, refusal⟩ := x
  cases ho with
  | recorded hx hsent hposted hheld =>
    obtain rfl : refusal = none := hx
    refine ⟨hsent, ?_⟩
    simp [Settles, owed, hposted, hheld, Sending.problem?, List.filterMap_cons]
  | posted f hx hsent hposted hheld =>
    obtain rfl : refusal = some f := hx
    refine ⟨hsent.trans (List.append_nil _).symm, ?_⟩
    -- the new problem stands before those that are still held back
    rw [Settles, owed, hposted, hheld, owed, List.nil_append, List.append_assoc, List.append_assoc]
    exact List.perm_append_comm.append_left _
  | held f hx hsent hposted hheld =>
    obtain rfl : refusal = some f := hx
    refine ⟨hsent.trans (List.append_nil _).symm, ?_⟩
    simp [Settles, owed, hposted, hheld, Sending.problem?]

theorem balanced_take {m : Message κ} (ht : h.take n = some (m, h')) :
    Balanced n h h' [] m.problem?.toList := by
  have hline := (queue_of_take ht).2.1
  refine ⟨by simp [hline], ?_⟩
  have hp : h.problems n = m.problem?.toList ++ h'.problems n :=
    filterMap_queue_of_take Message.problem? ht
  simp [Settles, owed, heldProblems, hp, hline]

theorem Balanced.trans (hb : Balanced n h h' xs ps) (hb' : Balanced n h' h'' xs' ps') :
    Balanced n h h'' (xs ++ xs') (ps ++ ps') where
  sent := by rw [hb'.sent, hb.sent, List.filterMap_append, List.append_assoc]
  settles := hb.settles.trans hb'.settles

end Hub

namespace Session

variable {s : Session κ} {h : Hub (Bus ReplyTarget) κ}

def sending? (s : Session κ) (h : Hub (Bus ReplyTarget) κ) (event : Mention) (args : List Word) :
    Option Sending :=
  match (s.send h event args).1, s.locate event with
  | .ok (), .ok id => some ⟨id, args, h.line.refusal? "SendEvent"⟩
  | _, _ => none

def sends? (s : Session κ) (h : Hub (Bus ReplyTarget) κ) : Message κ → Option Sending
  | .request (.send event args) => s.sending? h event args
  | _ => none

theorem sending?_of_closed (hs : s.closed = true) (event : Mention) (args : List Word) :
    s.sending? h event args = none := by
  simp only [sending?, send, hs, if_true]

theorem sends?_of_closed (hs : s.closed = true) (m : Message κ) : s.sends? h m = none := by
  cases m with
  | event | problem => rfl
  | request q =>
    cases q with
    | send event args => exact sending?_of_closed hs event args
    | write | subscribe | stop => rfl

theorem outcome_of_ok (hon : s.settings.offline = false) (hn : s.mailbox < h.mailboxes.length)
    {event : Mention} {args : List Word} (hok : (s.send h event args).1 = .ok ()) :
    ∃ id, s.locate event = .ok id ∧
      s.sending? h event args = some ⟨id, args, h.line.refusal? "SendEvent"⟩ ∧
      Outcome s.mailbox h (s.send h event args).2 ⟨id, args, h.line.refusal? "SendEvent"⟩ := by
  have hacc : s.access = .online := by simp [access, hon]
  cases hs : s.closed with
  | true =>
    rw [send, if_pos hs] at hok
    cases hok
  | false =>
    cases hl : s.locate event with
    | error p =>
      simp only [send, hs, hl, Bool.false_eq_true, if_false] at hok
      cases hok
    | ok id =>
      simp only [sending?, send, hs, hl, hacc, Bool.false_eq_true, if_false]
      exact ⟨id, rfl, rfl, outcome_submit hn id args⟩

theorem nothing_of_error {event : Mention} {args : List Word} {p : Problem}
    (hp : (s.send h event args).1 = .error p) :
    s.sending? h event args = none ∧ (s.send h event args).2 = h := by
  refine ⟨by simp only [sending?, hp], ?_⟩
  cases hs : s.closed with
  | true => rw [send, if_pos hs]
  | false =>
    cases hl : s.locate event with
    | error p => simp only [send, hs, hl, Bool.false_eq_true, if_false]
    | ok id =>
      simp only [send, hs, hl, Bool.false_eq_true, if_false] at hp
      cases hp

theorem balanced_send (hon : s.settings.offline = false) (hn : s.mailbox < h.mailboxes.length)
    (event : Mention) (args : List Word) :
    Balanced s.mailbox h (s.send h event args).2 (s.sending? h event args).toList [] := by
  cases hr : (s.send h event args).1 with
  | error p =>
    obtain ⟨hx, hh⟩ := nothing_of_error hr
    rw [hx, hh]
    exact (Calm.refl s.mailbox h).balanced
  | ok u =>
    obtain ⟨id, -, hx, ho⟩ := outcome_of_ok hon hn hr
    rw [hx]
    exact ho.balanced

end Session

namespace Situation

variable [Callback κ] {path : String} {token n : Nat} {w w' : Situation κ}

omit [Callback κ] in
theorem calm_close (hl : w.session.Live path token) : Calm n w.hub w.close.hub := by
  have hhub : w.close.hub = { w.hub with line := w.close.hub.line } := w.session.close_hub w.hub
  have hfree : filterInterface ≠ networkInterface := by decide
  rw [hhub, line_close hl]
  exact ⟨sent_call (w.hub.line.unwatch token) path [] (.inl hfree),
    held_call (w.hub.line.unwatch token) path filterInterface "Free" [], rfl⟩

omit [Callback κ] in
theorem calm_ask {α : Type} (hl : w.session.Live path token)
    {f : Bus ReplyTarget → Except Problem α × Bus ReplyTarget}
    (hf : NodeAccess.Asks w.hub.line (f w.hub.line).2) :
    Calm n w.hub (w.session.ask w.hub f).2 := by
  rw [ask_of_live hl]
  exact calm_asks hf

omit [Callback κ] in
theorem Subscribes.calm {ids : EventSet} {callback : κ} {r : Except Problem EventId}
    (hs : w.Subscribes path token ids callback r w') : Calm n w.hub w'.hub := by
  cases hs with
  | unknown => exact .refl n w.hub
  | refused p id => exact calm_listen n w.hub path id
  | again => exact ⟨rfl, rfl, rfl⟩
  | first id => exact (calm_listen n w.hub path id).trans ⟨rfl, rfl, rfl⟩

omit [Callback κ] in
theorem calm_subscribe (hl : w.session.Live path token) (event : Mention) (callback : κ) :
    Calm n w.hub (w.session.subscribe w.hub event callback).2.2 := by
  obtain ⟨ids, hp⟩ := hl.presence
  exact (subscribe_subscribes hl.opened hp event callback).calm

theorem calm_received (hn : n < w.hub.mailboxes.length) (e : Event) :
    Calm n w.hub (w.received w.hub e).hub := by
  simp only [received, Session.logCall]
  split
  · exact ⟨rfl, rfl, rfl⟩
  · next c _ =>
    have hx := extends_performAll
      (w.hub.now.2.note (.called w.session.mailbox e.id c.callback c.values)) w.session.mailbox
      c.effects
    refine ⟨?_, ?_, ?_⟩
    · rw [hx.line]
      rfl
    · rw [hx.line]
      rfl
    · exact problems_performAll (h := w.hub.now.2.note _) hn w.session.mailbox c.effects

def carriesOut? (w : Situation κ) : Move κ → Option Sending
  | .step _ (.send event args) => w.session.sending? w.hub event args
  | .turn => (w.hub.take w.session.mailbox).bind (fun r ↦ w.session.sends? r.2 r.1)
  | _ => none

def reaches? (w : Situation κ) : Move κ → Option Problem
  | .turn =>
    if w.session.closed then none
    else (w.hub.take w.session.mailbox).bind (fun r ↦ r.1.problem?)
  | _ => none

theorem balanced_handle (hl : w.session.Live path token) (hon : w.session.settings.offline = false)
    (hn : w.session.mailbox < w.hub.mailboxes.length) (m : Message κ) :
    Balanced w.session.mailbox w.hub (w.session.handle w.hub m).2.2
      (w.session.sends? w.hub m).toList [] := by
  cases m with
  | event e =>
    have hc : Calm w.session.mailbox w.hub (w.received w.hub e).hub := calm_received hn e
    have hl' : (w.received w.hub e).session.Live path token := ⟨hl.opened, hl.presence⟩
    cases ho : (w.session.router.route e.id e.values w.hub.now.1).outcome with
    | ok routing =>
      simp only [Session.handle, Session.receive, ho]
      exact hc.balanced
    | error p =>
      simp only [Session.handle, Session.receive, ho]
      exact (hc.trans (calm_close hl')).balanced
  | problem p => exact (calm_close hl).balanced
  | request q =>
    cases q with
    | send event args =>
      simp only [Session.handle, Session.carryOut,
        Session.judge_of_mild (w.session.mild_send w.hub event args)]
      exact Session.balanced_send hon hn event args
    | write node name value =>
      simp only [Session.handle, Session.carryOut,
        Session.judge_of_mild (w.session.mild_write w.hub node name value)]
      exact (calm_ask hl (f := fun l ↦ w.session.access.write l node name value)
        (NodeAccess.write_asks _ _ node name value)).balanced
    | subscribe event callback =>
      simp only [Session.handle, Session.carryOut,
        Session.judge_of_mild (w.session.subscribe_frame w.hub event callback).1]
      exact (calm_subscribe hl event callback).balanced
    | stop =>
      have hc : Calm w.session.mailbox w.hub w.close.hub := calm_close hl
      simp only [Situation.close] at hc
      simp only [Session.handle, Session.carryOut]
      rcases hclose : w.session.close w.hub with ⟨_ | _, s', h'⟩ <;> rw [hclose] at hc <;>
        exact hc.balanced

theorem balanced_turn (hl : w.session.Live path token) (hon : w.session.settings.offline = false)
    (hn : w.session.mailbox < w.hub.mailboxes.length) :
    Balanced w.session.mailbox w.hub w.turn.hub (w.carriesOut? .turn).toList
      (w.reaches? .turn).toList := by
  simp only [turn, carriesOut?, reaches?, hl.opened, Bool.false_eq_true, if_false]
  cases ht : w.hub.take w.session.mailbox with
  | none => exact (Calm.refl _ w.hub).balanced
  | some r =>
    obtain ⟨m, g⟩ := r
    have hg : w.session.mailbox < g.mailboxes.length := (queue_of_take ht).2.2.2.symm ▸ hn
    have hm := balanced_handle (w := ⟨w.session, g⟩) hl hon hg m
    have hb := (balanced_take ht).trans hm
    rwa [List.nil_append, List.append_nil] at hb

end Situation

def Move.Single : Move κ → Prop
  | .step _ .runQueued => False
  | .step _ .runBriefly => False
  | .step _ .run => False
  | _ => True

namespace Situation

variable [Callback κ] {path : String} {token n : Nat} {w w' : Situation κ}

/-- Whatever a live session does keeps its account in balance. -/
theorem balanced_after (hl : w.session.Live path token) (hon : w.session.settings.offline = false)
    (hn : w.session.mailbox < w.hub.mailboxes.length) {m : Move κ} (hown : m.Own)
    (hsingle : m.Single) :
    Balanced w.session.mailbox w.hub (w.after m).hub (w.carriesOut? m).toList
      (w.reaches? m).toList := by
  have same : Balanced w.session.mailbox w.hub w.hub [] [] := (Calm.refl _ w.hub).balanced
  cases m with
  | turn => exact balanced_turn hl hon hn
  | drop => exact (calm_close hl).balanced
  | conclude result =>
    simp only [after, Session.conclude_snd]
    exact (calm_close hl).balanced
  | other a => exact absurd rfl (hown a)
  | step fuel s =>
    cases s with
    | subscribe event callback => exact (calm_subscribe hl event callback).balanced
    | send event args => exact Session.balanced_send hon hn event args
    | sweep =>
      obtain ⟨ids, hp⟩ := hl.presence
      have hs := FilterKeeper.sweep_sweeps ⟨some path, ids⟩ w.hub.line
      simp only [after, Simulation.sessionStep, Simulation.unchanged, Session.sweep, ask_of_live hl,
        hp, Option.elim_some]
      exact (calm_sweeps hs).balanced
    | nodes => exact (calm_ask hl (NodeAccess.nodes_asks _ _)).balanced
    | read node name => exact (calm_ask hl (NodeAccess.read_asks _ _ node name)).balanced
    | write node name value =>
      exact (calm_ask hl (NodeAccess.write_asks _ _ node name value)).balanced
    | loadScript path' => exact (calm_ask hl (NodeAccess.loadScript_asks _ _ path')).balanced
    | loadNames path' file =>
      simp only [after, Simulation.sessionStep, Session.loadNames]
      cases EventNames.ofFile path' file <;> exact same
    | names q => exact same
    | runQueued | runBriefly | run => exact hsingle.elim
    | close => exact (calm_close hl).balanced
    | locate | rate | rates | state => exact same

end Situation

end RobotBus
