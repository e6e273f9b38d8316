import RobotBus.Proofs.World.Basic

namespace RobotBus

open Bus

variable {κ : Type}

structure Berth where
  filter : Nat
  token : Nat
  mailbox : Nat

structure Berth.Apart (b b' : Berth) : Prop where
  filter : b.filter ≠ b'.filter
  token : b.token ≠ b'.token
  mailbox : b.mailbox ≠ b'.mailbox

namespace Hub

/-- What there is at a berth: the events that the filter lets through, if it is there, the watch,
and the messages. -/
structure Share (κ : Type) where
  filter : Option EventSet
  watch : Option Watch
  queue : List (Message κ)

def share (h : Hub (Bus ReplyTarget) κ) (b : Berth) : Share κ :=
  ⟨h.line.filters.get? b.filter, h.line.watches.get? b.token, h.queue b.mailbox⟩

structure Holds (h : Hub (Bus ReplyTarget) κ) (b : Berth) : Prop where
  filter : b.filter < h.line.nextFilter
  token : b.token < h.line.nextToken
  mailbox : b.mailbox < h.mailboxes.length

def Act.Within (b : Berth) : Act κ → Prop
  | .bus (.unwatch token) => token = b.token
  | .bus d => ∀ n, d.Calls n → n = b.filter
  | .submit _ interface _ _ target =>
    interface ≠ filterInterface ∧ target = .mailbox b.mailbox
  | .post n _ => n = b.mailbox
  | .take n => n = b.mailbox
  | .openMailbox | .note _ | .tick => True
  | .deliver | .emit .. => False

inductive Within (b : Berth) (h : Hub (Bus ReplyTarget) κ) : Hub (Bus ReplyTarget) κ → Prop
  | refl : Within b h h
  | after {h' : Hub (Bus ReplyTarget) κ} {a : Act κ} (hw : Within b h h') (ha : a.Within b) :
      Within b h (h'.after a)

variable {h h' h'' : Hub (Bus ReplyTarget) κ} {b b' : Berth}

theorem Within.trans (hw : Within b h h') (hw' : Within b h' h'') : Within b h h'' := by
  induction hw' with
  | refl => exact hw
  | after _ ha ih => exact ih.after ha

theorem Holds.after (hh : h.Holds b) (a : Act κ) : (h.after a).Holds b where
  filter := by
    rw [line_after]
    cases a.deed? with
    | none => exact hh.filter
    | some d => exact hh.filter.trans_le (nextFilter_le_after h.line d)
  token := by
    rw [line_after]
    cases a.deed? with
    | none => exact hh.token
    | some d => exact hh.token.trans_le (nextToken_le_after h.line d)
  mailbox := hh.mailbox.trans_le (length_le_after h a)

theorem Act.Within.calls {a : Act κ} (ha : a.Within b) {d : Deed ReplyTarget}
    (hd : a.deed? = some d) {n : Nat} (hc : d.Calls n) : n = b.filter := by
  cases a with
  | bus d' =>
    cases hd
    cases d with
    | unwatch token => exact hc.elim
    | _ => exact ha n hc
  | submit path interface method args target =>
    cases hd
    exact absurd hc.1 ha.1
  | deliver => exact ha.elim
  | emit | openMailbox | post | take | note | tick => cases hd

theorem Act.Within.filter {a : Act κ} (ha : a.Within b) (hh : h.Holds b')
    (hne : b.filter ≠ b'.filter) :
    (h.after a).line.filters.get? b'.filter = h.line.filters.get? b'.filter := by
  rw [line_after]
  cases hd : a.deed? with
  | none => rfl
  | some d => exact get?_filters_after h.line d hh.filter fun hc ↦ absurd (ha.calls hd hc).symm hne

theorem Act.Within.watch {a : Act κ} (ha : a.Within b) (hh : h.Holds b')
    (hne : b.token ≠ b'.token) :
    (h.after a).line.watches.get? b'.token = h.line.watches.get? b'.token := by
  rw [line_after]
  cases a with
  | bus d =>
    rw [show (Act.bus d : Act κ).deed? = some d from rfl, Option.elim_some, watches_after]
    cases d with
    | watch => simp only [Directory.get?_insert, if_neg hh.token.ne']
    | unwatch token =>
      cases (ha : token = b.token)
      simp only [Directory.get?_erase, if_neg hne]
    | _ => rfl
  | submit path interface method args target =>
    exact congrArg (·.get? b'.token)
      (watches_after h.line (.submit path interface method args target))
  | deliver => exact ha.elim
  | emit | openMailbox | post | take | note | tick => rfl

theorem Act.Within.queue {a : Act κ} (ha : a.Within b) (hh : h.Holds b')
    (hne : b.mailbox ≠ b'.mailbox) : (h.after a).queue b'.mailbox = h.queue b'.mailbox := by
  cases a with
  | bus | note | tick => rfl
  | submit path interface method args target =>
    obtain ⟨-, rfl⟩ := ha
    rw [Hub.after, Hub.submit]
    rcases Line.submit h.line path interface method args (.mailbox b.mailbox) with ⟨_ | r, l⟩
    · rfl
    · have hq := queue_answer { h with line := l } hh.mailbox (.mailbox b.mailbox) r
      have hnone : problemFor? b'.mailbox (.mailbox b.mailbox, r) = none := by
        cases r with
        | ok vs => rfl
        | error f => exact if_neg hne
      rw [hnone] at hq
      exact hq.trans (List.append_nil _)
  | post n m =>
    cases (ha : n = b.mailbox)
    rw [Hub.after, queue_post, if_neg fun hn ↦ hne hn.1]
  | take n =>
    cases (ha : n = b.mailbox)
    simp only [Hub.after, Hub.take]
    split
    · rfl
    · simp [Hub.queue, hne]
  | openMailbox =>
    simp only [Hub.after, Hub.openMailbox, Hub.queue, List.getElem?_append_left hh.mailbox]
  | deliver | emit => exact ha.elim

theorem Within.share (hw : Within b h h') (hh : h.Holds b') (hb : b.Apart b') :
    h'.share b' = h.share b' ∧ h'.Holds b' := by
  induction hw with
  | refl => exact ⟨rfl, hh⟩
  | @after h' a _ ha ih =>
    obtain ⟨hshare, hh'⟩ := ih
    refine ⟨?_, hh'.after a⟩
    rw [← hshare, Hub.share, Hub.share, ha.filter hh' hb.filter, ha.watch hh' hb.token,
      ha.queue hh' hb.mailbox]

theorem Within.asks {l : Bus ReplyTarget} (hl : NodeAccess.Asks h.line l) :
    Within b h { h with line := l } := by
  have network : ¬networkInterface = filterInterface := by decide
  cases hl with
  | nothing => exact .refl
  | call method args =>
    exact Within.refl.after (a := .bus (.call networkPath networkInterface method args))
      fun n hc ↦ absurd hc.1 network

end Hub

open Hub

namespace Session

variable {s : Session κ} {b : Berth} {h : Hub (Bus ReplyTarget) κ}

/-- Whatever the session has on the bus, it has by these numbers. -/
structure Keeps (s : Session κ) (b : Berth) : Prop where
  mailbox : s.mailbox = b.mailbox
  presence : s.presence = none ∨
    ∃ ids, s.presence = some ⟨⟨some (pathOfFilter b.filter), ids⟩, some b.token⟩

structure KeepsTo (b : Berth) (h : Hub (Bus ReplyTarget) κ) (w : Situation κ) : Prop where
  session : w.session.Keeps b
  within : Within b h w.hub

theorem KeepsTo.trans {h' : Hub (Bus ReplyTarget) κ} {w : Situation κ} (hh : Within b h h')
    (hw : KeepsTo b h' w) : KeepsTo b h w :=
  ⟨hw.session, hh.trans hw.within⟩

theorem Keeps.refl (hs : s.Keeps b) (h : Hub (Bus ReplyTarget) κ) : KeepsTo b h ⟨s, h⟩ :=
  ⟨hs, .refl⟩

theorem Keeps.ask {α : Type} (hs : s.Keeps b)
    {f : Bus ReplyTarget → Except Problem α × Bus ReplyTarget}
    (hf : NodeAccess.Asks h.line (f h.line).2) : KeepsTo b h ⟨s, (s.ask h f).2⟩ := by
  unfold Session.ask
  split
  · exact hs.refl h
  · exact ⟨hs, .asks hf⟩

theorem Keeps.send (hs : s.Keeps b) (h : Hub (Bus ReplyTarget) κ) (event : Mention)
    (args : List Word) : KeepsTo b h ⟨s, (s.send h event args).2⟩ := by
  unfold Session.send
  split
  · exact hs.refl h
  · split
    · exact hs.refl h
    · next id _ =>
      cases s.access with
      | offline n => exact hs.refl h
      | online =>
        refine ⟨hs, Within.refl.after (a := .submit networkPath networkInterface "SendEvent"
          [.uint16 id.val, .words args] (.mailbox s.mailbox)) ⟨by decide, ?_⟩⟩
        rw [hs.mailbox]

theorem Keeps.allow (hs : s.Keeps b) (h : Hub (Bus ReplyTarget) κ) (id : EventId) :
    KeepsTo b h ⟨(s.allow h id).2.1, (s.allow h id).2.2⟩ := by
  have hpath : ∀ n, numberInPath? (pathOfFilter b.filter) = some n → n = b.filter :=
    fun n hn ↦ number_of_pathOfFilter hn
  unfold Session.allow
  rcases hs.presence with hp | ⟨ids, hp⟩
  · rw [hp]
    exact hs.refl h
  · rw [hp]
    have hlisten : Within b h { h with line := (h.line.listen (pathOfFilter b.filter) id).2 } :=
      Within.refl.after (a := .bus (.call (pathOfFilter b.filter) filterInterface "ListenEvent"
        [.uint16 id.val])) fun n hc ↦ hpath n hc.2
    simp only [FilterKeeper.allow_some]
    split
    · exact ⟨⟨hs.mailbox, .inr ⟨ids, rfl⟩⟩, .refl⟩
    · rcases hr : h.line.listen (pathOfFilter b.filter) id with ⟨f | vs, l⟩ <;>
        rw [hr] at hlisten <;> exact ⟨⟨hs.mailbox, .inr ⟨_, rfl⟩⟩, hlisten⟩

theorem Keeps.subscribe (hs : s.Keeps b) (h : Hub (Bus ReplyTarget) κ) (event : Mention)
    (callback : κ) :
    KeepsTo b h ⟨(s.subscribe h event callback).2.1, (s.subscribe h event callback).2.2⟩ := by
  unfold Session.subscribe
  split
  · exact hs.refl h
  · split
    · exact hs.refl h
    · next id _ =>
      have hallow := hs.allow h id
      split
      · next heq =>
        rw [heq] at hallow
        exact hallow
      · next heq =>
        rw [heq] at hallow
        exact ⟨⟨hallow.session.mailbox, hallow.session.presence⟩,
          hallow.within.after (a := .tick) trivial⟩

theorem Keeps.close (hs : s.Keeps b) (h : Hub (Bus ReplyTarget) κ) :
    KeepsTo b h ⟨(s.close h).2.1, (s.close h).2.2⟩ := by
  cases hc : s.closed with
  | true =>
    rw [close_of_closed hc]
    exact hs.refl h
  | false =>
    rcases hs.presence with hp | ⟨ids, hp⟩
    · simp only [Session.close, hc, hp, Bool.false_eq_true, if_false]
      exact ⟨⟨hs.mailbox, .inl rfl⟩, .refl⟩
    · have hpath : ∀ n, numberInPath? (pathOfFilter b.filter) = some n → n = b.filter :=
        fun n hn ↦ number_of_pathOfFilter hn
      have hl : (⟨s, h⟩ : Situation κ).session.Live (pathOfFilter b.filter) b.token := ⟨hc, ids, hp⟩
      have hhub : (s.close h).2.2 = { h with line := (s.close h).2.2.line } := close_hub s h
      have hline := Situation.line_close hl
      refine ⟨⟨?_, ?_⟩, ?_⟩
      · simp only [Session.close, hc, hp, Bool.false_eq_true, if_false]
        exact hs.mailbox
      · refine .inl ?_
        simp only [Session.close, hc, hp, Bool.false_eq_true, if_false]
      · simp only [Situation.close] at hline
        simp only
        rw [hhub, hline]
        exact ((Within.refl.after (a := .bus (.unwatch b.token)) rfl).after
          (a := .bus (.call (pathOfFilter b.filter) filterInterface "Free" []))
          fun n hc ↦ hpath n hc.2).after (a := .bus .disconnect) (fun _ hc ↦ hc.elim)

theorem within_performAll {n : Nat} (hn : n = b.mailbox) {es : List (Effect κ)}
    (hes : ∀ id values, .emitted id values ∉ es.filterMap Occurrence.ofEffect?) :
    Within b h (h.performAll n es) := by
  induction es generalizing h with
  | nil => exact .refl
  | cons e es ih =>
    cases e with
    | request q =>
      have hpost : Within b h (h.post n (.request q)) :=
        Within.refl.after (a := .post n (.request q)) hn
      exact hpost.trans (ih hes)
    | emit id name values => exact absurd List.mem_cons_self (hes id values)

variable [Callback κ]

theorem Keeps.handle (hs : s.Keeps b) (h : Hub (Bus ReplyTarget) κ) {m : Message κ}
    (hm : ∀ id values, .emitted id values ∉ s.occurrences h m) :
    KeepsTo b h ⟨(s.handle h m).2.1, (s.handle h m).2.2⟩ := by
  cases m with
  | event e =>
    have hnow : Within b h h.now.2 := Within.refl.after (a := .tick) trivial
    have hheard : KeepsTo b h ⟨(s.heard h (.event e)).1, (s.heard h (.event e)).2⟩ := by
      refine ⟨⟨hs.mailbox, hs.presence⟩, ?_⟩
      simp only [occurrences] at hm
      simp only [heard, logCall]
      cases hcall : (s.router.route e.id e.values h.now.1).call with
      | none => exact hnow
      | some c =>
        rw [hcall] at hm
        exact (hnow.after (a := .note (.called s.mailbox e.id c.callback c.values)) trivial).trans
          (within_performAll hs.mailbox hm)
    simp only [Session.handle, receive]
    split
    · exact hheard
    · exact .trans hheard.within (hheard.session.close _)
  | problem p => exact hs.close h
  | request q =>
    cases q with
    | send event args =>
      simp only [Session.handle, carryOut, judge_of_mild (s.mild_send h event args)]
      exact hs.send h event args
    | write node name value =>
      simp only [Session.handle, carryOut, judge_of_mild (s.mild_write h node name value)]
      exact hs.ask (NodeAccess.write_asks _ _ node name value)
    | subscribe event callback =>
      simp only [Session.handle, carryOut, judge_of_mild (s.subscribe_frame h event callback).1]
      exact hs.subscribe h event callback
    | stop =>
      have hc := hs.close h
      simp only [Session.handle, carryOut]
      rcases hclose : s.close h with ⟨_ | _, s', h'⟩ <;> rw [hclose] at hc <;> exact hc

end Session

namespace Situation

open Session

variable [Callback κ] {w : Situation κ} {b : Berth}

theorem keepsTo_turn (hs : w.session.Keeps b)
    (hw : ∀ id values, .emitted id values ∉ w.duringTurn) : KeepsTo b w.hub w.turn := by
  unfold duringTurn at hw
  unfold turn
  split at hw
  · next hc =>
    rw [if_pos hc]
    exact hs.refl w.hub
  · next hc =>
    rw [if_neg hc]
    cases ht : w.hub.take w.session.mailbox with
    | none => exact hs.refl w.hub
    | some mh =>
      obtain ⟨m, h⟩ := mh
      rw [ht] at hw
      have htake : Within b w.hub h := by
        have hafter : w.hub.after (.take w.session.mailbox) = h := by rw [Hub.after, ht]; rfl
        exact hafter ▸ Within.refl.after (a := .take w.session.mailbox) hs.mailbox
      exact .trans htake (hs.handle h hw)

theorem keepsTo_turns (hs : w.session.Keeps b) {n : Nat}
    (hw : ∀ id values, .emitted id values ∉ duringTurns n w) : KeepsTo b w.hub (turns n w) := by
  induction n generalizing w with
  | zero => exact hs.refl w.hub
  | succ n ih =>
    simp only [duringTurns, List.mem_append, not_or] at hw
    have hturn := keepsTo_turn hs fun id values ↦ (hw id values).1
    exact .trans hturn.within (ih hturn.session fun id values ↦ (hw id values).2)

theorem keepsTo_loop {α : Type} (hs : w.session.Keeps b) {fuel : Nat}
    {f : α → Simulation.Answer} {ran : Ran (Bus ReplyTarget) κ α}
    (hran : ∀ x, ran = some x → turns fuel w = ⟨x.2.1, x.2.2⟩)
    (hw : ∀ id values, .emitted id values ∉ if ran.isSome then duringTurns fuel w else []) :
    KeepsTo b w.hub
      ((ran.bind (Simulation.changed f)).elim w (fun x ↦ ⟨x.2.1, x.2.2⟩)) := by
  cases ran with
  | none => exact hs.refl w.hub
  | some x =>
    have hturns := keepsTo_turns hs hw
    rw [hran x rfl] at hturns
    exact hturns

/-- A move that is no sweep, and during which nothing is emitted, keeps to the session's berth. -/
theorem keepsTo_after (hs : w.session.Keeps b) {m : Move κ} (hm : m.Own)
    (hsweep : ∀ fuel, m ≠ .step fuel .sweep)
    (hw : ∀ id values, .emitted id values ∉ w.during m) : KeepsTo b w.hub (w.after m) := by
  cases m with
  | turn => exact keepsTo_turn hs hw
  | drop => exact hs.close w.hub
  | conclude result =>
    simp only [after, Session.conclude_snd]
    exact hs.close w.hub
  | other a => exact absurd rfl (hm a)
  | step fuel st =>
    cases st with
    | sweep => exact absurd rfl (hsweep fuel)
    | subscribe event callback => exact hs.subscribe w.hub event callback
    | send event args => exact hs.send w.hub event args
    | nodes => exact hs.ask (NodeAccess.nodes_asks _ _)
    | read node name => exact hs.ask (NodeAccess.read_asks _ _ node name)
    | write node name value => exact hs.ask (NodeAccess.write_asks _ _ node name value)
    | loadScript path => exact hs.ask (NodeAccess.loadScript_asks _ _ path)
    | loadNames path file =>
      simp only [after, Simulation.sessionStep, Session.loadNames]
      cases EventNames.ofFile path file with
      | error e => exact hs.refl w.hub
      | ok names => exact ⟨⟨hs.mailbox, hs.presence⟩, .refl⟩
    | names q => exact ⟨⟨hs.mailbox, hs.presence⟩, .refl⟩
    | runQueued => exact keepsTo_loop hs (fun _ hx ↦ turns_of_runLoop hx) hw
    | runBriefly => exact keepsTo_loop hs (fun _ hx ↦ turns_of_runLoop hx) hw
    | run => exact keepsTo_loop hs (fun _ hx ↦ turns_of_runLoop hx) hw
    | close => exact hs.close w.hub
    | locate | rate | rates | state => exact hs.refl w.hub

end Situation

end RobotBus
