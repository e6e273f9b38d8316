import RobotBus.Proofs.World.Acts

namespace RobotBus.Session

open Hub

variable {κ : Type}

structure Offline (s : Session κ) : Prop where
  offline : s.settings.offline = true
  presence : s.presence = none

structure StaysOffline (s : Session κ) (h : Hub (Bus ReplyTarget) κ) (s' : Session κ)
    (h' : Hub (Bus ReplyTarget) κ) : Prop where
  session : s'.Offline
  mailbox_eq : s'.mailbox = s.mailbox
  line_eq : h'.line = h.line
  via : Via (· = s.mailbox) (fun _ ↦ False) h h'

variable {s s' s'' : Session κ} {h h' h'' : Hub (Bus ReplyTarget) κ}

theorem StaysOffline.trans (hs : s.StaysOffline h s' h') (hs' : s'.StaysOffline h' s'' h'') :
    s.StaysOffline h s'' h'' where
  session := hs'.session
  mailbox_eq := hs'.mailbox_eq.trans hs.mailbox_eq
  line_eq := hs'.line_eq.trans hs.line_eq
  via := hs.via.trans (hs.mailbox_eq ▸ hs'.via)

theorem Offline.refl (hs : s.Offline) (h : Hub (Bus ReplyTarget) κ) : s.StaysOffline h s h :=
  ⟨hs, rfl, rfl, .refl⟩

theorem Offline.access_eq (hs : s.Offline) :
    s.access = .offline s.settings.offlineLength := by
  rw [access, if_pos hs.offline]

theorem Offline.close (hs : s.Offline) (h : Hub (Bus ReplyTarget) κ) :
    s.StaysOffline h (s.close h).2.1 (s.close h).2.2 := by
  unfold Session.close
  rw [hs.presence]
  split
  · exact hs.refl h
  · exact ⟨⟨hs.offline, rfl⟩, rfl, rfl, .refl⟩

theorem ask_snd {α σ : Type} (s : Session κ) {h : Hub σ κ} {f : σ → Except Problem α × σ}
    (hf : (f h.line).2 = h.line) : (s.ask h f).2 = h := by
  unfold ask
  split
  · rfl
  · exact congrArg (fun l ↦ { h with line := l }) hf

theorem Offline.send {σ : Type} [Line σ] (hs : s.Offline) (h : Hub σ κ) (event : Mention)
    (args : List Word) : (s.send h event args).2 = h := by
  unfold Session.send
  split
  · rfl
  · split
    · rfl
    · rw [hs.access_eq]
      rfl

theorem Offline.write (hs : s.Offline) (h : Hub (Bus ReplyTarget) κ) (node name : String)
    (value : WordValue) : (s.write h node name value).2 = h := by
  apply ask_snd
  rw [hs.access_eq]
  rfl

theorem Offline.subscribe (hs : s.Offline) (h : Hub (Bus ReplyTarget) κ) (event : Mention)
    (callback : κ) :
    s.StaysOffline h (s.subscribe h event callback).2.1 (s.subscribe h event callback).2.2 := by
  unfold Session.subscribe
  split
  · exact hs.refl h
  · split
    · exact hs.refl h
    · simp only [allow, hs.presence]
      exact ⟨⟨hs.offline, rfl⟩, rfl, rfl, Via.refl.after (a := .tick) trivial trivial⟩

variable [Callback κ]

theorem Offline.handle (hs : s.Offline) (hm : s.mailbox < h.mailboxes.length) (m : Message κ) :
    s.StaysOffline h (s.handle h m).2.1 (s.handle h m).2.2 := by
  cases m with
  | event e =>
    have hheard : s.StaysOffline h (s.heard h (.event e)).1 (s.heard h (.event e)).2 := by
      have hnow : Via (· = s.mailbox) (fun _ ↦ False) h h.now.2 :=
        Via.refl.after (a := .tick) trivial trivial
      simp only [heard, logCall]
      split
      · exact ⟨⟨hs.offline, hs.presence⟩, rfl, rfl, hnow⟩
      · next c _ =>
        refine ⟨⟨hs.offline, hs.presence⟩, rfl, ?_, ?_⟩
        · exact (extends_performAll _ s.mailbox c.effects).line
        · exact via_performAll s.mailbox _
            (hnow.after (a := .note (.called s.mailbox e.id c.callback c.values)) rfl hm)
    simp only [Session.handle, receive]
    split
    · exact hheard
    · exact hheard.trans (hheard.session.close _)
  | problem p => exact hs.close h
  | request q =>
    cases q with
    | send event args =>
      simp only [Session.handle, carryOut, judge_of_mild (s.mild_send h event args), hs.send h]
      exact hs.refl h
    | write node name value =>
      simp only [Session.handle, carryOut, judge_of_mild (s.mild_write h node name value),
        hs.write h]
      exact hs.refl h
    | subscribe event callback =>
      simp only [Session.handle, carryOut,
        judge_of_mild (s.subscribe_frame h event callback).1]
      exact hs.subscribe h event callback
    | stop =>
      have hc := hs.close h
      simp only [Session.handle, carryOut]
      rcases hclose : s.close h with ⟨_ | _, s', h'⟩ <;> rw [hclose] at hc <;> exact hc

theorem Offline.turn (hs : s.Offline) (hm : s.mailbox < h.mailboxes.length) :
    s.StaysOffline h (Situation.turn ⟨s, h⟩).session (Situation.turn ⟨s, h⟩).hub := by
  unfold Situation.turn
  split
  · exact hs.refl h
  · split
    · exact hs.refl h
    · next m g ht =>
      have hafter : h.after (.take s.mailbox) = g := by rw [Hub.after, ht]; rfl
      have hvia : Via (· = s.mailbox) (fun _ ↦ False) h g :=
        hafter ▸ Via.refl.after (a := .take s.mailbox) rfl trivial
      have htake : s.StaysOffline h s g := ⟨hs, rfl, (queue_of_take ht).2.1, hvia⟩
      exact htake.trans (hs.handle (hm.trans_le htake.via.length_le) m)

theorem Offline.turns (hs : s.Offline) (hm : s.mailbox < h.mailboxes.length) (n : Nat) :
    s.StaysOffline h (Situation.turns n ⟨s, h⟩).session (Situation.turns n ⟨s, h⟩).hub := by
  induction n generalizing s h with
  | zero => exact hs.refl h
  | succ n ih =>
    have hturn := hs.turn hm
    refine hturn.trans (ih hturn.session ?_)
    rw [hturn.mailbox_eq]
    exact hm.trans_le hturn.via.length_le

theorem Offline.loop {α : Type} (hs : s.Offline) (hm : s.mailbox < h.mailboxes.length)
    {fuel : Nat} {f : α → Simulation.Answer} {ran : Ran (Bus ReplyTarget) κ α}
    (hr : ∀ x, ran = some x → Situation.turns fuel ⟨s, h⟩ = ⟨x.2.1, x.2.2⟩)
    {r : Except Problem Simulation.Answer × Session κ × Hub (Bus ReplyTarget) κ}
    (hb : ran.bind (Simulation.changed f) = some r) : s.StaysOffline h r.2.1 r.2.2 := by
  obtain ⟨x, hx, hxr⟩ := Option.bind_eq_some_iff.mp hb
  have hturns := hs.turns hm fuel
  rw [hr x hx] at hturns
  cases Option.some.inj hxr
  exact hturns

theorem Offline.sessionStep (hs : s.Offline) (hm : s.mailbox < h.mailboxes.length) {fuel : Nat}
    {st : Simulation.SessionStep κ}
    {r : Except Problem Simulation.Answer × Session κ × Hub (Bus ReplyTarget) κ}
    (hr : Simulation.sessionStep fuel s h st = some r) : s.StaysOffline h r.2.1 r.2.2 := by
  have hasked {α : Type} {f : Bus ReplyTarget → Except Problem α × Bus ReplyTarget}
      (hf : (f h.line).2 = h.line) : s.StaysOffline h s (s.ask h f).2 := by
    rw [ask_snd s hf]
    exact hs.refl h
  have hacc := hs.access_eq
  cases st with
  | subscribe event callback =>
    cases Option.some.inj hr
    exact hs.subscribe h event callback
  | send event args =>
    cases Option.some.inj hr
    simp only [hs.send h]
    exact hs.refl h
  | sweep =>
    cases Option.some.inj hr
    exact hasked (by rw [hs.presence])
  | nodes =>
    cases Option.some.inj hr
    exact hasked (by rw [hacc]; rfl)
  | read node name =>
    cases Option.some.inj hr
    exact hasked (f := fun l ↦ s.access.read l node name) (by rw [hacc]; rfl)
  | write node name value =>
    cases Option.some.inj hr
    exact hasked (f := fun l ↦ s.access.write l node name value) (by rw [hacc]; rfl)
  | loadScript path =>
    cases Option.some.inj hr
    exact hasked (f := fun l ↦ s.access.loadScript l path) (by rw [hacc]; rfl)
  | loadNames path file =>
    cases Option.some.inj hr
    dsimp only
    cases EventNames.ofFile path file with
    | error e => exact hs.refl h
    | ok names => exact ⟨⟨hs.offline, hs.presence⟩, rfl, rfl, .refl⟩
  | names q =>
    cases Option.some.inj hr
    exact ⟨⟨hs.offline, hs.presence⟩, rfl, rfl, .refl⟩
  | runQueued => exact hs.loop hm (fun _ hx ↦ Situation.turns_of_runLoop hx) hr
  | runBriefly => exact hs.loop hm (fun _ hx ↦ Situation.turns_of_runLoop hx) hr
  | run => exact hs.loop hm (fun _ hx ↦ Situation.turns_of_runLoop hx) hr
  | close =>
    cases Option.some.inj hr
    exact hs.close h
  | locate | rate | rates | state =>
    cases Option.some.inj hr
    exact hs.refl h

end RobotBus.Session
