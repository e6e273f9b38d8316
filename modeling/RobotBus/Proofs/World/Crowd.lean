import RobotBus.Proofs.Emission
import RobotBus.Proofs.World.Basic

namespace RobotBus

open Bus

variable {κ : Type}

namespace Hub

variable {h h' : Hub (Bus ReplyTarget) κ} {mailboxes tokens : Nat → Prop}

theorem Via.get?_watches (hv : Via mailboxes tokens h h') {n t : Nat} {w : Watch}
    (hn : ¬mailboxes n) (hw : h'.line.watches.get? t = some w) (hl : w.listener = .mailbox n) :
    h.line.watches.get? t = some w := by
  induction hv with
  | refl => exact hw
  | @after h' a _ ha _ ih =>
    rw [line_after] at hw
    cases hd : a.deed? with
    | none => exact ih (by simpa [hd] using hw)
    | some d =>
      rw [hd] at hw
      rcases get?_watches_after h'.line d hw with hold | ⟨-, rfl⟩
      · exact ih hold
      · cases a with
        | bus d =>
          cases Option.some.inj hd
          rw [hl] at ha
          exact absurd ha hn
        | submit | deliver | emit | openMailbox | post | take | note | tick => cases hd

end Hub

open Hub

/-- A session that has no watch but, perhaps, one on its own filter. -/
inductive Session.Placed (h : Hub (Bus ReplyTarget) κ) (s : Session κ) : Prop
  | closed (hc : s.closed = true) (hp : s.presence = none) (hd : h.line.Deaf s.mailbox)
  | offline (hs : s.Offline) (hd : h.line.Deaf s.mailbox)
  | live (n token : Nat) (hl : s.Live (pathOfFilter n) token) (hon : s.settings.offline = false)
      (hb : h.line.Heeds n token s.mailbox)

namespace Session

variable {s : Session κ} {h h' : Hub (Bus ReplyTarget) κ} {mailboxes tokens : Nat → Prop}

theorem Live.filterPath {path : String} {token : Nat} (hl : s.Live path token) :
    s.filterPath = some path := by
  obtain ⟨ids, hp⟩ := hl.presence
  rw [Session.filterPath, hp]
  rfl

theorem Placed.kind (hs : s.Placed h) (ho : s.closed = false) :
    s.Offline ∨ ∃ path token, s.Live path token := by
  cases hs with
  | closed hc => exact nomatch ho.symm.trans hc
  | offline hoff => exact .inl hoff
  | live n token hl => exact .inr ⟨_, token, hl⟩

theorem Placed.via (hs : s.Placed h) (hr : h.Reachable) (hv : Via mailboxes tokens h h')
    (hm : ¬mailboxes s.mailbox) : s.Placed h' := by
  have deaf (hd : h.line.Deaf s.mailbox) : h'.line.Deaf s.mailbox :=
    ⟨(hv.reachable hr).settled.sound, fun t w hw hl ↦
      hd.unheard t w (hv.get?_watches hm hw hl) hl⟩
  cases hs with
  | closed hc hp hd => exact .closed hc hp (deaf hd)
  | offline hs hd => exact .offline hs (deaf hd)
  | live n token hl hon hb =>
    refine .live n token hl hon ?_
    intro t w hw hwl
    exact hb t w (hv.get?_watches hm hw hwl) hwl

end Session

namespace Situation

variable [Callback κ] {n token : Nat} {path : String} {w w' : Situation κ} {os : List Occurrence}

theorem Stage.watches (st : Stage path token w os w') :
    w'.hub.line.watches = w.hub.line.watches ∨ w' = w.close := by
  cases st with
  | names | again => exact .inl rfl
  | sweep b hb =>
    left
    change b.watches = w.hub.line.watches
    rw [hb.frame]
  | call method args =>
    exact .inl (watches_after w.hub.line (.call networkPath networkInterface method args))
  | send args =>
    left
    rw [(submit_extends w.hub networkPath networkInterface "SendEvent" args _).line]
    exact watches_after w.hub.line (.submit networkPath networkInterface "SendEvent" args _)
  | refused id | first id =>
    exact .inl (watches_after w.hub.line (.call path filterInterface "ListenEvent"
      [.uint16 id.val]))
  | take m h hm => exact .inl (congrArg Bus.watches (queue_of_take hm).2.1)
  | receive e h hm =>
    left
    rw [line_received, (queue_of_take hm).2.1]
  | close => exact .inr rfl

theorem placed_close (hs : w.hub.line.Sound) (hl : w.session.Live (pathOfFilter n) token)
    (hb : w.hub.line.Heeds n token w.session.mailbox) : w.close.session.Placed w.close.hub := by
  obtain ⟨ids, hp⟩ := hl.presence
  have hmailbox : w.close.session.mailbox = w.session.mailbox := by
    simp [Situation.close, Session.close, hl.opened, hp]
  refine .closed (Session.close_closed _ _) ?_ ?_
  · simp [Situation.close, Session.close, hl.opened, hp]
  · refine ⟨(Stage.close.leads hl).sound hs, ?_⟩
    intro t x hx hxl
    rw [watches_close hl, Directory.get?_erase] at hx
    rw [hmailbox] at hxl
    split_ifs at hx with ht
    exact ht (hb t x hx hxl).1.symm

theorem Stage.placed (hs : w.hub.line.Sound) (hw : w.session.Placed w.hub)
    (hl : w.session.Live (pathOfFilter n) token) (st : Stage (pathOfFilter n) token w os w') :
    w'.session.Placed w'.hub := by
  obtain ⟨ids, hp⟩ := hl.presence
  cases hw with
  | closed hc => exact nomatch hl.opened.symm.trans hc
  | offline hoff => exact nomatch hp.symm.trans hoff.presence
  | live k token' hl' hon hb =>
    obtain ⟨ids', hp'⟩ := hl'.presence
    have heq := hp.symm.trans hp'
    simp only [Option.some.injEq, Presence.mk.injEq, FilterKeeper.mk.injEq] at heq
    obtain ⟨⟨hpath, -⟩, rfl⟩ := heq
    obtain rfl : n = k := pathOfFilter_injective hpath
    rcases st.watches with hsame | rfl
    · rcases st.live hl with hlive | rfl
      · refine .live n token hlive (st.settings ▸ hon) ?_
        rw [st.mailbox.1, Heeds, hsame]
        exact hb
      · exact placed_close hs hl hb
    · exact placed_close hs hl hb

theorem Stages.placed (hs : w.hub.line.Sound) (hw : w.session.Placed w.hub)
    (h : Stages (pathOfFilter n) token w os w') : w'.session.Placed w'.hub := by
  induction h with
  | refl => exact hw
  | step h hl st ih => exact st.placed (h.leads.sound hs) ih hl

/-- What a session does on its own gives no mailbox but its own a watch, and that none but the one
that it has. -/
theorem placed_after (hr : w.hub.Reachable) (hm : w.session.mailbox < w.hub.mailboxes.length)
    (hw : w.session.Placed w.hub) {m : Move κ} (hown : m.Own) :
    (w.after m).session.Placed (w.after m).hub ∧
      (w.after m).session.mailbox = w.session.mailbox ∧
      Via (· = w.session.mailbox) (fun _ ↦ True) w.hub (w.after m).hub := by
  cases hw with
  | closed hc hp hd =>
    obtain ⟨names, hafter⟩ := names_after_of_closed hc m hown
    rw [hafter]
    exact ⟨.closed hc hp hd, rfl, .refl⟩
  | offline hoff hd =>
    have hstay := staysOffline_after hoff hm hown
    refine ⟨.offline hstay.session ?_, hstay.mailbox_eq,
      hstay.via.mono (fun _ h ↦ h) fun _ _ ↦ trivial⟩
    rw [hstay.mailbox_eq, hstay.line_eq]
    exact hd
  | live n token hl hon hb =>
    have hst := stages_after hl m hown
    obtain ⟨hacted, hmailbox, -⟩ := hst.acted hm
    exact ⟨hst.placed hr.settled.sound (.live n token hl hon hb), hmailbox,
      hacted.via.mono (fun _ h ↦ h) fun _ _ ↦ trivial⟩

end Situation

/-- What a hub and the sessions on it can come to if, other than in a world, anybody may end the
watch of a session. -/
inductive Crowd [Callback κ] : Hub (Bus ReplyTarget) κ → List (Session κ) → Prop
  | start : Crowd (.start .start) []
  | connect {h h' : Hub (Bus ReplyTarget) κ} {s : Session κ} {ss : List (Session κ)} (c : Settings)
      (hw : Crowd h ss) (hc : Session.connect h c = (.ok s, h')) : Crowd h' (s :: ss)
  | refused {h h' : Hub (Bus ReplyTarget) κ} {p : Problem} {ss : List (Session κ)} (c : Settings)
      (hw : Crowd h ss) (hc : Session.connect h c = (.error p, h')) : Crowd h' ss
  | offline {h : Hub (Bus ReplyTarget) κ} {ss : List (Session κ)} (hw : Crowd h ss) :
      Crowd (Session.offline h).2 ((Session.offline h).1 :: ss)
  | move {h : Hub (Bus ReplyTarget) κ} {s : Session κ} {ss : List (Session κ)} (m : Move κ)
      (hm : m.Own) (hw : Crowd h (s :: ss)) :
      Crowd (Situation.after ⟨s, h⟩ m).hub ((Situation.after ⟨s, h⟩ m).session :: ss)
  | filters {h : Hub (Bus ReplyTarget) κ} {ss : List (Session κ)} (k : FilterKeeper)
      (st : Simulation.FilterStep) (hw : Crowd h ss) : Crowd (Simulation.filterStep k h st).2.2 ss
  | access {h : Hub (Bus ReplyTarget) κ} {ss : List (Session κ)} (a : NodeAccess)
      (st : Simulation.AccessStep) (hw : Crowd h ss) : Crowd (Simulation.accessStep a h st).2 ss
  | remote {h : Hub (Bus ReplyTarget) κ} {ss : List (Session κ)} (r : Remote) (e : Effect κ)
      (hw : Crowd h ss) : Crowd (h.perform r.mailbox e) ss
  | bus {h : Hub (Bus ReplyTarget) κ} {ss : List (Session κ)} (st : Simulation.BusStep)
      (hw : Crowd h ss) : Crowd (Simulation.busStep h st).2 ss
  | perm {h : Hub (Bus ReplyTarget) κ} {ss ss' : List (Session κ)} (hp : ss.Perm ss')
      (hw : Crowd h ss) : Crowd h ss'

namespace Crowd

variable {h h' : Hub (Bus ReplyTarget) κ} {s : Session κ} {ss : List (Session κ)}
  {mailboxes tokens : Nat → Prop}

structure Sound (h : Hub (Bus ReplyTarget) κ) (ss : List (Session κ)) : Prop where
  reachable : h.Reachable
  placed : ∀ s ∈ ss, s.Placed h
  mailbox_lt : ∀ s ∈ ss, s.mailbox < h.mailboxes.length
  apart : (ss.map Session.mailbox).Nodup

theorem Sound.via (hw : Sound h ss) (hv : Via mailboxes tokens h h')
    (hm : ∀ s ∈ ss, ¬mailboxes s.mailbox) : Sound h' ss where
  reachable := hv.reachable hw.reachable
  placed s hs := (hw.placed s hs).via hw.reachable hv (hm s hs)
  mailbox_lt s hs := (hw.mailbox_lt s hs).trans_le hv.length_le
  apart := hw.apart

theorem Sound.cons (hw : Sound h ss) (hs : s.Placed h) (hlt : s.mailbox < h.mailboxes.length)
    (hnew : ∀ s' ∈ ss, s'.mailbox ≠ s.mailbox) : Sound h (s :: ss) where
  reachable := hw.reachable
  placed := List.forall_mem_cons.mpr ⟨hs, hw.placed⟩
  mailbox_lt := List.forall_mem_cons.mpr ⟨hlt, hw.mailbox_lt⟩
  apart := by
    refine List.nodup_cons.mpr ⟨?_, hw.apart⟩
    intro hmem
    obtain ⟨s', hs', heq⟩ := List.mem_map.mp hmem
    exact hnew s' hs' heq

theorem Sound.tail (hw : Sound h (s :: ss)) : Sound h ss where
  reachable := hw.reachable
  placed s' hs := hw.placed s' (List.mem_cons_of_mem _ hs)
  mailbox_lt s' hs := hw.mailbox_lt s' (List.mem_cons_of_mem _ hs)
  apart := (List.nodup_cons.mp hw.apart).2

theorem deaf_of_le (hr : h.Reachable) {n : Nat} (hn : h.mailboxes.length ≤ n) :
    h.line.Deaf n where
  sound := hr.settled.sound
  unheard t w hw hl := by
    have hlt := hr.settled.listener_lt t w n hw hl
    omega

theorem placed_of_connect {c : Settings} (hr : h.Reachable)
    (hc : Session.connect h c = (.ok s, h')) : s.Placed h' := by
  obtain ⟨hseat, hmailbox, -⟩ := World.seated_of_connect hr hc
  have deaf (hp : s.presence = none) : h'.line.Deaf s.mailbox := by
    have hconnects := Session.connect_connects h c
    rw [hc] at hconnects
    rw [hmailbox]
    cases hconnects with
    | offline => exact deaf_of_le hr (Nat.le_refl _)
    | joined => exact nomatch hp
  cases hseat with
  | closed hclosed hp => exact .closed hclosed hp (deaf hp)
  | offline hoff => exact .offline hoff (deaf hoff.presence)
  | live n token ids ho hon hp hb => exact .live n token ⟨ho, ids, hp⟩ hon hb.tied.heeds

theorem Sound.connected (hw : Sound h ss) (c : Settings) (h' : Hub (Bus ReplyTarget) κ)
    (hc : (Session.connect h c).2 = h') : Sound h' ss :=
  hw.via (hc ▸ (Session.acted_connect h c).via) fun s hs ↦ (hw.mailbox_lt s hs).ne

theorem Sound.others (hw : Sound h ss) (hv : Via (fun _ ↦ False) (fun _ ↦ True) h h') :
    Sound h' ss :=
  hw.via hv fun _ _ h ↦ h

theorem Sound.connect (hw : Sound h ss) {c : Settings}
    (hc : Session.connect h c = (.ok s, h')) : Sound h' (s :: ss) := by
  obtain ⟨-, hmailbox, hlt⟩ := World.seated_of_connect hw.reachable hc
  refine (hw.connected c h' (congrArg Prod.snd hc)).cons (placed_of_connect hw.reachable hc) hlt ?_
  intro s' hs'
  rw [hmailbox]
  exact (hw.mailbox_lt s' hs').ne

theorem Sound.offline (hw : Sound h ss) :
    Sound (Session.offline h).2 ((Session.offline h).1 :: ss) := by
  have hv : Via (fun _ ↦ False) (fun _ ↦ True) h (Session.offline h).2 :=
    Via.refl.after (a := .openMailbox) trivial trivial
  refine (hw.others hv).cons (.offline ⟨rfl, rfl⟩ ?_) ?_ ?_
  · exact deaf_of_le hw.reachable (Nat.le_refl _)
  · simp [Session.offline, Session.withoutBus, Hub.openMailbox, Session.fresh]
  · intro s' hs'
    exact (hw.mailbox_lt s' hs').ne

theorem Sound.perm (hw : Sound h ss) {ss' : List (Session κ)} (hp : ss.Perm ss') : Sound h ss' :=
  ⟨hw.reachable, fun s hs ↦ hw.placed s (hp.mem_iff.mpr hs),
    fun s hs ↦ hw.mailbox_lt s (hp.mem_iff.mpr hs), (hp.map _).nodup_iff.mp hw.apart⟩

variable [Callback κ]

theorem Sound.move (hw : Sound h (s :: ss)) {m : Move κ} (hm : m.Own) :
    Sound (Situation.after ⟨s, h⟩ m).hub ((Situation.after ⟨s, h⟩ m).session :: ss) := by
  have hlt := hw.mailbox_lt s List.mem_cons_self
  have hnew (s' : Session κ) (hs' : s' ∈ ss) : s'.mailbox ≠ s.mailbox := by
    intro heq
    exact (List.nodup_cons.mp hw.apart).1 (List.mem_map.mpr ⟨s', hs', heq⟩)
  obtain ⟨hplaced, hmailbox, hv⟩ := Situation.placed_after (w := ⟨s, h⟩) hw.reachable hlt
    (hw.placed s List.mem_cons_self) hm
  refine (hw.tail.via hv hnew).cons hplaced (hmailbox ▸ hlt.trans_le hv.length_le) ?_
  intro s' hs'
  rw [hmailbox]
  exact hnew s' hs'

theorem sound (hw : Crowd h ss) : Sound h ss := by
  induction hw with
  | start => exact ⟨.start, nofun, nofun, .nil⟩
  | connect c _ hc ih => exact ih.connect hc
  | refused c _ hc ih => exact ih.connected c _ (congrArg Prod.snd hc)
  | offline _ ih => exact ih.offline
  | move m hm _ ih => exact ih.move hm
  | filters k st _ ih => exact ih.others (via_filterStep k _ st)
  | access a st _ ih => exact ih.others (via_accessStep a _ st)
  | remote r e _ ih => exact ih.others (Via.refl.perform r.mailbox e)
  | bus st _ ih => exact ih.others (via_busStep _ st fun _ _ ↦ trivial)
  | perm hp _ ih => exact ih.perm hp

end Crowd

theorem World.crowd [Callback κ] {h : Hub (Bus ReplyTarget) κ} {ss : List (Session κ)}
    (hw : World h ss) : Crowd h ss := by
  induction hw with
  | start => exact .start
  | connect c _ hc ih => exact .connect c ih hc
  | refused c _ hc ih => exact .refused c ih hc
  | offline _ ih => exact .offline ih
  | move m hm _ ih => exact .move m hm ih
  | filters k st _ ih => exact .filters k st ih
  | access a st _ ih => exact .access a st ih
  | remote r e _ ih => exact .remote r e ih
  | bus st _ _ ih => exact .bus st ih
  | perm hp _ ih => exact .perm hp ih

end RobotBus
