import RobotBus.Proofs.World.Offline

namespace RobotBus

open Bus

variable {κ : Type}

/-- A session and what it has on the bus. It has nothing there when it is offline or closed. -/
inductive Session.Seated (h : Hub (Bus ReplyTarget) κ) (s : Session κ) : Prop
  | closed (hc : s.closed = true) (hp : s.presence = none)
  | offline (hs : s.Offline)
  | live (n token : Nat) (ids : EventSet) (ho : s.closed = false)
      (hon : s.settings.offline = false)
      (hp : s.presence = some ⟨⟨some (pathOfFilter n), ids⟩, some token⟩)
      (hb : h.line.Hosts n token s.mailbox ids)

namespace Session

variable {s : Session κ} {h : Hub (Bus ReplyTarget) κ} {n token : Nat}

theorem Seated.hosts (hs : s.Seated h) (hl : s.Live (pathOfFilter n) token) :
    ∃ ids, h.line.Hosts n token s.mailbox ids := by
  obtain ⟨ids, hp⟩ := hl.presence
  cases hs with
  | closed hc => exact nomatch hl.opened.symm.trans hc
  | offline hoff => exact nomatch hp.symm.trans hoff.presence
  | live k t ids' _ _ hp' hosts =>
    have heq := hp.symm.trans hp'
    simp only [Option.some.injEq, Presence.mk.injEq, FilterKeeper.mk.injEq] at heq
    obtain ⟨⟨hpath, rfl⟩, rfl⟩ := heq
    obtain rfl : n = k := pathOfFilter_injective hpath
    exact ⟨ids, hosts⟩

theorem Seated.live_of_open (hs : s.Seated h) (ho : s.closed = false)
    (hon : s.settings.offline = false) : ∃ n token, s.Live (pathOfFilter n) token := by
  cases hs with
  | closed hc => exact nomatch ho.symm.trans hc
  | offline hoff => exact nomatch hon.symm.trans hoff.offline
  | live n token ids _ _ hp => exact ⟨n, token, ho, ids, hp⟩

theorem Seated.kind (hs : s.Seated h) (ho : s.closed = false) :
    s.Offline ∨ ∃ path token, s.Live path token := by
  cases hs with
  | closed hc => exact nomatch ho.symm.trans hc
  | offline hoff => exact .inl hoff
  | live n token ids _ _ hp => exact .inr ⟨_, token, ho, ids, hp⟩

theorem Seated.live_of_presence (hs : s.Seated h) {p : Presence} (hp : s.presence = some p) :
    ∃ n token ids, p = ⟨⟨some (pathOfFilter n), ids⟩, some token⟩ ∧
      s.Live (pathOfFilter n) token := by
  cases hs with
  | closed _ hnone => exact nomatch hp.symm.trans hnone
  | offline hoff => exact nomatch hp.symm.trans hoff.presence
  | live n token ids ho _ hp' =>
    cases hp.symm.trans hp'
    exact ⟨n, token, ids, rfl, ho, ids, hp⟩

end Session

namespace Hub

variable {h h' : Hub (Bus ReplyTarget) κ} {mailboxes tokens : Nat → Prop}

theorem Act.Confined.spares {a : Act κ} (ha : a.Confined mailboxes tokens) {d : Deed ReplyTarget}
    (hd : a.deed? = some d) {token mailbox : Nat} (ht : ¬tokens token) (hm : ¬mailboxes mailbox) :
    d ≠ .unwatch token ∧
      ∀ path interface signal, d ≠ .watch path interface signal (.mailbox mailbox) := by
  cases a with
  | bus =>
    cases hd
    refine ⟨?_, ?_⟩
    · rintro rfl
      exact ht ha
    · rintro path interface signal rfl
      exact hm ha
  | submit | deliver =>
    cases hd
    exact ⟨nofun, nofun⟩
  | emit | openMailbox | post | take | note | tick => cases hd

theorem Via.hosts {n token mailbox : Nat} {ids : EventSet} (hv : Via mailboxes tokens h h')
    (hr : h.Reachable) (ht : ¬tokens token) (hm : ¬mailboxes mailbox)
    (hb : h.line.Hosts n token mailbox ids) : h'.line.Hosts n token mailbox ids := by
  induction hv with
  | refl => exact hb
  | after hv ha _ ih =>
    rw [line_after]
    cases hd : Act.deed? _ with
    | none => exact ih
    | some d =>
      obtain ⟨hu, hw⟩ := ha.spares hd ht hm
      exact ih.after (hv.reachable hr).settled.sound hu hw

end Hub

open Hub

theorem Session.Seated.via {s : Session κ} {h h' : Hub (Bus ReplyTarget) κ}
    {mailboxes tokens : Nat → Prop} (hs : s.Seated h) (hr : h.Reachable)
    (hv : Via mailboxes tokens h h') (hm : ¬mailboxes s.mailbox)
    (ht : ∀ p token, s.presence = some p → p.watch = some token → ¬tokens token) :
    s.Seated h' := by
  cases hs with
  | closed hc hp => exact .closed hc hp
  | offline hs => exact .offline hs
  | live n token ids ho hon hp hb =>
    exact .live n token ids ho hon hp (hv.hosts hr (ht _ _ hp rfl) hm hb)

namespace Situation

variable [Callback κ] {n token : Nat} {w w' : Situation κ} {os : List Occurrence}

theorem Stage.seated (hs : w.hub.line.Sound) (hw : w.session.Seated w.hub)
    (hl : w.session.Live (pathOfFilter n) token)
    (st : Stage (pathOfFilter n) token w os w') : w'.session.Seated w'.hub := by
  obtain ⟨ids₀, hp₀⟩ := hl.presence
  cases hw with
  | closed _ hp => exact nomatch hp₀.symm.trans hp
  | offline hoff => exact nomatch hp₀.symm.trans hoff.presence
  | live k t ids ho hon hp hb =>
    have heq := hp₀.symm.trans hp
    simp only [Option.some.injEq, Presence.mk.injEq, FilterKeeper.mk.injEq] at heq
    obtain ⟨⟨hpath, rfl⟩, rfl⟩ := heq
    obtain rfl : n = k := pathOfFilter_injective hpath
    have same {b : Bus ReplyTarget} (hb : b.Hosts n token w.session.mailbox ids₀) :
        w.session.Seated { w.hub with line := b } := .live n token ids₀ ho hon hp hb
    cases st with
    | names names => exact .live n token ids₀ ho hon hp hb
    | sweep b hsw => exact same (hb.swept hs hsw)
    | call method args =>
      exact same (hb.after hs (d := .call networkPath networkInterface method args) nofun nofun)
    | send args =>
      have hline := (Hub.submit_extends w.hub networkPath networkInterface "SendEvent" args
        (.mailbox w.session.mailbox)).line
      refine .live n token ids₀ ho hon hp ?_
      rw [hline]
      exact hb.after hs (d := .submit networkPath networkInterface "SendEvent" args _) nofun nofun
    | refused id =>
      exact same (hb.after hs (d := .call (pathOfFilter n) filterInterface "ListenEvent"
        [.uint16 id.val]) nofun nofun)
    | again id callback => exact .live n token ids₀ ho hon hp hb
    | first id callback ids hp' vs hok =>
      cases hp₀.symm.trans hp'
      exact .live n token (ids₀.insert id ()) ho hon rfl (hb.listen hs hok)
    | take m h ht => exact .live n token ids₀ ho hon hp ((Hub.queue_of_take ht).2.1.symm ▸ hb)
    | receive e h ht =>
      refine .live n token ids₀ ho hon hp ?_
      rw [line_received, (Hub.queue_of_take ht).2.1]
      exact hb
    | close =>
      refine .closed (Session.close_closed _ _) ?_
      simp only [Situation.close, Session.close, ho, hp, Bool.false_eq_true, if_false]

theorem Stages.seated (hs : w.hub.line.Sound) (hw : w.session.Seated w.hub)
    (h : Stages (pathOfFilter n) token w os w') : w'.session.Seated w'.hub := by
  induction h with
  | refl => exact hw
  | step h hl' st ih => exact st.seated (h.leads.sound hs) ih hl'

theorem staysOffline_after (hoff : w.session.Offline)
    (hm : w.session.mailbox < w.hub.mailboxes.length) {m : Move κ} (hown : m.Own) :
    w.session.StaysOffline w.hub (w.after m).session (w.after m).hub := by
  cases m with
  | step fuel s =>
    rw [after]
    cases hr : Simulation.sessionStep fuel w.session w.hub s with
    | none => exact hoff.refl w.hub
    | some r => exact hoff.sessionStep hm hr
  | turn => exact hoff.turn hm
  | drop => exact hoff.close w.hub
  | conclude result =>
    rw [after, Session.conclude_snd]
    exact hoff.close w.hub
  | other a => exact absurd rfl (hown a)

/-- What a session does on its own, it does within its own mailbox and its own watch. -/
theorem seated_after (hr : w.hub.Reachable) (hm : w.session.mailbox < w.hub.mailboxes.length)
    (hw : w.session.Seated w.hub) {m : Move κ} (hown : m.Own) :
    (w.after m).session.Seated (w.after m).hub ∧
      (w.after m).session.mailbox = w.session.mailbox ∧
      Via (· = w.session.mailbox) (fun t ↦ ∃ p, w.session.presence = some p ∧ p.watch = some t)
        w.hub (w.after m).hub := by
  cases hw with
  | closed hc hp =>
    obtain ⟨names, hafter⟩ := names_after_of_closed hc m hown
    rw [hafter]
    exact ⟨.closed hc hp, rfl, .refl⟩
  | offline hoff =>
    have hstay := staysOffline_after hoff hm hown
    exact ⟨.offline hstay.session, hstay.mailbox_eq,
      hstay.via.mono (fun _ h ↦ h) fun _ h ↦ h.elim⟩
  | live n token ids ho hon hp hb =>
    have hl : w.session.Live (pathOfFilter n) token := ⟨ho, ids, hp⟩
    have hst := stages_after hl m hown
    obtain ⟨hacted, hmailbox, -⟩ := hst.acted hm
    refine ⟨hst.seated hr.settled.sound (.live n token ids ho hon hp hb), hmailbox, ?_⟩
    refine hacted.via.mono (fun _ h ↦ h) ?_
    rintro t rfl
    exact ⟨_, hp, rfl⟩

end Situation

/-- What a hub and the sessions on it can come to. Any number of sessions connect, move and close;
filter keepers and node accesses of any kind, remotes and the bus itself act at any time. Nobody
ends the watch of a session but the session. -/
inductive World [Callback κ] : Hub (Bus ReplyTarget) κ → List (Session κ) → Prop
  | start : World (.start .start) []
  | connect {h h' : Hub (Bus ReplyTarget) κ} {s : Session κ} {ss : List (Session κ)} (c : Settings)
      (hw : World h ss) (hc : Session.connect h c = (.ok s, h')) : World h' (s :: ss)
  | refused {h h' : Hub (Bus ReplyTarget) κ} {p : Problem} {ss : List (Session κ)} (c : Settings)
      (hw : World h ss) (hc : Session.connect h c = (.error p, h')) : World h' ss
  | offline {h : Hub (Bus ReplyTarget) κ} {ss : List (Session κ)} (hw : World h ss) :
      World (Session.offline h).2 ((Session.offline h).1 :: ss)
  | move {h : Hub (Bus ReplyTarget) κ} {s : Session κ} {ss : List (Session κ)} (m : Move κ)
      (hm : m.Own) (hw : World h (s :: ss)) :
      World (Situation.after ⟨s, h⟩ m).hub ((Situation.after ⟨s, h⟩ m).session :: ss)
  | filters {h : Hub (Bus ReplyTarget) κ} {ss : List (Session κ)} (k : FilterKeeper)
      (st : Simulation.FilterStep) (hw : World h ss) : World (Simulation.filterStep k h st).2.2 ss
  | access {h : Hub (Bus ReplyTarget) κ} {ss : List (Session κ)} (a : NodeAccess)
      (st : Simulation.AccessStep) (hw : World h ss) : World (Simulation.accessStep a h st).2 ss
  | remote {h : Hub (Bus ReplyTarget) κ} {ss : List (Session κ)} (r : Remote) (e : Effect κ)
      (hw : World h ss) : World (h.perform r.mailbox e) ss
  | bus {h : Hub (Bus ReplyTarget) κ} {ss : List (Session κ)} (st : Simulation.BusStep)
      (hst : ∀ token, st = .unwatch token →
        ∀ s ∈ ss, ∀ p, s.presence = some p → p.watch ≠ some token)
      (hw : World h ss) : World (Simulation.busStep h st).2 ss
  | perm {h : Hub (Bus ReplyTarget) κ} {ss ss' : List (Session κ)} (hp : ss.Perm ss')
      (hw : World h ss) : World h ss'

namespace World

variable {h h' : Hub (Bus ReplyTarget) κ} {s : Session κ} {ss : List (Session κ)}
  {mailboxes tokens : Nat → Prop}

structure Sound (h : Hub (Bus ReplyTarget) κ) (ss : List (Session κ)) : Prop where
  reachable : h.Reachable
  seated : ∀ s ∈ ss, s.Seated h
  mailbox_lt : ∀ s ∈ ss, s.mailbox < h.mailboxes.length
  apart : (ss.map Session.mailbox).Nodup
  held_lt : ∀ n r, (.mailbox n, r) ∈ h.line.held → n < h.mailboxes.length

theorem held_lt_of_via (hv : Via mailboxes tokens h h')
    (hm : ∀ n, mailboxes n → n < h.mailboxes.length)
    (hheld : ∀ n r, (.mailbox n, r) ∈ h.line.held → n < h.mailboxes.length) (n : Nat) (r : Reply)
    (hmem : (.mailbox n, r) ∈ h'.line.held) : n < h.mailboxes.length := by
  induction hv generalizing n r with
  | refl => exact hheld n r hmem
  | @after h' a _ ha _ ih =>
    rw [Hub.line_after] at hmem
    cases hd : a.deed? with
    | none => exact ih n r (by simpa [hd] using hmem)
    | some d =>
      rw [hd] at hmem
      rcases mem_held_after h'.line d hmem with hold | ⟨path, interface, method, args, rfl⟩
      · exact ih n r hold
      · cases a with
        | bus => cases hd; exact ha.elim
        | submit => cases hd; exact hm n ha
        | deliver | emit | openMailbox | post | take | note | tick => cases hd

theorem Sound.via (hw : Sound h ss) (hv : Via mailboxes tokens h h')
    (hm : ∀ s ∈ ss, ¬mailboxes s.mailbox)
    (ht : ∀ s ∈ ss, ∀ p token, s.presence = some p → p.watch = some token → ¬tokens token)
    (hheld : ∀ n r, (.mailbox n, r) ∈ h'.line.held → n < h'.mailboxes.length) : Sound h' ss where
  reachable := hv.reachable hw.reachable
  seated s hs := (hw.seated s hs).via hw.reachable hv (hm s hs) (ht s hs)
  mailbox_lt s hs := (hw.mailbox_lt s hs).trans_le hv.length_le
  apart := hw.apart
  held_lt := hheld

theorem Sound.tail (hw : Sound h (s :: ss)) : Sound h ss where
  reachable := hw.reachable
  seated s' hs := hw.seated s' (List.mem_cons_of_mem _ hs)
  mailbox_lt s' hs := hw.mailbox_lt s' (List.mem_cons_of_mem _ hs)
  apart := (List.nodup_cons.mp hw.apart).2
  held_lt := hw.held_lt

theorem Sound.cons (hw : Sound h ss) (hs : s.Seated h) (hlt : s.mailbox < h.mailboxes.length)
    (hnew : ∀ s' ∈ ss, s'.mailbox ≠ s.mailbox) : Sound h (s :: ss) where
  reachable := hw.reachable
  seated := List.forall_mem_cons.mpr ⟨hs, hw.seated⟩
  mailbox_lt := List.forall_mem_cons.mpr ⟨hlt, hw.mailbox_lt⟩
  apart := by
    refine List.nodup_cons.mpr ⟨?_, hw.apart⟩
    intro hmem
    obtain ⟨s', hs', heq⟩ := List.mem_map.mp hmem
    exact hnew s' hs' heq
  held_lt := hw.held_lt

theorem Sound.ne_of_mem (hw : Sound h (s :: ss)) {s' : Session κ} (hs' : s' ∈ ss) :
    s'.mailbox ≠ s.mailbox := by
  intro heq
  exact (List.nodup_cons.mp hw.apart).1 (List.mem_map.mpr ⟨s', hs', heq⟩)

theorem Sound.watch_ne (hw : Sound h (s :: ss)) {s' : Session κ} (hs' : s' ∈ ss)
    {p p' : Presence} {token token' : Nat} (hp : s.presence = some p) (ht : p.watch = some token)
    (hp' : s'.presence = some p') (ht' : p'.watch = some token') : token' ≠ token := by
  have tied {s : Session κ} {p : Presence} {token : Nat} (hs : s.Seated h)
      (hp : s.presence = some p) (ht : p.watch = some token) :
      ∃ n, h.line.Tied n token s.mailbox := by
    obtain ⟨n, t, ids, rfl, hl⟩ := hs.live_of_presence hp
    cases ht
    obtain ⟨_, hosts⟩ := hs.hosts hl
    exact ⟨n, hosts.tied⟩
  rintro rfl
  obtain ⟨n, htied⟩ := tied (hw.seated s List.mem_cons_self) hp ht
  obtain ⟨n', htied'⟩ := tied (hw.seated s' (List.mem_cons_of_mem _ hs')) hp' ht'
  have heq := htied.watch.symm.trans htied'.watch
  simp only [Option.some.injEq, Watch.mk.injEq, Listener.mailbox.injEq] at heq
  exact hw.ne_of_mem hs' heq.2.2.2.symm

theorem seated_of_connect {c : Settings} (hr : h.Reachable)
    (hc : Session.connect h c = (.ok s, h')) :
    s.Seated h' ∧ s.mailbox = h.mailboxes.length ∧ s.mailbox < h'.mailboxes.length := by
  have hconnects := Session.connect_connects h c
  cases hoff : c.offline with
  | true =>
    unfold Session.connect at hc
    cases hcheck : c.check with
    | error e => simp [hcheck] at hc
    | ok u =>
      simp only [hcheck, hoff, if_true] at hc
      cases hc
      refine ⟨.offline ⟨rfl, rfl⟩, rfl, ?_⟩
      simp [Session.withoutBus, Hub.openMailbox, Session.fresh]
  | false =>
    rw [hc] at hconnects
    obtain ⟨b, -, hs, -⟩ := hconnects.swept hoff
    obtain ⟨hattuned, -⟩ := Situation.attuned_of_connects hconnects hoff hr.settled
    obtain ⟨ids, hp, hids⟩ := hattuned.presence
    refine ⟨.live _ _ ids hattuned.opened ?_ hp
      ⟨hattuned.line.number_lt, hattuned.line.tied, ?_, ?_⟩, ?_, hattuned.mailbox_lt⟩
    · rw [hs]
      exact hoff
    · intro id hid
      cases (hids id).mp hid
    · intro live _ id hid
      cases (hids id).mp hid
    · rw [hs]
      rfl

theorem Sound.connected (hw : Sound h ss) (c : Settings) (h' : Hub (Bus ReplyTarget) κ)
    (hc : (Session.connect h c).2 = h') : Sound h' ss := by
  have hv := (Session.acted_connect h c).via
  have hheld := (Session.connect_connects h c).held
  rw [hc] at hv hheld
  refine hw.via hv (fun s hs ↦ (hw.mailbox_lt s hs).ne) ?_ ?_
  · intro s hs p token hp ht
    obtain ⟨n, t, ids, rfl, hl⟩ := (hw.seated s hs).live_of_presence hp
    cases ht
    obtain ⟨_, hosts⟩ := (hw.seated s hs).hosts hl
    exact (hw.reachable.settled.sound.watch_lt token
      ((Directory.contains_eq_true_iff _ _).mpr ⟨_, hosts.tied.watch⟩)).ne
  · intro n r hmem
    exact (hw.held_lt n r (hheld ▸ hmem)).trans_le hv.length_le

theorem Sound.others (hw : Sound h ss) {tokens : Nat → Prop}
    (hv : Via (fun _ ↦ False) tokens h h')
    (ht : ∀ s ∈ ss, ∀ p token, s.presence = some p → p.watch = some token → ¬tokens token) :
    Sound h' ss := by
  refine hw.via hv (fun _ _ h ↦ h) ht ?_
  intro n r hmem
  exact (held_lt_of_via hv (fun _ h ↦ h.elim) hw.held_lt n r hmem).trans_le hv.length_le

variable [Callback κ]

theorem sound (hw : World h ss) : Sound h ss := by
  induction hw with
  | start => exact ⟨.start, nofun, nofun, .nil, nofun⟩
  | @connect h h' s ss c _ hc ih =>
    obtain ⟨hseat, hmailbox, hlt⟩ := seated_of_connect ih.reachable hc
    refine (ih.connected c h' (congrArg Prod.snd hc)).cons hseat hlt ?_
    intro s' hs'
    rw [hmailbox]
    exact (ih.mailbox_lt s' hs').ne
  | refused c _ hc ih => exact ih.connected c _ (congrArg Prod.snd hc)
  | @offline h ss _ ih =>
    have hv : Via (fun _ ↦ False) (fun _ ↦ False) h (Session.offline h).2 :=
      Via.refl.after (a := .openMailbox) trivial trivial
    refine (ih.others hv fun _ _ _ _ _ _ h ↦ h).cons (.offline ⟨rfl, rfl⟩) ?_ ?_
    · simp [Session.offline, Session.withoutBus, Hub.openMailbox, Session.fresh]
    · intro s' hs'
      exact (ih.mailbox_lt s' hs').ne
  | @move h s ss m hm _ ih =>
    have hlt := ih.mailbox_lt s List.mem_cons_self
    obtain ⟨hseat, hmailbox, hv⟩ := Situation.seated_after (w := ⟨s, h⟩) ih.reachable hlt
      (ih.seated s List.mem_cons_self) hm
    -- what the session does spares the watches and the mailboxes of the others
    refine Sound.cons ?_ hseat (hmailbox ▸ hlt.trans_le hv.length_le) ?_
    · refine ih.tail.via hv (fun s' hs' ↦ ih.ne_of_mem hs') ?_ ?_
      · rintro s' hs' p' token' hp' ht' ⟨p, hp, ht⟩
        exact ih.watch_ne hs' hp ht hp' ht' rfl
      · intro n r hmem
        refine (held_lt_of_via hv ?_ ih.held_lt n r hmem).trans_le hv.length_le
        rintro n rfl
        exact hlt
    · intro s' hs'
      rw [hmailbox]
      exact ih.ne_of_mem hs'
  | filters k st _ ih => exact ih.others (via_filterStep k _ st) fun _ _ _ _ _ _ h ↦ h
  | access a st _ ih => exact ih.others (via_accessStep a _ st) fun _ _ _ _ _ _ h ↦ h
  | remote r e _ ih => exact ih.others (Via.refl.perform r.mailbox e) fun _ _ _ _ _ _ h ↦ h
  | @bus h ss st hst _ ih =>
    have hv : Via (fun _ ↦ False) (fun t ↦ st = .unwatch t) h (Simulation.busStep h st).2 :=
      via_busStep h st fun _ h ↦ h
    refine ih.others hv ?_
    intro s hs p token hp ht heq
    exact hst token heq s hs p hp ht
  | perm hp _ ih =>
    exact ⟨ih.reachable, fun s hs ↦ ih.seated s (hp.mem_iff.mpr hs),
      fun s hs ↦ ih.mailbox_lt s (hp.mem_iff.mpr hs), (hp.map _).nodup_iff.mp ih.apart,
      ih.held_lt⟩

end World

end RobotBus
