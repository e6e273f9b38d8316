import RobotBus.Proofs.World.Privacy

namespace RobotBus

open Bus Hub

variable {κ : Type}

namespace Session

variable {s s' : Session κ} {h h' : Hub (Bus ReplyTarget) κ} {n token : Nat}

def Disjoint (s s' : Session κ) : Prop :=
  ∀ p p', s.presence = some p → s'.presence = some p' →
    p.filters.filter ≠ p'.filters.filter ∧ p.watch ≠ p'.watch

theorem Disjoint.symm (hd : s.Disjoint s') : s'.Disjoint s := by
  intro p p' hp hp'
  obtain ⟨hfilter, hwatch⟩ := hd p' p hp' hp
  exact ⟨hfilter.symm, hwatch.symm⟩

theorem Seated.holds (hs : s.Seated h) (hb : h.line.Sound) (hm : s.mailbox < h.mailboxes.length)
    (hl : s.Live (pathOfFilter n) token) : h.Holds ⟨n, token, s.mailbox⟩ := by
  obtain ⟨ids, hosts⟩ := hs.hosts hl
  exact ⟨hosts.number_lt, hb.watch_lt token
    ((Directory.contains_eq_true_iff _ _).mpr ⟨_, hosts.tied.watch⟩), hm⟩

/-- A session that has nothing in common with a live one has a berth apart from it. -/
theorem Disjoint.exists_berth (hd : s.Disjoint s') (hs : s.Seated h)
    (hm : s.mailbox ≠ s'.mailbox) (hl : s'.Live (pathOfFilter n) token) :
    ∃ b : Berth, s.Keeps b ∧ b.Apart ⟨n, token, s'.mailbox⟩ := by
  obtain ⟨ids', hp'⟩ := hl.presence
  have hnone : s.presence = none →
      ∃ b : Berth, s.Keeps b ∧ b.Apart ⟨n, token, s'.mailbox⟩ := fun hp ↦
    ⟨⟨n + 1, token + 1, s.mailbox⟩, ⟨rfl, .inl hp⟩, Nat.succ_ne_self n, Nat.succ_ne_self token, hm⟩
  cases hs with
  | closed _ hp => exact hnone hp
  | offline hoff => exact hnone hoff.presence
  | live k t ids _ _ hp =>
    obtain ⟨hfilter, hwatch⟩ := hd _ _ hp hp'
    refine ⟨⟨k, t, s.mailbox⟩, ⟨rfl, .inr ⟨ids, hp⟩⟩, ?_, ?_, hm⟩
    · rintro rfl
      exact hfilter rfl
    · rintro rfl
      exact hwatch rfl

end Session

namespace Hub

variable {h : Hub (Bus ReplyTarget) κ} {b : Berth}

theorem share_of_sweeps {mayFree : Nat → Prop} {l : Bus ReplyTarget}
    (hl : Sweeps mayFree h.line l) (b : Berth) :
    ({ h with line := l } : Hub (Bus ReplyTarget) κ).share b = h.share b ∨
      mayFree b.filter ∧
        ({ h with line := l } : Hub (Bus ReplyTarget) κ).share b =
          { h.share b with filter := none } := by
  have hwatches : l.watches = h.line.watches := by rw [hl.frame]
  rcases hl.get?_filters b.filter with hsame | ⟨hfree, hnone⟩
  · refine .inl ?_
    rw [share, share, hsame, hwatches]
    rfl
  · refine .inr ⟨hfree, ?_⟩
    rw [share, share, hnone, hwatches]
    rfl

theorem holds_of_sweeps {mayFree : Nat → Prop} {l : Bus ReplyTarget}
    (hl : Sweeps mayFree h.line l) (hh : h.Holds b) :
    ({ h with line := l } : Hub (Bus ReplyTarget) κ).Holds b where
  filter := hh.filter.trans_le hl.leads.nextFilter_le
  token := hh.token.trans_le hl.leads.nextToken_le
  mailbox := hh.mailbox

end Hub

namespace Session

variable {s : Session κ} {h : Hub (Bus ReplyTarget) κ} {b : Berth}

theorem share_sweep (s : Session κ) (h : Hub (Bus ReplyTarget) κ) (b : Berth) :
    (s.sweep h).2.share b = h.share b ∨
      (s.sweep h).2.share b = { h.share b with filter := none } := by
  unfold Session.sweep Session.ask
  split
  · exact .inl rfl
  · cases s.presence with
    | none => exact .inl rfl
    | some p => exact (share_of_sweeps (p.filters.sweep_sweeps h.line) b).imp_right And.right

def nextBerth (h : Hub (Bus ReplyTarget) κ) : Berth :=
  ⟨h.line.nextFilter, h.line.nextToken, h.mailboxes.length⟩

theorem within_connected (hf : h.line.connectRefusal = none) (c : Settings) :
    Within b h { h with line := (connected h.line c).note (.reach networkPath) } := by
  have hline : h.line.after (.connect c.scope) = connected h.line c := by
    simp [Bus.after, Bus.connect, hf, connected]
  have hconn : Within b h { h with line := h.line.after (.connect c.scope) } :=
    Within.refl.after (a := .bus (.connect c.scope)) fun _ hc ↦ hc.elim
  rw [hline] at hconn
  exact hconn.after (a := .bus (.reach networkPath)) fun _ hc ↦ hc.elim

theorem within_made (h : Hub (Bus ReplyTarget) κ) :
    Within b h
      { h with line := (h.line.call networkPath networkInterface "CreateEventFilter" []).2 } :=
  .asks (.call "CreateEventFilter" [] (by decide) (by decide))

theorem within_furnished {h : Hub (Bus ReplyTarget) κ}
    (hyes : h.line.refusal? "CreateEventFilter" = none) (mailbox : Nat) :
    Within b h { h with line := h.line.furnished mailbox } := by
  have hcall := within_made (b := b) h
  rw [call_makeFilter, hyes] at hcall
  exact (hcall.after (a := .bus (.reach (pathOfFilter h.line.nextFilter)))
    fun _ hc ↦ hc.elim).after (a := .bus (.watch (pathOfFilter h.line.nextFilter) filterInterface
      eventSignal (.mailbox mailbox))) fun _ hc ↦ hc.elim

theorem within_disconnect {h' : Hub (Bus ReplyTarget) κ} (hw : Within b h h') :
    Within b h { h' with line := h'.line.disconnect } :=
  hw.after (a := .bus .disconnect) fun _ hc ↦ hc.elim

theorem presence_of_connect {h' : Hub (Bus ReplyTarget) κ} {c : Settings}
    (hc : connect h c = (.ok s, h')) (hoff : c.offline = true) : s.presence = none := by
  unfold connect at hc
  cases hcheck : c.check with
  | error e => simp [hcheck] at hc
  | ok u =>
    simp only [hcheck, hoff, if_true] at hc
    cases hc
    rfl

/-- A session that connects keeps to the numbers given out next, but for the sweep that it may have
been set to begin with. -/
theorem connect_within (h : Hub (Bus ReplyTarget) κ) (c : Settings) :
    ∃ l l', Within b h { h with line := l } ∧ Sweeps (fun _ ↦ c.sweepFirst = true) l l' ∧
      Within b { h with line := l' } (connect h c).2 := by
  have hsweeps (l : Bus ReplyTarget) :
      Sweeps (fun _ ↦ c.sweepFirst = true) l (Presence.start.sweepFirst l c).2 := by
    cases hc : c.sweepFirst with
    | true => exact (Presence.sweepFirst_sweeps l c).mono fun _ _ ↦ rfl
    | false =>
      simp only [Presence.sweepFirst, hc, Bool.false_eq_true, if_false]
      exact .nothing
  have hconnects := connect_connects h c
  generalize connect h c = r at hconnects ⊢
  obtain ⟨r, h'⟩ := r
  cases hconnects with
  | unsettled | refused => exact ⟨_, _, .refl, .nothing, .refl⟩
  | offline => exact ⟨_, _, .refl, .nothing, Within.refl.after (a := .openMailbox) trivial⟩
  | withdrawn e l hc hf hl =>
    have hconn := within_connected (b := b) hf c
    cases hl with
    | unreachable => exact ⟨_, _, hconn, .nothing, within_disconnect .refl⟩
    | unswept => exact ⟨_, _, hconn, hsweeps _, within_disconnect .refl⟩
    | unmade _ f hno =>
      have hcall := within_made (b := b) { h with line :=
        (Presence.start.sweepFirst ((connected h.line c).note (.reach networkPath)) c).2 }
      rw [call_makeFilter, hno] at hcall
      exact ⟨_, _, hconn, hsweeps _, within_disconnect hcall⟩
  | joined p l hc hf hl =>
    have hconn := within_connected (b := b) hf c
    cases hl with
    | entered hs hyes =>
      have hfurnish := within_furnished (b := b) (h := { h with line :=
        (Presence.start.sweepFirst ((connected h.line c).note (.reach networkPath)) c).2 })
        hyes h.mailboxes.length
      exact ⟨_, _, hconn, hsweeps _, hfurnish.after (a := .openMailbox) trivial⟩

theorem share_connect (hh : h.Holds b) (c : Settings) :
    (connect h c).2.share b = h.share b ∨
      c.sweepFirst = true ∧ (connect h c).2.share b = { h.share b with filter := none } := by
  have hapart : (nextBerth h).Apart b := ⟨hh.filter.ne', hh.token.ne', hh.mailbox.ne'⟩
  obtain ⟨l, l', hbefore, hsweeps, hafter⟩ := connect_within (b := nextBerth h) h c
  obtain ⟨hshare, hh'⟩ := hbefore.share hh hapart
  have hswept := share_of_sweeps (h := { h with line := l }) hsweeps b
  obtain ⟨hshare', -⟩ :=
    hafter.share (holds_of_sweeps (h := { h with line := l }) hsweeps hh') hapart
  rwa [hshare', ← hshare]

end Session

namespace World

variable [Callback κ] {h : Hub (Bus ReplyTarget) κ} {ss : List (Session κ)}

theorem presence_after {w : Situation κ} (hr : w.hub.Reachable)
    (hm : w.session.mailbox < w.hub.mailboxes.length) (hs : w.session.Seated w.hub) {m : Move κ}
    (hown : m.Own) {p' : Presence} (hp' : (w.after m).session.presence = some p') :
    ∃ p, w.session.presence = some p ∧ p'.filters.filter = p.filters.filter ∧
      p'.watch = p.watch := by
  obtain ⟨hseat, -⟩ := Situation.seated_after hr hm hs hown
  cases hs with
  | closed hc hp =>
    obtain ⟨names, hafter⟩ := Situation.names_after_of_closed hc m hown
    rw [hafter] at hp'
    exact nomatch hp.symm.trans hp'
  | offline hoff =>
    exact nomatch hp'.symm.trans (Situation.staysOffline_after hoff hm hown).session.presence
  | live n token ids ho hon hp hb =>
    have hl : w.session.Live (pathOfFilter n) token := ⟨ho, ids, hp⟩
    rcases (Situation.stages_after hl m hown).live hl with hl' | hc
    · obtain ⟨ids', hp''⟩ := hl'.presence
      cases hp'.symm.trans hp''
      exact ⟨_, hp, rfl, rfl⟩
    · cases hseat with
      | closed _ hnone => exact nomatch hp'.symm.trans hnone
      | offline hoff => exact nomatch hp'.symm.trans hoff.presence
      | live _ _ _ ho' => exact nomatch hc.symm.trans ho'

/-- No two sessions share a filter or a watch, for their numbers are given out once. -/
theorem disjoint (hw : World h ss) : ss.Pairwise Session.Disjoint := by
  induction hw with
  | start => exact .nil
  | @connect h h' s ss c hw hc ih =>
    refine .cons ?_ ih
    intro s' hs' p p' hp hp'
    have hsound := hw.sound
    have hseat := hsound.seated s' hs'
    obtain ⟨n, token, ids, rfl, hl⟩ := hseat.live_of_presence hp'
    have hholds := hseat.holds hsound.reachable.settled.sound (hsound.mailbox_lt s' hs') hl
    have hconnects := Session.connect_connects h c
    rw [hc] at hconnects
    cases hoff : c.offline with
    | true => exact nomatch hp.symm.trans (Session.presence_of_connect hc hoff)
    | false =>
      obtain ⟨b, -, rfl, -⟩ := hconnects.swept hoff
      cases hp
      refine ⟨fun heq ↦ ?_, fun heq ↦ ?_⟩
      · exact hholds.filter.ne' (pathOfFilter_injective (Option.some.inj heq))
      · exact hholds.token.ne' (Option.some.inj heq)
  | refused _ _ _ ih | filters _ _ _ ih | access _ _ _ ih | remote _ _ _ ih | bus _ _ _ ih =>
    exact ih
  | offline _ ih => exact .cons (fun _ _ p p' hp ↦ nomatch hp) ih
  | @move h s ss m hm hw ih =>
    obtain ⟨hhead, htail⟩ := List.pairwise_cons.mp ih
    refine .cons ?_ htail
    intro s' hs' p p' hp hp'
    have hsound := hw.sound
    obtain ⟨q, hq, hfilter, hwatch⟩ := presence_after (w := ⟨s, h⟩) hsound.reachable
      (hsound.mailbox_lt s List.mem_cons_self) (hsound.seated s List.mem_cons_self) hm hp
    rw [hfilter, hwatch]
    exact hhead s' hs' q p' hq hp'
  | perm hp _ ih => exact (hp.pairwise_iff fun h ↦ h.symm).mp ih

theorem queue_emit {s : Session κ} (hw : World h ss) (hs : s ∈ ss) {n token : Nat}
    (hl : s.Live (pathOfFilter n) token) (id : EventId) (name : String) (values : List Word) :
    (h.emit id name values).2.queue s.mailbox = h.queue s.mailbox ++
      if pathOfFilter n ∈ h.line.forwarding id then [.event ⟨id, name, values⟩] else [] := by
  have hsound := hw.sound
  obtain ⟨ids, hosts⟩ := (hsound.seated s hs).hosts hl
  rw [Hub.queue_emit h (hsound.mailbox_lt s hs),
    hosts.tied.count_listeners hsound.reachable.settled.sound]
  split <;> rfl

/-- A filter that is gone passes nothing on for good, whatever filters are made after it. -/
theorem not_mem_forwarding_of_gone (hw : World h ss) {n : Nat} (hn : n < h.line.nextFilter)
    (hgone : h.line.filters.get? n = none) {l : Bus ReplyTarget} (hl : Leads h.line l)
    (id : EventId) : pathOfFilter n ∉ l.forwarding id := by
  rw [mem_forwarding_iff (hl.sound hw.sound.reachable.settled.sound)]
  rintro ⟨ids, hids, -⟩
  exact nomatch hids.symm.trans (hl.get?_filters_eq_none hn hgone)

/-- Sessions do not interfere. Those that are open and not offline have filters and watches of their
own. Whatever one of them does, by an operation, in its loop, through a fault or by being dropped,
what another has on the bus and in its mailbox stays as it is, as long as the first does not sweep
and its callbacks emit nothing. By sweeping, also when it connects, it can take away the filter of
the other and nothing else. A session receives what its own filter passes on, and once that is
gone, nothing ever. -/
theorem sessions_are_isolated (hw : World h ss) :
    ss.Pairwise Session.Disjoint ∧
    (∀ s ∈ ss, s.closed = false → s.settings.offline = false →
      ∃ n token, s.Live (pathOfFilter n) token) ∧
    (∀ s rest, ss.Perm (s :: rest) → ∀ m : Move κ, m.Own →
      let w := Situation.after ⟨s, h⟩ m
      World w.hub (w.session :: rest) ∧
      ∀ s' ∈ rest, ∀ n token, s'.Live (pathOfFilter n) token →
        let b : Berth := ⟨n, token, s'.mailbox⟩
        ((∀ fuel, m ≠ .step fuel .sweep) →
          (∀ id values, .emitted id values ∉ Situation.during ⟨s, h⟩ m) →
          w.hub.share b = h.share b) ∧
        (∀ fuel, m = .step fuel .sweep →
          w.hub.share b = h.share b ∨ w.hub.share b = { h.share b with filter := none })) ∧
    (∀ c, ∀ s' ∈ ss, ∀ n token, s'.Live (pathOfFilter n) token →
      let b : Berth := ⟨n, token, s'.mailbox⟩
      (Session.connect h c).2.share b = h.share b ∨
        c.sweepFirst = true ∧
          (Session.connect h c).2.share b = { h.share b with filter := none }) ∧
    (∀ s' ∈ ss, ∀ n token, s'.Live (pathOfFilter n) token →
      (∀ id name values, (h.emit id name values).2.queue s'.mailbox = h.queue s'.mailbox ++
        if pathOfFilter n ∈ h.line.forwarding id then [.event ⟨id, name, values⟩] else []) ∧
      (h.line.filters.get? n = none →
        ∀ l, Leads h.line l → ∀ id, pathOfFilter n ∉ l.forwarding id)) := by
  have hsound := hw.sound
  have hbus := hsound.reachable.settled.sound
  have holds (s' : Session κ) (hs' : s' ∈ ss) (n token : Nat)
      (hl : s'.Live (pathOfFilter n) token) : h.Holds ⟨n, token, s'.mailbox⟩ :=
    (hsound.seated s' hs').holds hbus (hsound.mailbox_lt s' hs') hl
  refine ⟨hw.disjoint, ?_, ?_, ?_, ?_⟩
  · intro s hs
    exact (hsound.seated s hs).live_of_open
  · intro s rest hperm m hm w
    have hw' := hw.perm hperm
    refine ⟨.move m hm hw', ?_⟩
    intro s' hs' n token hl b
    refine ⟨fun hsweep hquiet ↦ ?_, ?_⟩
    · -- the first session keeps to its own berth, which is apart from that of the other
      have hd := (List.pairwise_cons.mp hw'.disjoint).1 s' hs'
      have hmailbox := (hw'.sound.ne_of_mem hs').symm
      obtain ⟨own, hkeeps, hapart⟩ :=
        hd.exists_berth (hw'.sound.seated s List.mem_cons_self) hmailbox hl
      have hkept := Situation.keepsTo_after (w := ⟨s, h⟩) hkeeps hm hsweep hquiet
      have hmem : s' ∈ ss := hperm.mem_iff.mpr (List.mem_cons_of_mem _ hs')
      exact (hkept.within.share (holds s' hmem n token hl) hapart).1
    · rintro fuel rfl
      exact s.share_sweep h b
  · intro c s' hs' n token hl
    exact Session.share_connect (holds s' hs' n token hl) c
  · intro s' hs' n token hl
    refine ⟨hw.queue_emit hs' hl, fun hgone l hleads id ↦ ?_⟩
    exact hw.not_mem_forwarding_of_gone (holds s' hs' n token hl).filter hgone hleads id

def neighbour : Session Fuse :=
  .fresh 1 { Settings.default with sweepFirst := false }
    (some ⟨⟨some (pathOfFilter 1), .empty⟩, some 1⟩)

def neighbourHub : Hub (Bus ReplyTarget) Fuse :=
  (Session.connect Session.firstHub { Settings.default with sweepFirst := false }).2

/-- The neighbour closes, and nothing changes for the first session; or it sweeps, and only the
filter of the first session is gone. -/
theorem sessions_are_isolated_of_neighbour :
    let close := Situation.after ⟨neighbour, neighbourHub⟩ (.step 0 .close)
    let sweep := Situation.after ⟨neighbour, neighbourHub⟩ (.step 0 .sweep)
    (close.hub.share ⟨0, 0, 0⟩ = neighbourHub.share ⟨0, 0, 0⟩ ∧
      (neighbourHub.share ⟨0, 0, 0⟩).filter = some .empty) ∧
    (sweep.hub.share ⟨0, 0, 0⟩ = { neighbourHub.share ⟨0, 0, 0⟩ with filter := none } ∧
      ∀ l, Leads sweep.hub.line l → ∀ id, pathOfFilter 0 ∉ l.forwarding id) := by
  intro close sweep
  have hw : World neighbourHub [neighbour, Session.first] :=
    .connect { Settings.default with sweepFirst := false }
      (.connect .default .start Session.connect_first) rfl
  have hl : (Session.first : Session Fuse).Live (pathOfFilter 0) 0 := ⟨rfl, _, rfl⟩
  obtain ⟨-, -, hmove, -⟩ := sessions_are_isolated hw
  have hclose := (hmove neighbour [Session.first] (.refl _) (.step 0 .close) nofun).2
    Session.first List.mem_cons_self 0 0 hl
  obtain ⟨hswept, hsweep⟩ := hmove neighbour [Session.first] (.refl _) (.step 0 .sweep) nofun
  obtain ⟨-, -, -, -, hlater⟩ := sessions_are_isolated hswept
  refine ⟨⟨hclose.1 nofun nofun, rfl⟩, ?_, ?_⟩
  · exact ((hsweep Session.first List.mem_cons_self 0 0 hl).2 0 rfl).resolve_left nofun
  · exact (hlater Session.first (List.mem_cons_of_mem _ List.mem_cons_self) 0 0 hl).2 rfl

end World

end RobotBus
