import RobotBus.Callback.Script
import RobotBus.Proofs.FilterKeeper.Sweeping
import RobotBus.Session.Basic

namespace RobotBus

open Bus

def Bus.furnished (b : Bus ReplyTarget) (mailbox : Nat) : Bus ReplyTarget :=
  let made := (b.note (.call networkPath "CreateEventFilter")).addFilter.2
  ((made.note (.reach (pathOfFilter b.nextFilter))).watch (pathOfFilter b.nextFilter)
    filterInterface eventSignal (.mailbox mailbox)).2

theorem Bus.filters_furnished (b : Bus ReplyTarget) (mailbox : Nat) :
    (b.furnished mailbox).filters = b.filters.insert b.nextFilter .empty := rfl

theorem Bus.watches_furnished (b : Bus ReplyTarget) (mailbox : Nat) :
    (b.furnished mailbox).watches =
      b.watches.insert b.nextToken
        ⟨pathOfFilter b.nextFilter, filterInterface, eventSignal, .mailbox mailbox⟩ := rfl

theorem Bus.Sound.furnished {b : Bus ReplyTarget} (h : b.Sound) (mailbox : Nat) :
    (b.furnished mailbox).Sound :=
  ((h.note _).addFilter.note _).watch ..

namespace Presence

def start : Presence := ⟨.start, none⟩

theorem sweepFirst_sweeps (b : Bus ReplyTarget) (c : Settings) :
    Sweeps (fun n ↦ b.filters.contains n = true) b (start.sweepFirst b c).2 := by
  unfold sweepFirst
  split
  · exact (FilterKeeper.sweep_sweeps start.filters b).mono (fun n hn ↦ hn.1)
  · exact .nothing

theorem furnish_start (b : Bus ReplyTarget) (c : Settings) (mailbox : Nat)
    (hs : b.serving = true) :
    start.furnish b c mailbox =
      match (start.sweepFirst b c).1 with
      | .error e => (.error e, start, (start.sweepFirst b c).2)
      | .ok _ =>
        match (start.sweepFirst b c).2.refusal? "CreateEventFilter" with
        | some f =>
          (.error (.refusedCall "CreateEventFilter" f), start,
            (start.sweepFirst b c).2.note (.call networkPath "CreateEventFilter"))
        | none =>
          (.ok (),
            ⟨⟨some (pathOfFilter (start.sweepFirst b c).2.nextFilter), .empty⟩,
              some (start.sweepFirst b c).2.nextToken⟩,
            (start.sweepFirst b c).2.furnished mailbox) := by
  have hserving : (start.sweepFirst b c).2.serving = true := by
    rw [(sweepFirst_sweeps b c).frame]
    exact hs
  unfold furnish
  generalize start.sweepFirst b c = swept at hserving ⊢
  obtain ⟨_ | freed, b'⟩ := swept
  · rfl
  · simp only [FilterKeeper.obtain, start, FilterKeeper.start, Line.call, call_makeFilter]
    cases b'.refusal? "CreateEventFilter" with
    | some f => rfl
    | none =>
      have hmade : (b'.note (.call networkPath "CreateEventFilter")).addFilter.2.serving = true :=
        hserving
      simp only [FilterKeeper.pathInReply, Line.reach, Bus.reach, if_pos hmade]
      rfl

inductive Enters (b : Bus ReplyTarget) (c : Settings) (mailbox : Nat) :
    Except Problem Presence → Bus ReplyTarget → Prop
  | unreachable (e : Problem) :
      Enters b c mailbox (.error e) (b.note (.reach networkPath)).disconnect
  | unswept (e : Problem) :
      Enters b c mailbox (.error e)
        (start.sweepFirst (b.note (.reach networkPath)) c).2.disconnect
  | unmade (e : Problem) (f : Fault)
      (hf : (start.sweepFirst (b.note (.reach networkPath)) c).2.refusal? "CreateEventFilter" =
        some f) :
      Enters b c mailbox (.error e)
        ((start.sweepFirst (b.note (.reach networkPath)) c).2.note
          (.call networkPath "CreateEventFilter")).disconnect
  | entered (hs : b.serving = true)
      (hf : (start.sweepFirst (b.note (.reach networkPath)) c).2.refusal? "CreateEventFilter" =
        none) :
      Enters b c mailbox (.ok ⟨⟨some (pathOfFilter b.nextFilter), .empty⟩, some b.nextToken⟩)
        ((start.sweepFirst (b.note (.reach networkPath)) c).2.furnished mailbox)

theorem enter_enters (b : Bus ReplyTarget) (c : Settings) (mailbox : Nat) :
    Enters b c mailbox (enter b c mailbox).1 (enter b c mailbox).2 := by
  cases hs : b.serving with
  | false =>
    simp only [enter, Line.reach, Bus.reach, hs, Bool.false_eq_true, if_false]
    exact .unreachable _
  | true =>
    have hfurnish := furnish_start (b.note (.reach networkPath)) c mailbox hs
    have hframe := (sweepFirst_sweeps (b.note (.reach networkPath)) c).frame
    have hn : (start.sweepFirst (b.note (.reach networkPath)) c).2.nextFilter = b.nextFilter := by
      rw [hframe]; rfl
    have ht : (start.sweepFirst (b.note (.reach networkPath)) c).2.nextToken = b.nextToken := by
      rw [hframe]; rfl
    have hstart : (⟨.start, none⟩ : Presence) = start := rfl
    simp only [enter, Line.reach, Bus.reach, hs, if_true, hstart, hfurnish]
    cases (start.sweepFirst (b.note (.reach networkPath)) c).1 with
    | error e => exact .unswept e
    | ok freed =>
      cases hf : (start.sweepFirst (b.note (.reach networkPath)) c).2.refusal?
          "CreateEventFilter" with
      | some f => exact .unmade _ f hf
      | none =>
        simp only [hn, ht]
        exact .entered hs hf

/-- Sweeping first takes all filters away, unless the service refuses to free them. -/
theorem get?_filters_sweepFirst {b : Bus ReplyTarget} (hb : b.Sound)
    (hbound : b.nextFilter ≤ filterBound) (hs : b.serving = true) (c : Settings) (n : Nat) :
    (start.sweepFirst b c).2.filters.get? n =
      if c.sweepFirst = true ∧ b.refusals.get? "Free" = none then none
      else b.filters.get? n := by
  have hrefusal : b.refusal? "Free" = b.refusals.get? "Free" := by simp [refusal?, hs]
  cases hc : c.sweepFirst with
  | false => simp [sweepFirst, hc]
  | true =>
    cases hf : b.refusals.get? "Free" with
    | none =>
      have hclear := start.filters.sweep_clears hb hbound (hrefusal.trans hf) n
      simpa [sweepFirst, hc, start, FilterKeeper.start] using hclear
    | some f =>
      have hsame := (sweepFirst_sweeps b c).filters_of_refused (hrefusal.trans hf)
      simp [hsame]

end Presence

/-- Nothing is on the later bus that was not on the earlier one, and of what was there only filters
may be missing. -/
structure Bus.Withdrawn {ρ : Type} (b b' : Bus ρ) : Prop where
  filters : ∀ n ids, b'.filters.get? n = some ids → b.filters.get? n = some ids
  rest : b' = { b with filters := b'.filters, connected := b'.connected, journal := b'.journal }

theorem Bus.Sweeps.withdrawn {ρ : Type} {mayFree : Nat → Prop} {b b' : Bus ρ}
    (h : Sweeps mayFree b b') : Withdrawn b b' where
  filters n ids hn := by
    rcases h.get?_filters n with he | ⟨-, he⟩
    · exact he ▸ hn
    · rw [he] at hn; cases hn
  rest := by
    have hframe := h.frame
    have hconnected : b'.connected = b.connected := by rw [hframe]
    rw [hconnected]
    exact hframe

theorem Presence.Enters.of_error {b b' : Bus ReplyTarget} {c : Settings} {mailbox : Nat}
    {e : Problem} (h : Enters b c mailbox (.error e) b') :
    Bus.Withdrawn b b' ∧
      ∃ js, b'.journal = b.journal ++ (js ++ [.disconnect]) ∧ .disconnect ∉ js := by
  have hswept := sweepFirst_sweeps (b.note (.reach networkPath)) c
  have hlast {x : Bus ReplyTarget} {js : List JournalEntry} (hw : Bus.Withdrawn b x)
      (hjs : x.journal = b.journal ++ js) (hno : .disconnect ∉ js) :
      Bus.Withdrawn b x.disconnect ∧
        ∃ js, x.disconnect.journal = b.journal ++ (js ++ [.disconnect]) ∧ .disconnect ∉ js := by
    refine ⟨⟨hw.filters, ?_⟩, js, ?_, hno⟩
    · exact congrArg Bus.disconnect hw.rest
    · simp [Bus.disconnect, hjs]
  have hfirst : Bus.Withdrawn b (b.note (.reach networkPath)) := ⟨fun _ _ hn ↦ hn, rfl⟩
  obtain ⟨js, hjs, hall⟩ := hswept.journal
  have hw : Bus.Withdrawn b (start.sweepFirst (b.note (.reach networkPath)) c).2 :=
    ⟨hswept.withdrawn.filters, hswept.withdrawn.rest⟩
  have hno : .disconnect ∉ .reach networkPath :: js := by
    intro hmem
    rcases List.mem_cons.mp hmem with heq | hmem
    · cases heq
    · cases hall _ hmem
  have hjs' : (start.sweepFirst (b.note (.reach networkPath)) c).2.journal =
      b.journal ++ .reach networkPath :: js := by simp [hjs]
  cases h with
  | unreachable => exact hlast hfirst rfl (by simp)
  | unswept => exact hlast hw hjs' hno
  | unmade =>
    have hmade : Bus.Withdrawn b ((start.sweepFirst (b.note (.reach networkPath)) c).2.note
        (.call networkPath "CreateEventFilter")) :=
      ⟨hw.filters, congrArg (Bus.note · (.call networkPath "CreateEventFilter")) hw.rest⟩
    have hjs'' : ((start.sweepFirst (b.note (.reach networkPath)) c).2.note
        (.call networkPath "CreateEventFilter")).journal =
        b.journal ++ (.reach networkPath :: js ++ [.call networkPath "CreateEventFilter"]) := by
      simp [hjs]
    exact hlast hmade hjs'' (by simpa using hno)

/-- A session has joined a bus: a filter and a watch are there that were not there before, and the
other filters are gone if they were to be swept up and could be. -/
structure Session.Joined {κ : Type} (s : Session κ) (c : Settings) (b b' : Bus ReplyTarget) :
    Prop where
  presence : s.presence = some ⟨⟨some (pathOfFilter b.nextFilter), .empty⟩, some b.nextToken⟩
  /-- No bus that led to this one had a filter of that number. -/
  unused : ∀ b₀, Reachable b₀ → Leads b₀ b → b₀.filters.get? b.nextFilter = none
  filters : ∀ n, b'.filters.get? n =
    if b.nextFilter = n then some .empty
    else if c.sweepFirst = true ∧ b.refusals.get? "Free" = none then none
    else b.filters.get? n
  unwatched : b.watches.get? b.nextToken = none
  watches : ∀ t, b'.watches.get? t =
    if b.nextToken = t then
      some ⟨pathOfFilter b.nextFilter, filterInterface, eventSignal, .mailbox s.mailbox⟩
    else b.watches.get? t

theorem Presence.Enters.of_ok {b b' : Bus ReplyTarget} {c : Settings} {mailbox : Nat}
    {p : Presence} (hb : b.Sound) (hbound : b.nextFilter ≤ filterBound)
    (h : Enters b c mailbox (.ok p) b') :
    p = ⟨⟨some (pathOfFilter b.nextFilter), .empty⟩, some b.nextToken⟩ ∧
      (∀ n, b'.filters.get? n =
        if b.nextFilter = n then some .empty
        else if c.sweepFirst = true ∧ b.refusals.get? "Free" = none then none
        else b.filters.get? n) ∧
      ∀ t, b'.watches.get? t =
        if b.nextToken = t then
          some ⟨pathOfFilter b.nextFilter, filterInterface, eventSignal, .mailbox mailbox⟩
        else b.watches.get? t := by
  cases h with
  | entered hs =>
    have hframe := (sweepFirst_sweeps (b.note (.reach networkPath)) c).frame
    have hget := get?_filters_sweepFirst (hb.note (.reach networkPath)) hbound hs c
    have hn : (start.sweepFirst (b.note (.reach networkPath)) c).2.nextFilter = b.nextFilter := by
      rw [hframe]; rfl
    have ht : (start.sweepFirst (b.note (.reach networkPath)) c).2.nextToken = b.nextToken := by
      rw [hframe]; rfl
    have hw : (start.sweepFirst (b.note (.reach networkPath)) c).2.watches = b.watches := by
      rw [hframe]; rfl
    refine ⟨rfl, ?_, ?_⟩
    · intro n
      rw [filters_furnished, Directory.get?_insert, hn, hget n]
      rfl
    · intro t
      rw [watches_furnished, Directory.get?_insert, hn, ht, hw]

namespace Session

variable {κ : Type}

def connected (b : Bus ReplyTarget) (c : Settings) : Bus ReplyTarget :=
  { b with connected := true }.note (.connect c.scope)

theorem sound_connected {b : Bus ReplyTarget} (h : b.Sound) (c : Settings) :
    (connected b c).Sound :=
  ⟨h.1, h.2, h.3, h.4, h.5⟩

inductive Connects (h : Hub (Bus ReplyTarget) κ) (c : Settings) :
    Except Problem (Session κ) → Hub (Bus ReplyTarget) κ → Prop
  | unsettled (e : Problem) (hc : c.window = 0) : Connects h c (.error e) h
  | offline (s : Session κ) (hc : c.offline = true) : Connects h c (.ok s) h.openMailbox.2
  | refused (e : Problem) (hc : c.offline = false) (hf : h.line.connectRefusal ≠ none) :
      Connects h c (.error e) h
  | withdrawn (e : Problem) (b : Bus ReplyTarget) (hc : c.offline = false)
      (hf : h.line.connectRefusal = none)
      (hb : Presence.Enters (connected h.line c) c h.mailboxes.length (.error e) b) :
      Connects h c (.error e) { h with line := b }
  | joined (p : Presence) (b : Bus ReplyTarget) (hc : c.offline = false)
      (hf : h.line.connectRefusal = none)
      (hb : Presence.Enters (connected h.line c) c h.mailboxes.length (.ok p) b) :
      Connects h c (.ok (fresh h.mailboxes.length c (some p))) ({ h with line := b }).openMailbox.2

theorem connect_connects (h : Hub (Bus ReplyTarget) κ) (c : Settings) :
    Connects h c (connect h c).1 (connect h c).2 := by
  unfold connect
  by_cases hw : c.window = 0
  · simp only [Settings.check, if_pos hw]
    exact .unsettled _ hw
  · simp only [Settings.check, if_neg hw]
    cases hc : c.offline with
    | true =>
      simp only [if_true]
      exact .offline _ hc
    | false =>
      simp only [Bool.false_eq_true, if_false, Line.connect]
      cases hf : h.line.connectRefusal with
      | some f =>
        have hbus : (Line.bus h.line).connect c.scope = (.error f, h.line) := by
          simp [Line.bus, Bus.connect, hf]
        simp only [hbus]
        exact .refused _ hc (by simp [hf])
      | none =>
        have hbus : (Line.bus h.line).connect c.scope = (.ok (), connected h.line c) := by
          simp [Line.bus, Bus.connect, hf, connected]
        have henter := Presence.enter_enters (connected h.line c) c h.mailboxes.length
        have hwith : Line.withBus h.line (connected h.line c) = connected h.line c := rfl
        simp only [hbus, hwith]
        generalize Presence.enter (connected h.line c) c h.mailboxes.length = entered at henter ⊢
        obtain ⟨e | p, b⟩ := entered
        · exact .withdrawn e b hc hf henter
        · exact .joined p b hc hf henter

theorem Connects.swept {h h' : Hub (Bus ReplyTarget) κ} {c : Settings} {s : Session κ}
    (hc : Connects h c (.ok s) h') (hlive : c.offline = false) :
    ∃ b, Sweeps (fun n ↦ h.line.filters.contains n = true)
        ((connected h.line c).note (.reach networkPath)) b ∧
      s = fresh h.mailboxes.length c
        (some ⟨⟨some (pathOfFilter h.line.nextFilter), .empty⟩, some h.line.nextToken⟩) ∧
      h' = ({ h with line := b.furnished h.mailboxes.length }).openMailbox.2 := by
  cases hc with
  | offline _ hoff => exact absurd (hoff.symm.trans hlive) (by decide)
  | joined p b _ _ hb =>
    cases hb with
    | entered =>
      exact ⟨_, Presence.sweepFirst_sweeps ((connected h.line c).note (.reach networkPath)) c,
        rfl, rfl⟩

theorem Connects.held {h h' : Hub (Bus ReplyTarget) κ} {c : Settings}
    {r : Except Problem (Session κ)} (hc : Connects h c r h') : h'.line.held = h.line.held := by
  cases hc with
  | unsettled | offline | refused => rfl
  | withdrawn e b _ _ hb =>
    rw [show b.held = (connected h.line c).held by rw [hb.of_error.1.rest]]
    rfl
  | joined p b hc hf hb =>
    obtain ⟨b', hb', -, heq⟩ := (Connects.joined p b hc hf hb).swept hc
    have hframe := hb'.frame
    rw [heq]
    change b'.held = h.line.held
    rw [hframe]
    rfl

/-- Connecting is all or nothing: a session that could not connect leaves nothing on the bus, and
one that could has a filter of its own and a watch for it. -/
theorem connect_all_or_nothing (h : Hub (Bus ReplyTarget) κ) (c : Settings)
    (hr : h.line.Reachable) (hbound : h.line.nextFilter < filterBound) :
    (∀ e h', connect h c = (.error e, h') →
      ∃ b, h' = { h with line := b } ∧ Withdrawn h.line b ∧
        ((b = h.line ∧ (c.window = 0 ∨ h.line.connectRefusal ≠ none)) ∨
          ∃ js, b.journal = h.line.journal ++ .connect c.scope :: (js ++ [.disconnect]) ∧
            .disconnect ∉ js)) ∧
    (∀ s h', connect h c = (.ok s, h') → c.offline = false → s.Joined c h.line h'.line) ∧
    (c.offline = true → (connect h c).2.line = h.line) := by
  have hsound := hr.sound
  have hconnects := connect_connects h c
  refine ⟨?_, ?_, ?_⟩
  · intro e h' heq
    rw [heq] at hconnects
    cases hconnects with
    | unsettled _ hc => exact ⟨_, rfl, ⟨fun _ _ hn ↦ hn, rfl⟩, .inl ⟨rfl, .inl hc⟩⟩
    | refused _ hc hf => exact ⟨_, rfl, ⟨fun _ _ hn ↦ hn, rfl⟩, .inl ⟨rfl, .inr hf⟩⟩
    | withdrawn _ b hc _ hb =>
      obtain ⟨hw, js, hjs, hno⟩ := hb.of_error
      refine ⟨b, rfl, ⟨hw.filters, ?_⟩, .inr ⟨js, ?_, hno⟩⟩
      · exact hw.rest
      · rw [hjs]; simp [connected]
  · intro s h' heq hlive
    rw [heq] at hconnects
    cases hconnects with
    | offline _ hc => exact absurd (hc.symm.trans hlive) (by decide)
    | joined p b hc _ hb =>
      have hconn := sound_connected hsound c
      obtain ⟨hp, hfilters, hwatches⟩ := hb.of_ok hconn (Nat.le_of_lt hbound)
      exact {
        presence := congrArg some hp
        unused := fun b₀ hr₀ hle ↦ hr₀.sound.get?_filters_eq_none hle.nextFilter_le
        filters := hfilters
        unwatched := hsound.get?_watches_eq_none (Nat.le_refl _)
        watches := hwatches }
  · intro hoff
    generalize connect h c = connected at hconnects
    obtain ⟨r, h'⟩ := connected
    cases hconnects with
    | unsettled | offline => rfl
    | refused _ hc | withdrawn _ _ hc | joined _ _ hc =>
      exact absurd (hoff.symm.trans hc) (by decide)

def orphaned : Bus ReplyTarget := Bus.start.after .addFilter

theorem connect_beside_orphan :
    (∀ (s : Session Fuse) h', connect (.start orphaned) .default = (.ok s, h') →
      s.Joined .default orphaned h'.line) ∧
    (connect (.start orphaned : Hub _ Fuse) .default).1.toOption.isSome = true ∧
    (connect (.start orphaned : Hub _ Fuse) .default).2.line.livePaths = [pathOfFilter 1] := by
  refine ⟨?_, by decide, by decide⟩
  intro s h' heq
  have hr : orphaned.Reachable := .after _ .refl
  exact (connect_all_or_nothing (.start orphaned) .default hr (by decide)).2.1 s h' heq
    (by decide)

end Session

end RobotBus
