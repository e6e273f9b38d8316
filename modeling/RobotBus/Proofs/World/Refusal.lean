import RobotBus.Proofs.Bus.Network
import RobotBus.Proofs.World.Crowd
import RobotBus.Proofs.World.Queued

namespace RobotBus

open Bus

variable {κ : Type}

/-- The operations of a session that make one request, or none, and do it on the spot. -/
def Simulation.SessionStep.Direct : Simulation.SessionStep κ → Prop
  | .sweep | .runQueued | .runBriefly | .run | .close => False
  | _ => True

namespace NodeAccess

theorem nodes_snd (b : Bus ReplyTarget) :
    (online.nodes b).2 = b.note (.call networkPath "GetNodesList") := by
  have hsnd := callNetwork_snd b "GetNodesList" []
  rw [call_nodes] at hsnd
  simp only [nodes]
  generalize callNetwork b "GetNodesList" [] = r at hsnd ⊢
  obtain ⟨_ | reply, b'⟩ := r
  · exact hsnd
  · dsimp only
    split <;> exact hsnd

theorem read_snd (b : Bus ReplyTarget) (node name : String) :
    (online.read b node name).2 = b.note (.call networkPath "GetVariable") := by
  have hsnd := callNetwork_snd b "GetVariable" [.text node, .text name]
  rw [call_read] at hsnd
  simp only [read]
  generalize callNetwork b "GetVariable" [.text node, .text name] = r at hsnd ⊢
  obtain ⟨_ | reply, b'⟩ := r
  · exact hsnd
  · dsimp only
    split <;> exact hsnd

end NodeAccess

namespace Session

variable {s s' : Session κ} {h h' : Hub (Bus ReplyTarget) κ}

/-- What is only seen to happen when it is asked of the bus, is only seen to happen when it is asked
of a session. -/
theorem seen_ask {α : Type} (s : Session κ) (h : Hub (Bus ReplyTarget) κ)
    {f : Bus ReplyTarget → Except Problem α × Bus ReplyTarget}
    (hf : ∃ js, (f h.line).2 = { h.line with journal := h.line.journal ++ js }) :
    ∃ js, (s.ask h f).2 = seen h js := by
  obtain ⟨js, hjs⟩ := hf
  unfold ask
  split
  · exact ⟨[], (seen_nil h).symm⟩
  · exact ⟨js, congrArg (fun b ↦ { h with line := b }) hjs⟩

theorem seen_nodes (s : Session κ) (h : Hub (Bus ReplyTarget) κ) :
    ∃ js, (s.nodes h).2 = seen h js := by
  apply s.seen_ask
  cases s.access with
  | offline n => exact ⟨[], congrArg Hub.line (seen_nil h).symm⟩
  | online => exact ⟨_, NodeAccess.nodes_snd h.line⟩

theorem seen_read (s : Session κ) (h : Hub (Bus ReplyTarget) κ) (node name : String) :
    ∃ js, (s.read h node name).2 = seen h js := by
  apply s.seen_ask
  cases s.access with
  | offline n => exact ⟨[], congrArg Hub.line (seen_nil h).symm⟩
  | online => exact ⟨_, NodeAccess.read_snd h.line node name⟩

theorem loadScript_of_error (ho : s.closed = false) {path : String} {p : Problem}
    (hp : (s.loadScript h path).1 = .error p) : ∃ js, (s.loadScript h path).2 = seen h js := by
  cases ha : s.access with
  | offline n => simp [loadScript, ask, ho, ha, NodeAccess.loadScript] at hp
  | online =>
    simp only [loadScript, ha] at hp ⊢
    exact ⟨_, accepted_of_error ho hp⟩

theorem loadNames_of_error {path : String} {file : StoredFile} {p : Problem}
    (hp : (s.loadNames path file).1 = .error p) : (s.loadNames path file).2 = s := by
  unfold loadNames at hp ⊢
  split
  · rfl
  · next names hnames =>
    rw [hnames] at hp
    cases hp

theorem error_of_map {α β : Type} {f : α → β} {r : Except Problem α} {p : Problem}
    (h : r.map f = .error p) : r = .error p := by
  cases r with
  | ok a => cases h
  | error e =>
    cases h
    rfl

variable [Callback κ]

theorem sessionStep_of_error (hs : s.Offline ∨ ∃ path token, s.Live path token)
    (ho : s.closed = false) {fuel : Nat} {st : Simulation.SessionStep κ} (hd : st.Direct)
    {p : Problem}
    (hr : Simulation.sessionStep fuel s h st = some (.error p, s', h')) :
    s' = s ∧ ∃ js, h' = seen h js := by
  have hnil : ∃ js, h = seen h js := ⟨[], (seen_nil h).symm⟩
  -- Of a step that leaves the session alone, only what it leaves of the hub is to be told.
  have alone {α : Type} {f : α → Simulation.Answer} {r : Except Problem α × Hub (Bus ReplyTarget) κ}
      (heq : Simulation.unchanged s f r = some (.error p, s', h'))
      (hleft : r.1 = .error p → ∃ js, r.2 = seen h js) : s' = s ∧ ∃ js, h' = seen h js := by
    obtain ⟨herr, htail⟩ := Prod.mk.inj (Option.some.inj heq)
    obtain ⟨rfl, rfl⟩ := Prod.mk.inj htail
    exact ⟨rfl, hleft (error_of_map herr)⟩
  cases st with
  | subscribe event callback =>
    obtain ⟨herr, hleft⟩ := Prod.mk.inj (Option.some.inj hr)
    have hp : (s.fulfil h (.subscribe event callback)).1 = .error p := by
      simp only [fulfil, error_of_map herr]
      rfl
    obtain ⟨hsame, hseen⟩ :=
      fulfil_of_error_of_open (q := .subscribe event callback) hs ho (by rintro ⟨⟩) hp
    have hs' : (s.subscribe h event callback).2.1 = s' := congrArg Prod.fst hleft
    have hh' : (s.subscribe h event callback).2.2 = h' := congrArg Prod.snd hleft
    exact ⟨hs'.symm.trans hsame, hh' ▸ hseen⟩
  | send event args =>
    exact alone hr fun hp ↦
      (fulfil_of_error_of_open (q := .send event args) hs ho (by rintro ⟨⟩) hp).2
  | write node name value => exact alone hr (write_of_error ho)
  | loadScript path => exact alone hr (loadScript_of_error ho)
  | nodes => exact alone hr fun _ ↦ s.seen_nodes h
  | read node name => exact alone hr fun _ ↦ s.seen_read h node name
  | locate event => exact alone hr fun _ ↦ hnil
  | rate event => exact alone hr fun _ ↦ hnil
  | loadNames path file =>
    obtain ⟨herr, htail⟩ := Prod.mk.inj (Option.some.inj hr)
    obtain ⟨rfl, rfl⟩ := Prod.mk.inj htail
    exact ⟨loadNames_of_error (error_of_map herr), hnil⟩
  | rates | names | state => cases hr
  | sweep | runQueued | runBriefly | run | close => exact hd.elim

omit [Callback κ] in
theorem subscribe_of_unasked {path : String} {token : Nat} {id : EventId}
    (hl : s.Live path token) (hask : s.asked id = false) {event : Mention} {callback : κ}
    (hid : s.locate event = .ok id) :
    (∀ p, (s.subscribe h event callback).1 = .error p →
      ∃ f, p = .refusedCall "ListenEvent" f ∧ (h.line.listen path id).1 = .error f) ∧
    (s.subscribe h event callback).2.2.line = (h.line.listen path id).2 := by
  obtain ⟨ids, hp⟩ := hl.presence
  have hids : ids.contains id = false := by simpa [asked, hp, FilterKeeper.allows] using hask
  simp only [subscribe, hl.opened, Bool.false_eq_true, if_false, hid, allow, hp,
    FilterKeeper.allow_some, hids]
  rcases h.line.listen path id with ⟨f | vs, b⟩
  · refine ⟨?_, rfl⟩
    intro p hp
    cases hp
    exact ⟨f, rfl, rfl⟩
  · refine ⟨?_, rfl⟩
    intro p hp
    cases hp

end Session

namespace Situation

variable [Callback κ] {path : String} {token : Nat} {id : EventId} {w w' : Situation κ}
  {os : List Occurrence}

theorem Stage.asked (hl : w.session.Live path token) (st : Stage path token w os w')
    (hid : .subscribed id ∉ os) (hask : w.session.asked id = false) :
    w'.session.asked id = false := by
  cases st with
  | first id' callback ids hp =>
    have hne : id ≠ id' := fun he ↦ hid (he ▸ List.mem_singleton.mpr rfl)
    simp only [Session.asked, hp, Option.any_some, FilterKeeper.allows] at hask
    simp [Session.asked, subscribed, listening, FilterKeeper.allows, Directory.contains_insert,
      hask, hne.symm]
  | close =>
    obtain ⟨ids, hp⟩ := hl.presence
    simp [Situation.close, Session.close, hl.opened, hp, Session.asked]
  | names | sweep | call | send | refused | again | take | receive => exact hask

theorem Stages.asked (h : Stages path token w os w') (hid : .subscribed id ∉ os)
    (hask : w.session.asked id = false) : w'.session.asked id = false := by
  induction h with
  | refl => exact hask
  | step _ hl st ih =>
    rw [List.mem_append, not_or] at hid
    exact st.asked hl hid.2 (ih hid.1)

def Unasked (path : String) (token : Nat) (id : EventId) (w : Situation κ) : Prop :=
  w.session.closed = true ∨ w.session.Live path token ∧ w.session.asked id = false

theorem Unasked.after (h : Unasked path token id w) (m : Move κ)
    (hid : .subscribed id ∉ w.during m) : Unasked path token id (w.after m) := by
  rcases m.own_or_other with hown | ⟨a, rfl⟩
  · rcases h with hc | ⟨hl, hask⟩
    · exact .inl (after_of_closed hc m hown).2.1
    · have hst := stages_after hl m hown
      rcases hst.live hl with hl' | hc
      · exact .inr ⟨hl', hst.asked hid hask⟩
      · exact .inl hc
  · exact h

theorem Unasked.run (h : Unasked path token id w) (ms : List (Move κ))
    (hid : .subscribed id ∉ w.history ms) : Unasked path token id (w.run ms) := by
  induction ms generalizing w with
  | nil => exact h
  | cons m ms ih =>
    rw [history, List.mem_append, not_or] at hid
    exact ih (h.after m hid.1) hid.2

end Situation

namespace Session

variable [Callback κ]

/-- In any company, an operation of an open session that fails leaves the session as it was, and
everything else too, but for what is seen to happen on the bus. If it was a subscription to a known
event, the filter was asked for the event and refused; as long as the session is open and does not
subscribe to the event, it has not asked for it, and a subscription asks the filter again. -/
theorem failing_leaves_all_as_it_was {s s' : Session κ} {h h' : Hub (Bus ReplyTarget) κ}
    {ss : List (Session κ)} (hw : Crowd h ss) (hs : s ∈ ss) (ho : s.closed = false) {fuel : Nat}
    {st : Simulation.SessionStep κ} (hd : st.Direct) {p : Problem}
    (hr : Simulation.sessionStep fuel s h st = some (.error p, s', h')) :
    s' = s ∧ s'.closed = false ∧
      (∃ js, h' = { h with line := { h.line with journal := h.line.journal ++ js } }) ∧
      ∀ event callback id, st = .subscribe event callback → s.locate event = .ok id →
        ∃ path f, s.filterPath = some path ∧ p = .refusedCall "ListenEvent" f ∧
          (h.line.call path filterInterface "ListenEvent" [.uint16 id.val]).1 = .error f ∧
          ∀ ms, .subscribed id ∉ Situation.history ⟨s', h'⟩ ms →
            let w := Situation.run ⟨s', h'⟩ ms
            w.session.closed = false →
            w.session.asked id = false ∧
            ∀ event' callback', w.session.locate event' = .ok id →
              let after := (w.session.subscribe w.hub event' callback').2.2.line
              after = (w.hub.line.call path filterInterface "ListenEvent" [.uint16 id.val]).2 ∧
              after.journal = w.hub.line.journal ++ [.call path "ListenEvent"] := by
  have hkind := (hw.sound.placed s hs).kind ho
  obtain ⟨rfl, hseen⟩ := sessionStep_of_error hkind ho hd hr
  refine ⟨rfl, ho, hseen, ?_⟩
  rintro event callback id rfl hid
  have herr : (s'.subscribe h event callback).1 = .error p :=
    error_of_map (congrArg Prod.fst (Option.some.inj hr))
  rcases hkind with hoff | ⟨path, token, hl⟩
  · -- Offline there is no filter that could refuse.
    simp [subscribe, ho, hid, allow, hoff.presence] at herr
  · obtain ⟨ids, hp⟩ := hl.presence
    have hask : s'.asked id = false := by
      by_contra hasked
      have hids : ids.contains id = true := by simpa [asked, hp, FilterKeeper.allows] using hasked
      simp [subscribe, ho, hid, allow, hp, FilterKeeper.allow_some, hids] at herr
    obtain ⟨f, rfl, hf⟩ := (subscribe_of_unasked hl hask hid).1 p herr
    refine ⟨path, f, hl.filterPath, rfl, hf, ?_⟩
    intro ms hms w hopen
    have hunasked : Situation.Unasked path token id ⟨s', h'⟩ := .inr ⟨hl, hask⟩
    rcases hunasked.run ms hms with hc | ⟨hl', hask'⟩
    · cases hopen.symm.trans hc
    · refine ⟨hask', ?_⟩
      intro event' callback' hid' after
      have hafter : after = (w.hub.line.listen path id).2 :=
        (subscribe_of_unasked hl' hask' hid').2
      refine ⟨hafter, ?_⟩
      rw [hafter]
      exact journal_call _ _ _ _ _

/-- The filter of the first session is not to be asked for events for a while. The first session
subscribes in vain meanwhile, and asks again afterwards. -/
theorem failing_leaves_all_as_it_was_of_outage :
    let f : Fault := ⟨"test.Refused", "no"⟩
    let h : Hub (Bus ReplyTarget) Fuse :=
      (Simulation.busStep firstHub (.refuseMethod "ListenEvent" f)).2
    let h' : Hub (Bus ReplyTarget) Fuse := (first.subscribe h (.byId ⟨1⟩) mute).2.2
    let w : Situation Fuse := Situation.run ⟨first, h'⟩ [.other (.bus .clearRefusals)]
    Simulation.sessionStep 0 first h (.subscribe (.byId ⟨1⟩) mute) =
        some (.error (.refusedCall "ListenEvent" f), first, h') ∧
      (∃ js, h' = { h with line := { h.line with journal := h.line.journal ++ js } }) ∧
      (w.session.subscribe w.hub (.byId ⟨1⟩) mute).2.2.line.journal =
        w.hub.line.journal ++ [.call (pathOfFilter 0) "ListenEvent"] := by
  intro f h h' w
  have hworld : World h [first] := .bus _ nofun world_first
  have hr : Simulation.sessionStep 0 first h (.subscribe (.byId ⟨1⟩) mute) =
    some (.error (.refusedCall "ListenEvent" f), first, h') := rfl
  have hd : (Simulation.SessionStep.subscribe (.byId ⟨1⟩) mute).Direct := trivial
  obtain ⟨-, -, hleft, hagain⟩ :=
    failing_leaves_all_as_it_was hworld.crowd List.mem_cons_self rfl hd hr
  obtain ⟨path, f', hpath, -, -, hasks⟩ := hagain (.byId ⟨1⟩) mute ⟨1⟩ rfl rfl
  cases hpath
  obtain ⟨-, hlater⟩ := hasks [.other (.bus .clearRefusals)] nofun rfl
  exact ⟨hr, hleft, (hlater (.byId ⟨1⟩) mute rfl).2⟩

end Session

end RobotBus
