import RobotBus.Proofs.World.Basic

namespace RobotBus

open Bus

variable {κ : Type}

namespace Session

def asked (s : Session κ) (id : EventId) : Bool := s.presence.any (fun p ↦ p.filters.allows id)

variable {s s' : Session κ} {h h' : Hub (Bus ReplyTarget) κ} {event : Mention} {callback : κ}
  {id : EventId}

theorem queue_emit_of_hosts {n token : Nat} {ids : EventSet}
    (hb : h.line.Hosts n token s.mailbox ids) (hs : h.line.Sound) (hid : ids.contains id = true)
    (hm : s.mailbox < h.mailboxes.length) (name : String) (values : List Word) :
    (h.emit id name values).2.queue s.mailbox = h.queue s.mailbox ++
      if pathOfFilter n ∈ h.line.livePaths then [.event ⟨id, name, values⟩] else [] := by
  rw [Hub.queue_emit h hm, hb.tied.count_listeners hs]
  simp only [(hb.forwards hs hid).1]
  split <;> rfl

theorem subscribed_of_ok {n token : Nat} {ids : EventSet} (ho : s.closed = false)
    (hp : s.presence = some ⟨⟨some (pathOfFilter n), ids⟩, some token⟩)
    (hb : h.line.Hosts n token s.mailbox ids) (hs : h.line.Sound)
    (hok : s.subscribe h event callback = (.ok id, s', h')) :
    ∃ ids', s'.presence = some ⟨⟨some (pathOfFilter n), ids'⟩, some token⟩ ∧
      ids'.contains id = true ∧ h'.line.Hosts n token s.mailbox ids' ∧ h'.line.Sound ∧
      (ids.contains id = true ∧ h'.line = h.line ∨
        ids.contains id = false ∧ pathOfFilter n ∈ h'.line.livePaths) := by
  have hsub := Situation.subscribe_subscribes (w := ⟨s, h⟩) ho hp event callback
  rw [hok] at hsub
  generalize hw : (⟨s', h'⟩ : Situation κ) = w' at hsub
  cases hsub with
  | again _ hid =>
    cases hw
    exact ⟨ids, hp, hid, hb, hs, .inl ⟨hid, rfl⟩⟩
  | first _ hid vs hlisten =>
    cases hw
    have hafter := hs.after (.call (pathOfFilter n) filterInterface "ListenEvent" [.uint16 id.val])
    refine ⟨ids.insert id (), rfl, ?_, hb.listen hs hlisten, hafter, .inr ⟨hid, ?_⟩⟩
    · rw [Directory.contains_insert]
      simp
    · obtain ⟨old, -, hfilters, -⟩ := listen_of_ok hlisten
      rw [mem_livePaths_iff]
      change (h.line.listen (pathOfFilter n) id).2.filters.get? n ≠ none
      rw [hfilters, Directory.get?_insert, if_pos rfl]
      exact Option.some_ne_none _

variable [Callback κ]

/-- In any company, an event that a live session has subscribed to is passed on to it, unless the
session had asked for the event before and its filter has been freed since: asking again then
succeeds, but does not reach the bus, and nothing is passed on. -/
theorem subscribed_is_forwarded {ss : List (Session κ)} {g : Hub (Bus ReplyTarget) κ}
    (hw : World h ss) (hs : s ∈ ss) (ho : s.closed = false) (hon : s.settings.offline = false)
    (hg : g = h ∨ h.take s.mailbox = some (.request (.subscribe event callback), g))
    (hok : s.subscribe g event callback = (.ok id, s', h')) :
    ∃ path, s.filterPath = some path ∧ s'.filterPath = some path ∧
      (path ∈ h'.line.livePaths ↔ s.asked id = false ∨ path ∈ h.line.livePaths) ∧
      (path ∈ h'.line.livePaths →
        (∃ known, h'.line.allowed? path = some known ∧ id ∈ known) ∧
        ∀ name values, (h'.emit id name values).2.queue s.mailbox =
          h'.queue s.mailbox ++ [.event ⟨id, name, values⟩]) ∧
      (path ∉ h'.line.livePaths →
        h'.line = h.line ∧ h'.line.allowed? path = none ∧
        ∀ name values, (h'.emit id name values).2.queue s.mailbox = h'.queue s.mailbox) := by
  have hsound := hw.sound
  have hlt := hsound.mailbox_lt s hs
  obtain ⟨hline, hlength⟩ : g.line = h.line ∧ g.mailboxes.length = h.mailboxes.length := by
    rcases hg with rfl | ht
    · exact ⟨rfl, rfl⟩
    · exact ⟨(Hub.queue_of_take ht).2.1, (Hub.queue_of_take ht).2.2.2⟩
  cases hsound.seated s hs with
  | closed hc => exact nomatch ho.symm.trans hc
  | offline hoff => exact nomatch hon.symm.trans hoff.offline
  | live n token ids _ _ hp hb =>
    have hbus := hsound.reachable.settled.sound
    obtain ⟨ids', hp', hid, hb', hbus', hcase⟩ :=
      subscribed_of_ok ho hp (hline ▸ hb) (hline ▸ hbus) hok
    have hmailboxes := (s.subscribe_frame g event callback).2.2.2
    rw [hok] at hmailboxes
    have hlt' : s.mailbox < h'.mailboxes.length := by
      rw [hmailboxes, hlength]
      exact hlt
    obtain ⟨-, hallowed, hnone⟩ := hb'.forwards hbus' hid
    have hemit := queue_emit_of_hosts hb' hbus' hid hlt'
    have hasked : s.asked id = ids.contains id := by
      simp [asked, hp, FilterKeeper.allows]
    refine ⟨pathOfFilter n, by rw [filterPath, hp]; rfl, by rw [filterPath, hp']; rfl, ?_, ?_, ?_⟩
    · rw [hasked]
      rcases hcase with ⟨hbefore, hsame⟩ | ⟨hbefore, hlive⟩
      · simp [hbefore, hsame, hline]
      · simp [hbefore, hlive]
    · intro hlive
      simp only [if_pos hlive] at hemit
      exact ⟨hallowed hlive, hemit⟩
    · intro hgone
      simp only [if_neg hgone, List.append_nil] at hemit
      refine ⟨?_, hnone hgone, hemit⟩
      rcases hcase with ⟨-, hsame⟩ | ⟨-, hlive⟩
      · exact hsame.trans hline
      · exact absurd hlive hgone

def mute : Fuse := ⟨"mute", none, none, 0⟩

theorem world_first : World (firstHub : Hub (Bus ReplyTarget) Fuse) [first] :=
  .connect .default .start connect_first

def subscriber : Session Fuse × Hub (Bus ReplyTarget) Fuse :=
  (first.subscribe firstHub (.byId ⟨1⟩) mute).2

theorem subscribed_is_forwarded_first :
    first.subscribe firstHub (.byId ⟨1⟩) mute = (.ok ⟨1⟩, subscriber.1, subscriber.2) ∧
      (subscriber.2.emit ⟨1⟩ "near" [5]).2.queue 0 = [.event ⟨⟨1⟩, "near", [5]⟩] := by
  have hok : first.subscribe firstHub (.byId ⟨1⟩) mute = (.ok ⟨1⟩, subscriber.1, subscriber.2) :=
    rfl
  obtain ⟨path, -, -, hlive, hforward, -⟩ := subscribed_is_forwarded world_first
    List.mem_cons_self rfl rfl (.inl rfl) hok
  obtain ⟨-, hemit⟩ := hforward (hlive.mpr (.inl rfl))
  exact ⟨hok, hemit "near" [5]⟩

/-- Another session connects and frees the filters that it finds. The first one subscribes again,
with success, and no event reaches it. -/
theorem subscribed_in_vain :
    ∃ (other s' : Session Fuse) (h h' : Hub (Bus ReplyTarget) Fuse),
      connect subscriber.2 .default = (.ok other, h) ∧ World h [other, subscriber.1] ∧
      subscriber.1.closed = false ∧ subscriber.1.settings.offline = false ∧
      subscriber.1.subscribe h (.byId ⟨1⟩) mute = (.ok ⟨1⟩, s', h') ∧
      s'.filterPath = some (pathOfFilter 0) ∧ pathOfFilter 0 ∉ h'.line.livePaths ∧
      h'.line.allowed? (pathOfFilter 0) = none ∧
      (h'.emit ⟨1⟩ "near" [5]).2.queue s'.mailbox = [] := by
  have hworld : World subscriber.2 [subscriber.1] :=
    .move (.step 0 (.subscribe (.byId ⟨1⟩) mute)) nofun world_first
  refine ⟨_, _, _, _, rfl, ?_, rfl, rfl, rfl, rfl, by decide, by decide, rfl⟩
  exact .connect .default hworld rfl

end Session

end RobotBus
