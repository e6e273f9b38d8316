import RobotBus.Proofs.World.Crowd
import RobotBus.Proofs.World.Subscribing

namespace RobotBus

open Bus Hub

variable {κ : Type}

namespace Session

variable {s : Session κ} {h : Hub (Bus ReplyTarget) κ} {ss : List (Session κ)}

def Forwards (s : Session κ) (b : Bus ReplyTarget) (id : EventId) : Prop :=
  ∃ path, s.filterPath = some path ∧ b.Passes path id

def Watches (s : Session κ) (b : Bus ReplyTarget) : Prop :=
  ∃ p token w, s.presence = some p ∧ p.watch = some token ∧ b.watches.get? token = some w ∧
    w.listener = .mailbox s.mailbox

theorem Live.forwards_iff {n token : Nat} (hl : s.Live (pathOfFilter n) token)
    (hs : h.line.Sound) (id : EventId) :
    s.Forwards h.line id ↔ pathOfFilter n ∈ h.line.forwarding id := by
  rw [mem_forwarding_iff_passes hs, Forwards, hl.filterPath]
  simp

theorem Live.watches_iff {path : String} {token : Nat} (hl : s.Live path token) :
    s.Watches h.line ↔
      ∃ w, h.line.watches.get? token = some w ∧ w.listener = .mailbox s.mailbox := by
  obtain ⟨ids, hp⟩ := hl.presence
  simp [Watches, hp]

/-- A session hears an event once if its filter lets the event through and its watch is there, and
otherwise not at all. -/
theorem Placed.count_listeners (hp : s.Placed h) (hs : h.line.Sound) (id : EventId) :
    (s.Forwards h.line id ∧ s.Watches h.line →
      (h.line.listeners id).count (.mailbox s.mailbox) = 1) ∧
    (¬(s.Forwards h.line id ∧ s.Watches h.line) →
      (h.line.listeners id).count (.mailbox s.mailbox) = 0) := by
  cases hp with
  | closed _ hnone hd =>
    refine ⟨?_, fun _ ↦ hd.count_listeners id⟩
    rintro ⟨-, p, token, w, hp, -⟩
    exact nomatch hp.symm.trans hnone
  | offline hoff hd =>
    refine ⟨?_, fun _ ↦ hd.count_listeners id⟩
    rintro ⟨-, p, token, w, hp, -⟩
    exact nomatch hp.symm.trans hoff.presence
  | live n token hl _ hb =>
    rw [hl.forwards_iff hs, hl.watches_iff]
    constructor
    · rintro ⟨hfor, hw⟩
      rw [(hb.tied hw).count_listeners hs, if_pos hfor]
    · intro hno
      by_cases hw : ∃ w, h.line.watches.get? token = some w ∧ w.listener = .mailbox s.mailbox
      · rw [(hb.tied hw).count_listeners hs, if_neg fun hfor ↦ hno ⟨hfor, hw⟩]
      · exact (hb.deaf hs hw).count_listeners id

theorem watches_of_world [Callback κ] (hw : World h ss) (hs : s ∈ ss) (ho : s.closed = false)
    (hon : s.settings.offline = false) : s.Watches h.line := by
  have hseat := hw.sound.seated s hs
  obtain ⟨n, token, hl⟩ := hseat.live_of_open ho hon
  obtain ⟨ids, hosts⟩ := hseat.hosts hl
  exact hl.watches_iff.mpr ⟨_, hosts.tied.watch, rfl⟩

end Session

namespace Crowd

variable [Callback κ]

/-- In any company, an event is received once for each watch for events on the path of a live filter
that lets it through, and by nobody else; so many are counted, and the bus stays as it was. A
session whose own filter lets the event through finds it in its mailbox, once, unless somebody has
ended its watch, which only happens where others end watches that are not theirs; no other session
finds anything. In which order the event is received makes no difference to the mailboxes. -/
theorem emitted_to_those_who_watch {h : Hub (Bus ReplyTarget) κ} {ss : List (Session κ)}
    (hw : Crowd h ss) (id : EventId) (name : String) (values : List Word) :
    let body := eventBody id name values
    let after := (h.emit id name values).2
    ∃ heard : List (Nat × Watch),
      (heard.map Prod.fst).Nodup ∧
      (∀ t w, (t, w) ∈ heard ↔
        h.line.watches.get? t = some w ∧ w.interface = filterInterface ∧ w.signal = eventSignal ∧
          ∃ n ids, h.line.filters.get? n = some ids ∧ ids.contains id = true ∧
            w.path = pathOfFilter n) ∧
      h.emit id name values =
        (heard.length, heard.foldl (fun h e ↦ h.receive e.2.listener body) h) ∧
      event? body = some ⟨id, name, values⟩ ∧ after.line = h.line ∧
      after.log = h.log ++ heard.filterMap (fun e ↦
        match e.2.listener with
        | .log tag => some (.signal tag body)
        | .mailbox _ => none) ∧
      (∀ heard' : List (Nat × Watch), heard'.Perm heard →
        (heard'.foldl (fun h e ↦ h.receive e.2.listener body) h).mailboxes = after.mailboxes) ∧
      (∀ s ∈ ss, s.Forwards h.line id ∧ s.Watches h.line →
        after.queue s.mailbox = h.queue s.mailbox ++ [.event ⟨id, name, values⟩]) ∧
      (∀ s ∈ ss, ¬(s.Forwards h.line id ∧ s.Watches h.line) →
        after.queue s.mailbox = h.queue s.mailbox) ∧
      (World h ss → ∀ s ∈ ss, s.closed = false → s.settings.offline = false →
        s.Watches h.line) := by
  intro body after
  have hsound := hw.sound
  have hbus := hsound.reachable.settled.sound
  -- only the receivers of the watches count, so that an order of watches is one of receivers
  have hfold (es : List (Nat × Watch)) :
      es.foldl (fun h e ↦ h.receive e.2.listener body) h =
        h.receiveAll body (es.map (fun e ↦ e.2.listener)) := by
    rw [receiveAll, List.foldl_map]
  have hemit : h.emit id name values = ((h.line.hearing id).length,
      h.receiveAll body ((h.line.hearing id).map (fun e ↦ e.2.listener))) := by
    rw [← List.length_map (f := fun e : Nat × Watch ↦ e.2.listener)]
    rfl
  have hafter : after = h.receiveAll body ((h.line.hearing id).map (fun e ↦ e.2.listener)) :=
    congrArg Prod.snd hemit
  have hqueue (s : Session κ) (hs : s ∈ ss) : after.queue s.mailbox = h.queue s.mailbox ++
      List.replicate ((h.line.listeners id).count (.mailbox s.mailbox))
        (.event ⟨id, name, values⟩) :=
    h.queue_emit (hsound.mailbox_lt s hs) id name values
  refine ⟨h.line.hearing id, nodup_hearing hbus id, mem_hearing_iff hbus id, ?_, rfl, ?_, ?_, ?_,
    ?_, ?_, ?_⟩
  · rw [hemit, hfold]
  · exact (extends_emit h id name values).line
  · rw [hafter, log_receiveAll, List.filterMap_map]
    rfl
  · intro heard' hp
    rw [hfold, hafter]
    exact h.mailboxes_receiveAll_perm id name values (hp.map _)
  · intro s hs hyes
    rw [hqueue s hs, ((hsound.placed s hs).count_listeners hbus id).1 hyes]
    rfl
  · intro s hs hno
    rw [hqueue s hs, ((hsound.placed s hs).count_listeners hbus id).2 hno]
    exact List.append_nil _
  · intro hworld s hs ho hon
    exact Session.watches_of_world hworld hs ho hon

theorem emitted_to_session_and_log :
    let s : Session Fuse := Session.subscriber.1
    let h : Hub (Bus ReplyTarget) Fuse := (Simulation.busStep Session.subscriber.2
      (.watch "other" (pathOfFilter 0) filterInterface eventSignal)).2
    let after := (h.emit ⟨1⟩ "near" [5]).2
    World h [s] ∧ (h.emit ⟨1⟩ "near" [5]).1 = 2 ∧ after.line = h.line ∧
      after.queue s.mailbox = h.queue s.mailbox ++ [.event ⟨⟨1⟩, "near", [5]⟩] := by
  intro s h after
  have hworld : World h [s] :=
    .bus _ nofun (.move (.step 0 (.subscribe (.byId ⟨1⟩) Session.mute)) nofun Session.world_first)
  obtain ⟨heard, -, -, -, -, hline, -, -, hyes, -, hwatches⟩ :=
    emitted_to_those_who_watch hworld.crowd ⟨1⟩ "near" [5]
  have hforwards : s.Forwards h.line ⟨1⟩ := ⟨pathOfFilter 0, rfl, 0, _, rfl, rfl, rfl⟩
  refine ⟨hworld, rfl, hline, hyes s List.mem_cons_self ⟨hforwards, ?_⟩⟩
  exact hwatches hworld s List.mem_cons_self rfl rfl

end Crowd

end RobotBus
