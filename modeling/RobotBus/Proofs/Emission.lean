import RobotBus.Proofs.Bus.Forwarding
import RobotBus.Proofs.Hub

namespace RobotBus

variable {ρ σ κ : Type}

namespace Bus

def Passes (b : Bus ρ) (path : String) (id : EventId) : Prop :=
  ∃ n ids, b.filters.get? n = some ids ∧ ids.contains id = true ∧ path = pathOfFilter n

theorem mem_forwarding_iff_passes {b : Bus ρ} (hs : b.Sound) (path : String) (id : EventId) :
    path ∈ b.forwarding id ↔ b.Passes path id := by
  constructor
  · intro hmem
    obtain ⟨⟨n, ids⟩, -, rfl⟩ := List.mem_map.mp hmem
    obtain ⟨ids', hids, hid⟩ := (mem_forwarding_iff hs n id).mp hmem
    exact ⟨n, ids', hids, hid, rfl⟩
  · rintro ⟨n, ids, hids, hid, rfl⟩
    exact (mem_forwarding_iff hs n id).mpr ⟨ids, hids, hid⟩

/-- The watches that an event is passed on to, with their tokens. -/
def hearing (b : Bus ρ) (id : EventId) : List (Nat × Watch) :=
  b.watches.entries.filter (fun e ↦ hears (b.forwarding id) e.2)

theorem mem_hearing_iff {b : Bus ρ} (hs : b.Sound) (id : EventId) (t : Nat) (w : Watch) :
    (t, w) ∈ b.hearing id ↔
      b.watches.get? t = some w ∧ w.interface = filterInterface ∧ w.signal = eventSignal ∧
        b.Passes w.path id := by
  rw [hearing, List.mem_filter, ← hs.watches_sorted.get?_eq_some_iff,
    ← mem_forwarding_iff_passes hs]
  simp [hears, and_assoc]

theorem nodup_hearing {b : Bus ρ} (hs : b.Sound) (id : EventId) :
    ((b.hearing id).map Prod.fst).Nodup :=
  hs.watches_sorted.nodup_keys.sublist (List.filter_sublist.map Prod.fst)

/-- A mailbox has no watch but, perhaps, the one with a token, on a filter. -/
def Heeds (b : Bus ρ) (n token mailbox : Nat) : Prop :=
  ∀ t w, b.watches.get? t = some w → w.listener = .mailbox mailbox →
    t = token ∧ w = ⟨pathOfFilter n, filterInterface, eventSignal, .mailbox mailbox⟩

variable {b : Bus ρ} {n token mailbox : Nat}

theorem Heeds.tied (h : b.Heeds n token mailbox)
    (hw : ∃ w, b.watches.get? token = some w ∧ w.listener = .mailbox mailbox) :
    b.Tied n token mailbox := by
  obtain ⟨w, hget, hl⟩ := hw
  obtain ⟨-, rfl⟩ := h token w hget hl
  exact ⟨hget, fun t w hw hl ↦ (h t w hw hl).1⟩

theorem Tied.heeds (h : b.Tied n token mailbox) : b.Heeds n token mailbox := by
  intro t w hw hl
  obtain rfl := h.only t w hw hl
  exact ⟨rfl, Option.some.inj (hw.symm.trans h.watch)⟩

theorem Heeds.deaf (h : b.Heeds n token mailbox) (hs : b.Sound)
    (hw : ¬∃ w, b.watches.get? token = some w ∧ w.listener = .mailbox mailbox) :
    b.Deaf mailbox where
  sound := hs
  unheard t w hget hl := by
    obtain ⟨rfl, -⟩ := h t w hget hl
    exact hw ⟨w, hget, hl⟩

end Bus

namespace Hub

open Bus

/-- What a signal adds to the log by way of one who receives it. -/
def logged? (body : List Value) : Listener → Option (LogEntry κ)
  | .log tag => some (.signal tag body)
  | .mailbox _ => none

theorem log_receive (h : Hub σ κ) (l : Listener) (body : List Value) :
    (h.receive l body).log = h.log ++ (logged? body l).toList := by
  cases l with
  | log tag => rfl
  | mailbox n =>
    simp only [receive]
    split <;> exact (List.append_nil _).symm

theorem log_receiveAll (h : Hub σ κ) (body : List Value) (ls : List Listener) :
    (h.receiveAll body ls).log = h.log ++ ls.filterMap (logged? body) := by
  induction ls generalizing h with
  | nil => exact (List.append_nil _).symm
  | cons l ls ih =>
    have hrest := ih (h.receive l body)
    rw [receiveAll, List.foldl_cons]
    rw [receiveAll] at hrest
    rw [hrest, log_receive, List.append_assoc, List.filterMap_cons]
    cases logged? (κ := κ) body l <;> rfl

theorem mailboxes_ext {h h' : Hub σ κ} (hlen : h.mailboxes.length = h'.mailboxes.length)
    (hq : ∀ n, n < h.mailboxes.length → h.queue n = h'.queue n) : h.mailboxes = h'.mailboxes := by
  apply List.ext_getElem hlen
  intro n hn hn'
  have hqueue := hq n hn
  simpa [queue, hn, hn'] using hqueue

/-- In which order an event is received makes no difference to the mailboxes. -/
theorem mailboxes_receiveAll_perm (h : Hub σ κ) (id : EventId) (name : String)
    (values : List Word) {ls ls' : List Listener} (hp : ls.Perm ls') :
    (h.receiveAll (eventBody id name values) ls).mailboxes =
      (h.receiveAll (eventBody id name values) ls').mailboxes := by
  have hlen := (h.extends_receiveAll (eventBody id name values) ls).length
  have hlen' := (h.extends_receiveAll (eventBody id name values) ls').length
  apply mailboxes_ext (hlen.trans hlen'.symm)
  intro n hn
  rw [hlen] at hn
  rw [queue_receiveAll h hn, queue_receiveAll h hn, hp.count_eq]

end Hub

end RobotBus
