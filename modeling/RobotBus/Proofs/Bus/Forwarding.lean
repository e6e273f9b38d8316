import Mathlib.Data.List.Nodup
import RobotBus.Proofs.FilterKeeper

namespace RobotBus.Bus

variable {ρ : Type}

theorem mem_forwarding_iff {b : Bus ρ} (hs : b.Sound) (n : Nat) (id : EventId) :
    pathOfFilter n ∈ b.forwarding id ↔
      ∃ ids, b.filters.get? n = some ids ∧ ids.contains id = true := by
  simp only [forwarding, List.mem_map, List.mem_filter, Prod.exists]
  constructor
  · rintro ⟨k, ids, ⟨hmem, hid⟩, hpath⟩
    cases pathOfFilter_injective hpath
    exact ⟨ids, (hs.filters_sorted.get?_eq_some_iff n ids).mpr hmem, hid⟩
  · rintro ⟨ids, hids, hid⟩
    exact ⟨n, ids, ⟨(hs.filters_sorted.get?_eq_some_iff n ids).mp hids, hid⟩, rfl⟩

/-- A mailbox has one watch, and that is on one filter. -/
structure Tied (b : Bus ρ) (n token mailbox : Nat) : Prop where
  watch : b.watches.get? token =
    some ⟨pathOfFilter n, filterInterface, eventSignal, .mailbox mailbox⟩
  only : ∀ t w, b.watches.get? t = some w → w.listener = .mailbox mailbox → t = token

variable {b : Bus ρ} {n token mailbox : Nat}

theorem Tied.watches (h : b.Tied n token mailbox) (hs : b.Sound) :
    b.watches.entries.filter (fun e ↦ e.2.listener = .mailbox mailbox) =
      [(token, ⟨pathOfFilter n, filterInterface, eventSignal, .mailbox mailbox⟩)] := by
  have hsorted := hs.watches_sorted
  have hnodup : b.watches.entries.Nodup := List.Nodup.of_map _ hsorted.nodup_keys
  refine List.perm_singleton.mp ((List.perm_ext_iff_of_nodup (hnodup.filter _)
    (List.nodup_singleton _)).mpr ?_)
  intro e
  obtain ⟨t, w⟩ := e
  simp only [List.mem_filter, decide_eq_true_eq, List.mem_singleton, Prod.mk.injEq,
    ← hsorted.get?_eq_some_iff]
  constructor
  · rintro ⟨hw, hl⟩
    have ht := h.only t w hw hl
    subst ht
    rw [h.watch] at hw
    exact ⟨rfl, (Option.some.inj hw).symm⟩
  · rintro ⟨rfl, rfl⟩
    exact ⟨h.watch, rfl⟩

/-- The mailbox receives what its filter passes on, and each event once. -/
theorem Tied.count_listeners (h : b.Tied n token mailbox) (hs : b.Sound) (id : EventId) :
    (b.listeners id).count (.mailbox mailbox) =
      if pathOfFilter n ∈ b.forwarding id then 1 else 0 := by
  have hears : hears (b.forwarding id)
      ⟨pathOfFilter n, filterInterface, eventSignal, .mailbox mailbox⟩ =
        decide (pathOfFilter n ∈ b.forwarding id) := by
    simp [Bus.hears]
  have hcount : (b.listeners id).count (.mailbox mailbox) =
      ((b.watches.entries.filter (fun e ↦ e.2.listener = .mailbox mailbox)).filter
        (fun e ↦ Bus.hears (b.forwarding id) e.2)).length := by
    rw [listeners, List.count_eq_countP, List.countP_map, List.countP_eq_length_filter,
      List.filter_filter, List.filter_filter]
    congr 1
    apply List.filter_congr
    intro e _
    by_cases he : e.2.listener = .mailbox mailbox <;> simp [he]
  rw [hcount, h.watches hs]
  by_cases hid : pathOfFilter n ∈ b.forwarding id <;> simp [hears, hid]

theorem Tied.after (h : b.Tied n token mailbox) (hs : b.Sound) {d : Deed ρ}
    (hu : d ≠ .unwatch token)
    (hw : ∀ path interface signal, d ≠ .watch path interface signal (.mailbox mailbox)) :
    (b.after d).Tied n token mailbox where
  watch := by
    have hlt : token < b.nextToken :=
      hs.watch_lt token ((Directory.contains_eq_true_iff _ _).mpr ⟨_, h.watch⟩)
    rw [watches_after]
    cases d with
    | watch path interface signal listener =>
      have hne : b.nextToken ≠ token := by omega
      simp only [Directory.get?_insert, if_neg hne]
      exact h.watch
    | unwatch t =>
      have hne : t ≠ token := fun he ↦ hu (he ▸ rfl)
      simp only [Directory.get?_erase, if_neg hne]
      exact h.watch
    | connect | call | submit | disconnect | reach | listChildren | addFilter | addNode | release
    | setServing | refuseConnections | refuseMethod | clearRefusals | setHolding | clearJournal =>
      exact h.watch
  only t w hget hl := by
    rcases get?_watches_after b d hget with hold | ⟨-, rfl⟩
    · exact h.only t w hold hl
    · exact absurd (hl ▸ rfl) (hw w.path w.interface w.signal)

theorem Leads.sound {b' : Bus ρ} (h : Leads b b') (hs : b.Sound) : b'.Sound := by
  induction h with
  | refl => exact hs
  | after d _ ih => exact ih.after d

/-- What a session has on the bus: a number for its filter, a watch, and, as long as the filter is
there, the events that were asked of it. -/
structure Hosts (b : Bus ρ) (n token mailbox : Nat) (ids : EventSet) : Prop where
  number_lt : n < b.nextFilter
  tied : b.Tied n token mailbox
  numbered : ∀ id, ids.contains id = true → numberInPath? (pathOfFilter n) = some n
  learned : ∀ live, b.filters.get? n = some live →
    ∀ id, ids.contains id = true → live.contains id = true

theorem Hosts.after {ids : EventSet} (h : b.Hosts n token mailbox ids) (hs : b.Sound) {d : Deed ρ}
    (hu : d ≠ .unwatch token)
    (hw : ∀ path interface signal, d ≠ .watch path interface signal (.mailbox mailbox)) :
    (b.after d).Hosts n token mailbox ids where
  number_lt := Nat.lt_of_lt_of_le h.number_lt (nextFilter_le_after b d)
  tied := h.tied.after hs hu hw
  numbered := h.numbered
  learned live' hlive' id hid := by
    obtain ⟨live, hlive, hgrow⟩ := filters_grow_after b d h.number_lt hlive'
    exact hgrow id (h.learned live hlive id hid)

theorem Hosts.swept {ids : EventSet} {b' : Bus ρ} {mayFree : Nat → Prop}
    (h : b.Hosts n token mailbox ids) (hs : b.Sound) (hb : Sweeps mayFree b b') :
    b'.Hosts n token mailbox ids := by
  induction hb with
  | nothing => exact h
  | reach path hb ih => exact ih.after (hb.leads.sound hs) (d := .reach path) nofun nofun
  | listChildren path hb ih =>
    exact ih.after (hb.leads.sound hs) (d := .listChildren path) nofun nofun
  | free k _ hb ih =>
    exact ih.after (hb.leads.sound hs) (d := .call (pathOfFilter k) filterInterface "Free" []) nofun
      nofun

theorem Hosts.listen {ids : EventSet} (h : b.Hosts n token mailbox ids) (hs : b.Sound)
    {id : EventId} {vs : List Value} (hok : (b.listen (pathOfFilter n) id).1 = .ok vs) :
    (b.listen (pathOfFilter n) id).2.Hosts n token mailbox (ids.insert id ()) := by
  have hafter : (b.listen (pathOfFilter n) id).2.Hosts n token mailbox ids :=
    h.after hs (d := .call (pathOfFilter n) filterInterface "ListenEvent" [.uint16 id.val]) nofun
      nofun
  obtain ⟨old, hold, hfilters, hnumber⟩ := listen_of_ok hok
  refine ⟨hafter.number_lt, hafter.tied, fun _ _ ↦ hnumber, ?_⟩
  intro live hlive id' hid'
  rw [hfilters, Directory.get?_insert, if_pos rfl] at hlive
  cases hlive
  rw [Directory.contains_insert, Bool.or_eq_true, decide_eq_true_eq] at hid' ⊢
  exact hid'.imp_right (h.learned old hold id')

theorem Hosts.forwards {ids : EventSet} (h : b.Hosts n token mailbox ids) (hs : b.Sound)
    {id : EventId} (hid : ids.contains id = true) :
    (pathOfFilter n ∈ b.forwarding id ↔ pathOfFilter n ∈ b.livePaths) ∧
      (pathOfFilter n ∈ b.livePaths →
        ∃ known, b.allowed? (pathOfFilter n) = some known ∧ id ∈ known) ∧
      (pathOfFilter n ∉ b.livePaths → b.allowed? (pathOfFilter n) = none) := by
  rw [mem_forwarding_iff hs, mem_livePaths_iff, allowed?, h.numbered id hid, Option.bind_some]
  cases hlive : b.filters.get? n with
  | none => simp
  | some live =>
    have hmem := h.learned live hlive id hid
    simpa [Directory.mem_keys_iff] using hmem

/-- A filter lets the known events through, and the mailbox that watches it has no other watch. -/
structure Tuned (b : Bus ρ) (n token mailbox : Nat) (known : List EventId) : Prop where
  sound : b.Sound
  number_lt : n < b.nextFilter
  filter : ∃ ids, b.filters.get? n = some ids ∧ ∀ id, ids.contains id = true ↔ id ∈ known
  watch : b.watches.get? token =
    some ⟨pathOfFilter n, filterInterface, eventSignal, .mailbox mailbox⟩
  only : ∀ t w, b.watches.get? t = some w → w.listener = .mailbox mailbox → t = token

variable {known : List EventId}

theorem Tuned.tied (h : b.Tuned n token mailbox known) : b.Tied n token mailbox := ⟨h.watch, h.only⟩

theorem Tuned.count_listeners (h : b.Tuned n token mailbox known) (id : EventId) :
    (b.listeners id).count (.mailbox mailbox) = if id ∈ known then 1 else 0 := by
  obtain ⟨ids, hids, hknown⟩ := h.filter
  have hmem : pathOfFilter n ∈ b.forwarding id ↔ id ∈ known := by
    rw [mem_forwarding_iff h.sound, ← hknown]
    simp [hids]
  simp only [h.tied.count_listeners h.sound, hmem]

theorem Tuned.congr {known' : List EventId} (h : b.Tuned n token mailbox known)
    (he : ∀ id, id ∈ known ↔ id ∈ known') : b.Tuned n token mailbox known' where
  sound := h.sound
  number_lt := h.number_lt
  filter := by
    obtain ⟨ids, hids, hk⟩ := h.filter
    exact ⟨ids, hids, fun id ↦ (hk id).trans (he id)⟩
  watch := h.watch
  only := h.only

/-- The deeds that leave a filter, its watch and the mailbox behind it alone. -/
def Deed.Spares (n token mailbox : Nat) (d : Deed ρ) : Prop :=
  ¬ d.Calls n ∧ d ≠ .unwatch token ∧
    ∀ path interface signal, d ≠ .watch path interface signal (.mailbox mailbox)

theorem Tuned.after (h : b.Tuned n token mailbox known) {d : Deed ρ}
    (hd : d.Spares n token mailbox) : (b.after d).Tuned n token mailbox known where
  sound := h.sound.after d
  number_lt := Nat.lt_of_lt_of_le h.number_lt (nextFilter_le_after b d)
  filter := by
    rw [get?_filters_after b d h.number_lt (fun hc ↦ absurd hc hd.1)]
    exact h.filter
  watch := (h.tied.after h.sound hd.2.1 hd.2.2).watch
  only := (h.tied.after h.sound hd.2.1 hd.2.2).only

theorem Tuned.swept {b' : Bus ρ} (h : b.Tuned n token mailbox known)
    (hs : Sweeps (fun k ↦ pathOfFilter n ≠ pathOfFilter k) b b') :
    b'.Tuned n token mailbox known where
  sound := hs.leads.sound h.sound
  number_lt := Nat.lt_of_lt_of_le h.number_lt hs.leads.nextFilter_le
  filter := by
    have hsame : b'.filters.get? n = b.filters.get? n :=
      (hs.get?_filters n).resolve_right fun hn ↦ hn.1 rfl
    rw [hsame]
    exact h.filter
  watch := by
    rw [hs.frame]
    exact h.watch
  only := by
    rw [hs.frame]
    exact h.only

theorem Tuned.note (h : b.Tuned n token mailbox known) (e : JournalEntry) :
    (b.note e).Tuned n token mailbox known :=
  ⟨h.sound.note e, h.number_lt, h.filter, h.watch, h.only⟩

theorem Tuned.listen (h : b.Tuned n token mailbox known) {id : EventId} {vs : List Value}
    (hok : (b.listen (pathOfFilter n) id).1 = .ok vs) :
    (b.listen (pathOfFilter n) id).2.Tuned n token mailbox (id :: known) := by
  have hs := serve_served (b.note (.call (pathOfFilter n) "ListenEvent")) (pathOfFilter n)
    filterInterface "ListenEvent" [.uint16 id.val]
  have hw : (b.listen (pathOfFilter n) id).2.watches = b.watches := hs.watches.1
  obtain ⟨ids, hids, hinsert, -⟩ := listen_of_ok hok
  obtain ⟨ids', hids', hknown⟩ := h.filter
  cases Option.some.inj (hids.symm.trans hids')
  refine ⟨(h.sound.note _).served hs, Nat.lt_of_lt_of_le h.number_lt hs.nextFilter_le,
    ⟨ids.insert id (), ?_, ?_⟩, ?_, ?_⟩
  · simp [hinsert]
  · intro id'
    rw [Directory.contains_insert, Bool.or_eq_true, decide_eq_true_eq, hknown, List.mem_cons]
    exact or_congr_left eq_comm
  · rw [hw]; exact h.watch
  · rw [hw]; exact h.only

structure Deaf (b : Bus ρ) (mailbox : Nat) : Prop where
  sound : b.Sound
  unheard : ∀ t w, b.watches.get? t = some w → w.listener ≠ .mailbox mailbox

theorem Deaf.count_listeners (h : b.Deaf mailbox) (id : EventId) :
    (b.listeners id).count (.mailbox mailbox) = 0 := by
  apply List.count_eq_zero.mpr
  intro hmem
  obtain ⟨e, he, hl⟩ := List.mem_map.mp hmem
  have hget := (h.sound.watches_sorted.get?_eq_some_iff e.1 e.2).mpr (List.mem_filter.mp he).1
  exact h.unheard e.1 e.2 hget hl

theorem Deaf.after (h : b.Deaf mailbox) {d : Deed ρ} (hd : d.Spares n token mailbox) :
    (b.after d).Deaf mailbox where
  sound := h.sound.after d
  unheard t w hw hl := by
    rcases get?_watches_after b d hw with hold | ⟨-, rfl⟩
    · exact h.unheard t w hold hl
    · exact absurd (hl ▸ rfl) (hd.2.2 w.path w.interface w.signal)

end RobotBus.Bus
