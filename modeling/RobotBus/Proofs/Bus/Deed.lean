import Mathlib.Data.List.Basic
import Mathlib.Order.Nat
import RobotBus.Proofs.Bus.Grant
import RobotBus.Proofs.Bus.Path

namespace RobotBus.Bus

variable {ρ : Type}

@[simp] theorem journal_note (b : Bus ρ) (e : JournalEntry) :
    (b.note e).journal = b.journal ++ [e] := rfl

@[simp] theorem filters_note (b : Bus ρ) (e : JournalEntry) : (b.note e).filters = b.filters := rfl

@[simp] theorem watches_note (b : Bus ρ) (e : JournalEntry) : (b.note e).watches = b.watches := rfl

@[simp] theorem held_note (b : Bus ρ) (e : JournalEntry) : (b.note e).held = b.held := rfl

/-- The kinds of change that a call can make, whatever its arguments. Only the two methods of a
filter that is live touch the filters that there are. -/
inductive Served (b : Bus ρ) (path interface method : String) : Reply → Bus ρ → Prop
  | refused (f : Fault) : Served b path interface method (.error f) b
  | answered (vs : List Value) : Served b path interface method (.ok vs) b
  | wrote (ns : List Node) : Served b path interface method (.ok []) { b with nodes := ns }
  | made : Served b path interface method (.ok [.path b.addFilter.1]) b.addFilter.2
  | sent (id : EventId) (ws : List Word) (hi : interface = networkInterface)
      (hm : method = "SendEvent") :
      Served b path interface method (.ok []) { b with sent := b.sent ++ [(id, ws)] }
  | loaded (file : String) :
      Served b path interface method (.ok []) { b with scripts := b.scripts ++ [file] }
  | allowed (n : Nat) (id : EventId) (ids : EventSet) (hi : interface = filterInterface)
      (hn : numberInPath? path = some n) (hids : b.filters.get? n = some ids) :
      Served b path interface method (.ok [])
        { b with filters := b.filters.insert n (ids.insert id ()) }
  | freed (n : Nat) (hi : interface = filterInterface) (hn : numberInPath? path = some n)
      (hm : method = "Free") :
      Served b path interface method (.ok []) { b with filters := b.filters.erase n }

theorem Granted.served {b b' : Bus ρ} {path interface method : String} {args vs : List Value}
    (h : Granted b path interface method args vs b') :
    Served b path interface method (.ok vs) b' := by
  cases h with
  | listed | read => exact .answered _
  | wrote => exact .wrote _
  | made => exact .made
  | sent id ws => exact .sent id ws rfl rfl
  | loaded file => exact .loaded file
  | allowed id more hn hids => exact .allowed _ id _ rfl hn hids
  | freed args hn => exact .freed _ rfl hn rfl

theorem Outcome.served {b b' : Bus ρ} {path interface method : String} {args : List Value}
    {r : Reply} (h : Outcome b path interface method args r b') :
    Served b path interface method r b' := by
  cases h with
  | refused f => exact .refused f
  | granted h => exact h.served

theorem serve_served (b : Bus ρ) (path interface method : String) (args : List Value) :
    Served b path interface method (b.serve path interface method args).1
      (b.serve path interface method args).2 :=
  (b.serve_outcome path interface method args).served

theorem call_of_error {b : Bus ρ} {path interface method : String} {args : List Value} {f : Fault}
    (h : (b.call path interface method args).1 = .error f) :
    (b.call path interface method args).2 = b.note (.call path method) :=
  serve_of_error h

/-- Whatever is done to a bus, by a client or from outside. -/
inductive Deed (ρ : Type)
  | connect (scope : Scope)
  | disconnect
  | reach (path : String)
  | call (path interface method : String) (args : List Value)
  | submit (path interface method : String) (args : List Value) (target : ρ)
  | watch (path interface signal : String) (listener : Listener)
  | unwatch (token : Nat)
  | listChildren (path : String)
  | addFilter
  | addNode (name : String) (values : List (String × List Word))
  | release
  | setServing (serving : Bool)
  | refuseConnections (f : Fault)
  | refuseMethod (method : String) (f : Fault)
  | clearRefusals
  | setHolding (holding : Bool)
  | clearJournal

def after (b : Bus ρ) : Deed ρ → Bus ρ
  | .connect scope => (b.connect scope).2
  | .disconnect => b.disconnect
  | .reach path => (b.reach path).2
  | .call path interface method args => (b.call path interface method args).2
  | .submit path interface method args target => (b.submit path interface method args target).2
  | .watch path interface signal listener => (b.watch path interface signal listener).2
  | .unwatch token => b.unwatch token
  | .listChildren path => (b.listChildren path).2
  | .addFilter => b.addFilter.2
  | .addNode name values => b.addNode name values
  | .release => b.release.2
  | .setServing serving => b.setServing serving
  | .refuseConnections f => b.refuseConnections f
  | .refuseMethod method f => b.refuseMethod method f
  | .clearRefusals => b.clearRefusals
  | .setHolding holding => b.setHolding holding
  | .clearJournal => b.clearJournal

inductive Leads (b : Bus ρ) : Bus ρ → Prop
  | refl : Leads b b
  | after {b' : Bus ρ} (d : Deed ρ) : Leads b b' → Leads b (b'.after d)

/-- A bus on which anything may have happened since it was started. -/
def Reachable (b : Bus ρ) : Prop := Leads .start b

structure Sound (b : Bus ρ) : Prop where
  filters_sorted : b.filters.Sorted
  filter_lt : ∀ n, b.filters.contains n = true → n < b.nextFilter
  had_filter : b.hadFilter = decide (0 < b.nextFilter)
  watches_sorted : b.watches.Sorted
  watch_lt : ∀ t, b.watches.contains t = true → t < b.nextToken

theorem sound_start : (start : Bus ρ).Sound :=
  ⟨Directory.sorted_empty, by simp [start], rfl, Directory.sorted_empty, by simp [start]⟩

theorem Sound.addFilter {b : Bus ρ} (h : b.Sound) : b.addFilter.2.Sound where
  filters_sorted := h.filters_sorted.insert _ _
  filter_lt n hn := by
    simp only [Bus.addFilter, Directory.contains_insert, Bool.or_eq_true, decide_eq_true_eq] at hn ⊢
    rcases hn with rfl | hn
    · exact Nat.lt_succ_self _
    · exact Nat.lt_succ_of_lt (h.filter_lt n hn)
  had_filter := by simp [Bus.addFilter]
  watches_sorted := h.watches_sorted
  watch_lt := h.watch_lt

theorem Sound.served {b b' : Bus ρ} {path interface method : String} {r : Reply} (h : b.Sound)
    (hs : Served b path interface method r b') : b'.Sound := by
  cases hs with
  | refused | answered => exact h
  | wrote | sent | loaded => exact ⟨h.1, h.2, h.3, h.4, h.5⟩
  | made => exact h.addFilter
  | allowed n id ids hi hn hids =>
    refine ⟨h.filters_sorted.insert _ _, ?_, h.had_filter, h.4, h.5⟩
    intro k hk
    simp only [Directory.contains_insert, Bool.or_eq_true, decide_eq_true_eq] at hk
    rcases hk with rfl | hk
    · exact h.filter_lt n ((Directory.contains_eq_true_iff _ _).mpr ⟨ids, hids⟩)
    · exact h.filter_lt k hk
  | freed n =>
    refine ⟨h.filters_sorted.erase _, fun k hk ↦ h.filter_lt k ?_, h.had_filter, h.4, h.5⟩
    rw [Directory.contains_erase, Bool.and_eq_true] at hk
    exact hk.2

theorem Sound.note {b : Bus ρ} (h : b.Sound) (e : JournalEntry) : (b.note e).Sound :=
  ⟨h.1, h.2, h.3, h.4, h.5⟩

theorem Sound.watch {b : Bus ρ} (h : b.Sound) (path interface signal : String)
    (listener : Listener) : (b.watch path interface signal listener).2.Sound where
  filters_sorted := h.filters_sorted
  filter_lt := h.filter_lt
  had_filter := h.had_filter
  watches_sorted := h.watches_sorted.insert _ _
  watch_lt t ht := by
    simp only [Bus.watch, Directory.contains_insert, Bool.or_eq_true, decide_eq_true_eq]
      at ht ⊢
    rcases ht with rfl | ht
    · exact Nat.lt_succ_self _
    · exact Nat.lt_succ_of_lt (h.watch_lt t ht)

theorem Sound.unwatch {b : Bus ρ} (h : b.Sound) (token : Nat) : (b.unwatch token).Sound where
  filters_sorted := h.filters_sorted
  filter_lt := h.filter_lt
  had_filter := h.had_filter
  watches_sorted := h.watches_sorted.erase _
  watch_lt t ht := by
    simp only [Bus.unwatch, Directory.contains_erase, Bool.and_eq_true] at ht
    exact h.watch_lt t ht.2

theorem Sound.after {b : Bus ρ} (h : b.Sound) (d : Deed ρ) : (b.after d).Sound := by
  cases d with
  | connect scope =>
    simp only [Bus.after, Bus.connect]
    split
    · exact h
    · exact ⟨h.1, h.2, h.3, h.4, h.5⟩
  | call path interface method args => exact (h.note _).served (serve_served ..)
  | submit path interface method args target =>
    have hs := (h.note (.submit path method)).served (serve_served _ path interface method args)
    simp only [Bus.after, Bus.submit]
    split
    · exact ⟨hs.1, hs.2, hs.3, hs.4, hs.5⟩
    · exact hs
  | watch path interface signal listener => exact h.watch ..
  | unwatch token => exact h.unwatch token
  | addFilter => exact h.addFilter
  | disconnect | reach | listChildren | addNode | release | setServing | refuseConnections
  | refuseMethod | clearRefusals | setHolding | clearJournal => exact ⟨h.1, h.2, h.3, h.4, h.5⟩

theorem Reachable.sound {b : Bus ρ} (h : b.Reachable) : b.Sound := by
  induction h with
  | refl => exact sound_start
  | after d _ ih => exact ih.after d

theorem Served.nextFilter_le {b b' : Bus ρ} {path interface method : String} {r : Reply}
    (h : Served b path interface method r b') : b.nextFilter ≤ b'.nextFilter := by
  cases h with
  | made => exact Nat.le_succ _
  | refused | answered | wrote | sent | loaded | allowed | freed => exact Nat.le_refl _

theorem nextFilter_le_after (b : Bus ρ) (d : Deed ρ) : b.nextFilter ≤ (b.after d).nextFilter := by
  cases d with
  | connect scope =>
    simp only [after, connect]
    split <;> exact Nat.le_refl _
  | call path interface method args =>
    exact (serve_served (b.note (.call path method)) path interface method args).nextFilter_le
  | submit path interface method args target =>
    have h := (serve_served (b.note (.submit path method)) path interface method args).nextFilter_le
    simp only [after, submit]
    split <;> exact h
  | addFilter => exact Nat.le_succ _
  | disconnect | reach | watch | unwatch | listChildren | addNode | release | setServing
  | refuseConnections | refuseMethod | clearRefusals | setHolding | clearJournal =>
    exact Nat.le_refl _

theorem Leads.nextFilter_le {b b' : Bus ρ} (h : Leads b b') : b.nextFilter ≤ b'.nextFilter := by
  induction h with
  | refl => exact Nat.le_refl _
  | after d _ ih => exact ih.trans (nextFilter_le_after _ d)

theorem Served.watches {b b' : Bus ρ} {path interface method : String} {r : Reply}
    (h : Served b path interface method r b') :
    b'.watches = b.watches ∧ b'.nextToken = b.nextToken := by
  cases h <;> exact ⟨rfl, rfl⟩

theorem watches_after (b : Bus ρ) (d : Deed ρ) :
    (b.after d).watches =
      match d with
      | .watch path interface signal listener =>
        b.watches.insert b.nextToken ⟨path, interface, signal, listener⟩
      | .unwatch token => b.watches.erase token
      | _ => b.watches := by
  cases d with
  | connect scope =>
    simp only [after, connect]
    split <;> rfl
  | call path interface method args =>
    exact (serve_served (b.note (.call path method)) path interface method args).watches.1
  | submit path interface method args target =>
    have h := (serve_served (b.note (.submit path method)) path interface method args).watches.1
    simp only [after, submit]
    split <;> exact h
  | disconnect | reach | watch | unwatch | listChildren | addFilter | addNode | release
  | setServing | refuseConnections | refuseMethod | clearRefusals | setHolding | clearJournal =>
    rfl

theorem get?_watches_after (b : Bus ρ) (d : Deed ρ) {t : Nat} {w : Watch}
    (h : (b.after d).watches.get? t = some w) :
    b.watches.get? t = some w ∨
      t = b.nextToken ∧ d = .watch w.path w.interface w.signal w.listener := by
  rw [watches_after] at h
  cases d with
  | watch path interface signal listener =>
    simp only [Directory.get?_insert] at h
    split_ifs at h with ht
    · cases Option.some.inj h
      exact .inr ⟨ht.symm, rfl⟩
    · exact .inl h
  | unwatch token =>
    simp only [Directory.get?_erase] at h
    split_ifs at h
    exact .inl h
  | connect | call | submit | disconnect | reach | listChildren | addFilter | addNode | release
  | setServing | refuseConnections | refuseMethod | clearRefusals | setHolding | clearJournal =>
    exact .inl h

theorem nextToken_le_after (b : Bus ρ) (d : Deed ρ) : b.nextToken ≤ (b.after d).nextToken := by
  cases d with
  | connect scope =>
    simp only [after, connect]
    split <;> exact Nat.le_refl _
  | call path interface method args =>
    exact (serve_served (b.note (.call path method)) path interface method args).watches.2.ge
  | submit path interface method args target =>
    have h := (serve_served (b.note (.submit path method)) path interface method args).watches.2.ge
    simp only [after, submit]
    split <;> exact h
  | watch => exact Nat.le_succ _
  | disconnect | reach | unwatch | listChildren | addFilter | addNode | release | setServing
  | refuseConnections | refuseMethod | clearRefusals | setHolding | clearJournal =>
    exact Nat.le_refl _

theorem Leads.nextToken_le {b b' : Bus ρ} (h : Leads b b') : b.nextToken ≤ b'.nextToken := by
  induction h with
  | refl => exact Nat.le_refl _
  | after d _ ih => exact ih.trans (nextToken_le_after _ d)

theorem Leads.trans {b b' b'' : Bus ρ} (h : Leads b b') (h' : Leads b' b'') : Leads b b'' := by
  induction h' with
  | refl => exact h
  | after d _ ih => exact .after d ih

def Deed.Calls (n : Nat) : Deed ρ → Prop
  | .call path interface _ _ => interface = filterInterface ∧ numberInPath? path = some n
  | .submit path interface _ _ _ => interface = filterInterface ∧ numberInPath? path = some n
  | _ => False

/-- A filter is as it was unless one of its methods is called; one that is gone stays gone. -/
theorem Served.get?_filters {b b' : Bus ρ} {path interface method : String} {r : Reply}
    (h : Served b path interface method r b') {n : Nat} (hn : n < b.nextFilter)
    (hc : interface = filterInterface ∧ numberInPath? path = some n → b.filters.get? n = none) :
    b'.filters.get? n = b.filters.get? n := by
  cases h with
  | refused | answered | wrote | sent | loaded => rfl
  | made =>
    have hne : b.nextFilter ≠ n := by omega
    simp [Bus.addFilter, hne]
  | allowed k id ids hi hk hids =>
    have hne : k ≠ n := by
      rintro rfl
      rw [hc ⟨hi, hk⟩] at hids
      cases hids
    simp [hne]
  | freed k hi hk hm =>
    by_cases hne : k = n
    · subst hne
      simp [hc ⟨hi, hk⟩]
    · simp [hne]

theorem get?_filters_after (b : Bus ρ) (d : Deed ρ) {n : Nat} (hn : n < b.nextFilter)
    (hc : d.Calls n → b.filters.get? n = none) :
    (b.after d).filters.get? n = b.filters.get? n := by
  cases d with
  | connect scope =>
    simp only [after, connect]
    split <;> rfl
  | call path interface method args =>
    exact (serve_served (b.note (.call path method)) path interface method args).get?_filters hn hc
  | submit path interface method args target =>
    have h := (serve_served (b.note (.submit path method)) path interface method args).get?_filters
      hn hc
    simp only [after, submit]
    split <;> exact h
  | addFilter =>
    have hne : b.nextFilter ≠ n := by omega
    simp [after, addFilter, hne]
  | disconnect | reach | watch | unwatch | listChildren | addNode | release | setServing
  | refuseConnections | refuseMethod | clearRefusals | setHolding | clearJournal => rfl

theorem Served.filters_grow {b b' : Bus ρ} {path interface method : String} {r : Reply}
    (h : Served b path interface method r b') {n : Nat} (hn : n < b.nextFilter) {live' : EventSet}
    (hlive : b'.filters.get? n = some live') :
    ∃ live, b.filters.get? n = some live ∧
      ∀ id, live.contains id = true → live'.contains id = true := by
  cases h with
  | refused | answered | wrote | sent | loaded => exact ⟨live', hlive, fun _ hid ↦ hid⟩
  | made =>
    have hne : b.nextFilter ≠ n := by omega
    simp only [Bus.addFilter, Directory.get?_insert, if_neg hne] at hlive
    exact ⟨live', hlive, fun _ hid ↦ hid⟩
  | allowed k id ids hi hk hids =>
    rw [Directory.get?_insert] at hlive
    split_ifs at hlive with hkn
    · subst hkn
      cases hlive
      refine ⟨ids, hids, fun id' hid' ↦ ?_⟩
      rw [Directory.contains_insert, hid', Bool.or_true]
    · exact ⟨live', hlive, fun _ hid ↦ hid⟩
  | freed k hi hk hm =>
    rw [Directory.get?_erase] at hlive
    split_ifs at hlive
    exact ⟨live', hlive, fun _ hid ↦ hid⟩

theorem filters_grow_after (b : Bus ρ) (d : Deed ρ) {n : Nat} (hn : n < b.nextFilter)
    {live' : EventSet} (hlive : (b.after d).filters.get? n = some live') :
    ∃ live, b.filters.get? n = some live ∧
      ∀ id, live.contains id = true → live'.contains id = true := by
  by_cases hc : d.Calls n
  · cases d with
    | call path interface method args =>
      exact (serve_served (b.note (.call path method)) path interface method args).filters_grow hn
        hlive
    | submit path interface method args target =>
      have h := serve_served (b.note (.submit path method)) path interface method args
      simp only [after, submit] at hlive
      split at hlive <;> exact h.filters_grow hn hlive
    | connect | disconnect | reach | watch | unwatch | listChildren | addFilter | addNode | release
    | setServing | refuseConnections | refuseMethod | clearRefusals | setHolding | clearJournal =>
      cases hc
  · rw [get?_filters_after b d hn (fun h ↦ absurd h hc)] at hlive
    exact ⟨live', hlive, fun _ hid ↦ hid⟩

theorem Leads.get?_filters_eq_none {b b' : Bus ρ} (h : Leads b b') {n : Nat}
    (hn : n < b.nextFilter) (hnone : b.filters.get? n = none) : b'.filters.get? n = none := by
  induction h with
  | refl => exact hnone
  | after d h ih =>
    rw [get?_filters_after _ d (Nat.lt_of_lt_of_le hn h.nextFilter_le) (fun _ ↦ ih), ih]

theorem Leads.get?_watches_eq_none {b b' : Bus ρ} (h : Leads b b') {t : Nat}
    (ht : t < b.nextToken) (hnone : b.watches.get? t = none) : b'.watches.get? t = none := by
  induction h with
  | refl => exact hnone
  | @after b' d h ih =>
    cases hw : (b'.after d).watches.get? t with
    | none => rfl
    | some w =>
      have hle := h.nextToken_le
      rcases get?_watches_after b' d hw with hold | ⟨rfl, -⟩
      · rw [ih] at hold
        cases hold
      · omega

theorem mem_livePaths_iff (b : Bus ρ) (n : Nat) :
    pathOfFilter n ∈ b.livePaths ↔ b.filters.get? n ≠ none := by
  rw [livePaths, List.mem_map_of_injective pathOfFilter_injective, Directory.mem_keys_iff]
  exact Option.isSome_iff_ne_none

theorem Served.held {b b' : Bus ρ} {path interface method : String} {r : Reply}
    (h : Served b path interface method r b') : b'.held = b.held ∧ b'.holding = b.holding := by
  cases h <;> exact ⟨rfl, rfl⟩

theorem mem_held_after (b : Bus ρ) (d : Deed ρ) {e : ρ × Reply} (he : e ∈ (b.after d).held) :
    e ∈ b.held ∨ ∃ path interface method args, d = .submit path interface method args e.1 := by
  cases d with
  | connect scope =>
    simp only [after, connect] at he
    split at he <;> exact .inl he
  | call path interface method args =>
    have h := (serve_served (b.note (.call path method)) path interface method args).held.1
    exact .inl (h ▸ he)
  | submit path interface method args target =>
    have h := (serve_served (b.note (.submit path method)) path interface method args).held.1
    simp only [after, submit] at he
    split at he
    · rw [h] at he
      rcases List.mem_append.mp he with he | he
      · exact .inl he
      · cases List.mem_singleton.mp he
        exact .inr ⟨path, interface, method, args, rfl⟩
    · exact .inl (h ▸ he)
  | release => cases he
  | disconnect | reach | watch | unwatch | listChildren | addFilter | addNode | setServing
  | refuseConnections | refuseMethod | clearRefusals | setHolding | clearJournal => exact .inl he

theorem held_call (b : Bus ρ) (path interface method : String) (args : List Value) :
    (b.call path interface method args).2.held = b.held :=
  (serve_served (b.note (.call path method)) path interface method args).held.1

theorem held_after_eq (b : Bus ρ) {d : Deed ρ}
    (hs : ∀ path interface method args target, d ≠ .submit path interface method args target)
    (hr : d ≠ .release) : (b.after d).held = b.held := by
  cases d with
  | connect scope =>
    simp only [after, connect]
    split <;> rfl
  | call path interface method args => exact held_call b path interface method args
  | submit path interface method args target =>
    exact absurd rfl (hs path interface method args target)
  | release => exact absurd rfl hr
  | disconnect | reach | watch | unwatch | listChildren | addFilter | addNode | setServing
  | refuseConnections | refuseMethod | clearRefusals | setHolding | clearJournal => rfl

theorem Served.sent_eq {b b' : Bus ρ} {path interface method : String} {r : Reply}
    (h : Served b path interface method r b')
    (hne : interface ≠ networkInterface ∨ method ≠ "SendEvent") : b'.sent = b.sent := by
  cases h with
  | sent id ws hi hm => exact (hne.elim (· hi) (· hm)).elim
  | refused | answered | wrote | made | loaded | allowed | freed => rfl

theorem sent_call (b : Bus ρ) (path : String) {interface method : String} (args : List Value)
    (hne : interface ≠ networkInterface ∨ method ≠ "SendEvent") :
    (b.call path interface method args).2.sent = b.sent :=
  (serve_served (b.note (.call path method)) path interface method args).sent_eq hne

theorem Served.sent_grows {b b' : Bus ρ} {path interface method : String} {r : Reply}
    (h : Served b path interface method r b') : b.sent <+: b'.sent := by
  cases h with
  | sent id ws => exact List.prefix_append _ _
  | refused | answered | wrote | made | loaded | allowed | freed => exact List.prefix_rfl

theorem sent_grows_after (b : Bus ρ) (d : Deed ρ) : b.sent <+: (b.after d).sent := by
  cases d with
  | connect scope =>
    simp only [after, connect]
    split <;> exact List.prefix_rfl
  | call path interface method args =>
    exact (serve_served (b.note (.call path method)) path interface method args).sent_grows
  | submit path interface method args target =>
    have h := (serve_served (b.note (.submit path method)) path interface method args).sent_grows
    simp only [after, submit]
    split <;> exact h
  | disconnect | reach | watch | unwatch | listChildren | addFilter | addNode | release
  | setServing | refuseConnections | refuseMethod | clearRefusals | setHolding | clearJournal =>
    exact List.prefix_rfl

theorem serve_send (b : Bus ρ) (id : EventId) (ws : List Word) :
    b.serve networkPath networkInterface "SendEvent" [.uint16 id.val, .words ws] =
      match b.refusal? "SendEvent" with
      | some f => (.error f, b)
      | none => (.ok [], { b with sent := b.sent ++ [(id, ws)] }) := by
  unfold serve
  cases b.refusal? "SendEvent" <;> rfl

theorem Served.journal {b b' : Bus ρ} {path interface method : String} {r : Reply}
    (h : Served b path interface method r b') : b'.journal = b.journal := by
  cases h <;> rfl

theorem journal_call (b : Bus ρ) (path interface method : String) (args : List Value) :
    (b.call path interface method args).2.journal = b.journal ++ [.call path method] :=
  (serve_served (b.note (.call path method)) path interface method args).journal

theorem journal_submit (b : Bus ρ) (path interface method : String) (args : List Value)
    (target : ρ) :
    (b.submit path interface method args target).2.journal =
      b.journal ++ [.submit path method] := by
  have h := (serve_served (b.note (.submit path method)) path interface method args).journal
  simp only [submit]
  split <;> exact h

theorem Sound.get?_filters_eq_none {b : Bus ρ} (h : b.Sound) {n : Nat} (hn : b.nextFilter ≤ n) :
    b.filters.get? n = none := by
  by_contra hne
  have hc : b.filters.contains n = true := Option.isSome_iff_ne_none.mpr hne
  have := h.filter_lt n hc
  omega

theorem Sound.get?_watches_eq_none {b : Bus ρ} (h : b.Sound) {t : Nat} (ht : b.nextToken ≤ t) :
    b.watches.get? t = none := by
  by_contra hne
  have hc : b.watches.contains t = true := Option.isSome_iff_ne_none.mpr hne
  have := h.watch_lt t hc
  omega

end RobotBus.Bus
