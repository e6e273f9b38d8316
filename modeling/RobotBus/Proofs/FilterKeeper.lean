import Mathlib.Data.List.Basic
import RobotBus.FilterKeeper
import RobotBus.Proofs.Bus.Deed

namespace RobotBus

namespace Bus

variable {ρ : Type}

theorem call_free (b : Bus ρ) (path : String) (args : List Value) :
    b.call path filterInterface "Free" args =
      match b.refusal? "Free" with
      | some f => (.error f, b.note (.call path "Free"))
      | none =>
        match b.liveFilter? path with
        | none => (.error (.unknownObject path), b.note (.call path "Free"))
        | some n =>
          (.ok [], { b.note (.call path "Free") with filters := b.filters.erase n }) := by
  have hi : filterInterface ≠ networkInterface := by decide
  have ho : FilterOrder.ofCall "Free" args = .ok .free := rfl
  simp only [call, serve, if_neg hi, if_true, ho, serveFilter]
  rfl

def listen (b : Bus ρ) (path : String) (id : EventId) : Reply × Bus ρ :=
  b.call path filterInterface "ListenEvent" [.uint16 id.val]

theorem listen_eq (b : Bus ρ) (path : String) (id : EventId) :
    b.listen path id =
      match b.refusal? "ListenEvent" with
      | some f => (.error f, b.note (.call path "ListenEvent"))
      | none =>
        match b.liveFilter? path with
        | none => (.error (.unknownObject path), b.note (.call path "ListenEvent"))
        | some n => (b.note (.call path "ListenEvent")).serveFilter n (.allow id) := by
  have hi : filterInterface ≠ networkInterface := by decide
  have ho : FilterOrder.ofCall "ListenEvent" [.uint16 id.val] = .ok (.allow id) := rfl
  simp only [listen, call, serve, if_neg hi, if_true, ho]
  rfl

theorem call_makeFilter (b : Bus ρ) (args : List Value) :
    b.call networkPath networkInterface "CreateEventFilter" args =
      match b.refusal? "CreateEventFilter" with
      | some f => (.error f, b.note (.call networkPath "CreateEventFilter"))
      | none =>
        (.ok [.path (pathOfFilter b.nextFilter)],
          (b.note (.call networkPath "CreateEventFilter")).addFilter.2) := by
  have ho : NetworkOrder.ofCall "CreateEventFilter" args = .ok .addFilter := rfl
  simp only [call, serve, if_true, ho]
  rfl

theorem refusal?_eq_none_iff (b : Bus ρ) (method : String) :
    b.refusal? method = none ↔ b.serving = true ∧ b.refusals.get? method = none := by
  cases h : b.serving <;> simp [refusal?, h]

theorem children_filtersPath (b : Bus ρ) :
    b.children filtersPath =
      if b.hadFilter then .ok (b.filters.keys.map toString)
      else .error (.unknownObject filtersPath) := by
  have hp : filtersPath ≠ networkPath := by decide
  simp [children, if_neg hp]

/-- Requests by which filters are listed and freed; those that may be freed are given. -/
inductive Sweeps (mayFree : Nat → Prop) (b : Bus ρ) : Bus ρ → Prop
  | nothing : Sweeps mayFree b b
  | reach {b' : Bus ρ} (path : String) : Sweeps mayFree b b' →
      Sweeps mayFree b (b'.reach path).2
  | listChildren {b' : Bus ρ} (path : String) : Sweeps mayFree b b' →
      Sweeps mayFree b (b'.listChildren path).2
  | free {b' : Bus ρ} (n : Nat) (h : mayFree n) : Sweeps mayFree b b' →
      Sweeps mayFree b (b'.call (pathOfFilter n) filterInterface "Free" []).2

variable {mayFree : Nat → Prop} {b b' : Bus ρ}

theorem Sweeps.trans {b'' : Bus ρ} (h : Sweeps mayFree b b') (h' : Sweeps mayFree b' b'') :
    Sweeps mayFree b b'' := by
  induction h' with
  | nothing => exact h
  | reach path _ ih => exact .reach path ih
  | listChildren path _ ih => exact .listChildren path ih
  | free n hn _ ih => exact .free n hn ih

theorem Sweeps.mono {mayFree' : Nat → Prop} (h : Sweeps mayFree b b')
    (hm : ∀ n, mayFree n → mayFree' n) : Sweeps mayFree' b b' := by
  induction h with
  | nothing => exact .nothing
  | reach path _ ih => exact .reach path ih
  | listChildren path _ ih => exact .listChildren path ih
  | free n hn _ ih => exact .free n (hm n hn) ih

theorem call_free_snd (b : Bus ρ) (path : String) (args : List Value) :
    (b.call path filterInterface "Free" args).2 = b.note (.call path "Free") ∨
      b.refusal? "Free" = none ∧ ∃ n, numberInPath? path = some n ∧
        (b.call path filterInterface "Free" args).2 =
          { b.note (.call path "Free") with filters := b.filters.erase n } := by
  rw [call_free]
  cases b.refusal? "Free" with
  | some f => exact .inl rfl
  | none =>
    cases hl : b.liveFilter? path with
    | none => exact .inl rfl
    | some n => exact .inr ⟨rfl, n, ((liveFilter?_eq_some_iff b path n).mp hl).1, rfl⟩

theorem Sweeps.leads (h : Sweeps mayFree b b') : Leads b b' := by
  induction h with
  | nothing => exact .refl
  | reach path _ ih => exact .after (.reach path) ih
  | listChildren path _ ih => exact .after (.listChildren path) ih
  | free n _ _ ih => exact .after (.call (pathOfFilter n) filterInterface "Free" []) ih

theorem number_of_pathOfFilter {n k : Nat} (h : numberInPath? (pathOfFilter n) = some k) :
    k = n := by
  rw [numberInPath?_pathOfFilter] at h
  split at h
  · exact (Option.some.inj h).symm
  · cases h

theorem get?_filters_of_free {n : Nat} {vs : List Value}
    (h : (b.call (pathOfFilter n) filterInterface "Free" []).1 = .ok vs) :
    (b.call (pathOfFilter n) filterInterface "Free" []).2.filters.get? n = none := by
  rw [call_free] at h ⊢
  cases hf : b.refusal? "Free" with
  | some f => simp only [hf] at h; cases h
  | none =>
    cases hl : b.liveFilter? (pathOfFilter n) with
    | none => simp only [hf, hl] at h; cases h
    | some k =>
      cases number_of_pathOfFilter ((liveFilter?_eq_some_iff b _ k).mp hl).1
      simp

theorem listen_of_error {path : String} {id : EventId} {f : Fault}
    (h : (b.listen path id).1 = .error f) :
    (b.listen path id).2 = b.note (.call path "ListenEvent") := call_of_error h

theorem listen_of_ok {n : Nat} {id : EventId} {vs : List Value}
    (h : (b.listen (pathOfFilter n) id).1 = .ok vs) :
    ∃ ids, b.filters.get? n = some ids ∧
      (b.listen (pathOfFilter n) id).2.filters = b.filters.insert n (ids.insert id ()) ∧
      numberInPath? (pathOfFilter n) = some n := by
  rw [listen_eq] at h ⊢
  cases hf : b.refusal? "ListenEvent" with
  | some f => simp only [hf] at h; cases h
  | none =>
    cases hl : b.liveFilter? (pathOfFilter n) with
    | none => simp only [hf, hl] at h; cases h
    | some k =>
      obtain ⟨hk, ids, hids⟩ := (liveFilter?_eq_some_iff b _ k).mp hl
      cases number_of_pathOfFilter hk
      refine ⟨ids, hids, ?_, hk⟩
      simp only [serveFilter, filters_note, hids]

theorem Sweeps.frame (h : Sweeps mayFree b b') :
    b' = { b with filters := b'.filters, journal := b'.journal } := by
  induction h with
  | nothing => rfl
  | reach path _ ih | listChildren path _ ih =>
    rw [ih]
    rfl
  | @free b' n hn _ ih =>
    rcases call_free_snd b' (pathOfFilter n) [] with he | ⟨-, k, -, he⟩
    · rw [he, ih]; rfl
    · rw [he, ih]; rfl

theorem Sweeps.get?_filters (h : Sweeps mayFree b b') (k : Nat) :
    b'.filters.get? k = b.filters.get? k ∨ mayFree k ∧ b'.filters.get? k = none := by
  induction h with
  | nothing => exact .inl rfl
  | reach path _ ih | listChildren path _ ih => exact ih
  | @free b' n hn _ ih =>
    rcases call_free_snd b' (pathOfFilter n) [] with he | ⟨-, m, hm, he⟩
    · rw [he]; exact ih
    · have hmn := number_of_pathOfFilter hm
      subst hmn
      simp only [he, Directory.get?_erase]
      split_ifs with hk
      · exact .inr ⟨hk ▸ hn, rfl⟩
      · exact ih

theorem Sweeps.filters_of_refused (h : Sweeps mayFree b b') {f : Fault}
    (hf : b.refusal? "Free" = some f) : b'.filters = b.filters := by
  induction h with
  | nothing => rfl
  | reach path _ ih | listChildren path _ ih => exact ih
  | @free b' n hn h ih =>
    have hf' : b'.refusal? "Free" = some f := by rw [h.frame]; exact hf
    rcases call_free_snd b' (pathOfFilter n) [] with he | ⟨hno, -⟩
    · rw [he]; exact ih
    · rw [hno] at hf'; cases hf'

inductive SweepEntry (mayFree : Nat → Prop) : JournalEntry → Prop
  | reach (path : String) : SweepEntry mayFree (.reach path)
  | listChildren (path : String) : SweepEntry mayFree (.listChildren path)
  | free (n : Nat) (h : mayFree n) : SweepEntry mayFree (.call (pathOfFilter n) "Free")

theorem Sweeps.journal (h : Sweeps mayFree b b') :
    ∃ js, b'.journal = b.journal ++ js ∧ ∀ e ∈ js, SweepEntry mayFree e := by
  have add {b' : Bus ρ} {e : JournalEntry} (he : SweepEntry mayFree e)
      (ih : ∃ js, b'.journal = b.journal ++ js ∧ ∀ e ∈ js, SweepEntry mayFree e) :
      ∃ js, b'.journal ++ [e] = b.journal ++ js ∧ ∀ e ∈ js, SweepEntry mayFree e := by
    obtain ⟨js, hjs, hall⟩ := ih
    refine ⟨js ++ [e], by rw [hjs, List.append_assoc], ?_⟩
    intro e' he'
    rcases List.mem_append.mp he' with hmem | hmem
    · exact hall e' hmem
    · exact List.mem_singleton.mp hmem ▸ he
  induction h with
  | nothing => exact ⟨[], by simp, by simp⟩
  | reach path _ ih => exact add (.reach path) ih
  | listChildren path _ ih => exact add (.listChildren path) ih
  | @free b' n hn _ ih =>
    rcases call_free_snd b' (pathOfFilter n) [] with he | ⟨-, m, -, he⟩
    · rw [he]; exact add (.free n hn) ih
    · rw [he]; exact add (.free n hn) ih

end Bus

namespace FilterKeeper

open Bus

theorem allow_some (path : String) (ids : EventSet) (b : Bus ReplyTarget) (id : EventId) :
    (⟨some path, ids⟩ : FilterKeeper).allow b id =
      if ids.contains id then (.ok (), ⟨some path, ids⟩, b)
      else
        match b.listen path id with
        | (.error f, b') => (.error (.refusedCall "ListenEvent" f), ⟨some path, ids⟩, b')
        | (.ok _, b') => (.ok (), ⟨some path, ids.insert id ()⟩, b') := by
  have hc : Line.call b path filterInterface "ListenEvent" [.uint16 id.val] = b.listen path id :=
    rfl
  simp only [allow, allows, obtain, hc]
  rcases b.listen path id with ⟨_ | _, b'⟩ <;> rfl

variable {mayFree : Nat → Prop}

theorem freeOne_sweeps (b : Bus ReplyTarget) {n : Nat} (h : mayFree n) :
    Sweeps mayFree b (freeOne b (pathOfFilter n)).2 := by
  have hreach : Sweeps mayFree b (b.note (.reach (pathOfFilter n))) := .reach _ .nothing
  have hfree := Sweeps.free n h hreach
  simp only [freeOne, Line.reach, Bus.reach]
  split
  · next heq =>
    obtain ⟨-, rfl⟩ := Prod.mk.inj heq
    exact hreach
  · next heq =>
    obtain ⟨-, rfl⟩ := Prod.mk.inj heq
    simp only [Line.call]
    split
    · next hc => exact (congrArg Prod.snd hc) ▸ hfree
    · next hc =>
      split
      · exact (congrArg Prod.snd hc) ▸ hfree
      · exact (congrArg Prod.snd hc) ▸ hfree

theorem sweepEach_cons (k : FilterKeeper) (b : Bus ReplyTarget) (freed n : Nat) (ns : List Nat) :
    k.sweepEach b freed ((n :: ns).map toString) =
      if k.filter = some (pathOfFilter n) then k.sweepEach b freed (ns.map toString)
      else
        match (freeOne b (pathOfFilter n)).1 with
        | .error p => (.error p, (freeOne b (pathOfFilter n)).2)
        | .ok gone =>
          k.sweepEach (freeOne b (pathOfFilter n)).2 (if gone then freed + 1 else freed)
            (ns.map toString) := by
  rw [List.map_cons, sweepEach, pathOfFilter]
  rcases freeOne b (filtersPath ++ "/" ++ toString n) with ⟨_ | gone, b'⟩
  · rfl
  · cases gone <;> rfl

theorem sweepEach_sweeps (k : FilterKeeper) (b : Bus ReplyTarget) (freed : Nat) (ns : List Nat)
    (h : ∀ n ∈ ns, k.filter ≠ some (pathOfFilter n) → mayFree n) :
    Sweeps mayFree b (k.sweepEach b freed (ns.map toString)).2 := by
  induction ns generalizing b freed with
  | nil => exact .nothing
  | cons n ns ih =>
    have hns : ∀ m ∈ ns, k.filter ≠ some (pathOfFilter m) → mayFree m :=
      fun m hm ↦ h m (List.mem_cons_of_mem _ hm)
    rw [sweepEach_cons]
    by_cases hown : k.filter = some (pathOfFilter n)
    · rw [if_pos hown]
      exact ih b freed hns
    · have hone := freeOne_sweeps b (h n List.mem_cons_self hown)
      rw [if_neg hown]
      split
      · exact hone
      · exact hone.trans (ih _ _ hns)

/-- Sweeping frees none but live filters, and not the keeper's own. -/
theorem sweep_sweeps (k : FilterKeeper) (b : Bus ReplyTarget) :
    Sweeps (fun n ↦ b.filters.contains n = true ∧ k.filter ≠ some (pathOfFilter n)) b
      (k.sweep b).2 := by
  have hlist : Sweeps (fun n ↦ b.filters.contains n = true ∧ k.filter ≠ some (pathOfFilter n)) b
      (b.listChildren filtersPath).2 := .listChildren filtersPath .nothing
  have hkeys : ∀ n ∈ b.filters.keys, k.filter ≠ some (pathOfFilter n) →
      b.filters.contains n = true ∧ k.filter ≠ some (pathOfFilter n) :=
    fun n hn hk ↦ ⟨(Directory.mem_keys_iff _ n).mp hn, hk⟩
  simp only [sweep, Line.listChildren, Bus.listChildren, children_filtersPath]
  cases b.hadFilter with
  | true => exact hlist.trans (sweepEach_sweeps k _ 0 _ hkeys)
  | false =>
    simp only [Bool.false_eq_true, if_false]
    split <;> exact hlist

end FilterKeeper

end RobotBus
