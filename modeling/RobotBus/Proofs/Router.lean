import RobotBus.Callback.Script
import RobotBus.Proofs.Directory
import RobotBus.Router

namespace RobotBus

instance : IsStrictTotalOrder EventId (· < ·) where
  irrefl _ h := UInt16.lt_irrefl _ h
  trans _ _ _ h h' := UInt16.lt_trans h h'
  trichotomous a b h h' := by
    cases a; cases b
    exact congrArg _ (UInt16.le_antisymm (UInt16.not_lt.mp h') (UInt16.not_lt.mp h))

namespace Router

variable {κ : Type}

inductive Operation (κ : Type)
  | subscribe (id : EventId) (callback : κ) (now : Instant)
  | arrive (id : EventId) (values : List Word) (now : Instant)

def Operation.id : Operation κ → EventId
  | subscribe id _ _ => id
  | arrive id _ _ => id

structure Report (κ : Type) where
  id : EventId
  outcome : Except Problem Routing
  call : Option (Call κ)

def entry (r : Router κ) (id : EventId) : Option (Subscription κ) := r.subscriptions.entries.get? id

variable [Callback κ]

def after (r : Router κ) : Operation κ → Router κ
  | .subscribe id callback now => r.subscribe id callback now
  | .arrive id values now => (r.route id values now).router

def report? (r : Router κ) : Operation κ → Option (Report κ)
  | .subscribe .. => none
  | .arrive id values now =>
    let routed := r.route id values now
    some ⟨id, routed.outcome, routed.call⟩

def run (r : Router κ) (os : List (Operation κ)) : Router κ := os.foldl after r

def reports (r : Router κ) : List (Operation κ) → List (Report κ)
  | [] => []
  | o :: os => (r.report? o).toList ++ (r.after o).reports os

def about (x : EventId) (os : List (Operation κ)) : List (Operation κ) := os.filter (·.id = x)

structure Alike (x : EventId) (r r' : Router κ) : Prop where
  policy : r.policy = r'.policy
  windowSize : r.subscriptions.windowSize = r'.subscriptions.windowSize
  entry : r.entry x = r'.entry x

omit [Callback κ] in
theorem Alike.refl (x : EventId) (r : Router κ) : Alike x r r := ⟨rfl, rfl, rfl⟩

omit [Callback κ] in
@[simp] theorem entry_put (r : Router κ) (id x : EventId) (e : Subscription κ) :
    (r.put id e).entry x = if id = x then some e else r.entry x := Directory.get?_insert ..

omit [Callback κ] in
@[simp] theorem policy_put (r : Router κ) (id : EventId) (e : Subscription κ) :
    (r.put id e).policy = r.policy := rfl

omit [Callback κ] in
@[simp] theorem windowSize_put (r : Router κ) (id : EventId) (e : Subscription κ) :
    (r.put id e).subscriptions.windowSize = r.subscriptions.windowSize := rfl

omit [Callback κ] in
theorem subscribe_eq (r : Router κ) (id : EventId) (callback : κ) (now : Instant) :
    r.subscribe id callback now =
      r.put id ⟨callback, .start r.subscriptions.windowSize now⟩ := rfl

/-- Both operations store at most one entry, under the number they are about. -/
theorem after_eq (r : Router κ) (o : Operation κ) :
    r.after o = r ∨ ∃ e, r.after o = r.put o.id e := by
  cases o with
  | subscribe id callback now => exact .inr ⟨_, rfl⟩
  | arrive id values now =>
    simp only [after, route, Operation.id]
    split
    · exact .inl rfl
    · split <;> exact .inr ⟨_, rfl⟩

theorem policy_after (r : Router κ) (o : Operation κ) : (r.after o).policy = r.policy := by
  rcases r.after_eq o with h | ⟨e, h⟩ <;> simp [h]

theorem windowSize_after (r : Router κ) (o : Operation κ) :
    (r.after o).subscriptions.windowSize = r.subscriptions.windowSize := by
  rcases r.after_eq o with h | ⟨e, h⟩ <;> simp [h]

theorem entry_after_of_ne {x : EventId} {o : Operation κ} (hne : o.id ≠ x) (r : Router κ) :
    (r.after o).entry x = r.entry x := by
  rcases r.after_eq o with h | ⟨e, h⟩ <;> simp [h, hne]

theorem Alike.after_left {x : EventId} {r r' : Router κ} (h : Alike x r r') {o : Operation κ}
    (hne : o.id ≠ x) : Alike x (r.after o) r' :=
  ⟨(r.policy_after o).trans h.policy, (r.windowSize_after o).trans h.windowSize,
    (entry_after_of_ne hne r).trans h.entry⟩

theorem Alike.route {x : EventId} {r r' : Router κ} (h : Alike x r r') (values : List Word)
    (now : Instant) :
    (r.route x values now).outcome = (r'.route x values now).outcome ∧
      (r.route x values now).call = (r'.route x values now).call ∧
      (r.route x values now).router.entry x = (r'.route x values now).router.entry x := by
  have he := h.entry
  simp only [Router.entry] at he
  simp only [Router.route, he, h.policy]
  split
  · exact ⟨rfl, rfl, by simp only [Router.entry, he]⟩
  · split <;> exact ⟨rfl, rfl, by simp only [entry_put, if_pos]⟩

theorem Alike.report? {o : Operation κ} {r r' : Router κ} (h : Alike o.id r r') :
    r.report? o = r'.report? o := by
  cases o with
  | subscribe id callback now => rfl
  | arrive id values now =>
    obtain ⟨houtcome, hcall, _⟩ := Alike.route h values now
    simp only [Router.report?, Operation.id] at houtcome hcall ⊢
    rw [houtcome, hcall]

theorem Alike.after {o : Operation κ} {r r' : Router κ} (h : Alike o.id r r') :
    Alike o.id (r.after o) (r'.after o) := by
  refine ⟨?_, ?_, ?_⟩
  · rw [policy_after, policy_after, h.policy]
  · rw [windowSize_after, windowSize_after, h.windowSize]
  · cases o with
    | subscribe id callback now =>
      have hsize := h.windowSize
      simp only [Router.after, Operation.id, subscribe_eq, entry_put, hsize, if_true]
    | arrive id values now => exact (Alike.route h values now).2.2

theorem report_id {r : Router κ} {o : Operation κ} {p : Report κ} (h : r.report? o = some p) :
    p.id = o.id := by
  cases o with
  | subscribe => cases h
  | arrive => cases h; rfl

/-- A run, and the run of those of its operations that are about one event, report the same about
it and treat it alike from then on. -/
theorem Alike.run {x : EventId} {r r' : Router κ} (h : Alike x r r') (os : List (Operation κ)) :
    (r.reports os).filter (·.id = x) = r'.reports (about x os) ∧
      Alike x (r.run os) (r'.run (about x os)) := by
  induction os generalizing r r' with
  | nil => exact ⟨rfl, h⟩
  | cons o os ih =>
    by_cases ho : o.id = x
    · subst ho
      obtain ⟨hreports, halike⟩ := ih h.after
      have hone : (r.report? o).toList.filter (·.id = o.id) = (r'.report? o).toList := by
        rw [← h.report?]
        cases hp : r.report? o with
        | none => rfl
        | some p => simp [report_id hp]
      simp only [about, List.filter_cons, decide_true, if_true, reports, List.filter_append]
      exact ⟨by rw [hone]; exact congrArg _ hreports, halike⟩
    · obtain ⟨hreports, halike⟩ := ih (h.after_left ho)
      have hone : (r.report? o).toList.filter (·.id = x) = [] := by
        cases hp : r.report? o with
        | none => rfl
        | some p => simp [report_id hp, ho]
      simp only [about, List.filter_cons, ho, decide_false, reports, List.filter_append, hone]
      exact ⟨hreports, halike⟩

inductive Reachable : Router κ → Prop
  | start (windowSize : Nat) (policy : PanicPolicy) : Reachable (.start windowSize policy)
  | after {r : Router κ} (o : Operation κ) : Reachable r → Reachable (r.after o)
  | clear {r : Router κ} : Reachable r → Reachable r.clear

theorem sorted_after {r : Router κ} (h : r.subscriptions.entries.Sorted) (o : Operation κ) :
    (r.after o).subscriptions.entries.Sorted := by
  rcases r.after_eq o with heq | ⟨e, heq⟩ <;> rw [heq]
  · exact h
  · exact h.insert _ _

theorem sorted_run {r : Router κ} (h : r.subscriptions.entries.Sorted) (os : List (Operation κ)) :
    (r.run os).subscriptions.entries.Sorted := by
  induction os generalizing r with
  | nil => exact h
  | cons o os ih => exact ih (sorted_after h o)

theorem Reachable.sorted {r : Router κ} (h : r.Reachable) : r.subscriptions.entries.Sorted := by
  induction h with
  | start => exact Directory.sorted_empty
  | after o _ ih => exact sorted_after ih o
  | clear => exact Directory.sorted_empty

theorem run_eq_of_about_eq {r : Router κ} (hr : r.Reachable) {os os' : List (Operation κ)}
    (h : ∀ x, about x os = about x os') : r.run os = r.run os' := by
  have halike : ∀ x, Alike x (r.run os) (r.run os') := by
    intro x
    have hleft := ((Alike.refl x r).run os).2
    have hright := ((Alike.refl x r).run os').2
    rw [h x] at hleft
    exact ⟨hleft.policy.trans hright.policy.symm, hleft.windowSize.trans hright.windowSize.symm,
      hleft.entry.trans hright.entry.symm⟩
  have hentries := (sorted_run hr.sorted os).ext (sorted_run hr.sorted os')
    fun x ↦ (halike x).entry
  have hsize := (halike default).windowSize
  have hpolicy := (halike default).policy
  generalize r.run os = q at hentries hsize hpolicy ⊢
  generalize r.run os' = q' at hentries hsize hpolicy ⊢
  obtain ⟨⟨entries, windowSize⟩, policy⟩ := q
  obtain ⟨⟨entries', windowSize'⟩, policy'⟩ := q'
  simp_all

theorem route_of_no_entry {r : Router κ} {x : EventId} (h : r.entry x = none) (values : List Word)
    (now : Instant) : r.route x values now = ⟨.ok .dropped, none, r⟩ := by
  simp only [entry] at h
  simp only [route, h]

/-- What a run reports about an event, and where it leaves it, is as if there had been no operation
about any other event; so that runs which differ in the order among different events give the same
rates. An arrival that nobody subscribed to changes nothing. -/
theorem events_do_not_interact {r : Router κ} (hr : r.Reachable) (os : List (Operation κ)) :
    (∀ x, (r.reports os).filter (·.id = x) = r.reports (about x os) ∧
      (r.run os).entry x = (r.run (about x os)).entry x) ∧
    (∀ os' : List (Operation κ), (∀ x, about x os = about x os') →
      (r.run os).subscriptions.rates = (r.run os').subscriptions.rates) ∧
    (∀ x values now, r.entry x = none → r.route x values now = ⟨.ok .dropped, none, r⟩) := by
  refine ⟨?_, ?_, ?_⟩
  · intro x
    obtain ⟨hreports, halike⟩ := (Alike.refl x r).run os
    exact ⟨hreports, halike.entry⟩
  · intro os' h
    rw [run_eq_of_about_eq hr h]
  · intro x values now h
    exact route_of_no_entry h values now

def uneasy : Router Fuse :=
  ((start 2 .abort).after (.subscribe ⟨1⟩ ⟨"steady", none, none, 0⟩ 0)).after
    (.subscribe ⟨2⟩ ⟨"uneasy", some .other, some 1, 0⟩ 0)

theorem events_do_not_interact_of_uneasy :
    let inTurn : List (Operation Fuse) :=
      [.arrive ⟨1⟩ [5] 1, .arrive ⟨2⟩ [6] 2, .arrive ⟨1⟩ [7] 3, .arrive ⟨2⟩ [8] 4]
    let inBlocks : List (Operation Fuse) :=
      [.arrive ⟨2⟩ [6] 2, .arrive ⟨2⟩ [8] 4, .arrive ⟨1⟩ [5] 1, .arrive ⟨1⟩ [7] 3]
    (uneasy.reports inTurn).filter (·.id = ⟨2⟩) =
        uneasy.reports [.arrive ⟨2⟩ [6] 2, .arrive ⟨2⟩ [8] 4] ∧
      (uneasy.reports [.arrive ⟨2⟩ [6] 2, .arrive ⟨2⟩ [8] 4]).map (·.outcome.isOk) = [false, true] ∧
      (uneasy.run inTurn).subscriptions.rates = (uneasy.run inBlocks).subscriptions.rates ∧
      (uneasy.route ⟨9⟩ [1] 5).call.isNone := by
  intro inTurn inBlocks
  have hr : uneasy.Reachable := .after _ (.after _ (.start 2 .abort))
  obtain ⟨hone, hall, hnone⟩ := events_do_not_interact hr inTurn
  refine ⟨(hone ⟨2⟩).1, rfl, hall inBlocks ?_, ?_⟩
  · intro x
    by_cases h1 : (⟨1⟩ : EventId) = x
    · subst h1; rfl
    · by_cases h2 : (⟨2⟩ : EventId) = x
      · subst h2; rfl
      · simp [about, inTurn, inBlocks, Operation.id, h1, h2]
  · rw [hnone ⟨9⟩ [1] 5 rfl]
    rfl

end Router

end RobotBus
