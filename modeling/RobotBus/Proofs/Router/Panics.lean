import Mathlib.Data.List.Forall2
import RobotBus.Proofs.Hearing

namespace RobotBus

variable {κ κ' : Type}

section

variable (R : κ → κ' → Prop)

inductive Request.Matches : Request κ → Request κ' → Prop
  | send (event : Mention) (args : List Word) : Matches (.send event args) (.send event args)
  | write (node name : String) (value : WordValue) :
      Matches (.write node name value) (.write node name value)
  | subscribe (event : Mention) {c : κ} {c' : κ'} (h : R c c') :
      Matches (.subscribe event c) (.subscribe event c')
  | stop : Matches .stop .stop

inductive Effect.Matches : Effect κ → Effect κ' → Prop
  | request {q : Request κ} {q' : Request κ'} (h : Request.Matches R q q') :
      Matches (.request q) (.request q')
  | emit (id : EventId) (name : String) (values : List Word) :
      Matches (.emit id name values) (.emit id name values)

structure Call.Matches (c : Call κ) (c' : Call κ') : Prop where
  callback : R c.callback c'.callback
  values : c.values = c'.values
  effects : List.Forall₂ (Effect.Matches R) c.effects c'.effects

structure Subscription.Matches (e : Subscription κ) (e' : Subscription κ') : Prop where
  callback : R e.callback e'.callback
  window : e.window = e'.window

/-- Callbacks that do the same as others, only that they never panic. -/
structure Callback.Soothes [Callback κ] [Callback κ'] : Prop where
  next {c : κ} {c' : κ'} (h : R c c') (values : List Word) :
    R (react c values).next (react c' values).next
  effects {c : κ} {c' : κ'} (h : R c c') (values : List Word) :
    List.Forall₂ (Effect.Matches R) (react c values).effects (react c' values).effects
  calm {c : κ} {c' : κ'} (h : R c c') (values : List Word) : (react c' values).panic = none

namespace Router

inductive Operation.Matches : Operation κ → Operation κ' → Prop
  | subscribe (id : EventId) {c : κ} {c' : κ'} (h : R c c') (now : Instant) :
      Matches (.subscribe id c now) (.subscribe id c' now)
  | arrive (id : EventId) (values : List Word) (now : Instant) :
      Matches (.arrive id values now) (.arrive id values now)

structure Report.Matches (p : Report κ) (p' : Report κ') : Prop where
  id : p.id = p'.id
  outcome : p.outcome = p'.outcome
  call : Option.Rel (Call.Matches R) p.call p'.call

structure Matches (r : Router κ) (r' : Router κ') : Prop where
  windowSize : r.subscriptions.windowSize = r'.subscriptions.windowSize
  entries : r.subscriptions.entries.Alongside (Subscription.Matches R) r'.subscriptions.entries

end Router

end

namespace Router

variable {R : κ → κ' → Prop} {r : Router κ} {r' : Router κ'}

theorem Matches.put (h : Matches R r r') (id : EventId) {e : Subscription κ}
    {e' : Subscription κ'} (he : Subscription.Matches R e e') :
    Matches R (r.put id e) (r'.put id e') :=
  ⟨h.windowSize, h.entries.insert id he⟩

theorem Matches.subscribe (h : Matches R r r') (id : EventId) {c : κ} {c' : κ'} (hc : R c c')
    (now : Instant) : Matches R (r.subscribe id c now) (r'.subscribe id c' now) := by
  rw [subscribe_eq, subscribe_eq, h.windowSize]
  exact h.put id ⟨hc, rfl⟩

variable [Callback κ] [Callback κ']

theorem verdict_isolate (id : EventId) (panic : Option Panic) :
    verdict .isolate id panic = none := by
  cases panic <;> rfl

theorem verdict_none (policy : PanicPolicy) (id : EventId) : verdict policy id none = none := rfl

theorem Matches.route (hR : Callback.Soothes R) (hpolicy : r.policy = .isolate)
    (h : Matches R r r') (id : EventId) (values : List Word) (now : Instant) :
    (r.route id values now).outcome = (r'.route id values now).outcome ∧
      Option.Rel (Call.Matches R) (r.route id values now).call (r'.route id values now).call ∧
      Matches R (r.route id values now).router (r'.route id values now).router := by
  have hrel : Option.Rel _ (r.entry id) (r'.entry id) := h.entries.get? id
  generalize he : r.entry id = entry, he' : r'.entry id = entry' at hrel
  cases hrel with
  | none =>
    rw [route_of_no_entry he, route_of_no_entry he']
    exact ⟨rfl, .none, h⟩
  | @some e e' hmatch =>
    have hcalm := hR.calm hmatch.callback values
    simp only [route_eq_of_entry he, route_eq_of_entry he', hpolicy, verdict_isolate, hcalm,
      verdict_none, hmatch.window]
    exact ⟨trivial, .some ⟨hmatch.callback, rfl, hR.effects hmatch.callback values⟩,
      h.put id ⟨hR.next hmatch.callback values, rfl⟩⟩

theorem Matches.run (hR : Callback.Soothes R) (hpolicy : r.policy = .isolate)
    (h : Matches R r r') {os : List (Operation κ)} {os' : List (Operation κ')}
    (hos : List.Forall₂ (Operation.Matches R) os os') :
    List.Forall₂ (Report.Matches R) (r.reports os) (r'.reports os') ∧
      Matches R (r.run os) (r'.run os') := by
  induction hos generalizing r r' with
  | nil => exact ⟨.nil, h⟩
  | @cons o o' os os' ho _ ih =>
    have hpolicy' := (r.policy_after o).trans hpolicy
    cases ho with
    | subscribe id hc now => exact ih hpolicy' (h.subscribe id hc now)
    | arrive id values now =>
      obtain ⟨houtcome, hcall, hrouter⟩ := h.route hR hpolicy id values now
      obtain ⟨hreports, hrun⟩ := ih hpolicy' hrouter
      exact ⟨.cons ⟨rfl, houtcome, hcall⟩ hreports, hrun⟩

def under (policy : PanicPolicy) (r : Router κ) : Router κ := { r with policy }

def windows (r : Router κ) : Directory EventId RateWindow :=
  r.subscriptions.entries.mapValues Subscription.window

def callbacks (r : Router κ) : Directory EventId κ :=
  r.subscriptions.entries.mapValues Subscription.callback

/-- What callbacks do set aside, windows are opened by subscriptions and count arrivals. -/
def mark (windowSize : Nat) (windows : Directory EventId RateWindow) :
    Operation κ → Directory EventId RateWindow
  | .subscribe id _ now => windows.insert id (.start windowSize now)
  | .arrive id _ now =>
    match windows.get? id with
    | some w => windows.insert id (w.arrive now).2
    | none => windows

omit [Callback κ] in
@[simp] theorem policy_under (policy : PanicPolicy) (r : Router κ) :
    (r.under policy).policy = policy := rfl

omit [Callback κ] in
@[simp] theorem callbacks_under (policy : PanicPolicy) (r : Router κ) :
    (r.under policy).callbacks = r.callbacks := rfl

omit [Callback κ] in
theorem windows_put (r : Router κ) (id : EventId) (e : Subscription κ) :
    (r.put id e).windows = r.windows.insert id e.window := Directory.mapValues_insert ..

omit [Callback κ] in
theorem callbacks_put (r : Router κ) (id : EventId) (e : Subscription κ) :
    (r.put id e).callbacks = r.callbacks.insert id e.callback := Directory.mapValues_insert ..

omit [Callback κ] in
theorem get?_windows (r : Router κ) (id : EventId) :
    r.windows.get? id = (r.entry id).map Subscription.window := Directory.get?_mapValues ..

omit [Callback κ] in
theorem windows_subscribe (r : Router κ) (id : EventId) (c : κ) (now : Instant) :
    (r.subscribe id c now).windows =
      mark r.subscriptions.windowSize r.windows (.subscribe id c now) := r.windows_put id _

def panic? (r : Router κ) (id : EventId) (values : List Word) : Option Panic :=
  (r.entry id).bind (fun e ↦ (Callback.react e.callback values).panic)

/-- The operations of a run but for the arrivals that make a callback panic. -/
def counted (r : Router κ) : List (Operation κ) → List (Operation κ)
  | [] => []
  | .subscribe id c now :: os => .subscribe id c now :: (r.subscribe id c now).counted os
  | .arrive id values now :: os =>
    let rest := (r.route id values now).router.counted os
    if (r.panic? id values).isSome then rest else .arrive id values now :: rest

theorem route_of_calm {id : EventId} {values : List Word} (h : r.panic? id values = none)
    (now : Instant) (policy : PanicPolicy) :
    r.route id values now =
      let x := (r.under policy).route id values now
      ⟨x.outcome, x.call, x.router.under r.policy⟩ := by
  cases he : r.entry id with
  | none =>
    have he' : (r.under policy).entry id = none := he
    rw [route_of_no_entry he, route_of_no_entry he']
    rfl
  | some e =>
    have he' : (r.under policy).entry id = some e := he
    rw [panic?, he, Option.bind_some] at h
    simp only [route_eq_of_entry he, route_eq_of_entry he', h, verdict_none]
    rfl

theorem windows_route_of_calm {id : EventId} {values : List Word}
    (h : r.panic? id values = none) (now : Instant) :
    (r.route id values now).router.windows =
      mark r.subscriptions.windowSize r.windows (.arrive id values now : Operation κ) := by
  cases he : r.entry id with
  | none => rw [route_of_no_entry he, mark, get?_windows, he, Option.map_none]
  | some e =>
    rw [panic?, he, Option.bind_some] at h
    rw [mark, get?_windows, he, Option.map_some, route_eq_of_entry he]
    simp only [h, verdict_none, windows_put]

/-- The event has not arrived, but the callback was called all the same. -/
theorem route_of_panic (hr : r.Reachable) (hpolicy : r.policy = .abort) {id : EventId}
    {values : List Word} {p : Panic} (h : r.panic? id values = some p) (now : Instant) :
    let x := r.route id values now
    let isolated := (r.under .isolate).route id values now
    x.outcome = .error (.panicked id p.message) ∧ x.router.windows = r.windows ∧
      x.call = isolated.call ∧ x.router.callbacks = isolated.router.callbacks := by
  cases he : r.entry id with
  | none => simp [panic?, he] at h
  | some e =>
    have he' : (r.under .isolate).entry id = some e := he
    have hkept : r.windows.insert id e.window = r.windows :=
      (hr.sorted.mapValues _).insert_of_get? (by rw [← windows, get?_windows, he, Option.map_some])
    rw [panic?, he, Option.bind_some] at h
    simp only [route_eq_of_entry he, route_eq_of_entry he', h, hpolicy, policy_under, verdict,
      windows_put, callbacks_put, callbacks_under, hkept, and_self]

theorem windows_run (hr : r.Reachable) (hpolicy : r.policy = .abort) (os : List (Operation κ)) :
    (r.run os).windows = (r.counted os).foldl (mark r.subscriptions.windowSize) r.windows := by
  induction os generalizing r with
  | nil => rfl
  | cons o os ih =>
    have hrun := ih (.after o hr) ((r.policy_after o).trans hpolicy)
    rw [windowSize_after] at hrun
    cases o with
    | subscribe id c now =>
      rw [counted, List.foldl_cons, ← windows_subscribe]
      exact hrun
    | arrive id values now =>
      rw [counted]
      cases hp : r.panic? id values with
      | none =>
        rw [Option.isSome_none, if_neg Bool.false_ne_true, List.foldl_cons,
          ← windows_route_of_calm hp]
        exact hrun
      | some p =>
        rw [Option.isSome_some, if_pos rfl, ← (route_of_panic hr hpolicy hp now).2.1]
        exact hrun

/-- The two policies differ only in what they do with an event whose callback panics. Under the
isolating one, callbacks that do the same without panicking would have made no difference: not in
what comes of any arrival, nor in the calls, the subscriptions and their windows. Under the aborting
one, an arrival that does not make a callback panic is treated alike; one that does is answered with
the text of the panic, and opens or changes no window, so that after a run the windows and their
rates are those of the subscriptions and of the other arrivals alone. -/
theorem panics_are_set_aside {R : κ → κ' → Prop} (hR : Callback.Soothes R) :
    (∀ (r : Router κ) (r' : Router κ'), r.policy = .isolate → Matches R r r' →
      ∀ os os', List.Forall₂ (Operation.Matches R) os os' →
        List.Forall₂ (Report.Matches R) (r.reports os) (r'.reports os') ∧
        Matches R (r.run os) (r'.run os')) ∧
    ∀ r : Router κ, r.Reachable → r.policy = .abort →
      (∀ id values now, r.panic? id values = none →
        let isolated := (r.under .isolate).route id values now
        r.route id values now =
          ⟨isolated.outcome, isolated.call, isolated.router.under .abort⟩) ∧
      (∀ id values now p, r.panic? id values = some p →
        let x := r.route id values now
        let isolated := (r.under .isolate).route id values now
        x.outcome = .error (.panicked id p.message) ∧ x.router.windows = r.windows ∧
          x.call = isolated.call ∧ x.router.callbacks = isolated.router.callbacks) ∧
      ∀ os, (r.run os).windows =
        (r.counted os).foldl (mark r.subscriptions.windowSize) r.windows := by
  refine ⟨fun r r' hpolicy h os os' hos ↦ h.run hR hpolicy hos, fun r hr hpolicy ↦ ⟨?_, ?_, ?_⟩⟩
  · intro id values now hcalm
    rw [← hpolicy]
    exact route_of_calm hcalm now .isolate
  · exact fun id values now p hp ↦ route_of_panic hr hpolicy hp now
  · exact windows_run hr hpolicy

/-- A callback that panics on its first call, under both policies: the isolating one counts both
arrivals, the aborting one the second alone. -/
theorem panics_are_set_aside_of_uneasy :
    let os : List (Operation Fuse) := [.arrive ⟨2⟩ [6] 2, .arrive ⟨2⟩ [8] 4]
    let calm : Router Fuse :=
      ((start 2 .isolate).after (.subscribe ⟨1⟩ ⟨"steady", none, none, 0⟩ 0)).after
        (.subscribe ⟨2⟩ ⟨"uneasy", none, some 1, 0⟩ 0)
    ((uneasy.under .isolate).reports os).map (·.outcome) = (calm.reports os).map (·.outcome) ∧
      (uneasy.route ⟨2⟩ [6] 2).router.windows = uneasy.windows ∧
      (uneasy.run os).windows = mark 2 uneasy.windows (.arrive ⟨2⟩ [8] 4 : Operation Fuse) := by
  intro os calm
  have hR : Callback.Soothes (fun f f' : Fuse ↦ f' = { f with panic := none }) := by
    refine ⟨?_, ?_, ?_⟩
    · rintro f _ rfl values
      rfl
    · rintro f _ rfl values
      exact .nil
    · rintro f _ rfl values
      simp [Callback.react]
  obtain ⟨hisolate, habort⟩ := panics_are_set_aside hR
  obtain ⟨-, hpanic, hrun⟩ := habort uneasy (.after _ (.after _ (.start 2 .abort))) rfl
  obtain ⟨hreports, -⟩ := hisolate (uneasy.under .isolate) calm rfl
    ⟨rfl, .cons ⟨rfl, rfl, rfl⟩ (.cons ⟨rfl, rfl, rfl⟩ .nil)⟩ os os
    (.cons (.arrive ..) (.cons (.arrive ..) .nil))
  refine ⟨?_, (hpanic ⟨2⟩ [6] 2 .other rfl).2.1, hrun os⟩
  have houtcomes := hreports.imp fun _ _ h ↦ h.outcome
  rwa [← List.forall₂_eq_eq_eq, List.forall₂_map_left_iff, List.forall₂_map_right_iff]

end Router

end RobotBus
