import RobotBus.Proofs.Router

namespace RobotBus

variable {κ : Type}

namespace RateWindow

theorem arrive_size (w : RateWindow) (now : Instant) : (w.arrive now).2.size = w.size := by
  unfold arrive
  dsimp only
  split
  · rfl
  · split <;> rfl

theorem arrive_pending (w : RateWindow) (now : Instant) :
    (w.arrive now).2.pending = if w.pending + 1 < w.size then w.pending + 1 else 0 := by
  unfold arrive
  dsimp only
  split
  · next h => exact (if_pos h).symm
  · next h => split <;> exact (if_neg h).symm

end RateWindow

/-- What there is to a subscription but for its times. -/
structure Outline (κ : Type) where
  callback : κ
  size : Nat
  pending : Nat

def Subscription.outline (e : Subscription κ) : Outline κ :=
  ⟨e.callback, e.window.size, e.window.pending⟩

structure Invocation (κ : Type) where
  id : EventId
  callback : κ
  values : List Word

def Call.invocation (id : EventId) (c : Call κ) : Invocation κ := ⟨id, c.callback, c.values⟩

def Routed.problem? (x : Routed κ) : Option Problem :=
  match x.outcome with
  | .ok _ => none
  | .error p => some p

namespace Router

def outline (r : Router κ) (id : EventId) : Option (Outline κ) :=
  (r.entry id).map Subscription.outline

structure SameOutline (r r' : Router κ) : Prop where
  policy : r.policy = r'.policy
  outline : ∀ id, r.outline id = r'.outline id

theorem SameOutline.refl (r : Router κ) : SameOutline r r := ⟨rfl, fun _ ↦ rfl⟩

theorem SameOutline.put {r r' : Router κ} (h : SameOutline r r') (id : EventId)
    {e e' : Subscription κ} (he : e.outline = e'.outline) :
    SameOutline (r.put id e) (r'.put id e') where
  policy := h.policy
  outline x := by
    simp only [Router.outline, entry_put]
    split
    · exact congrArg some he
    · exact h.outline x

variable [Callback κ]

def verdict (policy : PanicPolicy) (id : EventId) (panic : Option Panic) : Option Problem :=
  match panic, policy with
  | some p, .abort => some (.panicked id p.message)
  | _, _ => none

def windowAfter (problem : Option Problem) (w : RateWindow) (now : Instant) : RateWindow :=
  if problem.isSome then w else (w.arrive now).2

theorem route_eq_of_entry {r : Router κ} {id : EventId} {e : Subscription κ}
    (he : r.entry id = some e) (values : List Word) (now : Instant) :
    r.route id values now =
      let reaction := Callback.react e.callback values
      let call := some ⟨e.callback, values, reaction.effects⟩
      let counted := e.window.arrive now
      match verdict r.policy id reaction.panic with
      | some p => ⟨.error p, call, r.put id ⟨reaction.next, e.window⟩⟩
      | none => ⟨.ok (.delivered counted.1), call, r.put id ⟨reaction.next, counted.2⟩⟩ := by
  simp only [Router.entry] at he
  simp only [Router.route, he]
  cases (Callback.react e.callback values).panic with
  | none => rfl
  | some p => cases r.policy <;> rfl

theorem route_of_entry {r : Router κ} {id : EventId} {e : Subscription κ}
    (he : r.entry id = some e) (values : List Word) (now : Instant) :
    let reaction := Callback.react e.callback values
    let problem := verdict r.policy id reaction.panic
    (r.route id values now).call = some ⟨e.callback, values, reaction.effects⟩ ∧
      (r.route id values now).problem? = problem ∧
      (r.route id values now).router =
        r.put id ⟨reaction.next, windowAfter problem e.window now⟩ := by
  simp only [route_eq_of_entry he]
  split
  · next p hp => simp [hp, Routed.problem?, windowAfter]
  · next hp => simp [hp, Routed.problem?, windowAfter]

/-- When an event arrives has no influence on the call that is made, nor on what comes of it. -/
theorem SameOutline.route {r r' : Router κ} (h : SameOutline r r') (id : EventId)
    (values : List Word) (now now' : Instant) :
    (r.route id values now).call = (r'.route id values now').call ∧
      (r.route id values now).problem? = (r'.route id values now').problem? ∧
      SameOutline (r.route id values now).router (r'.route id values now').router := by
  have hid := h.outline id
  simp only [Router.outline] at hid
  cases he : r.entry id with
  | none =>
    have he' : r'.entry id = none := by
      rw [he] at hid
      exact Option.map_eq_none_iff.mp hid.symm
    rw [route_of_no_entry he, route_of_no_entry he']
    exact ⟨rfl, rfl, h⟩
  | some e =>
    obtain ⟨e', he', hout⟩ : ∃ e', r'.entry id = some e' ∧ e'.outline = e.outline := by
      rw [he] at hid
      exact Option.map_eq_some_iff.mp hid.symm
    obtain ⟨hcallback, hsize, hpending⟩ := Outline.mk.inj hout
    obtain ⟨hcall, hproblem, hrouter⟩ := route_of_entry he values now
    obtain ⟨hcall', hproblem', hrouter'⟩ := route_of_entry he' values now'
    rw [hcall, hproblem, hrouter, hcall', hproblem', hrouter', hcallback, h.policy]
    refine ⟨rfl, rfl, h.put id ?_⟩
    simp only [Subscription.outline, windowAfter]
    split
    · rw [hsize, hpending]
    · rw [RateWindow.arrive_size, RateWindow.arrive_size, RateWindow.arrive_pending,
        RateWindow.arrive_pending, hsize, hpending]

theorem panicked_of_problem? {r : Router κ} {id : EventId} {values : List Word} {now : Instant}
    {p : Problem} (hp : (r.route id values now).problem? = some p) :
    ∃ message, p = .panicked id message := by
  cases he : r.entry id with
  | none =>
    rw [route_of_no_entry he] at hp
    cases hp
  | some e =>
    rw [(route_of_entry he values now).2.1] at hp
    unfold verdict at hp
    split at hp
    · cases hp
      exact ⟨_, rfl⟩
    · cases hp

/-- What comes of hearing events: the router, the calls that were made, and the problem that put an
end to it, if there was one. -/
structure Hearing (κ : Type) where
  router : Router κ
  invocations : List (Invocation κ)
  problem : Option Problem

def hear (r : Router κ) : List Event → Hearing κ
  | [] => ⟨r, [], none⟩
  | e :: es =>
    let x := r.route e.id e.values 0
    let calls := x.call.toList.map (Call.invocation e.id)
    match x.problem? with
    | some p => ⟨x.router, calls, some p⟩
    | none =>
      let y := hear x.router es
      ⟨y.router, calls ++ y.invocations, y.problem⟩

theorem hear_singleton (r : Router κ) (e : Event) :
    r.hear [e] =
      let x := r.route e.id e.values 0
      ⟨x.router, x.call.toList.map (Call.invocation e.id), x.problem?⟩ := by
  simp only [hear]
  cases h : (r.route e.id e.values 0).problem? with
  | none => rw [List.append_nil]
  | some p => rfl

theorem hear_append_of_problem {r : Router κ} {es : List Event} {p : Problem}
    (hp : (r.hear es).problem = some p) (es' : List Event) : r.hear (es ++ es') = r.hear es := by
  induction es generalizing r with
  | nil => cases hp
  | cons e es ih =>
    simp only [List.cons_append, hear] at hp ⊢
    cases hx : (r.route e.id e.values 0).problem? with
    | some q => rfl
    | none =>
      rw [hx] at hp
      rw [ih hp]

theorem hear_append {r : Router κ} {es : List Event} (hp : (r.hear es).problem = none)
    (es' : List Event) :
    r.hear (es ++ es') =
      ⟨((r.hear es).router.hear es').router,
        (r.hear es).invocations ++ ((r.hear es).router.hear es').invocations,
        ((r.hear es).router.hear es').problem⟩ := by
  induction es generalizing r with
  | nil => rfl
  | cons e es ih =>
    simp only [List.cons_append, hear] at hp ⊢
    cases hx : (r.route e.id e.values 0).problem? with
    | some q => simp [hx] at hp
    | none =>
      rw [hx] at hp
      simp only [ih hp, List.append_assoc]

theorem panicked_of_hear {r : Router κ} {es : List Event} {p : Problem}
    (hp : (r.hear es).problem = some p) : ∃ id message, p = .panicked id message := by
  induction es generalizing r with
  | nil => cases hp
  | cons e es ih =>
    simp only [hear] at hp
    cases hx : (r.route e.id e.values 0).problem? with
    | some q =>
      rw [hx] at hp
      cases hp
      exact ⟨e.id, panicked_of_problem? hx⟩
    | none =>
      rw [hx] at hp
      exact ih hp

end Router

namespace Router

def Every (kind : κ → Prop) (r : Router κ) : Prop :=
  ∀ id e, r.entry id = some e → kind e.callback

variable {kind : κ → Prop}

theorem every_start (windowSize : Nat) (policy : PanicPolicy) :
    (start windowSize policy : Router κ).Every kind := fun _ _ he ↦ nomatch he

theorem Every.subscribe {r : Router κ} (h : r.Every kind) (id : EventId) {c : κ} (hc : kind c)
    (now : Instant) : (r.subscribe id c now).Every kind := by
  intro x e he
  rw [subscribe_eq, entry_put] at he
  split at he
  · cases he
    exact hc
  · exact h x e he

theorem Every.route [Callback κ] {r : Router κ} (h : r.Every kind)
    (hnext : ∀ c, kind c → ∀ values, kind (Callback.react c values).next) (id : EventId)
    (values : List Word) (now : Instant) : (r.route id values now).router.Every kind := by
  cases he : r.entry id with
  | none =>
    rw [route_of_no_entry he]
    exact h
  | some e =>
    rw [(route_of_entry he values now).2.2]
    intro x e' he'
    rw [entry_put] at he'
    split at he'
    · cases he'
      exact hnext e.callback (h id e he) values
    · exact h x e' he'

theorem Every.called [Callback κ] {r : Router κ} (h : r.Every kind) {id : EventId}
    {values : List Word} {now : Instant} {c : Call κ}
    (hc : (r.route id values now).call = some c) :
    kind c.callback ∧ c.effects = (Callback.react c.callback values).effects := by
  cases he : r.entry id with
  | none =>
    rw [route_of_no_entry he] at hc
    cases hc
  | some e =>
    rw [(route_of_entry he values now).1] at hc
    cases hc
    exact ⟨h id e he, rfl⟩

end Router

namespace Callback

variable [Callback κ]

inductive Becomes (c : κ) : κ → Prop
  | refl : Becomes c c
  | after {c' : κ} (values : List Word) (hc : Becomes c c') : Becomes c (react c' values).next

theorem Becomes.of_next {c c' : κ} {values : List Word}
    (h : Becomes (react c values).next c') : Becomes c c' := by
  induction h with
  | refl => exact .after values .refl
  | after values' _ ih => exact .after values' ih

/-- Whatever has become of it, the callback queues no requests, and the events that it emits are
of a kind. -/
def AsksNothing (kind : EventId → Prop) (c : κ) : Prop :=
  ∀ c', Becomes c c' → ∀ values, ∀ e ∈ (react c' values).effects,
    ∃ id name vs, e = .emit id name vs ∧ kind id

end Callback

namespace Script

variable {kind : EventId → Prop}

theorem emits_of_perform (values : List Word) {as : List Action}
    (has : ∀ a ∈ as, ∃ id vs, a = .emit id vs ∧ kind id) :
    ∀ e ∈ (Action.perform values as).1, ∃ id name vs, e = .emit id name vs ∧ kind id := by
  induction as with
  | nil => exact nofun
  | cons a as ih =>
    obtain ⟨id, vs, rfl, hid⟩ := has a List.mem_cons_self
    have hrest := ih fun a ha ↦ has a (List.mem_cons_of_mem _ ha)
    exact List.forall_mem_cons.mpr ⟨⟨id, "nested", vs, rfl, hid⟩, hrest⟩

theorem actions_of_becomes {s s' : Script} (h : Callback.Becomes s s') :
    s'.actions = s.actions := by
  induction h with
  | refl => rfl
  | after values _ ih =>
    simp only [Callback.react]
    split <;> exact ih

theorem asksNothing {s : Script} (hs : ∀ a ∈ s.actions, ∃ id vs, a = .emit id vs ∧ kind id) :
    Callback.AsksNothing kind s := by
  intro s' hs' values e he
  rw [← actions_of_becomes hs'] at hs
  simp only [Callback.react] at he
  split at he
  · exact emits_of_perform values hs e he
  · exact nomatch he

end Script

namespace Router

variable [Callback κ] {kind : EventId → Prop}

def AsksNothing (kind : EventId → Prop) (r : Router κ) : Prop :=
  ∀ id e, r.entry id = some e → Callback.AsksNothing kind e.callback

theorem asksNothing_start (windowSize : Nat) (policy : PanicPolicy) :
    (start windowSize policy : Router κ).AsksNothing kind := every_start windowSize policy

theorem AsksNothing.subscribe {r : Router κ} (h : r.AsksNothing kind) (id : EventId) {c : κ}
    (hc : Callback.AsksNothing kind c) (now : Instant) :
    (r.subscribe id c now).AsksNothing kind := Every.subscribe h id hc now

theorem AsksNothing.effects {r : Router κ} (h : r.AsksNothing kind) {id : EventId}
    {values : List Word} {now : Instant} {c : Call κ}
    (hc : (r.route id values now).call = some c) :
    ∀ e ∈ c.effects, ∃ id name vs, e = .emit id name vs ∧ kind id := by
  obtain ⟨hkind, heffects⟩ := Every.called h hc
  rw [heffects]
  exact hkind _ .refl values

theorem AsksNothing.route {r : Router κ} (h : r.AsksNothing kind) (id : EventId)
    (values : List Word) (now : Instant) : (r.route id values now).router.AsksNothing kind :=
  Every.route h (fun _ hc _ c' hc' ↦ hc c' hc'.of_next) id values now

theorem AsksNothing.hear {r : Router κ} (h : r.AsksNothing kind) (es : List Event) :
    (r.hear es).router.AsksNothing kind := by
  induction es generalizing r with
  | nil => exact h
  | cons e es ih =>
    simp only [Router.hear]
    split
    · exact h.route e.id e.values 0
    · exact ih (h.route e.id e.values 0)

end Router

end RobotBus
