import Mathlib.Data.List.Forall2
import Mathlib.Data.List.Nodup
import RobotBus.Json.Fields
import RobotBus.Proofs.Json.Spelling

namespace RobotBus.Json

variable {α β : Type}

theorem mapM_eq_some_iff {f : α → Option β} {l : List α} {bs : List β} :
    l.mapM f = some bs ↔ List.Forall₂ (fun a b ↦ f a = some b) l bs := by
  induction l generalizing bs with
  | nil => simp [eq_comm]
  | cons a l ih =>
    rw [List.mapM_cons]
    constructor
    · intro h
      cases ha : f a with
      | none => simp [ha] at h
      | some b =>
        cases hl : l.mapM f with
        | none => simp [ha, hl] at h
        | some cs =>
          obtain rfl : b :: cs = bs := by simpa [ha, hl] using h
          exact .cons ha (ih.mp hl)
    · intro h
      cases h with
      | cons ha hl =>
        rw [ha, ih.mpr hl]
        rfl

def Named (ms : List (List Symbol × Json)) (named : List (String × Json)) : Prop :=
  List.Forall₂ (fun m n ↦ Denotes m.1 n.1.toList ∧ m.2 = n.2) ms named

theorem denotes_ofText (s : String) : Denotes (Symbol.ofText s) s.toList :=
  denotes_map_char s.toList

theorem named_ofMembers (ms : List (String × Json)) :
    Named (ms.map (fun m ↦ (Symbol.ofText m.1, m.2))) ms :=
  List.forall₂_map_left_iff.mpr (List.forall₂_same.mpr (fun m _ ↦ ⟨denotes_ofText m.1, rfl⟩))

/-- What the members say of a field: its value, once, or nothing, and then it has its default. -/
inductive Given (named : List (String × Json)) (name : String) (default : α)
    (Means : Json → α → Prop) : α → Prop
  | once {before after : List (String × Json)} {v : Json} {a : α}
      (h : named = before ++ (name, v) :: after) (hbefore : ∀ m ∈ before, m.1 ≠ name)
      (hafter : ∀ m ∈ after, m.1 ≠ name) (hv : Means v a) : Given named name default Means a
  | omitted (h : ∀ m ∈ named, m.1 ≠ name) : Given named name default Means default

theorem filter_eq_nil {named : List (String × Json)} {name : String}
    (h : ∀ m ∈ named, m.1 ≠ name) : named.filter (fun m ↦ m.1 = name) = [] := by
  rw [List.filter_eq_nil_iff]
  intro m hm
  simpa using h m hm

theorem member?_of_once {before after : List (String × Json)} {name : String} (v : Json)
    (hbefore : ∀ m ∈ before, m.1 ≠ name) (hafter : ∀ m ∈ after, m.1 ≠ name) :
    member? (before ++ (name, v) :: after) name = some (some v) := by
  simp [member?, filter_eq_nil hbefore, filter_eq_nil hafter]

theorem member?_of_omitted {named : List (String × Json)} {name : String}
    (h : ∀ m ∈ named, m.1 ≠ name) : member? named name = some none := by
  simp [member?, filter_eq_nil h]

theorem Given.read {named : List (String × Json)} {name : String} {default a : α}
    {Means : Json → α → Prop} {read : Json → Option α} (hread : ∀ v, Means v a → read v = some a)
    (h : Given named name default Means a) :
    ∃ o, member? named name = some o ∧ orDefault default read o = some a := by
  cases h with
  | @once before after v a h hbefore hafter hv =>
    subst h
    exact ⟨some v, member?_of_once v hbefore hafter, hread v hv⟩
  | omitted h => exact ⟨none, member?_of_omitted h, rfl⟩

def ReadAs (ms : List (List Symbol × Json)) (named : List (String × Json)) : Prop :=
  List.Forall₂ (fun m n ↦ Symbol.text? m.1 = some n.1 ∧ m.2 = n.2) ms named

theorem Named.readAs {ms : List (List Symbol × Json)} {named : List (String × Json)}
    (h : Named ms named) : ReadAs ms named :=
  h.imp (fun _ _ hm ↦ ⟨text?_of_denotes hm.1, hm.2⟩)

theorem mapM_eq_some_iff_readAs {ms : List (List Symbol × Json)}
    {named : List (String × Json)} :
    ms.mapM (fun m ↦ (Symbol.text? m.1).map (fun k ↦ (k, m.2))) = some named ↔
      ReadAs ms named := by
  have hiff : ∀ m : List Symbol × Json, ∀ n : String × Json,
      (Symbol.text? m.1).map (fun k ↦ (k, m.2)) = some n ↔
        Symbol.text? m.1 = some n.1 ∧ m.2 = n.2 := by
    intro m n
    cases Symbol.text? m.1 <;> simp [Prod.ext_iff]
  rw [mapM_eq_some_iff]
  constructor
  · intro h
    exact h.imp (fun m n hm ↦ (hiff m n).mp hm)
  · intro h
    exact h.imp (fun m n hm ↦ (hiff m n).mpr hm)

theorem fields?_of_readAs {ms : List (List Symbol × Json)} {named : List (String × Json)}
    (h : ReadAs ms named) (names : List String) :
    fields? names (object ms) = names.mapM (member? named) := by
  rw [fields?, mapM_eq_some_iff_readAs.mpr h]

theorem getElem?_of_forall₂ {R : α → β → Prop} {l : List α} {bs : List β}
    (h : List.Forall₂ R l bs) {i : Nat} {a : α} (ha : l[i]? = some a) :
    ∃ b, bs[i]? = some b ∧ R a b := by
  obtain ⟨hi, rfl⟩ := List.getElem?_eq_some_iff.mp ha
  have hi' : i < bs.length := h.length_eq ▸ hi
  exact ⟨bs[i], List.getElem?_eq_getElem hi', (List.forall₂_iff_get.mp h).2 i hi hi'⟩

theorem exists_readAs {names : List String} {ms : List (List Symbol × Json)}
    {xs : List (Option Json)} (h : fields? names (object ms) = some xs) :
    ∃ named, ReadAs ms named ∧
      ∀ (i : Nat) (name : String), names[i]? = some name →
        ∃ x, xs[i]? = some x ∧ member? named name = some x := by
  cases hms : ms.mapM (fun m ↦ (Symbol.text? m.1).map (fun k ↦ (k, m.2))) with
  | none => simp [fields?, hms] at h
  | some named =>
    have hread := mapM_eq_some_iff_readAs.mp hms
    rw [fields?_of_readAs hread] at h
    exact ⟨named, hread, fun i name hi ↦ getElem?_of_forall₂ (mapM_eq_some_iff.mp h) hi⟩

theorem ReadAs.sublist {ms sub : List (List Symbol × Json)} {named : List (String × Json)}
    {name : String} (h : ReadAs ms named) (hsub : sub.Sublist ms)
    (hname : ∀ m ∈ sub, Denotes m.1 name.toList) :
    (sub.map (fun m ↦ (name, m.2))).Sublist named := by
  induction hsub generalizing named with
  | slnil => exact List.nil_sublist _
  | cons m hsub ih =>
    cases h with
    | cons hm h => exact (ih h hname).cons _
  | @cons_cons _ _ m hsub ih =>
    cases h with
    | @cons _ n _ _ hm h =>
      have hn : n = (name, m.2) := by
        have htext := hm.1
        rw [text?_of_denotes (hname m List.mem_cons_self), Option.some.injEq] at htext
        exact Prod.ext htext.symm hm.2.symm
      rw [hn, List.map_cons]
      exact (ih h (fun x hx ↦ hname x (List.mem_cons_of_mem _ hx))).cons_cons _

theorem ReadAs.sublist_filter {ms sub : List (List Symbol × Json)}
    {named : List (String × Json)} {name : String} (h : ReadAs ms named) (hsub : sub.Sublist ms)
    (hname : ∀ m ∈ sub, Denotes m.1 name.toList) :
    (sub.map (fun m ↦ (name, m.2))).Sublist (named.filter (fun m ↦ m.1 = name)) := by
  have hfilter := (h.sublist hsub hname).filter (fun m ↦ m.1 = name)
  rwa [List.filter_eq_self.mpr] at hfilter
  intro m hm
  obtain ⟨m', -, rfl⟩ := List.mem_map.mp hm
  exact decide_eq_true rfl

/-- A value gives this to a field: as a member, or in its place in an array. -/
inductive Gives (names : List String) (name : String) (x : Json) : Json → Prop
  | member {ms : List (List Symbol × Json)} {k : List Symbol} (h : (k, x) ∈ ms)
      (hk : Denotes k name.toList) : Gives names name x (object ms)
  | item {vs : List Json} {i : Nat} (hi : names[i]? = some name) (hx : vs[i]? = some x) :
      Gives names name x (array vs)

theorem Gives.eq {names : List String} {name : String} {x v : Json} {xs : List (Option Json)}
    (h : Gives names name x v) (hnd : names.Nodup) (hxs : v.fields? names = some xs) {i : Nat}
    (hi : names[i]? = some name) : xs[i]? = some (some x) := by
  cases h with
  | @member ms k hmem hk =>
    obtain ⟨named, hread, hfields⟩ := exists_readAs hxs
    obtain ⟨y, hy, hfound⟩ := hfields i name hi
    have hsub := hread.sublist_filter (List.singleton_sublist.mpr hmem) (by simpa using hk)
    rw [hy, Option.some.injEq]
    rw [member?] at hfound
    split at hfound
    · next hnone => simp [hnone] at hsub
    · next m hone =>
      rw [hone] at hsub
      obtain rfl : (name, x) = m := by simpa using hsub
      exact (Option.some.inj hfound).symm
    · cases hfound
  | @item vs j hj hx =>
    obtain ⟨hjlt, hjname⟩ := List.getElem?_eq_some_iff.mp hj
    obtain ⟨hlt, hname⟩ := List.getElem?_eq_some_iff.mp hi
    obtain rfl : i = j := hnd.getElem_inj_iff.mp (hname.trans hjname.symm)
    rw [fields?] at hxs
    split at hxs
    · obtain rfl := Option.some.inj hxs
      simp [hx, hlt]
    · cases hxs

theorem fields?_of_twice {names : List String} {name : String} {ms : List (List Symbol × Json)}
    {m m' : List Symbol × Json} (hname : name ∈ names) (h : [m, m'].Sublist ms)
    (hm : Denotes m.1 name.toList) (hm' : Denotes m'.1 name.toList) :
    fields? names (object ms) = none := by
  cases hxs : fields? names (object ms) with
  | none => rfl
  | some xs =>
    obtain ⟨i, hi⟩ := List.getElem?_of_mem hname
    obtain ⟨named, hread, hfields⟩ := exists_readAs hxs
    obtain ⟨x, -, hfound⟩ := hfields i name hi
    have hboth : ∀ n ∈ [m, m'], Denotes n.1 name.toList := by simp [hm, hm']
    have hsub := hread.sublist_filter h hboth
    rw [member?] at hfound
    split at hfound
    · next hnone => simp [hnone] at hsub
    · next hone => simpa [hone] using hsub.length_le
    · cases hfound

end RobotBus.Json
