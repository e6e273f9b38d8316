import Mathlib.Data.List.Nodup
import Mathlib.Order.RelClasses
import Mathlib.Tactic.SplitIfs
import RobotBus.Directory

namespace RobotBus.Directory

variable {α β γ : Type}

def keep (p : α → Bool) (t : Directory α β) : Directory α β :=
  ⟨t.entries.filter (fun e ↦ p e.1)⟩

theorem keep_keep (p q : α → Bool) (t : Directory α β) :
    (t.keep p).keep q = t.keep (fun k ↦ q k && p k) := by
  simp only [keep, List.filter_filter]

theorem keep_eq_self {p : α → Bool} {t : Directory α β} (h : ∀ k ∈ t.keys, p k = true) :
    t.keep p = t := by
  obtain ⟨m⟩ := t
  rw [keep, List.filter_eq_self.mpr fun e he ↦ h e.1 (List.mem_map_of_mem he)]

theorem keep_congr {p q : α → Bool} {t : Directory α β} (h : ∀ k ∈ t.keys, p k = q k) :
    t.keep p = t.keep q := by
  rw [keep, keep, List.filter_congr fun e he ↦ h e.1 (List.mem_map_of_mem he)]

theorem keys_keep (p : α → Bool) (t : Directory α β) : (t.keep p).keys = t.keys.filter p := by
  rw [keys, keys, keep, List.filter_map]
  rfl

def mapValues (f : β → γ) (t : Directory α β) : Directory α γ :=
  ⟨t.entries.map (fun e ↦ (e.1, f e.2))⟩

/-- The same keys, with related values. -/
def Alongside (P : β → γ → Prop) (t : Directory α β) (t' : Directory α γ) : Prop :=
  List.Forall₂ (fun e e' ↦ e.1 = e'.1 ∧ P e.2 e'.2) t.entries t'.entries

theorem Alongside.mapValues_eq {δ : Type} {P : β → γ → Prop} {f : β → δ} {g : γ → δ}
    {t : Directory α β} {t' : Directory α γ} (h : Alongside P t t')
    (hfg : ∀ v v', P v v' → f v = g v') : t.mapValues f = t'.mapValues g := by
  obtain ⟨m⟩ := t
  obtain ⟨m'⟩ := t'
  simp only [Alongside, mapValues, mk.injEq] at h ⊢
  induction h with
  | nil => rfl
  | cons he _ ih => rw [List.map_cons, List.map_cons, ih, he.1, hfg _ _ he.2]

variable [DecidableEq α]

@[simp] theorem contains_empty (k : α) : (empty : Directory α β).contains k = false := rfl

theorem contains_eq_true_iff (t : Directory α β) (k : α) :
    t.contains k = true ↔ ∃ v, t.get? k = some v := Option.isSome_iff_exists

theorem mem_entries_of_get? {t : Directory α β} {k : α} {v : β} (h : t.get? k = some v) :
    (k, v) ∈ t.entries := by
  obtain ⟨m⟩ := t
  simp only [get?] at h ⊢
  induction m with
  | nil => simp [lookup] at h
  | cons e m ih =>
    obtain ⟨k', v'⟩ := e
    simp only [lookup] at h
    split at h
    · next hk => subst hk; simp_all
    · exact List.mem_cons_of_mem _ (ih h)

theorem mem_keys_iff (t : Directory α β) (k : α) : k ∈ t.keys ↔ t.contains k = true := by
  obtain ⟨m⟩ := t
  simp only [keys, contains, get?]
  induction m with
  | nil => simp [lookup]
  | cons e m ih =>
    obtain ⟨k', v'⟩ := e
    by_cases hk : k' = k
    · simp [lookup, hk]
    · simp only [List.map_cons, List.mem_cons, lookup, if_neg hk, ih, Ne.symm hk, false_or]

@[simp] theorem contains_erase (t : Directory α β) (k k' : α) :
    (t.erase k).contains k' = (decide (k ≠ k') && t.contains k') := by
  by_cases h : k = k' <;> simp [contains, h]

@[simp] theorem get?_keep (p : α → Bool) (t : Directory α β) (k : α) :
    (t.keep p).get? k = if p k then t.get? k else none := by
  obtain ⟨m⟩ := t
  simp only [get?, keep]
  induction m with
  | nil => simp [lookup]
  | cons e m ih =>
    obtain ⟨k', v'⟩ := e
    by_cases hk : k' = k
    · subst hk
      cases hp : p k' <;> simp_all [lookup]
    · cases hp : p k' <;> simp [lookup, hp, hk, ih]

theorem erase_eq_keep (t : Directory α β) (k : α) : t.erase k = t.keep (fun k' ↦ k' ≠ k) := rfl

@[simp] theorem get?_mapValues (f : β → γ) (t : Directory α β) (k : α) :
    (t.mapValues f).get? k = (t.get? k).map f := by
  obtain ⟨m⟩ := t
  simp only [get?, mapValues]
  induction m with
  | nil => rfl
  | cons e m ih =>
    simp only [List.map_cons, lookup]
    split
    · rfl
    · exact ih

theorem Alongside.get? {P : β → γ → Prop} {t : Directory α β} {t' : Directory α γ}
    (h : Alongside P t t') (k : α) : Option.Rel P (t.get? k) (t'.get? k) := by
  obtain ⟨m⟩ := t
  obtain ⟨m'⟩ := t'
  simp only [Alongside, Directory.get?] at h ⊢
  induction h with
  | nil => exact .none
  | @cons e e' m m' he _ ih =>
    simp only [lookup, ← he.1]
    split
    · exact .some he.2
    · exact ih

variable [LT α] [DecidableLT α]

@[simp] theorem contains_insert (t : Directory α β) (k k' : α) (v : β) :
    (t.insert k v).contains k' = (decide (k = k') || t.contains k') := by
  by_cases h : k = k' <;> simp [contains, h]

theorem get?_ofList (l : List (α × β)) (k : α) :
    (ofList l).get? k = (l.reverse.find? (fun e ↦ e.1 = k)).map Prod.snd := by
  have key (t : Directory α β) : (l.foldl (fun t e ↦ t.insert e.1 e.2) t).get? k =
      ((l.reverse.find? (fun e ↦ e.1 = k)).map Prod.snd).or (t.get? k) := by
    induction l generalizing t with
    | nil => rfl
    | cons e l ih =>
      rw [List.foldl_cons, ih, get?_insert, List.reverse_cons, List.find?_append]
      cases l.reverse.find? (fun e ↦ e.1 = k) with
      | some e' => rfl
      | none => by_cases he : e.1 = k <;> simp [he]
  rw [ofList, key, get?_empty, Option.or_none]

def Sorted (t : Directory α β) : Prop := t.entries.Pairwise (fun e e' ↦ e.1 < e'.1)

omit [DecidableEq α] [DecidableLT α] in
theorem sorted_empty : (empty : Directory α β).Sorted := .nil

omit [DecidableLT α] in
theorem Sorted.erase {t : Directory α β} (h : t.Sorted) (k : α) : (t.erase k).Sorted :=
  List.Pairwise.filter _ h

theorem mem_store {k : α} {v : β} {e : α × β} {m : List (α × β)} (h : e ∈ store k v m) :
    e = (k, v) ∨ e ∈ m := by
  induction m with
  | nil => simpa [store] using h
  | cons e' m ih =>
    obtain ⟨k', v'⟩ := e'
    simp only [store] at h
    split_ifs at h with heq
    · rcases List.mem_cons.mp h with h | h
      · exact .inl h
      · exact .inr (List.mem_cons_of_mem _ h)
    · exact List.mem_cons.mp h
    · rcases List.mem_cons.mp h with h | h
      · exact .inr (h ▸ List.mem_cons_self)
      · exact (ih h).imp_right (List.mem_cons_of_mem _)

theorem mapValues_insert (f : β → γ) (t : Directory α β) (k : α) (v : β) :
    (t.insert k v).mapValues f = (t.mapValues f).insert k (f v) := by
  obtain ⟨m⟩ := t
  simp only [mapValues, insert, mk.injEq]
  induction m with
  | nil => rfl
  | cons e m ih =>
    simp only [store, List.map_cons]
    split
    · rfl
    · split
      · rfl
      · rw [List.map_cons, ih]

theorem Alongside.insert {P : β → γ → Prop} {t : Directory α β} {t' : Directory α γ}
    (h : Alongside P t t') (k : α) {v : β} {v' : γ} (hv : P v v') :
    Alongside P (t.insert k v) (t'.insert k v') := by
  obtain ⟨m⟩ := t
  obtain ⟨m'⟩ := t'
  simp only [Alongside, Directory.insert] at h ⊢
  induction h with
  | nil => exact .cons ⟨rfl, hv⟩ .nil
  | @cons e e' m m' he hm ih =>
    obtain ⟨k₁, v₁⟩ := e
    obtain ⟨k₂, v₂⟩ := e'
    obtain ⟨rfl, he⟩ := he
    simp only [store]
    split
    · exact .cons ⟨rfl, hv⟩ hm
    · split
      · exact .cons ⟨rfl, hv⟩ (.cons ⟨rfl, he⟩ hm)
      · exact .cons ⟨rfl, he⟩ ih

omit [DecidableEq α] [DecidableLT α] in
theorem Sorted.mapValues {t : Directory α β} (h : t.Sorted) (f : β → γ) :
    (t.mapValues f).Sorted :=
  List.pairwise_map.mpr h

variable [IsStrictTotalOrder α (· < ·)]

theorem Sorted.insert {t : Directory α β} (h : t.Sorted) (k : α) (v : β) :
    (t.insert k v).Sorted := by
  obtain ⟨m⟩ := t
  simp only [Sorted, Directory.insert] at h ⊢
  induction m with
  | nil => simp [store]
  | cons e m ih =>
    obtain ⟨k', v'⟩ := e
    obtain ⟨hlow, hm⟩ := List.pairwise_cons.mp h
    simp only [store]
    split_ifs with heq hlt
    · subst heq
      exact .cons hlow hm
    · refine .cons ?_ h
      intro e he
      rcases List.mem_cons.mp he with rfl | he
      · exact hlt
      · exact trans_of (· < ·) hlt (hlow e he)
    · refine .cons ?_ (ih hm)
      intro e he
      rcases mem_store he with rfl | he
      · exact ((trichotomous_of (· < ·) k k').resolve_left hlt).resolve_left (Ne.symm heq)
      · exact hlow e he

omit [DecidableEq α] [DecidableLT α] in
theorem Sorted.nodup_keys {t : Directory α β} (h : t.Sorted) : t.keys.Nodup := by
  refine List.pairwise_map.mpr (h.imp ?_)
  rintro ⟨k, v⟩ ⟨k', v'⟩ hlt rfl
  exact irrefl k hlt

omit [DecidableLT α] in
theorem Sorted.get?_eq_some_iff {t : Directory α β} (h : t.Sorted) (k : α) (v : β) :
    t.get? k = some v ↔ (k, v) ∈ t.entries := by
  refine ⟨mem_entries_of_get?, ?_⟩
  intro hm
  obtain ⟨m⟩ := t
  simp only [Sorted, get?] at h hm ⊢
  induction m with
  | nil => cases hm
  | cons e m ih =>
    obtain ⟨k', v'⟩ := e
    obtain ⟨hlow, hs⟩ := List.pairwise_cons.mp h
    rcases List.mem_cons.mp hm with he | hm
    · simp_all [lookup]
    · have hne : k' ≠ k := fun hk ↦ irrefl k (hk ▸ hlow _ hm)
      simp [lookup, hne, ih hs hm]

omit [DecidableEq α] [DecidableLT α] in
theorem Sorted.nodup_entries {t : Directory α β} (h : t.Sorted) : t.entries.Nodup :=
  List.Nodup.of_map Prod.fst h.nodup_keys

omit [DecidableLT α] in
/-- A directory in order is known by what is found in it. -/
theorem Sorted.ext {t t' : Directory α β} (h : t.Sorted) (h' : t'.Sorted)
    (heq : ∀ k, t.get? k = t'.get? k) : t = t' := by
  have hmem : ∀ e, e ∈ t.entries ↔ e ∈ t'.entries := by
    rintro ⟨k, v⟩
    rw [← h.get?_eq_some_iff, ← h'.get?_eq_some_iff, heq]
  have hperm : t.entries.Perm t'.entries :=
    (List.perm_ext_iff_of_nodup h.nodup_entries h'.nodup_entries).mpr hmem
  have hentries : t.entries = t'.entries := by
    refine hperm.eq_of_pairwise ?_ h h'
    intro e e' _ _ hlt hgt
    exact absurd (trans_of (· < ·) hlt hgt) (irrefl e.1)
  cases t; cases t'
  exact congrArg _ hentries

theorem Sorted.insert_of_get? {t : Directory α β} (h : t.Sorted) {k : α} {v : β}
    (hk : t.get? k = some v) : t.insert k v = t := by
  refine (h.insert k v).ext h fun k' ↦ ?_
  rw [get?_insert]
  split
  · next heq => rw [← heq, hk]
  · rfl

end RobotBus.Directory
