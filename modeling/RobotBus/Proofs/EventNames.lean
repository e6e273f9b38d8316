import Mathlib.Data.List.Nodup
import RobotBus.EventNames.Request
import Std.Data.HashMap.Lemmas

namespace RobotBus

theorem EventId.toNat_ofPosition {n : Nat} (h : n < EventNames.limit) :
    (ofPosition n).val.toNat = n := by
  rw [ofPosition, UInt16.toNat_ofNat']
  exact Nat.mod_eq_of_lt h

theorem EventId.ofPosition_toNat (id : EventId) : ofPosition id.val.toNat = id := by
  simp [ofPosition]

namespace EventNames

def Acceptable (names : List String) : Prop := names.length ≤ limit ∧ names.Nodup

instance (names : List String) : Decidable (Acceptable names) :=
  inferInstanceAs (Decidable (_ ∧ _))

theorem enumerate_of_nodup {names : List String} (hnd : names.Nodup)
    (ids : Std.HashMap String EventId) (position : Nat) (hnew : ∀ name ∈ names, name ∉ ids) :
    ∃ ids', enumerate ids position names = .ok ids' ∧
      ∀ name, ids'[name]? =
        if name ∈ names then some (.ofPosition (position + names.idxOf name)) else ids[name]? := by
  induction names generalizing ids position with
  | nil => exact ⟨ids, rfl, fun name ↦ by simp⟩
  | cons first names ih =>
    obtain ⟨hfirst, hnd⟩ := List.nodup_cons.mp hnd
    have hout : first ∉ ids := hnew first List.mem_cons_self
    have hnew' : ∀ name ∈ names, name ∉ ids.insert first (.ofPosition position) := by
      intro name hname hin
      rcases Std.HashMap.mem_insert.mp hin with heq | hin
      · exact hfirst (eq_of_beq heq ▸ hname)
      · exact hnew name (List.mem_cons_of_mem _ hname) hin
    obtain ⟨ids', hok, hget⟩ := ih hnd _ (position + 1) hnew'
    refine ⟨ids', ?_, ?_⟩
    · rw [enumerate, if_neg (by simpa using hout), hok]
    · intro name
      rw [hget name, Std.HashMap.getElem?_insert]
      by_cases heq : first = name
      · subst heq
        simp [hfirst]
      · have hshift : position + 1 + names.idxOf name = position + (names.idxOf name + 1) := by
          omega
        simp [heq, Ne.symm heq, List.idxOf_cons_ne names heq, hshift]

theorem nodup_of_enumerate {names : List String} {ids ids' : Std.HashMap String EventId}
    {position : Nat} (h : enumerate ids position names = .ok ids') :
    names.Nodup ∧ ∀ name ∈ names, name ∉ ids := by
  induction names generalizing ids position with
  | nil => exact ⟨.nil, by simp⟩
  | cons first names ih =>
    rw [enumerate] at h
    split at h
    · cases h
    · next hout =>
      obtain ⟨hnd, hnew⟩ := ih h
      have hfirst : first ∉ names := fun hin ↦ hnew first hin (by simp)
      refine ⟨List.nodup_cons.mpr ⟨hfirst, hnd⟩, ?_⟩
      intro name hname
      rcases List.mem_cons.mp hname with rfl | hname
      · simpa using hout
      · exact fun hin ↦ hnew name hname (Std.HashMap.mem_insert.mpr (.inr hin))

/-- The names are those of a list, and their numbers are the positions in it. -/
structure Numbered (e : EventNames) (names : List String) : Prop where
  toList_names : e.names.toList = names
  acceptable : Acceptable names
  ids : ∀ name, e.ids[name]? =
    if name ∈ names then some (.ofPosition (names.idxOf name)) else none

theorem numbered_empty : empty.Numbered [] :=
  ⟨rfl, ⟨Nat.zero_le _, .nil⟩, fun _ ↦ by simp [empty]⟩

theorem ofList_of_acceptable {names : List String} (h : Acceptable names) :
    ∃ e, ofList names = .ok e ∧ e.Numbered names := by
  obtain ⟨ids, hok, hget⟩ := enumerate_of_nodup h.2 ∅ 0 (by simp)
  refine ⟨⟨names.toArray, ids⟩, ?_, rfl, h, ?_⟩
  · rw [ofList, if_neg (Nat.not_lt.mpr h.1), hok]
  · intro name
    simpa using hget name

theorem acceptable_of_ofList {names : List String} {e : EventNames} (h : ofList names = .ok e) :
    Acceptable names := by
  rw [ofList] at h
  split at h
  · cases h
  · next hlimit =>
    split at h
    · next hids => exact ⟨Nat.not_lt.mp hlimit, (nodup_of_enumerate hids).1⟩
    · cases h

namespace Numbered

variable {e : EventNames} {names : List String}

theorem size_eq (h : e.Numbered names) : e.size = names.length := by
  rw [size, ← Array.length_toList, h.toList_names]

theorem name?_eq (h : e.Numbered names) (id : EventId) : e.name? id = names[id.val.toNat]? := by
  rw [name?, ← Array.getElem?_toList, h.toList_names]

theorem find_of_mem (h : e.Numbered names) {name : String} (hname : name ∈ names) :
    e.find name = .ok (.ofPosition (names.idxOf name)) := by
  rw [find, h.ids, if_pos hname]

theorem find_of_not_mem (h : e.Numbered names) {name : String} (hname : name ∉ names) :
    e.find name = .error (.unknownName name) := by
  rw [find, h.ids, if_neg hname]

theorem toNat_idxOf (h : e.Numbered names) {name : String} (hname : name ∈ names) :
    (EventId.ofPosition (names.idxOf name)).val.toNat = names.idxOf name :=
  EventId.toNat_ofPosition
    (Nat.lt_of_lt_of_le (List.idxOf_lt_length_iff.mpr hname) h.acceptable.1)

theorem find_eq_ok_iff (h : e.Numbered names) (name : String) (id : EventId) :
    e.find name = .ok id ↔ name ∈ names ∧ id.val.toNat = names.idxOf name := by
  by_cases hname : name ∈ names
  · rw [h.find_of_mem hname, Except.ok.injEq]
    constructor
    · rintro rfl
      exact ⟨hname, h.toNat_idxOf hname⟩
    · rintro ⟨-, hid⟩
      rw [← hid, EventId.ofPosition_toNat]
  · simp [h.find_of_not_mem hname, hname]

theorem find_eq_ok_iff_name? (h : e.Numbered names) (name : String) (id : EventId) :
    e.find name = .ok id ↔ e.name? id = some name := by
  rw [h.find_eq_ok_iff, h.name?_eq]
  constructor
  · rintro ⟨hname, hid⟩
    rw [hid, List.getElem?_eq_getElem (List.idxOf_lt_length_iff.mpr hname), List.getElem_idxOf]
  · intro hget
    obtain ⟨hlt, rfl⟩ := List.getElem?_eq_some_iff.mp hget
    exact ⟨List.getElem_mem hlt, (h.acceptable.2.idxOf_getElem _ hlt).symm⟩

theorem listed_eq (h : e.Numbered names) :
    e.listed.map (fun l ↦ (l.name, l.id.val.toNat)) = names.zipIdx := by
  rw [listed, h.toList_names, List.map_map]
  refine (List.map_congr_left ?_).trans (List.map_id _)
  rintro ⟨name, i⟩ hmem
  have hlt : i < limit :=
    Nat.lt_of_lt_of_le (List.snd_lt_of_mem_zipIdx hmem) h.acceptable.1
  simp [EventId.toNat_ofPosition hlt]

end Numbered

def Request.offered? : Request → Option (List String)
  | .replace ns => some ns
  | .reload path file => (EventList.load path file).toOption
  | _ => none

def after (e : EventNames) (rs : List Request) : EventNames :=
  rs.foldl (fun e r ↦ (e.run r).2) e

/-- The lists that were taken in the course of some requests: those that were offered, and answered
by their sizes. -/
def taken (e : EventNames) : List Request → List (List String)
  | [] => []
  | r :: rs =>
    (match r.offered?, (e.run r).1 with
      | some offered, .size _ => [offered]
      | _, _ => []) ++ taken (e.run r).2 rs

theorem run_of_offered (e : EventNames) {r : Request} {offered : List String}
    (h : r.offered? = some offered) : e.run r = e.replaceBy (ofList offered) := by
  cases r with
  | replace ns =>
    rw [Request.offered?, Option.some.injEq] at h
    rw [run, h]
  | reload path file =>
    rw [Request.offered?] at h
    cases hload : EventList.load path file with
    | error f => simp [hload, Except.toOption] at h
    | ok ns =>
      rw [hload, Except.toOption, Option.some.injEq] at h
      rw [run, ofFile, hload, h]
  | find | locate | nameOfId | names | listed | size => cases h

theorem run_of_not_offered (e : EventNames) {r : Request} (h : r.offered? = none) :
    (e.run r).2 = e := by
  cases r with
  | replace ns => cases h
  | reload path file =>
    rw [Request.offered?] at h
    cases hload : EventList.load path file with
    | error f => rw [run, ofFile, hload, replaceBy]
    | ok ns => simp [hload, Except.toOption] at h
  | find | locate | nameOfId | names | listed | size => rfl

theorem replaceBy_ofList (e : EventNames) (offered : List String) :
    (Acceptable offered ∧ ∃ e', e'.Numbered offered ∧
        e.replaceBy (ofList offered) = (.size offered.length, e')) ∨
      ¬Acceptable offered ∧ ∃ p, e.replaceBy (ofList offered) = (.failed p, e) := by
  by_cases h : Acceptable offered
  · obtain ⟨e', hok, hn⟩ := ofList_of_acceptable h
    refine .inl ⟨h, e', hn, ?_⟩
    rw [hok, replaceBy, hn.size_eq]
  · cases hof : ofList offered with
    | ok e' => exact absurd (acceptable_of_ofList hof) h
    | error p => exact .inr ⟨h, p, rfl⟩

theorem Numbered.after {e : EventNames} {names : List String} (h : e.Numbered names)
    (rs : List Request) : (e.after rs).Numbered ((e.taken rs).getLastD names) := by
  induction rs generalizing e names with
  | nil => exact h
  | cons r rs ih =>
    rw [EventNames.after, List.foldl_cons, taken]
    cases ho : r.offered? with
    | none =>
      rw [run_of_not_offered e ho]
      exact ih h
    | some offered =>
      rw [run_of_offered e ho]
      rcases e.replaceBy_ofList offered with ⟨-, e', hn, heq⟩ | ⟨-, p, heq⟩
      · rw [heq, List.singleton_append, List.getLastD_cons]
        exact ih hn
      · rw [heq]
        exact ih h

/-- Whatever lists are offered, one after the other, names and numbers stay the inverse of each
other: the names are those of the last list that was taken, the number of a name is its position,
and no other name has a number. A list is taken exactly if it is short enough and repeats no
name. -/
theorem numbers_are_positions (rs : List Request) :
    let e := empty.after rs
    let names := e.names.toList
    names.Nodup ∧ names.length ≤ limit ∧
      (∀ name id, e.find name = .ok id ↔ e.name? id = some name) ∧
      (∀ name id, e.find name = .ok id ↔ name ∈ names ∧ id.val.toNat = names.idxOf name) ∧
      (∀ name, name ∉ names → e.find name = .error (.unknownName name)) ∧
      e.listed.map (fun l ↦ (l.name, l.id.val.toNat)) = names.zipIdx ∧
      names = (empty.taken rs).getLastD [] ∧
      ∀ r offered, r.offered? = some offered →
        ((e.run r).1 = .size offered.length ↔ offered.length ≤ limit ∧ offered.Nodup) := by
  have h := numbered_empty.after rs
  intro e names
  have hnames : names = (empty.taken rs).getLastD [] := h.toList_names
  rw [← hnames] at h
  refine ⟨h.acceptable.2, h.acceptable.1, h.find_eq_ok_iff_name?, h.find_eq_ok_iff,
    fun _ ↦ h.find_of_not_mem, h.listed_eq, hnames, ?_⟩
  intro r offered ho
  rw [run_of_offered e ho]
  rcases e.replaceBy_ofList offered with ⟨hacc, e', -, heq⟩ | ⟨hnot, p, heq⟩
  · rw [heq]
    exact ⟨fun _ ↦ hacc, fun _ ↦ rfl⟩
  · rw [heq]
    exact ⟨nofun, fun hacc ↦ absurd hacc hnot⟩

end EventNames

end RobotBus
