import Mathlib.Order.Bounds.Basic
import RobotBus.Proofs.EventNames

namespace RobotBus.EventNames

def Repeats (names : List String) (i : Nat) : Prop :=
  ∃ name, names[i]? = some name ∧ name ∈ names.take i

inductive Refused (names : List String) : Problem → Prop
  | tooMany (h : limit < names.length) : Refused names (.tooManyNames names.length)
  | repeated {i : Nat} {name : String} (h : names.length ≤ limit)
      (hi : IsLeast {i | Repeats names i} i) (hname : names[i]? = some name) :
      Refused names (.repeatedName name)

theorem nodup_iff_not_repeats (names : List String) : names.Nodup ↔ ∀ i, ¬Repeats names i := by
  constructor
  · rintro hnd i ⟨name, hname, hmem⟩
    obtain ⟨hi, rfl⟩ := List.getElem?_eq_some_iff.mp hname
    obtain ⟨j, hj, heq⟩ := List.mem_take_iff_getElem.mp hmem
    have hji : j = i := (hnd.getElem_inj_iff).mp heq
    omega
  · intro h
    refine List.pairwise_iff_getElem.mpr ?_
    intro i j hi hj hij heq
    refine h j ⟨names[j], List.getElem?_eq_getElem hj, ?_⟩
    rw [← heq]
    exact List.mem_take_iff_getElem.mpr ⟨i, by omega, rfl⟩

/-- As long as the names with a number are those that have been seen, the first that is seen again
is the one told. -/
theorem isLeast_of_enumerate {seen names : List String} {ids : Std.HashMap String EventId}
    {position : Nat} {name : String} (hnd : seen.Nodup) (hids : ∀ x, x ∈ ids ↔ x ∈ seen)
    (h : enumerate ids position names = .error name) :
    ∃ i, IsLeast {i | Repeats (seen ++ names) i} i ∧ (seen ++ names)[i]? = some name := by
  induction names generalizing seen ids position with
  | nil => cases h
  | cons first names ih =>
    rw [enumerate] at h
    split at h
    · next hfirst =>
      cases h
      have hseen : name ∈ seen := (hids name).mp (by simpa using hfirst)
      have hat : (seen ++ name :: names)[seen.length]? = some name := by simp
      refine ⟨seen.length, ⟨⟨name, hat, by simpa using hseen⟩, ?_⟩, hat⟩
      rintro j ⟨other, hother, hmem⟩
      by_contra hlt
      -- before the end of what has been seen nothing is repeated
      have hj : j < seen.length := by omega
      refine (nodup_iff_not_repeats seen).mp hnd j ⟨other, ?_, ?_⟩
      · rwa [List.getElem?_append_left hj] at hother
      · rwa [List.take_append_of_le_length hj.le] at hmem
    · next hfirst =>
      have hnew : first ∉ seen := fun hin ↦ hfirst (by simpa using (hids first).mpr hin)
      have hnd' : (seen ++ [first]).Nodup := by
        simpa [List.nodup_append] using ⟨hnd, fun x hx heq ↦ hnew (heq ▸ hx)⟩
      have hids' : ∀ x, x ∈ ids.insert first (.ofPosition position) ↔ x ∈ seen ++ [first] := by
        intro x
        rw [Std.HashMap.mem_insert, hids, List.mem_append, List.mem_singleton, beq_iff_eq,
          or_comm, eq_comm (a := first)]
      simpa using ih hnd' hids' h

theorem not_acceptable_of_refused {names : List String} {p : Problem} (h : Refused names p) :
    ¬Acceptable names := by
  rintro ⟨hle, hnd⟩
  cases h with
  | tooMany hlt => exact Nat.not_lt.mpr hle hlt
  | repeated _ hi => exact (nodup_iff_not_repeats names).mp hnd _ hi.1

theorem refused_of_ofList {names : List String} {p : Problem} (h : ofList names = .error p) :
    Refused names p := by
  rw [ofList] at h
  split at h
  · next hlt =>
    cases h
    exact .tooMany hlt
  · next hle =>
    split at h
    · cases h
    · next name hname =>
      cases h
      obtain ⟨i, hi, hat⟩ := isLeast_of_enumerate List.nodup_nil (by simp) hname
      exact .repeated (Nat.not_lt.mp hle) hi hat

theorem Refused.unique {names : List String} {p q : Problem} (h : Refused names p)
    (h' : Refused names q) : p = q := by
  cases h with
  | tooMany hlt =>
    cases h' with
    | tooMany => rfl
    | repeated hle => exact absurd hlt (Nat.not_lt.mpr hle)
  | repeated hle hi hname =>
    cases h' with
    | tooMany hlt => exact absurd hlt (Nat.not_lt.mpr hle)
    | repeated _ hi' hname' =>
      rw [hi.unique hi', hname'] at hname
      cases hname
      rfl

theorem ofList_eq_error_iff (names : List String) (p : Problem) :
    ofList names = .error p ↔ Refused names p := by
  refine ⟨refused_of_ofList, fun h ↦ ?_⟩
  cases hof : ofList names with
  | ok e => exact absurd (acceptable_of_ofList hof) (not_acceptable_of_refused h)
  | error q => rw [h.unique (refused_of_ofList hof)]

inductive Unloadable (path : String) (file : StoredFile) : Problem → Prop
  | unreadable {f : ReadFailure} (h : file.read = .error f) :
      Unloadable path file (.unreadableList path (.unreadable f))
  | malformed {text : String} {f : EventList.Failure} (h : file.read = .ok text)
      (hparse : (EventList.Format.ofPath path).parse text = .error f) :
      Unloadable path file (.unreadableList path (.malformed f))

def Lists (path : String) (file : StoredFile) (names : List String) : Prop :=
  ∃ text, file.read = .ok text ∧ (EventList.Format.ofPath path).parse text = .ok names

theorem unloadable_or_lists (path : String) (file : StoredFile) :
    (∃ p, Unloadable path file p) ∨ ∃ names, Lists path file names := by
  cases hread : file.read with
  | error f => exact .inl ⟨_, .unreadable hread⟩
  | ok text =>
    cases hparse : (EventList.Format.ofPath path).parse text with
    | error f => exact .inl ⟨_, .malformed hread hparse⟩
    | ok names => exact .inr ⟨names, text, hread, hparse⟩

section

variable (e : EventNames) {path : String} {file : StoredFile}

theorem replaceBy_failed_iff (x : Except Problem EventNames) (p : Problem) :
    (e.replaceBy x).1 = .failed p ↔ x = .error p := by
  cases x with
  | ok e' => simp [replaceBy]
  | error q => simp [replaceBy]

theorem run_replace_size_iff (names : List String) (n : Nat) :
    (e.run (.replace names)).1 = .size n ↔ Acceptable names ∧ n = names.length := by
  rw [run]
  rcases e.replaceBy_ofList names with ⟨hacc, e', -, heq⟩ | ⟨hnot, p, heq⟩
  · simp [heq, hacc, eq_comm]
  · simp [heq, hnot]

theorem run_replace_failed_iff (names : List String) (p : Problem) :
    (e.run (.replace names)).1 = .failed p ↔ Refused names p :=
  (e.replaceBy_failed_iff _ p).trans (ofList_eq_error_iff names p)

theorem run_reload_of_lists {names : List String} (h : Lists path file names) :
    e.run (.reload path file) = e.run (.replace names) := by
  obtain ⟨text, hread, hparse⟩ := h
  simp [run, ofFile, EventList.load, hread, hparse]

theorem run_reload_of_unloadable {p : Problem} (h : Unloadable path file p) :
    e.run (.reload path file) = (.failed p, e) := by
  cases h with
  | unreadable hread => simp [run, ofFile, EventList.load, hread, replaceBy]
  | malformed hread hparse => simp [run, ofFile, EventList.load, hread, hparse, replaceBy]

theorem run_reload_size_iff (n : Nat) :
    (e.run (.reload path file)).1 = .size n ↔
      ∃ names, Lists path file names ∧ Acceptable names ∧ n = names.length := by
  constructor
  · intro h
    rcases unloadable_or_lists path file with ⟨p, hp⟩ | ⟨names, hlists⟩
    · simp [e.run_reload_of_unloadable hp] at h
    · rw [e.run_reload_of_lists hlists] at h
      exact ⟨names, hlists, (e.run_replace_size_iff names n).mp h⟩
  · rintro ⟨names, hlists, h⟩
    rw [e.run_reload_of_lists hlists]
    exact (e.run_replace_size_iff names n).mpr h

theorem run_reload_failed_iff (p : Problem) :
    (e.run (.reload path file)).1 = .failed p ↔
      Unloadable path file p ∨ ∃ names, Lists path file names ∧ Refused names p := by
  constructor
  · intro h
    rcases unloadable_or_lists path file with ⟨q, hq⟩ | ⟨names, hlists⟩
    · rw [e.run_reload_of_unloadable hq, Answer.failed.injEq] at h
      exact .inl (h ▸ hq)
    · rw [e.run_reload_of_lists hlists] at h
      exact .inr ⟨names, hlists, (e.run_replace_failed_iff names p).mp h⟩
  · rintro (h | ⟨names, hlists, h⟩)
    · rw [e.run_reload_of_unloadable h]
    · rw [e.run_reload_of_lists hlists]
      exact (e.run_replace_failed_iff names p).mpr h

end

theorem run_of_failed {e : EventNames} {r : Request} {p : Problem}
    (h : (e.run r).1 = .failed p) : (e.run r).2 = e := by
  cases ho : r.offered? with
  | none => exact run_of_not_offered e ho
  | some offered =>
    rw [run_of_offered e ho] at h ⊢
    rw [(e.replaceBy_failed_iff _ p).mp h, replaceBy]

/-- Whatever the names are: a list takes their place if it is not too long and repeats no name. If
it does not, the length is told where that is the reason, and otherwise the name that is the first
to occur again. A file has the same effect as the list in it, and fails if there is none. After
each failure the names are what they were, and so is every answer about them. -/
theorem taken_or_refused (e : EventNames) (names : List String) (path : String)
    (file : StoredFile) :
    (∀ n, (e.run (.replace names)).1 = .size n ↔
      (names.length ≤ limit ∧ names.Nodup) ∧ n = names.length) ∧
    (∀ p, (e.run (.replace names)).1 = .failed p ↔ Refused names p) ∧
    (∀ n, (e.run (.reload path file)).1 = .size n ↔
      ∃ listed, Lists path file listed ∧
        (listed.length ≤ limit ∧ listed.Nodup) ∧ n = listed.length) ∧
    (∀ listed, Lists path file listed →
      e.run (.reload path file) = e.run (.replace listed)) ∧
    (∀ p, (e.run (.reload path file)).1 = .failed p ↔
      Unloadable path file p ∨ ∃ listed, Lists path file listed ∧ Refused listed p) ∧
    ∀ r p, (e.run r).1 = .failed p → (e.run r).2 = e :=
  ⟨e.run_replace_size_iff names, e.run_replace_failed_iff names, e.run_reload_size_iff,
    fun _ ↦ e.run_reload_of_lists, e.run_reload_failed_iff, fun _ _ ↦ run_of_failed⟩

theorem taken_or_refused_of_repeats :
    let names := ["near", "far", "near", "far"]
    (empty.run (.replace names)).1 = .failed (.repeatedName "near") ∧
      (empty.run (.replace names)).2 = empty := by
  intro names
  obtain ⟨-, hfailed, -, -, -, hkept⟩ := taken_or_refused empty names "near.aesl" .missing
  have hleast : IsLeast {i | Repeats names i} 2 := by
    refine ⟨⟨"near", rfl, by decide⟩, ?_⟩
    rintro i ⟨name, hname, hmem⟩
    match i, hname, hmem with
    | 0, _, hmem => simp at hmem
    | 1, hname, hmem => simp_all [names]
    | _ + 2, _, _ => omega
  have hrefused := (hfailed _).mpr (.repeated (by decide) hleast rfl)
  exact ⟨hrefused, hkept _ _ hrefused⟩

end RobotBus.EventNames
