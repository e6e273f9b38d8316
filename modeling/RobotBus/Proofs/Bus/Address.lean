import RobotBus.Proofs.Bus.Forwarding
import RobotBus.Proofs.Json.Numeral

namespace RobotBus

namespace Text

/-- How a number is written in digits: perhaps with a plus sign, then with zeros, in front. -/
structure Spelling where
  plus : Bool
  zeros : Nat
deriving DecidableEq

theorem isDigit_of_digit? {c : Char} {d : Nat} (h : digit? 10 c = some d) :
    c.isDigit ∧ c.toNat - '0'.toNat = d := by
  have hdigit : c.isDigit := by
    obtain ⟨hsome, hlt⟩ := Option.filter_eq_some_iff.mp h
    rw [decide_eq_true_eq] at hlt
    split at hsome
    · next hb =>
      rw [Char.isDigit, Bool.and_eq_true, decide_eq_true_eq, decide_eq_true_eq]
      exact hb
    · split at hsome
      · next hb =>
        have hle : 97 ≤ c.toNat := hb.1
        have hd := Option.some.inj hsome
        omega
      · split at hsome
        · next hb =>
          have hle : 65 ≤ c.toNat := hb.1
          have hd := Option.some.inj hsome
          omega
        · cases hsome
  rw [digit?_of_isDigit hdigit] at h
  exact ⟨hdigit, Option.some.inj h⟩

theorem isDigit_of_numberFrom? {s : List Char} {k n : Nat} (h : numberFrom? 10 k s = some n) :
    ∀ c ∈ s, c.isDigit := by
  induction s generalizing k with
  | nil => exact List.forall_mem_nil _
  | cons c s ih =>
    rw [numberFrom?] at h
    split at h
    · next d hd => exact List.forall_mem_cons.mpr ⟨(isDigit_of_digit? hd).1, ih h⟩
    · cases h

theorem cons_eq_toDigits {c : Char} {s : List Char} {d n : Nat} (hd : digit? 10 c = some d)
    (hpos : 0 < d) (h : numberFrom? 10 d s = some n) : c :: s = Nat.toDigits 10 n := by
  obtain ⟨hdigit, rfl⟩ := isDigit_of_digit? hd
  obtain ⟨hlt, hchar⟩ := Json.digitChar_of_isDigit hdigit
  have hall := isDigit_of_numberFrom? h
  rw [numberFrom?_of_digits hall, Option.some.injEq] at h
  have hwhole := Json.toDigits_append hpos hall
  rwa [Nat.toDigits_of_lt_base hlt, hchar, h] at hwhole

theorem eq_zero_of_digit? {c : Char} (h : digit? 10 c = some 0) : c = '0' := by
  obtain ⟨hdigit, hzero⟩ := isDigit_of_digit? h
  obtain ⟨-, hchar⟩ := Json.digitChar_of_isDigit hdigit
  rw [hzero] at hchar
  exact hchar.symm

theorem number?_zeros (zeros n : Nat) :
    number? 10 (List.replicate zeros '0' ++ Nat.toDigits 10 n) = some n := by
  have hall : ∀ c ∈ List.replicate zeros '0' ++ Nat.toDigits 10 n, c.isDigit := by
    intro c hc
    rcases List.mem_append.mp hc with hc | hc
    · rw [List.eq_of_mem_replicate hc]
      rfl
    · exact Nat.isDigit_of_mem_toDigits (by decide) (by decide) hc
  have hread := numberFrom?_of_digits hall 0
  rw [Nat.ofDigitChars_append, Nat.ofDigitChars_replicate_zero, Nat.mul_zero,
    Nat.ofDigitChars_ten_toDigits] at hread
  rwa [number?]
  intro hnil
  exact Nat.toDigits_ne_nil (List.append_eq_nil_iff.mp hnil).2

theorem number?_eq_some_iff {s : List Char} {n : Nat} :
    number? 10 s = some n ↔ ∃ zeros, s = List.replicate zeros '0' ++ Nat.toDigits 10 n := by
  constructor
  · induction s with
    | nil => rintro ⟨⟩
    | cons c s ih =>
      intro h
      rw [number?, numberFrom?] at h
      · split at h
        · next d hd =>
          rw [Nat.mul_zero, Nat.zero_add] at h
          rcases Nat.eq_zero_or_pos d with rfl | hpos
          · obtain rfl := eq_zero_of_digit? hd
            cases s with
            | nil =>
              obtain rfl := Option.some.inj h
              exact ⟨0, rfl⟩
            | cons e s =>
              obtain ⟨zeros, hs⟩ := ih h
              exact ⟨zeros + 1, congrArg ('0' :: ·) hs⟩
          · exact ⟨0, cons_eq_toDigits hd hpos h⟩
        · cases h
      · rintro ⟨⟩
  · rintro ⟨zeros, rfl⟩
    exact number?_zeros zeros n

namespace Spelling

def plain : Spelling := ⟨false, 0⟩

def write (w : Spelling) (n : Nat) : List Char :=
  (if w.plus then ['+'] else []) ++ (List.replicate w.zeros '0' ++ Nat.toDigits 10 n)

theorem plus_mem_write_iff (w : Spelling) (n : Nat) : '+' ∈ w.write n ↔ w.plus = true := by
  have hzeros : '+' ∉ List.replicate w.zeros '0' := by simp
  have hdigits : '+' ∉ Nat.toDigits 10 n := fun hc ↦
    absurd (Nat.isDigit_of_mem_toDigits (by decide) (by decide) hc) (by decide)
  cases h : w.plus <;> simp [write, h, hzeros, hdigits]

end Spelling

theorem unsigned?_eq_some_iff {s : List Char} {n : Nat} :
    unsigned? 10 s = some n ↔ ∃ w : Spelling, s = w.write n := by
  constructor
  · intro h
    rw [unsigned?.eq_def] at h
    split at h
    · obtain ⟨zeros, rfl⟩ := number?_eq_some_iff.mp h
      exact ⟨⟨true, zeros⟩, rfl⟩
    · obtain ⟨zeros, rfl⟩ := number?_eq_some_iff.mp h
      exact ⟨⟨false, zeros⟩, rfl⟩
  · rintro ⟨⟨plus, zeros⟩, rfl⟩
    have hread := number?_zeros zeros n
    cases plus with
    | true => exact hread
    | false =>
      rw [unsigned?.eq_def]
      split
      · next s hs =>
        have hmem : '+' ∈ Spelling.write ⟨false, zeros⟩ n := hs ▸ List.mem_cons_self
        cases (Spelling.plus_mem_write_iff _ n).mp hmem
      · exact hread

theorem Spelling.write_inj {w w' : Spelling} {n n' : Nat} :
    w.write n = w'.write n' ↔ w = w' ∧ n = n' := by
  constructor
  · intro h
    have hn : unsigned? 10 (w.write n) = some n := unsigned?_eq_some_iff.mpr ⟨w, rfl⟩
    have hn' : unsigned? 10 (w.write n) = some n' := unsigned?_eq_some_iff.mpr ⟨w', h⟩
    obtain rfl := Option.some.inj (hn.symm.trans hn')
    have hplus : w.plus = w'.plus := by
      rw [Bool.eq_iff_iff, ← plus_mem_write_iff w n, ← plus_mem_write_iff w' n, h]
    have hlength := congrArg List.length h
    simp only [write, hplus, List.length_append, List.length_replicate] at hlength
    have hzeros : w.zeros = w'.zeros := by omega
    obtain ⟨plus, zeros⟩ := w
    obtain ⟨plus', zeros'⟩ := w'
    exact ⟨congr (congrArg Spelling.mk hplus) hzeros, rfl⟩
  · rintro ⟨rfl, rfl⟩
    rfl

end Text

namespace Bus

open Text

variable {ρ : Type} {b : Bus ρ}

/-- The path that ends in the number of a filter, spelled in some way. -/
def pathSpelled (w : Spelling) (n : Nat) : String :=
  String.ofList ((filtersPath ++ "/").toList ++ w.write n)

theorem pathSpelled_inj {w w' : Spelling} {n n' : Nat} :
    pathSpelled w n = pathSpelled w' n' ↔ w = w' ∧ n = n' := by
  rw [pathSpelled, pathSpelled, String.ofList_inj, List.append_cancel_left_eq, Spelling.write_inj]

theorem pathSpelled_plain (n : Nat) : pathSpelled .plain n = pathOfFilter n := by
  rw [← String.toList_inj, toList_pathOfFilter, pathSpelled, String.toList_ofList]
  rfl

theorem numberInPath?_eq_some_iff {path : String} {n : Nat} :
    numberInPath? path = some n ↔ n < filterBound ∧ ∃ w, path = pathSpelled w n := by
  rw [numberInPath?]
  constructor
  · intro h
    split at h
    · cases h
    · next s hs =>
      obtain ⟨hread, hlt⟩ := Option.filter_eq_some_iff.mp h
      obtain ⟨w, rfl⟩ := unsigned?_eq_some_iff.mp hread
      refine ⟨of_decide_eq_true hlt, w, ?_⟩
      rw [pathSpelled, ← after?_eq_some_iff.mp hs, String.ofList_toList]
  · rintro ⟨hlt, w, rfl⟩
    have hafter : after? (filtersPath ++ "/").toList (pathSpelled w n).toList = some (w.write n) :=
      after?_eq_some_iff.mpr (String.toList_ofList)
    simp only [hafter]
    exact Option.filter_eq_some_iff.mpr ⟨unsigned?_eq_some_iff.mpr ⟨w, rfl⟩, decide_eq_true hlt⟩

/-- There is a filter whose number the path ends in. -/
def Addressed (b : Bus ρ) (path : String) : Prop :=
  ∃ n w, b.filters.contains n = true ∧ path = pathSpelled w n

theorem exists_liveFilter?_iff (hs : b.Sound) (hbound : b.nextFilter ≤ filterBound)
    (path : String) : (∃ n, b.liveFilter? path = some n) ↔ b.Addressed path := by
  constructor
  · rintro ⟨n, hn⟩
    obtain ⟨hnumber, hlive⟩ := (liveFilter?_eq_some_iff b path n).mp hn
    obtain ⟨-, w, hw⟩ := numberInPath?_eq_some_iff.mp hnumber
    exact ⟨n, w, (Directory.contains_eq_true_iff _ _).mpr hlive, hw⟩
  · rintro ⟨n, w, hlive, hw⟩
    have hlt := hs.filter_lt n hlive
    refine ⟨n, (liveFilter?_eq_some_iff b path n).mpr ⟨?_, ?_⟩⟩
    · exact numberInPath?_eq_some_iff.mpr ⟨by omega, w, hw⟩
    · exact (Directory.contains_eq_true_iff _ _).mp hlive

theorem isSome_allowed?_iff (path : String) :
    (b.allowed? path).isSome ↔ ∃ n, b.liveFilter? path = some n := by
  simp only [allowed?, Option.isSome_map, Option.isSome_iff_exists, Option.bind_eq_some_iff,
    liveFilter?_eq_some_iff]
  constructor
  · rintro ⟨ids, n, hn, hids⟩
    exact ⟨n, hn, ids, hids⟩
  · rintro ⟨n, hn, ids, hids⟩
    exact ⟨ids, n, hn, hids⟩

def NotFound (r : Reply) : Prop := ∃ f, r = .error f ∧ f.isUnknownObject = true

theorem FilterOrder.isUnknownObject_of_error {method : String} {args : List Value} {f : Fault}
    (h : FilterOrder.ofCall method args = .error f) : f.isUnknownObject = false := by
  unfold FilterOrder.ofCall at h
  split at h
  · split at h <;> cases h
    decide
  · cases h
  · obtain rfl := Except.error.inj h
    change decide ("org.freedesktop.DBus.Error.UnknownMethod" = Fault.unknownObjectName) = false
    decide

theorem serveFilter_fst (b : Bus ρ) (n : Nat) (o : FilterOrder) :
    (b.serveFilter n o).1 = .ok [] := by
  cases o with
  | allow id =>
    rw [serveFilter]
    split <;> rfl
  | free => rfl

/-- A call that gets as far as the service fails for want of an object exactly if no filter is
live. -/
theorem notFound_call_iff {method : String} (hno : b.refusal? method = none) (path : String)
    (args : List Value) :
    NotFound (b.call path filterInterface method args).1 ↔
      ¬∃ n, b.liveFilter? path = some n := by
  have hi : filterInterface ≠ networkInterface := by decide
  have hno' : (b.note (.call path method)).refusal? method = none := hno
  have hlive : (b.note (.call path method)).liveFilter? path = b.liveFilter? path := rfl
  simp only [call, serve, hno', if_neg hi, if_true, hlive]
  cases b.liveFilter? path with
  | none => simp [NotFound, Fault.isUnknownObject, Fault.unknownObject]
  | some n =>
    have found (r : Reply) (h : ∀ f, r = .error f → f.isUnknownObject = false) :
        NotFound r ↔ ¬∃ k, some n = some k := by
      refine iff_of_false ?_ (not_not_intro ⟨n, rfl⟩)
      rintro ⟨f, hf, hobject⟩
      rw [h f hf] at hobject
      cases hobject
    cases ho : FilterOrder.ofCall method args with
    | ok o =>
      refine found _ fun f hf ↦ ?_
      rw [serveFilter_fst] at hf
      cases hf
    | error f =>
      refine found _ fun f' hf ↦ ?_
      obtain rfl := Except.error.inj hf
      exact FilterOrder.isUnknownObject_of_error ho

theorem mem_livePaths_iff_plain (path : String) :
    path ∈ b.livePaths ↔ ∃ n, b.filters.contains n = true ∧ path = pathSpelled .plain n := by
  simp only [livePaths, List.mem_map, Directory.mem_keys_iff, pathSpelled_plain, eq_comm]

theorem mem_forwarding_spelled_iff (hs : b.Sound) (w : Spelling) (n : Nat) (id : EventId) :
    pathSpelled w n ∈ b.forwarding id ↔
      w = .plain ∧ ∃ ids, b.filters.get? n = some ids ∧ ids.contains id = true := by
  constructor
  · intro hmem
    obtain ⟨⟨k, ids⟩, -, hk⟩ := List.mem_map.mp hmem
    rw [← pathSpelled_plain, pathSpelled_inj] at hk
    obtain ⟨rfl, rfl⟩ := hk
    rw [pathSpelled_plain, mem_forwarding_iff hs] at hmem
    exact ⟨rfl, hmem⟩
  · rintro ⟨rfl, hids⟩
    rw [pathSpelled_plain]
    exact (mem_forwarding_iff hs n id).mpr hids

theorem get?_filters_listen {path : String} {n : Nat} (hlive : b.liveFilter? path = some n)
    (hno : b.refusal? "ListenEvent" = none) (id : EventId) :
    ∃ ids, (b.listen path id).2.filters.get? n = some ids ∧ ids.contains id = true := by
  obtain ⟨-, ids, hids⟩ := (liveFilter?_eq_some_iff b path n).mp hlive
  refine ⟨ids.insert id (), ?_, by simp⟩
  rw [listen_eq, hno, hlive]
  simp [serveFilter, hids]

/-- A filter is addressed where it is published only, unless the path has something in front of the
number. -/
theorem addressed_iff_mem_livePaths_iff (path : String) :
    (b.Addressed path ↔ path ∈ b.livePaths) ↔
      ∀ n w, b.filters.contains n = true → path = pathSpelled w n → w = .plain := by
  rw [mem_livePaths_iff_plain]
  constructor
  · intro h n w hlive hw
    obtain ⟨k, -, hk⟩ := h.mp ⟨n, w, hlive, hw⟩
    exact (pathSpelled_inj.mp (hw.symm.trans hk)).1
  · intro h
    constructor
    · rintro ⟨n, w, hlive, hw⟩
      obtain rfl := h n w hlive hw
      exact ⟨n, hlive, hw⟩
    · rintro ⟨n, hlive, hw⟩
      exact ⟨n, .plain, hlive, hw⟩

theorem mem_forwarding_listen_iff (hs : b.Sound) (hbound : b.nextFilter ≤ filterBound) {n : Nat}
    (hlive : b.filters.contains n = true) (hno : b.refusal? "ListenEvent" = none)
    (w w' : Spelling) (id : EventId) :
    pathSpelled w' n ∈ (b.listen (pathSpelled w n) id).2.forwarding id ↔ w' = .plain := by
  have hs' : (b.listen (pathSpelled w n) id).2.Sound :=
    hs.after (.call (pathSpelled w n) filterInterface "ListenEvent" [.uint16 id.val])
  have hlt := hs.filter_lt n hlive
  have hlive' : b.liveFilter? (pathSpelled w n) = some n :=
    (liveFilter?_eq_some_iff b _ n).mpr ⟨numberInPath?_eq_some_iff.mpr ⟨by omega, w, rfl⟩,
      (Directory.contains_eq_true_iff _ _).mp hlive⟩
  rw [mem_forwarding_spelled_iff hs']
  exact and_iff_left (get?_filters_listen hlive' hno id)

/-- A filter answers under every path that ends in its number, in any spelling, and under no other.
It is published under one of them only, the one with nothing in front of the number, and that is
where it passes events on, under whatever path it has been asked to. So whether it answers under a
path and whether it is published there come to the same unless something stands in front. -/
theorem answers_at_every_spelling {b : Bus ρ} (hb : b.Reachable)
    (hbound : b.nextFilter ≤ filterBound) :
    (∀ path, (b.allowed? path).isSome ↔ b.Addressed path) ∧
      (∀ path method args, b.refusal? method = none →
        (NotFound (b.call path filterInterface method args).1 ↔ ¬b.Addressed path)) ∧
      (∀ path, path ∈ b.livePaths ↔
        ∃ n, b.filters.contains n = true ∧ path = pathSpelled .plain n) ∧
      (∀ path, ((b.allowed? path).isSome ↔ path ∈ b.livePaths) ↔
        ∀ n w, b.filters.contains n = true → path = pathSpelled w n → w = .plain) ∧
      (∀ w w' n n', pathSpelled w n = pathSpelled w' n' ↔ w = w' ∧ n = n') ∧
      ∀ n w id, b.filters.contains n = true → b.refusal? "ListenEvent" = none →
        ∀ w', pathSpelled w' n ∈ (b.listen (pathSpelled w n) id).2.forwarding id ↔ w' = .plain := by
  have hs := hb.sound
  have hlisted (path : String) : (b.allowed? path).isSome ↔ b.Addressed path :=
    (isSome_allowed?_iff path).trans (exists_liveFilter?_iff hs hbound path)
  refine ⟨hlisted, ?_, mem_livePaths_iff_plain, ?_, fun _ _ _ _ ↦ pathSpelled_inj, ?_⟩
  · intro path method args hno
    rw [notFound_call_iff hno, exists_liveFilter?_iff hs hbound]
  · intro path
    rw [hlisted]
    exact addressed_iff_mem_livePaths_iff path
  · intro n w id hlive hno w'
    exact mem_forwarding_listen_iff hs hbound hlive hno w w' id

theorem reachable_addFilter (h : b.Reachable) : b.addFilter.2.Reachable :=
  .after .addFilter h

theorem answers_at_every_spelling_of_zeros :
    (start.addFilter.2 : Bus Unit).Addressed "/events_filters/00" ∧
      ((start.addFilter.2 : Bus Unit).allowed? "/events_filters/00").isSome ∧
      ¬(((start.addFilter.2 : Bus Unit).allowed? "/events_filters/00").isSome ↔
        "/events_filters/00" ∈ (start.addFilter.2 : Bus Unit).livePaths) := by
  obtain ⟨hlisted, -, -, hpublished, -⟩ :=
    answers_at_every_spelling (b := (start.addFilter.2 : Bus Unit))
      (reachable_addFilter .refl) (by decide)
  have hpath : "/events_filters/00" = pathSpelled ⟨false, 1⟩ 0 := by decide
  have haddressed : (start.addFilter.2 : Bus Unit).Addressed "/events_filters/00" :=
    ⟨0, ⟨false, 1⟩, by decide, hpath⟩
  refine ⟨haddressed, (hlisted _).mpr haddressed, fun h ↦ ?_⟩
  exact absurd ((hpublished _).mp h 0 ⟨false, 1⟩ (by decide) hpath) (by decide)

/-- The first filter answers under two paths, and takes the same event on from the second without
passing it on there. -/
theorem answers_off_its_path :
    (start.addFilter.2 : Bus Unit).livePaths = ["/events_filters/0"] ∧
      (start.addFilter.2 : Bus Unit).allowed? "/events_filters/+0" = some [] ∧
      ((start.addFilter.2 : Bus Unit).listen "/events_filters/+0" ⟨1⟩).1 = .ok [] ∧
      ((start.addFilter.2 : Bus Unit).listen "/events_filters/+0" ⟨1⟩).2.forwarding ⟨1⟩ =
        ["/events_filters/0"] := by
  decide

end Bus

end RobotBus
