import RobotBus.Bus.Basic

namespace RobotBus

namespace Text

theorem digit?_of_isDigit {c : Char} (h : c.isDigit = true) :
    digit? 10 c = some (c.toNat - '0'.toNat) := by
  have hb : '0' ≤ c ∧ c ≤ '9' := by
    rw [Char.isDigit, Bool.and_eq_true, decide_eq_true_eq, decide_eq_true_eq] at h
    exact h
  have hle : c.toNat ≤ 57 := hb.2
  have hlt : c.toNat - 48 < 10 := by omega
  simp only [digit?, if_pos hb]
  exact Option.filter_eq_some_iff.mpr ⟨rfl, by simpa using hlt⟩

theorem numberFrom?_of_digits {s : List Char} (h : ∀ c ∈ s, c.isDigit = true) (n : Nat) :
    numberFrom? 10 n s = some (Nat.ofDigitChars 10 s n) := by
  induction s generalizing n with
  | nil => simp [numberFrom?]
  | cons c s ih =>
    have hs : ∀ d ∈ s, d.isDigit = true := fun d hd ↦ h d (List.mem_cons_of_mem _ hd)
    simp only [numberFrom?, digit?_of_isDigit (h c List.mem_cons_self), ih hs,
      Nat.ofDigitChars_cons]

theorem number?_toDigits (n : Nat) : number? 10 (Nat.toDigits 10 n) = some n := by
  have hd : ∀ c ∈ Nat.toDigits 10 n, c.isDigit = true :=
    fun c hc ↦ Nat.isDigit_of_mem_toDigits (by decide) (by decide) hc
  have h := numberFrom?_of_digits hd 0
  rw [Nat.ofDigitChars_ten_toDigits] at h
  cases hs : Nat.toDigits 10 n with
  | nil => exact absurd hs Nat.toDigits_ne_nil
  | cons c s => rw [hs] at h; exact h

theorem unsigned?_toDigits (n : Nat) : unsigned? 10 (Nat.toDigits 10 n) = some n := by
  have h := number?_toDigits n
  have hd : '+' ∉ Nat.toDigits 10 n := fun hc ↦
    absurd (Nat.isDigit_of_mem_toDigits (by decide) (by decide) hc) (by decide)
  cases hs : Nat.toDigits 10 n with
  | nil => exact absurd hs Nat.toDigits_ne_nil
  | cons c s =>
    have hc : c ≠ '+' := fun he ↦ hd (by simp [hs, he])
    simp only [unsigned?]
    split
    · next he => exact absurd (List.cons.inj he).1 hc
    · rw [← hs, h]

end Text

namespace Bus

theorem toList_pathOfFilter (n : Nat) :
    (pathOfFilter n).toList = (filtersPath ++ "/").toList ++ Nat.toDigits 10 n := by
  simp [pathOfFilter]

theorem numberInPath?_pathOfFilter (n : Nat) :
    numberInPath? (pathOfFilter n) = if n < filterBound then some n else none := by
  have h : Text.after? (filtersPath ++ "/").toList (pathOfFilter n).toList =
      some (Nat.toDigits 10 n) :=
    Text.after?_eq_some_iff.mpr (toList_pathOfFilter n)
  simp only [numberInPath?, h, Text.unsigned?_toDigits, Option.filter_some, decide_eq_true_eq]

theorem pathOfFilter_injective : Function.Injective pathOfFilter := by
  intro n m h
  have hl := congrArg String.toList h
  rw [toList_pathOfFilter, toList_pathOfFilter] at hl
  have hd := congrArg (Text.unsigned? 10) (List.append_cancel_left hl)
  simpa only [Text.unsigned?_toDigits, Option.some.injEq] using hd

end Bus

end RobotBus
