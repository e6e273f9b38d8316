import RobotBus.Json.Fields
import RobotBus.Json.Token
import RobotBus.Proofs.Bus.Path

namespace RobotBus.Json

open RobotBus.Text

structure Digits where
  chars : List Char
  nonempty : chars ≠ []
  digit : ∀ c ∈ chars, c.isDigit

def Digits.ofNat (k : Nat) : Digits where
  chars := Nat.toDigits 10 k
  nonempty := Nat.toDigits_ne_nil
  digit _ hc := Nat.isDigit_of_mem_toDigits (by decide) (by decide) hc

inductive Sign
  | plus
  | minus

def Sign.char : Sign → Char
  | plus => '+'
  | minus => '-'

structure Exponent where
  capital : Bool
  sign : Option Sign
  digits : Digits

def Exponent.text (e : Exponent) : List Char :=
  (if e.capital then 'E' else 'e') :: e.sign.toList.map Sign.char ++ e.digits.chars

structure Numeral where
  negative : Bool
  whole : Nat
  fraction : Option Digits
  exponent : Option Exponent

namespace Numeral

def fractionText (n : Numeral) : List Char :=
  match n.fraction with
  | some d => '.' :: d.chars
  | none => []

def exponentText (n : Numeral) : List Char :=
  match n.exponent with
  | some e => e.text
  | none => []

def ending (n : Numeral) : List Char := n.fractionText ++ n.exponentText

def text (n : Numeral) : List Char :=
  (if n.negative then ['-'] else []) ++ ((Digits.ofNat n.whole).chars ++ n.ending)

def isWhole (n : Numeral) : Bool := n.fraction.isNone && n.exponent.isNone

/-- The integer that is meant. A fraction or an exponent makes it none, and so does the sign of a
zero. -/
def integer? (n : Numeral) : Option Int :=
  if n.isWhole then
    if n.negative then if n.whole = 0 then none else some (-n.whole) else some n.whole
  else none

def ofNat (k : Nat) : Numeral := ⟨false, k, none, none⟩

def ofInt : Int → Numeral
  | .ofNat k => ofNat k
  | .negSucc k => ⟨true, k + 1, none, none⟩

end Numeral

theorem Digits.exists_cons (d : Digits) :
    ∃ c s, d.chars = c :: s ∧ c.isDigit ∧ ∀ x ∈ s, x.isDigit := by
  obtain ⟨c, s, hcons⟩ := List.exists_cons_of_ne_nil d.nonempty
  have hall := d.digit
  rw [hcons] at hall
  exact ⟨c, s, hcons, hall c List.mem_cons_self, fun x hx ↦ hall x (List.mem_cons_of_mem _ hx)⟩

theorem ne_of_isDigit {c d : Char} (hc : c.isDigit) (hd : d.isDigit = false) : c ≠ d := by
  intro h
  rw [h, hd] at hc
  cases hc

/-- No digit stands in front, so that a run of digits ends here. -/
def Stops (s : List Char) : Prop := ∀ c ∈ s.head?, c.isDigit = false

theorem dropWhile_digits {ds s : List Char} (hds : ∀ c ∈ ds, c.isDigit) (hs : Stops s) :
    (ds ++ s).dropWhile Char.isDigit = s := by
  rw [List.dropWhile_append_of_pos hds]
  cases s with
  | nil => rfl
  | cons c s => exact List.dropWhile_cons_of_neg (by simpa using hs c rfl)

theorem afterDigits?_digits (d : Digits) {s : List Char} (hs : Stops s) :
    afterDigits? (d.chars ++ s) = some s := by
  obtain ⟨c, t, hd, hc, ht⟩ := d.exists_cons
  rw [hd, List.cons_append, afterDigits?, if_pos hc, dropWhile_digits ht hs]

theorem afterSign_digits (d : Digits) (s : List Char) :
    afterSign (d.chars ++ s) = d.chars ++ s := by
  obtain ⟨c, t, hd, hc, -⟩ := d.exists_cons
  rw [hd, List.cons_append, afterSign]
  intro r h
  exact ne_of_isDigit hc (by decide) (List.cons.inj h).1

theorem afterExponentSign_digits (d : Digits) : afterExponentSign d.chars = d.chars := by
  obtain ⟨c, t, hd, hc, -⟩ := d.exists_cons
  rw [hd, afterExponentSign]
  · intro r h
    exact ne_of_isDigit hc (by decide) (List.cons.inj h).1
  · intro r h
    exact ne_of_isDigit hc (by decide) (List.cons.inj h).1

theorem integerOf?_digits (d : Digits) (s : List Char) :
    integerOf? (d.chars ++ s) = (number? 10 (d.chars ++ s)).map Int.ofNat := by
  obtain ⟨c, t, hd, hc, -⟩ := d.exists_cons
  rw [hd, List.cons_append, integerOf?]
  intro r h
  exact ne_of_isDigit hc (by decide) (List.cons.inj h).1

theorem numberFrom?_of_mem {base : Nat} {s : List Char} {c : Char} (hmem : c ∈ s)
    (hc : digit? base c = none) (k : Nat) : numberFrom? base k s = none := by
  induction s generalizing k with
  | nil => cases hmem
  | cons d s ih =>
    rw [numberFrom?]
    rcases List.mem_cons.mp hmem with rfl | hmem
    · rw [hc]
    · cases digit? base d with
      | none => rfl
      | some i => exact ih hmem (base * k + i)

theorem number?_of_mem {base : Nat} {s : List Char} {c : Char} (hmem : c ∈ s)
    (hc : digit? base c = none) : number? base s = none := by
  cases s with
  | nil => rfl
  | cons d s => exact numberFrom?_of_mem hmem hc 0

theorem head_toDigits_ne_zero {k : Nat} (hk : 0 < k) (s : List Char) :
    Nat.toDigits 10 k ≠ '0' :: s := by
  induction k using Nat.strongRecOn generalizing s with
  | ind k ih =>
    by_cases hlt : k < 10
    · rw [Nat.toDigits_of_lt_base hlt]
      intro h
      have hzero : k = 0 := Nat.digitChar_eq_zero.mp (List.cons.inj h).1
      omega
    · rw [Nat.toDigits_of_base_le (by decide) (by omega)]
      intro h
      cases hs : Nat.toDigits 10 (k / 10) with
      | nil => exact Nat.toDigits_ne_nil hs
      | cons c t =>
        rw [hs, List.cons_append] at h
        have hc : c = '0' := (List.cons.inj h).1
        exact ih (k / 10) (by omega) (by omega) t (hc ▸ hs)

theorem afterWhole?_ofNat (k : Nat) {s : List Char} (hs : Stops s) :
    afterWhole? ((Digits.ofNat k).chars ++ s) = some s := by
  rcases Nat.eq_zero_or_pos k with rfl | hk
  · rfl
  · obtain ⟨c, t, hd, hc, ht⟩ := (Digits.ofNat k).exists_cons
    have hne : c ≠ '0' := by
      intro h
      exact head_toDigits_ne_zero hk t (h ▸ hd)
    rw [hd, List.cons_append, afterWhole?]
    · rw [if_pos hc, dropWhile_digits ht hs]
    · exact hne

namespace Numeral

variable (n : Numeral)

theorem afterExponent?_text (e : Exponent) : afterExponent? e.text = some [] := by
  have hdigits : afterDigits? e.digits.chars = some [] := by
    simpa using afterDigits?_digits e.digits (s := []) (by simp [Stops])
  obtain ⟨capital, sign, digits⟩ := e
  have hsign : afterExponentSign (sign.toList.map Sign.char ++ digits.chars) = digits.chars := by
    cases sign with
    | some g => cases g <;> rfl
    | none => exact afterExponentSign_digits digits
  cases capital with
  | false => exact (congrArg afterDigits? hsign).trans hdigits
  | true => exact (congrArg afterDigits? hsign).trans hdigits

theorem afterExponent?_exponentText : afterExponent? n.exponentText = some [] := by
  rw [exponentText]
  cases n.exponent with
  | some e => exact afterExponent?_text e
  | none => rfl

theorem stops_exponentText : Stops n.exponentText := by
  rw [exponentText]
  cases n.exponent with
  | some e => cases hc : e.capital <;> simp [Exponent.text, Stops, hc]
  | none => simp [Stops]

theorem afterFraction?_ending : afterFraction? n.ending = some n.exponentText := by
  rw [ending, fractionText]
  cases n.fraction with
  | some d => exact afterDigits?_digits d n.stops_exponentText
  | none =>
    rw [List.nil_append, exponentText]
    cases n.exponent with
    | some e => cases hc : e.capital <;> simp [Exponent.text, afterFraction?, hc]
    | none => rfl

theorem stops_ending : Stops n.ending := by
  have hexponent := n.stops_exponentText
  rw [ending, fractionText]
  cases n.fraction with
  | some d => simp [Stops]
  | none => exact hexponent

theorem isNumber_text : isNumber n.text := by
  have hsign : afterSign n.text = (Digits.ofNat n.whole).chars ++ n.ending := by
    rw [text]
    cases n.negative with
    | false => exact afterSign_digits (.ofNat n.whole) n.ending
    | true => rfl
  rw [isNumber, hsign, afterWhole?_ofNat n.whole n.stops_ending, Option.bind_some,
    n.afterFraction?_ending, Option.bind_some, n.afterExponent?_exponentText]
  rfl

theorem ending_of_isWhole (h : n.isWhole) : n.ending = [] := by
  obtain ⟨hf, he⟩ : n.fraction = none ∧ n.exponent = none := by simpa [isWhole] using h
  simp [ending, fractionText, exponentText, hf, he]

theorem exists_mem_ending (h : ¬n.isWhole) : ∃ c ∈ n.ending, digit? 10 c = none := by
  rw [ending, fractionText, exponentText]
  cases hf : n.fraction with
  | some d => exact ⟨'.', by simp, rfl⟩
  | none =>
    cases he : n.exponent with
    | some e =>
      refine ⟨if e.capital then 'E' else 'e', ?_, ?_⟩
      · simp [Exponent.text]
      · cases e.capital <;> rfl
    | none => simp [isWhole, hf, he] at h

theorem number?_digits_ending :
    number? 10 ((Digits.ofNat n.whole).chars ++ n.ending) =
      if n.isWhole then some n.whole else none := by
  by_cases h : n.isWhole
  · rw [if_pos h, n.ending_of_isWhole h, List.append_nil]
    exact number?_toDigits n.whole
  · obtain ⟨c, hmem, hc⟩ := n.exists_mem_ending h
    rw [if_neg h]
    exact number?_of_mem (List.mem_append_right _ hmem) hc

theorem integerOf?_text : integerOf? n.text = n.integer? := by
  have hnumber := n.number?_digits_ending
  rw [text, integer?]
  cases hneg : n.negative with
  | true =>
    simp only [if_true, List.singleton_append, integerOf?, hnumber]
    by_cases h : n.isWhole
    · cases n.whole <;> simp [h]
    · simp [h]
  | false =>
    have hdigits := integerOf?_digits (.ofNat n.whole) n.ending
    rw [hnumber] at hdigits
    simp only [Bool.false_eq_true, if_false, List.nil_append, hdigits]
    split <;> rfl

end Numeral

theorem natural?_numeral (bound : Nat) (n : Numeral) :
    natural? bound (.number n.text) =
      if n.isWhole ∧ n.negative = false ∧ n.whole < bound then some n.whole else none := by
  rw [natural?, integer?, n.integerOf?_text, Numeral.integer?]
  by_cases hwhole : n.isWhole
  · cases hneg : n.negative with
    | false => simp [hwhole]
    | true =>
      by_cases hzero : n.whole = 0
      · simp [hwhole, hzero]
      · obtain ⟨k, hk⟩ := Nat.exists_eq_succ_of_ne_zero hzero
        have hneg' : -((k.succ : Nat) : Int) = Int.negSucc k := rfl
        simp only [hwhole, hk, hneg', if_true, Nat.succ_ne_zero, if_false]
        simp
  · simp [hwhole]

theorem ofInt_eq_number (i : Int) : ofInt i = .number (Numeral.ofInt i).text := by
  have hplain : ∀ k, (Digits.ofNat k).chars ++ [] = (Nat.repr k).toList := by
    intro k
    rw [List.append_nil, Nat.repr_eq_ofList_toDigits, String.toList_ofList]
    rfl
  cases i with
  | ofNat k =>
    exact congrArg number (hplain k).symm
  | negSucc k =>
    have hshow : toString (Int.negSucc k) = "-" ++ Nat.repr (k + 1) := rfl
    rw [ofInt, hshow, String.toList_append, ← hplain]
    rfl

theorem exists_digits {s r : List Char} (h : afterDigits? s = some r) :
    ∃ d : Digits, s = d.chars ++ r := by
  cases s with
  | nil => cases h
  | cons c s =>
    rw [afterDigits?] at h
    split at h
    · next hc =>
      have hall : ∀ x ∈ c :: s.takeWhile Char.isDigit, x.isDigit := by
        intro x hx
        rcases List.mem_cons.mp hx with rfl | hx
        · exact hc
        · exact List.all_eq_true.mp List.all_takeWhile x hx
      refine ⟨⟨c :: s.takeWhile Char.isDigit, by simp, hall⟩, ?_⟩
      rw [← Option.some.inj h, List.cons_append, List.takeWhile_append_dropWhile]
    · cases h

theorem digitChar_of_isDigit {c : Char} (h : c.isDigit) :
    c.toNat - '0'.toNat < 10 ∧ Nat.digitChar (c.toNat - '0'.toNat) = c := by
  have hbounds : 48 ≤ c.toNat ∧ c.toNat ≤ 57 := by
    rw [Char.isDigit, Bool.and_eq_true, decide_eq_true_eq, decide_eq_true_eq] at h
    exact h
  have hzero : '0'.toNat = 48 := rfl
  have hlt : c.toNat - '0'.toNat < 10 := by omega
  refine ⟨hlt, Char.toNat_inj.mp ?_⟩
  rw [Nat.toNat_digitChar_of_lt_ten hlt]
  omega

theorem toDigits_append {k : Nat} (hk : 0 < k) {s : List Char} (hs : ∀ c ∈ s, c.isDigit) :
    Nat.toDigits 10 k ++ s = Nat.toDigits 10 (Nat.ofDigitChars 10 s k) := by
  induction s generalizing k with
  | nil => simp
  | cons c s ih =>
    obtain ⟨hlt, hchar⟩ := digitChar_of_isDigit (hs c List.mem_cons_self)
    have hnext := Nat.toDigits_append_toDigits (by decide) hk hlt
    rw [Nat.toDigits_of_lt_base hlt, hchar] at hnext
    rw [Nat.ofDigitChars_cons, ← ih (by omega) (fun d hd ↦ hs d (List.mem_cons_of_mem _ hd)),
      ← hnext, List.append_assoc, List.singleton_append]

theorem exists_whole {s r : List Char} (h : afterWhole? s = some r) :
    ∃ k, s = (Digits.ofNat k).chars ++ r := by
  cases s with
  | nil => cases h
  | cons c s =>
    by_cases hzero : c = '0'
    · subst hzero
      rw [afterWhole?, Option.some.injEq] at h
      exact ⟨0, by rw [h]; rfl⟩
    · rw [afterWhole?] at h
      · obtain ⟨d, hd⟩ := exists_digits (s := c :: s) (r := r) h
        obtain ⟨c', t, hcons, hc, ht⟩ := d.exists_cons
        rw [hcons, List.cons_append, List.cons.injEq] at hd
        obtain ⟨rfl, rfl⟩ := hd
        obtain ⟨hlt, hchar⟩ := digitChar_of_isDigit hc
        have hpos : 0 < c.toNat - '0'.toNat := by
          rcases Nat.eq_zero_or_pos (c.toNat - '0'.toNat) with hnone | hpos
          · rw [hnone] at hchar
            exact absurd hchar.symm hzero
          · exact hpos
        -- the first digit is not zero, so the others continue it to a decimal form
        have happend := toDigits_append hpos ht
        rw [Nat.toDigits_of_lt_base hlt, hchar, List.singleton_append] at happend
        refine ⟨Nat.ofDigitChars 10 t (c.toNat - '0'.toNat), ?_⟩
        change _ = Nat.toDigits 10 _ ++ r
        rw [← happend, List.cons_append]
      · exact hzero

theorem exists_fraction {s r : List Char} (h : afterFraction? s = some r) :
    ∃ f : Option Digits, s = (⟨false, 0, f, none⟩ : Numeral).fractionText ++ r := by
  by_cases hpoint : ∃ t, s = '.' :: t
  · obtain ⟨t, rfl⟩ := hpoint
    obtain ⟨d, rfl⟩ := exists_digits h
    exact ⟨some d, rfl⟩
  · rw [afterFraction?, Option.some.injEq] at h
    · exact ⟨none, h⟩
    · intro t ht
      exact hpoint ⟨t, ht⟩

theorem exists_sign (s : List Char) :
    ∃ g : Option Sign, s = g.toList.map Sign.char ++ afterExponentSign s := by
  rw [afterExponentSign.eq_def]
  split
  · exact ⟨some .plus, rfl⟩
  · exact ⟨some .minus, rfl⟩
  · exact ⟨none, rfl⟩

theorem exists_exponent {s : List Char} (h : afterExponent? s = some []) :
    ∃ e : Option Exponent, s = (⟨false, 0, none, e⟩ : Numeral).exponentText := by
  have hmarked : ∀ (capital : Bool) (t : List Char),
      afterDigits? (afterExponentSign t) = some [] →
        ∃ e : Exponent, (if capital then 'E' else 'e') :: t = e.text := by
    intro capital t ht
    obtain ⟨g, hg⟩ := exists_sign t
    obtain ⟨d, hd⟩ := exists_digits ht
    refine ⟨⟨capital, g, d⟩, ?_⟩
    rw [hd, List.append_nil] at hg
    rw [hg]
    rfl
  rw [afterExponent?.eq_def] at h
  split at h
  · next t =>
    obtain ⟨e, he⟩ := hmarked false t h
    exact ⟨some e, he⟩
  · next t =>
    obtain ⟨e, he⟩ := hmarked true t h
    exact ⟨some e, he⟩
  · exact ⟨none, Option.some.inj h⟩

theorem exists_numeral {s : List Char} (h : isNumber s) : ∃ n : Numeral, n.text = s := by
  have hsign : ∃ negative : Bool, s = (if negative then ['-'] else []) ++ afterSign s := by
    rw [afterSign.eq_def]
    split
    · exact ⟨true, rfl⟩
    · exact ⟨false, rfl⟩
  obtain ⟨negative, hs⟩ := hsign
  have hparts : ((afterWhole? (afterSign s)).bind afterFraction?).bind afterExponent? = some [] :=
    eq_of_beq h
  obtain ⟨t, hfraction, hexponent⟩ := Option.bind_eq_some_iff.mp hparts
  obtain ⟨r, hwhole, hrest⟩ := Option.bind_eq_some_iff.mp hfraction
  obtain ⟨k, hk⟩ := exists_whole hwhole
  obtain ⟨f, hf⟩ := exists_fraction hrest
  obtain ⟨e, he⟩ := exists_exponent hexponent
  refine ⟨⟨negative, k, f, e⟩, ?_⟩
  rw [hs, hk, hf, he]
  rfl

end RobotBus.Json
