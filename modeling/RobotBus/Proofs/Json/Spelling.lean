import Mathlib.Algebra.Group.Nat.Defs
import RobotBus.Json.Printer
import RobotBus.Json.Token
import RobotBus.Proofs.Markup.Spelling

namespace RobotBus.Json

open RobotBus.Text

inductive ShortEscape
  | quote
  | backslash
  | slash
  | backspace
  | formFeed
  | lineFeed
  | carriageReturn
  | tab

namespace ShortEscape

def letter : ShortEscape → Char
  | quote => '"'
  | backslash => '\\'
  | slash => '/'
  | backspace => 'b'
  | formFeed => 'f'
  | lineFeed => 'n'
  | carriageReturn => 'r'
  | tab => 't'

def char : ShortEscape → Char
  | quote => '"'
  | backslash => '\\'
  | slash => '/'
  | backspace => '\x08'
  | formFeed => '\x0c'
  | lineFeed => '\n'
  | carriageReturn => '\r'
  | tab => '\t'

end ShortEscape

inductive Spelling
  | raw (c : Char) (h : c ≠ '"' ∧ c ≠ '\\' ∧ 0x20 ≤ c.toNat)
  | short (e : ShortEscape)
  | code (a b c d : Markup.Digit 16)

namespace Spelling

def text : Spelling → List Char
  | raw c _ => [c]
  | short e => ['\\', e.letter]
  | code a b c d => ['\\', 'u', a.char, b.char, c.char, d.char]

def symbol : Spelling → Symbol
  | raw c _ => .char c
  | short e => .char e.char
  | code a b c d => .ofCode (Markup.numeral [a, b, c, d])

end Spelling

def Symbol.high (c : Char) : Nat := 0xd800 + (c.toNat - 0x10000) / 0x400

def Symbol.low (c : Char) : Nat := 0xdc00 + (c.toNat - 0x10000) % 0x400

/-- The text that some symbols stand for. -/
inductive Denotes : List Symbol → List Char → Prop
  | nil : Denotes [] []
  | char (c : Char) {s : List Symbol} {t : List Char} (h : Denotes s t) :
      Denotes (.char c :: s) (c :: t)
  | pair (c : Char) {s : List Symbol} {t : List Char} (hc : 0x10000 ≤ c.toNat)
      (h : Denotes s t) : Denotes (.half (Symbol.high c) :: .half (Symbol.low c) :: s) (c :: t)

theorem denotes_map_char (t : List Char) : Denotes (t.map .char) t := by
  induction t with
  | nil => exact .nil
  | cons c t ih => exact .char c ih

theorem toNat_lt (c : Char) : c.toNat < 0x110000 := by
  rcases c.valid with h | ⟨-, h⟩
  · exact Nat.lt_trans h (by decide)
  · exact h

theorem joined_halves {c : Char} (hc : 0x10000 ≤ c.toNat) :
    Symbol.joined (Symbol.high c) (Symbol.low c) = c := by
  have hsum : 0x10000 + (Symbol.high c - 0xd800) * 0x400 + (Symbol.low c - 0xdc00) = c.toNat := by
    rw [Symbol.high, Symbol.low]
    omega
  rw [Symbol.joined, hsum, Char.ofNat_toNat]

theorem textFrom?_of_denotes {s : List Symbol} {t : List Char} (h : Denotes s t)
    (rev : List Char) : Symbol.textFrom? rev s = some (rev.reverse ++ t) := by
  induction h generalizing rev with
  | nil => simp [Symbol.textFrom?]
  | char c h ih => simp [Symbol.textFrom?, ih]
  | pair c hc h ih =>
    have hhigh : Symbol.high c < 0xdc00 := by
      have hlt := toNat_lt c
      rw [Symbol.high]
      omega
    have hlow : 0xdc00 ≤ Symbol.low c := Nat.le_add_right _ _
    rw [Symbol.textFrom?, if_pos ⟨hhigh, hlow⟩, joined_halves hc, ih]
    simp

theorem text?_of_denotes {s : List Symbol} {t : String} (h : Denotes s t.toList) :
    Symbol.text? s = some t := by
  simp [Symbol.text?, textFrom?_of_denotes h]

theorem escaped?_letter (e : ShortEscape) : escaped? e.letter = some e.char := by
  cases e <;> rfl

theorem letter_ne (e : ShortEscape) : e.letter ≠ 'u' := by
  cases e <;> decide

namespace Lexer

theorem run_of_step {l l' : Lexer} {c : Char} (h : l.step c = some l') (s : List Char) :
    l.run (c :: s) = l'.run s := by
  rw [run, h]

variable (past : List Token) (rev : List Symbol)

theorem step_backslash : step ⟨past, .string rev⟩ '\\' = some ⟨past, .escape rev⟩ := rfl

theorem step_code : step ⟨past, .escape rev⟩ 'u' = some ⟨past, .code rev 0 3⟩ := rfl

theorem step_digit (n missing : Nat) (d : Markup.Digit 16) :
    step ⟨past, .code rev n missing⟩ d.char =
      some (match missing with
        | 0 => ⟨past, .string (Symbol.ofCode (16 * n + d.value) :: rev)⟩
        | m + 1 => ⟨past, .code rev (16 * n + d.value) m⟩) := by
  have hdigit : digit? 16 d.char = some d.value.val := Markup.digit?_char (r := .hexadecimal) d
  rw [step, hdigit]
  cases missing <;> rfl

theorem run_spelling (sp : Spelling) (s : List Char) :
    run ⟨past, .string rev⟩ (sp.text ++ s) = run ⟨past, .string (sp.symbol :: rev)⟩ s := by
  cases sp with
  | raw c h =>
    have hc : ¬c.toNat < 0x20 := Nat.not_lt.mpr h.2.2
    refine run_of_step ?_ s
    rw [step, if_neg h.1, if_neg h.2.1, if_neg hc]
    rfl
  | short e =>
    change run ⟨past, .string rev⟩ ('\\' :: e.letter :: s) = _
    rw [run_of_step (step_backslash past rev)]
    refine run_of_step ?_ s
    rw [step, if_neg (letter_ne e), escaped?_letter]
    rfl
  | code a b c d =>
    change run ⟨past, .string rev⟩ ('\\' :: 'u' :: a.char :: b.char :: c.char :: d.char :: s) = _
    rw [run_of_step (step_backslash past rev), run_of_step (step_code past rev),
      run_of_step (step_digit past rev 0 3 a), run_of_step (step_digit past rev _ 2 b),
      run_of_step (step_digit past rev _ 1 c), run_of_step (step_digit past rev _ 0 d)]
    rfl

theorem run_spellings (sps : List Spelling) (s : List Char) :
    run ⟨past, .string rev⟩ (sps.flatMap Spelling.text ++ s) =
      run ⟨past, .string ((sps.map Spelling.symbol).reverse ++ rev)⟩ s := by
  induction sps generalizing rev with
  | nil => rfl
  | cons sp sps ih =>
    rw [List.flatMap_cons, List.append_assoc, run_spelling, ih, List.map_cons, List.reverse_cons,
      List.append_assoc, List.singleton_append]

end Lexer

def padded : Nat → Nat → List (Markup.Digit 16)
  | 0, _ => []
  | width + 1, n => padded width (n / 16) ++ [⟨Fin.ofNat 16 n, false⟩]

theorem numeral_padded (width n : Nat) : Markup.numeral (padded width n) = n % 16 ^ width := by
  induction width generalizing n with
  | zero => simp [padded, Markup.numeral, Nat.mod_one]
  | succ width ih =>
    have hlast : Markup.numeral (padded (width + 1) n) =
        16 * Markup.numeral (padded width (n / 16)) + n % 16 := by
      simp [padded, Markup.numeral]
    rw [hlast, ih, Nat.pow_succ, Nat.mul_comm (16 ^ width), Nat.mod_mul]
    omega

theorem chars_padded_zero (width : Nat) :
    (padded width 0).map Markup.Digit.char = List.replicate width '0' := by
  induction width with
  | zero => rfl
  | succ width ih => simp [padded, ih, List.replicate_succ', Markup.Digit.char]

theorem chars_padded {width n : Nat} (h : n < 16 ^ (width + 1)) :
    (padded (width + 1) n).map Markup.Digit.char =
      List.replicate (width + 1 - (hexadecimal n).length) '0' ++ hexadecimal n := by
  have hlast : (padded (width + 1) n).map Markup.Digit.char =
      (padded width (n / 16)).map Markup.Digit.char ++ [Nat.digitChar (n % 16)] := by
    simp [padded, Markup.Digit.char]
  rw [hlast, hexadecimal]
  by_cases hlt : n < 16
  · rw [Nat.toDigits_of_lt_base hlt, Nat.div_eq_of_lt hlt, Nat.mod_eq_of_lt hlt,
      chars_padded_zero]
    rfl
  · rw [Nat.toDigits_of_base_le (by decide) (by omega)]
    cases width with
    | zero => omega
    | succ width =>
      have hdiv : n / 16 < 16 ^ (width + 1) := by
        rw [Nat.pow_succ] at h
        omega
      have ih := chars_padded hdiv
      rw [hexadecimal] at ih
      rw [ih, List.length_append, List.length_singleton, Nat.add_sub_add_right, List.append_assoc]

theorem exists_code {n : Nat} (h : n < 16 ^ 4) :
    ∃ a b c d, (Spelling.code a b c d).text = showCode n ∧ Markup.numeral [a, b, c, d] = n := by
  refine ⟨⟨Fin.ofNat 16 (n / 16 / 16 / 16), false⟩, ⟨Fin.ofNat 16 (n / 16 / 16), false⟩,
    ⟨Fin.ofNat 16 (n / 16), false⟩, ⟨Fin.ofNat 16 n, false⟩, ?_, ?_⟩
  · rw [showCode, List.append_assoc, ← chars_padded h]
    rfl
  · exact (numeral_padded 4 n).trans (Nat.mod_eq_of_lt h)

def Symbol.IsCode : Symbol → Prop
  | char _ => True
  | half n => 0xd800 ≤ n ∧ n < 0xe000

theorem render_of_not_short {c : Char} (h : ∀ e : ShortEscape, e ≠ .slash → c ≠ e.char) :
    (Symbol.char c).render = if c.toNat < 0x20 then showCode c.toNat else [c] := by
  rw [Symbol.render]
  · exact h .quote (by simp)
  · exact h .backslash (by simp)
  · exact h .backspace (by simp)
  · exact h .formFeed (by simp)
  · exact h .lineFeed (by simp)
  · exact h .carriageReturn (by simp)
  · exact h .tab (by simp)

theorem exists_spelling {s : Symbol} (h : s.IsCode) :
    ∃ sp : Spelling, sp.text = s.render ∧ sp.symbol = s := by
  cases s with
  | half n =>
    obtain ⟨hlow, hhigh⟩ := h
    obtain ⟨a, b, c, d, htext, hnumeral⟩ := exists_code (n := n) (by omega)
    refine ⟨.code a b c d, htext, ?_⟩
    rw [Spelling.symbol, hnumeral, Symbol.ofCode, if_pos ⟨hlow, hhigh⟩]
  | char c =>
    -- a slash has a short escape but is printed as it is
    by_cases hshort : ∃ e : ShortEscape, e ≠ .slash ∧ e.char = c
    · obtain ⟨e, hslash, rfl⟩ := hshort
      refine ⟨.short e, ?_, rfl⟩
      cases e with
      | slash => exact absurd rfl hslash
      | quote | backslash | backspace | formFeed | lineFeed | carriageReturn | tab => rfl
    · have hne : ∀ e : ShortEscape, e ≠ .slash → c ≠ e.char := by
        intro e he hc
        exact hshort ⟨e, he, hc.symm⟩
      rw [render_of_not_short hne]
      by_cases hcontrol : c.toNat < 0x20
      · obtain ⟨x, y, z, w, htext, hnumeral⟩ := exists_code (n := c.toNat) (by omega)
        refine ⟨.code x y z w, ?_, ?_⟩
        · rw [if_pos hcontrol, htext]
        · rw [Spelling.symbol, hnumeral, Symbol.ofCode, if_neg (by omega), Char.ofNat_toNat]
      · have hraw : c ≠ '"' ∧ c ≠ '\\' ∧ 0x20 ≤ c.toNat :=
          ⟨hne .quote (by simp), hne .backslash (by simp), Nat.not_lt.mp hcontrol⟩
        refine ⟨.raw c hraw, ?_, rfl⟩
        rw [if_neg hcontrol]
        rfl

theorem exists_spellings {s : List Symbol} (h : ∀ x ∈ s, x.IsCode) :
    ∃ sps : List Spelling,
      sps.flatMap Spelling.text = s.flatMap Symbol.render ∧ sps.map Spelling.symbol = s := by
  induction s with
  | nil => exact ⟨[], rfl, rfl⟩
  | cons x s ih =>
    obtain ⟨sp, htext, hsymbol⟩ := exists_spelling (h x List.mem_cons_self)
    obtain ⟨sps, htexts, hsymbols⟩ := ih (fun y hy ↦ h y (List.mem_cons_of_mem _ hy))
    refine ⟨sp :: sps, ?_, ?_⟩
    · rw [List.flatMap_cons, List.flatMap_cons, htext, htexts]
    · rw [List.map_cons, hsymbol, hsymbols]

end RobotBus.Json
