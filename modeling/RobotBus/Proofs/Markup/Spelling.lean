import RobotBus.Markup.Reference
import RobotBus.Proofs.Markup.Document

namespace RobotBus.Markup

open RobotBus.Text

def Radix.limit : Radix → Nat
  | decimal => 7
  | hexadecimal => 6

def Reference.isShort : Reference → Bool
  | entity _ => true
  | code k => k.digits.length ≤ k.radix.limit

def Spelling.isShort {q : Quote} : Spelling q → Bool
  | raw _ _ => true
  | reference r => r.isShort

variable {r : Radix} {q : Quote}

theorem digit?_char (d : Digit r.base) : digit? r.base d.char = some d.value := by
  have hten : ∀ v u, digit? 10 (Digit.char (⟨v, u⟩ : Digit 10)) = some v.val := by decide
  have hsixteen : ∀ v u, digit? 16 (Digit.char (⟨v, u⟩ : Digit 16)) = some v.val := by decide
  cases r with
  | decimal => exact hten d.value d.upper
  | hexadecimal => exact hsixteen d.value d.upper

theorem char_ne_of_no_digit {c : Char} (h : digit? r.base c = none) (d : Digit r.base) :
    d.char ≠ c := by
  rintro rfl
  rw [digit?_char] at h
  cases h

theorem numberFrom?_digits (ds : List (Digit r.base)) (n : Nat) :
    numberFrom? r.base n (ds.map Digit.char) =
      some (ds.foldl (fun n d ↦ r.base * n + d.value) n) := by
  induction ds generalizing n with
  | nil => rfl
  | cons d ds ih =>
    simp only [List.map_cons, numberFrom?, digit?_char, List.foldl_cons]
    exact ih (r.base * n + d.value)

theorem number?_digits {ds : List (Digit r.base)} (h : ds ≠ []) :
    number? r.base (ds.map Digit.char) = some (numeral ds) := by
  cases ds with
  | nil => exact absurd rfl h
  | cons d ds => exact numberFrom?_digits (d :: ds) 0

theorem reference?_code (k : Code) :
    reference? (Reference.code k).name =
      if k.digits.length ≤ k.radix.limit then some (Char.ofNat (numeral k.digits)) else none := by
  obtain ⟨radix, digits, nonempty, valid⟩ := k
  have hnumber := number?_digits nonempty
  have hchar : character? (numeral digits) = some (Char.ofNat (numeral digits)) := if_pos valid
  have hread : (number? radix.base (digits.map Digit.char)).bind character? =
      some (Char.ofNat (numeral digits)) := by
    rw [hnumber]
    exact hchar
  cases radix with
  | decimal =>
    obtain ⟨d, ds, rfl⟩ := List.exists_cons_of_ne_nil nonempty
    have hx : d.char ≠ 'x' := char_ne_of_no_digit (r := .decimal) rfl d
    have hsplit : reference? ('#' :: d.char :: ds.map Digit.char) =
        if (d.char :: ds.map Digit.char).length ≤ 7 then
          (number? 10 (d.char :: ds.map Digit.char)).bind character? else none := by
      rw [reference?]
      rintro s h
      exact hx (List.cons.inj h).1
    change reference? ('#' :: d.char :: ds.map Digit.char) = _
    rw [hsplit, ← List.map_cons, List.length_map]
    exact congrArg (fun o ↦ if (d :: ds).length ≤ 7 then o else none) hread
  | hexadecimal =>
    change (if (digits.map Digit.char).length ≤ 6 then
      (number? 16 (digits.map Digit.char)).bind character? else none) = _
    rw [List.length_map]
    exact congrArg (fun o ↦ if digits.length ≤ 6 then o else none) hread

theorem reference?_name (ref : Reference) :
    reference? ref.name = if ref.isShort then some ref.char else none := by
  cases ref with
  | entity e => cases e <;> rfl
  | code k => simpa [Reference.isShort, Reference.char] using reference?_code k

/-- None of these stands in a reference: they would end it, its value or its tag. -/
def isMark (c : Char) : Bool := c = '&' || c = ';' || c = '"' || c = '\''

theorem not_mem_name {c : Char} (h : isMark c) (ref : Reference) : c ∉ ref.name := by
  have hcases : ((c = '&' ∨ c = ';') ∨ c = '"') ∨ c = '\'' := by simpa [isMark] using h
  cases ref with
  | entity e =>
    rcases hcases with ((rfl | rfl) | rfl) | rfl <;> cases e <;> decide
  | code k =>
    have hopen : c ∉ k.radix.opening := by
      rcases hcases with ((rfl | rfl) | rfl) | rfl <;> cases k.radix <;> decide
    have hdigit : digit? k.radix.base c = none := by
      rcases hcases with ((rfl | rfl) | rfl) | rfl <;> cases k.radix <;> decide
    intro hmem
    rcases List.mem_append.mp hmem with hmem | hmem
    · exact hopen hmem
    · obtain ⟨d, -, hd⟩ := List.mem_map.mp hmem
      exact char_ne_of_no_digit hdigit d hd

theorem quote_not_mem_text (sp : Spelling q) : q.char ∉ sp.text := by
  cases sp with
  | raw c h => simpa [Spelling.text] using Ne.symm h.2
  | reference ref =>
    have hmark : isMark q.char := by cases q <;> decide
    have hends : q.char ≠ '&' ∧ q.char ≠ ';' := by cases q <;> decide
    simp [Spelling.text, not_mem_name hmark ref, hends]

theorem quote_not_mem_written (a : Attribute) : a.quote.char ∉ a.written := by
  simp [Attribute.written, quote_not_mem_text]

theorem unescapeFrom_reference {name s : List Char} (hmark : '&' ∉ name) (hend : ';' ∉ name)
    (rev read : List Char) :
    unescapeFrom rev (some read) (name ++ ';' :: s) =
      match reference? (read.reverse ++ name) with
      | some d => unescapeFrom (d :: rev) none s
      | none => none := by
  induction name generalizing read with
  | nil =>
    rw [List.append_nil]
    rfl
  | cons c name ih =>
    have hc : c ≠ ';' ∧ c ≠ '&' := by
      refine ⟨?_, ?_⟩
      · rintro rfl
        exact hend List.mem_cons_self
      · rintro rfl
        exact hmark List.mem_cons_self
    have hrest := ih (List.not_mem_of_not_mem_cons hmark) (List.not_mem_of_not_mem_cons hend)
      (c :: read)
    rw [List.reverse_cons, List.append_assoc] at hrest
    rw [List.cons_append, unescapeFrom, if_neg hc.1, if_neg hc.2]
    exact hrest

theorem unescapeFrom_text (sp : Spelling q) (rev s : List Char) :
    unescapeFrom rev none (sp.text ++ s) =
      if sp.isShort then unescapeFrom (sp.char :: rev) none s else none := by
  cases sp with
  | raw c h => simp [Spelling.text, Spelling.isShort, Spelling.char, unescapeFrom, h.1]
  | reference ref =>
    have hread := unescapeFrom_reference (s := s) (not_mem_name (c := '&') (by decide) ref)
      (not_mem_name (c := ';') (by decide) ref) rev []
    simp only [List.reverse_nil, List.nil_append, reference?_name] at hread
    change unescapeFrom rev none ('&' :: (ref.name ++ [';'] ++ s)) = _
    rw [unescapeFrom, if_pos rfl, List.append_assoc, List.singleton_append, hread]
    by_cases hshort : ref.isShort
    · simp [Spelling.isShort, Spelling.char, hshort]
    · simp [Spelling.isShort, hshort]

theorem unescapeFrom_written (v : List (Spelling q)) (rev : List Char) :
    unescapeFrom rev none (v.flatMap Spelling.text) =
      if v.all Spelling.isShort then some (rev.reverse ++ v.map Spelling.char) else none := by
  induction v generalizing rev with
  | nil => simp [unescapeFrom]
  | cons sp v ih =>
    rw [List.flatMap_cons, unescapeFrom_text, ih, List.all_cons]
    cases hshort : sp.isShort <;> simp

/-- A value is read back whole unless a code in it is too long. -/
theorem unescape_written (a : Attribute) :
    unescape a.written =
      if a.value.all Spelling.isShort then some (a.value.map Spelling.char) else none :=
  unescapeFrom_written a.value []

theorem exists_spelling (q : Quote) (c : Char) : ∃ sp : Spelling q, sp.isShort ∧ sp.char = c := by
  by_cases hmark : c = '&'
  · exact ⟨.reference (.entity .amp), rfl, hmark.symm⟩
  by_cases hquote : c = q.char
  · cases q with
    | double => exact ⟨.reference (.entity .quot), rfl, hquote.symm⟩
    | single => exact ⟨.reference (.entity .apos), rfl, hquote.symm⟩
  · exact ⟨.raw c ⟨hmark, hquote⟩, rfl, rfl⟩

theorem exists_value (q : Quote) (s : List Char) :
    ∃ v : List (Spelling q), v.all Spelling.isShort ∧ v.map Spelling.char = s := by
  induction s with
  | nil => exact ⟨[], rfl, rfl⟩
  | cons c s ih =>
    obtain ⟨sp, hshort, hchar⟩ := exists_spelling q c
    obtain ⟨v, hall, hmap⟩ := ih
    refine ⟨sp :: v, ?_, ?_⟩
    · simp [hshort, hall]
    · rw [List.map_cons, hchar, hmap]

end RobotBus.Markup
