import Mathlib.Data.List.Chain
import RobotBus.Json.Builder
import RobotBus.Proofs.Json.Numeral
import RobotBus.Proofs.Json.Spelling

namespace RobotBus.Json

open RobotBus.Text

mutual

def tokens : Json → List Token
  | null => [.null]
  | bool b => [.bool b]
  | number s => [.number s]
  | string s => [.string s]
  | array [] => [.openArray, .closeArray]
  | array (v :: vs) => .openArray :: (v.tokens ++ (furtherItems vs ++ [.closeArray]))
  | object [] => [.openObject, .closeObject]
  | object (m :: ms) => .openObject :: (memberTokens m ++ (furtherMembers ms ++ [.closeObject]))

def furtherItems : List Json → List Token
  | [] => []
  | v :: vs => .comma :: (v.tokens ++ furtherItems vs)

def memberTokens : List Symbol × Json → List Token
  | (k, v) => .string k :: .colon :: v.tokens

def furtherMembers : List (List Symbol × Json) → List Token
  | [] => []
  | m :: ms => .comma :: (memberTokens m ++ furtherMembers ms)

end

theorem furtherItems_eq (vs : List Json) :
    furtherItems vs = vs.flatMap (fun v ↦ .comma :: v.tokens) := by
  induction vs with
  | nil => rfl
  | cons v vs ih => rw [furtherItems, List.flatMap_cons, ih, List.cons_append]

theorem furtherMembers_eq (ms : List (List Symbol × Json)) :
    furtherMembers ms = ms.flatMap (fun m ↦ .comma :: memberTokens m) := by
  induction ms with
  | nil => rfl
  | cons m ms ih => rw [furtherMembers, List.flatMap_cons, ih, List.cons_append]

inductive Token.WrittenAs : Token → List Char → Prop
  | openArray : WrittenAs .openArray ['[']
  | closeArray : WrittenAs .closeArray [']']
  | openObject : WrittenAs .openObject ['\x7b']
  | closeObject : WrittenAs .closeObject ['\x7d']
  | comma : WrittenAs .comma [',']
  | colon : WrittenAs .colon [':']
  | null : WrittenAs .null ['n', 'u', 'l', 'l']
  | yes : WrittenAs (.bool true) ['t', 'r', 'u', 'e']
  | no : WrittenAs (.bool false) ['f', 'a', 'l', 's', 'e']
  | number (n : Numeral) : WrittenAs (.number n.text) n.text
  | string (sps : List Spelling) :
      WrittenAs (.string (sps.map Spelling.symbol))
        ('"' :: (sps.flatMap Spelling.text ++ ['"']))

def noBlanks : Markup.Blanks := ⟨[], List.forall_mem_nil _⟩

/-- Tokens one after the other, with blanks before, between and after them. -/
inductive Spells : List Token → List Char → Prop
  | nil (b : Markup.Blanks) : Spells [] b.chars
  | cons (b : Markup.Blanks) {t : Token} {w : List Char} {ts : List Token} {s : List Char}
      (ht : t.WrittenAs w) (hts : Spells ts s) : Spells (t :: ts) (b.chars ++ (w ++ s))

def WrittenAs (v : Json) (s : String) : Prop := Spells v.tokens s.toList

namespace Builder

theorem run_firstItem (v : Json) (up : List Context) (ts : List Token) :
    (firstItem up).run (v.tokens ++ ts) = (value (.item [] :: up)).run (v.tokens ++ ts) := by
  cases v with
  | null => simp only [tokens, List.cons_append, run, step]
  | bool b => simp only [tokens, List.cons_append, run, step]
  | number s => simp only [tokens, List.cons_append, run, step]
  | string s => simp only [tokens, List.cons_append, run, step]
  | array vs => cases vs <;> simp only [tokens, List.cons_append, run, step]
  | object ms => cases ms <;> simp only [tokens, List.cons_append, run, step]

mutual

theorem run_tokens (v : Json) (up : List Context) (ts : List Token) :
    (value up).run (v.tokens ++ ts) = (put v up).run ts := by
  match v with
  | null => rfl
  | bool b => rfl
  | number s => rfl
  | string s => rfl
  | array [] => rfl
  | array (v :: vs) =>
    have hitems := run_furtherItems vs [v] up ts
    simp only [tokens, List.cons_append, List.append_assoc, List.nil_append]
    change (firstItem up).run _ = _
    -- no value begins with the bracket that would close the array
    rw [run_firstItem, run_tokens v, put]
    exact hitems
  | object [] => rfl
  | object ((k, v) :: ms) =>
    have hmembers := run_furtherMembers ms [(k, v)] up ts
    simp only [tokens, memberTokens, List.cons_append, List.append_assoc, List.nil_append]
    change (value (.member [] k :: up)).run _ = _
    rw [run_tokens v, put]
    exact hmembers

theorem run_furtherItems (vs done : List Json) (up : List Context) (ts : List Token) :
    (afterItem up done).run (furtherItems vs ++ .closeArray :: ts) =
      (put (.array (done.reverse ++ vs)) up).run ts := by
  match vs with
  | [] =>
    rw [furtherItems, List.append_nil]
    rfl
  | v :: vs =>
    have hitems := run_furtherItems vs (v :: done) up ts
    rw [furtherItems, List.cons_append, List.append_assoc]
    change (value (.item done :: up)).run _ = _
    rw [run_tokens v, put, hitems, List.reverse_cons, List.append_assoc, List.singleton_append]

theorem run_furtherMembers (ms done : List (List Symbol × Json)) (up : List Context)
    (ts : List Token) :
    (afterMember up done).run (furtherMembers ms ++ .closeObject :: ts) =
      (put (.object (done.reverse ++ ms)) up).run ts := by
  match ms with
  | [] =>
    rw [furtherMembers, List.append_nil]
    rfl
  | (k, v) :: ms =>
    have hmembers := run_furtherMembers ms ((k, v) :: done) up ts
    simp only [furtherMembers, memberTokens, List.cons_append, List.append_assoc]
    change (value (.member done k :: up)).run _ = _
    rw [run_tokens v, put, hmembers, List.reverse_cons, List.append_assoc, List.singleton_append]

end

end Builder

theorem ofTokens?_tokens (v : Json) : ofTokens? v.tokens = some v := by
  have hrun := Builder.run_tokens v [] []
  rw [List.append_nil] at hrun
  rw [ofTokens?, hrun]
  rfl

def Token.isWord : Token → Bool
  | .null | .bool _ | .number _ => true
  | _ => false

/-- Two words need something between them, or they are read as one. -/
def Apart (t u : Token) : Prop := t.isWord → u.isWord = false

namespace Builder

theorem run_cons_iff {b b' : Builder} {t : Token} {ts : List Token} :
    b.run (t :: ts) = some b' ↔ ∃ b₁, b.step t = some b₁ ∧ b₁.run ts = some b' := by
  cases h : b.step t <;> simp [run, h]

theorem begin_of_isWord {t : Token} (ht : t.isWord) (up : List Context) :
    ∃ v, begin up t = some (put v up) := by
  cases t with
  | null => exact ⟨.null, rfl⟩
  | bool b => exact ⟨.bool b, rfl⟩
  | number s => exact ⟨.number s, rfl⟩
  | openArray | closeArray | openObject | closeObject | comma | colon | string => cases ht

theorem step_of_isWord {b b' : Builder} {t : Token} (ht : t.isWord) (h : b.step t = some b') :
    ∃ v up, b' = put v up := by
  have hbegin : ∃ up, b.step t = begin up t := by
    cases t with
    | null | bool | number =>
      cases b with
      | value up => exact ⟨up, rfl⟩
      | firstItem up => exact ⟨.item [] :: up, rfl⟩
      | firstMember | key | colon | afterItem | afterMember | complete => cases h
    | openArray | closeArray | openObject | closeObject | comma | colon | string => cases ht
  obtain ⟨up, hup⟩ := hbegin
  obtain ⟨v, hv⟩ := begin_of_isWord ht up
  rw [hup, hv, Option.some.injEq] at h
  exact ⟨v, up, h.symm⟩

theorem not_isWord_of_step {v : Json} {up : List Context} {b : Builder} {t : Token}
    (h : (put v up).step t = some b) : t.isWord = false := by
  cases t with
  | null | bool | number =>
    cases up with
    | nil => cases h
    | cons c up => cases c <;> cases h
  | openArray | closeArray | openObject | closeObject | comma | colon | string => rfl

theorem isChain_of_run {b b' : Builder} {ts : List Token} (h : b.run ts = some b') :
    ts.IsChain Apart := by
  induction ts generalizing b with
  | nil => exact .nil
  | cons t ts ih =>
    obtain ⟨b₁, ht, hrest⟩ := run_cons_iff.mp h
    refine List.isChain_cons.mpr ⟨?_, ih hrest⟩
    intro u hu hword
    obtain ⟨v, up, rfl⟩ := step_of_isWord hword ht
    obtain ⟨us, rfl⟩ := List.head?_eq_some_iff.mp hu
    obtain ⟨b₂, hstep, -⟩ := run_cons_iff.mp hrest
    exact not_isWord_of_step hstep

end Builder

theorem isChain_tokens (v : Json) : v.tokens.IsChain Apart := by
  have hrun := Builder.run_tokens v [] []
  rw [List.append_nil] at hrun
  exact Builder.isChain_of_run hrun

theorem endsWord_of_isDigit {c : Char} (h : c.isDigit) : Lexer.endsWord c = false := by
  have hblank : isBlank c = false := by
    simp [isBlank, ne_of_isDigit h]
  have hmark : Token.ofPunctuation? c = none := by
    rw [Token.ofPunctuation?]
    · exact ne_of_isDigit h (by decide)
    · exact ne_of_isDigit h (by decide)
    · exact ne_of_isDigit h (by decide)
    · exact ne_of_isDigit h (by decide)
    · exact ne_of_isDigit h (by decide)
    · exact ne_of_isDigit h (by decide)
  simp [Lexer.endsWord, hblank, hmark, ne_of_isDigit h]

theorem endsWord_of_mem_numeral (n : Numeral) {c : Char} (h : c ∈ n.text) :
    Lexer.endsWord c = false := by
  have hdigits : ∀ d : Digits, c ∈ d.chars → Lexer.endsWord c = false :=
    fun d hc ↦ endsWord_of_isDigit (d.digit c hc)
  have hfraction : c ∈ n.fractionText → Lexer.endsWord c = false := by
    rw [Numeral.fractionText]
    cases n.fraction with
    | none => simp
    | some d =>
      intro hc
      rcases List.mem_cons.mp hc with rfl | hc
      · rfl
      · exact hdigits d hc
  have hexponent : c ∈ n.exponentText → Lexer.endsWord c = false := by
    rw [Numeral.exponentText]
    cases n.exponent with
    | none => simp
    | some e =>
      intro hc
      rcases List.mem_cons.mp hc with rfl | hc
      · cases e.capital <;> rfl
      · rcases List.mem_append.mp hc with hc | hc
        · obtain ⟨g, -, rfl⟩ := List.mem_map.mp hc
          cases g <;> rfl
        · exact hdigits e.digits hc
  rcases List.mem_append.mp h with hc | hc
  · cases hneg : n.negative with
    | false => simp [hneg] at hc
    | true =>
      obtain rfl : c = '-' := by simpa [hneg] using hc
      rfl
  · rcases List.mem_append.mp hc with hc | hc
    · exact hdigits (.ofNat n.whole) hc
    · rcases List.mem_append.mp hc with hc | hc
      · exact hfraction hc
      · exact hexponent hc

theorem ofWord?_numeral (n : Numeral) : Token.ofWord? n.text = some (.number n.text) := by
  have hne : ∀ w, isNumber w = false → n.text ≠ w := by
    rintro w hw rfl
    rw [n.isNumber_text] at hw
    cases hw
  rw [Token.ofWord?, if_neg (hne _ (by decide)), if_neg (hne _ (by decide)),
    if_neg (hne _ (by decide)), if_pos n.isNumber_text]

theorem isWord_of_ofWord? {w : List Char} {t : Token} (h : Token.ofWord? w = some t) :
    t.isWord := by
  rw [Token.ofWord?] at h
  split at h
  · cases h
    rfl
  · split at h
    · cases h
      rfl
    · split at h
      · cases h
        rfl
      · split at h
        · cases h
          rfl
        · cases h

theorem Token.WrittenAs.kind {t : Token} {w : List Char} (h : t.WrittenAs w) :
    (Token.ofWord? w = some t ∧ ∀ c ∈ w, Lexer.endsWord c = false) ∨
      (∃ c, w = [c] ∧ Token.ofPunctuation? c = some t) ∨
      ∃ sps, w = '"' :: (List.flatMap Spelling.text sps ++ ['"']) ∧
        t = .string (sps.map Spelling.symbol) := by
  have hplain : ∀ s : List Char, s.all (!Lexer.endsWord ·) = true →
      ∀ c ∈ s, Lexer.endsWord c = false := by
    simp
  cases h with
  | openArray | closeArray | openObject | closeObject | comma | colon =>
    exact .inr (.inl ⟨_, rfl, rfl⟩)
  | null | yes | no => exact .inl ⟨rfl, hplain _ rfl⟩
  | number n => exact .inl ⟨ofWord?_numeral n, fun c ↦ endsWord_of_mem_numeral n⟩
  | string sps => exact .inr (.inr ⟨sps, rfl, rfl⟩)

namespace Lexer

/-- The reader has these tokens behind it, the last of which may be a word that has not been ended
yet. -/
inductive HasRead : List Token → Lexer → Prop
  | between (past : List Token) : HasRead past ⟨past, .between⟩
  | word (past : List Token) {rev : List Char} {t : Token}
      (h : Token.ofWord? rev.reverse = some t) : HasRead (t :: past) ⟨past, .word rev⟩

namespace HasRead

variable {past : List Token} {l : Lexer}

theorem step (h : HasRead past l) {c : Char} (hc : endsWord c) :
    l.step c = some (begin past c) := by
  cases h with
  | between => rfl
  | word past hword => rw [Lexer.step, if_pos hc, hword, Option.map_some]

theorem finish (h : HasRead past l) : l.finish = some past.reverse := by
  cases h with
  | between => rfl
  | word past hword => rw [Lexer.finish, hword, Option.map_some]

theorem run_blanks (h : HasRead past l) (b : Markup.Blanks) :
    ∃ l', HasRead past l' ∧ ∀ s, l.run (b.chars ++ s) = l'.run s := by
  obtain ⟨chars, blank⟩ := b
  induction chars generalizing l with
  | nil => exact ⟨l, h, fun _ ↦ rfl⟩
  | cons c chars ih =>
    have hc : isBlank c := blank c List.mem_cons_self
    have hstep : l.step c = some ⟨past, .between⟩ := by
      rw [h.step (by simp [endsWord, hc]), begin, if_pos hc]
    obtain ⟨l', hl', hrun⟩ := ih (.between past) (fun d hd ↦ blank d (List.mem_cons_of_mem _ hd))
    refine ⟨l', hl', fun s ↦ ?_⟩
    rw [List.cons_append, run_of_step hstep, hrun]

theorem run_mark (h : HasRead past l) {c : Char} {t : Token} (hc : Token.ofPunctuation? c = some t)
    (s : List Char) : l.run (c :: s) = run ⟨t :: past, .between⟩ s := by
  have hblank : isBlank c = false ∧ c ≠ '"' := by
    unfold Token.ofPunctuation? at hc
    split at hc <;> first | decide | cases hc
  refine run_of_step ?_ s
  rw [h.step (by simp [endsWord, hc]), begin, if_neg (by simp [hblank.1]), if_neg hblank.2, hc]

theorem run_string (h : HasRead past l) (sps : List Spelling) (s : List Char) :
    l.run ('"' :: (sps.flatMap Spelling.text ++ ['"']) ++ s) =
      run ⟨.string (sps.map Spelling.symbol) :: past, .between⟩ s := by
  have hopen : l.step '"' = some ⟨past, .string []⟩ := h.step rfl
  have hclose : Lexer.step ⟨past, .string (sps.map Spelling.symbol).reverse⟩ '"' =
      some ⟨.string (sps.map Spelling.symbol) :: past, .between⟩ := by
    rw [Lexer.step, if_pos rfl, List.reverse_reverse]
  rw [List.cons_append, run_of_step hopen, List.append_assoc, run_spellings, List.append_nil]
  exact run_of_step hclose s

theorem eq_between (h : HasRead past l) (hpast : ∀ t ∈ past.head?, t.isWord = false) :
    l = ⟨past, .between⟩ := by
  cases h with
  | between => rfl
  | word past hword =>
    have hnot := hpast _ rfl
    rw [isWord_of_ofWord? hword] at hnot
    cases hnot

end HasRead

theorem run_word_chars (past : List Token) (rev : List Char) {w : List Char}
    (hw : ∀ c ∈ w, endsWord c = false) (s : List Char) :
    run ⟨past, .word rev⟩ (w ++ s) = run ⟨past, .word (w.reverse ++ rev)⟩ s := by
  induction w generalizing rev with
  | nil => rfl
  | cons c w ih =>
    have hc : ¬endsWord c := by simp [hw c List.mem_cons_self]
    have hstep : Lexer.step ⟨past, .word rev⟩ c = some ⟨past, .word (c :: rev)⟩ := by
      rw [Lexer.step, if_neg hc]
    rw [List.cons_append, run_of_step hstep, ih (c :: rev)
      (fun d hd ↦ hw d (List.mem_cons_of_mem _ hd)), List.reverse_cons, List.append_assoc,
      List.singleton_append]

theorem run_word (past : List Token) {w : List Char} {t : Token} (ht : Token.ofWord? w = some t)
    (hw : ∀ c ∈ w, endsWord c = false) (s : List Char) :
    run ⟨past, .between⟩ (w ++ s) = run ⟨past, .word w.reverse⟩ s := by
  cases w with
  | nil => cases ht
  | cons c w =>
    have hc : endsWord c = false := hw c List.mem_cons_self
    have hstep : Lexer.step ⟨past, .between⟩ c = some ⟨past, .word [c]⟩ := by
      simp only [endsWord, Bool.or_eq_false_iff, decide_eq_false_iff_not] at hc
      rw [Lexer.step, begin, if_neg (by simp [hc.1.1]), if_neg hc.1.2]
      cases hmark : Token.ofPunctuation? c with
      | none => rfl
      | some t => simp [hmark] at hc
    rw [List.cons_append, run_of_step hstep, run_word_chars past [c]
      (fun d hd ↦ hw d (List.mem_cons_of_mem _ hd)), List.reverse_cons]

theorem HasRead.run_token {past : List Token} {l : Lexer} (h : HasRead past l) {t : Token}
    {w : List Char} (ht : t.WrittenAs w) (hpast : ∀ u ∈ past.head?, Apart u t) :
    ∃ l', HasRead (t :: past) l' ∧ ∀ s, l.run (w ++ s) = l'.run s := by
  rcases ht.kind with ⟨hword, hplain⟩ | ⟨c, rfl, hc⟩ | ⟨sps, rfl, rfl⟩
  · -- a word that is not ended yet would swallow this one
    have hbetween : ∀ u ∈ past.head?, u.isWord = false := by
      intro u hu
      by_contra hnot
      have hfalse := hpast u hu (by simpa using hnot)
      rw [isWord_of_ofWord? hword] at hfalse
      cases hfalse
    refine ⟨⟨past, .word w.reverse⟩, .word past (by rwa [List.reverse_reverse]), fun s ↦ ?_⟩
    rw [h.eq_between hbetween, run_word past hword hplain]
  · exact ⟨_, .between _, fun s ↦ h.run_mark hc s⟩
  · exact ⟨_, .between _, fun s ↦ h.run_string sps s⟩

theorem HasRead.run_spells {past ts : List Token} {l : Lexer} {s : List Char}
    (h : HasRead past l) (hs : Spells ts s) (hpast : ∀ u ∈ past.head?, ∀ t ∈ ts.head?, Apart u t)
    (hts : ts.IsChain Apart) : (l.run s).bind Lexer.finish = some (past.reverse ++ ts) := by
  induction hs generalizing past l with
  | nil b =>
    obtain ⟨l', hl', hrun⟩ := h.run_blanks b
    have hend := hrun []
    rw [List.append_nil] at hend
    rw [hend, List.append_nil]
    exact hl'.finish
  | @cons b t w ts s ht hs ih =>
    obtain ⟨l₁, hl₁, hblanks⟩ := h.run_blanks b
    obtain ⟨l₂, hl₂, htoken⟩ := hl₁.run_token ht (fun u hu ↦ hpast u hu t rfl)
    obtain ⟨hnext, hts⟩ := List.isChain_cons.mp hts
    have hpast' : ∀ u ∈ (t :: past).head?, ∀ t' ∈ ts.head?, Apart u t' := by
      intro u hu t' ht'
      cases hu
      exact hnext t' ht'
    rw [hblanks, htoken, ih hl₂ hpast' hts, List.reverse_cons, List.append_assoc,
      List.singleton_append]

end Lexer

theorem tokens?_of_spells {ts : List Token} {s : List Char} (hs : Spells ts s)
    (hts : ts.IsChain Apart) : tokens? s = some ts :=
  (Lexer.HasRead.between []).run_spells hs (by simp) hts

/-- Every text of a value is read as the value. -/
theorem ofText?_of_writtenAs {v : Json} {s : String} (h : v.WrittenAs s) : ofText? s = some v := by
  rw [ofText?, tokens?_of_spells h (isChain_tokens v), Option.bind_some, ofTokens?_tokens]

end RobotBus.Json
