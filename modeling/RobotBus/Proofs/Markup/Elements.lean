import RobotBus.Proofs.Markup.Scanning
import RobotBus.Proofs.Markup.Spelling

namespace RobotBus.Markup

open RobotBus.Text

mutual

def Element.tokens : Element → List Token
  | .empty tag => [.empty tag.text]
  | .pair tag inside _ => .start tag.text :: (inside.tokens ++ [.close tag.name.chars])

def Content.tokens : Content → List Token
  | .done => []
  | .aside _ rest => rest.tokens
  | .element e rest => e.tokens ++ rest.tokens

end

namespace Scanner

variable {ts : List Token} {rev s t : List Char}

/-- Inside a tag the text is only kept: no `>` ends the tag and no quote is left open. -/
def Within (s : List Char) : Prop :=
  ∀ ts rev, run ⟨ts, .element none rev⟩ s = ⟨ts, .element none (s.reverse ++ rev)⟩

theorem Within.append (hs : Within s) (ht : Within t) : Within (s ++ t) := by
  intro ts rev
  rw [run_append, hs, ht, List.reverse_append, List.append_assoc]

theorem within_flatMap {α : Type} {f : α → List Char} (h : ∀ a, Within (f a)) (as : List α) :
    Within (as.flatMap f) := by
  induction as with
  | nil => exact fun ts rev ↦ rfl
  | cons a as ih => exact (h a).append ih

theorem within_of_plain (hend : '>' ∉ s) (hdouble : '"' ∉ s) (hsingle : '\'' ∉ s) : Within s := by
  intro ts rev
  refine run_of_kept (p := .element none) ?_ rev
  intro c hc rev
  have hne : c ≠ '>' := fun h ↦ hend (h ▸ hc)
  have hquotes : ¬(c = '"' ∨ c = '\'') := by
    rintro (rfl | rfl)
    · exact hdouble hc
    · exact hsingle hc
  simp only [step, inElement, if_neg hne, if_neg hquotes]

theorem within_quoted (q : Quote) (h : q.char ∉ s) : Within (q.char :: (s ++ [q.char])) := by
  intro ts rev
  have hopen : step ⟨ts, .element none rev⟩ q.char =
      ⟨ts, .element (some q.char) (q.char :: rev)⟩ := by
    cases q <;> rfl
  have hbody : run ⟨ts, .element (some q.char) (q.char :: rev)⟩ s =
      ⟨ts, .element (some q.char) (s.reverse ++ q.char :: rev)⟩ := by
    refine run_of_kept (p := .element (some q.char)) ?_ _
    intro c hc rev
    have hne : c ≠ q.char := by
      rintro rfl
      exact h hc
    simp [step, inElement, hne]
  have hclose : step ⟨ts, .element (some q.char) (s.reverse ++ q.char :: rev)⟩ q.char =
      ⟨ts, .element none (q.char :: (s.reverse ++ q.char :: rev))⟩ := by
    simp [step, inElement]
  rw [run_cons, hopen, run_append, hbody, run_cons, hclose]
  simp [run]

theorem within_name (n : Name) : Within n.chars :=
  within_of_plain (n.not_mem (by decide)) (n.not_mem (by decide)) (n.not_mem (by decide))

theorem within_blanks (b : Blanks) : Within b.chars :=
  within_of_plain (b.not_mem (by decide)) (b.not_mem (by decide)) (b.not_mem (by decide))

theorem within_attribute (a : Attribute) : Within a.text := by
  have hsign : Within ['='] := within_of_plain (by decide) (by decide) (by decide)
  have hvalue := within_quoted a.quote (quote_not_mem_written a)
  have hkey := ((within_blanks a.gap).append (within_name a.key)).append
    (within_blanks a.beforeSign)
  exact hkey.append (hsign.append ((within_blanks a.afterSign).append hvalue))

theorem step_opened {c : Char} (h : isNameChar c) :
    step ⟨ts, .opened⟩ c = ⟨ts, .element none [c]⟩ := by
  have hquotes : ¬(c = '"' ∨ c = '\'') := by
    rintro (hc | hc)
    · exact ne_of_isNameChar h (by decide) hc
    · exact ne_of_isNameChar h (by decide) hc
  simp only [step]
  split
  · exact absurd h (by decide)
  · exact absurd h (by decide)
  · exact absurd h (by decide)
  · exact absurd h (by decide)
  · rw [inElement, if_neg hquotes]

theorem run_tag (t : Tag) : run ⟨ts, .opened⟩ t.text = ⟨ts, .element none t.text.reverse⟩ := by
  obtain ⟨⟨name, nonempty, plain⟩, attributes, pad⟩ := t
  obtain ⟨c, cs, rfl⟩ := List.exists_cons_of_ne_nil nonempty
  obtain ⟨hc, hcs⟩ := List.forall_mem_cons.mp plain
  have hname : Within cs := by
    by_cases hnil : cs = []
    · subst hnil
      exact fun ts rev ↦ rfl
    · exact within_name ⟨cs, hnil, hcs⟩
  have hrest := hname.append
    ((within_flatMap within_attribute attributes).append (within_blanks pad))
  change run _ (c :: (cs ++ (attributes.flatMap Attribute.text ++ pad.chars))) = _
  rw [run_cons, step_opened hc, hrest ts [c]]
  simp [Tag.text]

theorem getLast?_append_ne {c : Char} (hs : s.getLast? ≠ some c) (ht : t.getLast? ≠ some c) :
    (s ++ t).getLast? ≠ some c := by
  rw [List.getLast?_append]
  cases h : t.getLast? with
  | none => simpa using hs
  | some d => simpa [h] using ht

theorem getLast?_tag (t : Tag) : t.text.getLast? ≠ some '/' := by
  have hname : t.name.chars.getLast? ≠ some '/' :=
    fun h ↦ t.name.not_mem (by decide) (List.mem_of_getLast? h)
  have hpad : t.pad.chars.getLast? ≠ some '/' :=
    fun h ↦ t.pad.not_mem (by decide) (List.mem_of_getLast? h)
  have hattribute : ∀ a : Attribute, a.text.getLast? ≠ some '/' := by
    intro a
    have hquote : a.quote.char ≠ '/' := by cases a.quote <;> decide
    simp [Attribute.text, List.getLast?_cons, hquote]
  have hattributes : (t.attributes.flatMap Attribute.text).getLast? ≠ some '/' := by
    induction t.attributes with
    | nil => simp
    | cons a as ih =>
      rw [List.flatMap_cons]
      exact getLast?_append_ne (hattribute a) ih
  exact getLast?_append_ne hname (getLast?_append_ne hattributes hpad)

theorem endElement_tag (t : Tag) : endElement t.text.reverse = .start t.text := by
  have hhead : t.text.reverse.head? ≠ some '/' := by
    rw [List.head?_reverse]
    exact getLast?_tag t
  unfold endElement
  split
  · rename_i rev heq
    rw [heq] at hhead
    exact absurd rfl hhead
  · rw [List.reverse_reverse]

theorem closingName_padded (n : Name) (b : Blanks) :
    closingName (n.chars ++ b.chars).reverse = n.chars := by
  have hblank : ∀ c ∈ b.chars.reverse, isBlank c := fun c hc ↦ b.blank c (List.mem_reverse.mp hc)
  have hkeep : n.chars.reverse.dropWhile isBlank = n.chars.reverse := by
    obtain ⟨c, cs, hcons⟩ := List.exists_cons_of_ne_nil (List.reverse_ne_nil_iff.mpr n.nonempty)
    have hmem : c ∈ n.chars := by
      rw [← List.mem_reverse, hcons]
      exact List.mem_cons_self
    rw [hcons, List.dropWhile_cons_of_neg (isBlank_of_isNameChar (n.plain c hmem))]
  have hdrop : (n.chars ++ b.chars).reverse.dropWhile isBlank = n.chars.reverse := by
    rw [List.reverse_append, List.dropWhile_append_of_pos hblank, hkeep]
  unfold closingName
  rw [hdrop]
  split
  · rename_i heq
    exact absurd (List.reverse_eq_nil_iff.mp heq) n.nonempty
  · exact List.reverse_reverse n.chars

theorem run_closing (n : Name) (b : Blanks) :
    run ⟨ts, .text⟩ ('<' :: '/' :: (n.chars ++ b.chars ++ ['>'])) =
      ⟨.close n.chars :: ts, .text⟩ := by
  have hopen : run ⟨ts, .text⟩ ['<', '/'] = ⟨ts, .closing []⟩ := rfl
  have hbody : run ⟨ts, .closing []⟩ (n.chars ++ b.chars) =
      ⟨ts, .closing ((n.chars ++ b.chars).reverse ++ [])⟩ := by
    refine run_of_kept (p := .closing) (fun c hc _ ↦ if_neg ?_) []
    rintro rfl
    rcases List.mem_append.mp hc with hc | hc
    · exact n.not_mem (by decide) hc
    · exact b.not_mem (by decide) hc
  have hend : step ⟨ts, .closing (n.chars ++ b.chars).reverse⟩ '>' =
      ⟨.close n.chars :: ts, .text⟩ := by
    simp [step, -List.reverse_append, closingName_padded]
  change run _ (['<', '/'] ++ (n.chars ++ b.chars ++ ['>'])) = _
  rw [run_append, run_append, hopen, hbody, List.append_nil, run_cons, hend]
  rfl

theorem run_start (t : Tag) :
    run ⟨ts, .text⟩ ('<' :: (t.text ++ ['>'])) = ⟨.start t.text :: ts, .text⟩ := by
  have hend : step ⟨ts, .element none t.text.reverse⟩ '>' = ⟨.start t.text :: ts, .text⟩ := by
    simp [step, endElement_tag]
  change run ⟨ts, .opened⟩ (t.text ++ ['>']) = _
  rw [run_append, run_tag, run_cons, hend]
  rfl

theorem run_empty (t : Tag) :
    run ⟨ts, .text⟩ ('<' :: (t.text ++ ['/', '>'])) = ⟨.empty t.text :: ts, .text⟩ := by
  have hslash : step ⟨ts, .element none t.text.reverse⟩ '/' =
      ⟨ts, .element none ('/' :: t.text.reverse)⟩ := rfl
  have hend : step ⟨ts, .element none ('/' :: t.text.reverse)⟩ '>' =
      ⟨.empty t.text :: ts, .text⟩ := by
    simp [step, endElement]
  change run ⟨ts, .opened⟩ (t.text ++ ['/', '>']) = _
  rw [run_append, run_tag, run_cons, hslash, run_cons, hend]
  rfl

mutual

theorem run_element (e : Element) (ts : List Token) :
    run ⟨ts, .text⟩ e.text = ⟨e.tokens.reverse ++ ts, .text⟩ := by
  cases e with
  | empty tag => exact run_empty tag
  | pair tag inside pad =>
    have hsplit : (Element.pair tag inside pad).text =
        '<' :: (tag.text ++ ['>']) ++
          (inside.text ++ ('<' :: '/' :: (tag.name.chars ++ pad.chars ++ ['>']))) := by
      simp [Element.text]
    rw [hsplit, run_append, run_append, run_start, run_content inside, run_closing]
    simp [Element.tokens]

theorem run_content (c : Content) (ts : List Token) :
    run ⟨ts, .text⟩ c.text = ⟨c.tokens.reverse ++ ts, .text⟩ := by
  cases c with
  | done => rfl
  | aside a rest =>
    rw [Content.text, run_append, run_aside, run_content rest]
    rfl
  | element e rest =>
    rw [Content.text, run_append, run_element e, run_content rest, Content.tokens,
      List.reverse_append, List.append_assoc]

end

theorem run_withoutMark (s : List Char) : start.run (withoutMark s) = start.run s := by
  unfold withoutMark
  split <;> rfl

end Scanner

/-- Of a whole document the tokens of its root remain, and nothing is found wrong with it. -/
theorem tokens_document (d : Document) : tokens d.text.toList = (d.root.tokens, none) := by
  rw [tokens, Scanner.run_withoutMark, Document.text, String.toList_ofList, Scanner.run_append,
    Scanner.run_append]
  change (((Scanner.run ⟨[], .text⟩ _).run _).run _).finish = _
  rw [Scanner.run_asides, Scanner.run_element, Scanner.run_asides]
  simp [Scanner.finish]

end RobotBus.Markup
