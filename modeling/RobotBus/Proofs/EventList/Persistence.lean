import RobotBus.Proofs.EventList.Truncation

namespace RobotBus.Markup

def Place.Plain : Place → Prop
  | .opened | .closing _ | .failed _ => False
  | .text | .declaration | .comment _ | .characterData _ | .documentType _ _ | .instruction _
  | .element _ _ => True

namespace Scanner

variable {ts : List Token} {s : List Char}

/-- All that one character can do, by what it leaves: the way into an end tag, each kind of token,
a fault, or something else that goes on. -/
inductive Stepped (s : Scanner) (c : Char) : Scanner → Prop
  | opened (h : s.place = .text) (hc : c = '<') : Stepped s c ⟨s.tokens, .opened⟩
  | endTag (h : s.place = .opened) (hc : c = '/') : Stepped s c ⟨s.tokens, .closing []⟩
  | inEndTag {rev : List Char} (h : s.place = .closing rev) (hc : c ≠ '>') :
      Stepped s c ⟨s.tokens, .closing (c :: rev)⟩
  | close {rev : List Char} (h : s.place = .closing rev) (hc : c = '>') :
      Stepped s c ⟨.close (closingName rev) :: s.tokens, .text⟩
  | start (tag : List Char) : Stepped s c ⟨.start tag :: s.tokens, .text⟩
  | empty (tag : List Char) : Stepped s c ⟨.empty tag :: s.tokens, .text⟩
  | fails {f : Fault} (hf : f ≠ .unmatchedEnd) : Stepped s c ⟨s.tokens, .failed f⟩
  | failed {f : Fault} (h : s.place = .failed f) : Stepped s c ⟨s.tokens, .failed f⟩
  | other {p : Place} (hp : p.Plain) : Stepped s c ⟨s.tokens, p⟩

theorem stepped_endDocumentType (s : Scanner) (c : Char) (rev : List Char) :
    Stepped s c ⟨s.tokens, endDocumentType rev⟩ := by
  unfold endDocumentType
  split
  · split
    · exact .fails (by decide)
    · exact .other trivial
  · exact .fails (by decide)

theorem step_stepped (s : Scanner) (c : Char) : Stepped s c (s.step c) := by
  obtain ⟨ts, place⟩ := s
  cases place with
  | text =>
    simp only [step]
    split
    · next hc => exact .opened rfl hc
    · exact .other trivial
  | opened =>
    simp only [step]
    split
    · exact .other trivial
    · exact .endTag rfl rfl
    · exact .other trivial
    · exact .start []
    · exact .other trivial
  | declaration =>
    simp only [step]
    split
    · exact .other trivial
    · exact .other trivial
    · exact .other trivial
    · exact .other trivial
    · exact .fails (by decide)
  | comment rev =>
    simp only [step]
    split
    · split
      · exact .other trivial
      · exact .fails (by decide)
    · exact .other trivial
  | characterData rev =>
    simp only [step]
    split
    · split
      · exact .other trivial
      · exact .fails (by decide)
    · exact .other trivial
  | documentType rev depth =>
    simp only [step]
    split
    · exact .other trivial
    · split
      · cases depth with
        | zero => exact stepped_endDocumentType ⟨ts, .documentType rev 0⟩ c rev
        | succ d => exact .other trivial
      · exact .other trivial
  | closing rev =>
    simp only [step]
    split
    · next hc => exact .close rfl hc
    · next hc => exact .inEndTag rfl hc
  | instruction rev =>
    simp only [step]
    split
    · split
      · exact .other trivial
      · exact .fails (by decide)
    · exact .other trivial
  | element quote rev =>
    cases quote with
    | none =>
      simp only [step]
      split
      · unfold endElement
        split
        · exact .empty _
        · exact .start _
      · exact .other trivial
    | some q => exact .other trivial
  | failed f => exact .failed rfl

theorem run_concat (s : Scanner) (cs : List Char) (c : Char) :
    s.run (cs ++ [c]) = (s.run cs).step c := run_append s cs [c]

theorem place_run_ne_unmatchedEnd (s : List Char) :
    (start.run s).place ≠ .failed .unmatchedEnd := by
  induction s using List.reverseRecOn with
  | nil => rintro ⟨⟩
  | append_singleton s c ih =>
    have hstepped := step_stepped (start.run s) c
    rw [run_concat]
    generalize (start.run s).step c = s' at hstepped ⊢
    cases hstepped with
    | failed h => exact h ▸ ih
    | fails hf => exact fun h ↦ hf (Place.failed.inj h)
    | other hp =>
      intro h
      exact (h ▸ hp : Place.Plain (.failed .unmatchedEnd))
    | opened | endTag | inEndTag | close | start | empty => rintro ⟨⟩

theorem exists_of_opened (h : (start.run s).place = .opened) :
    ∃ before, s = before ++ ['<'] ∧ start.run before = ⟨(start.run s).tokens, .text⟩ := by
  cases s using List.reverseRecOn with
  | nil => cases h
  | append_singleton s c =>
    have hstepped := step_stepped (start.run s) c
    rw [run_concat] at h ⊢
    generalize (start.run s).step c = s' at hstepped h ⊢
    cases hstepped with
    | opened htext hc => exact ⟨s, by rw [hc], by rw [← htext]⟩
    | other hp => exact (h ▸ hp : Place.Plain .opened).elim
    | endTag | inEndTag | close | start | empty | fails | failed => cases h

theorem exists_of_closing {rev : List Char} (h : (start.run s).place = .closing rev) :
    ∃ before, s = before ++ '<' :: '/' :: rev.reverse ∧ '>' ∉ rev ∧
      start.run before = ⟨(start.run s).tokens, .text⟩ := by
  induction s using List.reverseRecOn generalizing rev with
  | nil => cases h
  | append_singleton s c ih =>
    have hstepped := step_stepped (start.run s) c
    rw [run_concat] at h ⊢
    generalize (start.run s).step c = s' at hstepped h ⊢
    cases hstepped with
    | endTag hopened hc =>
      cases h
      obtain ⟨before, rfl, hbefore⟩ := exists_of_opened hopened
      exact ⟨before, by rw [hc]; simp, List.not_mem_nil, hbefore⟩
    | inEndTag hclosing hc =>
      cases h
      obtain ⟨before, rfl, hmem, hbefore⟩ := ih hclosing
      refine ⟨before, by simp, ?_, hbefore⟩
      exact List.not_mem_cons_of_ne_of_not_mem (Ne.symm hc) hmem
    | other hp => exact (h ▸ hp : Place.Plain (.closing rev)).elim
    | opened | close | start | empty | fails | failed => cases h

theorem run_endTag {name : List Char} (h : '>' ∉ name) :
    run ⟨ts, .text⟩ ('<' :: '/' :: (name ++ ['>'])) =
      ⟨.close (closingName name.reverse) :: ts, .text⟩ := by
  have hbody : run ⟨ts, .closing []⟩ name = ⟨ts, .closing (name.reverse ++ [])⟩ := by
    refine run_of_kept (p := .closing) (fun c hc _ ↦ if_neg ?_) []
    rintro rfl
    exact h hc
  change run ⟨ts, .closing []⟩ (name ++ ['>']) = _
  rw [run_append, hbody, List.append_nil]
  rfl

end Scanner

end RobotBus.Markup

namespace RobotBus.EventList.Aesl

open RobotBus.Markup

/-- The text is refused for a token that is complete, or for something that is not well formed and
leaves none. What follows makes no difference. -/
inductive Refused (s : List Char) : Failure → Prop
  | token {e : Failure} (h : Reader.start.run (Scanner.start.run s).tokens.reverse = .error e) :
      Refused s e
  | construct {r : Reader} {f : Markup.Fault}
      (hr : Reader.start.run (Scanner.start.run s).tokens.reverse = .ok r)
      (hf : (Scanner.start.run s).place = .failed f) : Refused s (.markup f)

variable {s : List Char} {e : Failure}

theorem Refused.append (h : Refused s e) (u : List Char) : Refused (s ++ u) e := by
  cases h with
  | token h =>
    obtain ⟨ts, hts⟩ := Scanner.tokens_run (Scanner.start.run s) u
    refine .token ?_
    rw [Scanner.run_append, ← hts, List.reverse_append, Reader.run_append, h]
    rfl
  | construct hr hf =>
    have hstays : Scanner.start.run (s ++ u) = Scanner.start.run s := by
      rw [Scanner.run_append]
      generalize Scanner.start.run s = sc at hf ⊢
      obtain ⟨ts, place⟩ := sc
      cases hf
      exact Scanner.run_failed _ u
    exact .construct (hstays ▸ hr) (hstays ▸ hf)

theorem tokens_eq_finish (s : List Char) : tokens s = (Scanner.start.run s).finish := by
  rw [tokens, Scanner.run_withoutMark]

theorem prefix_finish (sc : Scanner) : sc.tokens.reverse <+: sc.finish.1 := by
  obtain ⟨ts, place⟩ := sc
  cases place with
  | closing rev => exact List.reverse_prefix.mpr (List.suffix_cons _ _)
  | text | opened | declaration | comment | characterData | documentType | instruction | element
  | failed => exact List.prefix_rfl

theorem Refused.parseChars (h : Refused s e) : parseChars s = .error e := by
  rw [Aesl.parseChars, tokens_eq_finish]
  cases h with
  | token h =>
    obtain ⟨us, hus⟩ := prefix_finish (Scanner.start.run s)
    rw [← hus, Reader.run_append, h]
    rfl
  | construct hr hf =>
    generalize Scanner.start.run s = sc at hr hf ⊢
    obtain ⟨ts, place⟩ := sc
    cases hf
    simp only [Scanner.finish, hr]

theorem Refused.unique {e' : Failure} (h : Refused s e) (h' : Refused s e') : e = e' :=
  Except.error.inj (h.parseChars.symm.trans h'.parseChars)

inductive FromEnd (s : List Char) : Failure → Prop
  | noRoot : FromEnd s .noRoot
  | unclosedRoot : FromEnd s .unclosedRoot
  | unfinished (c : Construct) : FromEnd s (.markup (.unfinished c))
  | endTag {rev : List Char} (h : (Scanner.start.run s).place = .closing rev) :
      FromEnd s (.markup .unmatchedEnd)

theorem fromEnd_of_finish {g : Gathered} (h : g.finish = .error e) : FromEnd s e := by
  rw [Gathered.finish] at h
  split_ifs at h
  · cases h
    exact .unclosedRoot
  · cases h
    exact .noRoot

theorem eq_unmatchedEnd_of_step_close {r : Reader} {name : List Char}
    (h : r.step (.close name) = .error e) : e = .markup .unmatchedEnd := by
  rw [Reader.step] at h
  cases hn : r.nesting.step (.close name) with
  | ok n =>
    rw [hn] at h
    cases h
  | error f =>
    rw [hn] at h
    rw [Nesting.step] at hn
    split at hn
    · split_ifs at hn
      cases hn
      exact (Except.error.inj h).symm
    · cases hn
      exact (Except.error.inj h).symm

theorem refused_or_fromEnd (h : parseChars s = .error e) : Refused s e ∨ FromEnd s e := by
  cases hr : Reader.start.run (Scanner.start.run s).tokens.reverse with
  | error e' =>
    have hrefused : Refused s e' := .token hr
    rw [hrefused.parseChars] at h
    exact .inl (Except.error.inj h ▸ hrefused)
  | ok r =>
    rw [parseChars, tokens_eq_finish] at h
    generalize hs : Scanner.start.run s = sc at h hr
    -- where the text ends decides what its end adds
    obtain ⟨ts, place⟩ := sc
    cases place with
    | text | opened =>
      simp only [Scanner.finish, hr] at h
      exact .inr (fromEnd_of_finish h)
    | closing rev =>
      simp only [Scanner.finish, List.reverse_cons, Reader.run_append, hr, Except.bind, run_one]
        at h
      split at h
      · next e' hstep =>
        obtain rfl := eq_unmatchedEnd_of_step_close hstep
        cases h
        exact .inr (.endTag (congrArg Scanner.place hs))
      · exact .inr (fromEnd_of_finish h)
    | instruction rev =>
      simp only [Scanner.finish, hr] at h
      split_ifs at h
      · exact .inr (fromEnd_of_finish h)
      · cases h
        exact .inr (.unfinished _)
    | failed f =>
      simp only [Scanner.finish, hr] at h
      cases h
      exact .inl (.construct (hs ▸ hr) (congrArg Scanner.place hs))
    | declaration | comment | characterData | documentType | element =>
      simp only [Scanner.finish, hr] at h
      cases h
      exact .inr (.unfinished _)

/-- An end tag of the text, with its `>`, closes an element that is not the innermost open one, and
nothing before it is refused. -/
def Mismatched (s : List Char) : Prop :=
  ∃ (before name after : List Char) (ts : List Token) (r : Reader),
    s = before ++ '<' :: '/' :: (name ++ '>' :: after) ∧ '>' ∉ name ∧
      Scanner.start.run before = ⟨ts, .text⟩ ∧ Reader.start.run ts.reverse = .ok r ∧
      r.nesting.step (.close (closingName name.reverse)) = .error .unmatchedEnd

theorem Mismatched.refused (h : Mismatched s) : Refused s (.markup .unmatchedEnd) := by
  obtain ⟨before, name, after, ts, r, rfl, hname, hbefore, hr, hclose⟩ := h
  have hread : Refused (before ++ '<' :: '/' :: (name ++ ['>'])) (.markup .unmatchedEnd) := by
    refine .token ?_
    rw [Scanner.run_append, hbefore, Scanner.run_endTag hname, List.reverse_cons, Reader.run_append,
      hr]
    change r.run [_] = _
    rw [run_one, Reader.step, hclose]
  have hwhole := hread.append after
  simpa using hwhole

theorem Refused.exists_first (h : Refused s e) :
    ∃ p c v, s = p ++ c :: v ∧ (∀ e', ¬Refused p e') ∧ Refused (p ++ [c]) e := by
  induction s using List.reverseRecOn with
  | nil =>
    cases h with
    | token h => cases h
    | construct _ hf => cases hf
  | append_singleton s c ih =>
    by_cases hs : ∃ e', Refused s e'
    · obtain ⟨e', he'⟩ := hs
      obtain rfl := (he'.append [c]).unique h
      obtain ⟨p, d, v, rfl, hp, hd⟩ := ih he'
      exact ⟨p, d, v ++ [c], by simp, hp, hd⟩
    · exact ⟨s, c, [], rfl, fun e' he' ↦ hs ⟨e', he'⟩, h⟩

theorem eventName_ne_markup (tag : List Char) (f : Markup.Fault) :
    eventName tag ≠ .error (.markup f) := by
  rw [eventName]
  split
  · rintro ⟨⟩
  · rintro ⟨⟩
  · split <;> rintro ⟨⟩

theorem gathered_step_ne_markup (g : Gathered) (t : Token) (f : Markup.Fault) :
    g.step t ≠ .error (.markup f) := by
  have hadd (tag : List Char) : g.addName tag ≠ .error (.markup f) := by
    rw [Gathered.addName]
    split_ifs
    · cases hname : eventName tag with
      | ok name => rintro ⟨⟩
      | error e =>
        rintro ⟨⟩
        exact eventName_ne_markup tag f hname
    · rintro ⟨⟩
  cases t with
  | close name => rintro ⟨⟩
  | start tag | empty tag =>
    rw [Gathered.step]
    cases h : g.addName tag with
    | ok g' => rintro ⟨⟩
    | error e =>
      rintro ⟨⟩
      exact hadd tag h

theorem nesting_of_step_unmatchedEnd {r : Reader} {t : Token}
    (h : r.step t = .error (.markup .unmatchedEnd)) : r.nesting.step t = .error .unmatchedEnd := by
  rw [Reader.step] at h
  cases hn : r.nesting.step t with
  | error f =>
    rw [hn] at h
    cases h
    rfl
  | ok n =>
    rw [hn] at h
    cases hg : r.gathered.step t with
    | ok g =>
      rw [hg] at h
      cases h
    | error e =>
      rw [hg] at h
      cases h
      exact absurd hg (gathered_step_ne_markup _ _ _)

/-- Texts are refused for an end tag that is closed exactly if one of theirs is mismatched. -/
theorem refused_unmatchedEnd_iff : Refused s (.markup .unmatchedEnd) ↔ Mismatched s := by
  constructor
  · intro h
    obtain ⟨p, c, v, rfl, hp, hfirst⟩ := h.exists_first
    cases hr : Reader.start.run (Scanner.start.run p).tokens.reverse with
    | error e => exact absurd (.token hr) (hp e)
    | ok r =>
      cases hfirst with
      | construct _ hf => exact absurd hf (Scanner.place_run_ne_unmatchedEnd _)
      | token htoken =>
        rw [Scanner.run_concat] at htoken
        have hstepped := Scanner.step_stepped (Scanner.start.run p) c
        generalize (Scanner.start.run p).step c = sc at hstepped htoken
        have added {t : Token}
            (ht : Reader.start.run (t :: (Scanner.start.run p).tokens).reverse =
              .error (.markup .unmatchedEnd)) : r.nesting.step t = .error .unmatchedEnd := by
          rw [List.reverse_cons, Reader.run_append, hr] at ht
          exact nesting_of_step_unmatchedEnd ((run_one r t).symm.trans ht)
        cases hstepped with
        | @close rev hclosing hc =>
          obtain ⟨before, rfl, hmem, hbefore⟩ := Scanner.exists_of_closing hclosing
          refine ⟨before, rev.reverse, v, _, r, ?_, ?_, hbefore, hr, ?_⟩
          · simp [hc]
          · simpa using hmem
          · rw [List.reverse_reverse]
            exact added htoken
        | start tag | empty tag => cases added htoken
        | opened | endTag | inEndTag | fails | failed | other =>
          rw [hr] at htoken
          cases htoken
  · exact Mismatched.refused

/-- Failures for which something that is complete is to blame. -/
inductive Lasting : Failure → Prop
  | missingName : Lasting .missingName
  | malformedAttribute : Lasting .malformedAttribute
  | malformedReference : Lasting .malformedReference
  | unknownDeclaration : Lasting (.markup .unknownDeclaration)
  | emptyDocumentType : Lasting (.markup .emptyDocumentType)

theorem Lasting.refused (hl : Lasting e) (h : parseChars s = .error e) : Refused s e := by
  rcases refused_or_fromEnd h with h | h
  · exact h
  · cases hl <;> cases h

theorem mismatched_or_cut (h : parseChars s = .error (.markup .unmatchedEnd)) :
    Mismatched s ∨ ∃ before name, s = before ++ '<' :: '/' :: name ∧ '>' ∉ name ∧
      (Scanner.start.run before).place = .text := by
  rcases refused_or_fromEnd h with h | h
  · exact .inl (refused_unmatchedEnd_iff.mp h)
  · cases h with
    | endTag hclosing =>
      obtain ⟨before, hs, hmem, hbefore⟩ := Scanner.exists_of_closing hclosing
      exact .inr ⟨before, _, hs, by simpa using hmem, congrArg Scanner.place hbefore⟩

/-- A text that is refused for an event without a name, for what its attributes or its references
look like, for an unknown declaration, for an empty document type, or for a mismatched end tag that
is closed, is refused for the same with anything appended, and never read. What it is refused for is
decided by the first character after which it is refused at all. -/
theorem refusal_stands {t : String} {e : Failure} (h : parse t = .error e)
    (he : Lasting e ∨ e = .markup .unmatchedEnd ∧ Mismatched t.toList) :
    (∀ u, parse (t ++ u) = .error e) ∧ (∀ u names, parse (t ++ u) ≠ .ok names) ∧
      ∃ p c v, t.toList = p ++ c :: v ∧ (∀ e', ¬Refused p e') ∧
        ∀ u, parseChars (p ++ c :: u) = .error e := by
  have hrefused : Refused t.toList e := by
    rcases he with hl | ⟨rfl, hm⟩
    · exact hl.refused h
    · exact hm.refused
  have hstands (u : String) : parse (t ++ u) = .error e := by
    rw [parse, String.toList_append]
    exact (hrefused.append u.toList).parseChars
  refine ⟨hstands, fun u names hok ↦ ?_, ?_⟩
  · rw [hstands u] at hok
    cases hok
  · obtain ⟨p, c, v, ht, hp, hfirst⟩ := hrefused.exists_first
    refine ⟨p, c, v, ht, hp, fun u ↦ ?_⟩
    have hlonger := (hfirst.append u).parseChars
    rwa [List.append_assoc] at hlonger

theorem refusal_stands_behind_end_tag :
    parse "<r><event/></r" = .error .missingName ∧
      parse ("<r><event/></r" ++ "x></rx>") = .error .missingName ∧
      Mismatched "<r></s >".toList ∧
      parse ("<r></s >" ++ "</r>") = .error (.markup .unmatchedEnd) := by
  have hname : parse "<r><event/></r" = .error .missingName := by decide +kernel
  have hend : parse "<r></s >" = .error (.markup .unmatchedEnd) := by decide +kernel
  have hmismatched : Mismatched "<r></s >".toList :=
    ⟨"<r>".toList, "s ".toList, [], [.start ['r']], _, rfl, by decide, by decide, rfl, by decide⟩
  exact ⟨hname, (refusal_stands hname (.inl .missingName)).1 _, hmismatched,
    (refusal_stands hend (.inr ⟨rfl, hmismatched⟩)).1 _⟩

end RobotBus.EventList.Aesl
