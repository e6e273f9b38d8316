import RobotBus.Proofs.Json.Writing

namespace RobotBus.Json

open RobotBus.Text

theorem Spells.concat {ts : List Token} {s : List Char} (h : Spells ts s) {t : Token}
    {w : List Char} (ht : t.WrittenAs w) : Spells (ts ++ [t]) (s ++ w) := by
  induction h with
  | nil b =>
    have hone := Spells.cons b ht (.nil noBlanks)
    rwa [noBlanks, List.append_nil] at hone
  | cons b hu hts ih =>
    rw [List.append_assoc, List.append_assoc]
    exact .cons b hu ih

theorem Spells.blank {ts : List Token} {s : List Char} (h : Spells ts s) {c : Char}
    (hc : isBlank c) : Spells ts (s ++ [c]) := by
  induction h with
  | nil b =>
    have hblank : ∀ d ∈ b.chars ++ [c], isBlank d := by
      intro d hd
      rcases List.mem_append.mp hd with hd | hd
      · exact b.blank d hd
      · rw [List.mem_singleton.mp hd]
        exact hc
    exact .nil ⟨b.chars ++ [c], hblank⟩
  | cons b hu hts ih =>
    rw [List.append_assoc, List.append_assoc]
    exact .cons b hu ih

theorem writtenAs_of_punctuation {c : Char} {t : Token} (h : Token.ofPunctuation? c = some t) :
    t.WrittenAs [c] := by
  unfold Token.ofPunctuation? at h
  split at h
  · cases h
    exact .openArray
  · cases h
    exact .closeArray
  · cases h
    exact .openObject
  · cases h
    exact .closeObject
  · cases h
    exact .comma
  · cases h
    exact .colon
  · cases h

theorem writtenAs_of_word {w : List Char} {t : Token} (h : Token.ofWord? w = some t) :
    t.WrittenAs w := by
  rw [Token.ofWord?] at h
  split at h
  · next hw =>
    cases h
    rw [hw]
    exact .null
  · split at h
    · next hw =>
      cases h
      rw [hw]
      exact .yes
    · split at h
      · next hw =>
        cases h
        rw [hw]
        exact .no
      · split at h
        · next hw =>
          cases h
          obtain ⟨n, rfl⟩ := exists_numeral hw
          exact .number n
        · cases h

theorem exists_shortEscape {c d : Char} (h : escaped? c = some d) :
    ∃ e : ShortEscape, e.letter = c ∧ e.char = d := by
  unfold escaped? at h
  split at h
  · exact ⟨.quote, rfl, Option.some.inj h⟩
  · exact ⟨.backslash, rfl, Option.some.inj h⟩
  · exact ⟨.slash, rfl, Option.some.inj h⟩
  · exact ⟨.backspace, rfl, Option.some.inj h⟩
  · exact ⟨.formFeed, rfl, Option.some.inj h⟩
  · exact ⟨.lineFeed, rfl, Option.some.inj h⟩
  · exact ⟨.carriageReturn, rfl, Option.some.inj h⟩
  · exact ⟨.tab, rfl, Option.some.inj h⟩
  · cases h

theorem exists_digit {c : Char} {n : Nat} (h : digit? 16 c = some n) :
    ∃ d : Markup.Digit 16, d.char = c ∧ d.value.val = n := by
  have hall : ∀ i : Fin 103, ∀ n ∈ digit? 16 (Char.ofNat i),
      ∃ v : Fin 16, ∃ u : Bool, (⟨v, u⟩ : Markup.Digit 16).char = Char.ofNat i ∧ v.val = n := by
    decide
  have hlt : c.toNat < 103 := by
    by_contra hge
    have hnot : ∀ d : Char, d.toNat < 103 → ¬c ≤ d := by
      intro d hd hle
      have hnat : c.toNat ≤ d.toNat := hle
      omega
    simp [digit?, hnot '9' (by decide), hnot 'f' (by decide), hnot 'F' (by decide)] at h
  obtain ⟨v, u, hchar, hvalue⟩ := hall ⟨c.toNat, hlt⟩ n (by rwa [Char.ofNat_toNat])
  exact ⟨⟨v, u⟩, hchar.trans (Char.ofNat_toNat c), hvalue⟩

namespace Lexer

/-- The reader stands here after a text. -/
inductive After : List Char → Lexer → Prop
  | between {past : List Token} {s : List Char} (h : Spells past.reverse s) :
      After s ⟨past, .between⟩
  | word {past : List Token} {s : List Char} (h : Spells past.reverse s) (rev : List Char) :
      After (s ++ rev.reverse) ⟨past, .word rev⟩
  | string {past : List Token} {s : List Char} (h : Spells past.reverse s)
      (sps : List Spelling) :
      After (s ++ '"' :: sps.flatMap Spelling.text)
        ⟨past, .string (sps.map Spelling.symbol).reverse⟩
  | escape {past : List Token} {s : List Char} (h : Spells past.reverse s)
      (sps : List Spelling) :
      After (s ++ '"' :: (sps.flatMap Spelling.text ++ ['\\']))
        ⟨past, .escape (sps.map Spelling.symbol).reverse⟩
  | code {past : List Token} {s : List Char} (h : Spells past.reverse s) (sps : List Spelling)
      {ds : List (Markup.Digit 16)} {missing : Nat} (hds : ds.length + missing = 3) :
      After (s ++ '"' :: (sps.flatMap Spelling.text ++ '\\' :: 'u' :: ds.map Markup.Digit.char))
        ⟨past, .code (sps.map Spelling.symbol).reverse (Markup.numeral ds) missing⟩

theorem after_begin {past : List Token} {s : List Char} (h : Spells past.reverse s) (c : Char) :
    After (s ++ [c]) (begin past c) := by
  rw [begin]
  split
  · next hblank => exact .between (h.blank hblank)
  · split
    · next hquote =>
      rw [hquote]
      exact .string h []
    · cases hmark : Token.ofPunctuation? c with
      | some t =>
        refine .between ?_
        rw [List.reverse_cons]
        exact h.concat (writtenAs_of_punctuation hmark)
      | none => exact .word h [c]

theorem spells_word {past : List Token} {s rev : List Char} (h : Spells past.reverse s) {t : Token}
    (ht : Token.ofWord? rev.reverse = some t) : Spells (t :: past).reverse (s ++ rev.reverse) := by
  rw [List.reverse_cons]
  exact h.concat (writtenAs_of_word ht)

theorem after_spelling {past : List Token} {s : List Char} (h : Spells past.reverse s)
    (sps : List Spelling) (sp : Spelling) :
    After (s ++ '"' :: (sps.flatMap Spelling.text ++ sp.text))
      ⟨past, .string (sp.symbol :: (sps.map Spelling.symbol).reverse)⟩ := by
  have hmore := After.string h (sps ++ [sp])
  rwa [List.flatMap_append, List.flatMap_singleton, List.map_append, List.reverse_append] at hmore

theorem after_inString {past : List Token} {s : List Char} (h : Spells past.reverse s)
    (sps : List Spelling) {c : Char} {l : Lexer}
    (hstep : Lexer.step ⟨past, .string (sps.map Spelling.symbol).reverse⟩ c = some l) :
    After (s ++ '"' :: (sps.flatMap Spelling.text ++ [c])) l := by
  rw [Lexer.step] at hstep
  split at hstep
  · next hquote =>
    rw [← Option.some.inj hstep, hquote, List.reverse_reverse]
    refine .between ?_
    rw [List.reverse_cons]
    exact h.concat (.string sps)
  · next hquote =>
    split at hstep
    · next hbackslash =>
      rw [← Option.some.inj hstep, hbackslash]
      exact .escape h sps
    · next hbackslash =>
      split at hstep
      · cases hstep
      · next hcontrol =>
        rw [← Option.some.inj hstep]
        exact after_spelling h sps (.raw c ⟨hquote, hbackslash, Nat.not_lt.mp hcontrol⟩)

theorem after_inEscape {past : List Token} {s : List Char} (h : Spells past.reverse s)
    (sps : List Spelling) {c : Char} {l : Lexer}
    (hstep : Lexer.step ⟨past, .escape (sps.map Spelling.symbol).reverse⟩ c = some l) :
    After (s ++ '"' :: (sps.flatMap Spelling.text ++ ['\\', c])) l := by
  rw [Lexer.step] at hstep
  split at hstep
  · next hu =>
    rw [← Option.some.inj hstep, hu]
    exact .code h sps (show ([] : List (Markup.Digit 16)).length + 3 = 3 from rfl)
  · obtain ⟨d, hd, rfl⟩ := Option.map_eq_some_iff.mp hstep
    obtain ⟨e, rfl, rfl⟩ := exists_shortEscape hd
    exact after_spelling h sps (.short e)

theorem after_inCode {past : List Token} {s : List Char} (h : Spells past.reverse s)
    (sps : List Spelling) {ds : List (Markup.Digit 16)} {missing : Nat}
    (hds : ds.length + missing = 3) {c : Char} {l : Lexer}
    (hstep : Lexer.step
      ⟨past, .code (sps.map Spelling.symbol).reverse (Markup.numeral ds) missing⟩ c = some l) :
    After (s ++ '"' :: (sps.flatMap Spelling.text ++
      '\\' :: 'u' :: (ds.map Markup.Digit.char ++ [c]))) l := by
  rw [Lexer.step] at hstep
  obtain ⟨n, hn, rfl⟩ := Option.map_eq_some_iff.mp hstep
  obtain ⟨d, rfl, rfl⟩ := exists_digit hn
  cases missing with
  | zero =>
    -- the fourth digit completes the code
    obtain ⟨x, y, z, rfl⟩ := List.length_eq_three.mp hds
    exact after_spelling h sps (.code x y z d)
  | succ missing =>
    have hnumeral : Markup.numeral (ds ++ [d]) = 16 * Markup.numeral ds + d.value := by
      simp [Markup.numeral]
    have hlength : (ds ++ [d]).length + missing = 3 := by
      rw [List.length_append, List.length_singleton]
      omega
    have hcode := After.code h sps hlength
    simp only [← hnumeral]
    rwa [List.map_append] at hcode

theorem After.step {s : List Char} {l l' : Lexer} {c : Char} (h : After s l)
    (hstep : l.step c = some l') : After (s ++ [c]) l' := by
  cases h with
  | between h =>
    rw [Lexer.step, Option.some.injEq] at hstep
    rw [← hstep]
    exact after_begin h c
  | word h rev =>
    rw [Lexer.step] at hstep
    split at hstep
    · obtain ⟨t, ht, rfl⟩ := Option.map_eq_some_iff.mp hstep
      exact after_begin (spells_word h ht) c
    · rw [← Option.some.inj hstep, List.append_assoc, ← List.reverse_cons]
      exact .word h (c :: rev)
  | string h sps =>
    rw [List.append_assoc, List.cons_append]
    exact after_inString h sps hstep
  | escape h sps =>
    rw [List.append_assoc, List.cons_append, List.append_assoc]
    exact after_inEscape h sps hstep
  | code h sps hds =>
    rw [List.append_assoc, List.cons_append, List.append_assoc]
    exact after_inCode h sps hds hstep

theorem After.run {s t : List Char} {l l' : Lexer} (h : After s l) (hrun : l.run t = some l') :
    After (s ++ t) l' := by
  induction t generalizing s l with
  | nil =>
    rw [Lexer.run, Option.some.injEq] at hrun
    rwa [List.append_nil, ← hrun]
  | cons c t ih =>
    rw [Lexer.run] at hrun
    split at hrun
    · next l₁ hstep =>
      have hrest := ih (h.step hstep) hrun
      rwa [List.append_assoc, List.singleton_append] at hrest
    · cases hrun

theorem After.finish {s : List Char} {l : Lexer} {ts : List Token} (h : After s l)
    (hfinish : l.finish = some ts) : Spells ts s := by
  cases h with
  | between h =>
    rw [Lexer.finish, Option.some.injEq] at hfinish
    rwa [← hfinish]
  | word h rev =>
    rw [Lexer.finish] at hfinish
    obtain ⟨t, ht, rfl⟩ := Option.map_eq_some_iff.mp hfinish
    exact spells_word h ht
  | string | escape | code => cases hfinish

end Lexer

theorem spells_of_tokens? {s : List Char} {ts : List Token} (h : tokens? s = some ts) :
    Spells ts s := by
  obtain ⟨l, hrun, hfinish⟩ := Option.bind_eq_some_iff.mp h
  have hstart : Lexer.After [] Lexer.start := .between (.nil noBlanks)
  exact (hstart.run hrun).finish hfinish

/-- The tokens in front of a value in an array or an object. The newest of what came before stands
first. -/
def itemsBefore (done : List Json) : List Token :=
  done.reverse.flatMap (fun v ↦ v.tokens ++ [.comma])

def membersBefore (done : List (List Symbol × Json)) : List Token :=
  done.reverse.flatMap (fun m ↦ memberTokens m ++ [.comma])

theorem commas_between {α : Type} (f : α → List Token) (a b : α) (l : List α) :
    f a ++ (l ++ [b]).flatMap (fun x ↦ .comma :: f x) =
      (a :: l).flatMap (fun x ↦ f x ++ [.comma]) ++ f b := by
  induction l generalizing a with
  | nil => simp
  | cons c l ih =>
    have hrest := ih c
    simp only [List.cons_append, List.flatMap_cons, List.append_assoc, List.nil_append] at hrest ⊢
    rw [hrest]

theorem tokens_array (done : List Json) (v : Json) :
    (array (v :: done).reverse).tokens =
      .openArray :: (itemsBefore done ++ (v.tokens ++ [.closeArray])) := by
  rw [itemsBefore, List.reverse_cons]
  cases done.reverse with
  | nil => rfl
  | cons w vs =>
    rw [List.cons_append, tokens, furtherItems_eq, ← List.append_assoc, commas_between,
      List.append_assoc]

theorem tokens_object (done : List (List Symbol × Json)) (m : List Symbol × Json) :
    (object (m :: done).reverse).tokens =
      .openObject :: (membersBefore done ++ (memberTokens m ++ [.closeObject])) := by
  rw [membersBefore, List.reverse_cons]
  cases done.reverse with
  | nil => rfl
  | cons n ms =>
    rw [List.cons_append, tokens, furtherMembers_eq, ← List.append_assoc, commas_between,
      List.append_assoc]

namespace Builder

/-- The tokens that opened the arrays and objects a value stands in. -/
def opening : List Context → List Token
  | [] => []
  | .item done :: up => opening up ++ .openArray :: itemsBefore done
  | .member done k :: up =>
    opening up ++ .openObject :: (membersBefore done ++ [.string k, .colon])

/-- The builder stands here after some tokens. -/
inductive After : List Token → Builder → Prop
  | value (up : List Context) : After (opening up) (value up)
  | firstItem (up : List Context) : After (opening up ++ [.openArray]) (firstItem up)
  | firstMember (up : List Context) : After (opening up ++ [.openObject]) (firstMember up)
  | key (up : List Context) (done : List (List Symbol × Json)) :
      After (opening up ++ .openObject :: membersBefore done) (key up done)
  | colon (up : List Context) (done : List (List Symbol × Json)) (k : List Symbol) :
      After (opening up ++ .openObject :: (membersBefore done ++ [.string k])) (colon up done k)
  | afterItem (up : List Context) (done : List Json) (v : Json) :
      After (opening up ++ .openArray :: (itemsBefore done ++ v.tokens))
        (afterItem up (v :: done))
  | afterMember (up : List Context) (done : List (List Symbol × Json))
      (m : List Symbol × Json) :
      After (opening up ++ .openObject :: (membersBefore done ++ memberTokens m))
        (afterMember up (m :: done))
  | complete (v : Json) : After v.tokens (complete v)

theorem after_put (v : Json) (up : List Context) : After (opening up ++ v.tokens) (put v up) := by
  cases up with
  | nil => exact .complete v
  | cons c up =>
    cases c with
    | item done =>
      rw [opening, List.append_assoc, List.cons_append]
      exact .afterItem up done v
    | member done k =>
      rw [opening, List.append_assoc, List.cons_append, List.append_assoc]
      exact .afterMember up done (k, v)

theorem after_begin {up : List Context} {t : Token} {b : Builder} (h : begin up t = some b) :
    After (opening up ++ [t]) b := by
  cases t with
  | null =>
    rw [← Option.some.inj h]
    exact after_put .null up
  | bool x =>
    rw [← Option.some.inj h]
    exact after_put (.bool x) up
  | number s =>
    rw [← Option.some.inj h]
    exact after_put (.number s) up
  | string s =>
    rw [← Option.some.inj h]
    exact after_put (.string s) up
  | openArray =>
    rw [← Option.some.inj h]
    exact .firstItem up
  | openObject =>
    rw [← Option.some.inj h]
    exact .firstMember up
  | closeArray | closeObject | comma | colon => cases h

theorem after_closeArray (up : List Context) (done : List Json) (v : Json) :
    After (opening up ++ .openArray :: (itemsBefore done ++ (v.tokens ++ [.closeArray])))
      (put (.array (v :: done).reverse) up) := by
  rw [← tokens_array]
  exact after_put _ up

theorem after_closeObject (up : List Context) (done : List (List Symbol × Json))
    (m : List Symbol × Json) :
    After (opening up ++ .openObject :: (membersBefore done ++ (memberTokens m ++ [.closeObject])))
      (put (.object (m :: done).reverse) up) := by
  rw [← tokens_object]
  exact after_put _ up

theorem itemsBefore_cons (done : List Json) (v : Json) :
    itemsBefore (v :: done) = itemsBefore done ++ (v.tokens ++ [.comma]) := by
  rw [itemsBefore, List.reverse_cons, List.flatMap_append, List.flatMap_singleton]
  rfl

theorem membersBefore_cons (done : List (List Symbol × Json)) (m : List Symbol × Json) :
    membersBefore (m :: done) = membersBefore done ++ (memberTokens m ++ [.comma]) := by
  rw [membersBefore, List.reverse_cons, List.flatMap_append, List.flatMap_singleton]
  rfl

theorem After.step {ts : List Token} {b b' : Builder} {t : Token} (h : After ts b)
    (hstep : b.step t = some b') : After (ts ++ [t]) b' := by
  cases h with
  | value up => exact after_begin hstep
  | firstItem up =>
    have hbegin : begin (.item [] :: up) t = some b' →
        After (opening up ++ [.openArray] ++ [t]) b' := fun hb ↦ after_begin hb
    cases t with
    | closeArray =>
      rw [← Option.some.inj hstep, List.append_assoc]
      exact after_put (.array []) up
    | null | bool | number | string | openArray | openObject | closeObject | comma | colon =>
      exact hbegin hstep
  | firstMember up =>
    cases t with
    | closeObject =>
      rw [← Option.some.inj hstep, List.append_assoc]
      exact after_put (.object []) up
    | string k =>
      rw [← Option.some.inj hstep, List.append_assoc]
      exact .colon up [] k
    | null | bool | number | openArray | closeArray | openObject | comma | colon => cases hstep
  | key up done =>
    cases t with
    | string k =>
      rw [← Option.some.inj hstep, List.append_assoc, List.cons_append]
      exact .colon up done k
    | null | bool | number | openArray | closeArray | openObject | closeObject | comma | colon =>
      cases hstep
  | colon up done k =>
    cases t with
    | colon =>
      have hvalue := After.value (.member done k :: up)
      rw [← Option.some.inj hstep, List.append_assoc, List.cons_append, List.append_assoc]
      exact hvalue
    | null | bool | number | string | openArray | closeArray | openObject | closeObject | comma =>
      cases hstep
  | afterItem up done v =>
    rw [List.append_assoc, List.cons_append, List.append_assoc]
    cases t with
    | comma =>
      rw [← Option.some.inj hstep, ← itemsBefore_cons]
      exact .value (.item (v :: done) :: up)
    | closeArray =>
      rw [← Option.some.inj hstep]
      exact after_closeArray up done v
    | null | bool | number | string | openArray | openObject | closeObject | colon => cases hstep
  | afterMember up done m =>
    rw [List.append_assoc, List.cons_append, List.append_assoc]
    cases t with
    | comma =>
      rw [← Option.some.inj hstep, ← membersBefore_cons]
      exact .key up (m :: done)
    | closeObject =>
      rw [← Option.some.inj hstep]
      exact after_closeObject up done m
    | null | bool | number | string | openArray | closeArray | openObject | colon => cases hstep
  | complete v => cases hstep

theorem After.run {ts us : List Token} {b b' : Builder} (h : After ts b)
    (hrun : b.run us = some b') : After (ts ++ us) b' := by
  induction us generalizing ts b with
  | nil =>
    rw [Builder.run, Option.some.injEq] at hrun
    rwa [List.append_nil, ← hrun]
  | cons u us ih =>
    obtain ⟨b₁, hstep, hrest⟩ := run_cons_iff.mp hrun
    have hall := ih (h.step hstep) hrest
    rwa [List.append_assoc, List.singleton_append] at hall

end Builder

theorem eq_tokens_of_ofTokens? {ts : List Token} {v : Json} (h : ofTokens? ts = some v) :
    ts = v.tokens := by
  obtain ⟨b, hrun, hresult⟩ := Option.bind_eq_some_iff.mp h
  have hafter := (Builder.After.value []).run hrun
  cases b with
  | complete w =>
    obtain rfl : w = v := Option.some.inj hresult
    cases hafter
    rfl
  | value | firstItem | firstMember | key | colon | afterItem | afterMember => cases hresult

/-- The texts of a value are those that are read as it. -/
theorem ofText?_eq_some_iff {s : String} {v : Json} : ofText? s = some v ↔ v.WrittenAs s := by
  refine ⟨?_, ofText?_of_writtenAs⟩
  intro h
  obtain ⟨ts, htokens, hvalue⟩ := Option.bind_eq_some_iff.mp h
  rw [WrittenAs, ← eq_tokens_of_ofTokens? hvalue]
  exact spells_of_tokens? htokens

end RobotBus.Json
