import RobotBus.Markup.Token

namespace RobotBus.Markup

open RobotBus.Text

/-- Neither a blank nor a character with a meaning of its own inside a tag or a value. -/
def isNameChar (c : Char) : Bool :=
  !isBlank c && !(['<', '>', '/', '"', '\'', '=', '&', '!', '?'].contains c)

structure Name where
  chars : List Char
  nonempty : chars ≠ []
  plain : ∀ c ∈ chars, isNameChar c

theorem ne_of_isNameChar {c d : Char} (hc : isNameChar c) (hd : isNameChar d = false) : c ≠ d := by
  rintro rfl
  rw [hd] at hc
  cases hc

theorem ne_of_isBlank {c d : Char} (hc : isBlank c) (hd : isBlank d = false) : c ≠ d := by
  rintro rfl
  rw [hd] at hc
  cases hc

theorem isBlank_of_isNameChar {c : Char} (h : isNameChar c) : ¬isBlank c := by
  intro hblank
  simp [isNameChar, hblank] at h

theorem Name.not_mem (n : Name) {c : Char} (h : isNameChar c = false) : c ∉ n.chars :=
  fun hc ↦ ne_of_isNameChar (n.plain c hc) h rfl

structure Blanks where
  chars : List Char
  blank : ∀ c ∈ chars, isBlank c

theorem Blanks.not_mem (b : Blanks) {c : Char} (h : isBlank c = false) : c ∉ b.chars :=
  fun hc ↦ ne_of_isBlank (b.blank c hc) h rfl

inductive Quote
  | double
  | single
deriving DecidableEq, Repr

def Quote.char : Quote → Char
  | double => '"'
  | single => '\''

inductive Entity
  | lt
  | gt
  | amp
  | apos
  | quot
deriving DecidableEq, Repr

namespace Entity

def name : Entity → List Char
  | lt => ['l', 't']
  | gt => ['g', 't']
  | amp => ['a', 'm', 'p']
  | apos => ['a', 'p', 'o', 's']
  | quot => ['q', 'u', 'o', 't']

def char : Entity → Char
  | lt => '<'
  | gt => '>'
  | amp => '&'
  | apos => '\''
  | quot => '"'

end Entity

inductive Radix
  | decimal
  | hexadecimal
deriving DecidableEq, Repr

namespace Radix

def base : Radix → Nat
  | decimal => 10
  | hexadecimal => 16

def opening : Radix → List Char
  | decimal => ['#']
  | hexadecimal => ['#', 'x']

end Radix

structure Digit (base : Nat) where
  value : Fin base
  upper : Bool

def Digit.char {base : Nat} (d : Digit base) : Char :=
  if d.upper then (Nat.digitChar d.value).toUpper else Nat.digitChar d.value

def numeral {base : Nat} (ds : List (Digit base)) : Nat := ds.foldl (fun n d ↦ base * n + d.value) 0

/-- A character given by its code. Any number of leading zeros is a way to write it. -/
structure Code where
  radix : Radix
  digits : List (Digit radix.base)
  nonempty : digits ≠ []
  valid : numeral digits ≠ 0 ∧ (numeral digits).isValidChar

inductive Reference
  | entity (e : Entity)
  | code (k : Code)

namespace Reference

def char : Reference → Char
  | entity e => e.char
  | code k => Char.ofNat (numeral k.digits)

def name : Reference → List Char
  | entity e => e.name
  | code k => k.radix.opening ++ k.digits.map Digit.char

end Reference

/-- One character of a quoted value: itself, or a reference to it. -/
inductive Spelling (q : Quote)
  | raw (c : Char) (h : c ≠ '&' ∧ c ≠ q.char)
  | reference (r : Reference)

namespace Spelling

variable {q : Quote}

def char : Spelling q → Char
  | raw c _ => c
  | reference r => r.char

def text : Spelling q → List Char
  | raw c _ => [c]
  | reference r => '&' :: (r.name ++ [';'])

end Spelling

structure Attribute where
  gap : Blanks
  apart : gap.chars ≠ []
  key : Name
  beforeSign : Blanks
  afterSign : Blanks
  quote : Quote
  value : List (Spelling quote)

namespace Attribute

def written (a : Attribute) : List Char := a.value.flatMap Spelling.text

def decoded (a : Attribute) : String := String.ofList (a.value.map Spelling.char)

def text (a : Attribute) : List Char :=
  a.gap.chars ++ a.key.chars ++ a.beforeSign.chars ++ '=' ::
    (a.afterSign.chars ++ a.quote.char :: (a.written ++ [a.quote.char]))

end Attribute

structure Tag where
  name : Name
  attributes : List Attribute
  pad : Blanks

def Tag.text (t : Tag) : List Char :=
  t.name.chars ++ (t.attributes.flatMap Attribute.text ++ t.pad.chars)

/-- Every `<` comes with a `>` of its own further on, and every `>` with a `<` before it; `depth`
many `<` stand before the text. -/
def balanced : Nat → List Char → Bool
  | depth, [] => depth = 0
  | depth, '<' :: s => balanced (depth + 1) s
  | 0, '>' :: _ => false
  | depth + 1, '>' :: s => balanced depth s
  | depth, _ :: s => balanced depth s

inductive Aside
  | chars (s : List Char) (h : '<' ∉ s)
  | comment (s : List Char) (h : ¬['-', '-', '>'] <:+: s)
  | characterData (s : List Char) (h : ¬[']', ']', '>'] <:+: s)
  | instruction (s : List Char) (h : s ≠ [] ∧ '>' ∉ s)
  | documentType (s : List Char) (h : balanced 0 s ∧ ∃ c ∈ s, ¬isBlank c)

def Aside.text : Aside → List Char
  | chars s _ => s
  | comment s _ => '<' :: (commentOpening ++ s ++ ['-', '-', '>'])
  | characterData s _ => '<' :: (characterDataOpening ++ s ++ [']', ']', '>'])
  | instruction s _ => '<' :: '?' :: (s ++ ['?', '>'])
  | documentType s _ => '<' :: (documentTypeOpening ++ s ++ ['>'])

mutual

inductive Element
  | empty (tag : Tag)
  | pair (tag : Tag) (inside : Content) (pad : Blanks)

inductive Content
  | done
  | aside (a : Aside) (rest : Content)
  | element (e : Element) (rest : Content)

end

def Element.tag : Element → Tag
  | empty tag => tag
  | pair tag _ _ => tag

def Content.elements : Content → List Element
  | done => []
  | aside _ rest => rest.elements
  | element e rest => e :: rest.elements

def Element.children : Element → List Element
  | empty _ => []
  | pair _ inside _ => inside.elements

mutual

def Element.text : Element → List Char
  | .empty tag => '<' :: (tag.text ++ ['/', '>'])
  | .pair tag inside pad =>
    '<' :: (tag.text ++ '>' ::
      (inside.text ++ '<' :: '/' :: (tag.name.chars ++ pad.chars ++ ['>'])))

def Content.text : Content → List Char
  | .done => []
  | .aside a rest => a.text ++ rest.text
  | .element e rest => e.text ++ rest.text

end

structure Document where
  prolog : List Aside
  root : Element
  epilog : List Aside

def Document.text (d : Document) : String :=
  String.ofList (d.prolog.flatMap Aside.text ++ d.root.text ++ d.epilog.flatMap Aside.text)

end RobotBus.Markup
