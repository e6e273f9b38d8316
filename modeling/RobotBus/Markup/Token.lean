import RobotBus.Text.Affix
import RobotBus.Text.Blank

namespace RobotBus.Markup

open RobotBus.Text

inductive Construct
  | element
  | declaration
  | characterData
  | comment
  | documentType
  | instruction
deriving DecidableEq, Repr

inductive Fault
  | unfinished (c : Construct)
  | unmatchedEnd
  | unknownDeclaration
  | emptyDocumentType
deriving DecidableEq, Repr

/-- A tag without its brackets, and without the final slash of an empty element. -/
inductive Token
  | start (tag : List Char)
  | empty (tag : List Char)
  | close (name : List Char)
deriving DecidableEq, Repr

def tagName (tag : List Char) : List Char := tag.takeWhile (fun c ↦ !isBlank c)

def tagAttributes (tag : List Char) : List Char := tag.dropWhile (fun c ↦ !isBlank c)

/-- Where in a construct the scanner stands. What was read of it since `<` is kept newest first,
except that the slash of an end tag is left out. -/
inductive Place
  | text
  | opened
  | declaration
  | comment (rev : List Char)
  | characterData (rev : List Char)
  | documentType (rev : List Char) (depth : Nat)
  | closing (rev : List Char)
  | instruction (rev : List Char)
  | element (quote : Option Char) (rev : List Char)
  | failed (f : Fault)
deriving DecidableEq, Repr

structure Scanner where
  tokens : List Token
  place : Place
deriving DecidableEq, Repr

/-- Blanks after the name are no part of it, unless nothing else is. -/
def closingName (rev : List Char) : List Char :=
  match rev.dropWhile isBlank with
  | [] => rev.reverse
  | kept => kept.reverse

def endElement : List Char → Token
  | '/' :: rev => .empty rev.reverse
  | rev => .start rev.reverse

def isInstruction (rev : List Char) : Bool := rev.head? = some '?' && 2 < rev.length

def startsWith (opening rev : List Char) : Bool :=
  equalFolded (rev.reverse.take opening.length) opening

def commentOpening : List Char := ['!', '-', '-']

def characterDataOpening : List Char := ['!', '[', 'C', 'D', 'A', 'T', 'A', '[']

def documentTypeOpening : List Char := ['!', 'D', 'O', 'C', 'T', 'Y', 'P', 'E']

def endDocumentType (rev : List Char) : Place :=
  if startsWith documentTypeOpening rev then
    if (rev.reverse.drop documentTypeOpening.length).all isBlank then .failed .emptyDocumentType
    else .text
  else .failed (.unfinished .documentType)

namespace Scanner

def start : Scanner := ⟨[], .text⟩

def inElement (quote : Option Char) (rev : List Char) (c : Char) : Place :=
  match quote with
  | some q => .element (if c = q then none else some q) (c :: rev)
  | none => .element (if c = '"' ∨ c = '\'' then some c else none) (c :: rev)

def step (s : Scanner) (c : Char) : Scanner :=
  match s.place with
  | .text => { s with place := if c = '<' then .opened else .text }
  | .opened =>
    match c with
    | '!' => { s with place := .declaration }
    | '/' => { s with place := .closing [] }
    | '?' => { s with place := .instruction ['?'] }
    | '>' => ⟨.start [] :: s.tokens, .text⟩
    | c => { s with place := inElement none [] c }
  | .declaration =>
    match c with
    | '[' => { s with place := .characterData ['[', '!'] }
    | '-' => { s with place := .comment ['-', '!'] }
    | 'D' => { s with place := .documentType ['D', '!'] 0 }
    | 'd' => { s with place := .documentType ['d', '!'] 0 }
    | _ => { s with place := .failed .unknownDeclaration }
  | .comment rev =>
    if c = '>' ∧ 5 ≤ rev.length ∧ rev.take 2 = ['-', '-'] then
      { s with
        place := if startsWith commentOpening rev then .text else .failed (.unfinished .comment) }
    else { s with place := .comment (c :: rev) }
  | .characterData rev =>
    if c = '>' ∧ rev.take 2 = [']', ']'] then
      { s with
        place :=
          if startsWith characterDataOpening rev then .text
          else .failed (.unfinished .characterData) }
    else { s with place := .characterData (c :: rev) }
  | .documentType rev depth =>
    if c = '<' then { s with place := .documentType (c :: rev) (depth + 1) }
    else if c = '>' then
      match depth with
      | 0 => { s with place := endDocumentType rev }
      | d + 1 => { s with place := .documentType (c :: rev) d }
    else { s with place := .documentType (c :: rev) depth }
  | .closing rev =>
    if c = '>' then ⟨.close (closingName rev) :: s.tokens, .text⟩
    else { s with place := .closing (c :: rev) }
  | .instruction rev =>
    if c = '>' then
      { s with
        place := if isInstruction rev then .text else .failed (.unfinished .instruction) }
    else { s with place := .instruction (c :: rev) }
  | .element none rev =>
    if c = '>' then ⟨endElement rev :: s.tokens, .text⟩
    else { s with place := inElement none rev c }
  | .element (some q) rev => { s with place := inElement (some q) rev c }
  | .failed _ => s

def run (s : Scanner) (cs : List Char) : Scanner := cs.foldl step s

theorem run_append (s : Scanner) (cs ds : List Char) : s.run (cs ++ ds) = (s.run cs).run ds :=
  List.foldl_append

/-- What the end of the text makes of an unfinished construct. -/
def finish (s : Scanner) : List Token × Option Fault :=
  match s.place with
  | .text => (s.tokens.reverse, none)
  | .opened => (s.tokens.reverse, none)
  | .closing rev => ((.close (closingName rev) :: s.tokens).reverse, none)
  | .instruction rev =>
    (s.tokens.reverse, if isInstruction rev then none else some (.unfinished .instruction))
  | .declaration => (s.tokens.reverse, some (.unfinished .declaration))
  | .comment _ => (s.tokens.reverse, some (.unfinished .comment))
  | .characterData _ => (s.tokens.reverse, some (.unfinished .characterData))
  | .documentType _ _ => (s.tokens.reverse, some (.unfinished .documentType))
  | .element _ _ => (s.tokens.reverse, some (.unfinished .element))
  | .failed f => (s.tokens.reverse, some f)

end Scanner

def withoutMark : List Char → List Char
  | '\ufeff' :: s => s
  | s => s

/-- The tokens before the first fault, and that fault. Text, comments, character data, instructions
and document types leave no token; a text that ends inside an end tag or an instruction ends that
construct too. -/
def tokens (s : List Char) : List Token × Option Fault :=
  (Scanner.start.run (withoutMark s)).finish

end RobotBus.Markup
