import RobotBus.Json.Tree
import RobotBus.Text.Blank
import RobotBus.Text.Digits

namespace RobotBus.Json

open RobotBus.Text

inductive Token
  | openArray
  | closeArray
  | openObject
  | closeObject
  | comma
  | colon
  | null
  | bool (b : Bool)
  | number (spelling : List Char)
  | string (symbols : List Symbol)
deriving DecidableEq, Repr

def afterSign : List Char → List Char
  | '-' :: s => s
  | s => s

def afterWhole? : List Char → Option (List Char)
  | '0' :: s => some s
  | c :: s => if c.isDigit then some (s.dropWhile Char.isDigit) else none
  | [] => none

def afterDigits? : List Char → Option (List Char)
  | c :: s => if c.isDigit then some (s.dropWhile Char.isDigit) else none
  | [] => none

def afterFraction? : List Char → Option (List Char)
  | '.' :: s => afterDigits? s
  | s => some s

def afterExponentSign : List Char → List Char
  | '+' :: s => s
  | '-' :: s => s
  | s => s

def afterExponent? : List Char → Option (List Char)
  | 'e' :: s => afterDigits? (afterExponentSign s)
  | 'E' :: s => afterDigits? (afterExponentSign s)
  | s => some s

def isNumber (s : List Char) : Bool :=
  ((afterWhole? (afterSign s)).bind afterFraction?).bind afterExponent? == some []

namespace Token

def ofPunctuation? : Char → Option Token
  | '[' => some openArray
  | ']' => some closeArray
  | '{' => some openObject
  | '}' => some closeObject
  | ',' => some comma
  | ':' => some colon
  | _ => none

def ofWord? (w : List Char) : Option Token :=
  if w = ['n', 'u', 'l', 'l'] then some null
  else if w = ['t', 'r', 'u', 'e'] then some (bool true)
  else if w = ['f', 'a', 'l', 's', 'e'] then some (bool false)
  else if isNumber w then some (number w)
  else none

end Token

def escaped? : Char → Option Char
  | '"' => some '"'
  | '\\' => some '\\'
  | '/' => some '/'
  | 'b' => some '\x08'
  | 'f' => some '\x0c'
  | 'n' => some '\n'
  | 'r' => some '\r'
  | 't' => some '\t'
  | _ => none

/-- Where in a token the reader stands. What was read of it is kept newest first. -/
inductive Place
  | between
  | word (rev : List Char)
  | string (rev : List Symbol)
  | escape (rev : List Symbol)
  | code (rev : List Symbol) (n missing : Nat)

structure Lexer where
  tokens : List Token
  place : Place

namespace Lexer

def start : Lexer := ⟨[], .between⟩

def begin (tokens : List Token) (c : Char) : Lexer :=
  if isBlank c then ⟨tokens, .between⟩
  else if c = '"' then ⟨tokens, .string []⟩
  else
    match Token.ofPunctuation? c with
    | some t => ⟨t :: tokens, .between⟩
    | none => ⟨tokens, .word [c]⟩

def endsWord (c : Char) : Bool := isBlank c || c = '"' || (Token.ofPunctuation? c).isSome

def step : Lexer → Char → Option Lexer
  | ⟨tokens, .between⟩, c => some (begin tokens c)
  | ⟨tokens, .word rev⟩, c =>
    if endsWord c then (Token.ofWord? rev.reverse).map (fun t ↦ begin (t :: tokens) c)
    else some ⟨tokens, .word (c :: rev)⟩
  | ⟨tokens, .string rev⟩, c =>
    if c = '"' then some ⟨.string rev.reverse :: tokens, .between⟩
    else if c = '\\' then some ⟨tokens, .escape rev⟩
    else if c.toNat < 0x20 then none
    else some ⟨tokens, .string (.char c :: rev)⟩
  | ⟨tokens, .escape rev⟩, c =>
    if c = 'u' then some ⟨tokens, .code rev 0 3⟩
    else (escaped? c).map (fun d ↦ ⟨tokens, .string (.char d :: rev)⟩)
  | ⟨tokens, .code rev n missing⟩, c =>
    (digit? 16 c).map (fun d ↦
      match missing with
      | 0 => ⟨tokens, .string (Symbol.ofCode (16 * n + d) :: rev)⟩
      | m + 1 => ⟨tokens, .code rev (16 * n + d) m⟩)

def finish : Lexer → Option (List Token)
  | ⟨tokens, .between⟩ => some tokens.reverse
  | ⟨tokens, .word rev⟩ => (Token.ofWord? rev.reverse).map (fun t ↦ (t :: tokens).reverse)
  | _ => none

def run (l : Lexer) : List Char → Option Lexer
  | [] => some l
  | c :: s =>
    match l.step c with
    | some l' => l'.run s
    | none => none

theorem run_append (l : Lexer) (s t : List Char) :
    l.run (s ++ t) = (l.run s).bind (fun l' ↦ l'.run t) := by
  induction s generalizing l with
  | nil => rfl
  | cons c s ih =>
    simp only [List.cons_append, run]
    cases l.step c with
    | none => rfl
    | some l' => exact ih l'

end Lexer

/-- A text that has tokens is well spelled: its strings are closed and hold no raw control
character, and its numbers have the one form that JSON allows. -/
def tokens? (s : List Char) : Option (List Token) := (Lexer.start.run s).bind Lexer.finish

end RobotBus.Json
