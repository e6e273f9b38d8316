import RobotBus.Json.Tree
import RobotBus.Text.Digits

namespace RobotBus.Json

open RobotBus.Text

def showCode (n : Nat) : List Char :=
  let digits := hexadecimal n
  ['\\', 'u'] ++ List.replicate (4 - digits.length) '0' ++ digits

namespace Symbol

def render : Symbol → List Char
  | half n => showCode n
  | char c =>
    match c with
    | '"' => ['\\', '"']
    | '\\' => ['\\', '\\']
    | '\x08' => ['\\', 'b']
    | '\x0c' => ['\\', 'f']
    | '\n' => ['\\', 'n']
    | '\r' => ['\\', 'r']
    | '\t' => ['\\', 't']
    | c => if c.toNat < 0x20 then showCode c.toNat else [c]

def renderAll (s : List Symbol) : List Char := '"' :: s.flatMap render ++ ['"']

end Symbol

mutual

def render : Json → List Char
  | null => ['n', 'u', 'l', 'l']
  | bool true => ['t', 'r', 'u', 'e']
  | bool false => ['f', 'a', 'l', 's', 'e']
  | number s => s
  | string s => Symbol.renderAll s
  | array [] => ['[', ']']
  | array (v :: vs) => '[' :: v.render ++ renderItems vs ++ [']']
  | object [] => ['\x7b', '\x7d']
  | object (m :: ms) => '\x7b' :: renderMember m ++ renderMembers ms ++ ['\x7d']

def renderItems : List Json → List Char
  | [] => []
  | v :: vs => ',' :: v.render ++ renderItems vs

def renderMember : List Symbol × Json → List Char
  | (k, v) => Symbol.renderAll k ++ ':' :: v.render

def renderMembers : List (List Symbol × Json) → List Char
  | [] => []
  | m :: ms => ',' :: renderMember m ++ renderMembers ms

end

def text (v : Json) : String := String.ofList v.render

end RobotBus.Json
