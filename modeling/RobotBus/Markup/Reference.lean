import RobotBus.Text.Digits

namespace RobotBus.Markup

open RobotBus.Text

/-- Zero and the surrogates are no characters of a text. -/
def character? (code : Nat) : Option Char :=
  if code ≠ 0 ∧ code.isValidChar then some (Char.ofNat code) else none

def reference? : List Char → Option Char
  | ['l', 't'] => some '<'
  | ['g', 't'] => some '>'
  | ['a', 'm', 'p'] => some '&'
  | ['a', 'p', 'o', 's'] => some '\''
  | ['q', 'u', 'o', 't'] => some '"'
  | '#' :: 'x' :: s => if s.length ≤ 6 then (number? 16 s).bind character? else none
  | '#' :: s => if s.length ≤ 7 then (number? 10 s).bind character? else none
  | _ => none

/-- `ref` is the reference being read, newest first, if one is open. -/
def unescapeFrom (rev : List Char) (ref : Option (List Char)) : List Char → Option (List Char)
  | [] =>
    match ref with
    | none => some rev.reverse
    | some _ => none
  | c :: s =>
    match ref with
    | none =>
      if c = '&' then unescapeFrom rev (some []) s else unescapeFrom (c :: rev) none s
    | some r =>
      if c = ';' then
        match reference? r.reverse with
        | some d => unescapeFrom (d :: rev) none s
        | none => none
      else if c = '&' then none
      else unescapeFrom rev (some (c :: r)) s

def unescape (s : List Char) : Option (List Char) := unescapeFrom [] none s

end RobotBus.Markup
