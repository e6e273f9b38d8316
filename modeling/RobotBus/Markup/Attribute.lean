import RobotBus.Text.Blank

namespace RobotBus.Markup

open RobotBus.Text

inductive Search
  | found (value : List Char)
  | absent
  | malformed
deriving DecidableEq, Repr

/-- Where in an attribute the search stands. The part being read is kept newest first. -/
inductive AttributePlace
  | gap
  | key (rev : List Char)
  | afterKey (key : List Char)
  | beforeValue (key : List Char)
  | value (key : List Char) (quote : Char) (rev : List Char)
deriving DecidableEq, Repr

/-- A key is at least one character long, so it may start with an equals sign. -/
def searchFrom (wanted : List Char) : AttributePlace → List Char → Search
  | .gap, [] => .absent
  | .gap, c :: s =>
    if isBlank c then searchFrom wanted .gap s else searchFrom wanted (.key [c]) s
  | .key rev, c :: s =>
    if c = '=' then searchFrom wanted (.beforeValue rev.reverse) s
    else if isBlank c then searchFrom wanted (.afterKey rev.reverse) s
    else searchFrom wanted (.key (c :: rev)) s
  | .afterKey key, c :: s =>
    if c = '=' then searchFrom wanted (.beforeValue key) s
    else if isBlank c then searchFrom wanted (.afterKey key) s
    else .malformed
  | .beforeValue key, c :: s =>
    if c = '"' ∨ c = '\'' then searchFrom wanted (.value key c []) s
    else if isBlank c then searchFrom wanted (.beforeValue key) s
    else .malformed
  | .value key q rev, c :: s =>
    if c = q then if key = wanted then .found rev.reverse else searchFrom wanted .gap s
    else searchFrom wanted (.value key q (c :: rev)) s
  | _, [] => .malformed

/-- Attributes are read up to the first one with the key looked for, and what follows it is not
looked at. -/
def search (wanted attributes : List Char) : Search := searchFrom wanted .gap attributes

end RobotBus.Markup
