import RobotBus.Text.Digits
import RobotBus.Text.Extending
import RobotBus.Text.Graphic

namespace RobotBus.Text

def standsAlone (c : Char) : Bool := isGraphic c && !isExtending c

def showChar (c : Char) : List Char :=
  match c with
  | '"' => ['\\', '"']
  | '\\' => ['\\', '\\']
  | '\t' => ['\\', 't']
  | '\n' => ['\\', 'n']
  | '\r' => ['\\', 'r']
  | '\x00' => ['\\', '0']
  | c =>
    if standsAlone c then [c] else ['\\', 'u', '\x7b'] ++ hexadecimal c.toNat ++ ['\x7d']

/-- Quotes and backslashes are escaped, and every character that cannot be told by its look is shown
by its code. -/
def quoted (s : String) : String := String.ofList ('"' :: s.toList.flatMap showChar ++ ['"'])

end RobotBus.Text
