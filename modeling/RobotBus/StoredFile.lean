namespace RobotBus

inductive StoredFile
  | missing
  | directory
  | contents (bytes : ByteArray)

inductive ReadFailure
  | notFound
  | isDirectory
  | invalidText
deriving DecidableEq, Repr

namespace ReadFailure

def message : ReadFailure → String
  | notFound => "No such file or directory (os error 2)"
  | isDirectory => "Is a directory (os error 21)"
  | invalidText => "stream did not contain valid UTF-8"

end ReadFailure

namespace StoredFile

def ofText (s : String) : StoredFile := contents s.toUTF8

def read : StoredFile → Except ReadFailure String
  | missing => .error .notFound
  | directory => .error .isDirectory
  | contents bytes =>
    match String.fromUTF8? bytes with
    | some s => .ok s
    | none => .error .invalidText

end StoredFile

end RobotBus
