import RobotBus.Markup.Token
import RobotBus.StoredFile

namespace RobotBus

namespace Markup

def Construct.text : Construct → String
  | element => "Element"
  | declaration => "Bang"
  | characterData => "CData"
  | comment => "Comment"
  | documentType => "DOCTYPE"
  | instruction => "XmlDecl"

def Fault.message : Fault → String
  | unfinished c => "<xml eof " ++ c.text ++ ">"
  | unmatchedEnd => "<xml end tag>"
  | unknownDeclaration => "<xml bang>"
  | emptyDocumentType => "<xml doctype>"

end Markup

namespace EventList

inductive Failure
  | noRoot
  | unclosedRoot
  | missingName
  | markup (f : Markup.Fault)
  | malformedAttribute
  | malformedReference
  | json
deriving DecidableEq, Repr

def Failure.message : Failure → String
  | noRoot => "document has no root element"
  | unclosedRoot => "unexpected end of document"
  | missingName => "event element without a name attribute"
  | markup f => f.message
  | malformedAttribute => "<xml attribute>"
  | malformedReference => "<xml escape>"
  | json => "<syntax>"

inductive LoadFailure
  | unreadable (f : ReadFailure)
  | malformed (f : Failure)
deriving DecidableEq, Repr

def LoadFailure.message : LoadFailure → String
  | unreadable f => f.message
  | malformed f => f.message

end EventList

end RobotBus
