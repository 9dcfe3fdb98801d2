import Linguist.Catalog.Message
import Linguist.Xml.Event

/-!
# Linguist — why a `.ts` document is refused

Either the markup cannot be read, or it can and is no catalogue. What is wrong
with a catalogue is told with the number of bytes read so far.
-/

namespace Linguist.Ts

/-- What keeps a document from being a catalogue. -/
inductive Malformed where
  | unexpectedRoot (label : String)
  | namelessContext
  | sourcelessMessage
  /-- the document ends inside an element -/
  | unexpectedEnd (element : String)
  | unknownStatus (word : String)
  | valuelessByte
  | invalidByte (value : String)
  deriving Repr, DecidableEq

/-- The wording of a defect. -/
def Malformed.message : Malformed → String
  | .unexpectedRoot label => "expected <TS> root element, found <" ++ label ++ ">"
  | .namelessContext => "<context> without <name>"
  | .sourcelessMessage => "<message> without <source>"
  | .unexpectedEnd element => "unexpected end of file inside <" ++ element ++ ">"
  | .unknownStatus word => Status.unknown word
  | .valuelessByte => "<byte> without 'value'"
  | .invalidByte value => "invalid <byte> value '" ++ value ++ "'"

/-- Why a document is refused. -/
inductive Fault where
  | xml (fault : Xml.Fault)
  | tagAttribute (fault : Xml.AttributeFault)
  | missingRoot
  | malformed (what : Malformed) (position : Nat)
  deriving Repr, DecidableEq

end Linguist.Ts
