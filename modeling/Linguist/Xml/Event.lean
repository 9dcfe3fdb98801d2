import Linguist.Xml.Attribute
import Linguist.Xml.Reference

/-!
# Linguist — documents as events

A document is read from the left as a sequence of events: tags, character data,
CDATA sections and the markup that says nothing about its content. Reading is a
walk over the bytes with one state change a byte, so that each event is known
with the number of bytes read so far. End tags are checked against the tags that
are open; the sequence stops at the first fault.

* `Events.ofBytes` reads a document; a byte order mark at its start is not part of it.
* `Lexer.State.next` says what a byte leads to, `Lexer.State.finish` what the end does.
-/

namespace Linguist.Xml

/-! ## Faults -/

/-- Markup that never ends or is none at all. -/
inductive MarkupFault where
  | unknown
  | unclosedTag
  | unclosedComment
  | unclosedCData
  | unclosedDoctype
  | unclosedInstruction
  deriving Repr, DecidableEq

/-- The wording of a fault. -/
def MarkupFault.message : MarkupFault → String
  | .unknown => "unknown or missed symbol in markup"
  | .unclosedTag => "tag not closed: `>` not found before end of input"
  | .unclosedComment => "comment not closed: `-->` not found before end of input"
  | .unclosedCData => "CDATA not closed: `]]>` not found before end of input"
  | .unclosedDoctype => "DOCTYPE not closed: `>` not found before end of input"
  | .unclosedInstruction =>
    "processing instruction or xml declaration not closed: `?>` not found before end of input"

/-- Tags that do not nest. -/
inductive NestingFault where
  | mismatchedEnd (expected found : Bytes)
  | unmatchedEnd (name : Bytes)
  /-- the document ends inside an element -/
  | missingEnd (name : Bytes)
  | namelessDoctype
  deriving Repr, DecidableEq

/-- The wording of a fault; a name that is no text is left out. -/
def NestingFault.message : NestingFault → String
  | .mismatchedEnd expected found =>
    "expected `</" ++ Utf8.decodeOrEmpty expected ++ ">`, but `</" ++ Utf8.decodeOrEmpty found
      ++ ">` was found"
  | .unmatchedEnd name =>
    "close tag `</" ++ Utf8.decodeOrEmpty name ++ ">` does not match any open tag"
  | .missingEnd name =>
    "start tag not closed: `</" ++ Utf8.decodeOrEmpty name ++ ">` not found before end of input"
  | .namelessDoctype => "`<!DOCTYPE>` declaration does not contain a name of a document type"

/-- Why a document cannot be read on. -/
inductive Fault where
  | markup (fault : MarkupFault)
  | nesting (fault : NestingFault)
  | encoding (fault : Utf8.Fault)
  | reference (fault : ReferenceFault)
  deriving Repr, DecidableEq

/-- The wording of a fault. -/
def Fault.message : Fault → String
  | .markup fault => "syntax error: " ++ fault.message
  | .nesting fault => "ill-formed document: " ++ fault.message
  | .encoding fault => "cannot decode input using UTF-8: " ++ fault.message
  | .reference fault => fault.message

/-- Character data as text: decoded, then with its references replaced. -/
def characters (raw : Bytes) : Except Fault String :=
  match Utf8.decode raw with
  | .error fault => .error (.encoding fault)
  | .ok s => (resolve s).mapError .reference

/-! ## Events -/

/-- One step of a document. -/
inductive Event where
  | start (tag : Tag)
  | empty (tag : Tag)
  | close (name : Bytes)
  | text (raw : Bytes)
  | cdata (raw : Bytes)
  | comment (raw : Bytes)
  | instruction (raw : Bytes)
  | doctype (raw : Bytes)
  deriving Repr, DecidableEq

/-- An event and the bytes read when it was complete. -/
structure Item where
  event : Event
  position : Nat
  deriving Repr, DecidableEq

/-- How a sequence of events ends. -/
inductive Ending where
  | eof (position : Nat)
  | fault (fault : Fault)
  deriving Repr, DecidableEq

/-- The events of a document and their end. -/
structure Events where
  items : List Item
  ending : Ending
  deriving Repr, DecidableEq

/-! ## The walk over the bytes -/

namespace Lexer

/-- Where the walk stands; collected bytes are kept last first. -/
inductive State where
  | text (run : Bytes)
  /-- after `<` -/
  | opened
  /-- inside a tag, maybe inside quotes -/
  | tag (quote : Option UInt8) (content : Bytes)
  /-- after `<!` -/
  | declaration
  | comment (content : Bytes)
  | cdata (content : Bytes)
  /-- inside a document type, with `depth` angle brackets open -/
  | doctype (depth : Nat) (content : Bytes)
  | instruction (content : Bytes)
  deriving Repr, DecidableEq

/-- The state after an event. -/
def State.fresh : State :=
  .text []

/-- The name in an end tag: blanks behind it do not count. -/
def closingName (content : Bytes) : Bytes :=
  match content.reverse.dropWhile isAsciiBlank with
  | [] => content
  | kept => kept.reverse

/-- The event of a tag with this content. -/
def tagEvent (content : Bytes) : Event :=
  match content with
  | 0x2F :: name => .close (closingName name)
  | content =>
    match content.reverse with
    | 0x2F :: kept => .empty ⟨kept.reverse⟩
    | _ => .start ⟨content⟩

/-- A byte inside a tag: `>` ends it outside quotes. -/
def tagNext (quote : Option UInt8) (content : Bytes) (b : UInt8) : Option Event × State :=
  match quote with
  | none =>
    if b = 0x3E then (some (tagEvent content.reverse), .fresh)
    else if b = 0x22 ∨ b = 0x27 then (none, .tag (some b) (b :: content))
    else (none, .tag none (b :: content))
  | some q => (none, .tag (if b = q then none else some q) (b :: content))

/-- The event of a finished comment; `content` starts behind `<!`. -/
def commentEvent (content : Bytes) : Except Fault Event :=
  match content with
  | 0x2D :: 0x2D :: body => .ok (.comment (body.take (body.length - 2)))
  | _ => .error (.markup .unclosedComment)

/-- The event of a finished CDATA section; `content` starts behind `<!`. -/
def cdataEvent (content : Bytes) : Except Fault Event :=
  match content with
  | 0x5B :: 0x43 :: 0x44 :: 0x41 :: 0x54 :: 0x41 :: 0x5B :: body =>
    .ok (.cdata (body.take (body.length - 2)))
  | _ => .error (.markup .unclosedCData)

/-- An ASCII letter made small. -/
def lowerByte (b : UInt8) : UInt8 :=
  if 0x41 ≤ b ∧ b ≤ 0x5A then b + 0x20 else b

/-- The event of a finished document type; `content` starts behind `<!`. -/
def doctypeEvent (content : Bytes) : Except Fault Event :=
  if (content.take 7).map lowerByte = Utf8.encode "doctype" then
    match (content.drop 7).dropWhile isAsciiBlank with
    | [] => .error (.nesting .namelessDoctype)
    | body => .ok (.doctype body)
  else .error (.markup .unclosedDoctype)

/-- The event of a finished instruction; `content` holds both question marks. -/
def instructionEvent (content : Bytes) : Except Fault Event :=
  match content with
  | _ :: body@(_ :: _) => .ok (.instruction (body.take (body.length - 1)))
  | _ => .error (.markup .unclosedInstruction)

/-- The state after an event that may have failed. -/
def finished (event : Except Fault Event) : Except Fault (Option Event × State) :=
  event.map fun event => (some event, .fresh)

/-- One byte. -/
def State.next (b : UInt8) : State → Except Fault (Option Event × State)
  | .text run =>
    if b = 0x3C then .ok (if run.isEmpty then none else some (.text run.reverse), .opened)
    else .ok (none, .text (b :: run))
  | .opened =>
    if b = 0x21 then .ok (none, .declaration)
    else if b = 0x3F then .ok (none, .instruction [b])
    else .ok (tagNext none [] b)
  | .tag quote content => .ok (tagNext quote content b)
  | .declaration =>
    if b = 0x5B then .ok (none, .cdata [b])
    else if b = 0x2D then .ok (none, .comment [b])
    else if b = 0x44 ∨ b = 0x64 then .ok (none, .doctype 0 [b])
    else .error (.markup .unknown)
  | .comment content =>
    if b = 0x3E ∧ 3 < content.length ∧ content.take 2 = [0x2D, 0x2D] then
      finished (commentEvent content.reverse)
    else .ok (none, .comment (b :: content))
  | .cdata content =>
    if b = 0x3E ∧ content.take 2 = [0x5D, 0x5D] then finished (cdataEvent content.reverse)
    else .ok (none, .cdata (b :: content))
  | .doctype depth content =>
    if b = 0x3C then .ok (none, .doctype (depth + 1) (b :: content))
    else if b = 0x3E then
      if depth = 0 then finished (doctypeEvent content.reverse)
      else .ok (none, .doctype (depth - 1) (b :: content))
    else .ok (none, .doctype depth (b :: content))
  | .instruction content =>
    if b = 0x3E ∧ content.take 1 = [0x3F] then finished (instructionEvent content.reverse)
    else .ok (none, .instruction (b :: content))

/-- The end of the document: only character data may end there. -/
def State.finish : State → Except Fault (Option Event)
  | .text run => .ok (if run.isEmpty then none else some (.text run.reverse))
  | .opened | .tag .. => .error (.markup .unclosedTag)
  | .declaration => .error (.markup .unknown)
  | .comment _ => .error (.markup .unclosedComment)
  | .cdata _ => .error (.markup .unclosedCData)
  | .doctype .. => .error (.markup .unclosedDoctype)
  | .instruction _ => .error (.markup .unclosedInstruction)

/-- The names of the open elements after an event, innermost first. -/
def nest (opened : List Bytes) : Event → Except Fault (List Bytes)
  | .start tag => .ok (tag.name :: opened)
  | .close name =>
    match opened with
    | [] => .error (.nesting (.unmatchedEnd name))
    | expected :: outer =>
      if name = expected then .ok outer
      else .error (.nesting (.mismatchedEnd expected name))
  | _ => .ok opened

/-- The events read from a state on, after `offset` bytes. -/
def eventsFrom (opened : List Bytes) (offset : Nat) (state : State) : Bytes → Events
  | [] =>
    match state.finish with
    | .error fault => ⟨[], .fault fault⟩
    | .ok none => ⟨[], .eof offset⟩
    | .ok (some event) => ⟨[⟨event, offset⟩], .eof offset⟩
  | b :: rest =>
    match state.next b with
    | .error fault => ⟨[], .fault fault⟩
    | .ok (none, state) => eventsFrom opened (offset + 1) state rest
    | .ok (some event, state) =>
      match nest opened event with
      | .error fault => ⟨[], .fault fault⟩
      | .ok opened =>
        let after := eventsFrom opened (offset + 1) state rest
        ⟨⟨event, offset + 1⟩ :: after.items, after.ending⟩

end Lexer

/-- A document without the byte order mark it may start with. -/
def dropMark : Bytes → Bytes
  | 0xEF :: 0xBB :: 0xBF :: rest => rest
  | bytes => bytes

/-- The events of a document. -/
def Events.ofBytes (bytes : Bytes) : Events :=
  Lexer.eventsFrom [] 0 .fresh (dropMark bytes)

end Linguist.Xml
