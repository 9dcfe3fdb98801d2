/-!
# Linguist — requests

What a user can ask the command to do, with everything that was given for it.
A format that is not given is told by the extension of the path.
-/

namespace Linguist.Command

/-- Show the messages of a catalogue. -/
structure ViewRequest where
  input : String
  /-- show this context only -/
  context : Option String := none
  /-- show messages of this status only -/
  status : Option String := none
  /-- the language of a catalogue that names none -/
  language : Option String := none
  /-- show texts in full length -/
  full : Bool := false
  deriving Repr, DecidableEq

/-- Look one message up. -/
structure LookupRequest where
  input : String
  context : String
  source : String
  comment : Option String := none
  /-- the number the text depends on -/
  count : Option Nat := none
  /-- show the source text if there is no other -/
  fallback : Bool := false
  language : Option String := none
  deriving Repr, DecidableEq

/-- Count messages. -/
structure StatsRequest where
  input : String
  json : Bool := false
  deriving Repr, DecidableEq

/-- Check a catalogue. -/
structure ValidateRequest where
  input : String
  strict : Bool := false
  json : Bool := false
  deriving Repr, DecidableEq

/-- Write a catalogue to another file. -/
structure ConvertRequest where
  input : String
  output : String
  inputFormat : Option String := none
  outputFormat : Option String := none
  language : Option String := none
  strict : Bool := false
  deriving Repr, DecidableEq

/-- Show a catalogue as JSON. -/
structure DebugRequest where
  input : String
  language : Option String := none
  output : Option String := none
  deriving Repr, DecidableEq

/-- What is asked for. -/
inductive Request where
  | view (request : ViewRequest)
  | lookup (request : LookupRequest)
  | stats (request : StatsRequest)
  | validate (request : ValidateRequest)
  | convert (request : ConvertRequest)
  | debug (request : DebugRequest)
  deriving Repr, DecidableEq

/-- A request with what applies to all of them. -/
structure Invocation where
  /-- the file with the settings -/
  settings : Option String := none
  /-- whether every notice is shown -/
  verbose : Bool := false
  request : Request
  deriving Repr, DecidableEq

end Linguist.Command
