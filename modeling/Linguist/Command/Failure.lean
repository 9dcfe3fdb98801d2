import Linguist.Error
import Linguist.Settings

/-!
# Linguist — why a request fails

A request fails for what was given with it, for the files it names, or for what
they hold. The wording says which file and, where several things were checked
together, which of them.
-/

namespace Linguist.Command

/-- What is wrong with one thing that was given. -/
inductive Defect where
  | missingFile (path : String)
  | notFile (path : String)
  | unsupportedExtension (path : String)
  | noDirectory (fault : IoFault)
  | unsupportedFormat (name : String)
  | emptyLanguage
  | invalidLanguage (text : String)
  deriving Repr, DecidableEq

/-- The wording of a defect. -/
def Defect.message : Defect → String
  | .missingFile path => "File does not exist: " ++ path
  | .notFile path => "Path is not a file: " ++ path
  | .unsupportedExtension path =>
    "Unsupported file extension: " ++ path ++ ". Supported extensions: .ts, .json"
  | .noDirectory fault => "Cannot create output directory: " ++ fault.message
  | .unsupportedFormat name =>
    "Unsupported format: " ++ name ++ ". Supported formats: ts, json"
  | .emptyLanguage => "Language code cannot be empty"
  | .invalidLanguage text =>
    "Invalid language code format: " ++ text ++ ". Expected e.g. hu, hu_HU or pt-BR"

/-- What of several things is wrong. -/
inductive Part where
  /-- `position` counts from one -/
  | input (position : Nat)
  | output
  | inputFormat
  | outputFormat
  | language
  deriving Repr, DecidableEq

/-- The wording of a part. -/
def Part.message : Part → String
  | .input position => s!"Input file {position} validation failed: "
  | .output => "Output validation failed: "
  | .inputFormat => "Input format validation failed: "
  | .outputFormat => "Output format validation failed: "
  | .language => "Language code validation failed: "

/-- Which end of a conversion. -/
inductive Side where
  | input
  | output
  deriving Repr, DecidableEq

/-- The word for a side. -/
def Side.name : Side → String
  | .input => "input"
  | .output => "output"

/-- Why a request fails. -/
inductive Failure where
  | settings (fault : SettingsFault)
  | defect (what : Defect)
  | part (place : Part) (what : Defect)
  /-- a file whose extension tells no format -/
  | untold (path : String)
  | untoldSide (side : Side) (path : String)
  | invalidFormat (side : Side) (cause : Error)
  | reading (path : String) (cause : Error)
  | writing (path : String) (cause : Error)
  | dumping (path : String) (fault : IoFault)
  | unknownStatus (word : String)
  | noContext (name : String)
  | error (cause : Error)
  | unfinished (context source : String)
  | notFound (context source : String)
  | issues (count : Nat) (path : String)
  deriving Repr, DecidableEq

/-- The wording of a failure. -/
def Failure.message : Failure → String
  | .settings fault => fault.message
  | .defect what => what.message
  | .part place what => place.message ++ what.message
  | .untold path =>
    "Cannot infer format of " ++ path ++ ". Supported extensions: .ts, .json"
  | .untoldSide side path =>
    "Cannot infer " ++ side.name ++ " format from " ++ path ++ ". Use --" ++ side.name
      ++ "-format ts|json"
  | .invalidFormat side cause => "Invalid " ++ side.name ++ " format: " ++ cause.message
  | .reading path cause => "Error reading " ++ path ++ ": " ++ cause.message
  | .writing path cause => "Error writing " ++ path ++ ": " ++ cause.message
  | .dumping path fault => "Error writing to " ++ path ++ ": " ++ fault.message
  | .unknownStatus word => Status.unknown word
  | .noContext name => "No context named '" ++ name ++ "'"
  | .error cause => cause.message
  | .unfinished context source =>
    "Translation of '" ++ source ++ "' in context '" ++ context ++ "' is unfinished"
  | .notFound context source => "No message '" ++ source ++ "' in context '" ++ context ++ "'"
  | .issues count path => s!"Validation failed: {count} issue(s) in " ++ path

end Linguist.Command
