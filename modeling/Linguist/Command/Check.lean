import Linguist.Command.Failure
import Linguist.Files.Action

/-!
# Linguist — checking what was given

Paths, formats and languages are checked before any work starts, so that a
request fails early and says what is wrong with it. Checking a path that will be
written makes the directory for it.

* `checkFile`, `checkExtension`, `checkFormat` and `checkLanguage` check one thing.
* `Plan.check` checks everything a conversion was given.
-/

namespace Linguist.Command

/-- A path where a file stands. -/
def checkFile (tree : FileTree) (path : String) : Except Defect Unit :=
  if !tree.holds path then .error (.missingFile path)
  else if !tree.isFile path then .error (.notFile path)
  else .ok ()

/-- A path whose extension tells a format. -/
def checkExtension (path : String) : Except Defect Unit :=
  if (Format.ofPath? path).isSome then .ok () else .error (.unsupportedExtension path)

/-- The name of a format. -/
def checkFormat (name : String) : Except Defect Unit :=
  if (Format.ofName? name).isSome then .ok () else .error (.unsupportedFormat name)

/-- A language. -/
def checkLanguage (text : String) : Except Defect Unit :=
  if text.isEmpty then .error .emptyLanguage
  else if (LanguageId.ofText? text).isSome then .ok ()
  else .error (.invalidLanguage text)

/-- Makes the directory of a path unless something stands there. -/
def prepareDir (path : String) : Action Defect Unit := do
  match Path.parent? path with
  | none | some "" => pure ()
  | some parent =>
    if (← Action.files).holds parent then pure ()
    else (Action.makeDirs parent).mapError .noDirectory

/-- What a conversion was given. -/
structure Plan where
  inputs : List String := []
  output : Option String := none
  language : Option String := none
  inputFormat : Option String := none
  outputFormat : Option String := none
  deriving Repr, DecidableEq

/-- A check of one part. -/
def onPart (part : Part) (check : Except Defect Unit) : Except Failure Unit :=
  check.mapError (.part part)

/-- A check of what may not have been given. -/
def onPart? (part : Part) (check : String → Except Defect Unit) (given : Option String) :
    Except Failure Unit :=
  match given with
  | none => .ok ()
  | some text => onPart part (check text)

namespace Plan

/-- An input: a file and, unless the format is given, one with an extension that tells it. -/
def checkInput (plan : Plan) (tree : FileTree) (path : String) : Except Defect Unit := do
  checkFile tree path
  if plan.inputFormat.isNone then checkExtension path

/-- The inputs from a position on. -/
def checkInputs (plan : Plan) (tree : FileTree) (position : Nat) :
    List String → Except Failure Unit
  | [] => .ok ()
  | path :: paths => do
    onPart (.input position) (plan.checkInput tree path)
    plan.checkInputs tree (position + 1) paths

/-- The output, whose directory is made. -/
def checkOutput (plan : Plan) (path : String) : Action Defect Unit := do
  if plan.outputFormat.isNone then checkExtension path
  prepareDir path

/-- Checks everything that was given. -/
def check (plan : Plan) : Action Failure Unit := do
  plan.checkInputs (← Action.files) 1 plan.inputs
  match plan.output with
  | none => pure ()
  | some path => (plan.checkOutput path).mapError (.part .output)
  onPart? .inputFormat checkFormat plan.inputFormat
  onPart? .outputFormat checkFormat plan.outputFormat
  onPart? .language checkLanguage plan.language

end Plan

end Linguist.Command
