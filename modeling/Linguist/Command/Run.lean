import Linguist.Command.Arguments
import Linguist.Command.Check
import Linguist.Command.Log
import Linguist.Command.Request
import Linguist.Collection
import Linguist.Issue.Json
import Linguist.Stats
import Linguist.View

/-!
# Linguist — running requests

A request reads one catalogue and shows something about it or writes another
file. What it shows are lines; notices go before everything that is said about a
failure. Catalogues are read with what the settings take for granted.

* `Request.run` does what is asked for, `Invocation.run` with settings and notices.
* `runConvert` is the conversion; it writes nothing if the input cannot be read.
-/

namespace Linguist.Command

/-- What a request shows. -/
structure Shown where
  /-- the result, in lines -/
  lines : List String := []
  /-- remarks beside the result, in lines -/
  remarks : List String := []
  /-- a failure in spite of the result -/
  failure : Option Failure := none
  deriving Repr, DecidableEq

/-- What a request does. -/
abbrev Task := Action Failure Shown

/-! ## Reading -/

/-- How a catalogue is read under settings. -/
def readMode (settings : Settings) (language : Option String) (strict : Bool) :
    Except Failure ReadMode := do
  let hint := settings.hint language
  match hint with
  | none => pure ()
  | some text => (checkLanguage text).mapError .defect
  return { hint, strict := strict || settings.strict }

/-- The catalogue of a file whose extension tells its format. -/
def loadCatalog (tree : FileTree) (path : String) (mode : ReadMode) : Logged Failure Catalog := do
  Logged.ofExcept ((checkFile tree path).mapError .defect)
  match Format.ofPath? path with
  | none => Logged.fail (.untold path)
  | some format => (tree.readCatalog path format mode).mapError (.reading path)

/-- The catalogue a request is about. -/
def inputCatalog (settings : Settings) (path : String) (language : Option String) (strict : Bool) :
    Action Failure Catalog := do
  let mode ← readMode settings language strict
  Action.reading fun tree => loadCatalog tree path mode

/-! ## Showing -/

/-- Shows a catalogue. -/
def runView (settings : Settings) (request : ViewRequest) : Task := do
  let status ← match request.status with
    | none => pure none
    | some word =>
      match Status.ofText? word with
      | some status => pure (some status)
      | none => Action.fail (.unknownStatus word)
  let catalog ← inputCatalog settings request.input request.language false
  match request.context with
  | none => pure ()
  | some name =>
    if (catalog.findContext? name).isNone then Action.fail (.noContext name)
  let selection : Selection := { context := request.context, status }
  return { lines := catalog.view selection (request.full || settings.full) }

/-- The lines for an answer. -/
def showAnswer (request : LookupRequest) : Lookup → Except Failure Shown
  | .translated text => .ok { lines := [text] }
  | .plural forms =>
    .ok { lines := forms.zipIdx.map fun (form, index) => s!"[{index}] " ++ form }
  | .unfinished => .error (.unfinished request.context request.source)
  | .notFound => .error (.notFound request.context request.source)

/-- Looks one message up. -/
def runLookup (settings : Settings) (request : LookupRequest) : Task := do
  let catalog ← inputCatalog settings request.input request.language false
  match Phrasebook.ofCatalog catalog with
  | .error key => Action.fail (.error (.duplicateKey key))
  | .ok book =>
    Action.note book.builtNotice
    if request.fallback then
      return { lines := [book.textFor request.context request.source request.comment request.count] }
    else
      showAnswer request <| match request.count with
        | some n => book.lookupForm request.context request.source request.comment n
        | none => book.lookup request.context request.source request.comment

/-- Counts messages. -/
def runStats (settings : Settings) (request : StatsRequest) : Task := do
  let catalog ← inputCatalog settings request.input none false
  return { lines := if request.json then [catalog.statsJson.pretty] else catalog.statsLines }

/-- What is shown about issues. -/
def showIssues (request : ValidateRequest) (issues : List Issue) : Shown where
  lines :=
    if request.json then [(Json.Value.list (issues.map Issue.json)).pretty]
    else if issues.isEmpty then ["✅ " ++ request.input ++ ": no issues found"]
    else []
  remarks := if request.json then [] else issues.map fun issue => "  " ++ issue.text
  failure := if issues.isEmpty then none else some (.issues issues.length request.input)

/-- Checks a catalogue. -/
def runValidate (settings : Settings) (request : ValidateRequest) : Task := do
  let catalog ← inputCatalog settings request.input none request.strict
  return showIssues request catalog.issues

/-- Shows a catalogue as JSON, or writes it to a file. -/
def runDebug (settings : Settings) (request : DebugRequest) : Task := do
  let catalog ← inputCatalog settings request.input request.language false
  match request.output with
  | none => return { lines := [catalog.toJson] }
  | some path =>
    (Action.create path (Utf8.encode catalog.toJson)).mapError (.dumping path)
    return { lines := ["✅ Debug output written to: " ++ path] }

/-! ## Converting -/

/-- The format of one side of a conversion: the one that is given, or that of the extension. -/
def sideFormat (side : Side) (path : String) (given : Option String) : Except Failure Format :=
  match given with
  | some name => (Format.ofName name).mapError (.invalidFormat side)
  | none =>
    match Format.ofPath? path with
    | some format => .ok format
    | none => .error (.untoldSide side path)

/-- An issue of a catalogue that is converted all the same. -/
def issueNotice (input : String) (issue : Issue) : Notice where
  level := .warn
  message := issue.text
  fields := [("input", input)]

/-- A conversion that begins to write. -/
def convertNotice (input output : String) (source target : Format) : Notice where
  level := .info
  message := "converting"
  fields := [("input", input), ("output", output), ("from", source.name), ("to", target.name)]

/-- What a conversion was given. -/
def ConvertRequest.plan (request : ConvertRequest) (language : Option String) : Plan where
  inputs := [request.input]
  output := some request.output
  language := language
  inputFormat := request.inputFormat
  outputFormat := request.outputFormat

/-- Writes a catalogue to another file. -/
def runConvert (settings : Settings) (request : ConvertRequest) : Task := do
  let source ← sideFormat .input request.input request.inputFormat
  let target ← sideFormat .output request.output request.outputFormat
  let hint := settings.hint request.language
  (request.plan hint).check
  let mode : ReadMode := { hint, strict := request.strict || settings.strict }
  let catalog ← (Action.reading fun tree => tree.readCatalog request.input source mode).mapError
    (.reading request.input)
  Action.ofLogged (.noteAll (catalog.issues.map (issueNotice request.input)))
  Action.note (convertNotice request.input request.output source target)
  (Action.create request.output (target.content catalog)).mapError
    fun fault => .writing request.output (.io fault)
  return { lines := ["✅ Converted " ++ request.input ++ " -> " ++ request.output] }

/-! ## The whole -/

/-- Does what is asked for. -/
def Request.run (settings : Settings) : Request → Task
  | .view request => runView settings request
  | .lookup request => runLookup settings request
  | .stats request => runStats settings request
  | .validate request => runValidate settings request
  | .convert request => runConvert settings request
  | .debug request => runDebug settings request

/-- What the command leaves behind besides files. -/
structure Outcome where
  out : String := ""
  err : String := ""
  exitCode : Nat
  deriving Repr, DecidableEq

/-- Lines as they are printed. -/
def printed (lines : List String) : String :=
  String.join (lines.map (· ++ "\n"))

/-- The line of a failure. -/
def failureLine (failure : Failure) : String :=
  "Error: " ++ failure.message

/-- What is printed. -/
def Outcome.of (verbose : Bool) (logged : Logged Failure Shown) : Outcome :=
  let log := logLines verbose logged.notices
  match logged.result with
  | .error failure => { err := printed (log ++ [failureLine failure]), exitCode := 1 }
  | .ok shown =>
    { out := printed shown.lines
      err := printed (log ++ shown.remarks ++ shown.failure.toList.map failureLine)
      exitCode := if shown.failure.isSome then 1 else 0 }

/-- Reads the settings and does what is asked for. -/
def Invocation.run (invocation : Invocation) (tree : FileTree) : FileTree × Outcome :=
  let task : Task := do
    let settings ← (Action.reading fun tree => Settings.load tree invocation.settings).mapError
      .settings
    invocation.request.run settings
  let (tree, logged) := task tree
  (tree, .of invocation.verbose logged)

/-- What is printed for arguments that are wrong. -/
def usage : String :=
  "Usage: linguist [--config FILE] [-v] view|lookup|stats|validate|convert|debug OPTIONS\n"

/-- The command with its arguments. -/
def run (arguments : List String) (tree : FileTree) : FileTree × Outcome :=
  match Invocation.ofArguments? arguments with
  | none => (tree, { err := usage, exitCode := 2 })
  | some invocation => invocation.run tree

end Linguist.Command
