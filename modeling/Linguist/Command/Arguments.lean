import Linguist.Command.Request
import Linguist.Text.Numeral

/-!
# Linguist — the arguments of the command

Options come by name with two dashes or, where they have one, by letter with
one. A value follows as the next argument, behind an equals sign, or right
behind the letter; letters without a value may stand together. A value that is
an argument of its own does not begin with a dash, unless it is just one. No
option stands twice, except the one for more notices. The name of the request
stands behind the options of the command and before its own; those of the
command may stand there too.

* `Invocation.ofArguments?` reads the arguments, or finds that they are wrong.
-/

namespace Linguist.Command

/-! ## Options -/

/-- An option. -/
structure Switch where
  name : String
  letter : Option Char := none
  /-- whether it has a value -/
  valued : Bool := true
  deriving Repr, DecidableEq

/-- Options as they were given. -/
abbrev Given := List (String × Option String)

/-- What the options at the front of an argument say, and the one whose value comes next. -/
abbrev Cluster := Option (Given × Option String)

/-- Letters that stand together. -/
def cluster? (switches : List Switch) : List Char → Cluster
  | [] => some ([], none)
  | letter :: rest =>
    match switches.find? (·.letter == some letter) with
    | none => none
    | some switch =>
      if switch.valued then
        match rest with
        | [] => some ([], some switch.name)
        | '=' :: value => some ([(switch.name, some (String.ofList value))], none)
        | value => some ([(switch.name, some (String.ofList value))], none)
      else (cluster? switches rest).map fun (given, waiting) => ((switch.name, none) :: given, waiting)

/-- A name, maybe with its value. -/
def named? (switches : List Switch) (cs : List Char) : Cluster :=
  let name := String.ofList (cs.takeWhile (· != '='))
  match switches.find? (·.name == name), cs.dropWhile (· != '=') with
  | none, _ => none
  | some switch, [] => if switch.valued then some ([], some name) else some ([(name, none)], none)
  | some switch, _ :: value =>
    if switch.valued then some ([(name, some (String.ofList value))], none) else none

/-- Options up to the first argument that is none; `waiting` is the one whose value comes next.
Two dashes end the options, and nothing may stand behind them. -/
def options? (switches : List Switch) (waiting : Option String) :
    List String → Option (Given × List String)
  | [] => if waiting.isSome then none else some ([], [])
  | argument :: rest =>
    let go (read : Cluster) : Option (Given × List String) := do
      let (given, waiting) ← read
      let (more, rest) ← options? switches waiting rest
      return (given ++ more, rest)
    match waiting, argument.toList with
    | none, '-' :: '-' :: [] => if rest.isEmpty then some ([], []) else none
    | none, '-' :: '-' :: cs => go (named? switches cs)
    | none, '-' :: c :: cs => go (cluster? switches (c :: cs))
    | none, _ => some ([], argument :: rest)
    | some _, '-' :: _ :: _ => none
    | some name, _ => go (some ([(name, some argument)], none))

/-- The option for more notices, the only one that may stand twice. -/
def verboseName : String :=
  "verbose"

/-- Whether no option stands twice. -/
def isUnrepeated (given : Given) : Bool :=
  ((given.map (·.1)).filter (· != verboseName)).Nodup

/-- The options of the command. -/
def commonSwitches : List Switch :=
  [{ name := "config" }, { name := verboseName, letter := some 'v', valued := false }]

namespace Given

/-- Whether an option was given. -/
def has (given : Given) (name : String) : Bool :=
  given.any (·.1 == name)

/-- The value of an option. -/
def value? (given : Given) (name : String) : Option String :=
  (given.lookup name).join

end Given

/-! ## Requests -/

/-- An option without a value. -/
def flag (name : String) : Switch :=
  { name, valued := false }

/-- The option for the file that is read. -/
def inputSwitch : Switch :=
  { name := "input", letter := some 'i' }

/-- The option for the file that is written. -/
def outputSwitch : Switch :=
  { name := "output", letter := some 'o' }

/-- The option for the language of a catalogue that names none. -/
def languageSwitch : Switch :=
  { name := "lang", letter := some 'l' }

/-- The option for a context. -/
def contextSwitch : Switch :=
  { name := "context", letter := some 'c' }

/-- A count as an option gives it: unsigned and of sixty-four bits. -/
def count? (given : Given) : Option (Option Nat) :=
  match given.value? "count" with
  | none => some none
  | some text =>
    match Numeral.signedPlus 10 Numeral.limit64 text.toList with
    | .ok n => some (some n)
    | .error _ => none

/-- How a request is read. -/
structure Grammar where
  name : String
  switches : List Switch
  request? : Given → Option Request

/-- How every request is read. -/
def grammars : List Grammar :=
  [{ name := "view"
     switches := [inputSwitch, contextSwitch, { name := "status", letter := some 's' },
       languageSwitch, flag "full"]
     request? := fun given => do
       let input ← given.value? "input"
       return .view {
         input, context := given.value? "context", status := given.value? "status"
         language := given.value? "lang", full := given.has "full" } },
   { name := "lookup"
     switches := [inputSwitch, contextSwitch, { name := "source", letter := some 's' },
       { name := "comment" }, { name := "count", letter := some 'n' }, flag "fallback",
       languageSwitch]
     request? := fun given => do
       let input ← given.value? "input"
       let context ← given.value? "context"
       let source ← given.value? "source"
       let count ← count? given
       return .lookup {
         input, context, source, comment := given.value? "comment", count
         fallback := given.has "fallback", language := given.value? "lang" } },
   { name := "stats"
     switches := [inputSwitch, flag "json"]
     request? := fun given => do
       let input ← given.value? "input"
       return .stats { input, json := given.has "json" } },
   { name := "validate"
     switches := [inputSwitch, flag "strict", flag "json"]
     request? := fun given => do
       let input ← given.value? "input"
       return .validate { input, strict := given.has "strict", json := given.has "json" } },
   { name := "convert"
     switches := [inputSwitch, outputSwitch, { name := "input-format" },
       { name := "output-format" }, languageSwitch, flag "strict"]
     request? := fun given => do
       let input ← given.value? "input"
       let output ← given.value? "output"
       return .convert {
         input, output, inputFormat := given.value? "input-format"
         outputFormat := given.value? "output-format", language := given.value? "lang"
         strict := given.has "strict" } },
   { name := "debug"
     switches := [inputSwitch, languageSwitch, outputSwitch]
     request? := fun given => do
       let input ← given.value? "input"
       return .debug {
         input, language := given.value? "lang", output := given.value? "output" } }]

/-! ## The whole -/

/-- The invocation that arguments stand for. -/
def Invocation.ofArguments? (arguments : List String) : Option Invocation := do
  match ← options? commonSwitches none arguments with
  | (_, []) => none
  | (common, name :: rest) =>
    let grammar ← grammars.find? (·.name == name)
    let (given, more) ← options? (commonSwitches ++ grammar.switches) none rest
    if more.isEmpty && isUnrepeated common && isUnrepeated given then
      let request ← grammar.request? given
      return {
        settings := (given.value? "config").or (common.value? "config")
        verbose := common.has verboseName || given.has verboseName
        request }
    else none

end Linguist.Command
