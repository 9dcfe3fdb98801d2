/-!
# Linguist — placeholders

Texts hold marks where the program puts values: `%1` to `%99` for numbered
arguments and `%n` for the number the text depends on; an `L` after the percent
sign asks for the local way of writing numbers. A target text should refer to
the same arguments as its source text.

* `Placeholder.extract` finds the marks from the left.
* `Placeholder.signature` is the set of arguments, in order.
* `Placeholder.compare` tells what only one of two texts refers to.
-/

namespace Linguist

/-- What a mark stands for. -/
inductive Argument where
  | positional (number : Nat)
  | count
  deriving Repr, DecidableEq

namespace Argument

/-- An argument as it is written. -/
def text : Argument → String
  | .positional number => "%" ++ toString number
  | .count => "%n"

/-- Every argument in order: the numbered ones, then the number the text depends on. -/
def all : List Argument :=
  (List.range' 1 99).map .positional ++ [.count]

end Argument

/-- One mark in a text. -/
structure Placeholder where
  argument : Argument
  /-- written with an `L` -/
  localized : Bool
  /-- the bytes before the percent sign -/
  offset : Nat
  deriving Repr, DecidableEq

namespace Placeholder

/-! ## Finding marks -/

/-- The value of a digit. -/
def digitValue (c : Char) : Nat :=
  c.toNat - 0x30

/-- The argument at the front of a text and the number of characters it takes. -/
def argument? : List Char → Option (Argument × Nat)
  | [] => none
  | c :: rest =>
    if c = 'n' then some (.count, 1)
    else if c.isDigit && c != '0' then
      match rest with
      | [] => some (.positional (digitValue c), 1)
      | d :: _ =>
        if d.isDigit then some (.positional (digitValue c * 10 + digitValue d), 2)
        else some (.positional (digitValue c), 1)
    else none

/-- The mark behind a percent sign at byte `offset` and the number of characters it takes. -/
def mark? (offset : Nat) (rest : List Char) : Option (Placeholder × Nat) :=
  match rest with
  | 'L' :: after =>
    (argument? after).map fun (argument, length) => (⟨argument, true, offset⟩, length + 1)
  | rest => (argument? rest).map fun (argument, length) => (⟨argument, false, offset⟩, length)

/-- The marks of what follows byte `offset`, after `skip` characters that belong to a mark. -/
def extractFrom (offset skip : Nat) : List Char → List Placeholder
  | [] => []
  | c :: rest =>
    match skip with
    | skip + 1 => extractFrom (offset + c.utf8Size) skip rest
    | 0 =>
      if c = '%' then
        match mark? offset rest with
        | some (mark, length) => mark :: extractFrom (offset + 1) length rest
        | none => extractFrom (offset + 1) 0 rest
      else extractFrom (offset + c.utf8Size) 0 rest

/-- The marks of a text from the left, none of them overlapping another. -/
def extract (s : String) : List Placeholder :=
  extractFrom 0 0 s.toList

/-! ## Comparing texts -/

/-- The arguments a text refers to, each once and in order. -/
def signature (s : String) : List Argument :=
  let used := (extract s).map (·.argument)
  Argument.all.filter (used.contains ·)

/-- What only one of two texts refers to. -/
structure Mismatch where
  /-- in the source text only -/
  missing : List Argument
  /-- in the target text only -/
  unexpected : List Argument
  deriving Repr, DecidableEq

/-- Arguments in a row. -/
def listed (arguments : List Argument) : String :=
  String.intercalate ", " (arguments.map Argument.text)

/-- A mismatch in words; an empty list is not named. -/
def Mismatch.text (mismatch : Mismatch) : String :=
  let missing := "missing " ++ listed mismatch.missing
  let unexpected := "unexpected " ++ listed mismatch.unexpected
  match mismatch.missing.isEmpty, mismatch.unexpected.isEmpty with
  | false, true => missing
  | true, false => unexpected
  | _, _ => missing ++ "; " ++ unexpected

/-- The arguments that have to agree: where the text depends on a number, a form may leave that
number out. -/
def required (numerus : Bool) (s : String) : List Argument :=
  if numerus then (signature s).filter (· ≠ .count) else signature s

/-- What only one of a source and a target text refers to, if anything. -/
def compare (source target : String) (numerus : Bool) : Option Mismatch :=
  let expected := required numerus source
  let actual := required numerus target
  if expected = actual then none
  else some {
    missing := expected.filter (!actual.contains ·)
    unexpected := actual.filter (!expected.contains ·) }

end Placeholder

end Linguist
