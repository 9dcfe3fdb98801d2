import Linguist.Language

/-!
# Linguist — plural rules

Languages differ in how many forms a text with a number has and in which form a
number takes. A rule maps each number to the index of its form; a language has
one rule, and where none is known a single form serves every number.

* `PluralRule.formCount` is the number of forms, `PluralRule.formIndex` the form of a number.
* `PluralRule.select` picks a form out of those stored, the last one if there are too few.
-/

namespace Linguist

/-- A rule for the form that a number takes. -/
inductive PluralRule where
  | single
  /-- `1`, and all else -/
  | oneOther
  /-- `0` and `1`, and all else -/
  | zeroOneOther
  | slavic
  | polish
  | czech
  | slovenian
  | lithuanian
  | latvian
  | irish
  | romanian
  | arabic
  deriving Repr, DecidableEq, Inhabited

namespace PluralRule

/-- Every rule. -/
def all : List PluralRule :=
  [.single, .oneOther, .zeroOneOther, .slavic, .polish, .czech, .slovenian, .lithuanian, .latvian,
    .irish, .romanian, .arabic]

/-- The word for a rule. -/
def name : PluralRule → String
  | .single => "single"
  | .oneOther => "one_other"
  | .zeroOneOther => "zero_one_other"
  | .slavic => "slavic"
  | .polish => "polish"
  | .czech => "czech"
  | .slovenian => "slovenian"
  | .lithuanian => "lithuanian"
  | .latvian => "latvian"
  | .irish => "irish"
  | .romanian => "romanian"
  | .arabic => "arabic"

/-- The word for a rule in log lines. -/
def label : PluralRule → String
  | .single => "Single"
  | .oneOther => "OneOther"
  | .zeroOneOther => "ZeroOneOther"
  | .slavic => "Slavic"
  | .polish => "Polish"
  | .czech => "Czech"
  | .slovenian => "Slovenian"
  | .lithuanian => "Lithuanian"
  | .latvian => "Latvian"
  | .irish => "Irish"
  | .romanian => "Romanian"
  | .arabic => "Arabic"

/-- The rule of a name. -/
def ofName? (name : String) : Option PluralRule :=
  all.find? (·.name == name)

/-! ## Forms -/

/-- How many forms a text with a number has. -/
def formCount : PluralRule → Nat
  | .single => 1
  | .oneOther | .zeroOneOther => 2
  | .slavic | .polish | .czech | .lithuanian | .latvian | .irish | .romanian => 3
  | .slovenian => 4
  | .arabic => 6

/-- Whether a number ends in 2, 3 or 4 and not in 12, 13 or 14. -/
def endsInFew (n : Nat) : Bool :=
  2 ≤ n % 10 && n % 10 ≤ 4 && !(10 ≤ n % 100 && n % 100 ≤ 19)

/-- The index of the form of a number. -/
def formIndex (rule : PluralRule) (n : Nat) : Nat :=
  match rule with
  | .single => 0
  | .oneOther => if n = 1 then 0 else 1
  | .zeroOneOther => if n ≤ 1 then 0 else 1
  | .slavic =>
    if n % 10 = 1 ∧ n % 100 ≠ 11 then 0 else if endsInFew n then 1 else 2
  | .polish => if n = 1 then 0 else if endsInFew n then 1 else 2
  | .czech => if n = 1 then 0 else if 2 ≤ n ∧ n ≤ 4 then 1 else 2
  | .slovenian =>
    if n % 100 = 1 then 0 else if n % 100 = 2 then 1
    else if n % 100 = 3 ∨ n % 100 = 4 then 2 else 3
  | .lithuanian =>
    if n % 10 = 1 ∧ ¬(11 ≤ n % 100 ∧ n % 100 ≤ 19) then 0
    else if n % 10 ≠ 0 ∧ ¬(10 ≤ n % 100 ∧ n % 100 ≤ 19) then 1 else 2
  | .latvian => if n % 10 = 1 ∧ n % 100 ≠ 11 then 0 else if n ≠ 0 then 1 else 2
  | .irish => if n = 1 then 0 else if n = 2 then 1 else 2
  | .romanian =>
    if n = 1 then 0 else if n = 0 ∨ (1 ≤ n % 100 ∧ n % 100 ≤ 19) then 1 else 2
  | .arabic =>
    if n ≤ 2 then n else if 3 ≤ n % 100 ∧ n % 100 ≤ 10 then 3 else if 11 ≤ n % 100 then 4 else 5

/-- The stored form for a number; the last one if the rule asks for more forms than there are. -/
def select (rule : PluralRule) (forms : List String) (n : Nat) : Option String :=
  forms[min (rule.formIndex n) (forms.length - 1)]?

/-! ## Languages -/

/-- The rule of a language; those that are not listed have a single form. -/
def ofBase (base : String) : PluralRule :=
  let oneOthers := [
    "en", "de", "nl", "sv", "da", "nb", "nn", "no", "is", "fi", "et", "hi", "bn", "gu", "ta", "te",
    "kn", "ml", "mr", "it", "es", "pt", "el", "eu", "gl", "af", "sw", "ur", "bg", "ca", "eo", "fo",
    "fy", "he", "iw", "sq", "ne", "pa", "fil", "tl"]
  if oneOthers.contains base then .oneOther
  else if ["ru", "uk", "be", "sr", "hr", "bs", "sh"].contains base then .slavic
  else if ["cs", "sk"].contains base then .czech
  else if ["ro", "mo"].contains base then .romanian
  else
    match base with
    | "fr" => .zeroOneOther
    | "pl" => .polish
    | "sl" => .slovenian
    | "lt" => .lithuanian
    | "lv" => .latvian
    | "ga" => .irish
    | "ar" => .arabic
    | _ => .single

/-- The rule of an identifier: Brazil counts zero with one, Portugal does not. -/
def ofLanguage (id : LanguageId) : PluralRule :=
  if id.base = "pt" ∧ id.region = some "BR" then .zeroOneOther else ofBase id.base

/-- The rule of a language as it is written in a file. -/
def ofText (language : String) : PluralRule :=
  match LanguageId.ofText? language with
  | some id => ofLanguage id
  | none => .single

end PluralRule

/-- The rule of a catalogue's language. -/
def Catalog.pluralRule (catalog : Catalog) : PluralRule :=
  PluralRule.ofText catalog.language

end Linguist
