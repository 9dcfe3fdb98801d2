import Linguist.Catalog.Basic

/-!
# Linguist — language identifiers

A language is named by subtags between `-` or `_`: a language, then maybe a
script, a region and variants, in this order. Case does not matter; the
identifier keeps each subtag in its usual case and the variants sorted, each
once. `und` stands for no language in particular.

* `LanguageId.ofText?` reads an identifier, `LanguageId.text` writes it.
* `Catalog.hasLanguage` compares the first subtag only.
-/

namespace Linguist

/-- An identifier of a language. -/
structure LanguageId where
  /-- small letters; `none` for `und` -/
  language : Option String
  script : Option String := none
  region : Option String := none
  /-- sorted, each once -/
  variants : List String := []
  deriving Repr, DecidableEq

namespace LanguageId

/-! ## Subtags -/

/-- An ASCII letter. -/
def isLetter (c : Char) : Bool :=
  c.isAlpha

/-- An ASCII letter or digit. -/
def isLetterOrDigit (c : Char) : Bool :=
  c.isAlphanum

/-- Small letters. -/
def small (cs : List Char) : String :=
  String.ofList (cs.map Char.toLower)

/-- A language: letters, two or three or five to eight of them. -/
def isLanguage (cs : List Char) : Bool :=
  2 ≤ cs.length && cs.length ≤ 8 && cs.length != 4 && cs.all isLetter

/-- A script: four letters. -/
def isScript (cs : List Char) : Bool :=
  cs.length == 4 && cs.all isLetter

/-- A region: two letters or three digits. -/
def isRegion (cs : List Char) : Bool :=
  (cs.length == 2 && cs.all isLetter) || (cs.length == 3 && cs.all Char.isDigit)

/-- A variant: five to eight letters or digits, or four characters of ASCII of which the first
is a digit or the others are letters or digits. -/
def isVariant (cs : List Char) : Bool :=
  (5 ≤ cs.length && cs.length ≤ 8 && cs.all isLetterOrDigit)
    || (cs.length == 4 && cs.all (fun c => 0 < c.toNat && c.toNat < 0x80)
        && ((cs.take 1).all Char.isDigit || (cs.drop 1).all isLetterOrDigit))

/-- A script as it is written. -/
def titled : List Char → String
  | [] => ""
  | c :: rest => String.ofList (c.toUpper :: rest.map Char.toLower)

/-! ## Reading -/

/-- The subtags of a text. -/
def subtags (s : String) : List (List Char) :=
  s.toList.splitOnP fun c => c == '-' || c == '_'

/-- Sorted, each once. -/
def inOrder (variants : List String) : List String :=
  (variants.mergeSort fun a b => !(b < a)).eraseDups

/-- Variants up to the end. -/
def withVariants? (id : LanguageId) (tags : List (List Char)) : Option LanguageId :=
  if tags.all isVariant then some { id with variants := inOrder (tags.map small) } else none

/-- Maybe a region, then variants. -/
def withRegion? (id : LanguageId) : List (List Char) → Option LanguageId
  | [] => some id
  | tag :: rest =>
    if isRegion tag then
      { id with region := some (String.ofList (tag.map Char.toUpper)) }.withVariants? rest
    else id.withVariants? (tag :: rest)

/-- Maybe a script, then what may follow it. -/
def withScript? (id : LanguageId) : List (List Char) → Option LanguageId
  | [] => some id
  | tag :: rest =>
    if isScript tag then { id with script := some (titled tag) }.withRegion? rest
    else id.withRegion? (tag :: rest)

/-- The identifier a text names. -/
def ofText? (s : String) : Option LanguageId :=
  match subtags s with
  | [] => none
  | tag :: rest =>
    if isLanguage tag then
      let language := if small tag = "und" then none else some (small tag)
      { language : LanguageId }.withScript? rest
    else none

/-! ## Writing -/

/-- The first subtag. -/
def base (id : LanguageId) : String :=
  id.language.getD "und"

/-- An identifier in its usual spelling. -/
def text (id : LanguageId) : String :=
  String.intercalate "-" (id.base :: id.script.toList ++ id.region.toList ++ id.variants)

end LanguageId

/-! ## The language of a catalogue -/

/-- The identifier of a catalogue's language. -/
def Catalog.languageId? (catalog : Catalog) : Option LanguageId :=
  LanguageId.ofText? catalog.language

/-- Whether a catalogue is in a language, whatever the region of either. -/
def Catalog.hasLanguage (catalog : Catalog) (language : String) : Bool :=
  match catalog.languageId?, LanguageId.ofText? language with
  | some own, some wanted => own.language == wanted.language
  | _, _ => false

end Linguist
