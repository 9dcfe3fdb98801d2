import Linguist.Proofs.Catalog.Json
import Linguist.Proofs.Catalog.Reading
import Linguist.Proofs.Files
import Linguist.Proofs.Ts.RoundTrip

/-!
# Linguist — catalogue files keep their catalogue

What a format keeps of a catalogue is read from the content it gives the file;
then a catalogue without a language gets the one of the file's name. Converting
is reading one file and writing another, so these two are all that can change,
and a catalogue that names its language goes by JSON as if it went straight.

* `Format.kept`, `Catalog.filedAt` — the two changes.
* `readCatalog_of_writeCatalog` — reading behind writing.
* `convert_keeps` — reading behind converting, once and twice.
-/

namespace Linguist

/-- What is left of a catalogue in a format. -/
def Format.kept : Format → Catalog → Catalog
  | .ts, catalog => catalog.normalized
  | .json, catalog => catalog

/-- A catalogue as it is read from a path: without a language of its own it has the one that the
path tells, if any. -/
def Catalog.filedAt (path : String) (catalog : Catalog) : Catalog :=
  if catalog.language = "" then
    { catalog with language := (languageOfPath? path).getD "" }
  else catalog

/-! ## Reading -/

theorem Format.value?_parse_content (format : Format) (catalog : Catalog) :
    (format.parse (format.content catalog)).value? = some (format.kept catalog) := by
  cases format with
  | ts =>
    rw [Format.parse, Format.content, Logged.value?_mapError, Ts.value?_read_write]
    rfl
  | json =>
    rw [Format.parse, Format.content, Logged.value?_ofExcept, toOption_mapError,
      Catalog.ofJson_toJson]
    rfl

/-- Once a file is understood, nothing but the language can change, and nothing can fail. -/
theorem FileTree.value?_readCatalog (tree : FileTree) (path : String) (format : Format) :
    (tree.readCatalog path format {}).value?
      = (tree.parseCatalog path format).value?.map (Catalog.filedAt path) := by
  cases hParsed : (tree.parseCatalog path format).result with
  | ok parsed =>
    rw [Logged.value?, Logged.value?, readCatalog_lenient hParsed, hParsed]
    rfl
  | error e =>
    rw [Logged.value?, Logged.value?, readCatalog_of_error hParsed, hParsed]
    rfl

/-! ## Writing -/

theorem read_of_writeCatalog {catalog : Catalog} {path : String} {format : Format}
    {before after : FileTree} (h : (writeCatalog catalog path format).Achieves before () after) :
    after.read path = .ok (format.content catalog) := by
  -- the directory comes first, if one has to be made
  obtain ⟨middle, hWrite⟩ : ∃ middle, (do
      (Action.create path (format.content catalog)).mapError .io
      Action.note (writeNotice path format) : Action Error Unit).Achieves middle () after := by
    unfold writeCatalog at h
    dsimp only at h
    split at h
    · exact ⟨before, h⟩
    · exact ⟨before, h⟩
    · obtain ⟨_, middle, -, hWrite⟩ := Action.achieves_bind_iff.mp h
      exact ⟨middle, hWrite⟩
  exact Action.read_of_create_note hWrite

theorem readCatalog_of_writeCatalog {catalog : Catalog} {path : String} {format : Format}
    {before after : FileTree} (h : (writeCatalog catalog path format).Achieves before () after) :
    (after.readCatalog path format {}).result = .ok ((format.kept catalog).filedAt path) := by
  have hParse : after.parseCatalog path format = format.parse (format.content catalog) := by
    rw [FileTree.parseCatalog, read_of_writeCatalog h]
  apply toOption_eq_some_iff.mp
  show (after.readCatalog path format {}).value? = _
  rw [FileTree.value?_readCatalog, hParse, Format.value?_parse_content]
  rfl

/-! ## Converting -/

theorem convert_achieves_iff {input output : String} {source target : Format}
    {before after : FileTree} :
    (convert input source output target).Achieves before () after ↔
      ∃ catalog, (before.readCatalog input source {}).result = .ok catalog ∧
        (writeCatalog catalog output target).Achieves before () after := by
  unfold convert
  rw [Action.achieves_bind_iff]
  constructor
  · rintro ⟨catalog, middle, hRead, hWrite⟩
    obtain ⟨hResult, rfl⟩ := Action.achieves_reading_iff.mp hRead
    exact ⟨catalog, hResult, hWrite⟩
  · rintro ⟨catalog, hRead, hWrite⟩
    exact ⟨catalog, before, Action.achieves_reading_iff.mpr ⟨hRead, rfl⟩, hWrite⟩

/-- **Conversion.** What is read from the file that was written is what was read from the other, but
for what a `.ts` file cannot hold and the language of the new name. A catalogue that names its
language is written to a `.ts` file the same way, whether it goes there by JSON or straight. -/
theorem convert_keeps {input output : String} {source target : Format} {before after : FileTree}
    {catalog : Catalog} (hRead : (before.readCatalog input source {}).result = .ok catalog)
    (hConvert : (convert input source output target).Achieves before () after) :
    (after.readCatalog output target {}).result = .ok ((target.kept catalog).filedAt output) ∧
      (target = .json → catalog.language ≠ "" →
        ∀ (byJson straight : String) (last direct : FileTree),
          (convert output .json byJson .ts).Achieves after () last →
          (convert input source straight .ts).Achieves before () direct →
          ∃ bytes, last.read byJson = .ok bytes ∧ direct.read straight = .ok bytes) := by
  obtain ⟨same, hSame, hWrite⟩ := convert_achieves_iff.mp hConvert
  obtain rfl : catalog = same := Except.ok.inj (hRead.symm.trans hSame)
  have hThere := readCatalog_of_writeCatalog hWrite
  refine ⟨hThere, ?_⟩
  rintro rfl hLanguage byJson straight last direct hLast hDirect
  obtain ⟨again, hAgain, hLast⟩ := convert_achieves_iff.mp hLast
  obtain ⟨same, hSame, hDirect⟩ := convert_achieves_iff.mp hDirect
  -- both write the catalogue that was read first
  have hFiled : (Format.json.kept catalog).filedAt output = catalog := if_neg hLanguage
  rw [hFiled] at hThere
  obtain rfl : catalog = again := Except.ok.inj (hThere.symm.trans hAgain)
  obtain rfl : catalog = same := Except.ok.inj (hRead.symm.trans hSame)
  exact ⟨_, read_of_writeCatalog hLast, read_of_writeCatalog hDirect⟩

/-- By JSON in a new directory and back, next to the file that it came from; and a catalogue without
a language, into a file whose name tells one. -/
theorem convert_keeps_german :
    let message := { Message.ofForms "%n files" ["%n Datei", "%n Dateien"] with comment := some "" }
    let context : Context := { name := "", messages := [message] }
    let catalog : Catalog := { language := "de", contexts := [context] }
    let before := (writeCatalog catalog "app.ts" .ts {}).1
    let after := (writeCatalog catalog "json/app.json" .json before).1
    let last := (writeCatalog catalog "back.ts" .ts after).1
    let direct := (writeCatalog catalog "straight.ts" .ts before).1
    let plain : Catalog := { contexts := [context] }
    let start := (writeCatalog plain "translations.ts" .ts {}).1
    let named := (writeCatalog plain "qt_hu.json" .json start).1
    ((before.readCatalog "app.ts" .ts {}).result = .ok catalog ∧
      (convert "app.ts" .ts "json/app.json" .json).Achieves before () after ∧
      (after.readCatalog "json/app.json" .json {}).result = .ok catalog ∧
      ∃ bytes, last.read "back.ts" = .ok bytes ∧ direct.read "straight.ts" = .ok bytes) ∧
    (start.readCatalog "translations.ts" .ts {}).result = .ok plain ∧
      (convert "translations.ts" .ts "qt_hu.json" .json).Achieves start () named ∧
      (named.readCatalog "qt_hu.json" .json {}).result = .ok { plain with language := "hu" } := by
  intro message context catalog before after last direct plain start named
  constructor
  · have hFirst : (writeCatalog catalog "app.ts" .ts).Achieves {} () before :=
      ⟨rfl, by decide +kernel⟩
    have hRead : (before.readCatalog "app.ts" .ts {}).result = .ok catalog :=
      (readCatalog_of_writeCatalog hFirst).trans (by decide +kernel)
    have hConvert : (convert "app.ts" .ts "json/app.json" .json).Achieves before () after :=
      convert_achieves_iff.mpr ⟨catalog, hRead, rfl, by decide +kernel⟩
    have hFiled : (Format.json.kept catalog).filedAt "json/app.json" = catalog :=
      if_neg (by decide)
    obtain ⟨hThere, hBytes⟩ := convert_keeps hRead hConvert
    rw [hFiled] at hThere
    have hLast : (convert "json/app.json" .json "back.ts" .ts).Achieves after () last :=
      convert_achieves_iff.mpr ⟨catalog, hThere, rfl, by decide +kernel⟩
    have hDirect : (convert "app.ts" .ts "straight.ts" .ts).Achieves before () direct :=
      convert_achieves_iff.mpr ⟨catalog, hRead, rfl, by decide +kernel⟩
    exact ⟨hRead, hConvert, hThere, hBytes rfl (by decide) _ _ _ _ hLast hDirect⟩
  · have hStart : (writeCatalog plain "translations.ts" .ts).Achieves {} () start :=
      ⟨rfl, by decide +kernel⟩
    have hRead : (start.readCatalog "translations.ts" .ts {}).result = .ok plain :=
      (readCatalog_of_writeCatalog hStart).trans (by decide +kernel)
    have hConvert : (convert "translations.ts" .ts "qt_hu.json" .json).Achieves start () named :=
      convert_achieves_iff.mpr ⟨plain, hRead, rfl, by decide +kernel⟩
    have hFiled : (Format.json.kept plain).filedAt "qt_hu.json"
        = { plain with language := "hu" } := by decide +kernel
    exact ⟨hRead, hConvert, (convert_keeps hRead hConvert).1.trans (congrArg _ hFiled)⟩

end Linguist
