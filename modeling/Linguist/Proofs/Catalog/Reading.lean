import Linguist.Catalog.File
import Linguist.Proofs.Notice

/-!
# Linguist — strict and lenient readings

A reading settles the language of a catalogue and looks at the keys that occur
again. Nothing else can differ from what stands in the file, and nothing else
can fail, so two readings of one file differ only in what they accept: a lenient
one all that the format accepts, a strict one what has a language and no key
twice. A hint is taken at its word, even if it is the empty text.

* `Catalog.settled` — what a reading makes of the catalogue in a file.
* `FileTree.readCatalog_lenient`, `FileTree.readCatalog_strict` — the two readings.
* `FileTree.strict_reading_settles` — what a strict reading promises.
* `FileTree.strict_and_lenient_agree` — both readings of one file.
-/

namespace Linguist

/-! ## The language that a name tells -/

/-- No language is told by nothing: what is told starts with two or three letters. -/
theorem ne_empty_of_languageSuffix? {segments : List (List Char)} {language : String}
    (h : languageSuffix? segments = some language) : language ≠ "" := by
  induction segments with
  | nil => cases h
  | cons segment rest ih =>
    rw [languageSuffix?] at h
    split at h
    · rename_i hNames
      obtain rfl := Option.some.inj h
      simp only [namesLanguage, isLanguageSegment, Bool.and_eq_true, Bool.or_eq_true,
        beq_iff_eq] at hNames
      have hSegment : segment ≠ [] := by
        rintro rfl
        simp at hNames
      cases rest <;> simp [joinSegments, List.intercalate, hSegment]
    · exact ih h

theorem ne_empty_of_languageOfPath? {path language : String}
    (h : languageOfPath? path = some language) : language ≠ "" := by
  unfold languageOfPath? at h
  split at h
  · cases h
  · split at h <;> exact ne_empty_of_languageSuffix? h

/-! ## Settling -/

namespace Catalog

/-- A catalogue with its language settled: one that names none has that of the hint or else, without
a hint, that of the path, if there is one. -/
def settled (hint : Option String) (path : String) (catalog : Catalog) : Catalog :=
  if catalog.language = "" then
    { catalog with language := (hint.or (languageOfPath? path)).getD "" }
  else catalog

/-- Whether nothing tells the language of a catalogue. -/
def IsUntold (hint : Option String) (path : String) (catalog : Catalog) : Prop :=
  catalog.language = "" ∧ hint = none ∧ languageOfPath? path = none

instance (hint : Option String) (path : String) (catalog : Catalog) :
    Decidable (catalog.IsUntold hint path) :=
  inferInstanceAs (Decidable (_ ∧ _ ∧ _))

/-- What is noticed of a hint: that it is not the language a catalogue names. -/
def hintNotices (hint : Option String) (path : String) (catalog : Catalog) : List Notice :=
  match hint with
  | none => []
  | some wanted =>
    if catalog.language = "" ∨ catalog.hasLanguage wanted then []
    else [hintNotice path catalog.language wanted]

variable {hint : Option String} {path : String} {catalog : Catalog}

theorem settled_of_ne_empty (h : catalog.language ≠ "") : catalog.settled hint path = catalog :=
  if_neg h

theorem settled_of_untold (h : catalog.IsUntold hint path) :
    catalog.settled hint path = catalog := by
  obtain ⟨hLanguage, rfl, hPath⟩ := h
  rw [settled, if_pos hLanguage, hPath]
  show { catalog with language := "" } = catalog
  rw [← hLanguage]

/-- Settling changes the language only. -/
theorem settled_eq_with : catalog.settled hint path
    = { catalog with language := (catalog.settled hint path).language } := by
  unfold settled
  split <;> rfl

theorem duplicateKeys_settled :
    (catalog.settled hint path).duplicateKeys = catalog.duplicateKeys := by
  rw [settled_eq_with]
  rfl

/-- No language is settled just if nothing tells it, or if a catalogue that names none is read with
the empty text for a hint. -/
theorem language_settled_eq_empty_iff :
    (catalog.settled hint path).language = "" ↔
      catalog.IsUntold hint path ∨ catalog.language = "" ∧ hint = some "" := by
  by_cases hLanguage : catalog.language = ""
  · rw [settled, if_pos hLanguage]
    cases hint with
    | some wanted => simp [IsUntold, hLanguage]
    | none =>
      cases hPath : languageOfPath? path with
      | none => simp [IsUntold, hLanguage, hPath]
      | some told => simp [IsUntold, hPath, ne_empty_of_languageOfPath? hPath]
  · rw [settled_of_ne_empty hLanguage]
    simp [IsUntold, hLanguage]

end Catalog

/-! ## The steps of a reading -/

namespace ReadMode

/-- Settling the language fails only in a strict reading, and only where nothing tells it. -/
theorem settleLanguage_eq (mode : ReadMode) (path : String) (catalog : Catalog) :
    mode.settleLanguage path catalog =
      if mode.strict = true ∧ catalog.IsUntold mode.hint path then .fail (.noLanguage path)
      else ⟨catalog.hintNotices mode.hint path, .ok (catalog.settled mode.hint path)⟩ := by
  obtain ⟨hint, strict⟩ := mode
  unfold settleLanguage
  by_cases hLanguage : catalog.language = ""
  · rw [if_pos (String.isEmpty_iff.mpr hLanguage)]
    -- a hint is taken, and without one what the path tells
    cases hint with
    | some wanted =>
      simp [Catalog.settled, Catalog.IsUntold, Catalog.hintNotices, hLanguage]
      rfl
    | none =>
      cases hPath : languageOfPath? path with
      | some told =>
        simp [Catalog.settled, Catalog.IsUntold, Catalog.hintNotices, hLanguage, hPath]
        rfl
      | none =>
        have hUntold : catalog.IsUntold none path := ⟨hLanguage, rfl, hPath⟩
        rw [Catalog.settled_of_untold hUntold]
        cases strict
        · simp [Catalog.hintNotices]
          rfl
        · simp [hUntold]
  · rw [if_neg (by simpa using hLanguage), Catalog.settled_of_ne_empty hLanguage]
    have hTold : ¬ catalog.IsUntold hint path := fun h => hLanguage h.1
    cases hint with
    | none =>
      simp [hTold, Catalog.hintNotices]
      rfl
    | some wanted =>
      by_cases hSame : catalog.hasLanguage wanted = true
      · simp [hTold, hSame, Catalog.hintNotices]
        rfl
      · simp [hTold, hSame, hLanguage, Catalog.hintNotices]
        rfl

variable {mode : ReadMode} {path : String} {catalog : Catalog}

theorem settleKeys_lenient (h : mode.strict = false) :
    mode.settleKeys path catalog
      = .noteAll (catalog.duplicateKeys.map (duplicateNotice path)) := by
  unfold settleKeys
  cases catalog.duplicateKeys with
  | nil => rfl
  | cons key keys => simp [h]

theorem settleKeys_strict (h : mode.strict = true) :
    mode.settleKeys path catalog =
      match catalog.duplicateKeys.head? with
      | none => pure ()
      | some key => .fail (.duplicateKey key) := by
  unfold settleKeys
  cases catalog.duplicateKeys with
  | nil => rfl
  | cons key keys => simp [h]

end ReadMode

/-! ## The two readings -/

namespace FileTree

variable {tree : FileTree} {path : String} {format : Format} {hint : Option String}
  {parsed : Catalog}

/-- What the format refuses is refused by every reading. -/
theorem readCatalog_of_error {e : Error} (h : (tree.parseCatalog path format).result = .error e)
    (mode : ReadMode) :
    tree.readCatalog path format mode = ⟨(tree.parseCatalog path format).notices, .error e⟩ :=
  Logged.bind_of_error h

/-- What the format accepts is accepted by a lenient reading, which notices every key that occurs
again. -/
theorem readCatalog_lenient (h : (tree.parseCatalog path format).result = .ok parsed) :
    tree.readCatalog path format { hint } =
      ⟨(tree.parseCatalog path format).notices ++ (parsed.hintNotices hint path
          ++ (parsed.duplicateKeys.map (duplicateNotice path)
            ++ [loadNotice path format (parsed.settled hint path)])),
        .ok (parsed.settled hint path)⟩ := by
  unfold readCatalog
  rw [Logged.bind_of_ok h, ReadMode.settleLanguage_eq]
  simp only [Bool.false_eq_true, false_and, if_false]
  rw [Logged.bind_of_ok rfl, ReadMode.settleKeys_lenient rfl, Catalog.duplicateKeys_settled]
  rfl

/-- A strict reading fails where nothing tells the language, then for the first key that occurs
again; where neither is so, it is the lenient one. -/
theorem readCatalog_strict (h : (tree.parseCatalog path format).result = .ok parsed) :
    tree.readCatalog path format { hint, strict := true } =
      if parsed.IsUntold hint path then
        ⟨(tree.parseCatalog path format).notices, .error (.noLanguage path)⟩
      else
        match parsed.duplicateKeys.head? with
        | some key =>
          ⟨(tree.parseCatalog path format).notices ++ parsed.hintNotices hint path,
            .error (.duplicateKey key)⟩
        | none => tree.readCatalog path format { hint } := by
  rw [readCatalog_lenient h, readCatalog, Logged.bind_of_ok h, ReadMode.settleLanguage_eq]
  by_cases hUntold : parsed.IsUntold hint path
  · rw [if_pos ⟨rfl, hUntold⟩, if_pos hUntold, Logged.bind_of_error rfl]
    simp [Logged.fail]
  · rw [if_neg fun hBoth => hUntold hBoth.2, if_neg hUntold, Logged.bind_of_ok rfl,
      ReadMode.settleKeys_strict rfl, Catalog.duplicateKeys_settled]
    cases hKeys : parsed.duplicateKeys with
    | nil => rfl
    | cons key keys =>
      dsimp only [List.head?_cons]
      rw [Logged.bind_of_error rfl]
      simp [Logged.fail]

/-- What a reading accepts comes from what the format accepts. -/
theorem exists_parsed {mode : ReadMode} {catalog : Catalog}
    (h : (tree.readCatalog path format mode).result = .ok catalog) :
    ∃ parsed, (tree.parseCatalog path format).result = .ok parsed := by
  cases hParsed : (tree.parseCatalog path format).result with
  | ok parsed => exact ⟨parsed, rfl⟩
  | error e =>
    rw [readCatalog_of_error hParsed] at h
    cases h

/-- A strict reading accepts what has its language told and no key twice. -/
theorem readCatalog_strict_eq_ok_iff {catalog : Catalog}
    (h : (tree.parseCatalog path format).result = .ok parsed) :
    (tree.readCatalog path format { hint, strict := true }).result = .ok catalog ↔
      ¬ parsed.IsUntold hint path ∧ parsed.duplicateKeys = [] ∧
        catalog = parsed.settled hint path := by
  rw [readCatalog_strict h]
  by_cases hUntold : parsed.IsUntold hint path
  · simp [hUntold]
  · rw [if_neg hUntold]
    cases hKeys : parsed.duplicateKeys with
    | nil => simp [readCatalog_lenient h, hUntold, eq_comm]
    | cons key keys => simp

/-- A strict reading that succeeds found no key that occurs again. -/
theorem duplicateKeys_of_readCatalog {mode : ReadMode} {catalog : Catalog}
    (hStrict : mode.strict = true) (h : (tree.readCatalog path format mode).result = .ok catalog) :
    catalog.duplicateKeys = [] := by
  obtain ⟨hint, strict⟩ := mode
  obtain rfl : strict = true := hStrict
  obtain ⟨parsed, hParsed⟩ := exists_parsed h
  obtain ⟨-, hKeys, rfl⟩ := (readCatalog_strict_eq_ok_iff hParsed).mp h
  rw [Catalog.duplicateKeys_settled, hKeys]

theorem readCatalog_lenient_eq_ok_iff {catalog : Catalog} :
    (tree.readCatalog path format { hint }).result = .ok catalog ↔
      ∃ parsed, (tree.parseCatalog path format).result = .ok parsed ∧
        catalog = parsed.settled hint path := by
  constructor
  · intro h
    obtain ⟨parsed, hParsed⟩ := exists_parsed h
    rw [readCatalog_lenient hParsed] at h
    exact ⟨parsed, hParsed, (Except.ok.inj h).symm⟩
  · rintro ⟨parsed, hParsed, rfl⟩
    rw [readCatalog_lenient hParsed]

theorem parseCatalog_of_read {content : Bytes} (h : tree.read path = .ok content) :
    tree.parseCatalog path format = format.parse content := by
  rw [parseCatalog, h]

/-- A file is understood if it can be read and the format accepts its content. -/
theorem parseCatalog_eq_ok_iff :
    (tree.parseCatalog path format).result = .ok parsed ↔
      ∃ content, tree.read path = .ok content ∧ (format.parse content).result = .ok parsed := by
  unfold parseCatalog
  cases tree.read path with
  | ok content => simp
  | error fault => cases fault <;> simp [Logged.fail]

/-- A lenient reading accepts the files that the format accepts. -/
theorem readCatalog_lenient_eq_ok_iff_parse {catalog : Catalog} :
    (tree.readCatalog path format { hint }).result = .ok catalog ↔
      ∃ content parsed, tree.read path = .ok content ∧
        (format.parse content).result = .ok parsed ∧ catalog = parsed.settled hint path := by
  rw [readCatalog_lenient_eq_ok_iff]
  constructor
  · rintro ⟨parsed, hParsed, hCatalog⟩
    obtain ⟨content, hRead, hParse⟩ := parseCatalog_eq_ok_iff.mp hParsed
    exact ⟨content, parsed, hRead, hParse, hCatalog⟩
  · rintro ⟨content, parsed, hRead, hParse, hCatalog⟩
    exact ⟨parsed, parseCatalog_eq_ok_iff.mpr ⟨content, hRead, hParse⟩, hCatalog⟩

/-- A strict reading is the lenient one, or it fails. -/
theorem readCatalog_strict_eq_or_error (tree : FileTree) (path : String) (format : Format)
    (hint : Option String) :
    let strict := tree.readCatalog path format { hint, strict := true }
    strict = tree.readCatalog path format { hint } ∨ ∃ e, strict.result = .error e := by
  intro strict
  cases hParsed : (tree.parseCatalog path format).result with
  | error e => exact .inr ⟨e, congrArg Logged.result (readCatalog_of_error hParsed _)⟩
  | ok parsed =>
    have hStrict : strict = _ := readCatalog_strict hParsed
    split at hStrict
    · exact .inr ⟨_, congrArg Logged.result hStrict⟩
    · split at hStrict
      · exact .inr ⟨_, congrArg Logged.result hStrict⟩
      · exact .inl hStrict

/-- What a strict reading refuses although a lenient one accepts it has a key twice or no
language. -/
theorem error_of_readCatalog_strict {catalog : Catalog} {e : Error}
    (hOk : (tree.readCatalog path format { hint }).result = .ok catalog)
    (hError : (tree.readCatalog path format { hint, strict := true }).result = .error e) :
    (∃ key, catalog.duplicateKeys.head? = some key ∧ e = .duplicateKey key) ∨
      e = .noLanguage path ∧ catalog.language = "" := by
  -- the file was understood, so only settling it can have failed
  obtain ⟨parsed, hParsed, rfl⟩ := readCatalog_lenient_eq_ok_iff.mp hOk
  rw [readCatalog_strict hParsed] at hError
  rw [Catalog.duplicateKeys_settled, Catalog.language_settled_eq_empty_iff]
  split at hError
  · rename_i hUntold
    exact .inr ⟨(Except.error.inj hError).symm, .inl hUntold⟩
  · split at hError
    · rename_i key hKey
      exact .inl ⟨key, hKey, (Except.error.inj hError).symm⟩
    · cases hOk.symm.trans hError

/-- **Strict readings.** A catalogue that a strict reading accepts has no key twice, and it has a
language, unless the file names none and the hint is the empty text. -/
theorem strict_reading_settles {mode : ReadMode} {catalog : Catalog} (hStrict : mode.strict = true)
    (h : (tree.readCatalog path format mode).result = .ok catalog) :
    catalog.duplicateKeys = [] ∧
      (catalog.language = "" ↔ mode.hint = some "" ∧
        ∃ parsed, (tree.parseCatalog path format).result = .ok parsed ∧ parsed.language = "") := by
  refine ⟨duplicateKeys_of_readCatalog hStrict h, ?_⟩
  obtain ⟨hint, strict⟩ := mode
  obtain rfl : strict = true := hStrict
  obtain ⟨parsed, hParsed⟩ := exists_parsed h
  obtain ⟨hTold, -, rfl⟩ := (readCatalog_strict_eq_ok_iff hParsed).mp h
  rw [Catalog.language_settled_eq_empty_iff, hParsed]
  simp [hTold, and_comm]

/-- Without a hint the language is that of the file's name. -/
theorem strict_reading_settles_hungarian :
    let tree : FileTree := ⟨[(["qt_hu.ts"], .file (Utf8.encode "<TS/>"))]⟩
    let catalog : Catalog := { language := "hu" }
    (tree.readCatalog "qt_hu.ts" .ts { strict := true }).result = .ok catalog ∧
      catalog.duplicateKeys = [] ∧ catalog.language ≠ "" := by
  intro tree catalog
  have hRead : (tree.readCatalog "qt_hu.ts" .ts { strict := true }).result = .ok catalog :=
    toOption_eq_some_iff.mp (by decide +kernel)
  obtain ⟨hKeys, hLanguage⟩ := strict_reading_settles rfl hRead
  exact ⟨hRead, hKeys, fun hEmpty => by simpa using (hLanguage.mp hEmpty).1⟩

/-- With an empty hint a strict reading accepts a catalogue without a language. -/
theorem strict_reading_empty_hint :
    let tree : FileTree := ⟨[(["translations.ts"], .file (Utf8.encode "<TS/>"))]⟩
    let mode : ReadMode := { hint := some "", strict := true }
    let catalog : Catalog := {}
    (tree.readCatalog "translations.ts" .ts mode).result = .ok catalog ∧
      ¬ (catalog.language ≠ "" ∧ catalog.duplicateKeys = []) := by
  intro tree mode catalog
  exact ⟨toOption_eq_some_iff.mp (by decide +kernel), fun h => h.1 rfl⟩

/-- **Strict and lenient readings.** A lenient reading accepts just what the format accepts and
changes the language only, where there is none; it notices every key that occurs again, in order. A
strict reading of the same file is the same, or it fails: for the first of these keys, or because
there is no language. -/
theorem strict_and_lenient_agree (tree : FileTree) (path : String) (format : Format)
    (hint : Option String) :
    let lenient := tree.readCatalog path format { hint }
    let strict := tree.readCatalog path format { hint, strict := true }
    (∀ catalog, lenient.result = .ok catalog ↔
      ∃ content parsed, tree.read path = .ok content ∧
        (format.parse content).result = .ok parsed ∧ catalog = parsed.settled hint path) ∧
    (∀ content parsed, tree.read path = .ok content →
      (format.parse content).result = .ok parsed →
      lenient.notices = (format.parse content).notices ++ (parsed.hintNotices hint path
        ++ ((parsed.settled hint path).duplicateKeys.map (duplicateNotice path)
          ++ [loadNotice path format (parsed.settled hint path)]))) ∧
    (strict = lenient ∨ ∃ e, strict.result = .error e) ∧
    ∀ catalog e, lenient.result = .ok catalog → strict.result = .error e →
      (∃ key, catalog.duplicateKeys.head? = some key ∧ e = .duplicateKey key) ∨
        e = .noLanguage path ∧ catalog.language = "" := by
  intro lenient strict
  refine ⟨fun catalog => readCatalog_lenient_eq_ok_iff_parse, fun content parsed hRead hParse => ?_,
    readCatalog_strict_eq_or_error tree path format hint,
    fun catalog e => error_of_readCatalog_strict⟩
  have hParsed := parseCatalog_eq_ok_iff.mpr ⟨content, hRead, hParse⟩
  rw [Catalog.duplicateKeys_settled, ← parseCatalog_of_read hRead]
  exact congrArg Logged.notices (readCatalog_lenient hParsed)

/-- A key three times in a file that names no language, read with a hint, and a file whose language
is told by its name only. -/
theorem strict_and_lenient_agree_thrice :
    let content := Utf8.encode ("<TS><context><name>a</name><message><source>s</source></message>"
      ++ "<message><source>s</source></message><message><source>s</source></message>"
      ++ "</context></TS>")
    let tree : FileTree :=
      ⟨[(["notes.ts"], .file content), (["qt_de.ts"], .file (Utf8.encode "<TS/>"))]⟩
    let messages := List.replicate 3 (Message.pending "s")
    let parsed : Catalog := { contexts := [{ name := "a", messages }] }
    let catalog : Catalog := { parsed with language := "hu" }
    let again := duplicateNotice "notes.ts" ⟨"a", "s", ""⟩
    let lenient := tree.readCatalog "notes.ts" .ts { hint := some "hu" }
    let strict := tree.readCatalog "notes.ts" .ts { hint := some "hu", strict := true }
    lenient.result = .ok catalog ∧
      lenient.notices
        = [Ts.readNotice parsed, again, again, loadNotice "notes.ts" .ts catalog] ∧
      strict.result = .error (.duplicateKey ⟨"a", "s", ""⟩) ∧
      (tree.readCatalog "qt_de.ts" .ts {}).result = .ok { language := "de" } := by
  intro content tree messages parsed catalog again lenient strict
  have hRead : tree.read "notes.ts" = .ok content := rfl
  have hParsing : ((Format.ts.parse content).notices, (Format.ts.parse content).result.toOption)
      = ([Ts.readNotice parsed], some parsed) := by decide +kernel
  obtain ⟨hParseNotices, hParsed⟩ := Prod.mk.inj hParsing
  have hParse := toOption_eq_some_iff.mp hParsed
  obtain ⟨hLenient, hNotices, hEither, hFault⟩ :=
    strict_and_lenient_agree tree "notes.ts" .ts (some "hu")
  have hOk : lenient.result = .ok catalog :=
    (hLenient catalog).mpr ⟨content, parsed, hRead, hParse, rfl⟩
  have hNamed : (Format.ts.parse (Utf8.encode "<TS/>")).result = .ok {} :=
    toOption_eq_some_iff.mp (by decide +kernel)
  refine ⟨hOk, ?_, ?_, ((strict_and_lenient_agree tree "qt_de.ts" .ts none).1 _).mpr
    ⟨Utf8.encode "<TS/>", {}, rfl, hNamed, by decide +kernel⟩⟩
  · rw [hNotices content parsed hRead hParse, hParseNotices]
    decide +kernel
  · rcases hEither with hSame | ⟨e, hError⟩
    · -- a strict reading that comes to a catalogue has no key twice
      have hKeys := duplicateKeys_of_readCatalog rfl ((congrArg Logged.result hSame).trans hOk)
      exact absurd hKeys (by decide)
    · rcases hFault catalog e hOk hError with ⟨key, hKey, rfl⟩ | ⟨-, hLanguage⟩
      · obtain rfl : ⟨"a", "s", ""⟩ = key := Option.some.inj ((by decide : _ = _).trans hKey)
        exact hError
      · exact absurd hLanguage (by decide)

end FileTree

end Linguist
