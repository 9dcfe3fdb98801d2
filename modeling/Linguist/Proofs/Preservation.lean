import Linguist.Command.Run
import Linguist.Proofs.Catalog.File
import Linguist.Proofs.Collection
import Linguist.Proofs.Files.Effect

/-!
# Linguist — what fails spares the files

Whatever writes a catalogue makes the directory for it and then the file, last of
all: once the file is there nothing can fail, and where it cannot be made there
are only directories. What is read is read before that, so a file can be written
over itself.

* `convert_replaces`, `Collection.write_replaces`, `Collection.save_replaces` — the library.
* `Command.Invocation.run_convert` — the command, which makes the directory before it reads.
* `failure_spares_files` — everything that writes a catalogue.
-/

namespace Linguist

open Linguist.Action

/-! ## The library -/

theorem writeCatalog_spares {catalog : Catalog} {path : String} {format : Format} :
    (writeCatalog catalog path format).Spares (Path.ancestors path) := by
  unfold writeCatalog
  dsimp only
  -- without a directory of its own, the file is all there is
  split
  · exact spares_create_note
  · exact spares_create_note
  · rename_i hParent
    exact .bind (adds_makeDirs hParent).mapError fun _ => spares_create_note

/-- What is read from a file is converted, and else not even a directory is made. -/
theorem convert_replaces {input output : String} {source target : Format} :
    (convert input source output target).Replaces output fun before bytes =>
      ∃ catalog, (before.readCatalog input source {}).result = .ok catalog ∧
        bytes = target.content catalog where
  spares := .behind (fun _ => rfl) fun _ => writeCatalog_spares
  holds := by
    intro before _ after h
    obtain ⟨catalog, hRead, hWrite⟩ := convert_achieves_iff.mp h
    exact ⟨_, ⟨catalog, hRead, rfl⟩, read_of_writeCatalog hWrite⟩
  alone := by
    intro before hNone
    show (andThen (reading fun tree => tree.readCatalog input source {})
      (fun catalog => writeCatalog catalog output target) before).1 = before
    rw [andThen, reading]
    rcases hRead : before.readCatalog input source {} with ⟨notices, result⟩
    cases result with
    | error e => rfl
    | ok catalog => exact absurd ⟨_, catalog, by rw [hRead], rfl⟩ hNone

theorem convertByName_replaces {input output : String} :
    (convertByName input output).Replaces output fun before bytes =>
      ∃ source target catalog, Format.ofPath? input = some source ∧
        Format.ofPath? output = some target ∧
        (before.readCatalog input source {}).result = .ok catalog ∧
        bytes = target.content catalog := by
  unfold convertByName formatOf
  cases hInput : Format.ofPath? input with
  | none => exact replaces_of_fails fun _ => ⟨_, rfl⟩
  | some source =>
    cases hOutput : Format.ofPath? output with
    | none => exact replaces_of_fails fun _ => ⟨_, rfl⟩
    | some target =>
      -- both formats are told, so it is a conversion between them
      obtain ⟨hSpares, hHolds, hAlone⟩ : (convert input source output target).Replaces output _ :=
        convert_replaces
      refine ⟨hSpares, fun before a after h => ?_, fun before hNone => ?_⟩
      · obtain ⟨bytes, ⟨catalog, hRead, hBytes⟩, hHolds⟩ := hHolds before a after h
        exact ⟨bytes, ⟨source, target, catalog, rfl, rfl, hRead, hBytes⟩, hHolds⟩
      · refine hAlone before fun ⟨bytes, catalog, hRead, hBytes⟩ => ?_
        exact hNone ⟨bytes, source, target, catalog, rfl, rfl, hRead, hBytes⟩

namespace Collection

/-- One catalogue with a format is written, and else not even a directory is made. -/
theorem write_replaces {collection : Collection} {path : String} :
    (collection.write path).Replaces path fun _ bytes =>
      ∃ catalog format, collection.catalogs = [catalog] ∧ Format.ofPath? path = some format ∧
        bytes = format.content catalog := by
  unfold write
  match hCatalogs : collection.catalogs with
  | [] => exact replaces_of_fails fun _ => ⟨_, rfl⟩
  | first :: second :: rest => exact replaces_of_fails fun _ => ⟨_, rfl⟩
  | [catalog] =>
    dsimp only
    unfold supportedFormat
    cases hPath : Format.ofPath? path with
    | none => exact replaces_of_fails fun _ => ⟨_, rfl⟩
    | some format =>
      refine ⟨.behind (fun _ => rfl) fun _ => writeCatalog_spares, ?_, ?_⟩
      · intro before _ after h
        exact ⟨_, ⟨catalog, format, rfl, rfl, rfl⟩, read_of_writeCatalog h⟩
      · intro before hNone
        exact absurd ⟨_, catalog, format, rfl, rfl, rfl⟩ hNone

/-- A collection can always be saved. -/
theorem save_replaces {collection : Collection} {path : String} :
    (collection.save path).Replaces path fun _ bytes =>
      bytes = Utf8.encode (Catalog.listToJson collection.catalogs) := by
  refine ⟨?_, ?_, fun _ hNone => absurd ⟨_, rfl⟩ hNone⟩
  · unfold save
    dsimp only
    split
    · exact spares_create_note
    · rename_i hParent
      exact .bind (adds_makeDirs hParent).mapError fun _ => spares_create_note
  · intro before _ after h
    exact ⟨_, rfl, read_of_save h⟩

end Collection

/-! ## The command -/

/-- What is read from a path is what stands there. -/
theorem FileTree.readCatalog_congr {before after : FileTree} {path : String} {format : Format}
    {mode : ReadMode} (h : after.read path = before.read path) :
    after.readCatalog path format mode = before.readCatalog path format mode := by
  unfold readCatalog parseCatalog
  rw [h]

namespace Command

/-- A file that was checked is there. -/
theorem find_of_checkFile {tree : FileTree} {path : String} (h : checkFile tree path = .ok ()) :
    ∃ content, tree.find path = .ok (.file content) := by
  unfold checkFile at h
  split at h
  · cases h
  · split at h
    · cases h
    · rename_i hFile
      rw [Bool.not_eq_true', Bool.not_eq_false] at hFile
      unfold FileTree.isFile at hFile
      split at hFile
      · rename_i content hContent
        exact ⟨content, hContent⟩
      · cases hFile

theorem prepareDir_adds {path : String} : (prepareDir path).Adds (Path.ancestors path) := by
  unfold prepareDir
  split
  · exact adds_of_alone fun _ => rfl
  · exact adds_of_alone fun _ => rfl
  · rename_i hParent
    refine .behind (fun _ => rfl) fun tree => ?_
    split
    · exact adds_of_alone fun _ => rfl
    · exact (adds_makeDirs hParent).mapError

theorem Plan.checkOutput_adds {plan : Plan} {path : String} :
    (plan.checkOutput path).Adds (Path.ancestors path) := by
  unfold checkOutput
  split
  · exact .behind (fun _ => rfl) fun _ => prepareDir_adds
  · exact prepareDir_adds

theorem Plan.check_adds {plan : Plan} {path : String} (h : plan.output = some path) :
    plan.check.Adds (Path.ancestors path) := by
  unfold check
  rw [h]
  refine .behind (fun _ => rfl) fun tree => ?_
  refine .behind (fun _ => rfl) fun _ => ?_
  refine .bind checkOutput_adds.mapError fun _ => ?_
  refine .behind (fun _ => rfl) fun _ => ?_
  refine .behind (fun _ => rfl) fun _ => ?_
  exact adds_of_alone fun _ => rfl

theorem runConvert_spares {settings : Settings} {request : ConvertRequest} :
    (runConvert settings request).Spares (Path.ancestors request.output) := by
  unfold runConvert
  refine .behind (fun _ => rfl) fun source => ?_
  refine .behind (fun _ => rfl) fun target => ?_
  -- the directory is made by the check, before anything is read
  refine .bind (Plan.check_adds rfl) fun _ => ?_
  refine .behind (fun _ => rfl) fun catalog => ?_
  refine .behind (fun _ => rfl) fun _ => ?_
  refine .behind (fun _ => rfl) fun _ => ?_
  exact spares_create.mapError.bind_sure fun _ _ => ⟨_, rfl⟩

theorem checkFile_of_checkInputs {plan : Plan} {tree : FileTree} {position : Nat} {path : String}
    {paths : List String} (h : plan.checkInputs tree position (path :: paths) = .ok ()) :
    checkFile tree path = .ok () := by
  cases hFile : checkFile tree path with
  | ok => rfl
  | error what =>
    rw [Plan.checkInputs, Plan.checkInput, hFile] at h
    cases h

/-- A plan is only checked where the files it starts from are. -/
theorem Plan.checkInputs_of_check {plan : Plan} {before after : FileTree}
    (h : plan.check.Achieves before () after) : plan.checkInputs before 1 plan.inputs = .ok () := by
  unfold check at h
  obtain ⟨tree, middle, ⟨rfl, hTree⟩, hRest⟩ := achieves_bind_iff.mp h
  obtain rfl := Except.ok.inj hTree
  obtain ⟨⟨⟩, hInputs, -⟩ := achieves_liftM_bind_iff.mp hRest
  exact hInputs

/-- What a conversion under settings writes for the files as they are: the catalogue of the input, in
the format of the output. -/
def ConvertRequest.Writes (request : ConvertRequest) (settings : Settings) (tree : FileTree)
    (bytes : Bytes) : Prop :=
  let mode : ReadMode :=
    { hint := settings.hint request.language, strict := request.strict || settings.strict }
  ∃ source target catalog,
    sideFormat .input request.input request.inputFormat = .ok source ∧
      sideFormat .output request.output request.outputFormat = .ok target ∧
      (tree.readCatalog request.input source mode).result = .ok catalog ∧
      bytes = target.content catalog

/-- What is written comes from what the input held before the directory of the output was made. -/
theorem runConvert_achieves {settings : Settings} {request : ConvertRequest}
    {before after : FileTree} {shown : Shown}
    (h : (runConvert settings request).Achieves before shown after) :
    shown.failure = none ∧
      ∃ bytes, request.Writes settings before bytes ∧ after.read request.output = .ok bytes := by
  unfold runConvert at h
  obtain ⟨source, hSource, hRest⟩ := achieves_liftM_bind_iff.mp h
  obtain ⟨target, hTarget, hRest⟩ := achieves_liftM_bind_iff.mp hRest
  obtain ⟨⟨⟩, middle, hCheck, hRest⟩ := achieves_bind_iff.mp hRest
  obtain ⟨catalog, same, hReading, hRest⟩ := achieves_bind_iff.mp hRest
  obtain ⟨hRead, rfl⟩ := achieves_reading_iff.mp (achieves_mapError_iff.mp hReading)
  obtain ⟨⟨⟩, _, ⟨rfl, -⟩, hRest⟩ := achieves_bind_iff.mp hRest
  obtain ⟨⟨⟩, _, hNote, hRest⟩ := achieves_bind_iff.mp hRest
  obtain rfl := achieves_note_iff.mp hNote
  obtain ⟨⟨⟩, _, hCreate, rfl, hShown⟩ := achieves_bind_iff.mp hRest
  obtain rfl := Except.ok.inj hShown
  -- the check makes directories, and the input was there before
  obtain ⟨content, hFind⟩ := find_of_checkFile
    (checkFile_of_checkInputs (Plan.checkInputs_of_check hCheck))
  have hGains : before.Gains (Path.ancestors request.output) middle :=
    hCheck.1 ▸ Plan.check_adds rfl before
  have hSame : middle.read request.input = before.read request.input := by
    rw [FileTree.read, FileTree.read, hFind, FileTree.find_of_kept hGains.kept hFind]
  rw [FileTree.readCatalog_congr hSame] at hRead
  refine ⟨rfl, _, ⟨source, target, catalog, hSource, hTarget, hRead, rfl⟩, ?_⟩
  exact FileTree.read_create (achieves_create_iff.mp (achieves_mapError_iff.mp hCreate))

theorem Outcome.exitCode_of (verbose : Bool) (logged : Logged Failure Shown) :
    (Outcome.of verbose logged).exitCode = 0 ↔
      ∃ shown, logged.result = .ok shown ∧ shown.failure = none := by
  unfold Outcome.of
  cases logged.result with
  | error failure => simp
  | ok shown => cases shown.failure <;> simp

/-- A conversion under the settings of a file. -/
def Invocation.convert (invocation : Invocation) (request : ConvertRequest) : Task := do
  let settings ← (reading fun tree => Settings.load tree invocation.settings).mapError .settings
  runConvert settings request

namespace Invocation

variable {invocation : Invocation} {request : ConvertRequest} {before after : FileTree}

theorem convert_spares : (invocation.convert request).Spares (Path.ancestors request.output) :=
  .behind (fun _ => rfl) fun _ => runConvert_spares

theorem convert_achieves {shown : Shown}
    (h : (invocation.convert request).Achieves before shown after) :
    shown.failure = none ∧ ∃ settings bytes,
      (Settings.load before invocation.settings).result = .ok settings ∧
        request.Writes settings before bytes ∧ after.read request.output = .ok bytes := by
  obtain ⟨settings, _, hReading, hConvert⟩ := achieves_bind_iff.mp h
  obtain ⟨hLoad, rfl⟩ := achieves_reading_iff.mp (achieves_mapError_iff.mp hReading)
  obtain ⟨hWell, bytes, hWrites⟩ := runConvert_achieves hConvert
  exact ⟨hWell, settings, bytes, hLoad, hWrites⟩

theorem run_eq_convert (h : invocation.request = .convert request) :
    invocation.run before = ((invocation.convert request before).1,
      .of invocation.verbose (invocation.convert request before).2) := by
  unfold run
  rw [h]
  rfl

/-- The command ends badly only if its conversion fails, and else the output holds what it was to
hold. -/
theorem run_convert (h : invocation.request = .convert request) :
    ((invocation.run before).2.exitCode ≠ 0 →
      before.Gains (Path.ancestors request.output) (invocation.run before).1) ∧
    ((invocation.run before).2.exitCode = 0 → ∃ settings bytes,
      (Settings.load before invocation.settings).result = .ok settings ∧
        request.Writes settings before bytes ∧
        (invocation.run before).1.read request.output = .ok bytes) := by
  rw [run_eq_convert h, ne_eq, Outcome.exitCode_of]
  cases hResult : (invocation.convert request before).2.result with
  | error failure =>
    refine ⟨fun _ => convert_spares before failure hResult, ?_⟩
    rintro ⟨shown, hShown, -⟩
    cases hShown
  | ok shown =>
    have hDone : (invocation.convert request).Achieves before shown
        (invocation.convert request before).1 := ⟨rfl, hResult⟩
    obtain ⟨hWell, hWrites⟩ := convert_achieves hDone
    exact ⟨fun hBadly => absurd ⟨shown, rfl, hWell⟩ hBadly, fun _ => hWrites⟩

end Invocation

end Command

/-! ## Everything that writes a catalogue -/

/-- **What fails spares the files.** A conversion, a collection and the command leave every file as
it was and make no new one if they fail. There may be new directories around the output, and in the
library not even those unless there is something to write. If they succeed, the output holds what
was read from the files as they were, even where it is the input that is overwritten. -/
theorem failure_spares_files :
    (∀ (input output : String) (source target : Format),
      (convert input source output target).Replaces output fun before bytes =>
        ∃ catalog, (before.readCatalog input source {}).result = .ok catalog ∧
          bytes = target.content catalog) ∧
    (∀ input output : String,
      (convertByName input output).Replaces output fun before bytes =>
        ∃ source target catalog, Format.ofPath? input = some source ∧
          Format.ofPath? output = some target ∧
          (before.readCatalog input source {}).result = .ok catalog ∧
          bytes = target.content catalog) ∧
    (∀ (collection : Collection) (output : String),
      (collection.write output).Replaces output fun _ bytes =>
        ∃ catalog format, collection.catalogs = [catalog] ∧ Format.ofPath? output = some format ∧
          bytes = format.content catalog) ∧
    (∀ (collection : Collection) (output : String),
      (collection.save output).Replaces output fun _ bytes =>
        bytes = Utf8.encode (Catalog.listToJson collection.catalogs)) ∧
    ∀ (invocation : Command.Invocation) (request : Command.ConvertRequest) (before : FileTree),
      invocation.request = .convert request →
        ((invocation.run before).2.exitCode ≠ 0 →
          before.Gains (Path.ancestors request.output) (invocation.run before).1) ∧
        ((invocation.run before).2.exitCode = 0 → ∃ settings bytes,
          (Settings.load before invocation.settings).result = .ok settings ∧
            request.Writes settings before bytes ∧
            (invocation.run before).1.read request.output = .ok bytes) :=
  ⟨fun _ _ _ _ => convert_replaces, fun _ _ => convertByName_replaces,
    fun _ _ => Collection.write_replaces, fun _ _ => Collection.save_replaces,
    fun _ _ _ => Command.Invocation.run_convert⟩

/-- A broken document is not converted, a cache is not saved to a directory that is made for it, and
a good document is converted in place. -/
theorem failure_spares_files_in_place :
    let broken : FileTree := ⟨[(["app.json"], .file (Utf8.encode "\x7b"))]⟩
    let saved := ({} : Collection).save "new/x/.." broken
    let invocation : Command.Invocation :=
      { request := .convert { input := "app.json", output := "new/app.ts" } }
    let catalog : Catalog := { language := "de" }
    let good := (writeCatalog catalog "app.json" .json {}).1
    let after := (writeCatalog catalog "app.json" .ts good).1
    (convert "app.json" .json "new/app.ts" .ts broken).1 = broken ∧
      (saved.2.result = .error (.io .isDirectory) ∧ saved.1.isDir "new/x" = true ∧
        broken.Gains (Path.ancestors "new/x/..") saved.1) ∧
      ((invocation.run broken).2.exitCode = 1 ∧
        broken.Gains (Path.ancestors "new/app.ts") (invocation.run broken).1) ∧
      (convert "app.json" .json "app.json" .ts).Achieves good () after ∧
        after.read "app.json" = .ok (Format.ts.content catalog) := by
  intro broken saved invocation catalog good after
  obtain ⟨hConvert, -, -, hSave, hCommand⟩ := failure_spares_files
  have hUnread : ¬∃ bytes catalog,
      (broken.readCatalog "app.json" .json {}).result = .ok catalog ∧
        bytes = Format.ts.content catalog := by
    rintro ⟨bytes, catalog, hRead, -⟩
    have hNone : (broken.readCatalog "app.json" .json {}).result.toOption = none := by
      decide +kernel
    rw [hRead] at hNone
    cases hNone
  have hAlone := (hConvert "app.json" "new/app.ts" .json .ts).alone broken hUnread
  have hFault : saved.2.result = .error (.io .isDirectory) := by decide +kernel
  have hMade : saved.1.isDir "new/x" = true := by decide +kernel
  have hExit : (invocation.run broken).2.exitCode = 1 := by decide +kernel
  have hFirst : (writeCatalog catalog "app.json" .json).Achieves {} () good :=
    ⟨rfl, by decide +kernel⟩
  have hRead : (good.readCatalog "app.json" .json {}).result = .ok catalog :=
    (readCatalog_of_writeCatalog hFirst).trans (by decide +kernel)
  have hDone : (convert "app.json" .json "app.json" .ts).Achieves good () after :=
    convert_achieves_iff.mpr ⟨catalog, hRead, rfl, by decide +kernel⟩
  obtain ⟨bytes, ⟨same, hSame, hBytes⟩, hHolds⟩ :=
    (hConvert "app.json" "app.json" .json .ts).holds good () after hDone
  have hCatalog : catalog = same := Except.ok.inj (hRead.symm.trans hSame)
  rw [hBytes, ← hCatalog] at hHolds
  exact ⟨hAlone, ⟨hFault, hMade, (hSave {} "new/x/..").spares broken _ hFault⟩,
    ⟨hExit, (hCommand invocation _ broken rfl).1 (by rw [hExit]; decide)⟩, hDone, hHolds⟩

end Linguist
