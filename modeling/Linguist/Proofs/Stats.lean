import Linguist.Command.Run
import Linguist.Proofs.Catalog.File
import Linguist.Proofs.Files.Effect
import Linguist.Proofs.Issue.Findings
import Linguist.Proofs.Text.Numeral
import Mathlib.Algebra.GroupWithZero.Nat

/-!
# Linguist — the numbers of a catalogue agree

Messages are counted on five walks: over all messages of a catalogue with a
number for everything at hand, by status, context by context, for the forms that
do not fit, and once more when a catalogue is checked. The first one is told here
without a walk, as what was counted of the messages so far; that is what each
message adds to. The numbers are taken as they are told, that is they are read
from the JSON by their names.

* `Tally.ofJson?` — the numbers that are told of a catalogue.
* `Stats.ofEntries` — what is counted of some messages, each number by itself.
* `Stats.add_ofEntries` / `Stats.foldl_add` — one message more, and messages in a row.
* `Catalog.lookup_statusCounts` — the table of statuses has the number of each.
* `Catalog.ofJson?_statsJson` — what is told is what is counted.
* `Catalog.statsJson_agrees` — all walks come to the same numbers.
-/

namespace Linguist

open Json (Value)

/-! ## Numbers as they are told -/

namespace Json.Value

/-- The member of an object with a name. -/
def member? (name : String) : Value → Option Value
  | .object members => members.lookup name
  | _ => none

/-- The items of a list. -/
def items? : Value → Option (List Value)
  | .list items => some items
  | _ => none

/-- The text that a value is. -/
def text? : Value → Option String
  | .text s => some s
  | _ => none

/-- The number that a value is written for. -/
def nat? : Value → Option Nat
  | .number written => Numeral.number? 10 written.toList
  | _ => none

/-- The number of a member. -/
def natAt? (name : String) (value : Value) : Option Nat :=
  (value.member? name).bind nat?

/-- A number is read as it was written. -/
theorem natAt?_of_member? {name : String} {value : Value} {n : Nat}
    (h : value.member? name = some (.ofNat n)) : value.natAt? name = some n := by
  rw [natAt?, h]
  exact Numeral.number?_eq_some_iff.mpr (Numeral.denotes_repr n)

end Json.Value

/-- What is told of a context. -/
structure ContextTally where
  name : String
  messages : Nat
  unfinished : Nat

/-- What is told of a catalogue in numbers. -/
structure Tally where
  messages : Nat
  finished : Nat
  unfinished : Nat
  obsolete : Nat
  vanished : Nat
  numerus : Nat
  emptyFinished : Nat
  pluralIssues : Nat
  perContext : List ContextTally

/-- What is told of a status. -/
def Tally.byStatus (tally : Tally) : Status → Nat
  | .finished => tally.finished
  | .unfinished => tally.unfinished
  | .obsolete => tally.obsolete
  | .vanished => tally.vanished

/-- What a value tells of a context. -/
def ContextTally.ofJson? (value : Value) : Option ContextTally := do
  let name ← (value.member? "name").bind Value.text?
  let messages ← value.natAt? "messages"
  let unfinished ← value.natAt? "unfinished"
  return { name, messages, unfinished }

/-- What a value tells of a catalogue. -/
def Tally.ofJson? (value : Value) : Option Tally := do
  let messages ← value.natAt? "messages"
  let statuses ← value.member? "by_status"
  let finished ← statuses.natAt? "finished"
  let unfinished ← statuses.natAt? "unfinished"
  let obsolete ← statuses.natAt? "obsolete"
  let vanished ← statuses.natAt? "vanished"
  let numerus ← value.natAt? "numerus"
  let emptyFinished ← value.natAt? "empty_finished"
  let pluralIssues ← value.natAt? "plural_issues"
  let contexts ← (value.member? "per_context").bind Value.items?
  let perContext ← contexts.mapM ContextTally.ofJson?
  return {
    messages, finished, unfinished, obsolete, vanished, numerus, emptyFinished, pluralIssues
    perContext }

/-! ## One walk over the messages -/

namespace Stats

/-- What is counted of some messages, each number by itself. -/
def ofEntries (entries : List (String × Message)) : Stats where
  total := entries.length
  finished := entries.countP fun entry => entry.2.status == .finished
  unfinished := entries.countP fun entry => entry.2.status == .unfinished
  obsolete := entries.countP fun entry => entry.2.status == .obsolete
  vanished := entries.countP fun entry => entry.2.status == .vanished
  numerus := entries.countP fun entry => entry.2.numerus
  emptyFinished := entries.countP fun entry =>
    entry.2.status == .finished && entry.2.target.isEmpty

/-- One message more is counted with those before it. -/
theorem add_ofEntries (entries : List (String × Message)) (entry : String × Message) :
    (ofEntries entries).add entry.2 = ofEntries (entries ++ [entry]) := by
  unfold add ofEntries
  cases hStatus : entry.2.status <;>
    simp [addStatus, hStatus, List.countP_append, List.countP_singleton]

/-- Messages in a row are counted with those before them. -/
theorem foldl_add (seen entries : List (String × Message)) :
    entries.foldl (fun stats entry => stats.add entry.2) (ofEntries seen)
      = ofEntries (seen ++ entries) := by
  induction entries generalizing seen with
  | nil => simp
  | cons entry entries ih => rw [List.foldl_cons, add_ofEntries, ih, ← List.append_cons]

end Stats

/-! ## Sums -/

/-- Every message has one of the statuses. -/
theorem sum_countP_status (entries : List (String × Message)) :
    (Status.all.map fun status => entries.countP fun entry => entry.2.status == status).sum
      = entries.length := by
  induction entries with
  | nil => rfl
  | cons entry entries ih =>
    simp only [Status.all, List.map_cons, List.map_nil, List.sum_cons, List.sum_nil,
      List.countP_cons, List.length_cons] at ih ⊢
    cases entry.2.status <;> simp <;> omega

theorem lookup_cons_getD {α : Type} [DecidableEq α] (a b : α) (n : Nat) (counts : List (α × Nat)) :
    (((b, n) :: counts).lookup a).getD 0 = if a = b then n else (counts.lookup a).getD 0 := by
  by_cases hSame : a = b
  · subst hSame
    simp
  · rw [if_neg hSame, List.lookup_cons, beq_false_of_ne hSame]

/-- What is counted in is one more, and nothing else is. -/
theorem lookup_countIn {α : Type} [DecidableEq α] (a b : α) (counts : List (α × Nat)) :
    ((countIn a counts).lookup b).getD 0
      = (counts.lookup b).getD 0 + if b = a then 1 else 0 := by
  induction counts with
  | nil =>
    rw [countIn, lookup_cons_getD]
    exact (Nat.zero_add _).symm
  | cons count counts ih =>
    obtain ⟨c, n⟩ := count
    rw [countIn]
    by_cases hHere : a = c
    · subst hHere
      rw [if_pos rfl, lookup_cons_getD, lookup_cons_getD]
      split <;> rfl
    · rw [if_neg hHere, lookup_cons_getD, lookup_cons_getD, ih]
      -- what stands in front is left as it is
      split
      · rename_i hThere
        rw [if_neg fun hSame => hHere (hSame.symm.trans hThere)]
        rfl
      · rfl

/-- A table has what was counted of every status. -/
theorem lookup_foldl_countIn (status : Status) (counts : List (Status × Nat))
    (entries : List (String × Message)) :
    ((entries.foldl (fun counts entry => countIn entry.2.status counts) counts).lookup status).getD 0
      = (counts.lookup status).getD 0
        + entries.countP fun entry => entry.2.status == status := by
  -- the table fills on the way, so the statement is about every table
  induction entries generalizing counts with
  | nil => rfl
  | cons entry entries ih =>
    rw [List.foldl_cons, ih, lookup_countIn, List.countP_cons]
    simp only [beq_iff_eq, eq_comm (a := status)]
    omega

namespace Catalog

variable (catalog : Catalog)

/-- How many messages have a status. -/
def statusCount (status : Status) : Nat :=
  catalog.messages.countP fun entry => entry.2.status == status

theorem messageCount_eq_sum : catalog.messageCount
    = (catalog.contexts.map fun context => context.messages.length).sum := by
  rw [messageCount, List.sum_eq_foldl, List.foldl_map]

theorem length_messages : catalog.messages.length = catalog.messageCount := by
  rw [messages, List.length_flatMap, messageCount_eq_sum]
  simp only [List.length_map]

theorem sum_unfinishedCounts :
    (catalog.contexts.map Context.unfinishedCount).sum = catalog.statusCount .unfinished := by
  rw [statusCount, messages, List.countP_flatMap]
  refine congrArg List.sum (List.map_congr_left fun context _ => ?_)
  rw [Function.comp_apply, List.countP_map]
  rfl

theorem stats_eq_ofEntries : catalog.stats = .ofEntries catalog.messages :=
  Stats.foldl_add [] catalog.messages

/-- The table of statuses has their numbers, and what is not in there does not occur. -/
theorem lookup_statusCounts (status : Status) :
    (catalog.statusCounts.lookup status).getD 0 = catalog.statusCount status :=
  (lookup_foldl_countIn status [] catalog.messages).trans (Nat.zero_add _)

/-- Only messages that depend on a number are reported. -/
theorem numerus_of_isSome_pluralReport? {name : String} {message : Message}
    (h : (catalog.pluralReport? name message).isSome = true) : message.numerus = true := by
  unfold pluralReport? at h
  cases hCounted : message.countedForms? with
  | none => simp [hCounted] at h
  | some found => exact (Message.countedForms?_eq_some_iff.mp hCounted).1

theorem length_pluralReports_le :
    catalog.pluralReports.length ≤ catalog.messages.countP fun entry => entry.2.numerus := by
  rw [pluralReports, List.length_filterMap_eq_countP]
  exact List.countP_mono_left fun _ _ => catalog.numerus_of_isSome_pluralReport?

end Catalog

/-! ## Issues -/

/-- Whether an issue is about the number of forms. -/
def Issue.isFormCount : Issue → Bool
  | .pluralFormCount .. => true
  | _ => false

/-- A message has no issue of its own that is about the number of its forms. -/
theorem Message.countP_isFormCount_issues (name : String) (message : Message) :
    (message.issues name).countP Issue.isFormCount = 0 := by
  obtain ⟨shape, texts, hShape, hTexts, hIssues⟩ := message.exists_issues name
  rw [hIssues, List.countP_append]
  cases hShape <;> cases hTexts <;> rfl

namespace Catalog

variable (catalog : Catalog)

/-- Each report is an issue, and no other issue is about the number of forms. -/
theorem countP_isFormCount_issues :
    catalog.issues.countP Issue.isFormCount = catalog.pluralReports.length := by
  have hContexts : catalog.contextIssues.countP Issue.isFormCount = 0 := by
    rw [contextIssues_eq_map, List.countP_map]
    exact List.countP_eq_zero.mpr fun _ _ => Bool.false_ne_true
  have hKeys : (catalog.duplicateKeys.map .duplicateKey).countP Issue.isFormCount = 0 := by
    rw [List.countP_map]
    exact List.countP_eq_zero.mpr fun _ _ => Bool.false_ne_true
  have hForms : catalog.formCountIssues.countP Issue.isFormCount
      = catalog.pluralReports.length := by
    rw [formCountIssues, List.countP_map]
    exact List.countP_eq_length.mpr fun _ _ => rfl
  have hMessages : (catalog.messages.flatMap fun entry => entry.2.issues entry.1).countP
      Issue.isFormCount = 0 := by
    refine List.countP_eq_zero.mpr fun issue hIssue => ?_
    obtain ⟨entry, -, hOwn⟩ := List.mem_flatMap.mp hIssue
    exact List.countP_eq_zero.mp (entry.2.countP_isFormCount_issues entry.1) issue hOwn
  rw [issues, List.countP_append, List.countP_append, List.countP_append, hContexts, hKeys,
    hForms]
  show 0 + (catalog.messages.flatMap fun entry => entry.2.issues entry.1).countP _ + 0 + _ = _
  rw [hMessages]
  exact Nat.zero_add _

/-! ## What is told -/

/-- What there is to tell of a catalogue in numbers. -/
def tally : Tally where
  messages := catalog.messages.length
  finished := catalog.statusCount .finished
  unfinished := catalog.statusCount .unfinished
  obsolete := catalog.statusCount .obsolete
  vanished := catalog.statusCount .vanished
  numerus := catalog.messages.countP fun entry => entry.2.numerus
  emptyFinished := catalog.messages.countP fun entry =>
    entry.2.status == .finished && entry.2.target.isEmpty
  pluralIssues := catalog.pluralReports.length
  perContext := catalog.contexts.map fun context =>
    ⟨context.name, context.messages.length, context.unfinishedCount⟩

theorem ofJson?_statsJson_context (context : Context) :
    ContextTally.ofJson? context.statsJson
      = some ⟨context.name, context.messages.length, context.unfinishedCount⟩ := by
  have hMessages : context.statsJson.natAt? "messages" = some context.messages.length :=
    Value.natAt?_of_member? rfl
  have hUnfinished : context.statsJson.natAt? "unfinished" = some context.unfinishedCount :=
    Value.natAt?_of_member? rfl
  unfold ContextTally.ofJson?
  rw [hMessages, hUnfinished]
  rfl

/-- What is told is what there is to tell. -/
theorem ofJson?_statsJson : Tally.ofJson? catalog.statsJson = some catalog.tally := by
  have hContexts : (catalog.contexts.map Context.statsJson).mapM ContextTally.ofJson?
      = some catalog.tally.perContext := by
    have hEach : ContextTally.ofJson? ∘ Context.statsJson = fun context =>
        pure ⟨context.name, context.messages.length, context.unfinishedCount⟩ :=
      funext ofJson?_statsJson_context
    rw [List.mapM_map, hEach, List.mapM_pure]
    rfl
  have hMessages : catalog.statsJson.natAt? "messages" = some catalog.stats.total :=
    Value.natAt?_of_member? rfl
  have hNumerus : catalog.statsJson.natAt? "numerus" = some catalog.stats.numerus :=
    Value.natAt?_of_member? rfl
  have hEmpty : catalog.statsJson.natAt? "empty_finished" = some catalog.stats.emptyFinished :=
    Value.natAt?_of_member? rfl
  have hPlural : catalog.statsJson.natAt? "plural_issues" = some catalog.pluralReports.length :=
    Value.natAt?_of_member? rfl
  obtain ⟨statuses, hStatuses, hFinished, hUnfinished, hObsolete, hVanished⟩ :
      ∃ statuses, catalog.statsJson.member? "by_status" = some statuses ∧
        statuses.natAt? "finished" = some catalog.stats.finished ∧
        statuses.natAt? "unfinished" = some catalog.stats.unfinished ∧
        statuses.natAt? "obsolete" = some catalog.stats.obsolete ∧
        statuses.natAt? "vanished" = some catalog.stats.vanished :=
    ⟨_, rfl, Value.natAt?_of_member? rfl, Value.natAt?_of_member? rfl,
      Value.natAt?_of_member? rfl, Value.natAt?_of_member? rfl⟩
  have hPerContext : (catalog.statsJson.member? "per_context").bind Value.items?
      = some (catalog.contexts.map Context.statsJson) := rfl
  unfold Tally.ofJson?
  rw [hMessages, hNumerus, hEmpty, hPlural, hStatuses, hPerContext]
  simp only [Option.bind_eq_bind, Option.bind_some, hFinished, hUnfinished, hObsolete, hVanished,
    hContexts]
  rw [stats_eq_ofEntries]
  rfl

theorem byStatus_tally (status : Status) :
    catalog.tally.byStatus status = catalog.statusCount status := by
  cases status <;> rfl

end Catalog

/-! ## The request -/

/-- A request is about the catalogue that is read from its file. -/
theorem Command.inputCatalog_of_readCatalog {settings : Settings} {path : String} {mode : ReadMode}
    {tree : FileTree} {format : Format} {catalog : Catalog}
    (hMode : readMode settings none false = .ok mode) (hFile : checkFile tree path = .ok ())
    (hFormat : Format.ofPath? path = some format)
    (hRead : (tree.readCatalog path format mode).result = .ok catalog) :
    (inputCatalog settings path none false tree).2.result = .ok catalog := by
  have hLoad : (loadCatalog tree path mode).result = .ok catalog := by
    unfold loadCatalog
    rw [hFile, hFormat]
    show ((tree.readCatalog path format mode).mapError (Failure.reading path)).result = _
    rw [Logged.mapError, hRead]
    rfl
  unfold inputCatalog
  rw [hMode]
  exact hLoad

/-- A request for numbers in JSON shows those of the catalogue it reads. -/
theorem Command.runStats_json {settings : Settings} {request : StatsRequest} {tree : FileTree}
    {catalog : Catalog} (hJson : request.json = true)
    (hRead : (inputCatalog settings request.input none false tree).2.result = .ok catalog) :
    (runStats settings request tree).2.result
      = .ok { lines := [catalog.statsJson.pretty] } := by
  unfold runStats
  rw [hJson]
  rcases Action.bind_run (inputCatalog settings request.input none false) _ tree
    with ⟨fault, hFault, -⟩ | ⟨read, hOk, -, hShown⟩
  · cases hFault.symm.trans hRead
  · cases hOk.symm.trans hRead
    exact hShown

/-- **The numbers agree.** What the request for numbers tells of a catalogue in JSON can be read by
name. All messages together are as many as those of each status, and as those of each context; a
status has as many as the table of statuses says, none if it is not in there; unfinished messages
are as many as in all contexts together. Only finished messages were left empty on purpose, and
only messages that depend on a number have too many or too few forms: those that are reported, one
by one, and found when the catalogue is checked. -/
theorem Catalog.statsJson_agrees (catalog : Catalog) :
    (∀ (settings : Settings) (request : Command.StatsRequest) (tree : FileTree),
      request.json = true →
      (Command.inputCatalog settings request.input none false tree).2.result = .ok catalog →
      (Command.runStats settings request tree).2.result
        = .ok { lines := [catalog.statsJson.pretty] }) ∧
    ∃ tally, Tally.ofJson? catalog.statsJson = some tally ∧
      tally.messages = catalog.messageCount ∧
      tally.messages = (Status.all.map tally.byStatus).sum ∧
      tally.perContext.map ContextTally.name = catalog.contexts.map Context.name ∧
      tally.messages = (tally.perContext.map ContextTally.messages).sum ∧
      (∀ status, tally.byStatus status = (catalog.statusCounts.lookup status).getD 0) ∧
      tally.byStatus .unfinished = (tally.perContext.map ContextTally.unfinished).sum ∧
      tally.emptyFinished ≤ tally.byStatus .finished ∧
      tally.pluralIssues = catalog.pluralReports.length ∧
      tally.pluralIssues ≤ tally.numerus ∧
      tally.pluralIssues = catalog.issues.countP Issue.isFormCount := by
  refine ⟨fun settings request tree => Command.runStats_json, catalog.tally,
    catalog.ofJson?_statsJson, catalog.length_messages, ?_, ?_, ?_, fun status => ?_, ?_, ?_, rfl,
    catalog.length_pluralReports_le, catalog.countP_isFormCount_issues.symm⟩
  · exact (sum_countP_status catalog.messages).symm
  · rw [tally, List.map_map]
    rfl
  · rw [tally, List.map_map]
    exact catalog.length_messages.trans catalog.messageCount_eq_sum
  · rw [byStatus_tally, lookup_statusCounts]
  · rw [tally, List.map_map]
    exact catalog.sum_unfinishedCounts.symm
  · exact List.countP_mono_left fun entry _ hEmpty => (Bool.and_eq_true_iff.mp hEmpty).1

/-- A context of a name that occurs before, one without messages, and two forms where there is
one. -/
theorem Catalog.statsJson_agrees_hungarian :
    let catalog : Catalog := {
      language := "hu_HU"
      contexts := [
        { name := "Main", messages := [.ofTexts "A4" "", .ofForms "%n files" ["%n a", "%n b"]] },
        { name := "Empty" },
        { name := "Main", messages := [.pending "Open", .pending "Close"] }] }
    let tree := (writeCatalog catalog "app.json" .json {}).1
    let request : Command.StatsRequest := { input := "app.json", json := true }
    (Command.inputCatalog {} request.input none false tree).2.result = .ok catalog ∧
      (Command.runStats {} request tree).2.result
        = .ok { lines := [catalog.statsJson.pretty] } ∧
      ∃ tally, Tally.ofJson? catalog.statsJson = some tally ∧ tally.messages = 4 ∧
        tally.byStatus .unfinished = 2 ∧ tally.byStatus .vanished = 0 ∧
        tally.emptyFinished ≤ 2 ∧ tally.pluralIssues = 1 := by
  intro catalog tree request
  have hWritten : (writeCatalog catalog "app.json" .json).Achieves {} () tree :=
    ⟨rfl, by decide +kernel⟩
  have hFiled : (tree.readCatalog "app.json" .json {}).result = .ok catalog :=
    (readCatalog_of_writeCatalog hWritten).trans (by decide +kernel)
  have hRead : (Command.inputCatalog {} request.input none false tree).2.result = .ok catalog :=
    Command.inputCatalog_of_readCatalog rfl (by decide +kernel) (by decide +kernel) hFiled
  obtain ⟨hShown, tally, hTally, hMessages, -, -, -, hStatus, -, hEmpty, hPlural, -, -⟩ :=
    statsJson_agrees catalog
  refine ⟨hRead, hShown {} request tree rfl hRead, tally, hTally, ?_, ?_, ?_, ?_, ?_⟩
  · exact hMessages.trans (by decide +kernel)
  · exact (hStatus .unfinished).trans (by decide +kernel)
  · exact (hStatus .vanished).trans (by decide +kernel)
  · exact hEmpty.trans_eq ((hStatus .finished).trans (by decide +kernel))
  · exact hPlural.trans (by decide +kernel)

end Linguist
