import Linguist.Catalog.Json
import Linguist.Proofs.Json.Record

/-!
# Linguist — catalogues in JSON are read as they were

What is left out of an object is what its record starts with, so a field that is
not there comes back as it was: no text rather than an empty one, no items, no
flag. From this and the order of the fields each record follows from the records
inside it.

* `Record.Writes.optional`, `Record.Writes.list`, `Record.Writes.flag` — fields that may be left
  out.
* `Location.decodes_json` up to `Catalog.decodes_json` — one lemma for each type.
* `Catalog.ofJson_toJson`, `Catalog.listOfJson_listToJson` — whole documents.
-/

namespace Linguist

open Json

/-! ## Fields that may be left out -/

namespace Json.Record.Writes

variable {α β : Type} {fields : List (Field α)} {a b : α} {members : List (String × Value)}

theorem optional {name : String} {set : α → Option String → α} {s : Option String}
    (hUnset : set a none = a) (h : Writes fields (set a s) members b) :
    Writes (optionalField name set :: fields) a (optionalMember name s ++ members) b := by
  cases s with
  | none =>
    rw [hUnset] at h
    exact skip rfl h
  | some s => exact take ((decodes_string s).optional.map (set a)) h

theorem list {name : String} {item : Decoder β} {set : α → List β → α} {json : β → Value}
    {items : List β} (hUnset : set a [] = a) (hItems : ∀ i ∈ items, Decodes item (json i) i)
    (h : Writes fields (set a items) members b) :
    Writes (listField name item set :: fields) a
      (listMember name (items.map json) ++ members) b := by
  cases items with
  | nil =>
    rw [hUnset] at h
    exact skip rfl h
  | cons i items =>
    exact take ((decodes_list_map hItems).map (set a)) h

theorem flag {name : String} {set : α → Bool → α} {isSet : Bool} (hUnset : set a false = a)
    (h : Writes fields (set a isSet) members b) :
    Writes ({ name, read := fun a => return set a (← Decoder.boolean) } :: fields) a
      ((if isSet then [(name, .bool true)] else []) ++ members) b := by
  cases isSet with
  | false =>
    rw [hUnset] at h
    exact skip rfl h
  | true => exact take (decodes_true.map (set a)) h

end Json.Record.Writes

/-! ## Records -/

theorem Target.decodes_json (target : Target) : Decodes Target.decode target.json target := by
  cases target with
  | singular s =>
    have hContent : Decodes (decodeCase "singular") (.text s) (.singular s) :=
      (decodes_string s).map Target.singular
    exact decodes_case (by decide) hContent
  | plural forms =>
    have hForms : Decodes (Decoder.list Decoder.string) (.list (forms.map .text)) forms :=
      decodes_list_map fun s _ => decodes_string s
    have hContent : Decodes (decodeCase "plural") (.list (forms.map .text)) (.plural forms) :=
      hForms.map Target.plural
    exact decodes_case (by decide) hContent

theorem Status.decodes_name (status : Status) :
    Decodes Status.decode (.text status.name) status :=
  decodes_bareCase (by cases status <;> decide) (by cases status <;> rfl)

theorem Location.decodes_json (location : Location) :
    Decodes Location.record.decode location.json location := by
  refine Record.decodes ?_ (by decide)
  rw [← List.append_nil (_ ++ _), List.append_assoc]
  exact .optional rfl (.optional rfl (.done location))

theorem Message.decodes_json (message : Message) :
    Decodes Message.record.decode message.json message := by
  refine Record.decodes ?_ (by decide)
  rw [← List.append_nil (_ ++ _)]
  simp only [List.append_assoc, List.cons_append, List.nil_append]
  refine .optional rfl ?_
  refine .take ((decodes_string message.source).map _) ?_
  refine .optional rfl ?_
  refine .take (message.target.decodes_json.map _) ?_
  refine .take (message.status.decodes_name.map _) ?_
  refine .flag rfl ?_
  refine .list rfl (fun location _ => location.decodes_json) ?_
  exact .optional rfl (.optional rfl (.optional rfl (.optional rfl (.done message))))

theorem Context.decodes_json (context : Context) :
    Decodes Context.record.decode context.json context := by
  refine Record.decodes ?_ (by decide)
  rw [← List.append_nil (_ ++ _)]
  simp only [List.append_assoc, List.cons_append, List.nil_append]
  refine .take ((decodes_string context.name).map _) (.optional rfl (.optional rfl ?_))
  exact .list rfl (fun message _ => message.decodes_json) (.done context)

theorem Catalog.decodes_json (catalog : Catalog) :
    Decodes Catalog.record.decode catalog.json catalog := by
  refine Record.decodes ?_ (by decide)
  rw [← List.append_nil (_ ++ _)]
  simp only [List.append_assoc, List.cons_append, List.nil_append]
  refine .take ((decodes_string catalog.language).map _) (.optional rfl (.optional rfl ?_))
  exact .list rfl (fun context _ => context.decodes_json) (.done catalog)

/-! ## Documents -/

namespace Catalog

/-- **A catalogue is read from its document as it was.** -/
theorem ofJson_toJson (catalog : Catalog) :
    ofJson (Utf8.encode catalog.toJson) = .ok catalog :=
  catalog.decodes_json.run_eq _

/-- **A list of catalogues is read from its document as it was.** -/
theorem listOfJson_listToJson (catalogs : List Catalog) :
    listOfJson (Utf8.encode (listToJson catalogs)) = .ok catalogs :=
  (decodes_list_map fun catalog _ => catalog.decodes_json).run_eq _

end Catalog

end Linguist
