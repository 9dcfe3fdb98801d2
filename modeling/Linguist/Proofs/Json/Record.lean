import Linguist.Proofs.Json.Reading

/-!
# Linguist — written JSON objects are read

An object stands for a case with its content or for a record. The members of a
record are written in the order of its fields, and fields that are not required
may be left out; the reader takes them in any order and keeps the names it has
seen. Names differ, so a member goes to its own field, and none is seen twice.

* `decodes_bareCase`, `decodes_case` — one of several cases.
* `Record.Writes` — members that hold a record.
* `Record.decodes` — records, member by member.
-/

namespace Linguist.Json

open Decoder

/-! ## Members -/

/-- Members of an object, each behind its separator. -/
def membersText (layout : Layout) (isFirst : Bool) : List (String × Value) → String
  | [] => ""
  | (name, value) :: members =>
    separator layout isFirst ++ quoted name ++ layout.colon ++ value.render layout
      ++ membersText layout false members

theorem renderMembers_eq (layout : Layout) (members : List (String × Value)) :
    renderMembers layout members = membersText layout false members := by
  induction members with
  | nil => rfl
  | cons member members ih =>
    rw [renderMembers, membersText, ih]
    simp [separator]

theorem Layout.deeper_colon (layout : Layout) : layout.deeper.colon = layout.colon := by
  cases layout with
  | compact => rfl
  | indented depth => rfl

/-- Between its brackets an object holds the members and then blanks. -/
theorem encode_render_object (layout : Layout) (members : List (String × Value)) :
    ∃ blanks, AreBlank blanks ∧ Utf8.encode ((Value.object members).render layout)
      = 0x7B :: (Utf8.encode (membersText layout.deeper true members) ++ (blanks ++ [0x7D])) := by
  have hOpen : Utf8.encode "\x7b" = [0x7B] := rfl
  have hClose : Utf8.encode "\x7d" = [0x7D] := rfl
  cases members with
  | nil => exact ⟨[], areBlank_nil, by rw [Value.render]; rfl⟩
  | cons member members =>
    refine ⟨Utf8.encode layout.lineBreak, areBlank_lineBreak layout, ?_⟩
    rw [Value.render, renderMembers_eq, membersText]
    simp [separator, hOpen, hClose, Layout.deeper_colon]

theorem startsValue_object (layout : Layout) (members : List (String × Value)) :
    StartsValue (Utf8.encode ((Value.object members).render layout)) := by
  obtain ⟨blanks, -, hBytes⟩ := encode_render_object layout members
  rw [hBytes]
  exact ⟨0x7B, by decide, rfl⟩

namespace Decoder

variable {layout : Layout} {isFirst : Bool}

theorem gives_name? {cursor : Cursor} {name : String} {rest : Bytes}
    (hRest : cursor.rest
      = Utf8.encode (separator layout isFirst) ++ (Utf8.encode (quoted name) ++ rest)) :
    (name? isFirst).Gives cursor (some name) ⟨rest, false⟩ := by
  have hStarts : StartsValue (Utf8.encode (quoted name)) := by
    rw [encode_quoted]
    exact ⟨0x22, by decide, rfl⟩
  have hQuoted : Utf8.encode (quoted name) ++ rest = 0x22 :: (inside name ++ 0x22 :: rest) := by
    rw [encode_quoted]
    simp
  have hMember : (hasMember isFirst).Gives cursor true
      ⟨0x22 :: (inside name ++ 0x22 :: rest), true⟩ := by
    unfold hasMember
    cases isFirst with
    | true =>
      have hAhead := Cursor.ahead_of_first hStarts hRest
      rw [hQuoted] at hAhead
      exact (gives_skipBlanks hAhead).bind (gives_pure true _)
    | false =>
      obtain ⟨behind, hAhead, hName⟩ := Cursor.ahead_of_next hStarts hRest
      rw [hQuoted] at hName
      refine (gives_skipBlanks hAhead).bind ((gives_eat _ _ _).bind ?_)
      exact (gives_skipBlanks hName).bind (gives_pure true _)
  refine hMember.bind ((gives_eat _ _ _).bind ?_)
  exact (gives_text name rest false).bind (gives_pure _ _)

theorem gives_name?_end {cursor : Cursor} {blanks rest : Bytes} (hBlanks : AreBlank blanks)
    (hRest : cursor.rest = blanks ++ 0x7D :: rest) :
    (name? isFirst).Gives cursor none ⟨0x7D :: rest, true⟩ := by
  have hAhead : cursor.ahead = 0x7D :: rest := Cursor.ahead_of_mark hRest hBlanks (by decide)
  have hMember : (hasMember isFirst).Gives cursor false ⟨0x7D :: rest, true⟩ :=
    (gives_skipBlanks hAhead).bind (gives_pure false _)
  exact hMember.bind (gives_pure none _)

/-- What stands behind a colon is ahead once the colon is taken, with a blank between or not. -/
theorem gives_colon {written rest : Bytes} (peeked : Bool) (hStarts : StartsValue written) :
    ∃ after, colon.Gives ⟨Utf8.encode layout.colon ++ (written ++ rest), peeked⟩ () after
      ∧ after.ahead = written ++ rest := by
  obtain ⟨blanks, hBlanks, hColon⟩ :
      ∃ blanks, AreBlank blanks ∧ Utf8.encode layout.colon = 0x3A :: blanks := by
    cases layout with
    | compact => exact ⟨[], areBlank_nil, rfl⟩
    | indented depth =>
      have hBytes : Utf8.encode ": " = [0x3A, 0x20] := rfl
      refine ⟨[0x20], fun b hb => ?_, hBytes⟩
      rw [List.mem_singleton.mp hb]
      decide
  rw [hColon, List.cons_append]
  have hMark : (⟨0x3A :: (blanks ++ (written ++ rest)), peeked⟩ : Cursor).ahead
      = 0x3A :: (blanks ++ (written ++ rest)) :=
    Cursor.ahead_of_mark rfl areBlank_nil (by decide)
  refine ⟨⟨blanks ++ (written ++ rest), false⟩, ?_, Cursor.ahead_of_rest rfl hBlanks hStarts⟩
  exact (gives_skipBlanks hMark).bind (gives_eat _ _ _)

theorem gives_closeObject (rest : Bytes) (peeked : Bool) :
    closeObject.Gives ⟨0x7D :: rest, peeked⟩ () ⟨rest, false⟩ := by
  have hAhead : (⟨0x7D :: rest, peeked⟩ : Cursor).ahead = 0x7D :: rest :=
    Cursor.ahead_of_mark rfl areBlank_nil (by decide)
  exact (gives_skipBlanks hAhead).bind (gives_eat _ _ _)

end Decoder

/-! ## Cases -/

section Cases

variable {α : Type} {cases : List String} {content : String → Decoder α} {bare : String → Option α}
  {name : String} {a : α}

theorem gives_knownCase (h : name ∈ cases) (cursor : Cursor) :
    (knownCase cases name).Gives cursor name cursor := by
  rw [knownCase, if_pos h]
  exact gives_pure name cursor

theorem decodes_bareCase (hCase : name ∈ cases) (hBare : bare name = some a) :
    Decodes (caseOf cases content bare) (.text name) a where
  starts := (decodes_string name).starts
  reads layout cursor rest h := by
    have hAhead : cursor.ahead = 0x22 :: (inside name ++ 0x22 :: rest) := by
      rw [h, Value.render, encode_quoted]
      simp
    refine ⟨⟨rest, false⟩, (gives_start hAhead).bind ((gives_eat _ _ _).bind ?_), rfl⟩
    refine (gives_text name rest false).bind ((gives_knownCase hCase _).bind ?_)
    rw [hBare]
    exact gives_pure a _

theorem decodes_case {value : Value} (hCase : name ∈ cases)
    (hContent : Decodes (content name) value a) :
    Decodes (caseOf cases content bare) (.object [(name, value)]) a where
  starts layout := startsValue_object layout _
  reads layout cursor rest h := by
    obtain ⟨blanks, hBlanks, hBytes⟩ := encode_render_object layout [(name, value)]
    have hStarts := hContent.starts layout.deeper
    have hBody : cursor.ahead = 0x7B :: (Utf8.encode (separator layout.deeper true)
        ++ (Utf8.encode (quoted name) ++ (Utf8.encode layout.deeper.colon
        ++ (Utf8.encode (value.render layout.deeper) ++ (blanks ++ 0x7D :: rest))))) := by
      rw [h, hBytes]
      simp [membersText]
    obtain ⟨before, hColon, hAhead⟩ := gives_colon false hStarts
    obtain ⟨behind, hRead, hRest⟩ := hContent.reads layout.deeper before _ hAhead
    have hEnd : behind.ahead = 0x7D :: rest :=
      Cursor.ahead_of_mark hRest hBlanks (by decide)
    refine ⟨⟨rest, false⟩, (gives_start hBody).bind ((gives_eat _ _ _).bind ?_), rfl⟩
    refine (gives_name? rfl).bind ((gives_knownCase hCase _).bind (hColon.bind (hRead.bind ?_)))
    exact (gives_skipBlanks hEnd).bind ((gives_eat _ _ _).bind (gives_pure a _))

end Cases

/-! ## Records -/

variable {α : Type}

/-- Members that turn a record into another, field by field in the order of the fields. -/
inductive Record.Writes : List (Field α) → α → List (String × Value) → α → Prop
  | done (a : α) : Writes [] a [] a
  | skip {field : Field α} {fields : List (Field α)} {a b : α} {members : List (String × Value)} :
    field.required = false → Writes fields a members b → Writes (field :: fields) a members b
  | take {field : Field α} {fields : List (Field α)} {a between b : α} {value : Value}
    {members : List (String × Value)} :
    Decodes (field.read a) value between → Writes fields between members b →
    Writes (field :: fields) a ((field.name, value) :: members) b

namespace Record

variable {record : Record α} {fields : List (Field α)} {a b : α} {members : List (String × Value)}

/-- The members of a record are read one after the other, up to the bracket. The names seen are
those of fields in front of the ones to come, the required ones among them. -/
theorem gives_members (h : Writes fields a members b) {before : List (Field α)}
    (hFields : record.fields = before ++ fields)
    (hDistinct : (record.fields.map Field.name).Nodup) {seen : List String}
    (hSeen : seen ⊆ before.map Field.name)
    (hRequired : ∀ field ∈ before, field.required = true → field.name ∈ seen)
    {layout : Layout} {blanks rest : Bytes} (hBlanks : AreBlank blanks) {fuel : Nat}
    {cursor : Cursor} (hFuel : cursor.rest.length < fuel)
    (hRest : cursor.rest
      = Utf8.encode (membersText layout seen.isEmpty members) ++ (blanks ++ 0x7D :: rest)) :
    (record.members a seen fuel).Gives cursor b ⟨0x7D :: rest, true⟩ := by
  induction h generalizing before seen fuel cursor with
  | done a =>
    obtain ⟨fuel, rfl⟩ := Nat.exists_eq_add_one_of_ne_zero (Nat.ne_zero_of_lt hFuel)
    have hNone : (record.fields.find? fun field => field.required && !seen.contains field.name)
        = none := by
      rw [hFields, List.append_nil, List.find?_eq_none]
      intro field hField hMissing
      rw [Bool.and_eq_true] at hMissing
      have hIn := hRequired field hField hMissing.1
      simp [hIn] at hMissing
    refine (gives_name?_end hBlanks hRest).bind ?_
    dsimp only
    rw [hNone]
    exact gives_pure a _
  | @skip field fields a b members hOptional _ ih =>
    -- nothing is read for the field, so it only moves to those in front
    have hMoved : record.fields = (before ++ [field]) ++ fields := by
      rw [hFields, List.append_assoc, List.singleton_append]
    refine ih hMoved ?_ ?_ hFuel hRest
    · intro name hName
      rw [List.map_append]
      exact List.mem_append_left _ (hSeen hName)
    · intro other hOther hNeeded
      rcases List.mem_append.mp hOther with hOther | hOther
      · exact hRequired other hOther hNeeded
      · rw [List.mem_singleton.mp hOther, hOptional] at hNeeded
        exact absurd hNeeded Bool.false_ne_true
  | @take field fields a between b value members hValue _ ih =>
    obtain ⟨fuel, rfl⟩ := Nat.exists_eq_add_one_of_ne_zero (Nat.ne_zero_of_lt hFuel)
    have hNames := hDistinct
    rw [hFields, List.map_append, List.map_cons, List.nodup_append] at hNames
    obtain ⟨-, -, hApart⟩ := hNames
    have hNew : field.name ∉ seen := fun hIn =>
      hApart _ (hSeen hIn) _ List.mem_cons_self rfl
    have hFound : record.fields.find? (·.name == field.name) = some field := by
      rw [hFields, List.find?_append, List.find?_eq_none.mpr, Option.none_or,
        List.find?_cons_of_pos (by simp)]
      intro other hOther hSame
      exact hApart _ (List.mem_map_of_mem hOther) _ List.mem_cons_self (by simpa using hSame)
    have hStarts := hValue.starts layout
    rw [membersText] at hRest
    simp only [Utf8.encode_append, List.append_assoc] at hRest
    obtain ⟨start, hColon, hAhead⟩ := gives_colon false hStarts
    obtain ⟨after, hRead, hAfter⟩ := hValue.reads layout start _ hAhead
    refine (gives_name? hRest).bind ?_
    dsimp only
    rw [hFound]
    dsimp only
    rw [if_neg (by simpa using hNew)]
    refine hColon.bind (hRead.bind ?_)
    have hMoved : record.fields = (before ++ [field]) ++ fields := by
      rw [hFields, List.append_assoc, List.singleton_append]
    refine ih hMoved ?_ ?_ ?_ hAfter
    · intro name hName
      rw [List.map_append]
      rcases List.mem_cons.mp hName with rfl | hName
      · exact List.mem_append_right _ List.mem_cons_self
      · exact List.mem_append_left _ (hSeen hName)
    · intro other hOther hNeeded
      rcases List.mem_append.mp hOther with hOther | hOther
      · exact List.mem_cons_of_mem _ (hRequired other hOther hNeeded)
      · rw [List.mem_singleton.mp hOther]
        exact List.mem_cons_self
    · obtain ⟨c, others, hBytes, -⟩ := hStarts.exists_first
      rw [hRest, hBytes] at hFuel
      rw [hAfter]
      simp only [List.length_append, List.length_cons] at hFuel ⊢
      omega

/-- **A record is read from the members that hold it.** -/
theorem decodes (h : Writes record.fields record.blank members b)
    (hDistinct : (record.fields.map Field.name).Nodup) :
    Decodes record.decode (.object members) b where
  starts layout := startsValue_object layout members
  reads layout cursor rest hAhead := by
    obtain ⟨blanks, hBlanks, hBytes⟩ := encode_render_object layout members
    rw [hBytes, List.cons_append, List.append_assoc, List.append_assoc] at hAhead
    generalize hBody : Utf8.encode (membersText layout.deeper true members)
      ++ (blanks ++ ([0x7D] ++ rest)) = body at hAhead
    refine ⟨⟨rest, false⟩, (gives_start hAhead).bind ((gives_eat _ _ _).bind ?_), rfl⟩
    -- as many bytes are left as the loop may take members, and one round more
    have hMembers : (record.members record.blank [] (body.length + 1)).Gives ⟨body, false⟩ b
        ⟨0x7D :: rest, true⟩ :=
      gives_members h (List.nil_append _).symm hDistinct (List.nil_subset _)
        (fun _ hField => absurd hField List.not_mem_nil) hBlanks (Nat.lt_succ_self _) hBody.symm
    exact Gives.enclosed (Gives.bind rfl hMembers) (gives_closeObject rest true)

end Record

end Linguist.Json
