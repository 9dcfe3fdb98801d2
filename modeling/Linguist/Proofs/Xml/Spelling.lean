import Linguist.Proofs.Text.Numeral
import Linguist.Proofs.Xml.Rendering

/-!
# Linguist — spellings of character data

A text can be put into a document in pieces, each as it is, by reference, as a
CDATA section or as a `byte` element, with comments and instructions in between.
Pieces without angle brackets run together into one event of character data, the
others are events of their own and cut it.

* `Spelling` — a piece of text as it is written, and the characters it stands for.
* `Content.ofSpellings` — spelled text as content.
* `resolves_written` — references are resolved, and nothing else changes.
* `feed_spelled` — spelled text yields the events of its content.
-/

namespace Linguist.Xml

/-- A piece of a document that stands for some characters, or for none. -/
inductive Spelling where
  /-- characters as they are -/
  | literal (s : String)
  /-- a character by its name -/
  | named (name : String) (c : Char)
  | decimal (digits : String) (c : Char)
  | hexadecimal (digits : String) (c : Char)
  | cdata (s : String)
  /-- a self-closed `byte` element -/
  | byte (value : String) (c : Char)
  | comment (s : String)
  | instruction (s : String)

namespace Spelling

/-- A piece as it stands in a document. -/
def written : Spelling → String
  | .literal s => s
  | .named name _ => "&" ++ name ++ ";"
  | .decimal digits _ => "&#" ++ digits ++ ";"
  | .hexadecimal digits _ => "&#x" ++ digits ++ ";"
  | .cdata s => "<![CDATA[" ++ s ++ "]]>"
  | .byte value _ => "<byte value=\"" ++ value ++ "\"/>"
  | .comment s => "<!--" ++ s ++ "-->"
  | .instruction s => "<?" ++ s ++ "?>"

/-- The characters a piece stands for. -/
def text : Spelling → String
  | .literal s | .cdata s => s
  | .named _ c | .decimal _ c | .hexadecimal _ c | .byte _ c => c.toString
  | .comment _ | .instruction _ => ""

/-- Whether the value of a `byte` element is the number of a character, in decimal or behind a mark
in hexadecimal. -/
inductive IsByteValue : String → Nat → Prop
  | decimal {digits : String} {n : Nat} :
      Numeral.Denotes 10 digits.toList n → IsByteValue digits n
  | hexadecimal {digits : String} {n : Nat} :
      Numeral.Denotes 16 digits.toList n → IsByteValue ("x" ++ digits) n
  | prefixed {digits : String} {n : Nat} :
      Numeral.Denotes 16 digits.toList n → IsByteValue ("0x" ++ digits) n

/-- Whether a piece can stand for its characters: what is written as it is must not mean anything
else there, and a number must be that of the character. NUL has no reference. -/
def IsValid : Spelling → Prop
  | .literal s => '<' ∉ s.toList ∧ '&' ∉ s.toList
  | .named name c =>
    (name, c) ∈ [("lt", '<'), ("gt", '>'), ("amp", '&'), ("apos", '\''), ("quot", '"')]
  | .decimal digits c => Numeral.Denotes 10 digits.toList c.toNat ∧ c ≠ '\x00'
  | .hexadecimal digits c => Numeral.Denotes 16 digits.toList c.toNat ∧ c ≠ '\x00'
  | .cdata s => ¬ "]]>".toList <:+: s.toList
  | .byte value c => IsByteValue value c.toNat
  | .comment s => ¬ "-->".toList <:+: s.toList
  | .instruction s => ¬ "?>".toList <:+: '?' :: s.toList

/-- The piece of content that a piece with angle brackets is. -/
def markup? : Spelling → Option Content
  | .literal _ | .named _ _ | .decimal _ _ | .hexadecimal _ _ => none
  | .cdata s => some (.cdata (Utf8.encode s))
  | .byte value _ => some (.empty (Tag.ofName "byte" [("value", value)]))
  | .comment s => some (.comment (Utf8.encode s))
  | .instruction s => some (.instruction (Utf8.encode s))

/-- Pieces in a row, as they stand in a document. -/
def writtenAll (pieces : List Spelling) : String :=
  String.join (pieces.map written)

/-- The characters that pieces in a row stand for. -/
def textAll (pieces : List Spelling) : String :=
  String.join (pieces.map text)

theorem writtenAll_cons (piece : Spelling) (rest : List Spelling) :
    writtenAll (piece :: rest) = piece.written ++ writtenAll rest := by
  rw [writtenAll, List.map_cons, String.join_cons, writtenAll]

theorem textAll_cons (piece : Spelling) (rest : List Spelling) :
    textAll (piece :: rest) = piece.text ++ textAll rest := by
  rw [textAll, List.map_cons, String.join_cons, textAll]

end Spelling

/-- The content of spelled text behind the character data `run`. -/
def Content.ofSpellings (run : Bytes) : List Spelling → List Content
  | [] => Content.ofRun run
  | piece :: rest =>
    match piece.markup? with
    | none => Content.ofSpellings (run ++ Utf8.encode piece.written) rest
    | some content => Content.ofRun run ++ content :: Content.ofSpellings [] rest

/-! ## Character data -/

/-- Whether character data resolves to some characters, whatever follows it. -/
def Resolves (cs ds : List Char) : Prop :=
  ∀ total offset rest, ∃ offset', resolveFrom total offset none (cs ++ rest)
    = (ds ++ ·) <$> resolveFrom total offset' none rest

theorem Resolves.nil : Resolves [] [] := by
  intro total offset rest
  refine ⟨offset, ?_⟩
  cases h : resolveFrom total offset none rest <;> simp [h]

theorem Resolves.append {a b x y : List Char} (hFirst : Resolves a x) (hSecond : Resolves b y) :
    Resolves (a ++ b) (x ++ y) := by
  intro total offset rest
  obtain ⟨middle, hMiddle⟩ := hFirst total offset (b ++ rest)
  obtain ⟨last, hLast⟩ := hSecond total middle rest
  refine ⟨last, ?_⟩
  rw [List.append_assoc, hMiddle, hLast, Functor.map_map]
  simp only [List.append_assoc]

/-- Character data with nothing behind it is the text it resolves to. -/
theorem Resolves.characters_eq {s t : String} (h : Resolves s.toList t.toList) :
    characters (Utf8.encode s) = .ok t := by
  obtain ⟨offset', hRest⟩ := h s.utf8ByteSize 0 []
  rw [List.append_nil] at hRest
  have hResolve : resolve s = .ok t := by
    rw [resolve, hRest]
    simp [resolveFrom, Except.map, Functor.map]
  rw [characters, Utf8.decode_encode]
  simp [hResolve, Except.mapError]

/-- Characters that are not the start of a reference stand for themselves. -/
theorem resolves_self {cs : List Char} (h : '&' ∉ cs) : Resolves cs cs := by
  induction cs with
  | nil => exact .nil
  | cons c cs ih =>
    obtain ⟨hHere, hOthers⟩ := not_or.mp (List.mem_cons.not.mp h)
    have hOne : Resolves [c] [c] := by
      intro total offset rest
      refine ⟨offset + c.utf8Size, ?_⟩
      rw [List.singleton_append, resolveFrom]
      simp [Ne.symm hHere]
    exact hOne.append (ih hOthers)

/-- The name of a reference is collected up to its end. -/
theorem exists_resolveFrom_name {name : List Char} (hName : ∀ d ∈ name, d ≠ ';' ∧ d ≠ '&')
    (total offset start : Nat) (pending rest : List Char) :
    ∃ stop, resolveFrom total offset (some (start, pending)) (name ++ rest)
      = resolveFrom total stop (some (start, name.reverse ++ pending)) rest := by
  induction name generalizing offset pending with
  | nil => exact ⟨offset, rfl⟩
  | cons d name ih =>
    obtain ⟨⟨hEnd, hStart⟩, hOthers⟩ := List.forall_mem_cons.mp hName
    obtain ⟨stop, hStop⟩ := ih hOthers (offset + d.utf8Size) (d :: pending)
    refine ⟨stop, ?_⟩
    rw [List.cons_append, resolveFrom]
    simp only [hEnd, hStart, if_false]
    rw [hStop]
    simp

/-- A reference resolves to the character that its name means. -/
theorem resolves_reference {name : List Char} {c : Char}
    (hName : ∀ d ∈ name, d = '#' ∨ d.isAlphanum = true)
    (hMeans : ∀ start stop, resolveName start stop name = .ok c) :
    Resolves ('&' :: name ++ [';']) [c] := by
  intro total offset rest
  have hInside : ∀ d ∈ name, d ≠ ';' ∧ d ≠ '&' := by
    intro d hd
    constructor <;> rintro rfl <;> exact absurd (hName _ hd) (by decide)
  obtain ⟨stop, hStop⟩ := exists_resolveFrom_name hInside total (offset + 1) offset [] (';' :: rest)
  refine ⟨stop + 1, ?_⟩
  have hWhole : '&' :: name ++ [';'] ++ rest = '&' :: (name ++ ';' :: rest) := by simp
  rw [hWhole, resolveFrom]
  simp only [if_true]
  rw [hStop, List.append_nil, resolveFrom]
  simp [hMeans]

theorem bracket_not_mem_reference {name : List Char}
    (hName : ∀ d ∈ name, d = '#' ∨ d.isAlphanum = true) : '<' ∉ '&' :: name ++ [';'] := by
  have hInside : '<' ∉ name := fun hd => absurd (hName _ hd) (by decide)
  simp [hInside]

/-! ## References by number -/

/-- No digit means something in a reference or in markup. -/
theorem isAlphanum_of_digit? {radix d : Nat} {c : Char} (h : Numeral.digit? radix c = some d) :
    c.isAlphanum = true := by
  show (c.isUpper || c.isLower || c.isDigit) = true
  rcases (Numeral.digit?_bounds h).2 with hFigure | ⟨-, hCapital | hSmall⟩
  · simp only [Char.isDigit_iff_toNat.mpr hFigure, Bool.or_true]
  · have hUpper : c.isUpper = true := decide_eq_true hCapital
    simp only [hUpper, Bool.true_or]
  · have hLower : c.isLower = true :=
      Bool.and_eq_true_iff.mpr ⟨decide_eq_true hSmall.1, decide_eq_true hSmall.2⟩
    simp only [hLower, Bool.or_true, Bool.true_or]

theorem isAlphanum_of_denotes {radix n : Nat} {cs : List Char} (h : Numeral.Denotes radix cs n) :
    ∀ c ∈ cs, c.isAlphanum = true := by
  intro c hc
  obtain ⟨d, hd⟩ := Numeral.exists_digit_of_mem h c hc
  exact isAlphanum_of_digit? hd

/-- What a reader of references finds in the digits of a character that is not NUL. -/
theorem number_of_denotes {radix : Nat} {cs : List Char} {c : Char}
    (h : Numeral.Denotes radix cs c.toNat) (hNul : c ≠ '\x00') :
    Numeral.unsigned radix Numeral.limit32 cs = .ok c.toNat ∧ c.toNat ≠ 0 ∧
      ∀ rest, cs ≠ '+' :: rest ∧ cs ≠ '-' :: rest := by
  have hAlphanum := isAlphanum_of_denotes h
  refine ⟨Numeral.unsigned_of_denotes h (isScalar_toNat c).2,
    fun hZero => hNul (Char.toNat_inj.mp hZero), fun rest => ⟨?_, ?_⟩⟩
  · rintro rfl
    exact absurd (hAlphanum '+' List.mem_cons_self) (by decide)
  · rintro rfl
    exact absurd (hAlphanum '-' List.mem_cons_self) (by decide)

theorem charRef_decimal {cs : List Char} {c : Char} (h : Numeral.Denotes 10 cs c.toNat)
    (hNul : c ≠ '\x00') : charRef cs = .ok c := by
  obtain ⟨hUnsigned, hZero, hSign⟩ := number_of_denotes h hNul
  have hHex : ∀ rest, cs ≠ 'x' :: rest := by
    rintro rest rfl
    exact Numeral.x_not_mem_of_denotes h List.mem_cons_self
  unfold charRef
  split
  rename_i hSplit
  split at hSplit
  · exact absurd rfl (hHex _)
  · cases hSplit
    split
    · exact absurd rfl (hSign _).1
    · exact absurd rfl (hSign _).2
    · simp [hUnsigned, hZero, (isScalar_toNat c).1, Char.ofNat_toNat]

theorem charRef_hexadecimal {cs : List Char} {c : Char} (h : Numeral.Denotes 16 cs c.toNat)
    (hNul : c ≠ '\x00') : charRef ('x' :: cs) = .ok c := by
  obtain ⟨hUnsigned, hZero, hSign⟩ := number_of_denotes h hNul
  unfold charRef
  dsimp only
  split
  · rename_i hPlus
    exact absurd hPlus (hSign _).1
  · rename_i hMinus
    exact absurd hMinus (hSign _).2
  · simp [hUnsigned, hZero, (isScalar_toNat c).1, Char.ofNat_toNat]

/-- A reference by number resolves to its character. -/
theorem resolves_number {number : List Char} {c : Char}
    (hAlphanum : ∀ d ∈ number, d.isAlphanum = true) (hNumber : charRef number = .ok c) :
    Resolves ('&' :: '#' :: number ++ [';']) [c] ∧ '<' ∉ '&' :: '#' :: number ++ [';'] := by
  have hName : ∀ d ∈ '#' :: number, d = '#' ∨ d.isAlphanum = true :=
    List.forall_mem_cons.mpr ⟨.inl rfl, fun d hd => .inr (hAlphanum d hd)⟩
  exact ⟨resolves_reference hName fun _ _ => by simp [resolveName, hNumber, Except.mapError],
    bracket_not_mem_reference hName⟩

namespace Spelling

theorem toList_toString (c : Char) : c.toString.toList = [c] := by
  simp [Char.toString]

/-- A piece without angle brackets is character data that resolves to its characters. -/
theorem resolves_written {piece : Spelling} (hValid : piece.IsValid) (hText : piece.markup? = none) :
    Resolves piece.written.toList piece.text.toList ∧ '<' ∉ piece.written.toList := by
  cases piece with
  | literal s => exact ⟨resolves_self hValid.2, hValid.1⟩
  | named name c =>
    have hWritten : (written (.named name c)).toList = '&' :: name.toList ++ [';'] := by
      simp [written]
    have hName : (∀ d ∈ name.toList, d = '#' ∨ d.isAlphanum = true) ∧
        ∀ start stop, resolveName start stop name.toList = .ok c := by
      simp only [IsValid, List.mem_cons, Prod.mk.injEq, List.not_mem_nil, or_false] at hValid
      rcases hValid with ⟨rfl, rfl⟩ | ⟨rfl, rfl⟩ | ⟨rfl, rfl⟩ | ⟨rfl, rfl⟩ | ⟨rfl, rfl⟩ <;>
        exact ⟨forall_of_all (by decide), fun _ _ => rfl⟩
    rw [hWritten, text, toList_toString]
    exact ⟨resolves_reference hName.1 hName.2, bracket_not_mem_reference hName.1⟩
  | decimal digits c =>
    have hWritten : (written (.decimal digits c)).toList = '&' :: '#' :: digits.toList ++ [';'] := by
      simp [written]
    rw [hWritten, text, toList_toString]
    exact resolves_number (isAlphanum_of_denotes hValid.1) (charRef_decimal hValid.1 hValid.2)
  | hexadecimal digits c =>
    have hWritten : (written (.hexadecimal digits c)).toList
        = '&' :: '#' :: ('x' :: digits.toList) ++ [';'] := by simp [written]
    rw [hWritten, text, toList_toString]
    exact resolves_number (List.forall_mem_cons.mpr ⟨by decide, isAlphanum_of_denotes hValid.1⟩)
      (charRef_hexadecimal hValid.1 hValid.2)
  | cdata s | byte value c | comment s | instruction s => cases hText

end Spelling

/-! ## Pieces with angle brackets -/

/-- A word that starts with a character another text does not have is found behind that text. -/
theorem infix_of_infix_append {x : Char} (xs : List Char) {before cs : List Char}
    (hFirst : x ∉ before) (h : x :: xs <:+: before ++ cs) : x :: xs <:+: cs := by
  induction before with
  | nil => exact h
  | cons c before ih =>
    obtain ⟨hHere, hOthers⟩ := not_or.mp (List.mem_cons.not.mp hFirst)
    rcases List.infix_cons_iff.mp h with hPrefix | hInfix
    · exact absurd (List.cons_prefix_cons.mp hPrefix).1 hHere
    · exact ih hOthers hInfix

/-- A word that ends with a character another text does not have is found in front of that text. -/
theorem infix_of_infix_before {x : Char} (xs cs : List Char) {after : List Char}
    (hLast : x ∉ after) (h : xs ++ [x] <:+: cs ++ after) : xs ++ [x] <:+: cs := by
  rw [← List.reverse_infix, List.reverse_append, List.reverse_append] at h
  rw [← List.reverse_infix, List.reverse_append]
  exact infix_of_infix_append xs.reverse (by simpa using hLast) h

namespace Lexer

section Markup

variable {opened : List Bytes} {s : String}

/-- A text is collected behind another if the mark that would end it with a bracket does not occur
in the two. -/
theorem feed_until (state : Bytes → State) {mark before cs : List Char}
    (hAscii : ∀ c ∈ mark, c.toNat < 0x80)
    (hNext : ∀ content b,
      ¬ (b = 0x3E ∧ (Utf8.encodeChars mark).reverse <+: content) →
      Front.next ⟨opened, state content⟩ b = some ([], ⟨opened, state (b :: content)⟩))
    (hNone : ¬ mark ++ ['>'] <:+: before ++ cs) :
    feed ⟨opened, state (Utf8.encodeChars before).reverse⟩ (Utf8.encodeChars cs)
      = some ([], ⟨opened, state (Utf8.encodeChars (before ++ cs)).reverse⟩) := by
  rw [Utf8.encodeChars_append, List.reverse_append]
  refine feed_collect state fun front b rest hSplit => ?_
  apply hNext
  rintro ⟨rfl, hMark⟩
  -- then the mark and the bracket stand among the bytes of both texts, and so in them
  rw [← List.reverse_append, List.reverse_prefix] at hMark
  obtain ⟨first, hFirst⟩ := hMark
  refine hNone (Utf8.infix_of_infix_encodeChars ?_ ⟨first, rest, ?_⟩)
  · exact List.forall_mem_append.mpr ⟨hAscii, List.forall_mem_singleton.mpr (by decide)⟩
  · have hBracket : Utf8.encodeChars ['>'] = [0x3E] := rfl
    rw [Utf8.encodeChars_append, Utf8.encodeChars_append, hBracket, hSplit, ← List.append_assoc,
      hFirst]
    simp

/-- A piece between its opening and a mark with a bracket is one event. -/
theorem feed_piece (state : Bytes → State) (before : List Char) {opening mark : String}
    {event : Event} (hAscii : ∀ c ∈ mark.toList, c.toNat < 0x80)
    (hOpen : feed ⟨opened, .opened⟩ (Utf8.encode opening)
      = some ([], ⟨opened, state (Utf8.encodeChars before).reverse⟩))
    (hNext : ∀ content b, ¬ (b = 0x3E ∧ (Utf8.encode mark).reverse <+: content) →
      Front.next ⟨opened, state content⟩ b = some ([], ⟨opened, state (b :: content)⟩))
    (hNone : ¬ mark.toList ++ ['>'] <:+: before ++ (s.toList ++ mark.toList))
    (hLast : (state (Utf8.encodeChars before ++ (Utf8.encode s ++ Utf8.encode mark)).reverse).next
      0x3E = finished (.ok event))
    (hNest : nest opened event = .ok opened) :
    feed ⟨opened, .opened⟩ (Utf8.encode (opening ++ s ++ mark ++ ">"))
      = some ([event], ⟨opened, .fresh⟩) := by
  have hInside := feed_until state hAscii hNext hNone
  rw [Utf8.encodeChars_append, Utf8.encodeChars_append, Utf8.encodeChars_append] at hInside
  have hBracket : feed ⟨opened, state (Utf8.encodeChars before
        ++ (Utf8.encode s ++ Utf8.encode mark)).reverse⟩ [0x3E]
      = some ([event], ⟨opened, .fresh⟩) := by
    simp only [feed, Front.next, hLast, finished, Except.map, hNest]
    rfl
  have hEnd : Utf8.encode ">" = [0x3E] := rfl
  rw [Utf8.encode_append, Utf8.encode_append, Utf8.encode_append, hEnd, List.append_assoc,
    List.append_assoc, ← List.append_assoc (Utf8.encode s)]
  exact feed_append hOpen (feed_append hInside hBracket)

theorem prefix_of_take {xs content : Bytes} {n : Nat} (h : content.take n = xs) :
    xs <+: content :=
  h ▸ List.take_prefix n content

/-- A CDATA section is an event with its bytes. -/
theorem feed_cdata (h : ¬ "]]>".toList <:+: s.toList) :
    feed ⟨opened, .opened⟩ (Utf8.encode ("![CDATA[" ++ s ++ "]]" ++ ">"))
      = some ([.cdata (Utf8.encode s)], ⟨opened, .fresh⟩) := by
  have hBefore : Utf8.encodeChars "[CDATA[".toList = [0x5B, 0x43, 0x44, 0x41, 0x54, 0x41, 0x5B] :=
    rfl
  have hMark : Utf8.encode "]]" = [0x5D, 0x5D] := rfl
  refine feed_piece .cdata "[CDATA[".toList (forall_of_all (by decide)) rfl ?_ ?_ ?_ rfl
  · intro content b hGoesOn
    have hNoEnd : ¬ (b = 0x3E ∧ content.take 2 = [0x5D, 0x5D]) := fun ⟨hb, hTake⟩ =>
      hGoesOn ⟨hb, prefix_of_take hTake⟩
    simp only [Front.next, State.next, if_neg hNoEnd]
  · intro hInfix
    have hInside := infix_of_infix_append "]>".toList (by decide) hInfix
    exact h (infix_of_infix_before "]]".toList s.toList (by decide) hInside)
  · rw [hMark, State.next, List.reverse_reverse, if_pos ⟨rfl, by simp⟩, hBefore]
    simp [cdataEvent]

/-- A comment is an event with its bytes. -/
theorem feed_comment (h : ¬ "-->".toList <:+: s.toList) :
    feed ⟨opened, .opened⟩ (Utf8.encode ("!--" ++ s ++ "--" ++ ">"))
      = some ([.comment (Utf8.encode s)], ⟨opened, .fresh⟩) := by
  have hMark : Utf8.encode "--" = [0x2D, 0x2D] := rfl
  -- the two hyphens in front are no part of the mark, so a comment may start with `>` or `->`
  refine feed_piece (fun content => .comment (content ++ [0x2D, 0x2D])) []
    (forall_of_all (by decide)) rfl ?_ ?_ ?_ rfl
  · intro content b hGoesOn
    have hNoEnd : ¬ (b = 0x3E ∧ 3 < (content ++ [0x2D, 0x2D]).length ∧
        (content ++ [0x2D, 0x2D]).take 2 = [0x2D, 0x2D]) := by
      rintro ⟨hb, hLength, hTake⟩
      rw [List.length_append, List.length_cons, List.length_cons, List.length_nil] at hLength
      rw [List.take_append_of_le_length (by omega)] at hTake
      exact hGoesOn ⟨hb, prefix_of_take hTake⟩
    simp only [Front.next, State.next, if_neg hNoEnd, List.cons_append]
  · exact fun hInfix => h (infix_of_infix_before "--".toList s.toList (by decide) hInfix)
  · rw [hMark, State.next, if_pos ⟨rfl, by simp, by simp⟩]
    simp [commentEvent]

/-- An instruction is an event with its bytes. -/
theorem feed_instruction (h : ¬ "?>".toList <:+: '?' :: s.toList) :
    feed ⟨opened, .opened⟩ (Utf8.encode ("?" ++ s ++ "?" ++ ">"))
      = some ([.instruction (Utf8.encode s)], ⟨opened, .fresh⟩) := by
  have hMark : Utf8.encode "?" = [0x3F] := rfl
  refine feed_piece .instruction ['?'] (forall_of_all (by decide)) rfl ?_ ?_ ?_ rfl
  · intro content b hGoesOn
    have hNoEnd : ¬ (b = 0x3E ∧ content.take 1 = [0x3F]) := fun ⟨hb, hTake⟩ =>
      hGoesOn ⟨hb, prefix_of_take hTake⟩
    simp only [Front.next, State.next, if_neg hNoEnd]
  · exact fun hInfix => h (infix_of_infix_before "?".toList ('?' :: s.toList) (by decide)
      hInfix)
  · rw [hMark, State.next, List.reverse_reverse, if_pos ⟨rfl, by simp⟩]
    cases hBody : Utf8.encode s ++ [0x3F] with
    | nil => simp at hBody
    | cons b body =>
      show finished (.ok (.instruction ((b :: body).take ((b :: body).length - 1)))) = _
      rw [← hBody]
      simp

end Markup

end Lexer

/-! ## Spelled text -/

/-- Letters and figures are not escaped. -/
theorem escape_of_isAlphanum {s : String} (h : ∀ c ∈ s.toList, c.isAlphanum = true) :
    escape s = s := by
  have hChars : ∀ cs : List Char, (∀ c ∈ cs, c.isAlphanum = true) → escapeChars cs = cs := by
    intro cs hcs
    induction cs with
    | nil => rfl
    | cons c cs ih =>
      obtain ⟨hAlphanum, hOthers⟩ := List.forall_mem_cons.mp hcs
      have hOne : escapeChar c = [c] := by
        unfold escapeChar
        split
        case h_6 => rfl
        all_goals exact absurd hAlphanum (by decide)
      rw [escapeChars, List.flatMap_cons, ← escapeChars, hOne, ih hOthers]
      rfl
  rw [escape, hChars _ h, String.ofList_toList]

namespace Spelling

theorem isAlphanum_of_isByteValue {value : String} {n : Nat} (h : IsByteValue value n) :
    ∀ c ∈ value.toList, c.isAlphanum = true := by
  cases h with
  | decimal hDigits => exact isAlphanum_of_denotes hDigits
  | hexadecimal hDigits | prefixed hDigits => simpa using isAlphanum_of_denotes hDigits

/-- A `byte` element is written like any other. -/
theorem written_byte {value : String} {c : Char} (h : IsByteValue value c.toNat) :
    written (.byte value c) = Node.render (.empty "byte" [("value", value)]) := by
  rw [Node.render, renderTag, List.map_singleton, String.join_cons, String.join_nil,
    renderAttribute, escape_of_isAlphanum (isAlphanum_of_isByteValue h), ← String.toList_inj]
  simp [written]

/-- A piece with angle brackets is one event behind the character data in front of it. -/
theorem feed_markup {piece : Spelling} (hValid : piece.IsValid) {content : Content}
    (hMarkup : piece.markup? = some content) (opened : List Bytes) (run : Bytes) :
    Lexer.feed ⟨opened, .text run.reverse⟩ (Utf8.encode piece.written)
      = some (Content.eventsAll (Content.ofRun run ++ [content]), ⟨opened, .fresh⟩) := by
  -- the first bracket ends the character data; what is behind it decides which event comes next
  have hBehind : ∀ {tail : String} {event : Event}, piece.written = "<" ++ tail →
      content.events = [event] →
      Lexer.feed ⟨opened, .opened⟩ (Utf8.encode tail) = some ([event], ⟨opened, .fresh⟩) →
      Lexer.feed ⟨opened, .text run.reverse⟩ (Utf8.encode piece.written)
        = some (Content.eventsAll (Content.ofRun run ++ [content]), ⟨opened, .fresh⟩) := by
    intro tail event hWritten hEvents hTail
    have hBracket : Utf8.encode "<" = [0x3C] := rfl
    rw [hWritten, Utf8.encode_append, hBracket, Lexer.feed_append Lexer.feed_bracket hTail,
      Content.eventsAll_append, Content.eventsAll, hEvents]
    rfl
  cases piece with
  | literal s | named name c | decimal digits c | hexadecimal digits c => cases hMarkup
  | cdata s =>
    cases hMarkup
    refine hBehind ?_ rfl (Lexer.feed_cdata hValid)
    rw [← String.toList_inj]
    simp [written]
  | comment s =>
    cases hMarkup
    refine hBehind ?_ rfl (Lexer.feed_comment hValid)
    rw [← String.toList_inj]
    simp [written]
  | instruction s =>
    cases hMarkup
    refine hBehind ?_ rfl (Lexer.feed_instruction hValid)
    rw [← String.toList_inj]
    simp [written]
  | byte value c =>
    cases hMarkup
    rw [written_byte hValid]
    exact Lexer.feed_render_empty (by decide) (areWritable_singleton (by decide) value)

end Spelling

/-- Spelled text yields the events of its content, up to the next tag. -/
theorem feed_spelled (pieces : List Spelling) (hValid : ∀ piece ∈ pieces, piece.IsValid)
    (opened : List Bytes) (run : Bytes) :
    Lexer.feed ⟨opened, .text run.reverse⟩ (Utf8.encode (Spelling.writtenAll pieces) ++ [0x3C])
      = some (Content.eventsAll (Content.ofSpellings run pieces), ⟨opened, .opened⟩) := by
  -- character data is still open when the next piece begins, so the induction is behind some run
  induction pieces generalizing run with
  | nil => exact Lexer.feed_bracket
  | cons piece rest ih =>
    obtain ⟨hPiece, hRest⟩ := List.forall_mem_cons.mp hValid
    rw [Spelling.writtenAll_cons, Utf8.encode_append, List.append_assoc, Content.ofSpellings]
    cases hMarkup : piece.markup? with
    | none =>
      have hBracket : 0x3C ∉ Utf8.encode piece.written := by
        intro hMem
        obtain ⟨c, hc, hCode⟩ := Utf8.exists_mem_of_mem_encode hMem (by decide)
        obtain rfl : c = '<' := Char.toNat_inj.mp hCode
        exact (Spelling.resolves_written hPiece hMarkup).2 hc
      have hOthers := ih hRest (run ++ Utf8.encode piece.written)
      rw [List.reverse_append] at hOthers
      exact Lexer.feed_append (Lexer.feed_characters hBracket) hOthers
    | some content =>
      rw [Lexer.feed_append (Spelling.feed_markup hPiece hMarkup opened run) (ih hRest []),
        ← Content.eventsAll_append, List.append_assoc]
      rfl

end Linguist.Xml
