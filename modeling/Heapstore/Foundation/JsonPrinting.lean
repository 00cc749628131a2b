/-
Printing JSON text that a reader has to take back.

A printed piece knows what it was meant to say and the condition under which a
reader finds that.  The condition is exact: a reader that does find it has read
the piece to its end.  Members and items stand on lines of their own, so a
string that is not closed where it should be meets a line end.
-/

import Heapstore.Foundation.JsonText
import Mathlib.Data.List.Forall2
import Mathlib.Data.List.Nodup

namespace Json

open ByteText

/-- What stands behind a piece: nothing, or a line end with or without comma. -/
def EndsLine (behind : Bytes) : Prop :=
  behind = [] ∨ (∃ more, behind = 10 :: more) ∨
    ∃ more, behind = 44 :: 10 :: more

/-- A printed text with its meaning.  `Exact` is all that a faithful reading
yields, `Means` what a reading must yield to count as one. -/
structure Piece {α : Type} (reader : Nat → Bytes → Option (α × Bytes)) where
  text : Bytes
  Faithful : Prop
  Exact : α → Prop
  Means : α → Prop
  starts : ∃ byte rest, text = byte :: rest ∧ isBlank byte = false ∧
    byte ≠ 93 ∧ byte ≠ 125
  reads : ∀ {fuel behind}, text.length ≤ fuel → EndsLine behind → Faithful →
    ∃ value, reader fuel (text ++ behind) = some (value, behind) ∧ Exact value
  faithful_of : ∀ {fuel behind value rest}, EndsLine behind →
    reader fuel (text ++ behind) = some (value, rest) → Means value →
    Faithful ∧ rest = behind

abbrev Printed := Piece parseValue

def parseField (fuel : Nat) (text : Bytes) : Option ((Bytes × Value) × Bytes) :=
  parseMember (parseValue fuel) text

abbrev Field := Piece parseField

/-! ### Blanks -/

section Blanks

variable {blanks : Bytes}

theorem skipBlanks_blanks (text : Bytes)
    (blank : AllBlank blanks) :
    skipBlanks (blanks ++ text) = skipBlanks text :=
  List.dropWhile_append_of_pos blank

theorem skipBlanks_solid {byte : UInt8} (rest : Bytes)
    (solid : isBlank byte = false) :
    skipBlanks (byte :: rest) = byte :: rest := by
  unfold skipBlanks
  rw [List.dropWhile_cons_of_neg (by simp [solid])]

def SkipsBlanks {α : Type} (reader : Nat → Bytes → Option (α × Bytes)) : Prop :=
  ∀ fuel blanks text, AllBlank blanks →
    reader fuel (blanks ++ text) = reader fuel text

theorem parseValue_skipsBlanks : SkipsBlanks parseValue := by
  intro fuel blanks text blank
  cases fuel with
  | zero => rfl
  | succ fuel => rw [parseValue, parseValue, skipBlanks_blanks text blank]

theorem parseField_skipsBlanks : SkipsBlanks parseField := by
  intro fuel blanks text blank
  unfold parseField parseMember expect
  rw [skipBlanks_blanks text blank]

end Blanks

/-! ### Strings -/

/-- Strings that stand for themselves between quotes. -/
structure Plain (text : Bytes) : Prop where
  verbatim : Verbatim text
  encoded : utf8 text = true

theorem utf8_ofString (literal : String) : utf8 (ofString literal) = true := by
  have same : (ofString literal).toByteArray = literal.toByteArray := by
    apply ByteArray.ext
    rw [List.data_toByteArray]
    rfl
  unfold utf8
  rw [same, ByteArray.validateUTF8_eq_true_iff]
  exact literal.isValidUTF8

theorem plain_ofString {literal : String}
    (verbatim : Verbatim (ofString literal)) : Plain (ofString literal) :=
  ⟨verbatim, utf8_ofString literal⟩

section Strings

variable {text behind : Bytes}

theorem not_endsLine {inside : Bytes} (rest : Bytes)
    (printable : ∀ byte ∈ inside, 32 ≤ byte) :
    ¬EndsLine (inside ++ 34 :: rest) := by
  have noControl : (10 : UInt8) ∉ inside := fun member =>
    absurd (printable 10 member) (by decide)
  rintro (empty | ⟨more, same⟩ | ⟨more, same⟩)
  · simp at empty
  · cases inside with
    | nil => cases same
    | cons byte inside =>
        cases same
        exact noControl List.mem_cons_self
  · cases inside with
    | nil => cases same
    | cons comma inside =>
        cases inside with
        | nil => cases same
        | cons byte inside =>
            cases same
            exact noControl (List.mem_cons_of_mem _ List.mem_cons_self)

/-- A reading as long as the printed text has stopped at the quote behind it:
the line ends before another quote can close the string. -/
theorem verbatim_of_scanString {rest : Bytes} (ends : EndsLine behind)
    (scanned : scanString 0 (text ++ 34 :: behind) = some (text, rest)) :
    Verbatim text ∧ rest = behind := by
  obtain ⟨body, same, stands, _⟩ := scanString_stands scanned
  have short : body.length ≤ text.length := by
    rcases List.append_eq_append_iff.mp same with
      ⟨beyond, rfl, tail⟩ | ⟨beyond, rfl, _⟩
    · cases beyond with
      | nil => simp
      | cons quote beyond =>
          obtain ⟨rfl, rfl⟩ := List.cons.inj tail
          have printable : ∀ byte ∈ beyond, 32 ≤ byte := fun byte member =>
            stands.printable byte
              (List.mem_append_right _ (List.mem_cons_of_mem _ member))
          exact absurd ends (not_endsLine rest printable)
    · rw [List.length_append]
      omega
  obtain ⟨rfl, clean⟩ := stands.verbatim short
  refine ⟨fun byte member => ⟨stands.printable byte member, clean byte member⟩,
    ?_⟩
  exact (List.cons.inj (List.append_cancel_left same)).2.symm

/-- Quotes and backslashes get a backslash. -/
def escapeQuotes : Bytes → Bytes
  | [] => []
  | byte :: rest =>
      if byte = 34 ∨ byte = 92 then 92 :: byte :: escapeQuotes rest
      else byte :: escapeQuotes rest

/-- A backslash stands for the byte behind it. -/
def removeEscapes : Bytes → Bytes
  | [] => []
  | [byte] => [byte]
  | first :: second :: rest =>
      if first = 92 then second :: removeEscapes rest
      else first :: removeEscapes (second :: rest)

theorem escapeQuotes_append (front back : Bytes) :
    escapeQuotes (front ++ back) = escapeQuotes front ++ escapeQuotes back := by
  induction front with
  | nil => rfl
  | cons byte rest ih =>
      rw [List.cons_append, escapeQuotes, escapeQuotes, ih]
      split <;> rfl

theorem sublist_escapeQuotes (text : Bytes) :
    text.Sublist (escapeQuotes text) := by
  induction text with
  | nil => exact List.Sublist.slnil
  | cons byte rest ih =>
      rw [escapeQuotes]
      split
      · exact (ih.cons_cons byte).cons 92
      · exact ih.cons_cons byte

theorem removeEscapes_cons {byte : UInt8} (ordinary : byte ≠ 92)
    (text : Bytes) : removeEscapes (byte :: text) = byte :: removeEscapes text := by
  cases text with
  | nil => rfl
  | cons second rest => exact if_neg ordinary

/-- Every backslash of an escaped text was put there in front of a byte. -/
theorem removeEscapes_escapeQuotes (text : Bytes) :
    removeEscapes (escapeQuotes text) = text := by
  induction text with
  | nil => rfl
  | cons byte rest ih =>
      rw [escapeQuotes]
      by_cases special : byte = 34 ∨ byte = 92
      · rw [if_pos special, removeEscapes, if_pos rfl, ih]
      · rw [if_neg special,
          removeEscapes_cons (not_or.mp special).2, ih]

theorem scanString_escapeQuotes_cons {byte : UInt8} (high : 32 ≤ byte) :
    scanString 0 (escapeQuotes (byte :: text) ++ behind) =
      (scanString 0 (escapeQuotes text ++ behind)).map fun (value, rest) =>
        (byte :: value, rest) := by
  rw [escapeQuotes]
  by_cases special : byte = 34 ∨ byte = 92
  · have spells : Spells readEscape [byte] ([byte], [byte].length) := by
      refine ⟨by simpa using high, fun more => ?_⟩
      rcases special with rfl | rfl
      · rfl
      · rfl
    rw [if_pos special]
    exact scanString_escape spells
  · obtain ⟨noQuote, noBackslash⟩ := not_or.mp special
    rw [if_neg special]
    exact scanString_printable _ high noQuote noBackslash

theorem scanString_escapeQuotes_low {byte : UInt8} (low : ¬32 ≤ byte) :
    scanString 0 (escapeQuotes (byte :: text) ++ behind) = none := by
  have ordinary : ¬(byte = 34 ∨ byte = 92) := by
    rintro (rfl | rfl)
    · exact low (by decide)
    · exact low (by decide)
  obtain ⟨noQuote, noBackslash⟩ := not_or.mp ordinary
  rw [escapeQuotes, if_neg ordinary, List.cons_append, scanString,
    if_neg noQuote, if_neg noBackslash, if_pos (UInt8.not_le.mp low)]

theorem scanString_escapeQuotes_iff {rest value : Bytes} :
    scanString 0 (escapeQuotes text ++ 34 :: behind) = some (value, rest) ↔
      (∀ byte ∈ text, 32 ≤ byte) ∧ value = text ∧ rest = behind := by
  induction text generalizing value with
  | nil =>
      constructor
      · intro scanned
        cases scanned
        exact ⟨nofun, rfl, rfl⟩
      · rintro ⟨_, rfl, rfl⟩
        rfl
  | cons byte text ih =>
      rw [List.forall_mem_cons]
      by_cases high : 32 ≤ byte
      · rw [scanString_escapeQuotes_cons high, Option.map_eq_some_iff]
        constructor
        · rintro ⟨⟨found, last⟩, scanned, same⟩
          cases same
          obtain ⟨printable, rfl, rfl⟩ := ih.mp scanned
          exact ⟨⟨high, printable⟩, rfl, rfl⟩
        · rintro ⟨⟨_, printable⟩, rfl, rfl⟩
          exact ⟨(text, rest), ih.mpr ⟨printable, rfl, rfl⟩, rfl⟩
      · rw [scanString_escapeQuotes_low high]
        exact ⟨nofun, fun all => absurd all.1.1 high⟩

end Strings

/-- A body between quotes that is meant to be the given string. -/
def Printed.quoted (body text : Bytes) (Spelled : Prop)
    (spells : ∀ behind, Spelled →
      scanString 0 (body ++ 34 :: behind) = some (text, behind))
    (spelled_of : ∀ {behind rest}, EndsLine behind →
      scanString 0 (body ++ 34 :: behind) = some (text, rest) →
      Spelled ∧ rest = behind) : Printed where
  text := 34 :: (body ++ [34])
  Faithful := Spelled ∧ utf8 text = true
  Exact value := value = .string text
  Means value := value = .string text
  starts := ⟨34, _, rfl, by decide, by decide, by decide⟩
  reads {fuel behind} fits _ faithful := by
    cases fuel with
    | zero => cases fits
    | succ fuel =>
        refine ⟨.string text, ?_, rfl⟩
        rw [List.cons_append, List.append_assoc]
        exact (parseValue_string (skipBlanks_solid _ (by decide))).mpr
          ⟨text, parseString_eq_some_iff.mpr
            ⟨spells behind faithful.1, faithful.2⟩, rfl⟩
  faithful_of {fuel behind value rest} ends parsed means := by
    cases fuel with
    | zero => cases parsed
    | succ fuel =>
        rw [List.cons_append, List.append_assoc] at parsed
        obtain ⟨content, read, rfl⟩ :=
          (parseValue_string (skipBlanks_solid _ (by decide))).mp parsed
        cases means
        obtain ⟨scanned, encoded⟩ := parseString_eq_some_iff.mp read
        obtain ⟨spelled, same⟩ := spelled_of ends scanned
        exact ⟨⟨spelled, encoded⟩, same⟩

/-- A string printed as it is. -/
def Printed.string (text : Bytes) : Printed :=
  Printed.quoted text text (Verbatim text)
    (fun behind verbatim => scanString_verbatim behind verbatim)
    verbatim_of_scanString

/-- A string printed with its quotes and backslashes escaped. -/
def Printed.escaped (text : Bytes) : Printed :=
  Printed.quoted (escapeQuotes text) text (∀ byte ∈ text, 32 ≤ byte)
    (fun _ printable => scanString_escapeQuotes_iff.mpr ⟨printable, rfl, rfl⟩)
    (fun _ scanned =>
      have read := scanString_escapeQuotes_iff.mp scanned
      ⟨read.1, read.2.2⟩)

theorem Printed.string_faithful_iff (text : Bytes) :
    (Printed.string text).Faithful ↔ Plain text :=
  ⟨fun both => ⟨both.1, both.2⟩, fun plain => ⟨plain.verbatim, plain.encoded⟩⟩

/-! ### Numerals -/

section Numerals

variable {behind : Bytes}

theorem head_of_endsLine {byte : UInt8} (ends : EndsLine behind)
    (head : behind.head? = some byte) : byte = 10 ∨ byte = 44 := by
  rcases ends with rfl | ⟨more, rfl⟩ | ⟨more, rfl⟩
  · cases head
  · cases head
    exact Or.inl rfl
  · cases head
    exact Or.inr rfl

private theorem scanFraction_none (ends : EndsLine behind) :
    scanFraction behind = some ([], behind) := by
  cases behind with
  | nil => rfl
  | cons byte rest =>
      have other : byte ≠ 46 := by
        rcases head_of_endsLine ends rfl with rfl | rfl
        · decide
        · decide
      rw [scanFraction, if_neg other]

private theorem scanExponent_none (ends : EndsLine behind) :
    scanExponent behind = some (0, behind) := by
  cases behind with
  | nil => rfl
  | cons byte rest =>
      have other : ¬(byte = 101 ∨ byte = 69) := by
        rcases head_of_endsLine ends rfl with rfl | rfl
        · decide
        · decide
      rw [scanExponent, if_neg other]

private theorem digit_ne {byte other : UInt8} (digit : isDigit byte = true)
    (outside : isDigit other = false) : byte ≠ other := by
  rintro rfl
  rw [digit] at outside
  cases outside

private theorem digit_solid {byte : UInt8} (digit : isDigit byte = true) :
    isBlank byte = false := by
  have space : byte ≠ 32 := digit_ne digit (by decide)
  have tab : byte ≠ 9 := digit_ne digit (by decide)
  have newline : byte ≠ 10 := digit_ne digit (by decide)
  have return_ : byte ≠ 13 := digit_ne digit (by decide)
  simp [isBlank, space, tab, newline, return_]

/-- A numeral starts with a digit. -/
private theorem decimal_starts (value : Nat) :
    ∃ first rest, decimal value = first :: rest ∧ isDigit first = true := by
  obtain ⟨first, rest, same⟩ :=
    List.exists_cons_of_ne_nil (decimal_ne_nil value)
  exact ⟨first, rest, same,
    @isDigit_of_mem_decimal value first (same ▸ List.mem_cons_self)⟩

private theorem decimal_good (value : Nat) : ¬BadDigits (decimal value) := by
  rintro (empty | ⟨leading, other⟩)
  · exact decimal_ne_nil value empty
  · rcases Nat.eq_zero_or_pos value with rfl | positive
    · exact other (by decide)
    · exact head?_decimal positive leading

theorem scanNumber_decimal (value : Nat) (ends : EndsLine behind) :
    scanNumber (decimal value ++ behind) = some (.number value 0, behind) := by
  have allDigits : ∀ byte ∈ decimal value, isDigit byte = true :=
    fun byte member => isDigit_of_mem_decimal member
  have stops : ∀ byte, behind.head? = some byte → isDigit byte = false := by
    intro byte head
    rcases head_of_endsLine ends head with rfl | rfl
    · decide
    · decide
  have digits := takeWhile_prefix allDigits stops
  have remaining := dropWhile_prefix allDigits stops
  have unsigned : dropSign [45] (decimal value ++ behind) =
      decimal value ++ behind ∧
      (decimal value ++ behind).head? ≠ some 45 := by
    obtain ⟨first, rest, same, digit⟩ := decimal_starts value
    have noSign : first ≠ 45 := digit_ne digit (by decide)
    rw [same, List.cons_append, dropSign, if_neg (by simpa using noSign)]
    exact ⟨rfl, fun sign => noSign (Option.some.inj sign)⟩
  have read : scanNumber (decimal value ++ behind) = some (.number
      (signedValue (decimal value ++ behind)
        ((dropSign [45] (decimal value ++ behind)).takeWhile isDigit ++ []))
      (0 - ([] : Bytes).length), behind) := by
    apply scanNumber_of
    · rw [unsigned.1, digits]
      exact decimal_good value
    · rw [unsigned.1, remaining]
      exact scanFraction_none ends
    · exact scanExponent_none ends
  rw [read, unsigned.1, digits, List.append_nil, signedValue,
    if_neg unsigned.2, digitsValue_decimal]
  rfl

theorem parseValue_decimal (fuel value : Nat) (ends : EndsLine behind) :
    parseValue (fuel + 1) (decimal value ++ behind) =
      some (.number value 0, behind) := by
  rw [← scanNumber_decimal value ends]
  obtain ⟨first, rest, same, digit⟩ := decimal_starts value
  rw [same, List.cons_append,
    parseValue_plain (skipBlanks_solid _ (digit_solid digit))
      (digit_ne digit (by decide)) (digit_ne digit (by decide))
      (digit_ne digit (by decide)),
    if_neg (digit_ne digit (by decide)), if_neg (digit_ne digit (by decide)),
    if_neg (digit_ne digit (by decide))]

end Numerals

def Printed.numeral (value : Nat) : Printed where
  text := decimal value
  Faithful := True
  Exact read := read = .number value 0
  Means read := read = .number value 0
  starts := by
    obtain ⟨first, rest, same, digit⟩ := decimal_starts value
    exact ⟨first, rest, same, digit_solid digit, digit_ne digit (by decide),
      digit_ne digit (by decide)⟩
  reads {fuel behind} fits ends _ := by
    cases fuel with
    | zero =>
        exact absurd (List.length_eq_zero_iff.mp (Nat.le_zero.mp fits))
          (decimal_ne_nil value)
    | succ fuel => exact ⟨_, parseValue_decimal fuel value ends, rfl⟩
  faithful_of {fuel behind found rest} ends parsed _ := by
    cases fuel with
    | zero => cases parsed
    | succ fuel =>
        rw [parseValue_decimal fuel value ends] at parsed
        cases parsed
        exact ⟨trivial, rfl⟩

/-! ### Lines of pieces -/

/-- One text a line, all but the last followed by a comma. -/
def lines (indent : Bytes) : List Bytes → Bytes
  | [] => []
  | [last] => indent ++ last ++ [10]
  | first :: second :: rest =>
      indent ++ first ++ 44 :: 10 :: lines indent (second :: rest)

section Lines

variable {α : Type} {reader : Nat → Bytes → Option (α × Bytes)}
  {indent lead blanks : Bytes} {close : UInt8}

/-- What a block consists of besides its pieces: blanks and a bracket. -/
structure Layout (indent lead : Bytes) (close : UInt8) : Prop where
  indentBlank : AllBlank indent
  leadBlank : AllBlank lead
  closes : close = 93 ∨ close = 125

theorem Layout.closeSolid (layout : Layout indent lead close) :
    isBlank close = false := by
  rcases layout.closes with rfl | rfl
  · decide
  · decide

theorem Layout.closeComma (layout : Layout indent lead close) : close ≠ 44 := by
  rcases layout.closes with rfl | rfl
  · decide
  · decide

theorem Layout.skipLead (layout : Layout indent lead close) (behind : Bytes) :
    skipBlanks (10 :: (lead ++ close :: behind)) = close :: behind := by
  have blank : AllBlank (10 :: lead) :=
    List.forall_mem_cons.mpr ⟨by decide, layout.leadBlank⟩
  rw [← List.cons_append, skipBlanks_blanks _ blank,
    skipBlanks_solid _ layout.closeSolid]

theorem Layout.skipIndent (layout : Layout indent lead close)
    (skips : SkipsBlanks reader) (blank : AllBlank blanks)
    (fuel : Nat) (text : Bytes) :
    reader fuel (blanks ++ (indent ++ text)) = reader fuel text := by
  rw [skips fuel blanks _ blank, skips fuel indent _ layout.indentBlank]

theorem lines_single (last tail : Bytes) :
    blanks ++ (lines indent [last] ++ tail) =
      blanks ++ (indent ++ (last ++ 10 :: tail)) := by
  rw [lines]
  simp only [List.append_assoc, List.cons_append, List.nil_append]

theorem lines_cons (first second tail : Bytes) (rest : List Bytes) :
    blanks ++ (lines indent (first :: second :: rest) ++ tail) =
      blanks ++ (indent ++ (first ++
        44 :: 10 :: (lines indent (second :: rest) ++ tail))) := by
  rw [lines]
  simp only [List.append_assoc, List.cons_append]

private theorem newline_blank : AllBlank [10] := by decide

theorem skipBlanks_comma (rest : Bytes) :
    skipBlanks (44 :: rest) = 44 :: rest :=
  skipBlanks_solid rest (by decide)

/-- Faithful pieces are all read, each as what it exactly is. -/
theorem parseItems_lines (layout : Layout indent lead close)
    (skips : SkipsBlanks reader) {fuel count : Nat} (behind : Bytes)
    (pieces : List (Piece reader)) (filled : pieces ≠ [])
    (fits : ∀ piece ∈ pieces, piece.text.length ≤ fuel)
    (enough : pieces.length ≤ count)
    (faithful : ∀ piece ∈ pieces, piece.Faithful)
    (blank : AllBlank blanks) :
    ∃ values, parseItems (reader fuel) close count
        (blanks ++ (lines indent (pieces.map Piece.text) ++
          (lead ++ close :: behind))) = some (values, behind) ∧
      List.Forall₂ (fun piece value => piece.Exact value) pieces values := by
  induction pieces generalizing count blanks with
  | nil => exact absurd rfl filled
  | cons piece rest ih =>
      obtain ⟨fitsFirst, fitsRest⟩ := List.forall_mem_cons.mp fits
      obtain ⟨faithfulFirst, faithfulRest⟩ := List.forall_mem_cons.mp faithful
      cases count with
      | zero => cases enough
      | succ count =>
          cases rest with
          | nil =>
              obtain ⟨value, read, exact_⟩ := piece.reads fitsFirst
                (Or.inr (Or.inl ⟨lead ++ close :: behind, rfl⟩)) faithfulFirst
              refine ⟨[value], ?_, List.Forall₂.cons exact_ List.Forall₂.nil⟩
              rw [List.map_cons, List.map_nil, lines_single]
              apply parseItems_last _ (layout.skipLead behind)
              rw [layout.skipIndent skips blank, read]
          | cons second rest =>
              obtain ⟨value, read, exact_⟩ := piece.reads fitsFirst
                (Or.inr (Or.inr ⟨lines indent
                  ((second :: rest).map Piece.text) ++
                  (lead ++ close :: behind), rfl⟩)) faithfulFirst
              obtain ⟨values, parsed, all⟩ := ih (by simp) fitsRest
                (Nat.le_of_succ_le_succ enough) faithfulRest newline_blank
              rw [List.map_cons] at read parsed
              refine ⟨value :: values, ?_, List.Forall₂.cons exact_ all⟩
              rw [List.map_cons, List.map_cons, lines_cons,
                parseItems_comma layout.closeComma
                  ((layout.skipIndent skips blank fuel _).trans read)
                  (skipBlanks_comma _)]
              rw [List.cons_append, List.nil_append] at parsed
              rw [parsed]
              rfl

/-- Pieces that were read as meant are faithful, up to the closing byte. -/
theorem faithful_of_parseItems (layout : Layout indent lead close)
    (skips : SkipsBlanks reader) {fuel count : Nat} {behind last : Bytes}
    (pieces : List (Piece reader)) (filled : pieces ≠ []) {values : List α}
    (blank : AllBlank blanks)
    (parsed : parseItems (reader fuel) close count
        (blanks ++ (lines indent (pieces.map Piece.text) ++
          (lead ++ close :: behind))) = some (values, last))
    (means : ∀ pair ∈ pieces.zip values, pair.1.Means pair.2) :
    (∀ piece ∈ pieces, piece.Faithful) ∧ last = behind := by
  induction pieces generalizing count blanks values with
  | nil => exact absurd rfl filled
  | cons piece rest ih =>
      cases count with
      | zero => cases parsed
      | succ count =>
          obtain ⟨value, tail, byte, more, found, next, outcome⟩ :=
            parseItems_succ_cases parsed
          have meant : piece.Means value := by
            rcases outcome with ⟨_, rfl, _⟩ | ⟨_, _, others, rfl, _⟩
            · exact means (piece, value) List.mem_cons_self
            · exact means (piece, value) List.mem_cons_self
          cases rest with
          | nil =>
              rw [List.map_cons, List.map_nil, lines_single,
                layout.skipIndent skips blank] at found
              obtain ⟨faithful, rfl⟩ := piece.faithful_of
                (Or.inr (Or.inl ⟨lead ++ close :: behind, rfl⟩)) found meant
              rw [layout.skipLead behind] at next
              cases next
              rcases outcome with ⟨_, _, rfl⟩ | ⟨notClose, _⟩
              · exact ⟨by simpa using faithful, rfl⟩
              · exact absurd rfl notClose
          | cons second rest =>
              rw [List.map_cons, List.map_cons, lines_cons,
                layout.skipIndent skips blank] at found
              obtain ⟨faithful, rfl⟩ := piece.faithful_of
                (Or.inr (Or.inr ⟨_, rfl⟩)) found meant
              rw [skipBlanks_comma] at next
              cases next
              rcases outcome with ⟨closing, _⟩ | ⟨_, _, others, rfl, later⟩
              · exact absurd closing.symm layout.closeComma
              · obtain ⟨faithfulRest, same⟩ := @ih [10] count
                  (by simp) others newline_blank later fun pair member =>
                    means pair (List.mem_cons_of_mem _ member)
                exact ⟨List.forall_mem_cons.mpr ⟨faithful, faithfulRest⟩, same⟩

end Lines

theorem lines_concat (indent : Bytes) (texts : List Bytes) (last : Bytes) :
    lines indent (texts ++ [last]) =
      texts.flatMap (fun text => indent ++ text ++ [44, 10]) ++
        (indent ++ last ++ [10]) := by
  induction texts with
  | nil => rfl
  | cons first rest ih =>
      have split : lines indent (first :: rest ++ [last]) =
          indent ++ first ++ 44 :: 10 :: lines indent (rest ++ [last]) := by
        cases rest with
        | nil => rfl
        | cons second rest => rfl
      rw [split, ih, List.flatMap_cons]
      simp only [List.append_assoc, List.cons_append, List.nil_append]

/-- The lines as a loop prints them, looking for the last index. -/
theorem lines_range (indent : Bytes) (text : Nat → Bytes) (count : Nat) :
    lines indent ((List.range count).map text) =
      (List.range count).flatMap fun index =>
        indent ++ text index ++
          ((if index < count - 1 then [44] else []) ++ [10]) := by
  cases count with
  | zero => rfl
  | succ count =>
      have last : ¬count < count + 1 - 1 := by omega
      rw [List.range_succ, List.map_append, List.map_singleton, lines_concat,
        List.flatMap_append, List.flatMap_singleton, if_neg last,
        List.flatMap_map]
      congr 1
      apply List.flatMap_congr
      intro index member
      have within := List.mem_range.mp member
      rw [if_pos (by omega)]
      rfl

/-! ### Blocks -/

section Blocks

variable {α : Type} {reader : Nat → Bytes → Option (α × Bytes)}
  {indent lead : Bytes} {close : UInt8} {pieces : List (Piece reader)}

theorem length_le_lines (texts : List Bytes) :
    texts.length ≤ (lines indent texts).length ∧
      ∀ text ∈ texts, text.length ≤ (lines indent texts).length := by
  induction texts with
  | nil => exact ⟨Nat.le_refl 0, nofun⟩
  | cons first rest ih =>
      cases rest with
      | nil =>
          rw [lines]
          simp only [List.length_append, List.length_cons, List.length_nil,
            List.forall_mem_cons, List.not_mem_nil, false_implies,
            implies_true, and_true]
          omega
      | cons second rest =>
          obtain ⟨count, each⟩ := ih
          rw [lines, List.forall_mem_cons]
          simp only [List.length_append, List.length_cons] at count ⊢
          refine ⟨by omega, by omega, fun text member => ?_⟩
          have inner := each text member
          omega

/-- A block from its line end on. -/
def blockText (indent lead : Bytes) (close : UInt8) (texts : List Bytes) :
    Bytes :=
  10 :: (lines indent texts ++ (lead ++ [close]))

theorem blockText_append (texts : List Bytes) (behind : Bytes) :
    blockText indent lead close texts ++ behind =
      [10] ++ (lines indent texts ++ (lead ++ close :: behind)) := by
  unfold blockText
  simp only [List.append_assoc, List.cons_append, List.nil_append]

theorem lines_starts (first : Bytes) (rest : List Bytes) :
    ∃ beyond, lines indent (first :: rest) = indent ++ (first ++ beyond) := by
  cases rest with
  | nil => exact ⟨[10], by rw [lines, List.append_assoc]⟩
  | cons second rest => exact ⟨_, by rw [lines, List.append_assoc]⟩

theorem parseBlock_text (layout : Layout indent lead close)
    (filled : pieces ≠ []) (fuel count : Nat) (behind : Bytes) :
    parseBlock (reader fuel) close count
        (blockText indent lead close (pieces.map Piece.text) ++ behind) =
      parseItems (reader fuel) close count
        ([10] ++ (lines indent (pieces.map Piece.text) ++
          (lead ++ close :: behind))) := by
  rw [blockText_append]
  have notClose : expect close ([10] ++ (lines indent (pieces.map Piece.text) ++
      (lead ++ close :: behind))) = none := by
    obtain ⟨piece, rest, rfl⟩ := List.exists_cons_of_ne_nil filled
    obtain ⟨byte, others, starts, solid, notBracket, notBrace⟩ := piece.starts
    obtain ⟨beyond, same⟩ :=
      @lines_starts indent piece.text (rest.map Piece.text)
    rw [List.map_cons, same, starts, List.append_assoc]
    unfold expect
    rw [skipBlanks_blanks _ newline_blank,
      skipBlanks_blanks _ layout.indentBlank, List.append_assoc,
      List.cons_append, skipBlanks_solid _ solid]
    apply if_neg
    rcases layout.closes with rfl | rfl
    · exact notBracket
    · exact notBrace
  unfold parseBlock
  rw [notClose]

/-- A block whose text is within the fuel is read whole. -/
theorem block_reads (layout : Layout indent lead close)
    (skips : SkipsBlanks reader) (filled : pieces ≠ []) {fuel : Nat}
    (behind : Bytes)
    (fits : (blockText indent lead close (pieces.map Piece.text)).length ≤ fuel)
    (faithful : ∀ piece ∈ pieces, piece.Faithful) :
    ∃ values, parseBlock (reader fuel) close fuel
        (blockText indent lead close (pieces.map Piece.text) ++ behind) =
          some (values, behind) ∧
      List.Forall₂ (fun piece value => piece.Exact value) pieces values := by
  obtain ⟨count, each⟩ := @length_le_lines indent (pieces.map Piece.text)
  have inner : (lines indent (pieces.map Piece.text)).length ≤ fuel := by
    unfold blockText at fits
    rw [List.length_cons, List.length_append] at fits
    omega
  rw [List.length_map] at count
  rw [parseBlock_text layout filled]
  exact parseItems_lines layout skips behind pieces filled
    (fun piece member =>
      (each piece.text (List.mem_map_of_mem member)).trans inner)
    (count.trans inner) faithful newline_blank

theorem faithful_of_block (layout : Layout indent lead close)
    (skips : SkipsBlanks reader) (filled : pieces ≠ []) {fuel count : Nat}
    {behind rest : Bytes} {values : List α}
    (parsed : parseBlock (reader fuel) close count
      (blockText indent lead close (pieces.map Piece.text) ++ behind) =
        some (values, rest))
    (means : ∀ pair ∈ pieces.zip values, pair.1.Means pair.2) :
    (∀ piece ∈ pieces, piece.Faithful) ∧ rest = behind := by
  rw [parseBlock_text layout filled] at parsed
  exact faithful_of_parseItems layout skips pieces filled newline_blank parsed
    means

theorem parseArray_iff {fuel : Nat} {text rest : Bytes} {value : Value} :
    parseValue (fuel + 1) (91 :: text) = some (value, rest) ↔
      ∃ items, parseBlock (parseValue fuel) 93 fuel text = some (items, rest) ∧
        value = .array items :=
  parseValue_array (skipBlanks_solid text (by decide))

theorem parseObject_iff {fuel : Nat} {text rest : Bytes} {value : Value} :
    parseValue (fuel + 1) (123 :: text) = some (value, rest) ↔
      ∃ members, parseBlock (parseField fuel) 125 fuel text =
          some (members, rest) ∧ value = .object members :=
  parseValue_object (skipBlanks_solid text (by decide))

end Blocks

/-- An array with one item a line. -/
def Printed.array (indent lead : Bytes) (layout : Layout indent lead 93)
    (items : List Printed) (filled : items ≠ []) : Printed where
  text := 91 :: blockText indent lead 93 (items.map Piece.text)
  Faithful := ∀ item ∈ items, item.Faithful
  Exact value := ∃ values, value = .array values ∧
    List.Forall₂ (fun item value => item.Exact value) items values
  Means value := ∃ values, value = .array values ∧
    List.Forall₂ (fun item value => item.Means value) items values
  starts := ⟨91, _, rfl, by decide, by decide, by decide⟩
  reads {fuel behind} fits _ faithful := by
    cases fuel with
    | zero => cases fits
    | succ fuel =>
        obtain ⟨values, parsed, all⟩ := block_reads layout
          parseValue_skipsBlanks filled behind
          (Nat.le_of_succ_le_succ fits) faithful
        exact ⟨.array values, parseArray_iff.mpr ⟨values, parsed, rfl⟩,
          values, rfl, all⟩
  faithful_of {fuel behind value rest} _ parsed means := by
    cases fuel with
    | zero => cases parsed
    | succ fuel =>
        obtain ⟨items, block, rfl⟩ := parseArray_iff.mp parsed
        obtain ⟨values, same, all⟩ := means
        cases same
        exact faithful_of_block layout parseValue_skipsBlanks filled block
          fun pair member => (List.forall₂_iff_zip.mp all).2 member

def Printed.emptyArray : Printed where
  text := [91, 93]
  Faithful := True
  Exact value := value = .array []
  Means _ := True
  starts := ⟨91, _, rfl, by decide, by decide, by decide⟩
  reads {fuel behind} fits _ _ := by
    cases fuel with
    | zero => cases fits
    | succ fuel => exact ⟨.array [], parseArray_iff.mpr ⟨[], rfl, rfl⟩, rfl⟩
  faithful_of {fuel behind value rest} _ parsed _ := by
    cases fuel with
    | zero => cases parsed
    | succ fuel =>
        obtain ⟨items, block, _⟩ := parseArray_iff.mp parsed
        cases block
        exact ⟨trivial, rfl⟩

theorem parseField_text {fuel : Nat} {key text rest : Bytes}
    {member : Bytes × Value} (plain : Plain key) :
    parseField fuel (34 :: (key ++ 34 :: 58 :: 32 :: text)) =
        some (member, rest) ↔
      member.1 = key ∧ parseValue fuel text = some (member.2, rest) := by
  have blank : parseValue fuel (32 :: text) = parseValue fuel text :=
    parseValue_skipsBlanks fuel [32] text (by decide)
  have string : parseString (key ++ 34 :: 58 :: 32 :: text) =
      some (key, 58 :: 32 :: text) :=
    parseString_eq_some_iff.mpr
      ⟨scanString_verbatim _ plain.verbatim, plain.encoded⟩
  obtain ⟨found, value⟩ := member
  unfold parseField
  rw [parseMember_eq_some_iff]
  constructor
  · rintro ⟨quoted, tail, behind, opened, read, colon, parsed⟩
    cases opened
    rw [string] at read
    cases read
    cases colon
    exact ⟨rfl, blank ▸ parsed⟩
  · rintro ⟨rfl, parsed⟩
    exact ⟨_, _, _, rfl, string, rfl, blank.trans parsed⟩

/-- A member to be printed, with a key that needs no escapes. -/
structure Member where
  key : Bytes
  plain : Plain key
  printed : Printed

def Member.field (member : Member) : Field where
  text := 34 :: (member.key ++ 34 :: 58 :: 32 :: member.printed.text)
  Faithful := member.printed.Faithful
  Exact pair := pair.1 = member.key ∧ member.printed.Exact pair.2
  Means pair := pair.1 = member.key → member.printed.Means pair.2
  starts := ⟨34, _, rfl, by decide, by decide, by decide⟩
  reads {fuel behind} fits ends faithful := by
    have inner : member.printed.text.length ≤ fuel := by
      simp only [List.length_cons, List.length_append] at fits
      omega
    obtain ⟨value, parsed, exact_⟩ := member.printed.reads inner ends faithful
    refine ⟨(member.key, value), ?_, rfl, exact_⟩
    rw [List.cons_append, List.append_assoc]
    exact (parseField_text member.plain).mpr ⟨rfl, parsed⟩
  faithful_of {fuel behind pair rest} ends parsed means := by
    rw [List.cons_append, List.append_assoc] at parsed
    obtain ⟨same, inner⟩ := (parseField_text member.plain).mp parsed
    exact member.printed.faithful_of ends inner (means same)

/-- An object with one member a line. -/
def Printed.object (indent lead : Bytes) (layout : Layout indent lead 125)
    (members : List Member) (filled : members ≠ []) : Printed where
  text := 123 ::
    blockText indent lead 125 ((members.map Member.field).map Piece.text)
  Faithful := ∀ member ∈ members, member.printed.Faithful
  Exact value := ∃ pairs, value = .object pairs ∧
    List.Forall₂ (fun member pair => (Member.field member).Exact pair)
      members pairs
  Means value := ∃ pairs, value = .object pairs ∧ ∀ member ∈ members,
    ∀ value, (member.key, value) ∈ pairs → member.printed.Means value
  starts := ⟨123, _, rfl, by decide, by decide, by decide⟩
  reads {fuel behind} fits _ faithful := by
    cases fuel with
    | zero => cases fits
    | succ fuel =>
        obtain ⟨pairs, parsed, all⟩ := block_reads layout
          parseField_skipsBlanks (by simpa using filled) behind
          (Nat.le_of_succ_le_succ fits) (List.forall_mem_map.mpr faithful)
        exact ⟨.object pairs, parseObject_iff.mpr ⟨pairs, parsed, rfl⟩,
          pairs, rfl, List.forall₂_map_left_iff.mp all⟩
  faithful_of {fuel behind value rest} _ parsed means := by
    cases fuel with
    | zero => cases parsed
    | succ fuel =>
        obtain ⟨found, block, rfl⟩ := parseObject_iff.mp parsed
        obtain ⟨pairs, same, all⟩ := means
        cases same
        have read := faithful_of_block layout parseField_skipsBlanks
          (by simpa using filled) block
          (by
            rintro ⟨field, name, value⟩ zipped
            obtain ⟨printed, present⟩ := List.of_mem_zip zipped
            obtain ⟨member, inside, rfl⟩ := List.mem_map.mp printed
            rintro rfl
            exact all member inside value present)
        exact ⟨fun member inside =>
          read.1 member.field (List.mem_map_of_mem inside), read.2⟩

/-! ### Documents -/

/-- The members have the key, and under it nothing but what is meant. -/
def Carries (members : List (Bytes × Value)) (key : Bytes)
    (meaning : Value → Prop) : Prop :=
  (∃ value, (key, value) ∈ members) ∧
    ∀ value, (key, value) ∈ members → meaning value

theorem pairs_of_exact {members : List Member} {pairs : List (Bytes × Value)}
    (all : List.Forall₂ (fun member pair => (Member.field member).Exact pair)
      members pairs) :
    pairs.map Prod.fst = members.map Member.key ∧ ∀ member ∈ members,
      ∃ value, (member.key, value) ∈ pairs ∧ member.printed.Exact value := by
  induction all with
  | nil => exact ⟨rfl, nofun⟩
  | @cons first pair rest pairs here later ih =>
      obtain ⟨name, value⟩ := pair
      obtain ⟨rfl, exact_⟩ := here
      obtain ⟨keys, each⟩ := ih
      refine ⟨congrArg _ keys, ?_⟩
      rw [List.forall_mem_cons]
      refine ⟨⟨value, List.mem_cons_self, exact_⟩, fun member inside => ?_⟩
      obtain ⟨other, present, found⟩ := each member inside
      exact ⟨other, List.mem_cons_of_mem _ present, found⟩

/-- An object that was read exactly carries each member, if no key occurs
twice. -/
theorem carries_of_exact {members : List Member}
    {pairs : List (Bytes × Value)}
    (all : List.Forall₂ (fun member pair => (Member.field member).Exact pair)
      members pairs)
    (distinct : (members.map Member.key).Nodup) :
    ∀ member ∈ members, Carries pairs member.key member.printed.Exact := by
  intro member inside
  obtain ⟨keys, each⟩ := pairs_of_exact all
  obtain ⟨value, present, exact_⟩ := each member inside
  refine ⟨⟨value, present⟩, fun other found => ?_⟩
  have same := List.inj_on_of_nodup_map (keys ▸ distinct) found present rfl
  cases same
  exact exact_

section Documents

variable {printed : Printed}

/-- A printed document is read back as meant exactly if it is faithful. -/
theorem decode_printed_iff {Meaning : Value → Prop} {blank : Bytes}
    (blanks : skipBlanks blank = []) (ends : EndsLine blank)
    (exact_ : ∀ value, printed.Exact value → Meaning value)
    (means : ∀ value, Meaning value → printed.Means value) :
    (∃ value, decode (printed.text ++ blank) = some value ∧ Meaning value) ↔
      printed.Faithful := by
  constructor
  · rintro ⟨value, decoded, meant⟩
    obtain ⟨behind, parsed, _⟩ := decode_eq_some_iff.mp decoded
    exact (printed.faithful_of ends parsed (means value meant)).1
  · intro faithful
    have fits : printed.text.length ≤ (printed.text ++ blank).length := by
      rw [List.length_append]
      omega
    obtain ⟨value, parsed, found⟩ := printed.reads fits ends faithful
    exact ⟨value, decode_eq_some_iff.mpr ⟨blank, parsed, blanks⟩,
      exact_ value found⟩

/-- A beginning that is already read as meant is the whole document. -/
theorem eq_of_decode_prefix {shown : Bytes} {value : Value}
    (front : shown <+: printed.text) (decoded : decode shown = some value)
    (closed : value.closed = true) (means : printed.Means value) :
    shown = printed.text ∧ printed.Faithful := by
  obtain ⟨more, whole⟩ := front
  obtain ⟨behind, parsed, _⟩ := decode_eq_some_iff.mp decoded
  have longer := parseValue_append (Nat.le_refl _) more parsed (Or.inr closed)
  rw [whole, ← List.append_nil printed.text] at longer
  obtain ⟨faithful, none_left⟩ :=
    printed.faithful_of (Or.inl rfl) longer means
  refine ⟨?_, faithful⟩
  rw [← whole, (List.append_eq_nil_iff.mp none_left).2, List.append_nil]

end Documents

end Json
