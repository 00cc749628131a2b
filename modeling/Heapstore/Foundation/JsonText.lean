/-
Reading JSON text.

A total reader of the grammar: each scanner returns what it read and the text
behind it.  Outside strings only ASCII is accepted, so asking every string for
UTF-8 asks it of the text.  The reader looks at no byte behind a value that it
has closed, which lets a result be carried over to a longer text.
-/

import Heapstore.Foundation.ByteText

namespace Json

open ByteText

/-- A number is its mantissa times a power of ten. -/
inductive Value where
  | null
  | boolean (value : Bool)
  | number (mantissa exponent : Int)
  | string (text : Bytes)
  | array (items : List Value)
  | object (members : List (Bytes × Value))

def isBlank (byte : UInt8) : Bool :=
  byte = 32 || byte = 9 || byte = 10 || byte = 13

def AllBlank (text : Bytes) : Prop :=
  ∀ byte ∈ text, isBlank byte = true

instance (text : Bytes) : Decidable (AllBlank text) :=
  List.decidableBAll _ text

def skipBlanks (text : Bytes) : Bytes :=
  text.dropWhile isBlank

def expect (byte : UInt8) (text : Bytes) : Option Bytes :=
  match skipBlanks text with
  | [] => none
  | found :: rest => if found = byte then some rest else none

/-! ### Strings -/

def hexDigit (byte : UInt8) : Option Nat :=
  if 48 ≤ byte ∧ byte ≤ 57 then some (byte.toNat - 48)
  else if 65 ≤ byte ∧ byte ≤ 70 then some (byte.toNat - 55)
  else if 97 ≤ byte ∧ byte ≤ 102 then some (byte.toNat - 87)
  else none

/-- The code unit that the first four bytes spell. -/
def hexUnit : Bytes → Option Nat
  | first :: second :: third :: fourth :: _ => do
      let first ← hexDigit first
      let second ← hexDigit second
      let third ← hexDigit third
      let fourth ← hexDigit fourth
      return ((first * 16 + second) * 16 + third) * 16 + fourth
  | _ => none

def encodeScalar (scalar : Nat) : Bytes :=
  String.utf8EncodeChar (Char.ofNat scalar)

/-- The second half of a surrogate pair, spelled as a further escape. -/
def lowUnit : Bytes → Option Nat
  | backslash :: letter :: digits => do
      let unit ← hexUnit digits
      if backslash = 92 ∧ letter = 117 ∧ 0xDC00 ≤ unit ∧ unit < 0xE000 then
        return unit
      else none
  | _ => none

/-- The character of a numeric escape and the number of bytes that spell it,
behind its letter. -/
def readUnicode (text : Bytes) : Option (Bytes × Nat) := do
  let unit ← hexUnit text
  if unit < 0xD800 ∨ 0xE000 ≤ unit then return (encodeScalar unit, 4)
  else if unit < 0xDC00 then do
    let low ← lowUnit (text.drop 4)
    return (encodeScalar
      (0x10000 + (unit - 0xD800) * 0x400 + (low - 0xDC00)), 10)
  else none

/-- The bytes that a one-letter escape stands for. -/
def shortEscape (letter : UInt8) : Option Bytes :=
  if letter = 34 ∨ letter = 92 ∨ letter = 47 then some [letter]
  else if letter = 98 then some [8]
  else if letter = 102 then some [12]
  else if letter = 110 then some [10]
  else if letter = 114 then some [13]
  else if letter = 116 then some [9]
  else none

/-- The character of an escape and the number of bytes behind its backslash. -/
def readEscape : Bytes → Option (Bytes × Nat)
  | [] => none
  | letter :: rest =>
      if letter = 117 then do
        let (character, used) ← readUnicode rest
        return (character, used + 1)
      else do
        let character ← shortEscape letter
        return (character, 1)

/-- The string up to its closing quote.  The given number of bytes belongs to
an escape that was read already. -/
def scanString : Nat → Bytes → Option (Bytes × Bytes)
  | _, [] => none
  | used + 1, _ :: rest => scanString used rest
  | 0, byte :: rest =>
      if byte = 34 then some ([], rest)
      else if byte = 92 then do
        let (character, used) ← readEscape rest
        let (value, behind) ← scanString used rest
        return (character ++ value, behind)
      else if byte < 32 then none
      else do
        let (value, behind) ← scanString 0 rest
        return (byte :: value, behind)

def utf8 (text : Bytes) : Bool :=
  text.toByteArray.validateUTF8

def parseString (text : Bytes) : Option (Bytes × Bytes) := do
  let (value, behind) ← scanString 0 text
  if utf8 value then return (value, behind) else none

/-! ### Numbers -/

def dropSign (signs : List UInt8) : Bytes → Bytes
  | [] => []
  | byte :: rest => if byte ∈ signs then rest else byte :: rest

/-- The numeral behind a sign, if the text starts with one. -/
def signedValue (text digits : Bytes) : Int :=
  if text.head? = some 45 then -(digitsValue digits : Int)
  else digitsValue digits

def scanFraction : Bytes → Option (Bytes × Bytes)
  | [] => some ([], [])
  | byte :: rest =>
      if byte = 46 then
        if rest.takeWhile isDigit = [] then none
        else some (rest.takeWhile isDigit, rest.dropWhile isDigit)
      else some ([], byte :: rest)

def scanExponent : Bytes → Option (Int × Bytes)
  | [] => some (0, [])
  | byte :: rest =>
      if byte = 101 ∨ byte = 69 then
        if (dropSign [43, 45] rest).takeWhile isDigit = [] then none
        else
          some (signedValue rest ((dropSign [43, 45] rest).takeWhile isDigit),
            (dropSign [43, 45] rest).dropWhile isDigit)
      else some (0, byte :: rest)

/-- A number has no leading zero. -/
def scanNumber (text : Bytes) : Option (Value × Bytes) :=
  let digits := (dropSign [45] text).takeWhile isDigit
  if digits = [] ∨ (digits.head? = some 48 ∧ digits ≠ [48]) then none
  else do
    let (places, behind) ← scanFraction ((dropSign [45] text).dropWhile isDigit)
    let (exponent, behind) ← scanExponent behind
    return (.number (signedValue text (digits ++ places))
      (exponent - places.length), behind)

/-! ### Values -/

def scanWord (word : String) (value : Value) (text : Bytes) :
    Option (Value × Bytes) :=
  if (ofString word).isPrefixOf text then
    some (value, text.drop (ofString word).length)
  else none

section Blocks

variable {α : Type} (item : Bytes → Option (α × Bytes)) (close : UInt8)

/-- Items up to the closing byte, separated by commas. -/
def parseItems : Nat → Bytes → Option (List α × Bytes)
  | 0, _ => none
  | fuel + 1, text => do
      let (first, behind) ← item text
      match skipBlanks behind with
      | [] => none
      | byte :: rest =>
          if byte = close then return ([first], rest)
          else if byte = 44 then do
            let (others, behind) ← parseItems fuel rest
            return (first :: others, behind)
          else none

def parseBlock (fuel : Nat) (text : Bytes) : Option (List α × Bytes) :=
  match expect close text with
  | some rest => some ([], rest)
  | none => parseItems item close fuel text

end Blocks

def parseMember (value : Bytes → Option (Value × Bytes)) (text : Bytes) :
    Option ((Bytes × Value) × Bytes) := do
  let quoted ← expect 34 text
  let (key, behind) ← parseString quoted
  let rest ← expect 58 behind
  let (member, behind) ← value rest
  return ((key, member), behind)

/-- A value, nested no deeper than the fuel. -/
def parseValue : Nat → Bytes → Option (Value × Bytes)
  | 0, _ => none
  | fuel + 1, text =>
      match skipBlanks text with
      | [] => none
      | byte :: rest =>
          if byte = 34 then do
            let (value, behind) ← parseString rest
            return (.string value, behind)
          else if byte = 91 then do
            let (items, behind) ← parseBlock (parseValue fuel) 93 fuel rest
            return (.array items, behind)
          else if byte = 123 then do
            let (members, behind) ←
              parseBlock (parseMember (parseValue fuel)) 125 fuel rest
            return (.object members, behind)
          else if byte = 110 then scanWord "null" .null (byte :: rest)
          else if byte = 116 then
            scanWord "true" (.boolean true) (byte :: rest)
          else if byte = 102 then
            scanWord "false" (.boolean false) (byte :: rest)
          else scanNumber (byte :: rest)

/-- The value of a document.  Nesting and items are bounded by its length. -/
def decode (text : Bytes) : Option Value := do
  let (value, behind) ← parseValue text.length text
  if skipBlanks behind = [] then return value else none

/-! ### What a string spells -/

/-- The scan needs only the spelled bytes, which are no control bytes. -/
structure Spells {α : Type} (scan : Bytes → Option α) (spelled : Bytes)
    (value : α) : Prop where
  printable : ∀ byte ∈ spelled, 32 ≤ byte
  read : ∀ behind, scan (spelled ++ behind) = some value

section Escapes

variable {text : Bytes}

private theorem printable_hexDigit {byte : UInt8} {value : Nat}
    (read : hexDigit byte = some value) : 32 ≤ byte := by
  unfold hexDigit at read
  split at read
  · rename_i range
    exact UInt8.le_trans (by decide) range.1
  · split at read
    · rename_i range
      exact UInt8.le_trans (by decide) range.1
    · split at read
      · rename_i range
        exact UInt8.le_trans (by decide) range.1
      · cases read

theorem hexUnit_spells {unit : Nat} (read : hexUnit text = some unit) :
    ∃ spelled behind, text = spelled ++ behind ∧ spelled.length = 4 ∧
      Spells hexUnit spelled unit := by
  unfold hexUnit at read
  split at read
  · rename_i first second third fourth behind
    simp only [Option.bind_eq_bind, Option.bind_eq_some_iff] at read
    obtain ⟨a, readA, b, readB, c, readC, d, readD, value⟩ := read
    refine ⟨[first, second, third, fourth], behind, rfl, rfl, ?_, ?_⟩
    · simp only [List.forall_mem_cons, List.not_mem_nil, false_implies,
        implies_true, and_true]
      exact ⟨printable_hexDigit readA, printable_hexDigit readB,
        printable_hexDigit readC, printable_hexDigit readD⟩
    · intro other
      change (hexUnit (first :: second :: third :: fourth :: other)) = _
      simp only [hexUnit, readA, readB, readC, readD]
      exact value
  · cases read

theorem lowUnit_spells {unit : Nat} (read : lowUnit text = some unit) :
    ∃ spelled behind, text = spelled ++ behind ∧ spelled.length = 6 ∧
      Spells lowUnit spelled unit := by
  unfold lowUnit at read
  split at read
  · rename_i backslash letter digits
    simp only [Option.bind_eq_bind, Option.bind_eq_some_iff] at read
    obtain ⟨low, readLow, value⟩ := read
    split at value
    · rename_i pair
      obtain ⟨rfl, rfl, range⟩ := pair
      obtain ⟨spelled, behind, rfl, length, spells⟩ := hexUnit_spells readLow
      refine ⟨92 :: 117 :: spelled, behind, rfl, by rw [List.length_cons,
        List.length_cons, length], ?_, ?_⟩
      · rw [List.forall_mem_cons, List.forall_mem_cons]
        exact ⟨by decide, by decide, spells.printable⟩
      · intro other
        change lowUnit (92 :: 117 :: (spelled ++ other)) = _
        simp only [lowUnit, spells.read other, Option.bind_eq_bind,
          Option.bind_some, true_and, range]
        exact value
    · cases value
  · cases read

private theorem length_encodeScalar (scalar : Nat) :
    (encodeScalar scalar).length ≤ 4 := by
  unfold encodeScalar
  rw [String.length_utf8EncodeChar]
  exact Char.utf8Size_le_four _

theorem readUnicode_spells {character : Bytes} {used : Nat}
    (read : readUnicode text = some (character, used)) :
    ∃ spelled behind, text = spelled ++ behind ∧ spelled.length = used ∧
      character.length ≤ used ∧
      Spells readUnicode spelled (character, used) := by
  unfold readUnicode at read
  simp only [Option.bind_eq_bind, Option.bind_eq_some_iff] at read
  obtain ⟨unit, readUnit, read⟩ := read
  obtain ⟨spelled, behind, rfl, length, spells⟩ := hexUnit_spells readUnit
  by_cases single : unit < 0xD800 ∨ 0xE000 ≤ unit
  · rw [if_pos single] at read
    cases read
    refine ⟨spelled, behind, rfl, length, length_encodeScalar unit,
      spells.printable, ?_⟩
    intro other
    simp only [readUnicode, spells.read other, Option.bind_eq_bind,
      Option.bind_some, if_pos single]
    rfl
  · rw [if_neg single] at read
    by_cases high : unit < 0xDC00
    · rw [if_pos high, List.drop_left' length] at read
      simp only [Option.bind_eq_some_iff] at read
      obtain ⟨low, readLow, read⟩ := read
      obtain ⟨second, behind, rfl, lengthLow, spellsLow⟩ :=
        lowUnit_spells readLow
      obtain ⟨rfl, rfl⟩ := Prod.mk.inj (Option.some.inj read)
      refine ⟨spelled ++ second, behind, (List.append_assoc ..).symm, ?_,
        (length_encodeScalar _).trans (by decide), ?_, ?_⟩
      · rw [List.length_append, length, lengthLow]
      · intro byte member
        rcases List.mem_append.mp member with early | late
        · exact spells.printable byte early
        · exact spellsLow.printable byte late
      · intro other
        rw [List.append_assoc]
        simp only [readUnicode, spells.read (second ++ other),
          Option.bind_eq_bind, Option.bind_some, if_neg single, if_pos high,
          List.drop_left' length, spellsLow.read other]
        rfl
    · rw [if_neg high] at read
      cases read

private theorem shortEscape_spells {letter : UInt8} {character : Bytes}
    (read : shortEscape letter = some character) :
    32 ≤ letter ∧ character.length = 1 := by
  unfold shortEscape at read
  grind

/-- An escape is at least as long as the character that it stands for. -/
theorem readEscape_spells {character : Bytes} {used : Nat}
    (read : readEscape text = some (character, used)) :
    ∃ spelled behind, text = spelled ++ behind ∧ spelled.length = used ∧
      character.length ≤ used ∧
      Spells readEscape spelled (character, used) := by
  cases text with
  | nil => cases read
  | cons letter rest =>
      unfold readEscape at read
      by_cases unicode : letter = 117
      · subst unicode
        simp only [if_pos, Option.bind_eq_bind, Option.bind_eq_some_iff] at read
        obtain ⟨⟨scalar, digits⟩, readScalar, same⟩ := read
        cases same
        obtain ⟨spelled, behind, rfl, length, short, spells⟩ :=
          readUnicode_spells readScalar
        refine ⟨117 :: spelled, behind, rfl, by rw [List.length_cons, length],
          Nat.le_succ_of_le short, ?_, ?_⟩
        · rw [List.forall_mem_cons]
          exact ⟨by decide, spells.printable⟩
        · intro other
          change readEscape (117 :: (spelled ++ other)) = _
          simp only [readEscape, if_pos, spells.read other,
            Option.bind_eq_bind, Option.bind_some]
          rfl
      · simp only [if_neg unicode, Option.bind_eq_bind,
          Option.bind_eq_some_iff] at read
        obtain ⟨short, readShort, same⟩ := read
        cases same
        obtain ⟨printable, length⟩ := shortEscape_spells readShort
        refine ⟨[letter], rest, rfl, rfl, length.le, ?_, ?_⟩
        · simpa using printable
        · intro other
          change readEscape (letter :: other) = _
          simp only [readEscape, if_neg unicode, readShort,
            Option.bind_eq_bind, Option.bind_some]
          rfl

end Escapes

/-! ### Strings -/

/-- The bytes between two quotes.  Only a string without escapes is as long as
what it stands for. -/
structure Stands (body value : Bytes) : Prop where
  printable : ∀ byte ∈ body, 32 ≤ byte
  short : value.length ≤ body.length
  verbatim : body.length ≤ value.length →
    value = body ∧ ∀ byte ∈ body, byte ≠ 34 ∧ byte ≠ 92

theorem Stands.nil : Stands [] [] :=
  ⟨nofun, Nat.le_refl 0, fun _ => ⟨rfl, nofun⟩⟩

theorem Stands.cons {byte : UInt8} {body value : Bytes} (high : 32 ≤ byte)
    (noQuote : byte ≠ 34) (noBackslash : byte ≠ 92)
    (stands : Stands body value) :
    Stands (byte :: body) (byte :: value) where
  printable := List.forall_mem_cons.mpr ⟨high, stands.printable⟩
  short := Nat.succ_le_succ stands.short
  verbatim long := by
    obtain ⟨same, clean⟩ := stands.verbatim (Nat.le_of_succ_le_succ long)
    exact ⟨congrArg _ same,
      List.forall_mem_cons.mpr ⟨⟨noQuote, noBackslash⟩, clean⟩⟩

theorem Stands.escape {spelled character body value : Bytes}
    (printable : ∀ byte ∈ spelled, 32 ≤ byte)
    (short : character.length ≤ spelled.length) (stands : Stands body value) :
    Stands (92 :: (spelled ++ body)) (character ++ value) := by
  have shorter : (character ++ value).length <
      (92 :: (spelled ++ body)).length := by
    have behind := stands.short
    rw [List.length_append, List.length_cons, List.length_append]
    omega
  refine ⟨?_, shorter.le, fun long => absurd shorter (Nat.not_lt.mpr long)⟩
  rw [List.forall_mem_cons]
  refine ⟨by decide, fun byte member => ?_⟩
  rcases List.mem_append.mp member with inside | later
  · exact printable byte inside
  · exact stands.printable byte later

theorem scanString_used (spelled text : Bytes) :
    scanString spelled.length (spelled ++ text) = scanString 0 text := by
  induction spelled with
  | nil => rfl
  | cons byte spelled ih => exact ih

theorem scanString_escape {text spelled character : Bytes}
    (spells : Spells readEscape spelled (character, spelled.length)) :
    scanString 0 (92 :: (spelled ++ text)) =
      (scanString 0 text).map fun (value, behind) =>
        (character ++ value, behind) := by
  rw [scanString, if_neg (by decide), if_pos rfl, spells.read text]
  simp only [Option.bind_eq_bind, Option.bind_some, scanString_used]
  cases scanString 0 text with
  | none => rfl
  | some scanned => rfl

theorem scanString_printable {byte : UInt8} (text : Bytes) (high : 32 ≤ byte)
    (noQuote : byte ≠ 34) (noBackslash : byte ≠ 92) :
    scanString 0 (byte :: text) =
      (scanString 0 text).map fun (value, behind) => (byte :: value, behind) := by
  rw [scanString, if_neg noQuote, if_neg noBackslash,
    if_neg (UInt8.not_lt.mpr high)]
  cases scanString 0 text with
  | none => rfl
  | some scanned => rfl

/-- What starts a string, by the first byte. -/
theorem scanString_cases {text value behind : Bytes}
    (scanned : scanString 0 text = some (value, behind)) :
    (text = 34 :: behind ∧ value = []) ∨
      (∃ byte rest others, text = byte :: rest ∧ 32 ≤ byte ∧ byte ≠ 34 ∧
        byte ≠ 92 ∧ scanString 0 rest = some (others, behind) ∧
        value = byte :: others) ∨
      ∃ spelled character rest others, text = 92 :: (spelled ++ rest) ∧
        character.length ≤ spelled.length ∧
        Spells readEscape spelled (character, spelled.length) ∧
        scanString 0 rest = some (others, behind) ∧
        value = character ++ others := by
  cases text with
  | nil => cases scanned
  | cons byte rest =>
      rw [scanString] at scanned
      by_cases quote : byte = 34
      · rw [if_pos quote] at scanned
        cases scanned
        exact Or.inl ⟨congrArg (· :: behind) quote, rfl⟩
      · rw [if_neg quote] at scanned
        by_cases backslash : byte = 92
        · subst backslash
          simp only [if_pos, Option.bind_eq_bind,
            Option.bind_eq_some_iff] at scanned
          obtain ⟨⟨character, used⟩, escape, ⟨others, last⟩, scannedRest,
            same⟩ := scanned
          obtain ⟨spelled, tail, rfl, rfl, short, spells⟩ :=
            readEscape_spells escape
          simp only [scanString_used] at scannedRest
          cases same
          exact Or.inr (Or.inr ⟨spelled, character, tail, others, rfl, short,
            spells, scannedRest, rfl⟩)
        · rw [if_neg backslash] at scanned
          by_cases low : byte < 32
          · rw [if_pos low] at scanned
            cases scanned
          · simp only [if_neg low, Option.bind_eq_bind,
              Option.bind_eq_some_iff] at scanned
            obtain ⟨⟨others, last⟩, scannedRest, same⟩ := scanned
            cases same
            exact Or.inr (Or.inl ⟨byte, rest, others, rfl,
              UInt8.not_lt.mp low, quote, backslash, scannedRest, rfl⟩)

/-- The bytes that were read, whatever stands behind them. -/
theorem scanString_stands {text value behind : Bytes}
    (scanned : scanString 0 text = some (value, behind)) :
    ∃ body, text = body ++ 34 :: behind ∧ Stands body value ∧
      ∀ more, scanString 0 (body ++ 34 :: more) = some (value, more) := by
  induction measure : text.length using Nat.strongRecOn
    generalizing text value with
  | ind size ih =>
      subst measure
      rcases scanString_cases scanned with ⟨rfl, rfl⟩ |
        ⟨byte, rest, others, rfl, high, noQuote, noBackslash, later, rfl⟩ |
        ⟨spelled, character, rest, others, rfl, short, spells, later, rfl⟩
      · exact ⟨[], rfl, Stands.nil, fun _ => rfl⟩
      · obtain ⟨body, rfl, stands, read⟩ :=
          ih rest.length (Nat.lt_succ_self _) later rfl
        refine ⟨byte :: body, rfl,
          stands.cons high noQuote noBackslash, fun more => ?_⟩
        rw [List.cons_append, scanString_printable _ high noQuote noBackslash,
          read more]
        rfl
      · have shorter : rest.length < (92 :: (spelled ++ rest)).length := by
          rw [List.length_cons, List.length_append]
          omega
        obtain ⟨body, rfl, stands, read⟩ := ih rest.length shorter later rfl
        refine ⟨92 :: (spelled ++ body), ?_,
          stands.escape spells.printable short, fun more => ?_⟩
        · rw [List.cons_append, List.append_assoc]
        · rw [List.cons_append, List.append_assoc, scanString_escape spells,
            read more]
          rfl

/-- The bytes that JSON strings need not escape. -/
def Verbatim (text : Bytes) : Prop :=
  ∀ byte ∈ text, 32 ≤ byte ∧ byte ≠ 34 ∧ byte ≠ 92

instance (text : Bytes) : Decidable (Verbatim text) :=
  List.decidableBAll _ text

theorem scanString_verbatim {text : Bytes} (behind : Bytes)
    (verbatim : Verbatim text) :
    scanString 0 (text ++ 34 :: behind) = some (text, behind) := by
  induction text with
  | nil => rfl
  | cons byte text ih =>
      obtain ⟨⟨high, noQuote, noBackslash⟩, later⟩ :=
        List.forall_mem_cons.mp verbatim
      rw [List.cons_append, scanString_printable _ high noQuote noBackslash,
        ih later]
      rfl

theorem parseString_eq_some_iff {text value behind : Bytes} :
    parseString text = some (value, behind) ↔
      scanString 0 text = some (value, behind) ∧ utf8 value = true := by
  unfold parseString
  constructor
  · intro parsed
    simp only [Option.bind_eq_bind, Option.bind_eq_some_iff] at parsed
    obtain ⟨⟨found, last⟩, scanned, parsed⟩ := parsed
    by_cases encoded : utf8 found = true
    · rw [if_pos encoded] at parsed
      cases parsed
      exact ⟨scanned, encoded⟩
    · rw [if_neg encoded] at parsed
      cases parsed
  · rintro ⟨scanned, encoded⟩
    simp only [scanned, Option.bind_eq_bind, Option.bind_some, encoded]
    rfl

/-! ### Longer texts -/

/-- What one reader returns with text left over, the other returns with more
text behind. -/
def CarriesOver {α : Type} (reader longer : Bytes → Option (α × Bytes))
    (more : Bytes) : Prop :=
  ∀ text value behind, reader text = some (value, behind) → behind ≠ [] →
    longer (text ++ more) = some (value, behind ++ more)

theorem skipBlanks_append {text rest : Bytes} {byte : UInt8} (more : Bytes)
    (found : skipBlanks text = byte :: rest) :
    skipBlanks (text ++ more) = byte :: (rest ++ more) := by
  unfold skipBlanks at found ⊢
  rw [List.dropWhile_append, found]
  rfl

theorem expect_eq_some_iff {byte : UInt8} {text rest : Bytes} :
    expect byte text = some rest ↔ skipBlanks text = byte :: rest := by
  unfold expect
  cases skipBlanks text with
  | nil => simp
  | cons found others =>
      simp only [List.cons.injEq]
      by_cases same : found = byte
      · rw [if_pos same, Option.some.injEq]
        exact ⟨fun tail => ⟨same, tail⟩, fun both => both.2⟩
      · rw [if_neg same]
        exact ⟨nofun, fun both => absurd both.1 same⟩

theorem parseString_append {text value behind : Bytes} (more : Bytes)
    (parsed : parseString text = some (value, behind)) :
    parseString (text ++ more) = some (value, behind ++ more) := by
  obtain ⟨scanned, encoded⟩ := parseString_eq_some_iff.mp parsed
  obtain ⟨body, rfl, _, read⟩ := scanString_stands scanned
  apply parseString_eq_some_iff.mpr
  rw [List.append_assoc, List.cons_append]
  exact ⟨read (behind ++ more), encoded⟩

section Numbers

variable {text behind : Bytes}

theorem digits_append (more : Bytes) (left : text.dropWhile isDigit ≠ []) :
    (text ++ more).takeWhile isDigit = text.takeWhile isDigit ∧
      (text ++ more).dropWhile isDigit = text.dropWhile isDigit ++ more := by
  have parts : text.takeWhile isDigit ++ text.dropWhile isDigit = text :=
    List.takeWhile_append_dropWhile
  constructor
  · rw [List.takeWhile_append, if_neg]
    intro all
    have lengths := congrArg List.length parts
    rw [List.length_append, all] at lengths
    exact left (List.length_eq_zero_iff.mp (by omega))
  · rw [List.dropWhile_append, if_neg (by simpa using left)]

theorem scanFraction_append {places : Bytes} (more : Bytes)
    (scanned : scanFraction text = some (places, behind))
    (left : behind ≠ []) :
    scanFraction (text ++ more) = some (places, behind ++ more) := by
  cases text with
  | nil =>
      cases scanned
      exact absurd rfl left
  | cons byte rest =>
      rw [scanFraction] at scanned
      rw [List.cons_append, scanFraction]
      by_cases point : byte = 46
      · rw [if_pos point] at scanned ⊢
        by_cases empty : rest.takeWhile isDigit = []
        · rw [if_pos empty] at scanned
          cases scanned
        · rw [if_neg empty] at scanned
          cases scanned
          obtain ⟨digits, remaining⟩ := digits_append more left
          rw [digits, remaining, if_neg empty]
      · rw [if_neg point] at scanned ⊢
        cases scanned
        rfl

theorem head?_append_of_ne_nil (more : Bytes) (filled : text ≠ []) :
    (text ++ more).head? = text.head? := by
  obtain ⟨first, rest, rfl⟩ := List.exists_cons_of_ne_nil filled
  rfl

theorem dropSign_append (signs : List UInt8) (more : Bytes)
    (filled : text ≠ []) :
    dropSign signs (text ++ more) = dropSign signs text ++ more := by
  obtain ⟨first, rest, rfl⟩ := List.exists_cons_of_ne_nil filled
  rw [List.cons_append, dropSign, dropSign]
  split
  · rfl
  · rfl

theorem filled_of_digits {signs : List UInt8}
    (left : (dropSign signs text).dropWhile isDigit ≠ []) : text ≠ [] := by
  rintro rfl
  exact left rfl

theorem scanExponent_append {exponent : Int} (more : Bytes)
    (scanned : scanExponent text = some (exponent, behind))
    (left : behind ≠ []) :
    scanExponent (text ++ more) = some (exponent, behind ++ more) := by
  cases text with
  | nil =>
      cases scanned
      exact absurd rfl left
  | cons byte rest =>
      rw [scanExponent] at scanned
      rw [List.cons_append, scanExponent]
      by_cases letter : byte = 101 ∨ byte = 69
      · rw [if_pos letter] at scanned ⊢
        by_cases empty : (dropSign [43, 45] rest).takeWhile isDigit = []
        · rw [if_pos empty] at scanned
          cases scanned
        · rw [if_neg empty] at scanned
          cases scanned
          have filled := filled_of_digits left
          obtain ⟨digits, remaining⟩ := digits_append more left
          rw [dropSign_append _ more filled, digits, remaining, if_neg empty]
          unfold signedValue
          rw [head?_append_of_ne_nil more filled]
      · rw [if_neg letter] at scanned ⊢
        cases scanned
        rfl

/-- Digits that no number starts with. -/
def BadDigits (digits : Bytes) : Prop :=
  digits = [] ∨ (digits.head? = some 48 ∧ digits ≠ [48])

theorem scanNumber_cases {value : Value}
    (scanned : scanNumber text = some (value, behind)) :
    ∃ places tail exponent,
      ¬BadDigits ((dropSign [45] text).takeWhile isDigit) ∧
      scanFraction ((dropSign [45] text).dropWhile isDigit) =
        some (places, tail) ∧
      scanExponent tail = some (exponent, behind) ∧
      value = .number
        (signedValue text ((dropSign [45] text).takeWhile isDigit ++ places))
        (exponent - places.length) := by
  unfold scanNumber at scanned
  by_cases bad : BadDigits ((dropSign [45] text).takeWhile isDigit)
  · rw [BadDigits] at bad
    rw [if_pos bad] at scanned
    cases scanned
  · rw [BadDigits] at bad
    simp only [if_neg bad, Option.bind_eq_bind,
      Option.bind_eq_some_iff] at scanned
    obtain ⟨⟨places, tail⟩, fraction, ⟨exponent, last⟩, power, same⟩ := scanned
    cases same
    exact ⟨places, tail, exponent, bad, fraction, power, rfl⟩

theorem scanNumber_of {places tail : Bytes} {exponent : Int}
    (good : ¬BadDigits ((dropSign [45] text).takeWhile isDigit))
    (fraction : scanFraction ((dropSign [45] text).dropWhile isDigit) =
      some (places, tail))
    (power : scanExponent tail = some (exponent, behind)) :
    scanNumber text = some (.number
      (signedValue text ((dropSign [45] text).takeWhile isDigit ++ places))
      (exponent - places.length), behind) := by
  rw [BadDigits] at good
  unfold scanNumber
  simp only [if_neg good, fraction, power, Option.bind_eq_bind,
    Option.bind_some]
  rfl

theorem scanNumber_append {value : Value} (more : Bytes)
    (scanned : scanNumber text = some (value, behind)) (left : behind ≠ []) :
    scanNumber (text ++ more) = some (value, behind ++ more) := by
  obtain ⟨places, tail, exponent, good, fraction, power, rfl⟩ :=
    scanNumber_cases scanned
  have tailLeft : tail ≠ [] := by
    rintro rfl
    cases power
    exact left rfl
  have digitsLeft : (dropSign [45] text).dropWhile isDigit ≠ [] := by
    intro empty
    rw [empty] at fraction
    cases fraction
    exact tailLeft rfl
  have filled := filled_of_digits digitsLeft
  obtain ⟨digits, remaining⟩ := digits_append more digitsLeft
  have longer := dropSign_append [45] more filled
  have sameSign (spelled : Bytes) :
      signedValue (text ++ more) spelled = signedValue text spelled := by
    unfold signedValue
    rw [head?_append_of_ne_nil more filled]
  rw [← longer] at digits remaining
  rw [← digits] at good ⊢
  rw [← sameSign]
  apply scanNumber_of good
  · rw [remaining]
    exact scanFraction_append more fraction tailLeft
  · exact scanExponent_append more power left

end Numbers

section Blocks

variable {α : Type} {item longer : Bytes → Option (α × Bytes)}
  {close : UInt8} {more : Bytes}

/-- One item and what follows it, by the byte behind. -/
theorem parseItems_succ_cases {fuel : Nat} {text behind : Bytes}
    {values : List α}
    (parsed : parseItems item close (fuel + 1) text = some (values, behind)) :
    ∃ first tail byte rest, item text = some (first, tail) ∧
      skipBlanks tail = byte :: rest ∧
      ((byte = close ∧ values = [first] ∧ behind = rest) ∨
        (byte ≠ close ∧ byte = 44 ∧ ∃ others, values = first :: others ∧
          parseItems item close fuel rest = some (others, behind))) := by
  rw [parseItems] at parsed
  simp only [Option.bind_eq_bind, Option.bind_eq_some_iff] at parsed
  obtain ⟨⟨first, tail⟩, found, parsed⟩ := parsed
  simp only at parsed
  cases blanks : skipBlanks tail with
  | nil =>
      rw [blanks] at parsed
      cases parsed
  | cons byte rest =>
      refine ⟨first, tail, byte, rest, found, blanks, ?_⟩
      simp only [blanks] at parsed
      by_cases closing : byte = close
      · rw [if_pos closing] at parsed
        cases parsed
        exact Or.inl ⟨closing, rfl, rfl⟩
      · rw [if_neg closing] at parsed
        by_cases comma : byte = 44
        · simp only [if_pos comma, Option.bind_eq_some_iff] at parsed
          obtain ⟨⟨others, last⟩, later, same⟩ := parsed
          cases same
          exact Or.inr ⟨closing, comma, others, rfl, later⟩
        · rw [if_neg comma] at parsed
          cases parsed

theorem parseItems_last {fuel : Nat} {text tail rest : Bytes} {first : α}
    (found : item text = some (first, tail))
    (closing : skipBlanks tail = close :: rest) :
    parseItems item close (fuel + 1) text = some ([first], rest) := by
  rw [parseItems]
  simp only [found, Option.bind_eq_bind, Option.bind_some, closing, if_pos]
  rfl

theorem parseItems_comma {fuel : Nat} {text tail rest : Bytes} {first : α}
    (notClose : close ≠ 44) (found : item text = some (first, tail))
    (comma : skipBlanks tail = 44 :: rest) :
    parseItems item close (fuel + 1) text =
      (parseItems item close fuel rest).map fun (others, behind) =>
        (first :: others, behind) := by
  rw [parseItems]
  simp only [found, Option.bind_eq_bind, Option.bind_some, comma, if_pos,
    if_neg notClose.symm]
  cases parseItems item close fuel rest with
  | none => rfl
  | some parsed => rfl

theorem parseItems_append (carries : CarriesOver item longer more)
    {fuel enough : Nat} (within : fuel ≤ enough) {text behind : Bytes}
    {values : List α}
    (parsed : parseItems item close fuel text = some (values, behind)) :
    parseItems longer close enough (text ++ more) =
      some (values, behind ++ more) := by
  induction fuel generalizing enough text values with
  | zero => cases parsed
  | succ fuel ih =>
      obtain ⟨first, tail, byte, rest, found, blanks, next⟩ :=
        parseItems_succ_cases parsed
      have left : tail ≠ [] := by
        rintro rfl
        cases blanks
      have read := carries text first tail found left
      have blanksMore := skipBlanks_append more blanks
      cases enough with
      | zero => cases within
      | succ enough =>
          rcases next with ⟨rfl, rfl, rfl⟩ | ⟨notClose, rfl, others, rfl, later⟩
          · exact parseItems_last read blanksMore
          · rw [parseItems_comma notClose.symm read blanksMore,
              ih (Nat.le_of_succ_le_succ within) later]
            rfl

theorem parseItems_skip {fuel : Nat} {text behind : Bytes} {values : List α}
    (parsed : parseItems item close fuel text = some (values, behind)) :
    ∃ first tail, item text = some (first, tail) := by
  cases fuel with
  | zero => cases parsed
  | succ fuel =>
      obtain ⟨first, tail, _, _, found, _⟩ := parseItems_succ_cases parsed
      exact ⟨first, tail, found⟩

/-- No item is found in blanks alone. -/
theorem parseBlock_append (carries : CarriesOver item longer more)
    (skips : ∀ text, skipBlanks text = [] → item text = none)
    {fuel enough : Nat} (within : fuel ≤ enough) {text behind : Bytes}
    {values : List α}
    (parsed : parseBlock item close fuel text = some (values, behind)) :
    parseBlock longer close enough (text ++ more) =
      some (values, behind ++ more) := by
  unfold parseBlock at parsed ⊢
  cases closing : expect close text with
  | some rest =>
      rw [closing] at parsed
      cases parsed
      rw [expect_eq_some_iff.mpr
        (skipBlanks_append more (expect_eq_some_iff.mp closing))]
  | none =>
      rw [closing] at parsed
      obtain ⟨first, tail, found⟩ := parseItems_skip parsed
      have open_ : expect close (text ++ more) = none := by
        cases blanks : skipBlanks text with
        | nil =>
            rw [skips text blanks] at found
            cases found
        | cons byte rest =>
            unfold expect at closing ⊢
            rw [blanks] at closing
            rw [skipBlanks_append more blanks]
            simpa using closing
      rw [open_]
      exact parseItems_append carries within parsed

end Blocks

theorem parseMember_eq_some_iff
    {reader : Bytes → Option (Value × Bytes)} {text key behind : Bytes}
    {value : Value} :
    parseMember reader text = some ((key, value), behind) ↔
      ∃ quoted tail rest, expect 34 text = some quoted ∧
        parseString quoted = some (key, tail) ∧
        expect 58 tail = some rest ∧ reader rest = some (value, behind) := by
  unfold parseMember
  simp only [Option.bind_eq_bind, Option.bind_eq_some_iff, Option.pure_def,
    Option.some.injEq, Prod.mk.injEq, Prod.exists]
  constructor
  · rintro ⟨quoted, opened, found, tail, string, rest, colon, member, last,
      read, ⟨rfl, rfl⟩, rfl⟩
    exact ⟨quoted, tail, rest, opened, string, colon, read⟩
  · rintro ⟨quoted, tail, rest, opened, string, colon, read⟩
    exact ⟨quoted, opened, key, tail, string, rest, colon, value, behind,
      read, ⟨rfl, rfl⟩, rfl⟩

theorem parseMember_append {reader longer : Bytes → Option (Value × Bytes)}
    {more : Bytes} (carries : CarriesOver reader longer more) :
    CarriesOver (parseMember reader) (parseMember longer) more := by
  rintro text ⟨key, value⟩ behind parsed left
  obtain ⟨quoted, tail, rest, opened, string, colon, read⟩ :=
    parseMember_eq_some_iff.mp parsed
  apply parseMember_eq_some_iff.mpr
  refine ⟨quoted ++ more, tail ++ more, rest ++ more, ?_,
    parseString_append more string, ?_, carries rest value behind read left⟩
  · exact expect_eq_some_iff.mpr
      (skipBlanks_append more (expect_eq_some_iff.mp opened))
  · exact expect_eq_some_iff.mpr
      (skipBlanks_append more (expect_eq_some_iff.mp colon))

theorem scanWord_append {word : String} {meant value : Value}
    {text behind : Bytes} (more : Bytes)
    (scanned : scanWord word meant text = some (value, behind)) :
    scanWord word meant (text ++ more) = some (value, behind ++ more) := by
  unfold scanWord at scanned ⊢
  by_cases found : (ofString word).isPrefixOf text = true
  · rw [if_pos found] at scanned
    cases scanned
    obtain ⟨rest, rfl⟩ := List.isPrefixOf_iff_prefix.mp found
    rw [List.append_assoc, if_pos]
    · rw [List.drop_left, List.drop_left]
    · exact List.isPrefixOf_iff_prefix.mpr (List.prefix_append _ _)
  · rw [if_neg found] at scanned
    cases scanned

theorem parseValue_blank {fuel : Nat} {text : Bytes}
    (blank : skipBlanks text = []) : parseValue fuel text = none := by
  cases fuel with
  | zero => rfl
  | succ fuel => rw [parseValue, blank]

theorem parseMember_blank {reader : Bytes → Option (Value × Bytes)}
    {text : Bytes} (blank : skipBlanks text = []) :
    parseMember reader text = none := by
  unfold parseMember expect
  rw [blank]
  rfl

/-- The end of a number is not marked by its text. -/
def Value.closed : Value → Bool
  | .number _ _ => false
  | _ => true

theorem scanNumber_open {text behind : Bytes} {value : Value}
    (scanned : scanNumber text = some (value, behind)) :
    value.closed = false := by
  obtain ⟨_, _, _, _, _, _, rfl⟩ := scanNumber_cases scanned
  rfl

section Values

variable {fuel : Nat} {text rest behind : Bytes} {value : Value}

theorem parseValue_string (blanks : skipBlanks text = 34 :: rest) :
    parseValue (fuel + 1) text = some (value, behind) ↔
      ∃ content, parseString rest = some (content, behind) ∧
        value = .string content := by
  rw [parseValue, blanks]
  simp only [if_pos, Option.bind_eq_bind, Option.bind_eq_some_iff]
  constructor
  · rintro ⟨⟨content, last⟩, parsed, same⟩
    cases same
    exact ⟨content, parsed, rfl⟩
  · rintro ⟨content, parsed, rfl⟩
    exact ⟨_, parsed, rfl⟩

theorem parseValue_array (blanks : skipBlanks text = 91 :: rest) :
    parseValue (fuel + 1) text = some (value, behind) ↔
      ∃ items, parseBlock (parseValue fuel) 93 fuel rest =
          some (items, behind) ∧ value = .array items := by
  rw [parseValue, blanks]
  simp only [if_pos, Option.bind_eq_bind]
  rw [if_neg (by decide)]
  constructor
  · intro read
    obtain ⟨⟨items, last⟩, parsed, same⟩ := Option.bind_eq_some_iff.mp read
    cases same
    exact ⟨items, parsed, rfl⟩
  · rintro ⟨items, parsed, rfl⟩
    exact Option.bind_eq_some_iff.mpr ⟨_, parsed, rfl⟩

theorem parseValue_object (blanks : skipBlanks text = 123 :: rest) :
    parseValue (fuel + 1) text = some (value, behind) ↔
      ∃ members, parseBlock (parseMember (parseValue fuel)) 125 fuel rest =
          some (members, behind) ∧ value = .object members := by
  rw [parseValue, blanks]
  simp only [Option.bind_eq_bind]
  rw [if_neg (by decide), if_neg (by decide), if_pos trivial]
  constructor
  · intro read
    obtain ⟨⟨members, last⟩, parsed, same⟩ := Option.bind_eq_some_iff.mp read
    cases same
    exact ⟨members, parsed, rfl⟩
  · rintro ⟨members, parsed, rfl⟩
    exact Option.bind_eq_some_iff.mpr ⟨_, parsed, rfl⟩

/-- Any other value is a word or a number. -/
theorem parseValue_plain {byte : UInt8} (blanks : skipBlanks text = byte :: rest)
    (noString : byte ≠ 34) (noArray : byte ≠ 91) (noObject : byte ≠ 123) :
    parseValue (fuel + 1) text =
      if byte = 110 then scanWord "null" .null (byte :: rest)
      else if byte = 116 then scanWord "true" (.boolean true) (byte :: rest)
      else if byte = 102 then scanWord "false" (.boolean false) (byte :: rest)
      else scanNumber (byte :: rest) := by
  rw [parseValue, blanks]
  simp only [if_neg noString, if_neg noArray, if_neg noObject]

/-- A value that ends within the text is read the same before more text. -/
theorem parseValue_append {enough : Nat} (within : fuel ≤ enough)
    (more : Bytes) (parsed : parseValue fuel text = some (value, behind))
    (ends : behind ≠ [] ∨ value.closed = true) :
    parseValue enough (text ++ more) = some (value, behind ++ more) := by
  induction fuel generalizing enough text value behind with
  | zero => cases parsed
  | succ fuel ih =>
      cases enough with
      | zero => cases within
      | succ enough =>
          have inner := Nat.le_of_succ_le_succ within
          have carries : CarriesOver (parseValue fuel) (parseValue enough) more :=
            fun _ _ _ read left => ih inner read (Or.inl left)
          cases blanks : skipBlanks text with
          | nil =>
              rw [parseValue_blank blanks] at parsed
              cases parsed
          | cons byte rest =>
              have longer := skipBlanks_append more blanks
              by_cases isString : byte = 34
              · subst isString
                obtain ⟨content, read, rfl⟩ := (parseValue_string blanks).mp parsed
                exact (parseValue_string longer).mpr
                  ⟨content, parseString_append more read, rfl⟩
              by_cases isArray : byte = 91
              · subst isArray
                obtain ⟨items, read, rfl⟩ := (parseValue_array blanks).mp parsed
                exact (parseValue_array longer).mpr ⟨items, parseBlock_append
                  carries (fun _ => parseValue_blank) inner read, rfl⟩
              by_cases isObject : byte = 123
              · subst isObject
                obtain ⟨members, read, rfl⟩ :=
                  (parseValue_object blanks).mp parsed
                exact (parseValue_object longer).mpr ⟨members,
                  parseBlock_append (parseMember_append carries)
                    (fun _ => parseMember_blank) inner read, rfl⟩
              rw [parseValue_plain blanks isString isArray isObject] at parsed
              rw [parseValue_plain longer isString isArray isObject,
                ← List.cons_append]
              by_cases isNull : byte = 110
              · rw [if_pos isNull] at parsed ⊢
                exact scanWord_append more parsed
              by_cases isTrue : byte = 116
              · rw [if_neg isNull, if_pos isTrue] at parsed ⊢
                exact scanWord_append more parsed
              by_cases isFalse : byte = 102
              · rw [if_neg isNull, if_neg isTrue, if_pos isFalse] at parsed ⊢
                exact scanWord_append more parsed
              rw [if_neg isNull, if_neg isTrue, if_neg isFalse] at parsed ⊢
              apply scanNumber_append more parsed
              rcases ends with left | closed
              · exact left
              · rw [scanNumber_open parsed] at closed
                cases closed

end Values

/-! ### Documents -/

theorem decode_eq_some_iff {text : Bytes} {value : Value} :
    decode text = some value ↔
      ∃ behind, parseValue text.length text = some (value, behind) ∧
        skipBlanks behind = [] := by
  unfold decode
  simp only [Option.bind_eq_bind, Option.bind_eq_some_iff]
  constructor
  · rintro ⟨⟨found, behind⟩, parsed, same⟩
    by_cases blank : skipBlanks behind = []
    · rw [if_pos blank] at same
      cases same
      exact ⟨behind, parsed, blank⟩
    · rw [if_neg blank] at same
      cases same
  · rintro ⟨behind, parsed, blank⟩
    exact ⟨(value, behind), parsed, if_pos blank⟩

example : decode (ofString "[-1.5e3, true, \"a\\n\"]\n") =
    some (.array [.number (-15) 2, .boolean true, .string [97, 10]]) := by rfl

example : (decode (ofString "[1, \"a\"b\"]")).isNone = true := by rfl

end Json
