/-
Byte strings as a C program reads and prints them.

Covers fixed character arrays, bounded printing, line reads and unsigned
decimal numerals.  The arithmetic of a numeral is separated from the scan that
finds it, so a parser built on these definitions needs no digit induction.
-/

import Mathlib.Data.List.TakeWhile
import Mathlib.Algebra.Order.Ring.Int

namespace ByteText

abbrev Bytes := List UInt8

def ofString (literal : String) : Bytes :=
  literal.toUTF8.data.toList

/-- The characters before the terminating NUL. -/
def cString (buffer : Bytes) : Bytes :=
  buffer.takeWhile fun byte => byte ≠ 0

/-- Printing into a buffer keeps one byte for the terminator and cuts the rest. -/
def printTo (size : Nat) (text : Bytes) : Bytes :=
  text.take (size - 1)

theorem printTo_of_fits {size : Nat} {text : Bytes}
    (fits : text.length < size) : printTo size text = text := by
  unfold printTo
  apply List.take_of_length_le
  omega

/-- Appending to a text that was cut, and cutting again, cuts the whole. -/
theorem printTo_append (size : Nat) (first second : Bytes) :
    printTo size (printTo size first ++ second) =
      printTo size (first ++ second) := by
  unfold printTo
  rw [List.take_append, List.take_append, List.take_take, Nat.min_self]
  congr 2
  rw [List.length_take]
  omega

/-- A text that was printed with room to spare was printed whole. -/
theorem eq_of_printTo {size : Nat} {text printed : Bytes}
    (same : printTo size text = printed) (room : printed.length < size - 1) :
    text = printed := by
  unfold printTo at same
  have whole : text.length ≤ size - 1 := by
    have lengths := congrArg List.length same
    rw [List.length_take] at lengths
    omega
  rw [← same, List.take_of_length_le whole]

theorem length_printTo_lt {size : Nat} (positive : 0 < size) (text : Bytes) :
    (printTo size text).length < size := by
  unfold printTo
  rw [List.length_take]
  omega

theorem getElem?_printTo {size index : Nat} (text : Bytes)
    (kept : index < size - 1) : (printTo size text)[index]? = text[index]? :=
  List.getElem?_take_of_lt kept

theorem not_mem_cString (buffer : Bytes) : (0 : UInt8) ∉ cString buffer := by
  intro member
  have checked := List.mem_takeWhile_imp member
  simp at checked

theorem cString_of_not_mem {text : Bytes} (clean : (0 : UInt8) ∉ text) :
    cString text = text := by
  unfold cString
  rw [List.takeWhile_eq_self_iff]
  intro byte member
  have different : byte ≠ 0 := by
    intro zero
    exact clean (zero ▸ member)
  simpa using different

theorem cString_append {text : Bytes} (rest : Bytes)
    (clean : (0 : UInt8) ∉ text) :
    cString (text ++ rest) = text ++ cString rest := by
  unfold cString
  apply List.takeWhile_append_of_pos
  intro byte member
  have different : byte ≠ 0 := by
    rintro rfl
    exact clean member
  simpa using different

/-! ### Character arrays -/

/-- The string held by a character array of the given size. -/
structure CharArray (size : Nat) where
  text : Bytes
  terminated : (0 : UInt8) ∉ text
  fits : text.length < size
  deriving DecidableEq

@[ext] theorem CharArray.ext {size : Nat} {left right : CharArray size}
    (same : left.text = right.text) : left = right := by
  cases left
  cases right
  cases same
  rfl

/-- A bounded copy that always writes the terminator. -/
def CharArray.copy {last : Nat} (source : Bytes) : CharArray (last + 1) where
  text := (cString source).take last
  terminated := fun member =>
    not_mem_cString source (List.mem_of_mem_take member)
  fits := by
    rw [List.length_take]
    omega

/-- A string that leaves room for the terminator is copied whole. -/
theorem CharArray.text_copy {last : Nat} {source : Bytes}
    (clean : (0 : UInt8) ∉ source) (short : source.length ≤ last) :
    (CharArray.copy source : CharArray (last + 1)).text = source := by
  change (cString source).take last = source
  rw [cString_of_not_mem clean]
  exact List.take_of_length_le short

theorem CharArray.copy_text {last : Nat} (source : CharArray (last + 1)) :
    CharArray.copy source.text = source :=
  CharArray.ext
    (CharArray.text_copy source.terminated (Nat.lt_succ_iff.mp source.fits))

/-! ### Line reads -/

/-- Bytes up to and including the first newline, at most the given number. -/
def lineUpTo : Nat → Bytes → Bytes
  | 0, _ => []
  | _ + 1, [] => []
  | limit + 1, byte :: rest =>
      if byte = 10 then [byte] else byte :: lineUpTo limit rest

def fgets (size : Nat) (content : Bytes) : Option Bytes :=
  match content with
  | [] => none
  | _ :: _ => some (lineUpTo (size - 1) content)

theorem lineUpTo_append_newline {limit : Nat} {line : Bytes} (rest : Bytes)
    (noNewline : (10 : UInt8) ∉ line) (short : line.length < limit) :
    lineUpTo limit (line ++ 10 :: rest) = line ++ [10] := by
  induction line generalizing limit with
  | nil =>
      cases limit with
      | zero => cases short
      | succ limit => rfl
  | cons byte line ih =>
      cases limit with
      | zero => cases short
      | succ limit =>
          have different : byte ≠ 10 := fun same =>
            noNewline (same ▸ List.mem_cons_self)
          have tail := @ih limit
            (fun member => noNewline (List.mem_cons_of_mem byte member))
            (by simpa using short)
          rw [List.cons_append, lineUpTo, if_neg different, tail]
          rfl

/-- A line read passes a text without newlines and continues behind it. -/
theorem lineUpTo_append (limit : Nat) {line : Bytes} (rest : Bytes)
    (noNewline : (10 : UInt8) ∉ line) :
    lineUpTo limit (line ++ rest) =
      line.take limit ++ lineUpTo (limit - line.length) rest := by
  induction line generalizing limit with
  | nil => simp
  | cons byte line ih =>
      cases limit with
      | zero => simp [lineUpTo]
      | succ limit =>
          have different : byte ≠ 10 := fun same =>
            noNewline (same ▸ List.mem_cons_self)
          have tail := ih limit fun member =>
            noNewline (List.mem_cons_of_mem byte member)
          rw [List.cons_append, lineUpTo, if_neg different, tail,
            List.take_succ_cons, List.length_cons, Nat.add_sub_add_right]
          rfl

theorem lineUpTo_isPrefix (limit : Nat) (text : Bytes) :
    lineUpTo limit text <+: text := by
  induction text generalizing limit with
  | nil =>
      cases limit with
      | zero => exact List.prefix_rfl
      | succ limit => exact List.prefix_rfl
  | cons byte rest ih =>
      cases limit with
      | zero => exact List.nil_prefix
      | succ limit =>
          rw [lineUpTo]
          split
          · exact List.prefix_append [byte] rest
          · exact List.cons_prefix_cons.mpr ⟨rfl, ih limit⟩

/-! ### Decimal numerals -/

def isDigit (byte : UInt8) : Bool := 48 ≤ byte && byte ≤ 57

/-- The white space of the C locale. -/
def isSpace (byte : UInt8) : Bool := byte = 32 || (9 ≤ byte && byte ≤ 13)

def decimal (value : Nat) : Bytes :=
  (Nat.toDigits 10 value).map Char.toUInt8

def signedDecimal (value : Int) : Bytes :=
  if value < 0 then 45 :: decimal value.natAbs else decimal value.natAbs

def digitsValue (digits : Bytes) : Nat :=
  digits.foldl (fun value digit => 10 * value + (digit.toNat - 48)) 0

private theorem digit_toUInt8 {character : Char}
    (digit : character.isDigit = true) :
    character.toUInt8.toNat = character.toNat ∧
      48 ≤ character.toNat ∧ character.toNat ≤ 57 := by
  have bounds : 48 ≤ character.toNat ∧ character.toNat ≤ 57 := by
    simpa [Char.isDigit, UInt32.le_iff_toNat_le] using digit
  refine ⟨?_, bounds⟩
  change (UInt8.ofNat character.toNat).toNat = character.toNat
  rw [UInt8.toNat_ofNat']
  omega

private theorem isDigit_toUInt8 {character : Char}
    (digit : character.isDigit = true) :
    isDigit character.toUInt8 = true := by
  obtain ⟨same, low, high⟩ := digit_toUInt8 digit
  unfold isDigit
  rw [Bool.and_eq_true, decide_eq_true_iff, decide_eq_true_iff,
    UInt8.le_iff_toNat_le, UInt8.le_iff_toNat_le, same]
  exact ⟨low, high⟩

theorem isDigit_of_mem_decimal {value : Nat} {byte : UInt8}
    (member : byte ∈ decimal value) : isDigit byte = true := by
  obtain ⟨character, present, rfl⟩ := List.mem_map.mp member
  exact isDigit_toUInt8
    (Nat.isDigit_of_mem_toDigits (by decide) (by decide) present)

theorem decimal_ne_nil (value : Nat) : decimal value ≠ [] := by
  unfold decimal
  simp

/-- Only zero itself is printed with a leading zero. -/
theorem head?_decimal {value : Nat} (positive : 0 < value) :
    (decimal value).head? ≠ some 48 := by
  induction value using Nat.strongRecOn with
  | ind value ih =>
      unfold decimal at ih ⊢
      by_cases small : value < 10
      · have digit : ∀ number < 10, 0 < number →
            (Nat.digitChar number).toUInt8 ≠ 48 := by decide
        rw [Nat.toDigits_of_lt_base small, List.map_cons, List.head?_cons]
        intro zero
        exact digit value small positive (Option.some.inj zero)
      · have leading := ih (value / 10) (by omega) (by omega)
        rw [Nat.toDigits_of_base_le (by decide) (by omega), List.map_append,
          List.head?_append]
        cases front : ((Nat.toDigits 10 (value / 10)).map Char.toUInt8).head? with
        | none => simp at front
        | some digit =>
            rw [front] at leading
            exact leading

theorem length_decimal_le {value digits : Nat} (positive : 0 < digits)
    (bound : value < 10 ^ digits) : (decimal value).length ≤ digits := by
  unfold decimal
  rw [List.length_map]
  exact (Nat.length_toDigits_le_iff (by decide) positive).mpr bound

theorem length_decimal_word (value : UInt64) :
    (decimal value.toNat).length ≤ 20 :=
  length_decimal_le (by decide) (Nat.lt_trans value.toNat_lt (by decide))

private theorem foldl_map_toUInt8 (characters : List Char) (start : Nat)
    (digits : ∀ character ∈ characters, character.isDigit = true) :
    (characters.map Char.toUInt8).foldl
        (fun value digit => 10 * value + (digit.toNat - 48)) start =
      Nat.ofDigitChars 10 characters start := by
  induction characters generalizing start with
  | nil => simp
  | cons character rest ih =>
      have here := digit_toUInt8 (digits character List.mem_cons_self)
      rw [List.map_cons, List.foldl_cons, here.1, Nat.ofDigitChars_cons]
      exact ih _ fun other member =>
        digits other (List.mem_cons_of_mem character member)

theorem digitsValue_decimal (value : Nat) :
    digitsValue (decimal value) = value := by
  unfold digitsValue decimal
  rw [foldl_map_toUInt8]
  · exact Nat.ofDigitChars_ten_toDigits
  · intro character member
    exact Nat.isDigit_of_mem_toDigits (by decide) (by decide) member

private theorem le_foldl_digits (digits : Bytes) (start : Nat) :
    start ≤ digits.foldl
      (fun value digit => 10 * value + (digit.toNat - 48)) start := by
  induction digits generalizing start with
  | nil => exact Nat.le_refl start
  | cons digit rest ih =>
      rw [List.foldl_cons]
      have tail := ih (10 * start + (digit.toNat - 48))
      omega

/-- More digits never make a numeral smaller. -/
theorem digitsValue_take_le (digits : Bytes) (count : Nat) :
    digitsValue (digits.take count) ≤ digitsValue digits := by
  conv => rhs; rw [← List.take_append_drop count digits]
  unfold digitsValue
  rw [List.foldl_append]
  exact le_foldl_digits _ _

/-- The result of reading an unsigned numeral: its value, whether it left the
range, and the text behind it.  `rest` is `none` when nothing was converted. -/
structure Numeral where
  value : Nat
  overflow : Bool
  rest : Option Bytes
  deriving DecidableEq

/-- A base ten `strtoul` with 64-bit results.  A minus sign negates modulo the
word, as the C function does. -/
def strtoul (text : Bytes) : Numeral :=
  let body := text.dropWhile isSpace
  let negative := body.head? = some 45
  let unsigned :=
    if body.head? = some 45 ∨ body.head? = some 43 then body.tail else body
  let digits := unsigned.takeWhile isDigit
  let value := digitsValue digits
  if digits = [] then { value := 0, overflow := false, rest := none }
  else if value < 2 ^ 64 then
    { value := if negative then (2 ^ 64 - value) % 2 ^ 64 else value
      overflow := false
      rest := some (unsigned.dropWhile isDigit) }
  else
    { value := 2 ^ 64 - 1
      overflow := true
      rest := some (unsigned.dropWhile isDigit) }

/-- White space in front of a numeral does not count. -/
theorem strtoul_spaces {spaces : Bytes} (text : Bytes)
    (allSpaces : ∀ byte ∈ spaces, isSpace byte = true) :
    strtoul (spaces ++ text) = strtoul text := by
  unfold strtoul
  rw [List.dropWhile_append_of_pos allSpaces]

theorem takeWhile_prefix {scanned rest : Bytes}
    {accepts : UInt8 → Bool}
    (inside : ∀ byte ∈ scanned, accepts byte = true)
    (stops : ∀ byte, rest.head? = some byte → accepts byte = false) :
    (scanned ++ rest).takeWhile accepts = scanned := by
  rw [List.takeWhile_append_of_pos inside]
  cases rest with
  | nil => simp
  | cons byte rest =>
      rw [List.takeWhile_cons_of_neg (by simp [stops byte rfl])]
      exact List.append_nil scanned

theorem dropWhile_prefix {scanned rest : Bytes}
    {accepts : UInt8 → Bool}
    (inside : ∀ byte ∈ scanned, accepts byte = true)
    (stops : ∀ byte, rest.head? = some byte → accepts byte = false) :
    (scanned ++ rest).dropWhile accepts = rest := by
  rw [List.dropWhile_append_of_pos inside]
  cases rest with
  | nil => rfl
  | cons byte rest =>
      rw [List.dropWhile_cons_of_neg (by simp [stops byte rfl])]

private theorem digit_excludes {byte : UInt8} (digit : isDigit byte = true) :
    isSpace byte = false ∧ byte ≠ 45 ∧ byte ≠ 43 := by
  have bounds : 48 ≤ byte.toNat ∧ byte.toNat ≤ 57 := by
    simpa [isDigit, UInt8.le_iff_toNat_le] using digit
  have apart (other : UInt8) (outside : other.toNat < 48) : byte ≠ other := by
    rintro rfl
    omega
  refine ⟨?_, apart 45 (by decide), apart 43 (by decide)⟩
  have notBlank : byte ≠ 32 := apart 32 (by decide)
  have high : ¬byte ≤ 13 := by
    rw [UInt8.le_iff_toNat_le]
    change ¬byte.toNat ≤ 13
    omega
  simp [isSpace, notBlank, high]

theorem strtoul_scan {digits rest : Bytes} (nonempty : digits ≠ [])
    (allDigits : ∀ byte ∈ digits, isDigit byte = true)
    (stops : ∀ byte, rest.head? = some byte → isDigit byte = false) :
    strtoul (digits ++ rest) =
      { value :=
          if digitsValue digits < 2 ^ 64 then digitsValue digits
          else 2 ^ 64 - 1
        overflow := decide (2 ^ 64 ≤ digitsValue digits)
        rest := some rest } := by
  have scanned := takeWhile_prefix allDigits stops
  have remaining := dropWhile_prefix allDigits stops
  obtain ⟨first, others, rfl⟩ := List.exists_cons_of_ne_nil nonempty
  obtain ⟨notSpace, notMinus, notPlus⟩ :=
    digit_excludes (allDigits first List.mem_cons_self)
  have body : ((first :: others) ++ rest).dropWhile isSpace =
      (first :: others) ++ rest := by
    rw [List.cons_append, List.dropWhile_cons_of_neg (by simp [notSpace])]
  have head : ((first :: others) ++ rest).head? = some first := rfl
  unfold strtoul
  simp only [body, head, Option.some.injEq, notMinus, notPlus, or_self,
    if_false, scanned, remaining]
  rw [if_neg nonempty]
  by_cases bound : digitsValue (first :: others) < 2 ^ 64
  · rw [if_pos bound, if_pos bound, decide_eq_false (Nat.not_le.mpr bound)]
  · rw [if_neg bound, if_neg bound, decide_eq_true (Nat.not_lt.mp bound)]

theorem strtoul_digits {digits rest : Bytes} (nonempty : digits ≠ [])
    (allDigits : ∀ byte ∈ digits, isDigit byte = true)
    (stops : ∀ byte, rest.head? = some byte → isDigit byte = false)
    (bound : digitsValue digits < 2 ^ 64) :
    strtoul (digits ++ rest) =
      { value := digitsValue digits
        overflow := false
        rest := some rest } := by
  rw [strtoul_scan nonempty allDigits stops, if_pos bound,
    decide_eq_false (Nat.not_le.mpr bound)]

end ByteText
