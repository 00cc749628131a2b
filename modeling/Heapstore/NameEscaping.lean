/-
Escaping a name into its buffer.

The loop of the export, followed store by store.  A character takes one place or
two while the guard is tested once for both, so a quote that passes it at the
last place but one would leave no place for the NUL.  A name is too short for
that.
-/

import Heapstore.PathComponents
import Heapstore.TraceExport

namespace Heapstore.Trace

open ByteText Json PrintedBuffer
open PathComponents (OutputBuffer)

/-- The array of a name, with whatever stands behind its NUL. -/
structure NameArray where
  bytes : Bytes
  whole : bytes.length = 128
  terminated : 0 ∈ bytes

/-- `escaped_name` and `name_idx`, and the indices that were written to. -/
structure Escaping where
  escapedName : OutputBuffer 256
  nameIdx : Nat
  written : List Nat

def Escaping.start (before : OutputBuffer 256) : Escaping where
  escapedName := before
  nameIdx := 0
  written := []

def Escaping.store (byte : UInt8) (state : Escaping) : Escaping :=
  { state with
      escapedName := state.escapedName.write state.nameIdx byte
      written := state.written ++ [state.nameIdx] }

def Escaping.put (byte : UInt8) (state : Escaping) : Escaping :=
  { state.store byte with nameIdx := state.nameIdx + 1 }

def escapeByte (byte : UInt8) (state : Escaping) : Escaping :=
  if byte = 34 ∨ byte = 92 then (state.put 92).put byte else state.put byte

/-- The loop from this place of the name on, with the places that are left in
front of the last one. -/
def escapeLoop (name : Bytes) : Nat → Nat → Escaping → Escaping
  | 0, _, state => state
  | left + 1, place, state =>
      let byte := name.getD place 0
      if byte ≠ 0 ∧ state.nameIdx < 255 then
        escapeLoop name left (place + 1) (escapeByte byte state)
      else state

def escapeName (name : NameArray) (before : OutputBuffer 256) : Escaping :=
  (escapeLoop name.bytes 127 0 (Escaping.start before)).store 0

/-! ### The stores -/

/-- The text stands at the front of the buffer, where it was written byte by
byte. -/
structure Escaping.Stored (state : Escaping) (text : Bytes) : Prop where
  bytes : ∃ behind, state.escapedName.bytes = text ++ behind
  nameIdx : state.nameIdx = text.length
  written : state.written = List.range text.length

section Stores

variable {state : Escaping} {text : Bytes}

/-- A store behind the text replaces one byte. -/
theorem Escaping.Stored.store (stored : state.Stored text)
    (room : text.length < 256) (byte : UInt8) :
    ∃ behind, (state.store byte).escapedName.bytes = text ++ byte :: behind := by
  obtain ⟨behind, same⟩ := stored.bytes
  have whole := state.escapedName.whole
  rw [same, List.length_append] at whole
  cases behind with
  | nil =>
      rw [List.length_nil] at whole
      omega
  | cons old behind =>
      refine ⟨behind, ?_⟩
      change state.escapedName.bytes.set state.nameIdx byte = _
      rw [same, stored.nameIdx, List.set_append_right _ _ (Nat.le_refl _),
        Nat.sub_self, List.set_cons_zero]

theorem Escaping.Stored.put (stored : state.Stored text)
    (room : text.length < 256) (byte : UInt8) :
    (state.put byte).Stored (text ++ [byte]) := by
  obtain ⟨behind, same⟩ := stored.store room byte
  have longer : (text ++ [byte]).length = text.length + 1 := by
    rw [List.length_append, List.length_singleton]
  refine ⟨⟨behind, ?_⟩, ?_, ?_⟩
  · rw [List.append_assoc]
    exact same
  · rw [longer, ← stored.nameIdx]
    rfl
  · change state.written ++ [state.nameIdx] = _
    rw [longer, List.range_succ, stored.written, stored.nameIdx]

/-- One round needs room for two bytes. -/
theorem Escaping.Stored.escapeByte (stored : state.Stored text)
    (room : text.length + 1 < 256) (byte : UInt8) :
    (escapeByte byte state).Stored (text ++ escapeQuotes [byte]) := by
  unfold Trace.escapeByte
  rw [escapeQuotes]
  by_cases special : byte = 34 ∨ byte = 92
  · rw [if_pos special, if_pos special]
    have first := stored.put (Nat.lt_of_succ_lt room) 92
    have second := first.put (by
      rw [List.length_append, List.length_singleton]
      exact room) byte
    rw [List.append_assoc] at second
    exact second
  · rw [if_neg special, if_neg special]
    exact stored.put (Nat.lt_of_succ_lt room) byte

end Stores

/-! ### The loop -/

theorem length_escapeQuotes_le (text : Bytes) :
    (escapeQuotes text).length ≤ 2 * text.length := by
  have special : (text.countP fun byte => byte = 34 || byte = 92) ≤
      text.length := List.countP_le_length
  rw [length_escapeQuotes]
  omega

/-- The loop has escaped what it has read: each byte that was read took at most
two places, so the second guard never ends it. -/
theorem escapeLoop_stored {state : Escaping} (rest behind : Bytes)
    {front : Bytes} {left : Nat} (clean : (0 : UInt8) ∉ rest)
    (room : front.length + left = 127) (fits : rest.length ≤ left)
    (stored : state.Stored (escapeQuotes front)) :
    (escapeLoop (front ++ rest ++ 0 :: behind) left front.length
      state).Stored (escapeQuotes (front ++ rest)) := by
  induction rest generalizing front left state with
  | nil =>
      rw [List.append_nil]
      cases left with
      | zero => exact stored
      | succ left =>
          rw [escapeLoop, List.getD_append_right _ _ _ _ (Nat.le_refl _),
            Nat.sub_self, List.getD_cons_zero]
          exact stored
  | cons byte rest ih =>
      obtain ⟨other, later⟩ := not_or.mp (List.mem_cons.not.mp clean)
      cases left with
      | zero => cases fits
      | succ left =>
          have bound := length_escapeQuotes_le front
          have here : (front ++ byte :: rest ++ 0 :: behind).getD front.length 0 =
              byte := by
            rw [List.append_assoc, List.getD_append_right _ _ _ _ (Nat.le_refl _),
              Nat.sub_self]
            rfl
          have guarded : byte ≠ 0 ∧ state.nameIdx < 255 := by
            refine ⟨fun zero => other zero.symm, ?_⟩
            rw [stored.nameIdx]
            omega
          rw [escapeLoop]
          simp only [here]
          rw [if_pos guarded]
          have next := stored.escapeByte (by omega) byte
          rw [← escapeQuotes_append] at next
          have moved := ih later
            (by rw [List.length_append, List.length_singleton]; omega)
            (Nat.le_of_succ_le_succ fits) next
          rw [List.length_append, List.length_singleton,
            ← List.append_cons] at moved
          exact moved

/-! ### Names -/

theorem cString_ends {bytes : Bytes} (terminated : (0 : UInt8) ∈ bytes) :
    ∃ behind, bytes = cString bytes ++ 0 :: behind := by
  obtain ⟨front, behind, rfl, clean⟩ := List.eq_append_cons_of_mem terminated
  have ends : cString (0 :: behind) = [] := rfl
  exact ⟨behind, by rw [cString_append _ clean, ends, List.append_nil]⟩

/-- The string of the array. -/
def NameArray.name (array : NameArray) : CharArray 128 where
  text := cString array.bytes
  terminated := not_mem_cString array.bytes
  fits := by
    obtain ⟨behind, same⟩ := cString_ends array.terminated
    rw [← array.whole]
    nth_rewrite 2 [same]
    rw [List.length_append, List.length_cons]
    omega

section Names

variable (array : NameArray) (before : OutputBuffer 256)

/-- The whole name is escaped in front of the place of the last store. -/
theorem escapeLoop_name :
    (escapeLoop array.bytes 127 0 (Escaping.start before)).Stored
      (escapeQuotes array.name.text) := by
  obtain ⟨behind, same⟩ := cString_ends array.terminated
  have fits := array.name.fits
  have start : (Escaping.start before).Stored (escapeQuotes []) :=
    ⟨⟨before.bytes, rfl⟩, rfl, rfl⟩
  have stored := escapeLoop_stored array.name.text behind
    array.name.terminated (Nat.zero_add 127) (Nat.le_of_lt_succ fits) start
  rw [List.nil_append] at stored
  change (escapeLoop (cString array.bytes ++ 0 :: behind) 127 0 _).Stored _ at stored
  rw [← same] at stored
  exact stored

theorem length_escapeQuotes_name_lt :
    (escapeQuotes array.name.text).length < 255 := by
  have bound := length_escapeQuotes_le array.name.text
  have fits := array.name.fits
  omega

theorem escapeName_holds :
    Holds (escapeName array before).escapedName.bytes
      (escapeQuotes array.name.text) := by
  have room := length_escapeQuotes_name_lt array
  exact ⟨clean_escapeQuotes array.name.terminated,
    (escapeLoop_name array before).store (by omega) 0⟩

theorem escapeName_string :
    (escapeName array before).escapedName.string.text =
      escapeQuotes array.name.text := by
  obtain ⟨clean, behind, same⟩ := escapeName_holds array before
  change cString (escapeName array before).escapedName.bytes = _
  rw [same, cString_append _ clean]
  exact List.append_nil _

/-- The export prints what this loop leaves. -/
theorem escapeName_printed {span : TraceSpan}
    (named : array.name = span.name) :
    (escapeName array before).escapedName.string.text =
      escapedName 0 0 span.name.text := by
  rw [escapeName_string, escapedName_name, named]

end Names

/-- The stores stay inside, the last one ends the string, and the string is the
name with its escapes. -/
structure EscapedWell (name : CharArray 128) (after : Escaping) : Prop where
  inside : ∀ index ∈ after.written, index < 256
  ended : after.escapedName.bytes[after.nameIdx]? = some 0
  whole : after.escapedName.string.text.length = after.nameIdx
  kept : name.text.Sublist after.escapedName.string.text
  restored : removeEscapes after.escapedName.string.text = name.text

theorem escapeName_reversible (array : NameArray) (before : OutputBuffer 256) :
    EscapedWell array.name (escapeName array before) := by
  have stored := escapeLoop_name array before
  have room := length_escapeQuotes_name_lt array
  have string := escapeName_string array before
  have place : (escapeName array before).nameIdx =
      (escapeQuotes array.name.text).length := stored.nameIdx
  refine ⟨?_, ?_, ?_, ?_, ?_⟩
  · intro index member
    rcases List.mem_append.mp member with loop | last
    · rw [stored.written, List.mem_range] at loop
      omega
    · rw [List.mem_singleton.mp last, stored.nameIdx]
      omega
  · obtain ⟨-, behind, same⟩ := escapeName_holds array before
    rw [place, same, List.getElem?_append_right (Nat.le_refl _), Nat.sub_self]
    rfl
  · rw [string, place]
  · rw [string]
    exact sublist_escapeQuotes array.name.text
  · rw [string]
    exact removeEscapes_escapeQuotes array.name.text

end Heapstore.Trace
