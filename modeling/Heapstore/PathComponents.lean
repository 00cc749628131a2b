/-
The sanitiser of path components and the check for safe identifiers.

Both read a NUL-terminated string.  The sanitiser fills a buffer of the caller,
whose bytes are followed one by one; the logger only needs the string that is
left there.
-/

import Heapstore.LogWrites

namespace Heapstore.PathComponents

open ByteText Log

/-- A string of the caller, without the NUL that ends it. -/
@[ext] structure CText where
  text : Bytes
  terminated : (0 : UInt8) ∉ text

/-- The caller's buffer; its size is the one that is passed. -/
structure OutputBuffer (size : Nat) where
  bytes : Bytes
  whole : bytes.length = size

def OutputBuffer.write {size : Nat} (buffer : OutputBuffer size)
    (index : Nat) (byte : UInt8) : OutputBuffer size where
  bytes := buffer.bytes.set index byte
  whole := by rw [List.length_set, buffer.whole]

/-- The C string that a reader of the buffer sees. -/
def OutputBuffer.string {size : Nat} (buffer : OutputBuffer size) : CText where
  text := cString buffer.bytes
  terminated := not_mem_cString buffer.bytes

/-- Zero, or `AIRY_EINVAL`. -/
inductive CleanStatus where
  | ok
  | invalid
  deriving DecidableEq

/-- The bytes that both functions let through. -/
def plainByte (byte : UInt8) : Bool :=
  isAlnum byte || byte = 95 || byte = 45 || byte = 46

def cleanByte (byte : UInt8) : UInt8 :=
  if plainByte byte then byte else 95

/-- The loop over the input, and the terminator behind it. -/
def putCleaned {size : Nat} (index : Nat) :
    Bytes → OutputBuffer size → OutputBuffer size
  | [], buffer => buffer.write index 0
  | byte :: rest, buffer =>
      putCleaned (index + 1) rest (buffer.write index (cleanByte byte))

def heapstorePathClean {size : Nat} (output : Option (OutputBuffer size))
    (input : Option CText) : Option (OutputBuffer size) × CleanStatus :=
  match output, input with
  | none, _ => (none, .invalid)
  | some buffer, none => (some buffer, .invalid)
  | some buffer, some source =>
      if size = 0 then (some buffer, .invalid)
      else if source.text = [] ∨ size ≤ source.text.length then
        (some buffer, .invalid)
      else if ofString ".." <:+: source.text then (some buffer, .invalid)
      else if 47 ∈ source.text then (some buffer, .invalid)
      else if 92 ∈ source.text then (some buffer, .invalid)
      -- The string ends before its first NUL, so this loop finds none.
      else if 0 ∈ source.text then (some buffer, .invalid)
      else (some (putCleaned 0 source.text buffer), .ok)

def heapstoreIdentSafe (input : Option CText) : Bool :=
  match input with
  | none => false
  | some source =>
      if source.text = [] then false
      else if ofString ".." <:+: source.text then false
      else if 47 ∈ source.text then false
      else if 92 ∈ source.text then false
      else source.text.all fun byte => byte ≠ 0 && plainByte byte

/-! ### The bytes of an accepted string -/

theorem plainByte_excludes {byte : UInt8} (plain : plainByte byte = true) :
    byte ≠ 0 ∧ byte ≠ 47 ∧ byte ≠ 92 := by
  refine ⟨?_, ?_, ?_⟩ <;> rintro rfl <;> revert plain <;> decide

theorem plainByte_cleanByte (byte : UInt8) :
    plainByte (cleanByte byte) = true := by
  unfold cleanByte
  split
  · next plain => exact plain
  · decide

theorem cleanByte_eq_self_iff (byte : UInt8) :
    cleanByte byte = byte ↔ plainByte byte = true := by
  constructor
  · intro same
    rw [← same]
    exact plainByte_cleanByte byte
  · intro plain
    exact if_pos plain

/-- The replacement writes underscores, so no dot comes from it. -/
theorem cleanByte_eq_dot_iff (byte : UInt8) :
    cleanByte byte = 46 ↔ byte = 46 := by
  constructor
  · intro dot
    unfold cleanByte at dot
    split at dot
    · exact dot
    · cases dot
  · rintro rfl
    decide

theorem not_mem_map_cleanByte {byte : UInt8} (text : Bytes)
    (special : byte = 0 ∨ byte = 47 ∨ byte = 92) :
    byte ∉ text.map cleanByte := by
  intro member
  obtain ⟨source, _, rfl⟩ := List.mem_map.mp member
  obtain ⟨notNul, notSlash, notBackslash⟩ :=
    plainByte_excludes (plainByte_cleanByte source)
  rcases special with nul | slash | backslash
  · exact notNul nul
  · exact notSlash slash
  · exact notBackslash backslash

theorem dots_of_map_cleanByte {text : Bytes}
    (dots : ofString ".." <:+: text.map cleanByte) :
    ofString ".." <:+: text := by
  obtain ⟨front, back, pieces⟩ := dots
  obtain ⟨early, _, rfl, earlyFront, _⟩ := List.map_eq_append_iff.mp pieces.symm
  obtain ⟨before, middle, rfl, _, middleDots⟩ :=
    List.map_eq_append_iff.mp earlyFront
  change middle.map cleanByte = [46, 46] at middleDots
  have two : middle = [46, 46] := by
    have count := congrArg List.length middleDots
    rw [List.length_map] at count
    obtain ⟨first, second, rfl⟩ := List.length_eq_two.mp count
    simp only [List.map_cons, List.map_nil, List.cons.injEq, and_true,
      cleanByte_eq_dot_iff] at middleDots
    obtain ⟨rfl, rfl⟩ := middleDots
    rfl
  subst two
  exact ⟨before, _, rfl⟩

theorem map_cleanByte_eq_self_iff (text : Bytes) :
    text.map cleanByte = text ↔ ∀ byte ∈ text, plainByte byte = true := by
  constructor
  · intro fixed byte member
    rw [← cleanByte_eq_self_iff]
    exact List.map_inj_left.mp (fixed.trans (List.map_id text).symm) byte member
  · intro plain
    rw [List.map_congr_left fun byte member =>
      (cleanByte_eq_self_iff byte).mpr (plain byte member)]
    exact List.map_id text

/-! ### What the two functions accept -/

/-- What the tests of `heapstore_path_clean` let pass. -/
structure Cleanable (size : Nat) (text : Bytes) : Prop where
  nonempty : text ≠ []
  short : text.length < size
  noDots : ¬ofString ".." <:+: text
  noSlash : 47 ∉ text
  noBackslash : 92 ∉ text

/-- The loop writes the rest of the string behind what it has written. -/
theorem putCleaned_bytes {size : Nat} (text : Bytes) (index : Nat)
    (buffer : OutputBuffer size) (room : index + text.length < size) :
    (putCleaned index text buffer).bytes =
      buffer.bytes.take index ++ text.map cleanByte ++
        0 :: buffer.bytes.drop (index + text.length + 1) := by
  have inside : index < buffer.bytes.length := by
    rw [buffer.whole]
    omega
  induction text generalizing index buffer with
  | nil =>
      change buffer.bytes.set index 0 = _
      rw [List.set_eq_take_append_cons_drop, if_pos inside, List.map_nil,
        List.append_nil, List.length_nil, Nat.add_zero]
  | cons byte rest ih =>
      rw [List.length_cons] at room
      have next : index + 1 < (buffer.write index (cleanByte byte)).bytes.length := by
        rw [(buffer.write index (cleanByte byte)).whole]
        omega
      have tail := ih (index + 1) (buffer.write index (cleanByte byte))
        (by omega) next
      change (putCleaned (index + 1) rest _).bytes = _
      rw [tail]
      change (buffer.bytes.set index (cleanByte byte)).take (index + 1) ++ _ ++
        0 :: (buffer.bytes.set index (cleanByte byte)).drop _ = _
      rw [List.drop_set_of_lt (by omega), List.take_succ_eq_append_getElem
        (by rw [List.length_set]; exact inside), List.take_set_of_le
        (Nat.le_refl index), List.getElem_set_self, List.map_cons,
        List.length_cons, Nat.add_right_comm index 1, Nat.add_assoc index]
      simp

theorem string_putCleaned {size : Nat} (source : CText)
    (buffer : OutputBuffer size) (short : source.text.length < size) :
    (putCleaned 0 source.text buffer).string.text =
      source.text.map cleanByte := by
  change cString (putCleaned 0 source.text buffer).bytes = _
  rw [putCleaned_bytes source.text 0 buffer (by omega), List.take_zero,
    List.nil_append, cString_append _ (not_mem_map_cleanByte _ (.inl rfl))]
  exact List.append_nil _

theorem heapstorePathClean_accepts {size : Nat} (buffer : OutputBuffer size)
    (source : CText) (cleanable : Cleanable size source.text) :
    heapstorePathClean (some buffer) (some source) =
      (some (putCleaned 0 source.text buffer), .ok) := by
  have positive : size ≠ 0 := Nat.ne_zero_of_lt cleanable.short
  have measured : ¬(source.text = [] ∨ size ≤ source.text.length) :=
    not_or.mpr ⟨cleanable.nonempty, Nat.not_le.mpr cleanable.short⟩
  simp only [heapstorePathClean, if_neg positive, if_neg measured,
    if_neg cleanable.noDots, if_neg cleanable.noSlash,
    if_neg cleanable.noBackslash, if_neg source.terminated]

theorem heapstorePathClean_rejects {size : Nat} (buffer : OutputBuffer size)
    (source : CText) (refused : ¬Cleanable size source.text) :
    heapstorePathClean (some buffer) (some source) =
      (some buffer, .invalid) := by
  simp only [heapstorePathClean]
  split
  · rfl
  split
  · rfl
  split
  · rfl
  split
  · rfl
  split
  · rfl
  split
  · rfl
  · next measured noDots noSlash noBackslash _ =>
      obtain ⟨nonempty, short⟩ := not_or.mp measured
      exact absurd ⟨nonempty, Nat.not_le.mp short, noDots, noSlash,
        noBackslash⟩ refused

/-- A safe identifier holds plain bytes only, and no two dots together. -/
theorem heapstoreIdentSafe_iff (source : CText) :
    heapstoreIdentSafe (some source) = true ↔
      source.text ≠ [] ∧ ¬ofString ".." <:+: source.text ∧
        ∀ byte ∈ source.text, plainByte byte = true := by
  simp only [heapstoreIdentSafe]
  constructor
  · intro safe
    split at safe
    · cases safe
    split at safe
    · cases safe
    split at safe
    · cases safe
    split at safe
    · cases safe
    · next nonempty noDots _ _ =>
        refine ⟨nonempty, noDots, ?_⟩
        intro byte member
        have checked := List.all_eq_true.mp safe byte member
        exact (Bool.and_eq_true _ _ ▸ checked).2
  · rintro ⟨nonempty, noDots, plain⟩
    have noSlash : (47 : UInt8) ∉ source.text := fun member =>
      (plainByte_excludes (plain 47 member)).2.1 rfl
    have noBackslash : (92 : UInt8) ∉ source.text := fun member =>
      (plainByte_excludes (plain 92 member)).2.2 rfl
    rw [if_neg nonempty, if_neg noDots, if_neg noSlash, if_neg noBackslash,
      List.all_eq_true]
    intro byte member
    rw [Bool.and_eq_true, decide_eq_true_iff]
    exact ⟨(plainByte_excludes (plain byte member)).1, plain byte member⟩

theorem heapstoreIdentSafe_cleaned {size : Nat} {source cleaned : CText}
    (cleanable : Cleanable size source.text)
    (mapped : cleaned.text = source.text.map cleanByte) :
    heapstoreIdentSafe (some cleaned) = true := by
  rw [heapstoreIdentSafe_iff, mapped]
  refine ⟨?_, ?_, ?_⟩
  · intro empty
    exact cleanable.nonempty (List.map_eq_nil_iff.mp empty)
  · intro dots
    exact cleanable.noDots (dots_of_map_cleanByte dots)
  · intro byte member
    obtain ⟨original, _, rfl⟩ := List.mem_map.mp member
    exact plainByte_cleanByte original

/-- A safe identifier that fits is accepted and copied byte by byte. -/
theorem cleanable_of_safe {size : Nat} {source : CText}
    (safe : heapstoreIdentSafe (some source) = true)
    (short : source.text.length < size) : Cleanable size source.text := by
  obtain ⟨nonempty, noDots, plain⟩ := (heapstoreIdentSafe_iff source).mp safe
  exact
    { nonempty := nonempty
      short := short
      noDots := noDots
      noSlash := fun member => (plainByte_excludes (plain 47 member)).2.1 rfl
      noBackslash := fun member =>
        (plainByte_excludes (plain 92 member)).2.2 rfl }

theorem map_cleanByte_eq_self_iff_safe {size : Nat} {source : CText}
    (cleanable : Cleanable size source.text) :
    source.text.map cleanByte = source.text ↔
      heapstoreIdentSafe (some source) = true := by
  rw [map_cleanByte_eq_self_iff, heapstoreIdentSafe_iff]
  constructor
  · intro plain
    exact ⟨cleanable.nonempty, cleanable.noDots, plain⟩
  · intro safe
    exact safe.2.2

/-! ### Both functions together -/

/-- What a caller finds after a call that returned zero. -/
structure CleanedWell {size : Nat} (source : CText)
    (after : Option (OutputBuffer size)) (cleaned : CText) : Prop where
  stored : after.map OutputBuffer.string = some cleaned
  length : cleaned.text.length = source.text.length
  safe : heapstoreIdentSafe (some cleaned) = true
  kept : cleaned = source ↔ heapstoreIdentSafe (some source) = true
  fixed : ∀ other : OutputBuffer size, ∃ again : OutputBuffer size,
    heapstorePathClean (some other) (some cleaned) = (some again, .ok) ∧
      again.string = cleaned

theorem cleanedWell_putCleaned {size : Nat} (buffer : OutputBuffer size)
    {source : CText} (cleanable : Cleanable size source.text) :
    CleanedWell source (some (putCleaned 0 source.text buffer))
      (putCleaned 0 source.text buffer).string := by
  have mapped := string_putCleaned source buffer cleanable.short
  have safe := heapstoreIdentSafe_cleaned cleanable mapped
  have length : (putCleaned 0 source.text buffer).string.text.length =
      source.text.length := by
    rw [mapped, List.length_map]
  have again := cleanable_of_safe safe (length ▸ cleanable.short)
  refine ⟨rfl, length, safe, ?_, ?_⟩
  · rw [CText.ext_iff, mapped]
    exact map_cleanByte_eq_self_iff_safe cleanable
  · intro other
    refine ⟨_, heapstorePathClean_accepts other _ again, ?_⟩
    rw [CText.ext_iff, string_putCleaned _ other again.short]
    exact (map_cleanByte_eq_self_iff_safe again).mpr safe

/-- The logger's view of the same call: the string it goes on with. -/
theorem pathClean_eq_heapstorePathClean {size : Nat}
    (buffer : OutputBuffer size) (source : CText) :
    Log.pathClean size source.text =
      match heapstorePathClean (some buffer) (some source) with
      | (_, .invalid) => none
      | (after, .ok) => after.map fun filled => filled.string.text := by
  by_cases cleanable : Cleanable size source.text
  · rw [heapstorePathClean_accepts buffer source cleanable]
    change _ = some (putCleaned 0 source.text buffer).string.text
    rw [string_putCleaned source buffer cleanable.short, Log.pathClean,
      if_neg (not_or.mpr
        ⟨cleanable.nonempty, Nat.not_le.mpr cleanable.short⟩),
      if_neg cleanable.noDots, if_neg cleanable.noSlash,
      if_neg cleanable.noBackslash]
    rfl
  · rw [heapstorePathClean_rejects buffer source cleanable]
    unfold Log.pathClean
    split
    · rfl
    split
    · rfl
    split
    · rfl
    split
    · rfl
    · next measured noDots noSlash noBackslash =>
        obtain ⟨nonempty, short⟩ := not_or.mp measured
        exact absurd ⟨nonempty, Nat.not_le.mp short, noDots, noSlash,
          noBackslash⟩ cleanable

theorem pathClean_accepts_exactly {size : Nat} (buffer : OutputBuffer size)
    (source : CText) :
    ((heapstorePathClean (some buffer) (some source)).2 = .ok ↔
      source.text ≠ [] ∧ source.text.length < size ∧
        ¬ofString ".." <:+: source.text ∧ 47 ∉ source.text ∧
        92 ∉ source.text) ∧
      ((heapstorePathClean (some buffer) (some source)).2 = .ok →
        ∃ cleaned, CleanedWell source
          (heapstorePathClean (some buffer) (some source)).1 cleaned) ∧
      ((heapstorePathClean (some buffer) (some source)).2 ≠ .ok →
        (heapstorePathClean (some buffer) (some source)).1 = some buffer) := by
  by_cases cleanable : Cleanable size source.text
  · rw [heapstorePathClean_accepts buffer source cleanable]
    refine ⟨⟨fun _ => ?_, fun _ => rfl⟩, fun _ => ?_, fun failed => ?_⟩
    · exact ⟨cleanable.nonempty, cleanable.short, cleanable.noDots,
        cleanable.noSlash, cleanable.noBackslash⟩
    · exact ⟨_, cleanedWell_putCleaned buffer cleanable⟩
    · exact absurd rfl failed
  · rw [heapstorePathClean_rejects buffer source cleanable]
    refine ⟨⟨nofun, ?_⟩, nofun, fun _ => rfl⟩
    rintro ⟨nonempty, short, noDots, noSlash, noBackslash⟩
    exact absurd ⟨nonempty, short, noDots, noSlash, noBackslash⟩ cleanable

end Heapstore.PathComponents
