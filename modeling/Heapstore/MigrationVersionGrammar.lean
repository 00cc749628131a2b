/-
The grammar of the version file.

Reading looks at the first line only, at 31 bytes of it at most, and stops at
a NUL.  A content is therefore split into leading white space, a numeral and
what follows, and each part is compared with what the reader is shown of it.
-/

import Heapstore.MigrationVersionFile

namespace Heapstore.Migration

open ByteText

/-! ### Well-formed contents -/

/-- White space that may stand in front of the numeral. -/
def isLead (byte : UInt8) : Bool :=
  byte = 32 || byte = 9 || byte = 13

/-- Leading white space, a decimal numeral of 32 bits, then only white space. -/
def VersionGrammar (content : Bytes) (value : Nat) : Prop :=
  ∃ before digits after, content = before ++ (digits ++ after) ∧
    (∀ byte ∈ before, isLead byte = true) ∧
    digits ≠ [] ∧ (∀ byte ∈ digits, isDigit byte = true) ∧
    (∀ byte ∈ after, isBlank byte = true) ∧
    value = digitsValue digits ∧ value < 2 ^ 32

def leadOf (content : Bytes) : Bytes :=
  content.takeWhile isLead

def digitsOf (content : Bytes) : Bytes :=
  (content.dropWhile isLead).takeWhile isDigit

def restOf (content : Bytes) : Bytes :=
  (content.dropWhile isLead).dropWhile isDigit

theorem parts_append (content : Bytes) :
    leadOf content ++ (digitsOf content ++ restOf content) = content := by
  unfold leadOf digitsOf restOf
  rw [List.takeWhile_append_dropWhile, List.takeWhile_append_dropWhile]

theorem isLead_of_mem_leadOf {content : Bytes} {byte : UInt8}
    (member : byte ∈ leadOf content) : isLead byte = true :=
  List.mem_takeWhile_imp member

theorem isDigit_of_mem_digitsOf {content : Bytes} {byte : UInt8}
    (member : byte ∈ digitsOf content) : isDigit byte = true :=
  List.mem_takeWhile_imp member

private theorem head?_dropWhile_rejected {accepts : UInt8 → Bool}
    {text : Bytes} {byte : UInt8}
    (first : (text.dropWhile accepts).head? = some byte) :
    accepts byte = false := by
  have rejected := List.head?_dropWhile_not accepts text
  rw [first] at rejected
  exact rejected

theorem head?_restOf_not_digit {content : Bytes} {byte : UInt8}
    (first : (restOf content).head? = some byte) : isDigit byte = false :=
  head?_dropWhile_rejected first

/-- Without a numeral, the rest starts where the white space ends. -/
theorem head?_restOf_not_lead {content : Bytes} {byte : UInt8}
    (noDigits : digitsOf content = [])
    (first : (restOf content).head? = some byte) : isLead byte = false := by
  have whole : restOf content = content.dropWhile isLead := by
    have split : digitsOf content ++ restOf content =
        content.dropWhile isLead :=
      List.takeWhile_append_dropWhile
    rw [noDigits] at split
    exact split
  rw [whole] at first
  exact head?_dropWhile_rejected first

private theorem blank_not_digit {byte : UInt8} (blank : isBlank byte = true) :
    isDigit byte = false := by
  unfold isBlank at blank
  simp only [Bool.or_eq_true, decide_eq_true_iff] at blank
  rcases blank with ((rfl | rfl) | rfl) | rfl <;> rfl

private theorem lead_not_digit {byte : UInt8} (lead : isLead byte = true) :
    isDigit byte = false := by
  unfold isLead at lead
  simp only [Bool.or_eq_true, decide_eq_true_iff] at lead
  rcases lead with (rfl | rfl) | rfl <;> rfl

private theorem lead_blank {byte : UInt8} (lead : isLead byte = true) :
    isBlank byte = true := by
  unfold isLead at lead
  unfold isBlank
  rw [lead]
  rfl

private theorem lead_space {byte : UInt8} (lead : isLead byte = true) :
    isSpace byte = true := by
  unfold isLead at lead
  simp only [Bool.or_eq_true, decide_eq_true_iff] at lead
  rcases lead with (rfl | rfl) | rfl <;> rfl

private theorem digit_not_lead {byte : UInt8} (digit : isDigit byte = true) :
    isLead byte = false := by
  cases lead : isLead byte with
  | false => rfl
  | true =>
      rw [lead_not_digit lead] at digit
      cases digit

private theorem digit_not_blank {byte : UInt8} (digit : isDigit byte = true) :
    isBlank byte = false := by
  cases blank : isBlank byte with
  | false => rfl
  | true =>
      rw [blank_not_digit blank] at digit
      cases digit

/-- The grammar is decided by the three parts of a content. -/
theorem versionGrammar_iff {content : Bytes} {value : Nat} :
    VersionGrammar content value ↔
      digitsOf content ≠ [] ∧ (restOf content).all isBlank = true ∧
        value = digitsValue (digitsOf content) ∧ value < 2 ^ 32 := by
  constructor
  · rintro ⟨before, digits, after, rfl, leads, nonempty, allDigits, blanks,
      same, bound⟩
    have digitsStop : ∀ byte, (digits ++ after).head? = some byte →
        isLead byte = false := by
      intro byte first
      obtain ⟨digit, others, rfl⟩ := List.exists_cons_of_ne_nil nonempty
      cases first
      exact digit_not_lead (allDigits byte List.mem_cons_self)
    have afterStop : ∀ byte, after.head? = some byte →
        isDigit byte = false := by
      intro byte first
      exact blank_not_digit (blanks byte (List.mem_of_head? first))
    have scanned : digitsOf (before ++ (digits ++ after)) = digits := by
      unfold digitsOf
      rw [ dropWhile_prefix leads digitsStop,
        takeWhile_prefix allDigits afterStop]
    have remaining : restOf (before ++ (digits ++ after)) = after := by
      unfold restOf
      rw [ dropWhile_prefix leads digitsStop,
        dropWhile_prefix allDigits afterStop]
    rw [scanned, remaining]
    exact ⟨nonempty, List.all_eq_true.mpr blanks, same, bound⟩
  · rintro ⟨nonempty, blanks, same, bound⟩
    exact ⟨leadOf content, digitsOf content, restOf content,
      (parts_append content).symm, fun _ => isLead_of_mem_leadOf, nonempty,
      fun _ => isDigit_of_mem_digitsOf, List.all_eq_true.mp blanks, same,
      bound⟩

/-! ### What the reader is shown -/

/-- The digits within the first 31 bytes. -/
def shownDigits (content : Bytes) : Bytes :=
  (digitsOf content).take (31 - (leadOf content).length)

/-- What is left of the line behind the numeral, up to a NUL. -/
def shownRest (content : Bytes) : Bytes :=
  cString (lineUpTo
    (31 - (leadOf content).length - (digitsOf content).length)
    (restOf content))

private theorem shownRest_isPrefix (content : Bytes) :
    shownRest content <+: restOf content :=
  (List.takeWhile_prefix _).trans (lineUpTo_isPrefix _ _)

theorem shownRest_blank {content : Bytes}
    (blanks : (restOf content).all isBlank = true) :
    (shownRest content).all isBlank = true := by
  rw [List.all_eq_true] at blanks ⊢
  exact fun byte member =>
    blanks byte ((shownRest_isPrefix content).subset member)

private theorem head?_of_isPrefix {shown whole : Bytes} {byte : UInt8}
    (front : shown <+: whole) (first : shown.head? = some byte) :
    whole.head? = some byte := by
  obtain ⟨later, rfl⟩ := front
  rw [List.head?_append, first]
  rfl

theorem cString_line (content : Bytes) :
    cString (lineUpTo 31 content) =
      (leadOf content).take 31 ++ (shownDigits content ++ shownRest content) := by
  have apart : ∀ byte, isLead byte = true ∨ isDigit byte = true →
      byte ≠ 0 ∧ byte ≠ 10 := by
    rintro byte (lead | digit) <;> constructor <;> rintro rfl
    · cases lead
    · cases lead
    · cases digit
    · cases digit
  have leadClean := fun byte (member : byte ∈ leadOf content) =>
    apart byte (Or.inl (isLead_of_mem_leadOf member))
  have digitsClean := fun byte (member : byte ∈ digitsOf content) =>
    apart byte (Or.inr (isDigit_of_mem_digitsOf member))
  have line : lineUpTo 31 content =
      (leadOf content).take 31 ++ (shownDigits content ++
        lineUpTo (31 - (leadOf content).length - (digitsOf content).length)
          (restOf content)) := by
    conv => lhs; rw [← parts_append content]
    rw [lineUpTo_append 31 _ fun newline => (leadClean 10 newline).2 rfl,
      lineUpTo_append _ _ fun newline => (digitsClean 10 newline).2 rfl]
    rfl
  have leadShown : (0 : UInt8) ∉ (leadOf content).take 31 := fun zero =>
    (leadClean 0 (List.mem_of_mem_take zero)).1 rfl
  have digitsShown : (0 : UInt8) ∉ shownDigits content := fun zero =>
    (digitsClean 0 (List.mem_of_mem_take zero)).1 rfl
  rw [line, cString_append _ leadShown, cString_append _ digitsShown]
  rfl

/-! ### What is accepted -/

private theorem parseNumeral_numeral {line before digits after : Bytes}
    (shown : cString line = before ++ (digits ++ after))
    (leads : ∀ byte ∈ before, isLead byte = true) (nonempty : digits ≠ [])
    (allDigits : ∀ byte ∈ digits, isDigit byte = true)
    (stops : ∀ byte, after.head? = some byte → isDigit byte = false) :
    parseNumeral line =
      if digitsValue digits < 2 ^ 64 ∧ after.all isBlank = true then
        some (digitsValue digits)
      else none := by
  obtain ⟨first, others, rfl⟩ := List.exists_cons_of_ne_nil nonempty
  have firstDigit := allDigits first List.mem_cons_self
  have numeral := strtoul_scan nonempty allDigits stops
  have scanned : ((before ++ ((first :: others) ++ after)).dropWhile
      isBlank).head? = some first := by
    rw [ dropWhile_prefix (fun byte member => lead_blank (leads byte member))]
    · rfl
    · intro byte here
      cases here
      exact digit_not_blank firstDigit
  unfold parseNumeral
  simp only [shown, strtoul_spaces _ fun byte member =>
    lead_space (leads byte member), numeral, scanned, firstDigit,
    Bool.true_eq_false, if_false, decide_eq_true_iff]
  by_cases bound : digitsValue (first :: others) < 2 ^ 64
  · simp only [if_neg (Nat.not_le.mpr bound), bound, if_true, true_and]
  · rw [if_pos (Nat.not_lt.mp bound), if_neg fun both => bound both.1]

private theorem parseNumeral_nothing {line before after : Bytes}
    (shown : cString line = before ++ after)
    (leads : ∀ byte ∈ before, isLead byte = true)
    (stops : ∀ byte, after.head? = some byte →
      isDigit byte = false ∧ isLead byte = false)
    (newline : after.head? = some 10 → after = [10]) :
    parseNumeral line = none := by
  have noDigit : ∀ byte, ((before ++ after).dropWhile isBlank).head? =
      some byte → isDigit byte = false := by
    intro byte here
    rw [List.dropWhile_append_of_pos fun other member =>
      lead_blank (leads other member)] at here
    cases after with
    | nil => cases here
    | cons first rest =>
        by_cases blank : isBlank first = true
        · -- The only white space that is no lead is a newline, and it ends
          -- the line.
          have leading := (stops first rfl).2
          have same : first = 10 := by
            unfold isBlank at blank
            unfold isLead at leading
            rw [leading, Bool.false_or] at blank
            exact of_decide_eq_true blank
          subst same
          rw [newline rfl] at here
          cases here
        · rw [List.dropWhile_cons_of_neg blank] at here
          cases here
          exact (stops byte rfl).1
  unfold parseNumeral
  simp only [shown]
  cases (strtoul (before ++ after)).rest with
  | none => rfl
  | some rest =>
      simp only
      split
      · rfl
      · cases here : ((before ++ after).dropWhile isBlank).head? with
        | none => rfl
        | some first =>
            simp only
            rw [if_pos (noDigit first here)]

private theorem lineUpTo_newline {limit : Nat} {text : Bytes}
    (first : (lineUpTo limit text).head? = some 10) :
    lineUpTo limit text = [10] := by
  cases limit with
  | zero => cases first
  | succ limit =>
      cases text with
      | nil => cases first
      | cons byte rest =>
          rw [lineUpTo] at first ⊢
          by_cases newline : byte = 10
          · rw [if_pos newline, newline]
          · rw [if_neg newline] at first
            exact absurd (Option.some.inj first) newline

private theorem shownRest_newline {content : Bytes}
    (first : (shownRest content).head? = some 10) :
    shownRest content = [10] := by
  have whole := head?_of_isPrefix (List.takeWhile_prefix _) first
  unfold shownRest
  rw [lineUpTo_newline whole]
  rfl

/-- A content is accepted by what the reader is shown of it. -/
theorem parse_iff {content : Bytes} {value : Nat} :
    (fgets 32 content).bind parseNumeral = some value ↔
      shownDigits content ≠ [] ∧ (shownRest content).all isBlank = true ∧
        digitsValue (shownDigits content) < 2 ^ 64 ∧
        value = digitsValue (shownDigits content) := by
  have line := cString_line content
  have leads : ∀ byte ∈ (leadOf content).take 31, isLead byte = true :=
    fun byte member => isLead_of_mem_leadOf (List.mem_of_mem_take member)
  have restStops : ∀ byte, (shownRest content).head? = some byte →
      isDigit byte = false := fun byte first =>
    head?_restOf_not_digit (head?_of_isPrefix (shownRest_isPrefix content) first)
  have parsed : (fgets 32 content).bind parseNumeral =
      parseNumeral (lineUpTo 31 content) := by
    cases content with
    | nil => rfl
    | cons byte rest => rfl
  rw [parsed]
  by_cases nonempty : shownDigits content ≠ []
  · rw [parseNumeral_numeral line leads nonempty
      (fun byte member => isDigit_of_mem_digitsOf (List.mem_of_mem_take member))
      restStops]
    constructor
    · intro accepted
      split at accepted
      · next both =>
          exact ⟨nonempty, both.2, both.1, (Option.some.inj accepted).symm⟩
      · cases accepted
    · rintro ⟨_, blanks, bound, rfl⟩
      rw [if_pos ⟨bound, blanks⟩]
  · rw [not_not] at nonempty
    rw [nonempty, List.nil_append] at line
    have rejected : parseNumeral (lineUpTo 31 content) = none := by
      refine parseNumeral_nothing line leads ?_ shownRest_newline
      intro byte first
      refine ⟨restStops byte first, ?_⟩
      have behind := head?_of_isPrefix (shownRest_isPrefix content) first
      apply head?_restOf_not_lead _ behind
      unfold shownDigits at nonempty
      rw [List.take_eq_nil_iff] at nonempty
      rcases nonempty with full | none_
      · -- White space fills the line: nothing behind it is shown.
        unfold shownRest at first
        rw [full, Nat.zero_sub] at first
        cases first
      · exact none_
    rw [rejected]
    simp [nonempty]

/-! ### Reading against the grammar -/

/-- `heapstore_migration_get_version` with the caller's output, which keeps its
prior value when an error is returned. -/
def migrationGetVersionInto (prior : UInt32) (out ready : Bool) (root : Bytes)
    (calls : VersionReadCalls) (disk : Disk) : HeapstoreError × UInt32 :=
  match migrationGetVersion out ready root calls disk with
  | .error error => (error, prior)
  | .ok version => (.success, version)

/-- Exactly the contents of the grammar are accepted, with their value; every
other content is corrupt and leaves the output unchanged. -/
def ReadsGrammar (content : Bytes)
    (read : UInt32 → HeapstoreError × UInt32) : Prop :=
  ∀ prior, (∀ version : UInt32, read prior = (.success, version) ↔
      VersionGrammar content version.toNat) ∧
    ((¬∃ version : UInt32, VersionGrammar content version.toNat) →
      read prior = (.errFileCorrupt, prior))

/-- The contents on which reading leaves the grammar. -/
inductive VersionDefect (content : Bytes) : Prop where
  /-- A numeral of more than 32 and at most 64 bits loses its high bits. -/
  | tooLarge (shown : shownDigits content ≠ [])
      (blank : (shownRest content).all isBlank = true)
      (large : 2 ^ 32 ≤ digitsValue (shownDigits content))
      (range : digitsValue (shownDigits content) < 2 ^ 64)
  /-- Other text stands behind the first line, its first 31 bytes or a NUL. -/
  | textBehind (shown : shownDigits content ≠ [])
      (blank : (shownRest content).all isBlank = true)
      (small : digitsValue (shownDigits content) < 2 ^ 32)
      (behind : (restOf content).all isBlank = false)
  /-- The line ends inside the numeral. -/
  | cutNumeral (shown : shownDigits content ≠ [])
      (blank : (restOf content).all isBlank = true)
      (small : digitsValue (shownDigits content) < 2 ^ 32)
      (cut : digitsValue (shownDigits content) ≠ digitsValue (digitsOf content))
  /-- The line ends inside the white space of a well-formed content. -/
  | cutBlanks (digits : digitsOf content ≠ [])
      (blank : (restOf content).all isBlank = true)
      (small : digitsValue (digitsOf content) < 2 ^ 32)
      (long : 31 ≤ (leadOf content).length)

theorem migrationGetVersionInto_file {root : Bytes} {disk : Disk}
    {data : FileData} (prior : UInt32)
    (found : disk.find root (versionFilePath root) = .file data) :
    migrationGetVersionInto prior true true root .ok disk =
      match (fgets 32 data.content).bind parseNumeral with
      | none => (.errFileCorrupt, prior)
      | some value => (.success, UInt32.ofNat value) := by
  have parsed : (fgets 32 data.content).bind parseVersion =
      ((fgets 32 data.content).bind parseNumeral).map UInt32.ofNat := by
    cases fgets 32 data.content <;> rfl
  unfold migrationGetVersionInto migrationGetVersion
  simp only [found, Bool.true_eq_false, if_false, VersionReadCalls.ok, parsed]
  cases (fgets 32 data.content).bind parseNumeral <;> rfl

theorem shownDigits_value_le (content : Bytes) :
    digitsValue (shownDigits content) ≤ digitsValue (digitsOf content) :=
  digitsValue_take_le ..

/-- An accepted content outside the defects belongs to the grammar. -/
private theorem versionGrammar_of_accepted {content : Bytes} {value : Nat}
    (clean : ¬VersionDefect content)
    (accepted : (fgets 32 content).bind parseNumeral = some value) :
    VersionGrammar content value := by
  obtain ⟨shown, blank, range, rfl⟩ := parse_iff.mp accepted
  have small : digitsValue (shownDigits content) < 2 ^ 32 := by
    by_contra large
    exact clean (.tooLarge shown blank (Nat.not_lt.mp large) range)
  have rest : (restOf content).all isBlank = true := by
    cases behind : (restOf content).all isBlank with
    | true => rfl
    | false => exact absurd (.textBehind shown blank small behind) clean
  have whole : digitsValue (shownDigits content) =
      digitsValue (digitsOf content) := by
    by_contra cut
    exact clean (.cutNumeral shown rest small cut)
  refine versionGrammar_iff.mpr ⟨?_, rest, whole, small⟩
  intro noDigits
  unfold shownDigits at shown
  rw [noDigits] at shown
  exact shown List.take_nil

/-- A rejected content outside the defects is not in the grammar. -/
private theorem not_versionGrammar_of_rejected {content : Bytes} {value : Nat}
    (clean : ¬VersionDefect content)
    (rejected : (fgets 32 content).bind parseNumeral = none) :
    ¬VersionGrammar content value := by
  intro grammar
  obtain ⟨digits, rest, rfl, small⟩ := versionGrammar_iff.mp grammar
  have short : (leadOf content).length < 31 := by
    by_contra long
    exact clean (.cutBlanks digits rest small (Nat.not_lt.mp long))
  have shown : shownDigits content ≠ [] := by
    unfold shownDigits
    rw [ne_eq, List.take_eq_nil_iff]
    rintro (full | noDigits)
    · omega
    · exact digits noDigits
  have bound := shownDigits_value_le content
  rw [parse_iff.mpr ⟨shown, shownRest_blank rest, by omega, rfl⟩] at rejected
  cases rejected

private theorem toNat_ofNat_small {value : Nat} (small : value < 2 ^ 32) :
    (UInt32.ofNat value).toNat = value :=
  UInt32.toNat_ofNat_of_lt' small

private theorem readsGrammar_of_clean {root : Bytes} {disk : Disk}
    {data : FileData}
    (found : disk.find root (versionFilePath root) = .file data)
    (clean : ¬VersionDefect data.content) :
    ReadsGrammar data.content fun prior =>
      migrationGetVersionInto prior true true root .ok disk := by
  intro prior
  simp only [migrationGetVersionInto_file prior found]
  cases parsed : (fgets 32 data.content).bind parseNumeral with
  | none =>
      refine ⟨fun version => ⟨nofun, fun grammar => ?_⟩, fun _ => rfl⟩
      exact absurd grammar (not_versionGrammar_of_rejected clean parsed)
  | some value =>
      have grammar := versionGrammar_of_accepted clean parsed
      have small := (versionGrammar_iff.mp grammar).2.2.2
      refine ⟨fun version => ⟨?_, ?_⟩, fun none_ => ?_⟩
      · intro same
        cases same
        rw [toNat_ofNat_small small]
        exact grammar
      · intro other
        have first := (versionGrammar_iff.mp grammar).2.2.1
        have second := (versionGrammar_iff.mp other).2.2.1
        have same : value = version.toNat := first.trans second.symm
        subst same
        exact congrArg (Prod.mk HeapstoreError.success) UInt32.ofNat_toNat
      · refine absurd ⟨UInt32.ofNat value, ?_⟩ none_
        rw [toNat_ofNat_small small]
        exact grammar

/-- On a defect, the version that is read is not the one of the grammar. -/
private theorem accepted_grammar {root : Bytes} {disk : Disk}
    {data : FileData} {value : Nat}
    (found : disk.find root (versionFilePath root) = .file data)
    (reads : ReadsGrammar data.content fun prior =>
      migrationGetVersionInto prior true true root .ok disk)
    (accepted : (fgets 32 data.content).bind parseNumeral = some value) :
    VersionGrammar data.content (UInt32.ofNat value).toNat := by
  refine ((reads 0).1 (UInt32.ofNat value)).mp ?_
  simp only [migrationGetVersionInto_file 0 found, accepted]

private theorem not_defect_of_readsGrammar {root : Bytes} {disk : Disk}
    {data : FileData}
    (found : disk.find root (versionFilePath root) = .file data)
    (reads : ReadsGrammar data.content fun prior =>
      migrationGetVersionInto prior true true root .ok disk) :
    ¬VersionDefect data.content := by
  intro defect
  have least := shownDigits_value_le data.content
  cases defect with
  | tooLarge shown blank large range =>
      have grammar := accepted_grammar found reads
        (parse_iff.mpr ⟨shown, blank, range, rfl⟩)
      obtain ⟨_, _, same, small⟩ := versionGrammar_iff.mp grammar
      omega
  | textBehind shown blank small behind =>
      have grammar := accepted_grammar found reads
        (parse_iff.mpr ⟨shown, blank, by omega, rfl⟩)
      rw [(versionGrammar_iff.mp grammar).2.1] at behind
      cases behind
  | cutNumeral shown blank small cut =>
      have grammar := accepted_grammar found reads
        (parse_iff.mpr ⟨shown, shownRest_blank blank, by omega, rfl⟩)
      rw [toNat_ofNat_small small] at grammar
      exact cut (versionGrammar_iff.mp grammar).2.2.1
  | cutBlanks digits blank small long =>
      have grammar : VersionGrammar data.content
          (UInt32.ofNat (digitsValue (digitsOf data.content))).toNat := by
        rw [toNat_ofNat_small small]
        exact versionGrammar_iff.mpr ⟨digits, blank, rfl, small⟩
      have read := ((reads 0).1 _).mpr grammar
      have hidden : shownDigits data.content = [] := by
        unfold shownDigits
        rw [Nat.sub_eq_zero_of_le long]
        exact List.take_zero
      cases parsed : (fgets 32 data.content).bind parseNumeral with
      | none =>
          simp only [migrationGetVersionInto_file 0 found, parsed] at read
          cases read
      | some value => exact absurd hidden (parse_iff.mp parsed).1

/-- Reading follows the grammar exactly on the contents without a defect. -/
theorem getVersion_grammar_iff {root : Bytes} {disk : Disk} {data : FileData}
    (found : disk.find root (versionFilePath root) = .file data) :
    ReadsGrammar data.content (fun prior =>
        migrationGetVersionInto prior true true root .ok disk) ↔
      ¬VersionDefect data.content :=
  ⟨not_defect_of_readsGrammar found, readsGrammar_of_clean found⟩

def versionFileOf (content : Bytes) : Disk :=
  Disk.write (fun _ => none) (versionFilePath (ofString "/data"))
    (.bytes content)

theorem getVersion_grammar_of_numeral :
    ReadsGrammar (versionText 10000) fun prior =>
      migrationGetVersionInto prior true true (ofString "/data") .ok
        (versionFileOf (versionText 10000)) := by
  have found : (versionFileOf (versionText 10000)).find (ofString "/data")
      (versionFilePath (ofString "/data")) = .file (.bytes (versionText 10000)) :=
    rfl
  refine (getVersion_grammar_iff found).mpr ?_
  rintro (⟨_, _, large, _⟩ | ⟨_, _, _, behind⟩ | ⟨_, _, _, cut⟩ |
    ⟨_, _, _, long⟩)
  · revert large
    decide
  · revert behind
    decide
  · exact cut rfl
  · revert long
    decide

/-- The numeral of `2 ^ 32 + 10000` is read as version 10000. -/
theorem getVersion_reads_low_bits :
    ¬∀ (root : Bytes) (disk : Disk) (data : FileData),
      disk.find root (versionFilePath root) = .file data →
      ReadsGrammar data.content fun prior =>
        migrationGetVersionInto prior true true root .ok disk := by
  intro always
  have reads := always (ofString "/data") (versionFileOf (ofString "4294977296"))
    (.bytes (ofString "4294977296")) rfl
  have grammar := ((reads 0).1 10000).mp (by decide)
  have same := (versionGrammar_iff.mp grammar).2.2.1
  revert same
  decide

end Heapstore.Migration
