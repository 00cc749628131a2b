/-
Files that names link to.

A name links to at most one file.  A file keeps its content when its name is
unlinked, and a handle still writes to it; the name may then be linked to
another file.
-/

import Heapstore.Foundation.ByteText
import Mathlib.Logic.Function.Basic

namespace FileLinks

open ByteText

structure Stored where
  content : Bytes
  modified : Int

/-- The links, the files by number, and the number of the next new file. -/
structure Files (Name : Type*) where
  names : Name → Option Nat
  stored : Nat → Stored
  fresh : Nat
  known : ∀ name file, names name = some file → file < fresh

variable {Name : Type*}

def Files.append (now : Int) (file : Nat) (text : Bytes)
    (files : Files Name) : Files Name :=
  { files with
      stored := Function.update files.stored file
        { content := (files.stored file).content ++ text, modified := now } }

def Files.unlink (gone : Name → Nat → Bool) (files : Files Name) :
    Files Name where
  names := fun name => (files.names name).filter fun file => !gone name file
  stored := files.stored
  fresh := files.fresh
  known name file linked :=
    files.known name file (Option.filter_eq_some_iff.mp linked).1

/-- No file has two names. -/
def Files.Single (files : Files Name) : Prop :=
  ∀ name other file, files.names name = some file →
    files.names other = some file → other = name

section Links

variable {files : Files Name} {name : Name} {file : Nat}

theorem linked_unlink_iff {gone : Name → Nat → Bool} :
    (files.unlink gone).names name = some file ↔
      files.names name = some file ∧ gone name file = false := by
  have filtered : (files.unlink gone).names name = some file ↔
      files.names name = some file ∧ (!gone name file) = true :=
    Option.filter_eq_some_iff
  rw [filtered, Bool.not_eq_true']

theorem append_content (now : Int) (file : Nat) (text : Bytes) (reader : Nat)
    (files : Files Name) :
    ((files.append now file text).stored reader).content =
      if reader = file then (files.stored file).content ++ text
      else (files.stored reader).content := by
  unfold Files.append
  simp only
  split
  · next same => rw [same, Function.update_self]
  · next different => rw [Function.update_of_ne different]

end Links

section Opening

variable [DecidableEq Name]

def Files.create (now : Int) (name : Name) (files : Files Name) :
    Files Name where
  names := Function.update files.names name (some files.fresh)
  stored := Function.update files.stored files.fresh
    { content := [], modified := now }
  fresh := files.fresh + 1
  known other file linked := by
    by_cases same : other = name
    · subst same
      rw [Function.update_self] at linked
      cases linked
      exact Nat.lt_succ_self _
    · rw [Function.update_of_ne same] at linked
      exact Nat.lt_succ_of_lt (files.known other file linked)

/-- Opening for appending gives a handle, and creates a missing file. -/
def Files.openAppend (now : Int) (name : Name) (files : Files Name) :
    Files Name × Nat :=
  match files.names name with
  | some file => (files, file)
  | none => (files.create now name, files.fresh)

variable {files : Files Name} {other : Name} {file : Nat}

theorem openAppend_linked (now : Int) (name : Name) (files : Files Name) :
    (files.openAppend now name).1.names name =
      some (files.openAppend now name).2 := by
  unfold Files.openAppend
  cases found : files.names name with
  | some file => exact found
  | none => exact Function.update_self ..

theorem linked_openAppend (linked : files.names other = some file) (now : Int)
    (name : Name) :
    (files.openAppend now name).1.names other = some file := by
  unfold Files.openAppend
  cases found : files.names name with
  | some _ => exact linked
  | none =>
      have different : other ≠ name := by
        intro same
        rw [same, found] at linked
        cases linked
      exact (Function.update_of_ne different ..).trans linked

/-- The name of a file becomes another one; what the other name linked to is
no longer named by it. -/
def Files.rename (source target : Name) (files : Files Name) : Files Name :=
  if source = target then files
  else
    match linked : files.names source with
    | none => files
    | some moved =>
        { names := Function.update
            (Function.update files.names target (some moved)) source none
          stored := files.stored
          fresh := files.fresh
          known := by
            intro name file here
            by_cases first : name = source
            · rw [first, Function.update_self] at here
              cases here
            · rw [Function.update_of_ne first] at here
              by_cases second : name = target
              · rw [second, Function.update_self] at here
                cases here
                exact files.known source _ linked
              · rw [Function.update_of_ne second] at here
                exact files.known name file here }

theorem rename_stored (source target : Name) (files : Files Name) :
    (files.rename source target).stored = files.stored := by
  unfold Files.rename
  split
  · rfl
  · split <;> rfl

theorem linked_rename {name source target : Name}
    (linked : files.names name = some file)
    (free : files.names target = none) :
    (files.rename source target).names
      (if name = source then target else name) = some file := by
  have named : name ≠ target := by
    rintro rfl
    rw [free] at linked
    cases linked
  unfold Files.rename
  by_cases same : source = target
  · rw [if_pos same, if_neg fun here => named (here.trans same)]
    exact linked
  · rw [if_neg same]
    split
    · next missing =>
        have other : name ≠ source := by
          rintro rfl
          rw [missing] at linked
          cases linked
        rw [if_neg other]
        exact linked
    · next moved found =>
        simp only
        by_cases here : name = source
        · rw [if_pos here, Function.update_of_ne (Ne.symm same),
            Function.update_self, ← found, ← here, linked]
        · rw [if_neg here, Function.update_of_ne here,
            Function.update_of_ne named]
          exact linked

theorem single_create (single : files.Single) (now : Int) (name : Name) :
    (files.create now name).Single := by
  have apart : ∀ other, files.names other ≠ some files.fresh := by
    intro other linked
    exact Nat.lt_irrefl _ (files.known other _ linked)
  intro first second file left right
  unfold Files.create at left right
  simp only at left right
  by_cases here : first = name
  · subst here
    rw [Function.update_self] at left
    cases left
    by_contra different
    rw [Function.update_of_ne different] at right
    exact apart second right
  · rw [Function.update_of_ne here] at left
    by_cases there : second = name
    · subst there
      rw [Function.update_self] at right
      cases right
      exact absurd left (apart first)
    · rw [Function.update_of_ne there] at right
      exact single first second file left right

theorem single_openAppend (single : files.Single) (now : Int) (name : Name) :
    (files.openAppend now name).1.Single := by
  unfold Files.openAppend
  cases files.names name with
  | some file => exact single
  | none => exact single_create single now name

end Opening

/-! ### Texts that stay readable -/

/-- The name links to a file with the text that was written last at the time
or later. -/
def Files.KeepsAt (name : Name) (since : Int) (text : Bytes)
    (files : Files Name) : Prop :=
  ∃ file, files.names name = some file ∧
    text <:+: (files.stored file).content ∧
    since ≤ (files.stored file).modified

section Keeping

variable {files : Files Name} {name : Name} {since : Int} {text : Bytes}

theorem keepsAt_append (keeps : files.KeepsAt name since text) {now : Int}
    (later : since ≤ now) (written : Nat) (more : Bytes) :
    (files.append now written more).KeepsAt name since text := by
  obtain ⟨file, linked, inside, recent⟩ := keeps
  refine ⟨file, linked, ?_, ?_⟩
  · rw [append_content]
    split
    · next same => exact same ▸ inside.trans (List.prefix_append ..).isInfix
    · exact inside
  · unfold Files.append
    by_cases same : file = written
    · simp only [same, Function.update_self]
      exact later
    · simp only [Function.update_of_ne same]
      exact recent

theorem keepsAt_appended {file : Nat} (linked : files.names name = some file)
    (now : Int) (text : Bytes) :
    (files.append now file text).KeepsAt name now text := by
  refine ⟨file, linked, ?_, ?_⟩
  · rw [append_content, if_pos rfl]
    exact (List.suffix_append ..).isInfix
  · unfold Files.append
    simp only [Function.update_self]
    exact le_rfl

theorem keepsAt_unlink (keeps : files.KeepsAt name since text)
    {gone : Name → Nat → Bool}
    (spares : ∀ file, since ≤ (files.stored file).modified →
      gone name file = false) :
    (files.unlink gone).KeepsAt name since text := by
  obtain ⟨file, linked, inside, recent⟩ := keeps
  exact ⟨file, linked_unlink_iff.mpr ⟨linked, spares file recent⟩, inside,
    recent⟩

variable [DecidableEq Name]

theorem keepsAt_openAppend (keeps : files.KeepsAt name since text) (now : Int)
    (opened : Name) :
    (files.openAppend now opened).1.KeepsAt name since text := by
  obtain ⟨file, linked, inside, recent⟩ := keeps
  refine ⟨file, linked_openAppend linked now opened, ?_⟩
  have same : (files.openAppend now opened).1.stored file =
      files.stored file := by
    unfold Files.openAppend
    cases files.names opened with
    | some _ => rfl
    | none =>
        exact Function.update_of_ne
          (Nat.ne_of_lt (files.known name file linked)) ..
  rw [same]
  exact ⟨inside, recent⟩

theorem keepsAt_rename (keeps : files.KeepsAt name since text)
    {source target : Name} (free : files.names target = none) :
    (files.rename source target).KeepsAt
      (if name = source then target else name) since text := by
  obtain ⟨file, linked, inside, recent⟩ := keeps
  refine ⟨file, linked_rename linked free, ?_⟩
  rw [rename_stored]
  exact ⟨inside, recent⟩

end Keeping

end FileLinks
