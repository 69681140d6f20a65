import MicroTemplate.Program.Disk
import MicroTemplate.Proofs.Expression.Stacks

/-!
# What is written to a disk

To write a file is to put one entry in place of what its names led to. No directory is touched by
it, so all paths that led somewhere lead to the same place as before; and what was written is read
under its path.
-/

namespace MicroTemplate.Program

open Expression

/-- The text of some bytes is the one that they encode. -/
theorem textOfBytes_eq_ok_iff {bytes : ByteArray} {text : String} :
    textOfBytes bytes = .ok text ↔ bytes = text.toUTF8 := by
  rw [textOfBytes, String.fromUTF8?]
  by_cases valid : bytes.IsValidUTF8
  · rw [dif_pos valid]
    constructor
    · rintro ⟨⟩
      rfl
    · rintro rfl
      rfl
  · rw [dif_neg valid]
    refine iff_of_false (by simp) ?_
    rintro rfl
    exact valid text.isValidUTF8

/-- What is read is a text if it encodes one. -/
theorem bind_textOfBytes_eq_ok_iff {x : Except FileFault ByteArray} {text : String} :
    x >>= textOfBytes = .ok text ↔ x = .ok text.toUTF8 := by
  cases x with
  | error fault => exact iff_of_false (by simp [error_bind]) (by simp)
  | ok bytes =>
    rw [ok_bind, textOfBytes_eq_ok_iff]
    exact ⟨congrArg _, Except.ok.inj⟩

namespace Disk

/-- Whether the file of a path holds a text. -/
def Holds (disk : Disk) (path text : String) : Prop := disk.read path = .ok text.toUTF8

theorem lookup_putEntry (names : List String) (entry : Entry)
    (entries : List (List String × Entry)) (other : List String) :
    (putEntry names entry entries).lookup other =
      if other = names then some entry else entries.lookup other := by
  induction entries with
  | nil =>
    rw [putEntry, List.lookup_cons]
    by_cases h : other = names
    · simp [h]
    · rw [beq_eq_false_iff_ne.2 h, if_neg h]
  | cons e entries ih =>
    obtain ⟨names', entry'⟩ := e
    rw [putEntry]
    by_cases h : names' = names
    · rw [if_pos h, List.lookup_cons, List.lookup_cons, h]
      by_cases ho : other = names
      · simp [ho]
      · rw [beq_eq_false_iff_ne.2 ho, if_neg ho]
    · rw [if_neg h, List.lookup_cons, List.lookup_cons, ih]
      by_cases ho : other = names'
      · simp [ho, h]
      · rw [beq_eq_false_iff_ne.2 ho]

variable {disk : Disk} {names : List String}

/-- An entry that is put in place changes what its names lead to, and nothing else. -/
theorem entry?_put (h : names ≠ []) (entry : Entry) (other : List String) :
    Disk.entry? (disk.put names entry) other =
      if other = names then some entry else disk.entry? other := by
  cases other with
  | nil => rw [if_neg (Ne.symm h), entry?, entry?]; rfl
  | cons first rest => exact lookup_putEntry names entry disk.entries (first :: rest)

/-! ## Paths -/

section

variable (h : names ≠ []) (free : disk.entry? names ≠ some .directory) (content : ByteArray)

include h free

/-- A file in place of something that is no directory does not stand in the way. -/
theorem descend_put {directory inner : List String} {name : String}
    (hd : disk.descend directory name = .ok inner) :
    (disk.put names (.file content)).descend directory name = .ok inner := by
  rw [descend] at hd ⊢
  split
  · next dot => rwa [if_pos dot] at hd
  · next dot =>
    rw [if_neg dot] at hd
    split
    · next dots => rwa [if_pos dots] at hd
    · next dots =>
      rw [if_neg dots] at hd
      split
      · next long =>
        rw [if_pos long] at hd
        cases hd
      · next long =>
        rw [if_neg long] at hd
        split at hd
        · next found =>
          -- What was replaced is no directory, and this is one.
          have other : directory ++ [name] ≠ names := fun same => free (same ▸ found)
          rw [entry?_put h, if_neg other, found]
          exact hd
        · cases hd
        · cases hd

theorem foldlM_descend_put {path directory inner : List String}
    (hd : path.foldlM disk.descend directory = .ok inner) :
    path.foldlM (disk.put names (.file content)).descend directory = .ok inner := by
  induction path generalizing directory with
  | nil => exact hd
  | cons name path ih =>
    rw [List.foldlM_cons] at hd ⊢
    obtain ⟨next, first, rest⟩ := bind_eq_ok hd
    rw [descend_put h free content first, ok_bind]
    exact ih rest

/-- Paths end where they ended before. -/
theorem place_put {path : String} {place : Place} (hp : disk.place path = .ok place) :
    (disk.put names (.file content)).place path = .ok place := by
  rw [Disk.place] at hp ⊢
  split
  · next hollow =>
    rw [if_pos hollow] at hp
    cases hp
  · next hollow =>
    rw [if_neg hollow] at hp
    split
    · next long =>
      rw [if_pos long] at hp
      cases hp
    · next long =>
      rw [if_neg long] at hp
      dsimp only at hp ⊢
      obtain ⟨parent, above, last⟩ := bind_eq_ok hp
      rw [foldlM_descend_put h free content above, ok_bind]
      split
      · next none => rwa [none] at last
      · next name some =>
        rw [some] at last
        dsimp only at last
        split
        · next dots =>
          rw [if_pos dots] at last
          obtain ⟨inner, below, same⟩ := bind_eq_ok last
          rw [descend_put h free content below, ok_bind]
          exact same
        · next dots => rwa [if_neg dots] at last

end

/-! ## Writing -/

/-- A file can be written where there is a directory to hold it and no directory of its name. -/
theorem write_eq_ok_iff {path : String} {content : ByteArray} {disk' : Disk} :
    disk.write path content = .ok disk' ↔
      ∃ parent name, disk.place path = .ok ⟨parent, some name, false⟩ ∧
        disk.entry? (parent ++ [name]) ≠ some .directory ∧
        disk' = disk.put (parent ++ [name]) (.file content) := by
  rw [write]
  constructor
  · intro h
    obtain ⟨⟨parent, last, slashed⟩, hp, h⟩ := bind_eq_ok h
    dsimp only at h
    split at h
    · next name =>
      split at h
      · cases h
      · next free =>
        cases h
        exact ⟨parent, name, hp, free, rfl⟩
    · cases h
  · rintro ⟨parent, name, hp, free, rfl⟩
    rw [hp, ok_bind]
    dsimp only
    split
    · next found => exact absurd found free
    · rfl

/-- What was written is read. -/
theorem read_of_write {path : String} {content : ByteArray} {disk' : Disk}
    (h : disk.write path content = .ok disk') : disk'.read path = .ok content := by
  obtain ⟨parent, name, hp, free, rfl⟩ := write_eq_ok_iff.1 h
  have named : parent ++ [name] ≠ [] := by simp
  rw [read, place_put named free content hp, ok_bind]
  dsimp only
  rw [entry?_put named, if_pos rfl]
  rfl

/-- Whether a disk is another one with a text in the file of a path, and no other change. -/
def Receives (disk : Disk) (path text : String) (disk' : Disk) : Prop :=
  ∃ parent name, disk.place path = .ok ⟨parent, some name, false⟩ ∧
    disk.entry? (parent ++ [name]) ≠ some .directory ∧ disk'.Holds path text ∧
    ∀ names, names ≠ parent ++ [name] → disk'.entry? names = disk.entry? names

/-- What is written is received. -/
theorem receives_of_write {path text : String} {disk' : Disk}
    (h : disk.write path text.toUTF8 = .ok disk') : disk.Receives path text disk' := by
  have holds : disk'.Holds path text := read_of_write h
  obtain ⟨parent, name, place, free, rfl⟩ := write_eq_ok_iff.1 h
  refine ⟨parent, name, place, free, holds, fun names other => ?_⟩
  rw [entry?_put (by simp), if_neg other]

/-- What can be received can be written. -/
theorem Receives.exists_write {path text : String} {disk' : Disk}
    (h : disk.Receives path text disk') : ∃ written, disk.write path text.toUTF8 = .ok written := by
  obtain ⟨parent, name, place, free, _⟩ := h
  exact ⟨_, write_eq_ok_iff.2 ⟨parent, name, place, free, rfl⟩⟩

end Disk

end MicroTemplate.Program
