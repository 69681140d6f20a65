import MicroTemplate.Number.Integer

/-!
# File faults

Why a file could not be read or written: what it holds is no text, or the system refused, which it
says by a number.
-/

namespace MicroTemplate.Program

/-- Why a file could not be read or written. -/
inductive FileFault where
  /-- The bytes are no text in UTF-8. -/
  | notText
  /-- The system refused, with the number of its reason. -/
  | system (reason : Nat)
  deriving DecidableEq, Repr

namespace FileFault

/-- There is nothing of that name. -/
abbrev notFound : FileFault := .system 2

/-- Something that has to be a directory is none. -/
abbrev notDirectory : FileFault := .system 20

/-- Something that has to be a file is a directory. -/
abbrev isDirectory : FileFault := .system 21

/-- A name is longer than names can be. -/
abbrev nameTooLong : FileFault := .system 36

/-- The system's reason of a number, in words. -/
def reason : Nat → String
  | 1 => "Operation not permitted"
  | 2 => "No such file or directory"
  | 5 => "Input/output error"
  | 6 => "No such device or address"
  | 9 => "Bad file descriptor"
  | 13 => "Permission denied"
  | 16 => "Device or resource busy"
  | 17 => "File exists"
  | 20 => "Not a directory"
  | 21 => "Is a directory"
  | 22 => "Invalid argument"
  | 23 => "Too many open files in system"
  | 24 => "Too many open files"
  | 26 => "Text file busy"
  | 27 => "File too large"
  | 28 => "No space left on device"
  | 30 => "Read-only file system"
  | 32 => "Broken pipe"
  | 36 => "File name too long"
  | 40 => "Too many levels of symbolic links"
  | n => "Unknown error " ++ Number.decimal n

/-- The message of a fault. -/
def message : FileFault → String
  | notText => "stream did not contain valid UTF-8"
  | system n => reason n ++ " (os error " ++ Number.decimal n ++ ")"

end FileFault

end MicroTemplate.Program
