import MicroTemplate.Calendar.DateTime
import MicroTemplate.Program.FileFault

/-!
# Platforms

What the program needs of the system it runs on. The program is written against this interface, so
that it can run on a real system as well as on a disk in memory.
-/

namespace MicroTemplate.Program

open Calendar

/-- The parts of a run that evaluate expressions, in their order. The clock is read once for each of
them. -/
inductive Stage where
  /-- The lines of the variables file. -/
  | variablesFile
  /-- The definitions of the command line. -/
  | definitions
  /-- The directives of the template. -/
  | template
  deriving DecidableEq, Repr

/-- The services of a system. -/
structure Platform (m : Type → Type) where
  /-- Reads the clock at the beginning of a stage. -/
  now : Stage → m DateTime
  /-- How many values a list can have at most. -/
  capacity : Nat
  /-- The path of the user's home directory. -/
  home : m String
  /-- Whether a path leads to something. -/
  pathExists : String → m Bool
  /-- Reads the file of a path. -/
  readFile : String → m (Except FileFault ByteArray)
  /-- Reads the standard input to its end. -/
  readInput : m (Except FileFault ByteArray)
  /-- Writes a text into the file of a path, in place of what it holds. -/
  writeFile : String → String → m (Except FileFault Unit)

/-- The text of some bytes. -/
def textOfBytes (bytes : ByteArray) : Except FileFault String :=
  match String.fromUTF8? bytes with
  | some text => .ok text
  | none => .error .notText

namespace Platform

variable {m : Type → Type} [Monad m]

/-- Reads the file of a path as a text. -/
def readText (p : Platform m) (path : String) : m (Except FileFault String) :=
  return (← p.readFile path) >>= textOfBytes

/-- Reads the standard input as a text. -/
def readInputText (p : Platform m) : m (Except FileFault String) :=
  return (← p.readInput) >>= textOfBytes

end Platform

end MicroTemplate.Program
