import MicroTemplate.Program.Run
import Std.Time

/-!
# The program

The outer layer: files, standard streams and the clock of the real system. What the program does is
said by `Program.run`.
-/

namespace MicroTemplate.Main

open Program Calendar

/-- The code that an error of the system carries. -/
def codeOf : IO.Error → UInt32
  | .alreadyExists _ code _ => code
  | .otherError code _ => code
  | .resourceBusy code _ => code
  | .resourceVanished code _ => code
  | .unsupportedOperation code _ => code
  | .hardwareFault code _ => code
  | .unsatisfiedConstraints code _ => code
  | .illegalOperation code _ => code
  | .protocolError code _ => code
  | .timeExpired code _ => code
  | .interrupted _ code _ => code
  | .noFileOrDirectory _ code _ => code
  | .invalidArgument _ code _ => code
  | .permissionDenied _ code _ => code
  | .resourceExhausted _ code _ => code
  | .inappropriateType _ code _ => code
  | .noSuchThing _ code _ => code
  | .unexpectedEof => 5
  | .userError _ => 5

/-- The number of the system's reason for an error. Some calls report it with the opposite sign. -/
def reasonOf (e : IO.Error) : Nat :=
  let code := codeOf e
  if code < 0x80000000 then code.toNat else (0 - code).toNat

/-- An action whose refusal by the system is a fault. -/
def guarded {β : Type} (action : IO β) : IO (Except FileFault β) :=
  try return .ok (← action)
  catch e => return .error (.system (reasonOf e))

/-- All that a stream still holds, after what has been read. -/
partial def readRest (stream : IO.FS.Stream) (read : ByteArray) : IO ByteArray := do
  let chunk ← stream.read 65536
  if chunk.isEmpty then return read else readRest stream (read ++ chunk)

/-- The present moment, at the place of the user. -/
def clock : IO DateTime := do
  let now ← Std.Time.PlainDateTime.now
  let moment : Option DateTime := do
    let date ← Date.of? now.year.toInt now.month.val.toNat now.day.val.toNat
    let time ← DateTime.of? date now.hour.val.toNat now.minute.val.toNat now.second.val.toNat
    time.withNanosecond? now.nanosecond.val.toNat
  match moment with
  | some moment => return moment
  | none => throw (IO.userError "the clock shows no date of the calendar")

/-- How many values a list can have: each takes 72 bytes, and all of them less than 2 ^ 63. -/
def capacity : Nat := 9223372036854775807 / 72

/-- The real system. -/
def platform : Platform IO where
  now _ := clock
  capacity := capacity
  home := return (← IO.getEnv "HOME").getD ""
  pathExists path := do
    try
      discard <| IO.FS.realPath path
      return true
    catch _ => return false
  readFile path := guarded (IO.FS.readBinFile path)
  readInput := guarded do readRest (← IO.getStdin) .empty
  writeFile path text := guarded (IO.FS.writeFile path text)

/-- How many steps a render may take: more than there is time for. -/
def fuel : Nat := 4611686018427387904

end MicroTemplate.Main

open MicroTemplate in
/-- Runs the program and shows its report. -/
def main (words : List String) : IO UInt32 := do
  let some report ← Program.run Main.platform Main.fuel words | return 1
  (← IO.getStderr).putStr report.messages
  (← IO.getStdout).putStr report.output
  return report.status.toUInt32
