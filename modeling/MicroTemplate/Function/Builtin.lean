import MicroTemplate.Member.Method
import MicroTemplate.Value.Arithmetic
import MicroTemplate.Value.Order

/-!
# Built-in functions

The functions that expressions can call without the application registering any. Each takes the
values of its arguments and fails with a message that begins with its name.
-/

namespace MicroTemplate

open Calendar Number

/-- The built-in functions. -/
inductive Builtin where
  | strlen
  | toupper
  | tolower
  | substr
  | strcat
  | replace
  | abs
  | min
  | max
  | range
  | list
  | date
  | seconds
  | now
  deriving DecidableEq, Repr

namespace Builtin

/-- Every built-in function. -/
def all : List Builtin :=
  [strlen, toupper, tolower, substr, strcat, replace, abs, min, max, range, list, date, seconds,
    now]

/-- The name under which a function is called. -/
def name : Builtin → String
  | strlen => "strlen"
  | toupper => "toupper"
  | tolower => "tolower"
  | substr => "substr"
  | strcat => "strcat"
  | replace => "replace"
  | abs => "abs"
  | min => "min"
  | max => "max"
  | range => "range"
  | list => "list"
  | date => "date"
  | seconds => "seconds"
  | now => "now"

/-- The function of a name. -/
def ofName? : String → Option Builtin
  | "strlen" => some strlen
  | "toupper" => some toupper
  | "tolower" => some tolower
  | "strcat" => some strcat
  | "substr" => some substr
  | "replace" => some replace
  | "abs" => some abs
  | "min" => some min
  | "max" => some max
  | "range" => some range
  | "list" => some list
  | "date" => some date
  | "seconds" => some seconds
  | "now" => some now
  | _ => none

variable {α : Type} [HostObject α]

/-- The text of an argument. -/
def textAt (f : Builtin) (args : List (Value α)) (i : Nat) : Except String String :=
  match args[i]? with
  | some v => .ok v.write
  | none => .error (f.name ++ ": argument " ++ decimal i ++ " missing")

/-- The integer that an argument stands for. -/
def intAt (f : Builtin) (args : List (Value α)) (i : Nat) : Except String Int :=
  match args[i]? with
  | some v =>
    match v.toInt with
    | .ok n => .ok n.toInt
    | .error cause => .error (f.name ++ ": " ++ cause.message)
  | none => .error (f.name ++ ": argument " ++ decimal i ++ " missing")

/-- A part of a date as it is given: a natural number of 32 bits. -/
def partAt (f : Builtin) (args : List (Value α)) (i : Nat) : Except String Nat := do
  let n ← f.intAt args i
  if 0 ≤ n ∧ n < 4294967296 then return n.toNat
  else .error (f.name ++ ": argument " ++ decimal i ++ " out of range")

/-- The part of a text that begins after `start` characters and is at most `length` characters long,
to the end if no length is given. What lies outside the text is left out. Places in a text are
natural numbers of 64 bits, and a sum beyond the greatest of them stops there. -/
def slice (cs : List Char) (start : Int) (length : Option Int) : List Char :=
  let first := Min.min start.toNat cs.length
  let last := match length with
    | some n => Min.min (Min.min (first + n.toNat) 18446744073709551615) cs.length
    | none => cs.length
  (cs.take last).drop first

/-- The argument that comes first in the order, or last if `wanted` says greater: the first such
argument. -/
def extreme (f : Builtin) (wanted : Ordering) (best : Value α) :
    List (Value α) → Except String (Value α)
  | [] => .ok best
  | v :: vs =>
    match v.compare best with
    | .ok order => extreme f wanted (if order = wanted then v else best) vs
    | .error cause => .error (f.name ++ ": " ++ cause.message)

/-- The extreme of arguments of which there has to be one. -/
def extremeOf (f : Builtin) (wanted : Ordering) : List (Value α) → Except String (Value α)
  | [] => .error (f.name ++ ": too few args")
  | v :: vs => f.extreme wanted v vs

/-- How many integers there are from `start` up to and not with `stop`. -/
def span (start stop : Int) : Nat := (stop - start).toNat

/-- The integers from `start` up to and not with `stop`. -/
def interval (start stop : Int) : List (Value α) :=
  (List.range (span start stop)).map fun (i : Nat) => Value.ofInt (start + i)

/-- Whether a call asks for a list of more than `capacity` values. Only `range` makes lists that are
longer than its arguments; it asks for room for all of its integers before it makes the first. -/
def outgrows (capacity : Nat) (f : Builtin) (args : List (Value α)) : Bool :=
  match f with
  | range =>
    match f.intAt args 0, f.intAt args 1 with
    | .ok start, .ok stop => decide (capacity < span start stop)
    | _, _ => false
  | _ => false

/-- The size of a number; the lowest integer has none. -/
def size (f : Builtin) (args : List (Value α)) : Except String (Value α) :=
  match args with
  | .float x :: _ => .ok (.float x.abs)
  | _ => do
    let n ← f.intAt args 0
    match narrow? n.natAbs with
    | some k => return .int k
    | none => .error (f.name ++ ": integer overflow")

/-- The time of day that is given after a date; midnight if there is none. -/
def timeParts (f : Builtin) (args : List (Value α)) : Except String (Nat × Nat × Nat) := do
  if 3 < args.length then
    let hour ← f.partAt args 3
    let minute ← f.partAt args 4
    let second ← f.partAt args 5
    return (hour, minute, second)
  else return (0, 0, 0)

/-- The date that year, month and day give, with a time if there is one. -/
def moment (f : Builtin) (args : List (Value α)) : Except String (Value α) := do
  let year ← f.intAt args 0
  if year < -2147483648 ∨ 2147483647 < year then .error (f.name ++ ": year out of range")
  else
    let month ← f.partAt args 1
    let day ← f.partAt args 2
    let (hour, minute, second) ← f.timeParts args
    match (Date.of? year month day).bind fun d => DateTime.of? d hour minute second with
    | some t => return .dateTime t
    | none => .error (f.name ++ ": invalid date")

/-- Calls a built-in function; `clock` is the present moment. Where the call outgrows the capacity
of the program it gives no answer, and what is said here is the one for which there is no room. -/
def call (clock : DateTime) (f : Builtin) (args : List (Value α)) : Except String (Value α) :=
  match f with
  | strlen => do return .ofInt (← f.textAt args 0).toList.length
  | toupper => do return .ofChars (Text.upper (← f.textAt args 0).toList)
  | tolower => do return .ofChars (Text.lower (← f.textAt args 0).toList)
  | substr => do
    let s ← f.textAt args 0
    let start ← f.intAt args 1
    let length ← if 2 < args.length then some <$> f.intAt args 2 else .ok none
    return .ofChars (slice s.toList start length)
  | strcat => .ok (.text (String.join (args.map Value.write)))
  | replace => do
    let s ← f.textAt args 0
    let needle ← f.textAt args 1
    let replacement ← f.textAt args 2
    return .ofChars (Text.replaceAll needle.toList replacement.toList s.toList)
  | abs => f.size args
  | min => f.extremeOf .lt args
  | max => f.extremeOf .gt args
  | range => do
    let start ← f.intAt args 0
    let stop ← f.intAt args 1
    return .list (interval start stop)
  | list => .ok (.list args)
  | date => f.moment args
  | seconds => do
    let n ← f.intAt args 0
    match Duration.ofSeconds? n with
    | some d => return .duration d
    | none => .error (f.name ++ ": out of range")
  | now => .ok (.dateTime clock)

/-- Calls the built-in function of a name, if there is one. -/
def call? (clock : DateTime) (name : String) (args : List (Value α)) :
    Option (Except String (Value α)) :=
  (ofName? name).map fun f => f.call clock args

end Builtin

end MicroTemplate
