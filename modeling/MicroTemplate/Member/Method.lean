import MicroTemplate.Member.Property
import MicroTemplate.Regex.Replacement
import MicroTemplate.Value.Coercion

/-!
# Methods

What stands to the right of an arrow with arguments. Floating-point numbers and texts have methods
of their own; an object has what its adapter offers, or what is registered for its type.
-/

namespace MicroTemplate.Value

open Number Text

variable {α : Type}

/-- The text of an argument. -/
def argumentText [HostObject α] (name : String) (args : List (Value α)) (i : Nat) :
    Except String String :=
  match args[i]? with
  | some v => .ok v.write
  | none => .error (name ++ ": missing argument " ++ decimal (i + 1))

/-- The integer that an argument stands for. -/
def argumentInt (name : String) (args : List (Value α)) (i : Nat) : Except String Int64 :=
  match args[i]? with
  | some v => v.toInt.mapError fun cause => name ++ ": " ++ cause.message
  | none => .error (name ++ ": missing argument " ++ decimal (i + 1))

/-- A floating-point number rounded to as many decimal places as the argument says, or to an
integer. -/
def roundPlaces (x : Float) (args : List (Value α)) : Except String (Value α) :=
  match args with
  | [] => .ok (.float (roundFloat .halfEven x))
  | [_] => do
    let places ← argumentInt "Round" args 0
    if 0 ≤ places.toInt ∧ places.toInt ≤ 15 then
      let scale := Float.ofNat (Nat.pow 10 places.toInt.toNat)
      return .float (roundFloat .halfEven (x * scale) / scale)
    else .error ("Round: digits out of range: " ++ .ofList (Number.write places.toInt))
  | _ => .error ("Round: expected at most 1 argument, got " ++ decimal args.length)

/-- Where the part of a text ends that begins after `start` characters and is `length` characters
long, if it lies within the text. -/
def partEnd? (count start length : Int64) : Option Int64 :=
  if 0 ≤ start ∧ 0 ≤ length then
    (narrow? (start.toInt + length.toInt)).filter fun stop => stop ≤ count
  else none

/-- The part of a text that begins after `start` characters and is `length` characters long, or as
long as the text goes on if no length is given. It has to lie within the text. -/
def substring (cs : List Char) (start : Int64) (length : Option Int64) :
    Except String (List Char) :=
  let count := Int64.ofNat cs.length
  let length := length.getD (saturate (count.toInt - start.toInt))
  match partEnd? count start length with
  | some stop => .ok ((cs.take stop.toInt.toNat).drop start.toInt.toNat)
  | none =>
    .error ("Substring: range " ++ .ofList (Number.write start.toInt) ++ "+" ++
      .ofList (Number.write length.toInt) ++ " out of bounds for length " ++
      .ofList (Number.write count.toInt))

/-- The pattern that the first argument holds. -/
def argumentPattern [HostObject α] (name : String) (args : List (Value α)) :
    Except String Regex.Matcher := do
  let pattern ← argumentText name args 0
  (Regex.Matcher.ofPattern? pattern.toList).mapError fun e =>
    name ++ ": " ++ e.message pattern

/-- The methods of texts; none if no method has that name. -/
def textMethod [HostObject α] (s : String) (name : String) (args : List (Value α)) :
    Except String (Option (Value α)) :=
  let cs := s.toList
  match name with
  | "ToUpper" => .ok (some (ofChars (upper cs)))
  | "ToLower" => .ok (some (ofChars (lower cs)))
  | "Trim" => .ok (some (ofChars (trim cs)))
  | "TrimStart" => .ok (some (ofChars (trimStart cs)))
  | "TrimEnd" => .ok (some (ofChars (trimEnd cs)))
  | "Substring" => do
    let start ← argumentInt name args 0
    let length ← if 1 < args.length then some <$> argumentInt name args 1 else .ok none
    return some (ofChars (← substring cs start length))
  | "Contains" => do
    let needle ← argumentText name args 0
    return some (.bool (Text.contains needle.toList cs))
  | "Matches" => do
    let pattern ← argumentPattern name args
    return some (.bool (pattern.isMatch cs))
  | "Replace" => do
    let pattern ← argumentPattern name args
    let replacement ← argumentText name args 1
    return some (ofChars (pattern.replaceAll cs replacement.toList))
  | _ => .ok none

/-- Calls a method of a value, which may fail with a message. What has methods gives null for a
missing one; what has none gives the empty text. -/
def call [HostObject α] (types : Option (TypeRegistry α)) (v : Value α) (name : String)
    (args : List (Value α)) : Except String (Value α) :=
  match v with
  | null => .ok null
  | bool _ | map _ => .ok empty
  | object o =>
    match HostObject.adapter o with
    | some adapter => return (← adapter.invoke name args).getD null
    | none =>
      match types.bind (·.method? o name) with
      | some method => method args
      | none => .ok empty
  | float x => if name = "Round" then roundPlaces x args else .ok null
  | text s => return (← textMethod s name args).getD null
  | int _ | list _ | dateTime _ | duration _ => .ok null

end MicroTemplate.Value
