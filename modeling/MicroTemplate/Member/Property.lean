import MicroTemplate.Encoding.Html
import MicroTemplate.Encoding.Url
import MicroTemplate.Member.Registry
import MicroTemplate.Number.Grouped
import MicroTemplate.Text.Search
import MicroTemplate.Value.Text

/-!
# Properties

What stands to the right of an arrow without arguments. Numbers, texts, lists, dates and spans of
time have properties of their own; a map has its entries; an object has what it offers, or what is
registered for its type.
-/

namespace MicroTemplate.Value

open Calendar Number

variable {α : Type}

/-- A property that is an integer. -/
def ofInt (n : Int) : Value α := .int (Int64.ofInt n)

/-- A property that is a text. -/
def ofChars (cs : List Char) : Value α := .text (.ofList cs)

/-- A floating-point number rounded to an integer, with its thousands set apart; as it is if no
64-bit integer is near. -/
def groupedFloat (x : Float) : List Char :=
  match roundToInt? .halfAway x with
  | some n =>
    if -9223372036854775808 < n ∧ n < 9223372036854775808 then writeGrouped n else writeFloat x
  | none => writeFloat x

/-- The properties of floating-point numbers. -/
def floatProperty? (x : Float) (name : String) : Option (Value α) :=
  match name with
  | "NumberFormat" => some (ofChars (groupedFloat x))
  | "Ceiling" => some (.float (roundFloat .ceiling x))
  | "Floor" => some (.float (roundFloat .floor x))
  | "InvariantCulture" => some (ofChars (writeFloat x))
  | _ => none

/-- A text whose lines end in markup as well. -/
def breakLines (cs : List Char) : List Char :=
  Text.replaceAll ['\n'] "<br />\n".toList (Text.replaceAll ['\r', '\n'] ['\n'] cs)

/-- The properties of texts. -/
def textProperty? (s : String) (name : String) : Option (Value α) :=
  match name with
  | "Length" => some (ofInt s.toList.length)
  | "HtmlEncoded" => some (ofChars (Encoding.html s.toList))
  | "UrlEncoded" => some (ofChars (Encoding.form s))
  | "Nl2Br" => some (ofChars (breakLines s.toList))
  | _ => none

/-- The properties of dates. -/
def dateTimeProperty? (t : DateTime) (name : String) : Option (Value α) :=
  match name with
  | "Year" => some (ofInt t.date.year)
  | "Month" => some (ofInt t.date.month)
  | "Day" => some (ofInt t.date.day)
  | "Hour" => some (ofInt t.hour)
  | "Minute" => some (ofInt t.minute)
  | "Second" => some (ofInt t.secondOfMinute)
  | "Millisecond" => some (ofInt t.millisecond)
  | "DayOfYear" => some (ofInt t.date.dayOfYear)
  | "DayOfWeek" => some (.text t.date.weekdayName)
  | "Date" => some (.dateTime t.midnight)
  | "TimeOfDay" => some (.duration t.timeOfDay)
  | "Ticks" => t.ticks?.map .int
  | "LongTime" => some (ofChars t.longTime)
  | "ShortTime" => some (ofChars t.shortTime)
  | "LongDate" => some (ofChars t.longDate)
  | "ShortDate" => some (ofChars t.shortDate)
  | _ => none

/-- The properties of spans of time. -/
def durationProperty? (d : Duration) (name : String) : Option (Value α) :=
  match name with
  | "Days" => some (ofInt d.days)
  | "Hours" => some (ofInt d.hourPart)
  | "Minutes" => some (ofInt d.minutePart)
  | "Seconds" => some (ofInt d.secondPart)
  | "Milliseconds" => some (ofInt d.millisecondPart)
  | "TotalHours" => some (.float (d.totalSeconds / 3600.0))
  | "TotalMinutes" => some (.float (d.totalSeconds / 60.0))
  | "TotalSeconds" => some (.float d.totalSeconds)
  | "TotalMilliseconds" => some (.float (d.totalSeconds * 1000.0))
  | "RoundForSeconds" => d.rounded?.map .duration
  | "Format" => some (ofChars d.writeUnits)
  | _ => none

/-- The property of a value that has properties of its own; null if none has that name. -/
def ownProperty (name : String) : Value α → Option (Value α)
  | int n => if name = "NumberFormat" then some (ofChars (writeGrouped n.toInt)) else none
  | float x => floatProperty? x name
  | text s => textProperty? s name
  | list items => if name = "Count" then some (ofInt items.length) else none
  | dateTime t => dateTimeProperty? t name
  | duration d => durationProperty? d name
  | _ => none

/-- The property of a value. What has properties or entries gives null for a missing one; what has
none gives the empty text. -/
def property [HostObject α] (types : Option (TypeRegistry α)) (v : Value α) (name : String) :
    Value α :=
  match v with
  | null => null
  | bool _ => empty
  | map entries => (entries.lookup name).getD null
  | object o =>
    match HostObject.adapter o, HostObject.lookup o with
    | some adapter, _ => (adapter.property name).getD null
    | none, some find => (find name).getD null
    | none, none => (types.bind (·.field? o name)).getD empty
  | v => (ownProperty name v).getD null

end MicroTemplate.Value
