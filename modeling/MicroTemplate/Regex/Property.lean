import MicroTemplate.Regex.Syntax
import MicroTemplate.Unicode.Script

/-!
# Properties by name

The sets of characters that a pattern may name: general categories and their groups, scripts, and
some binary properties. Names are compared without regard to case, spaces, hyphens and underscores.
-/

namespace MicroTemplate.Regex

open Unicode Text

/-- The characters that count in the comparison of names, in lower case. -/
def plainName (name : List Char) : String :=
  let kept := (name.filter fun c => !(c == ' ' || c == '-' || c == '_')).map Char.toLower
  match kept with
  | 'i' :: 's' :: rest => if rest.isEmpty || rest = ['c'] then .ofList kept else .ofList rest
  | _ => .ofList kept

/-- The categories by their plain names, and the groups that have a name of their own. -/
def categoryNames : List (List String × List GeneralCategory) := [
  (["lu", "uppercaseletter"], [.Lu]),
  (["ll", "lowercaseletter"], [.Ll]),
  (["lt", "titlecaseletter"], [.Lt]),
  (["lc", "casedletter"], [.Lu, .Ll, .Lt]),
  (["lm", "modifierletter"], [.Lm]),
  (["lo", "otherletter"], [.Lo]),
  (["l", "letter"], [.Lu, .Ll, .Lt, .Lm, .Lo]),
  (["mn", "nonspacingmark"], [.Mn]),
  (["mc", "spacingmark"], [.Mc]),
  (["me", "enclosingmark"], [.Me]),
  (["m", "mark", "combiningmark"], [.Mn, .Mc, .Me]),
  (["nd", "decimalnumber", "digit"], [.Nd]),
  (["nl", "letternumber"], [.Nl]),
  (["no", "othernumber"], [.No]),
  (["n", "number"], [.Nd, .Nl, .No]),
  (["pc", "connectorpunctuation"], [.Pc]),
  (["pd", "dashpunctuation"], [.Pd]),
  (["ps", "openpunctuation"], [.Ps]),
  (["pe", "closepunctuation"], [.Pe]),
  (["pi", "initialpunctuation"], [.Pi]),
  (["pf", "finalpunctuation"], [.Pf]),
  (["po", "otherpunctuation"], [.Po]),
  (["p", "punctuation", "punct"], [.Pc, .Pd, .Ps, .Pe, .Pi, .Pf, .Po]),
  (["sm", "mathsymbol"], [.Sm]),
  (["sc", "currencysymbol"], [.Sc]),
  (["sk", "modifiersymbol"], [.Sk]),
  (["so", "othersymbol"], [.So]),
  (["s", "symbol"], [.Sm, .Sc, .Sk, .So]),
  (["zs", "spaceseparator"], [.Zs]),
  (["zl", "lineseparator"], [.Zl]),
  (["zp", "paragraphseparator"], [.Zp]),
  (["z", "separator"], [.Zs, .Zl, .Zp]),
  (["cc", "control", "cntrl"], [.Cc]),
  (["cf", "format"], [.Cf]),
  (["co", "privateuse"], [.Co])]

/-- The assigned characters. -/
def assigned : CharSet := fun c => GeneralCategory.all.any (·.holds c)

/-- A general category, or a group of them. -/
def category? (name : String) : Option CharSet :=
  match categoryNames.find? (·.1.contains name) with
  | some (_, gs) => some fun c => gs.any (·.holds c)
  | none =>
    if name = "any" then some fun _ => true
    else if name = "assigned" then some assigned
    else if name = "ascii" then some fun c => c.toNat < 128
    else if name = "cn" ∨ name = "unassigned" then some (CharSet.compl assigned)
    else if name = "cs" ∨ name = "surrogate" then some fun _ => false
    else if name = "c" ∨ name = "other" then
      some fun c => !assigned c || GeneralCategory.Cc.holds c || GeneralCategory.Cf.holds c ||
        GeneralCategory.Co.holds c
    else none

/-- A binary property. -/
def binary? (name : String) : Option CharSet :=
  if name = "alphabetic" ∨ name = "alpha" then some isAlphabetic
  else if name = "lowercase" ∨ name = "lower" then some lowercase.contains
  else if name = "uppercase" ∨ name = "upper" then some uppercase.contains
  else if name = "whitespace" ∨ name = "space" ∨ name = "wspace" then some isSpace
  else if name = "cased" then some Unicode.cased.contains
  else if name = "caseignorable" ∨ name = "ci" then some Unicode.caseIgnorable.contains
  else if name = "graphemeextend" ∨ name = "grext" then some Unicode.graphemeExtend.contains
  else if name = "joincontrol" ∨ name = "joinc" then
    some fun c => c.toNat == 0x200C || c.toNat == 0x200D
  else if name = "asciihexdigit" ∨ name = "ahex" then some fun c => (hexDigit? c).isSome
  else none

/-- A script. -/
def script? (name : String) : Option CharSet := (Script.named? name).map Script.holds

/-- The set that a single name stands for. -/
def property? (name : List Char) : Option CharSet :=
  let plain := plainName name
  binary? plain <|> category? plain <|> script? plain

/-- The set that the value of a property stands for. -/
def propertyValue? (name value : List Char) : Option CharSet :=
  let plain := plainName name
  if plain = "gc" ∨ plain = "generalcategory" then category? (plainName value)
  else if plain = "sc" ∨ plain = "script" then script? (plainName value)
  else none

end MicroTemplate.Regex
