import StrictCsp.Text.Float
import StrictCsp.Yaml.Parser

/-!
# What a YAML scalar means

A plain scalar is read by its text, in this order of preference:

* empty, `~`, `null`, `Null` or `NULL` is null;
* `true`, `True`, `TRUE`, `false`, `False` or `FALSE` is a boolean;
* an unsigned integer below `2 ^ 64`, in decimal, or after `0x`, `0o` or `0b`
  in base sixteen, eight or two, with an optional plus sign in front; a
  decimal of two or more digits starting with zero is text, not a number;
* a negative integer down to `-2 ^ 63`, in the same bases after `-0x`, `-0o`
  or `-0b`;
* the same two forms up to 128 bits;
* a finite floating point number, or `.inf`, `-.inf` or `.nan` in their three
  spellings each;
* otherwise text.

A quoted or block scalar is always text. A tag can ask for a boolean, an
integer, a float or null explicitly, and then the text must read as one.

When a value has the wrong kind, messages name what was found: a string in
double quotes with escapes, a boolean or an integer in backquotes, a floating
point number in backquotes in its shortest form, a unit value for null, a
sequence or a map.
-/

namespace StrictCsp.Yaml

open StrictCsp.Text

/-- What a scalar means. -/
inductive Meaning where
  /-- Null. -/
  | null
  /-- A boolean. -/
  | bool (b : Bool)
  /-- An integer that fits 64 bits, unsigned or signed. -/
  | integer (n : Int)
  /-- An unsigned integer that needs more than 64 bits. -/
  | wideUnsigned (n : Nat)
  /-- A negative integer that needs more than 64 bits. -/
  | wideNegative (n : Int)
  /-- A floating point number. -/
  | float (x : Float.Number)
  /-- Text. -/
  | text (s : String)
  deriving DecidableEq, Repr

/-- The value of a digit in a base. -/
def digitIn (base : Nat) (c : Char) : Option Nat :=
  let d := if c.isDigit then some (c.toNat - 48)
    else if 'a' ≤ c ∧ c ≤ 'z' then some (c.toNat - 87)
    else if 'A' ≤ c ∧ c ≤ 'Z' then some (c.toNat - 55)
    else none
  d.bind fun v => if v < base then some v else none

/-- The value of digits in a base; none when empty or when a character is no digit. -/
def digitsIn (base : Nat) (ds : List Char) : Option Nat :=
  if ds.isEmpty then none
  else ds.foldlM (fun acc c => (digitIn base c).map (acc * base + ·)) 0

/-- Two or more decimal digits starting with zero, after an optional sign: text, not a number. -/
def zeroLed (s : List Char) : Bool :=
  let s := match s with
    | '+' :: r | '-' :: r => r
    | r => r
  s.length > 1 && s.head? == some '0' && (s.drop 1).all Char.isDigit

/-- Reads a prefixed number in one of the three bases. -/
def prefixed (s : List Char) : Option Nat :=
  match s with
  | '0' :: 'x' :: r => if r.head? == some '+' || r.head? == some '-' then none else digitsIn 16 r
  | '0' :: 'o' :: r => if r.head? == some '+' || r.head? == some '-' then none else digitsIn 8 r
  | '0' :: 'b' :: r => if r.head? == some '+' || r.head? == some '-' then none else digitsIn 2 r
  | _ => none

/-- Reads an unsigned integer below a bound. -/
def unsignedBelow (bound : Nat) (s : List Char) : Option Nat :=
  let u := match s with
    | '+' :: r => r
    | r => r
  let v := match prefixed u with
    | some v => some v
    | none =>
      if u.head? == some '+' || u.head? == some '-' || zeroLed s then none
      else digitsIn 10 u
  v.bind fun n => if n < bound then some n else none

/-- Reads a negative integer down to minus a bound. -/
def negativeDown (bound : Nat) (s : List Char) : Option Int :=
  match s with
  | '-' :: r =>
    let v := match prefixed r with
      | some v => some v
      | none => if zeroLed s then none else digitsIn 10 r
    v.bind fun n => if n ≤ bound then some (-(n : Int)) else none
  | _ => none

/-- Reads a float as configuration values are read: the YAML spellings of infinity and
not-a-number, or a finite number. -/
def floatOf (s : String) : Option Float.Number :=
  let cs := s.toList
  let unsigned := match cs with
    | '+' :: r => if r.head? == some '+' || r.head? == some '-' then none else some r
    | r => some r
  match unsigned with
  | none => none
  | some u =>
    let us := String.ofList u
    if us == ".inf" || us == ".Inf" || us == ".INF" then some (.infinite false)
    else if s == "-.inf" || s == "-.Inf" || s == "-.INF" then some (.infinite true)
    else if s == ".nan" || s == ".NaN" || s == ".NAN" then some .nan
    else match Float.read us with
      | some (.finite _ b) => some (.finite (cs.head? == some '-') b)
      | _ => none

/-- Null in its spellings. -/
def isNullText (s : String) : Bool := s == "~" || s == "null" || s == "Null" || s == "NULL"

/-- A boolean in its spellings. -/
def boolOf (s : String) : Option Bool :=
  if s == "true" || s == "True" || s == "TRUE" then some true
  else if s == "false" || s == "False" || s == "FALSE" then some false
  else none

/-- An integer of any width, as a meaning. -/
def integerOf (s : String) : Option Meaning :=
  let cs := s.toList
  match unsignedBelow (Nat.pow 2 64) cs with
  | some n => some (.integer n)
  | none =>
    match negativeDown (Nat.pow 2 63) cs with
    | some n => some (.integer n)
    | none =>
      match unsignedBelow (Nat.pow 2 128) cs with
      | some n => some (.wideUnsigned n)
      | none => (negativeDown (Nat.pow 2 127) cs).map .wideNegative

/-- What a plain scalar without a tag means. -/
def plainMeaning (s : String) : Meaning :=
  if s.isEmpty || isNullText s then .null
  else match boolOf s with
    | some b => .bool b
    | none =>
      match integerOf s with
      | some m => m
      | none =>
        match (if zeroLed s.toList then none else floatOf s) with
        | some x => .float x
        | none => .text s

/-- The prefix of the standard tags. -/
def standardTag (name : String) : String := "tag:yaml.org,2002:" ++ name

/-- What a scalar means, or, for a tag its text does not fit, the text and what was expected. -/
def scalarMeaning (tag : Option String) (text : String) (style : ScalarStyle) :
    Except (String × String) Meaning :=
  match tag with
  | some t =>
    if t == standardTag "bool" then
      match boolOf text with
      | some b => .ok (.bool b)
      | none => .error (text, "a boolean")
    else if t == standardTag "int" then
      match integerOf text with
      | some m => .ok m
      | none => .error (text, "an integer")
    else if t == standardTag "float" then
      match floatOf text with
      | some x => .ok (.float x)
      | none => .error (text, "a float")
    else if t == standardTag "null" then
      if isNullText text then .ok .null else .error (text, "null")
    else if t.startsWith "!" && style == .plain then .ok (plainMeaning text)
    else .ok (.text text)
  | none => if style == .plain then .ok (plainMeaning text) else .ok (.text text)

/-- A character as a debug listing writes it inside double quotes. -/
def debugChar (c : Char) : String :=
  let n := c.toNat
  match c with
  | '\x00' => "\\0"
  | '\t' => "\\t"
  | '\r' => "\\r"
  | '\n' => "\\n"
  | '\\' => "\\\\"
  | '"' => "\\\""
  | _ =>
    if n < 0x20 || (0x7F ≤ n && n < 0xA0) || n == 0xAD || (0x300 ≤ n && n ≤ 0x36F) ||
        (0x200B ≤ n && n ≤ 0x200F) || (0x2028 ≤ n && n ≤ 0x202E) || (0x2060 ≤ n && n ≤ 0x2064) ||
        n == 0xFEFF then
      "\\u" ++ "\x7b" ++ String.ofList (Nat.toDigits 16 n) ++ "\x7d"
    else c.toString

/-- A text as a debug listing writes it: in double quotes, with escapes. -/
def debugText (s : String) : String :=
  "\"" ++ String.join (s.toList.map debugChar) ++ "\""

/-- How a message names a value of the wrong kind. -/
def Meaning.unexpected : Meaning → String
  | .null => "unit value"
  | .bool b => s!"boolean `{b}`"
  | .integer n => s!"integer `{n}`"
  | .wideUnsigned n => s!"integer `{n}` as u128"
  | .wideNegative n => s!"integer `{n}` as i128"
  | .float x => s!"floating point `{x.text}`"
  | .text s => "string " ++ debugText s

/-- The message for a value of the wrong kind. -/
def invalidType (found expected : String) : String :=
  "invalid type: " ++ found ++ ", expected " ++ expected

/-- The message for a value of the right kind but out of range. -/
def invalidValue (found expected : String) : String :=
  "invalid value: " ++ found ++ ", expected " ++ expected

example : plainMeaning "007" = .text "007" := by decide
example : plainMeaning "0x1F" = .integer 31 := by decide
example : plainMeaning "-3" = .integer (-3) := by decide

end StrictCsp.Yaml
