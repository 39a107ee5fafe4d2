import StrictCsp.Markup.Entity.Table

/-!
# Decoding character references and quoting attribute values

Decoding replaces each character reference of a text by the character it
stands for, in one pass from left to right, so that `&amp;amp;` becomes
`&amp;`. A reference is `&`, then a name of the table, a decimal number after
`#`, or a hexadecimal number after `#x` or `#X`, and then `;`. A number must
name a Unicode scalar value that is not a control character below U+0020
other than tab, line feed and carriage return. Anything else that starts with
`&` is kept as written: `&quot` without its semicolon, `&#0;`, `&#1;`,
`&#xD800;`, `&unknown;`.

Quoting writes a value so that it can stand between double quotes in an
attribute: `&`, `"`, `<` and `>` become references.

Main statement: quoting leaves no double quote (`quoteAttribute_no_quote`).
-/

namespace StrictCsp.Markup.Entity

/-- The value of a hexadecimal digit. -/
def hexValue? (c : Char) : Option Nat :=
  if c.isDigit then some (c.toNat - 48)
  else if 'a' ≤ c ∧ c ≤ 'f' then some (c.toNat - 87)
  else if 'A' ≤ c ∧ c ≤ 'F' then some (c.toNat - 55)
  else none

/-- The number that digits of a base spell, most significant first. -/
def digitsValue (digit : Char → Option Nat) (base : Nat) (ds : List Char) : Nat :=
  ds.foldl (fun acc c => acc * base + (digit c).getD 0) 0

/-- A control character below U+0020 that a number may name: tab, line feed, carriage
return. -/
def isTextControl (n : Nat) : Bool := n == 9 || n == 10 || n == 13

/-- A number names a character when it is a Unicode scalar value and not a control character
below U+0020 other than tab, line feed and carriage return. -/
def scalar? (n : Nat) : Option Char :=
  if (0x20 ≤ n ∨ isTextControl n) ∧ n < 0x110000 ∧ ¬(0xD800 ≤ n ∧ n ≤ 0xDFFF) then
    some (Char.ofNat n)
  else none

/-- A reference that has begun: the characters read after its ampersand, latest first. -/
inductive Pending where
  /-- A name, possibly still empty. -/
  | named (latest : List Char)
  /-- A number sign and nothing yet. -/
  | hash
  /-- A number sign and decimal digits. -/
  | decimal (latest : List Char)
  /-- A number sign, the hexadecimal mark and hexadecimal digits. -/
  | hex (mark : Char) (latest : List Char)

namespace Pending

/-- The characters read so far, in reading order. -/
def text : Pending → List Char
  | .named n => n.reverse
  | .hash => ['#']
  | .decimal ds => '#' :: ds.reverse
  | .hex m ds => '#' :: m :: ds.reverse

/-- The reference continued by one more character, if it can continue with it. -/
def extend? : Pending → Char → Option Pending
  | .named [], '#' => some .hash
  | .named n, c => if c.isAlphanum then some (.named (c :: n)) else none
  | .hash, c =>
    if c = 'x' ∨ c = 'X' then some (.hex c [])
    else if c.isDigit then some (.decimal [c]) else none
  | .decimal ds, c => if c.isDigit then some (.decimal (c :: ds)) else none
  | .hex m ds, c => if (hexValue? c).isSome then some (.hex m (c :: ds)) else none

/-- The character a complete reference stands for, once its semicolon is read. -/
def resolve : Pending → Option Char
  | .named n => (lookup (String.ofList n.reverse)).map Char.ofNat
  | .hash => none
  | .decimal ds => scalar? (digitsValue hexValue? 10 ds.reverse)
  | .hex _ [] => none
  | .hex _ ds => scalar? (digitsValue hexValue? 16 ds.reverse)

end Pending

/-- Decodes the rest of a text while a reference may be pending. -/
def decodeFrom : Option Pending → List Char → List Char
  | none, [] => []
  | some p, [] => '&' :: p.text
  | none, c :: cs => if c = '&' then decodeFrom (some (.named [])) cs else c :: decodeFrom none cs
  | some p, c :: cs =>
    if c = ';' then
      match p.resolve with
      | some d => d :: decodeFrom none cs
      | none => '&' :: p.text ++ ';' :: decodeFrom none cs
    else
      match p.extend? c with
      | some q => decodeFrom (some q) cs
      | none =>
        '&' :: p.text ++
          (if c = '&' then decodeFrom (some (.named [])) cs else c :: decodeFrom none cs)

/-- Replaces the character references of a text by their characters. -/
def decode (s : List Char) : List Char := decodeFrom none s

/-- Decodes the character references of a string. -/
def decodeText (s : String) : String := String.ofList (decode s.toList)

/-- A text without ampersands has nothing to decode. -/
theorem decode_of_no_amp {s : List Char} (h : '&' ∉ s) : decode s = s := by
  induction s with
  | nil => rfl
  | cons c cs ih =>
    simp only [List.mem_cons, not_or] at h
    simp only [decode, decodeFrom, if_neg (Ne.symm h.1)] at ih ⊢
    rw [ih h.2]

/-- Writes a value so that it can stand between double quotes. -/
def quoteAttribute (s : List Char) : List Char :=
  s.flatMap fun c =>
    if c = '&' then "&amp;".toList
    else if c = '"' then "&quot;".toList
    else if c = '<' then "&lt;".toList
    else if c = '>' then "&gt;".toList
    else [c]

/-- A value quoted for an attribute holds no double quote. -/
theorem quoteAttribute_no_quote (s : List Char) : '"' ∉ quoteAttribute s := by
  simp only [quoteAttribute, List.mem_flatMap, not_exists, not_and]
  intro c _
  split
  · decide
  split
  · decide
  split
  · decide
  split
  · decide
  simp only [List.mem_singleton]
  intro e
  subst e
  simp_all

example : decode "a:&lt;&gt;&amp;&#65;&#x42;&nbsp;&copy;&unknown;".toList =
    "a:<>&AB ©&unknown;".toList := by decide +kernel

example : decode "&#0;&#x;&#;&quot&amp;amp;".toList = "&#0;&#x;&#;&quot&amp;".toList := by
  decide +kernel

example : decode "&#1;&#9;&#127;&Abreve;&fjlig;".toList = "&#1;\t\x7fĂf".toList := by
  decide +kernel

end StrictCsp.Markup.Entity
