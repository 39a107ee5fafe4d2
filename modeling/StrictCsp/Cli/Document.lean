/-!
# JSON documents in pretty form

The command prints its result as one JSON document made of texts and objects.
Objects print their keys in increasing order, one member a line, indented by
two spaces a level; an empty object prints as `{}`.

Inside a text, the quote and the backslash are escaped, and so is every
control character below U+0020: backspace, tab, line feed, form feed and
carriage return by their short escapes and the rest as `\u00XX` with lower
case hexadecimal digits. Every other character is written as it is.

Main statement: a text with no character to escape is written between quotes
as it is (`quote_plain`).
-/

namespace StrictCsp.Cli

/-- A JSON document of texts and objects. -/
inductive Document where
  /-- A text. -/
  | text (s : String)
  /-- An object: its members, keys with their values. -/
  | object (members : List (String × Document))
  deriving Repr

/-- A lower case hexadecimal digit. -/
def hexDigit (n : Nat) : Char := if n < 10 then Char.ofNat (48 + n) else Char.ofNat (87 + n)

/-- Whether a character needs an escape inside a JSON text. -/
def needsEscape (c : Char) : Bool := c.toNat < 0x20 || c == '"' || c == '\\'

/-- A character as it is written inside a JSON text. -/
def escapeChar (c : Char) : String :=
  match c with
  | '"' => "\\\""
  | '\\' => "\\\\"
  | '\x08' => "\\b"
  | '\t' => "\\t"
  | '\n' => "\\n"
  | '\x0c' => "\\f"
  | '\r' => "\\r"
  | _ =>
    if c.toNat < 0x20 then
      "\\u00" ++ String.ofList [hexDigit (c.toNat / 16), hexDigit (c.toNat % 16)]
    else c.toString

/-- A text written as a JSON string, between quotes. -/
def quote (s : String) : String := "\"" ++ String.join (s.toList.map escapeChar) ++ "\""

/-- Orders members by key. -/
def sortMembers {α : Type} (ms : List (String × α)) : List (String × α) :=
  ms.mergeSort fun a b => decide (a.1 ≤ b.1)

/-- Blanks that indent a level. -/
def indentOf (level : Nat) : String := String.ofList (List.replicate (2 * level) ' ')

mutual

/-- Writes a document at an indentation level. -/
def Document.render (level : Nat) : Document → String
  | .text s => quote s
  | .object [] => "\x7b\x7d"
  | .object (m :: ms) =>
    "\x7b" ++ renderMembers (level + 1) true (m :: ms) ++ "\n" ++ indentOf level ++ "\x7d"

/-- Writes the members of an object, each on its own line. -/
def renderMembers (level : Nat) (first : Bool) : List (String × Document) → String
  | [] => ""
  | (k, v) :: rest =>
    (if first then "\n" else ",\n") ++ indentOf level ++ quote k ++ ": " ++ v.render level ++
      renderMembers level false rest

end

mutual

/-- Puts the members of every object of a document in key order. -/
def Document.sorted : Document → Document
  | .text s => .text s
  | .object ms => .object (sortMembers (sortedMembers ms))

/-- Puts the members of every object inside each value in key order. -/
def sortedMembers : List (String × Document) → List (String × Document)
  | [] => []
  | (k, v) :: rest => (k, v.sorted) :: sortedMembers rest

end

/-- A document in pretty form, keys in order. -/
def Document.pretty (d : Document) : String := d.sorted.render 0

/-- A text with no character to escape is written between quotes as it is. -/
theorem quote_plain (s : String) (h : s.toList.all (fun c => !needsEscape c)) :
    quote s = "\"" ++ s ++ "\"" := by
  unfold quote
  congr 2
  have key : ∀ cs : List Char, cs.all (fun c => !needsEscape c) →
      String.join (cs.map escapeChar) = String.ofList cs := by
    intro cs hcs
    induction cs with
    | nil => rfl
    | cons c cs ih =>
      simp only [List.all_cons, Bool.and_eq_true] at hcs
      have hc : escapeChar c = c.toString := by
        have hn := hcs.1
        simp only [needsEscape, Bool.not_or, Bool.and_eq_true, Bool.not_eq_true',
          decide_eq_false_iff_not, Nat.not_lt, beq_eq_false_iff_ne, ne_eq] at hn
        have h32 : ¬ c.toNat < 32 := by omega
        unfold escapeChar
        split
        all_goals first | exact if_neg h32 | simp_all
      simp [List.map_cons, String.join_cons, hc, ih hcs.2]
  rw [key _ h]
  simp

end StrictCsp.Cli
