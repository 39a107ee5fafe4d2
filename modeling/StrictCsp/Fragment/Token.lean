import StrictCsp.Text.Bytes

/-!
# Reading the markup of a fragment

A partial-response fragment is read as XML-like markup, one character at a
time, by a machine whose modes are the kinds of markup it may be inside. Only
opening tags matter to the rest of the library, so a reading is the list of
opening tags met, and how the reading ended: at the end of the text, or at
markup it cannot read. The rules are these.

* Text runs up to `<` or `&`. An `&` starts a reference, which must reach `;`
  before any further `&` or `<` and before the end.
* After `<`: `!` starts a declaration, `/` a closing tag, `?` an instruction,
  anything else an opening tag. A `<` at the very end cannot be read.
* An opening or closing tag runs to the first `>` that stands outside single
  or double quotes. An opening tag whose content ends with `/` closes itself;
  its content is then taken without that `/`.
* After `<!`, the next character decides: `[` starts a character data section,
  which ends at the first `>` after `]]` and must have begun with `<![CDATA[`;
  `-` starts a comment, which ends at the first `-->` whose `>` is at least
  six characters after the `<`, and must have begun with `<!--`; `D` or `d`
  starts a document type, which ends at the first `>` not matched by an
  earlier `<` inside it, must begin `<!DOCTYPE` in any case and must name
  something after that word. Any other character cannot be read.
* An instruction runs to the first `>` right after a `?`, and `<?>` cannot be
  read.

Byte positions are counted from the start of the text read, except that a byte
order mark at the very start is skipped without being counted.

Main statement: every opening tag read closes within the text, so its end
position is at most the byte length of the text (`stop_le`).
-/

namespace StrictCsp.Fragment

open StrictCsp.Text

/-- The blank characters of markup: space, tab, carriage return and line feed. -/
def isMarkupBlank (c : Char) : Bool := c == ' ' || c == '\t' || c == '\r' || c == '\n'

/-- An opening tag read from a fragment. -/
structure OpenTag where
  /-- The characters between the angle brackets, without the slash of a self-closing tag. -/
  content : List Char
  /-- The tag closes itself. -/
  selfClosing : Bool
  /-- The byte position just after the closing bracket. -/
  stop : Nat
  deriving DecidableEq, Repr

namespace OpenTag

/-- The name of a tag: its content up to the first blank. -/
def name (t : OpenTag) : List Char := t.content.takeWhile (!isMarkupBlank ·)

/-- The content of a tag after its name, where its attributes are. -/
def attributeText (t : OpenTag) : List Char := t.content.dropWhile (!isMarkupBlank ·)

end OpenTag

/-- How a reading ended. -/
inductive Ending where
  /-- The text ended outside any markup. -/
  | finished
  /-- Markup could not be read. -/
  | malformed
  deriving DecidableEq, Repr

/-- Where a quote-aware scan of a tag stands. -/
inductive Quote where
  | outside
  | single
  | double
  deriving DecidableEq, Repr

/-- The quote state after one more character of a tag. -/
def Quote.next : Quote → Char → Quote
  | .outside, '\'' => .single
  | .outside, '"' => .double
  | .single, '\'' => .outside
  | .double, '"' => .outside
  | q, _ => q

/-- The mode of the reading machine. -/
inductive Mode where
  /-- In text. -/
  | text
  /-- Right after a reference's ampersand. -/
  | reference
  /-- Right after an opening angle bracket. -/
  | angle
  /-- Right after an angle bracket and an exclamation mark. -/
  | bang
  /-- Inside an opening tag, with its content so far, latest first. -/
  | openTag (latest : List Char) (quote : Quote)
  /-- Inside a closing tag. -/
  | closeTag (quote : Quote)
  /-- Inside an instruction, with its content so far from the question mark, latest first. -/
  | instruction (latest : List Char)
  /-- Inside a comment, with its content so far from the exclamation mark, latest first. -/
  | comment (latest : List Char)
  /-- Inside a character data section, likewise. -/
  | cdata (latest : List Char)
  /-- Inside a document type, likewise, with the number of unmatched inner brackets. -/
  | doctype (latest : List Char) (depth : Nat)

/-- What one character does to the machine. -/
inductive Move where
  /-- Go on in a mode. -/
  | next (m : Mode)
  /-- An opening tag is complete; go on in text. -/
  | tag (content : List Char) (selfClosing : Bool)
  /-- The markup cannot be read. -/
  | fail

/-- A text, given latest first, ends with the given characters. -/
def endsWith (latest : List Char) (suffix : List Char) : Bool := suffix.reverse.isPrefixOf latest

/-- A completed comment begins properly. -/
def commentOk (content : List Char) : Bool := "!--".toList.isPrefixOf content

/-- A completed character data section begins properly. -/
def cdataOk (content : List Char) : Bool := "![CDATA[".toList.isPrefixOf content

/-- A completed document type begins with the word and names something after it. -/
def doctypeOk (content : List Char) : Bool :=
  (content.take 8).map Char.toUpper == "!DOCTYPE".toList && (content.drop 8).any (!isMarkupBlank ·)

/-- The move for one character in a mode. -/
def Mode.step : Mode → Char → Move
  | .text, '<' => .next .angle
  | .text, '&' => .next .reference
  | .text, _ => .next .text
  | .reference, ';' => .next .text
  | .reference, '&' | .reference, '<' => .fail
  | .reference, _ => .next .reference
  | .angle, '!' => .next .bang
  | .angle, '/' => .next (.closeTag .outside)
  | .angle, '?' => .next (.instruction ['?'])
  | .angle, '>' => .tag [] false
  | .angle, c => .next (.openTag [c] (Quote.outside.next c))
  | .bang, '[' => .next (.cdata ['[', '!'])
  | .bang, '-' => .next (.comment ['-', '!'])
  | .bang, 'D' => .next (.doctype ['D', '!'] 0)
  | .bang, 'd' => .next (.doctype ['d', '!'] 0)
  | .bang, _ => .fail
  | .openTag acc .outside, '>' =>
    match acc with
    | '/' :: rest => .tag rest.reverse true
    | _ => .tag acc.reverse false
  | .openTag acc q, c => .next (.openTag (c :: acc) (q.next c))
  | .closeTag .outside, '>' => .next .text
  | .closeTag q, c => .next (.closeTag (q.next c))
  | .instruction acc, '>' =>
    match acc with
    | ['?'] => .fail
    | '?' :: _ => .next .text
    | _ => .next (.instruction ('>' :: acc))
  | .instruction acc, c => .next (.instruction (c :: acc))
  | .comment acc, '>' =>
    if acc.length > 4 && endsWith acc "--".toList then
      if commentOk acc.reverse then .next .text else .fail
    else .next (.comment ('>' :: acc))
  | .comment acc, c => .next (.comment (c :: acc))
  | .cdata acc, '>' =>
    if endsWith acc "]]".toList then
      if cdataOk acc.reverse then .next .text else .fail
    else .next (.cdata ('>' :: acc))
  | .cdata acc, c => .next (.cdata (c :: acc))
  | .doctype acc d, '<' => .next (.doctype ('<' :: acc) (d + 1))
  | .doctype acc 0, '>' => if doctypeOk acc.reverse then .next .text else .fail
  | .doctype acc (d + 1), '>' => .next (.doctype ('>' :: acc) d)
  | .doctype acc d, c => .next (.doctype (c :: acc) d)

/-- How a text that ends in a mode ends. -/
def Mode.atEnd : Mode → Ending
  | .text => .finished
  | _ => .malformed

/-- Runs the machine over a text from a byte position, collecting the opening tags. -/
def run : Mode → Nat → List Char → List OpenTag × Ending
  | m, _, [] => ([], m.atEnd)
  | m, pos, c :: cs =>
    let pos := pos + c.utf8Size
    match m.step c with
    | .next m' => run m' pos cs
    | .tag content selfClosing =>
      let (tags, ending) := run .text pos cs
      (⟨content, selfClosing, pos⟩ :: tags, ending)
    | .fail => ([], .malformed)

/-- The byte order mark. -/
def byteOrderMark : Char := '﻿'

/-- Reads a text: its opening tags and how the reading ended. -/
def read (s : List Char) : List OpenTag × Ending :=
  match s with
  | c :: cs => if c = byteOrderMark then run .text 0 cs else run .text 0 s
  | [] => run .text 0 []

/-- Every opening tag the machine reads ends within the text. -/
theorem stop_le_run : ∀ (m : Mode) (pos : Nat) (s : List Char), ∀ t ∈ (run m pos s).1,
    t.stop ≤ pos + byteLength s
  | m, pos, [], t, ht => by simp [run] at ht
  | m, pos, c :: cs, t, ht => by
    simp only [run] at ht
    split at ht
    · have := stop_le_run _ _ cs t ht
      simp only [byteLength_cons]
      omega
    · simp only [List.mem_cons] at ht
      rcases ht with rfl | ht
      · simp only [byteLength_cons]
        omega
      · have := stop_le_run _ _ cs t ht
        simp only [byteLength_cons]
        omega
    · simp at ht

/-- Every opening tag read ends within the text. -/
theorem stop_le (s : List Char) : ∀ t ∈ (read s).1, t.stop ≤ byteLength s := by
  intro t ht
  unfold read at ht
  split at ht
  · rename_i c cs
    split at ht
    · have := stop_le_run _ _ _ t ht
      simp only [byteLength_cons]
      omega
    · simpa using stop_le_run _ _ _ t ht
  · simpa using stop_le_run _ _ _ t ht

end StrictCsp.Fragment
