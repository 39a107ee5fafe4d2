import StrictCsp.Markup.Pattern.Tag
import StrictCsp.Text.Search

/-!
# Nonce attributes on inline scripts and styles

Every inline tag candidate that still needs a nonce gets the attribute
` nonce="…" ` (with a blank on both sides) right before its closing `>`. A
script needs one when the text after `<script` mentions neither `nonce` nor
`src`, a style when its tag does not mention `nonce`; both words are compared
exactly, so `NONCE` and `SRC` do not count. A blank page or a blank nonce
leaves the page as it is.
-/

namespace StrictCsp.Markup

open StrictCsp.Text Pattern

/-- An inline tag candidate that still needs a nonce. -/
def needsNonce (tag : List Char) : Bool :=
  match literal? "<script".toList tag with
  | some attrs => !occursIn "nonce".toList attrs && !occursIn "src".toList attrs
  | none => !occursIn "nonce".toList tag

/-- The attribute text that carries a nonce, with a blank on both sides. -/
def nonceSegment (nonce : List Char) : List Char := " nonce=\"".toList ++ nonce ++ "\" ".toList

/-- A tag with the nonce attribute before its closing bracket, when it needs one. -/
def withNonce (nonce : List Char) (tag : List Char) : List Char :=
  if needsNonce tag then tag.dropLast ++ nonceSegment nonce ++ ['>'] else tag

/-- Adds the nonce to every inline script and style tag that needs one. -/
def addNonces (html nonce : List Char) : List Char :=
  if (trim html).isEmpty || (trim nonce).isEmpty then html
  else inlineTag.substitute (fun tag _ => withNonce nonce tag) html

/-- Adds the nonce to the inline tags of a page given as a string. -/
def addNoncesText (html nonce : String) : String :=
  String.ofList (addNonces html.toList nonce.toList)

example : addNonces "<script data-x=\"a>b\">".toList ['N'] =
    "<script data-x=\"a nonce=\"N\" >b\">".toList := by decide +kernel

end StrictCsp.Markup
