import StrictCsp.Markup.Pattern.Link
import StrictCsp.Text.Search

/-!
# Neutralizing script links

A strict policy refuses script URLs, so links and frames that use them are
neutralized before the policy applies:

* a script link becomes the inert anchor `href="#"`; when its script is not
  blank and does more than `void(0)`, the script moves to a click handler
  right after the anchor, `href="#" onclick="…"`. A single-quoted script has
  its double quotes turned into single quotes so that it fits between the
  double quotes of the handler;
* a false frame source becomes `src="about:blank"`.

Links are replaced first, then frame sources, each from left to right.
-/

namespace StrictCsp.Markup

open StrictCsp.Text Pattern

/-- The inert anchor that replaces a script link. -/
def inertAnchor : List Char := "href=\"#\"".toList

/-- The frame source that replaces a false one. -/
def blankSource : List Char := "src=\"about:blank\"".toList

/-- The anchor for a script: inert, with the script as click handler unless the script is blank or
does nothing. -/
def anchorFor (script : List Char) : List Char :=
  if (trim script).isEmpty || isDoNothing script then inertAnchor
  else inertAnchor ++ " onclick=\"".toList ++ script ++ ['"']

/-- Turns double quotes into single quotes. -/
def singleQuotes (s : List Char) : List Char := s.map fun c => if c = '"' then '\'' else c

/-- What a script link is replaced with. -/
def Pattern.LinkBody.replacement : LinkBody → List Char
  | .doubleQuoted b => if (trim b).isEmpty then inertAnchor else anchorFor b
  | .singleQuoted b => if (trim b).isEmpty then inertAnchor else anchorFor (singleQuotes b)

/-- Neutralizes the script links and then the false frame sources of a page. -/
def neutralize (html : List Char) : List Char :=
  let links := scriptLink.substitute (fun _ body => body.replacement) html
  falseSource.substitute (fun _ _ => blankSource) links

/-- Neutralizes the script links and false frame sources of a page given as a string. -/
def neutralizeText (html : String) : String := String.ofList (neutralize html.toList)

example : neutralize "<a href='javascript:a(\"b\")'>1</a>".toList =
    "<a href=\"#\" onclick=\"a('b')\">1</a>".toList := by decide +kernel

end StrictCsp.Markup
