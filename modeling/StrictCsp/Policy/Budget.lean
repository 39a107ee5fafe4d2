import StrictCsp.Markup.Entity.Codec
import StrictCsp.Markup.Pattern.Tag
import StrictCsp.Text.Search

/-!
# The header budget

A policy travels as a response header only when it is non-empty and its UTF-8
form is strictly shorter than the budget; with the usual budget of 8191 bytes
the longest header policy has 8190 bytes.

An enforced policy over budget moves into a meta element placed right after
the first head opening tag of the page, its value quoted for a double-quoted
attribute. A page without a head opening tag cannot carry it.

A report-only policy over budget is sent anyway, degraded: every
`'unsafe-hashes'` keyword is removed, and then the two older placeholders for
hash lists.

Main statements: the empty policy never fits (`fitsHeader_empty`), and the
meta element keeps the page around it (`injectMeta_eq`).
-/

namespace StrictCsp.Policy

open StrictCsp.Text StrictCsp.Markup

/-- The header that carries an enforced policy. -/
def enforcedHeader : String := "Content-Security-Policy"

/-- The header that carries a report-only policy. -/
def reportOnlyHeader : String := "Content-Security-Policy-Report-Only"

/-- The usual header budget in bytes. -/
def defaultBudget : Nat := 8191

/-- A policy fits a header when it is non-empty and strictly shorter than the budget. -/
def fitsHeader (policy : String) (budget : Nat) : Bool :=
  !policy.isEmpty && decide (policy.utf8ByteSize < budget)

/-- The meta element that carries an enforced policy, with a line break in front. -/
def metaElement (policy : String) : List Char :=
  ("\n<meta http-equiv=\"" ++ enforcedHeader ++ "\" content=\"").toList ++
    Entity.quoteAttribute policy.toList ++ "\" />".toList

/-- The page with the policy's meta element after its first head opening tag. -/
def injectMeta (body : List Char) (policy : String) : Option (List Char) :=
  (Recogniser.first? Pattern.headTag body).map fun (pre, tag, _) =>
    pre ++ tag ++ metaElement policy ++ body.drop (pre.length + tag.length)

/-- The keyword a degraded policy drops. -/
def unsafeHashes : String := "'unsafe-hashes'"

/-- The older placeholder for event handler hashes, dropped from a degraded policy. -/
def olderHandlerPlaceholder : String := "\x7binvocation_hashes\x7d"

/-- The older placeholder for inline style hashes, dropped from a degraded policy. -/
def olderStylePlaceholder : String := "\x7binline_style_hashes\x7d"

/-- A report-only policy over budget, without unsafe hashes and older placeholders. -/
def degrade (policy : String) : String :=
  replaceText (replaceText (replaceText policy unsafeHashes "") olderHandlerPlaceholder "")
    olderStylePlaceholder ""

/-- The empty policy never fits. -/
theorem fitsHeader_empty (budget : Nat) : fitsHeader "" budget = false := by
  simp [fitsHeader]

/-- The meta element stands right after the first head opening tag; the page around it stays. -/
theorem injectMeta_eq {body pre tag : List Char} {u : Unit} {policy : String}
    (h : Recogniser.first? Pattern.headTag body = some (pre, tag, u)) :
    injectMeta body policy =
      some (pre ++ tag ++ metaElement policy ++ body.drop (pre.length + tag.length)) := by
  simp [injectMeta, h]

end StrictCsp.Policy
