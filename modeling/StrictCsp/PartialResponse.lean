import StrictCsp.Fragment.Segment
import StrictCsp.Markup.Pattern.Handler
import StrictCsp.Markup.Pattern.Tag

/-!
# Styles in partial responses

A partial response carries page fragments inside character data sections and
gets no headers of its own for them, so their inline styles cannot be allowed
by hash. A response counts as a styled partial response when it mentions
`partial-response` and holds an inline style attribute anywhere. In such a
response every character data section is restyled on its own, from left to
right: a section that changes is written again around its restyled content, a
section without styles or one whose markup cannot be read stays as it was,
and an error that cannot be recovered from (the random source failing) stops
everything. The response changes when at least one section does.

Main statement: a response that is not a styled partial response is left
alone and draws nothing (`extractStyles_of_not_isStyled`).
-/

namespace StrictCsp.PartialResponse

open StrictCsp.Entropy StrictCsp.Text StrictCsp.Markup StrictCsp.Fragment

/-- The word that marks a partial response. -/
def marker : List Char := "partial-response".toList

/-- A response is a styled partial response when it mentions the marker and has an inline
style. -/
def isStyled (html : List Char) : Bool := occursIn marker html && Pattern.inlineStyle.found html

/-- Restyles a fragment, leaving it alone when its markup cannot be read. -/
def attemptFragment (nonce : String) (content : List Char) : Draw (Option (List Char)) :=
  tryCatch (restyleFragment nonce content) fun
    | .error e => if e.isDegradable then pure none else throw (.error e)
    | .panic p => throw (.panic p)

/-- Restyles the character data sections among the pieces of a response, counting those that
changed. -/
def restyleSections (nonce : String) :
    List (Recogniser.Piece (List Char)) → Draw (List (List Char) × Nat)
  | [] => pure ([], 0)
  | .plain c :: ps => do
    let (out, n) ← restyleSections nonce ps
    pure ([c] :: out, n)
  | .hit block content :: ps => do
    let changed ← attemptFragment nonce content
    let (out, n) ← restyleSections nonce ps
    match changed with
    | some g => pure ((Pattern.cdataOpen ++ g ++ Pattern.cdataClose) :: out, n + 1)
    | none => pure (block :: out, n)

/-- Moves the inline styles of a partial response into nonced classes; nothing when no section
changed. -/
def extractStyles (html : List Char) (nonce : String) : Draw (Option (List Char)) := do
  if !isStyled html then return none
  let (out, changed) ← restyleSections nonce (Recogniser.pieces Pattern.cdataSection html)
  return if 0 < changed then some out.flatten else none

/-- A response that is not a styled partial response is left alone and draws nothing. -/
theorem extractStyles_of_not_isStyled {html : List Char} (h : isStyled html = false)
    (nonce : String) (src : Source) :
    (extractStyles html nonce).run src = (.ok none, src) := by
  simp [extractStyles, h, Draw.run]
  rfl

end StrictCsp.PartialResponse
