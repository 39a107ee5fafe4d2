import StrictCsp.Entropy.Source
import StrictCsp.Text.Base64
import StrictCsp.Text.Blank

/-!
# Nonces

A nonce is the Base64 text of sixteen random bytes, drawn from a random
source; any text given by a caller can serve as a nonce too. A nonce is blank
when it holds only blank characters, and a blank nonce is never written into
a page.
-/

namespace StrictCsp

open Entropy Text

/-- A nonce, the text that marks the inline scripts and styles a policy trusts. -/
structure Nonce where
  /-- The text of the nonce. -/
  text : String
  deriving DecidableEq, Repr

namespace Nonce

/-- The number of random bytes in a generated nonce. -/
def byteCount : Nat := 16

/-- Draws a fresh nonce. -/
def generate : Draw Nonce := do
  let bytes ← drawBytes byteCount
  pure ⟨Base64.encode bytes⟩

/-- A nonce is blank when it holds only blank characters. -/
def isBlank (n : Nonce) : Bool := isBlankText n.text

end Nonce

end StrictCsp
