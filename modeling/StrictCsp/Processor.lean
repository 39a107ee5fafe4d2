import StrictCsp.Config.Settings
import StrictCsp.Page

/-!
# Processing a response

A processor hardens a page and assembles its policies with the settings it was
built from. It is the boundary where failures stop: whatever goes wrong while
a page is hardened, the caller gets the page back unchanged and without
policies, and the outcome says so.

A page is skipped, without drawing any random value, when the caller finds
the response ineligible, when the engine is switched off, or when a template
is blank. Otherwise a fresh nonce is drawn, the page is hardened, and the
policies are assembled; an error or a panic on the way serves the page as it
came. Random values drawn before a failure stay drawn.

The two direct ways, with a fresh nonce or with a given one, skip nothing and
report every failure.

Main statements: processing never fails (`process_ok`), and a skipped page is
served unchanged without drawing (`process_of_skip`).
-/

namespace StrictCsp

open Entropy Policy Config

/-- What became of a response. -/
inductive Outcome where
  /-- Hardened, with its policies. -/
  | hardened
  /-- Not hardened: ineligible, switched off, or without templates. -/
  | skipped
  /-- Hardening failed, and the response is served as it came. -/
  | failedOpen
  deriving DecidableEq, Repr

/-- A processed response: its page, the headers to set and the outcome. -/
structure Processed where
  /-- The page to serve. -/
  body : List Char
  /-- The policy headers to set, as name and value. -/
  headers : List (String × String)
  /-- What became of the response. -/
  outcome : Outcome
  deriving DecidableEq, Repr

/-- A page served as it came, without policies. -/
def Processed.unchanged (body : List Char) (outcome : Outcome) : Processed :=
  ⟨body, [], outcome⟩

/-- A processor, built from settings. -/
structure Processor where
  /-- The settings the processor follows. -/
  settings : Settings
  deriving DecidableEq, Repr

namespace Processor

/-- Hardens a page with the given nonce and assembles its policies, reporting failures. -/
def tryWithNonce (p : Processor) (body : List Char) (nonce : Nonce) : Draw Assembled := do
  let page ← Page.tryHarden body nonce
  pure (p.settings.assembler.apply page nonce p.settings.templates)

/-- Draws a nonce, hardens a page and assembles its policies, reporting failures. -/
def tryProcess (p : Processor) (body : List Char) : Draw Assembled := do
  let nonce ← Nonce.generate
  p.tryWithNonce body nonce

/-- Whether a response is skipped: ineligible, switched off, or without templates. -/
def skips (p : Processor) (eligible : Bool) : Bool :=
  !eligible || !p.settings.enabled || !p.settings.isConfigured

/-- Processes a response; any failure serves it as it came. -/
def process (p : Processor) (body : List Char) (eligible : Bool) : Draw Processed :=
  if p.skips eligible then pure (.unchanged body .skipped)
  else
    tryCatch (do
        let a ← p.tryProcess body
        pure ⟨a.body, a.headers, .hardened⟩)
      fun _ => pure (.unchanged body .failedOpen)

/-- A skipped page is served unchanged without drawing. -/
theorem process_of_skip {p : Processor} {eligible : Bool} (h : p.skips eligible = true)
    (body : List Char) (src : Source) :
    (p.process body eligible).run src = (.ok (.unchanged body .skipped), src) := by
  simp [process, h, Draw.run]
  rfl

/-- Processing never fails: every failure is served as the page that came. -/
theorem process_ok (p : Processor) (body : List Char) (eligible : Bool) (src : Source) :
    ∃ r src', (p.process body eligible).run src = (.ok r, src') := by
  unfold process Draw.run
  split
  · exact ⟨_, _, rfl⟩
  · simp only [tryCatch, MonadExcept.tryCatch, tryCatchThe, MonadExceptOf.tryCatch,
      ExceptT.tryCatch, ExceptT.run, ExceptT.mk, bind, StateT.run, StateT.bind]
    simp only [ExceptT.bind, ExceptT.mk, ExceptT.bindCont, bind, StateT.bind]
    rcases p.tryProcess body src with ⟨_ | a, s⟩ <;> exact ⟨_, _, rfl⟩

end Processor

end StrictCsp
