import StrictCsp.Fragment.Restyle
import StrictCsp.Text.Search

/-!
# Restyling a fragment

A fragment is read in segments. Each opening tag met is restyled if it has a
style, and its span in the fragment is then replaced by the restyled tag. The
text inside a `script` or `style` element (names compared without ASCII case)
is not markup: after such an opening tag, unless it closes itself, reading
stops and starts again after the first `>` that follows the first `</name` of
the rest, compared without ASCII case; when there is no such closing tag the
rest of the fragment is that element's text and reading ends.

A segment that cannot be read fails the whole fragment, even after styles
were drawn. The rules of all restyled tags go into one nonced style block,
written right before the first restyled tag. A fragment without any style
gives nothing.

The span of a tag is found from its end position and the byte length of its
content, as the one piece that starts with `<` and ends with `>` (or with
`/>`, trying first a piece one byte longer for a self-closing tag).

Main statement: each new segment starts strictly later than the previous one,
so the reading of a fragment ends (`segments` is defined by well-founded
recursion on the bytes not yet read).
-/

namespace StrictCsp.Fragment

open StrictCsp.Entropy StrictCsp.Text

/-- A replacement of a byte span of a fragment. -/
structure Edit where
  /-- The first byte of the span. -/
  start : Nat
  /-- The byte after the span. -/
  stop : Nat
  /-- The text that replaces the span. -/
  markup : List Char

/-- An element whose text is not markup. -/
def isRawTextName (name : List Char) : Bool :=
  asciiCaselessEq name "script".toList || asciiCaselessEq name "style".toList

/-- The number of characters of a raw text element's text, through the first closing tag of
its name (compared without ASCII case) and the first `>` after it. -/
def rawTextLength? (name rest : List Char) : Option Nat := do
  let lowered := rest.map asciiLower
  let closeAt ← findFrom? ('<' :: '/' :: name.map asciiLower) lowered
  let afterClose := lowered.drop closeAt
  let gt ← findFrom? ['>'] afterClose
  pure (closeAt + gt + 1)

/-- The byte offset just after the closing tag of a raw text element whose opening tag ends at
the given offset. -/
def rawTextEnd (fragment : List Char) (start : Nat) (name : List Char) : Option Nat := do
  let rest ← dropBytes? fragment start
  let length ← rawTextLength? name rest
  pure (start + byteLength ((rest.map asciiLower).take length))

/-- The byte span of an opening tag that ends at the given offset. -/
def locateTag (fragment : List Char) (contentBytes stop : Nat) (selfClosing : Bool) :
    Option (Nat × Nat) :=
  let extras := if selfClosing then [3, 2] else [2]
  extras.findSome? fun extra =>
    if contentBytes + extra ≤ stop then
      let start := stop - (contentBytes + extra)
      match sliceBytes? fragment start stop with
      | some raw =>
        let closing := if selfClosing then "/>".toList else ['>']
        if raw.head? = some '<' ∧ closing.reverse.isPrefixOf raw.reverse then some (start, stop)
        else none
      | none => none
    else none

/-- What reading a segment left to do. -/
inductive Continue where
  /-- The fragment is read to its end. -/
  | done
  /-- Reading goes on at a byte offset. -/
  | resumeAt (offset : Nat)

/-- The message for a fragment whose markup cannot be read. -/
def malformedReason : String := "malformed markup"

/-- Restyles an opening tag that ends at a byte offset: the edit of its span and its class, or
nothing when it has no style. -/
def restyleAt (fragment : List Char) (stop : Nat) (t : OpenTag) :
    Draw (List Edit × List StyleClass) := do
  let found ← restyle t
  match found with
  | none => pure ([], [])
  | some r =>
    match locateTag fragment (byteLength t.content) stop t.selfClosing with
    | some (a, b) => pure ([⟨a, b, r.markup⟩], [r.styleClass])
    | none => throw (.error (.fragmentParse stop "styled tag could not be located"))

/-- Handles the opening tags of a segment in order, collecting edits and classes. -/
def handleTags (fragment : List Char) (offset : Nat) :
    List OpenTag → Ending → Draw (List Edit × List StyleClass × Continue)
  | [], .finished => pure ([], [], .done)
  | [], .malformed => throw (.error (.fragmentParse offset malformedReason))
  | t :: ts, ending => do
    let stop := offset + t.stop
    let (edits, classes) ← restyleAt fragment stop t
    if !t.selfClosing && isRawTextName t.name then
      match rawTextEnd fragment stop t.name with
      | some resume => pure (edits, classes, .resumeAt resume)
      | none => pure (edits, classes, .done)
    else
      let (moreEdits, moreClasses, next) ← handleTags fragment offset ts ending
      pure (edits ++ moreEdits, classes ++ moreClasses, next)

/-- Reads the segments of a fragment from a byte offset on. -/
def segments (fragment : List Char) (offset : Nat) : Draw (List Edit × List StyleClass) :=
  if offset < byteLength fragment then
    match dropBytes? fragment offset with
    | none => pure ([], [])
    | some rest => do
      let (tags, ending) := read rest
      let (edits, classes, next) ← handleTags fragment offset tags ending
      match next with
      | .done => pure (edits, classes)
      | .resumeAt resume =>
        if offset < resume then
          let (moreEdits, moreClasses) ← segments fragment resume
          pure (edits ++ moreEdits, classes ++ moreClasses)
        else pure (edits, classes)
  else pure ([], [])
termination_by byteLength fragment - offset

/-- The style block that holds the rules of a fragment's classes. -/
def styleBlock (nonce : String) (classes : List StyleClass) : List Char :=
  ("<style type=\"text/css\" nonce=\"" ++ nonce ++ "\">").toList ++
    (classes.flatMap fun c => c.rule.toList) ++ "</style>".toList

/-- Applies edits in order, writing the block right before the first replacement. -/
def applyEdits (fragment : List Char) (block : List Char) : Nat → Bool → List Edit → List Char
  | cursor, _, [] => (dropBytes? fragment cursor).getD []
  | cursor, first, e :: es =>
    (sliceBytes? fragment cursor e.start).getD [] ++ (if first then block else []) ++ e.markup ++
      applyEdits fragment block e.stop false es

/-- Restyles a fragment; nothing when no tag has a style. -/
def restyleFragment (nonce : String) (fragment : List Char) : Draw (Option (List Char)) := do
  let (edits, classes) ← segments fragment 0
  if edits.isEmpty then pure none
  else pure (some (applyEdits fragment (styleBlock nonce classes) 0 true edits))

end StrictCsp.Fragment
