import StrictCsp.Processor

/-!
# Hardening responses on their way out

A server hands every response through this step before it is sent. Only an
HTML page, or an XML partial response, that can be read whole is hardened;
everything else passes unchanged:

* the response to a HEAD request;
* a response whose first content type is neither HTML (`text/html`,
  `application/xhtml+xml`) nor XML (`text/xml`, `application/xml`); the type
  is the part before the first semicolon, trimmed and lowered, and a value
  that is not visible ASCII names no type;
* a response with a status outside 200 to 299;
* an encoded response (any content encoding);
* a response whose size is not known in advance, or above eight mebibytes;
* a body that is not UTF-8.

A body that fails while it is read is replaced by an empty one, and its
content length is dropped.

An XML body is hardened only if it holds a partial response. When the
processor hardens the page, its policy headers replace any present ones and
the content length is set to the new size; if a policy is not a valid header
value (a control character other than tab), the response passes unchanged
after all.

Main statement: a HEAD request's response passes unchanged (`respond_head`).
-/

namespace StrictCsp.Middleware

open StrictCsp.Text StrictCsp.Entropy

/-- How a response body is delivered. -/
inductive BodyKind where
  /-- All at once, with its size known. -/
  | full
  /-- As a stream of unknown size. -/
  | stream
  /-- With its size known, but failing while it is read. -/
  | failing
  deriving DecidableEq, Repr

/-- A response as the server produced it. Header names are in lowercase. -/
structure Response where
  /-- The status code. -/
  status : Nat
  /-- The headers, in order. -/
  headers : List (String × String)
  /-- The body. -/
  body : List UInt8
  /-- How the body is delivered. -/
  kind : BodyKind
  deriving DecidableEq, Repr

/-- What kind of document a response holds. -/
inductive ContentKind where
  | html
  | xml
  | other
  deriving DecidableEq, Repr

/-- The largest body that is read whole. -/
def bufferLimit : Nat := 8 * 1024 * 1024

/-- A visible ASCII character or a tab: what a header value must hold to be read as text. -/
def isVisibleAscii (c : Char) : Bool := (32 ≤ c.toNat && c.toNat < 127) || c == '\t'

/-- A character a header value may hold: anything but the control characters, tab allowed. -/
def isHeaderValueChar (c : Char) : Bool := (c.toNat ≥ 32 && c.toNat != 127) || c == '\t'

/-- The first value of a header. -/
def Response.header? (r : Response) (name : String) : Option String :=
  (r.headers.find? (·.1 == name)).map (·.2)

/-- The kind of document a response holds, from its first content type. -/
def contentKind (r : Response) : ContentKind :=
  match r.header? "content-type" with
  | none => .other
  | some v =>
    if !v.toList.all isVisibleAscii then .other
    else
      let mime := String.ofList ((trim (v.toList.takeWhile (· != ';'))).map asciiLower)
      if mime == "text/html" || mime == "application/xhtml+xml" then .html
      else if mime == "text/xml" || mime == "application/xml" then .xml
      else .other

/-- What a response delivers: bytes, or a body that fails while it is read. -/
inductive Delivered where
  | bytes (b : List UInt8)
  | broken
  deriving DecidableEq, Repr

/-- A response as it is sent. -/
structure Reply where
  /-- The status code. -/
  status : Nat
  /-- The headers. -/
  headers : List (String × String)
  /-- The body. -/
  body : Delivered
  deriving DecidableEq, Repr

/-- A response sent as the server produced it. -/
def Response.unchanged (r : Response) : Reply :=
  ⟨r.status, r.headers, if r.kind == .failing then .broken else .bytes r.body⟩

/-- A response sent with its body read whole. -/
def Response.withBytes (r : Response) : Reply := ⟨r.status, r.headers, .bytes r.body⟩

/-- A response whose body failed while it was read: empty, without a content length. -/
def Response.emptied (r : Response) : Reply :=
  ⟨r.status, r.headers.filter (·.1 != "content-length"), .bytes []⟩

/-- Whether a response passes unchanged before its body is read. -/
def passesUnread (isHead : Bool) (r : Response) : Bool :=
  isHead || contentKind r == .other || !(200 ≤ r.status && r.status ≤ 299) ||
    (r.header? "content-encoding").isSome || r.kind == .stream || r.body.length > bufferLimit

/-- Sets headers, replacing every present value of their names. -/
def setHeaders (headers : List (String × String)) (new : List (String × String)) :
    List (String × String) :=
  headers.filter (fun h => !new.any (·.1 == h.1)) ++ new

/-- A header is set when it was present under a name none of the new ones has, or is new. -/
theorem mem_setHeaders {h : String × String} {hs new : List (String × String)} :
    h ∈ setHeaders hs new ↔ (h ∈ hs ∧ ∀ n ∈ new, n.1 ≠ h.1) ∨ h ∈ new := by
  simp [setHeaders, List.mem_filter]

/-- The policy headers in lowercase, as a response carries them. -/
def lowerNames (hs : List (String × String)) : List (String × String) :=
  hs.map fun (n, v) => (String.ofList (n.toList.map asciiLower), v)

/-- Hands a response through: hardens it if it is an eligible page. -/
def respond (p : Processor) (isHead : Bool) (r : Response) : Draw Reply := do
  if passesUnread isHead r then return r.unchanged
  if r.kind == .failing then return r.emptied
  match String.fromUTF8? (ByteArray.mk r.body.toArray) with
  | none => return r.withBytes
  | some text =>
    let eligible := match contentKind r with
      | .html => true
      | .xml => containsText text "partial-response"
      | .other => false
    let processed ← p.process text.toList eligible
    if processed.outcome != .hardened then return r.withBytes
    if !processed.headers.all (fun (_, v) => v.toList.all isHeaderValueChar) then
      return r.withBytes
    let body := String.ofList processed.body
    let headers := setHeaders r.headers (lowerNames processed.headers)
    let headers := setHeaders headers [("content-length", toString body.utf8ByteSize)]
    return ⟨r.status, headers, .bytes body.toUTF8.toList⟩

/-- A HEAD request's response passes unchanged. -/
theorem respond_head (p : Processor) (r : Response) (src : Source) :
    (respond p true r).run src = (.ok r.unchanged, src) := by
  simp [respond, passesUnread, Draw.run]
  rfl

end StrictCsp.Middleware
