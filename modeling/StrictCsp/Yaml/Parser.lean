import StrictCsp.Yaml.Scanner

/-!
# Parsing YAML tokens into events

The parser reads the tokens of a stream and writes events: the start and end
of the stream, of each document, of each sequence and mapping, and each scalar
and alias. It is a state machine with a stack of states to return to, one for
each collection being read, and a stack of marks where those collections
began, for messages.

Where YAML leaves a node out (a key without a value, a dash without an
entry, a document without content), the parser writes an empty plain scalar.

A document starts implicitly with its first node, or explicitly with three
dashes; a second document needs the explicit start.

A document is what a reader of configuration gets: the events of the first
document, the problem that stopped reading inside it if any, and whether
anything but the stream end follows it. An empty stream is a document
without events.
-/

namespace StrictCsp.Yaml

/-- What an event is. -/
inductive EventKind where
  | streamStart
  | streamEnd
  | documentStart
  | documentEnd
  | alias (name : String)
  | scalar (anchor tag : Option String) (text : String) (style : ScalarStyle)
  | sequenceStart (anchor tag : Option String)
  | sequenceEnd
  | mappingStart (anchor tag : Option String)
  | mappingEnd
  deriving DecidableEq, Repr

/-- An event with the mark where it starts. -/
structure Event where
  /-- What the event is. -/
  kind : EventKind
  /-- Where it starts. -/
  start : Mark
  deriving DecidableEq, Repr

/-- The states of the parser. -/
inductive Phase where
  | streamStart
  | implicitDocumentStart
  | documentStart
  | documentContent
  | documentEnd
  | blockNode
  | blockNodeOrIndentlessSequence
  | flowNode
  | blockSequenceFirstEntry
  | blockSequenceEntry
  | indentlessSequenceEntry
  | blockMappingFirstKey
  | blockMappingKey
  | blockMappingValue
  | flowSequenceFirstEntry
  | flowSequenceEntry
  | flowSequenceEntryMappingKey
  | flowSequenceEntryMappingValue
  | flowSequenceEntryMappingEnd
  | flowMappingFirstKey
  | flowMappingKey
  | flowMappingValue
  | flowMappingEmptyValue
  | finished
  deriving DecidableEq, Repr

/-- The state of a parse. -/
structure Parser where
  /-- The tokens handed on by the scanner. -/
  tokens : Array Token
  /-- The problem that stopped the scanner after those tokens, if any. -/
  failure : Option Problem
  /-- The number of tokens read. -/
  pos : Nat := 0
  /-- The current state. -/
  phase : Phase := .streamStart
  /-- The states to return to, innermost first. -/
  phases : List Phase := []
  /-- Where the open collections began, innermost first. -/
  marks : List Mark := []
  /-- The tag handles of the document and their prefixes. -/
  tagHandles : List (String × String) := []
  deriving Repr

/-- Parsing either goes on or stops with a problem. -/
abbrev Parse := Except Problem

/-- The tag handles every document knows. -/
def defaultTagHandles : List (String × String) := [("!", "!"), ("!!", "tag:yaml.org,2002:")]

namespace Parser

/-- The next token; past the handed-on tokens, the problem that stopped the scanner. -/
def peek (p : Parser) : Parse Token :=
  match p.tokens[p.pos]? with
  | some t => pure t
  | none => throw (p.failure.getD ⟨"found unexpected end of stream", {}, none⟩)

/-- The parser past one token. -/
def skip (p : Parser) : Parser := { p with pos := p.pos + 1 }

/-- Returns to the state on top of the stack. -/
def pop (p : Parser) : Parser :=
  match p.phases with
  | q :: qs => { p with phase := q, phases := qs }
  | [] => { p with phase := .finished }

/-- Enters a state, to return to another one afterwards. -/
def push (p : Parser) (back : Phase) : Parser := { p with phases := back :: p.phases }

/-- Takes the mark on top of the mark stack. -/
def popMark (p : Parser) : Mark × Parser :=
  match p.marks with
  | m :: ms => (m, { p with marks := ms })
  | [] => ({}, p)

/-- An empty plain scalar at a mark. -/
def empty (m : Mark) : Event := ⟨.scalar none none "" .plain, m⟩

/-- Resolves a tag handle against the handles of the document. -/
def resolveTag (p : Parser) (handle suffix : String) (start tagMark : Mark) : Parse String :=
  if handle.isEmpty then pure suffix
  else
    match (p.tagHandles ++ defaultTagHandles).find? (·.1 == handle) with
    | some (_, pfx) => pure (pfx ++ suffix)
    | none => throw ⟨"found undefined tag handle", tagMark, some ("while parsing a node", start)⟩

/-- Reads a node: an alias, or a scalar or collection with an optional anchor and tag. -/
def node (p : Parser) (block indentless : Bool) : Parse (Event × Parser) := do
  let t ← p.peek
  if let .alias name := t.kind then
    return (⟨.alias name, t.start⟩, p.skip.pop)
  let start := t.start
  let (anchor, tag, p) ← match t.kind with
    | .anchor a => do
      let p := p.skip
      let t2 ← p.peek
      match t2.kind with
      | .tag h s => pure (some a, some (h, s, t2.start), p.skip)
      | _ => pure (some a, none, p)
    | .tag h s => do
      let p := p.skip
      let t2 ← p.peek
      match t2.kind with
      | .anchor a => pure (some a, some (h, s, t.start), p.skip)
      | _ => pure (none, some (h, s, t.start), p)
    | _ => pure (none, none, p)
  let tag ← match tag with
    | some (h, s, m) => some <$> p.resolveTag h s start m
    | none => pure none
  let t ← p.peek
  match t.kind with
  | .blockEntry =>
    if indentless then
      return (⟨.sequenceStart anchor tag, start⟩, { p with phase := .indentlessSequenceEntry })
    else fallback p t start anchor tag
  | .scalar text style => return (⟨.scalar anchor tag text style, start⟩, p.skip.pop)
  | .flowSequenceStart =>
    return (⟨.sequenceStart anchor tag, start⟩, { p with phase := .flowSequenceFirstEntry })
  | .flowMappingStart =>
    return (⟨.mappingStart anchor tag, start⟩, { p with phase := .flowMappingFirstKey })
  | .blockSequenceStart =>
    if block then
      return (⟨.sequenceStart anchor tag, start⟩, { p with phase := .blockSequenceFirstEntry })
    else fallback p t start anchor tag
  | .blockMappingStart =>
    if block then
      return (⟨.mappingStart anchor tag, start⟩, { p with phase := .blockMappingFirstKey })
    else fallback p t start anchor tag
  | _ => fallback p t start anchor tag
where
  /-- A node with an anchor or tag but no content is an empty scalar; without either it is a
  problem. -/
  fallback (p : Parser) (t : Token) (start : Mark) (anchor tag : Option String) :
      Parse (Event × Parser) :=
    if anchor.isSome || tag.isSome then pure (⟨.scalar anchor tag "" .plain, start⟩, p.pop)
    else throw ⟨"did not find expected node content", t.start,
      some (if block then "while parsing a block node" else "while parsing a flow node", start)⟩

/-- Reads the directives in front of a document. -/
def directives (p : Parser) : Nat → Option (Nat × Nat) → Parse Parser
  | 0, _ => pure p
  | fuel + 1, version => do
    let t ← p.peek
    match t.kind with
    | .versionDirective major minor =>
      if version.isSome then throw ⟨"found duplicate %YAML directive", t.start, none⟩
      if major != 1 || (minor != 1 && minor != 2) then
        throw ⟨"found incompatible YAML document", t.start, none⟩
      directives p.skip fuel (some (major, minor))
    | .tagDirective h pfx =>
      if p.tagHandles.any (·.1 == h) then throw ⟨"found duplicate %TAG directive", t.start, none⟩
      directives { p.skip with tagHandles := p.tagHandles ++ [(h, pfx)] } fuel version
    | _ => pure p

/-- Whether a token is a directive. -/
def isDirective : TokenKind → Bool
  | .versionDirective _ _ | .tagDirective _ _ => true
  | _ => false

/-- Starts a document, implicitly with its first node or explicitly with three dashes, or ends
the stream. -/
def documentStart (p : Parser) (implicit : Bool) : Parse (Event × Parser) := do
  let p ← if implicit then pure p else skipEnds p (p.tokens.size + 1)
  let t ← p.peek
  if implicit && !isDirective t.kind && t.kind != .documentStart && t.kind != .streamEnd then
    return (⟨.documentStart, t.start⟩, { p.push .documentEnd with phase := .blockNode })
  if t.kind != .streamEnd then
    let start := t.start
    let p ← p.directives (p.tokens.size + 1) none
    let t ← p.peek
    if t.kind != .documentStart then throw ⟨"did not find expected <document start>", t.start, none⟩
    return (⟨.documentStart, start⟩, { (p.push .documentEnd).skip with phase := .documentContent })
  return (⟨.streamEnd, t.start⟩, { p.skip with phase := .finished })
where
  /-- Skips extra document end markers. -/
  skipEnds (p : Parser) : Nat → Parse Parser
    | 0 => pure p
    | fuel + 1 => do
      let t ← p.peek
      if t.kind == .documentEnd then skipEnds p.skip fuel else pure p

/-- The next event. -/
def next (p : Parser) : Parse (Event × Parser) := do
  match p.phase with
  | .streamStart =>
    let t ← p.peek
    if t.kind != .streamStart then throw ⟨"did not find expected <stream-start>", t.start, none⟩
    return (⟨.streamStart, t.start⟩, { p.skip with phase := .implicitDocumentStart })
  | .implicitDocumentStart => p.documentStart true
  | .documentStart => p.documentStart false
  | .documentContent =>
    let t ← p.peek
    if isDirective t.kind || t.kind == .documentStart || t.kind == .documentEnd ||
        t.kind == .streamEnd then
      return (empty t.start, p.pop)
    p.node true false
  | .documentEnd =>
    let t ← p.peek
    let p := if t.kind == .documentEnd then p.skip else p
    return (⟨.documentEnd, t.start⟩, { p with phase := .documentStart, tagHandles := [] })
  | .blockNode => p.node true false
  | .blockNodeOrIndentlessSequence => p.node true true
  | .flowNode => p.node false false
  | .blockSequenceFirstEntry =>
    let t ← p.peek
    blockSequenceEntry { p.skip with marks := t.start :: p.marks }
  | .blockSequenceEntry => blockSequenceEntry p
  | .indentlessSequenceEntry =>
    let t ← p.peek
    if t.kind == .blockEntry then
      let p := p.skip
      let t2 ← p.peek
      if t2.kind != .blockEntry && t2.kind != .key && t2.kind != .value && t2.kind != .blockEnd then
        return ← (p.push .indentlessSequenceEntry).node true false
      return (empty t.stop, { p with phase := .indentlessSequenceEntry })
    return (⟨.sequenceEnd, t.start⟩, p.pop)
  | .blockMappingFirstKey =>
    let t ← p.peek
    blockMappingKey { p.skip with marks := t.start :: p.marks }
  | .blockMappingKey => blockMappingKey p
  | .blockMappingValue =>
    let t ← p.peek
    if t.kind == .value then
      let p := p.skip
      let t2 ← p.peek
      if t2.kind != .key && t2.kind != .value && t2.kind != .blockEnd then
        return ← (p.push .blockMappingKey).node true true
      return (empty t.stop, { p with phase := .blockMappingKey })
    return (empty t.start, { p with phase := .blockMappingKey })
  | .flowSequenceFirstEntry =>
    let t ← p.peek
    flowSequenceEntry { p.skip with marks := t.start :: p.marks } true
  | .flowSequenceEntry => flowSequenceEntry p false
  | .flowSequenceEntryMappingKey =>
    let t ← p.peek
    if t.kind != .value && t.kind != .flowEntry && t.kind != .flowSequenceEnd then
      return ← (p.push .flowSequenceEntryMappingValue).node false false
    return (empty t.start, { p with phase := .flowSequenceEntryMappingValue })
  | .flowSequenceEntryMappingValue =>
    let t ← p.peek
    if t.kind == .value then
      let p := p.skip
      let t2 ← p.peek
      if t2.kind != .flowEntry && t2.kind != .flowSequenceEnd then
        return ← (p.push .flowSequenceEntryMappingEnd).node false false
      return (empty t2.start, { p with phase := .flowSequenceEntryMappingEnd })
    return (empty t.start, { p with phase := .flowSequenceEntryMappingEnd })
  | .flowSequenceEntryMappingEnd =>
    let t ← p.peek
    return (⟨.mappingEnd, t.start⟩, { p with phase := .flowSequenceEntry })
  | .flowMappingFirstKey =>
    let t ← p.peek
    flowMappingKey { p.skip with marks := t.start :: p.marks } true
  | .flowMappingKey => flowMappingKey p false
  | .flowMappingValue =>
    let t ← p.peek
    if t.kind == .value then
      let p := p.skip
      let t2 ← p.peek
      if t2.kind != .flowEntry && t2.kind != .flowMappingEnd then
        return ← (p.push .flowMappingKey).node false false
      return (empty t2.start, { p with phase := .flowMappingKey })
    return (empty t.start, { p with phase := .flowMappingKey })
  | .flowMappingEmptyValue =>
    let t ← p.peek
    return (empty t.start, { p with phase := .flowMappingKey })
  | .finished => throw ⟨"no more events", {}, none⟩
where
  /-- An entry of a block sequence, or its end. -/
  blockSequenceEntry (p : Parser) : Parse (Event × Parser) := do
    let t ← p.peek
    if t.kind == .blockEntry then
      let p := p.skip
      let t2 ← p.peek
      if t2.kind != .blockEntry && t2.kind != .blockEnd then
        return ← (p.push .blockSequenceEntry).node true false
      return (empty t.stop, { p with phase := .blockSequenceEntry })
    if t.kind == .blockEnd then
      let (_, p) := p.popMark
      return (⟨.sequenceEnd, t.start⟩, p.skip.pop)
    let (m, _) := p.popMark
    throw ⟨"did not find expected '-' indicator", t.start, some ("while parsing a block collection", m)⟩
  /-- A key of a block mapping, or its end. -/
  blockMappingKey (p : Parser) : Parse (Event × Parser) := do
    let t ← p.peek
    if t.kind == .key then
      let p := p.skip
      let t2 ← p.peek
      if t2.kind != .key && t2.kind != .value && t2.kind != .blockEnd then
        return ← (p.push .blockMappingValue).node true true
      return (empty t.stop, { p with phase := .blockMappingValue })
    if t.kind == .blockEnd then
      let (_, p) := p.popMark
      return (⟨.mappingEnd, t.start⟩, p.skip.pop)
    let (m, _) := p.popMark
    throw ⟨"did not find expected key", t.start, some ("while parsing a block mapping", m)⟩
  /-- An entry of a flow sequence, or its end. -/
  flowSequenceEntry (p : Parser) (first : Bool) : Parse (Event × Parser) := do
    let t ← p.peek
    if t.kind != .flowSequenceEnd then
      let (p, t) ← if first then pure (p, t)
        else if t.kind == .flowEntry then do
          let p := p.skip
          pure (p, ← p.peek)
        else
          let (m, _) := p.popMark
          throw ⟨"did not find expected ',' or ']'", t.start, some ("while parsing a flow sequence", m)⟩
      if t.kind == .key then
        return (⟨.mappingStart none none, t.start⟩,
          { p.skip with phase := .flowSequenceEntryMappingKey })
      if t.kind != .flowSequenceEnd then
        return ← (p.push .flowSequenceEntry).node false false
      let (_, p) := p.popMark
      return (⟨.sequenceEnd, t.start⟩, p.skip.pop)
    let (_, p) := p.popMark
    return (⟨.sequenceEnd, t.start⟩, p.skip.pop)
  /-- A key of a flow mapping, or its end. -/
  flowMappingKey (p : Parser) (first : Bool) : Parse (Event × Parser) := do
    let t ← p.peek
    if t.kind != .flowMappingEnd then
      let (p, t) ← if first then pure (p, t)
        else if t.kind == .flowEntry then do
          let p := p.skip
          pure (p, ← p.peek)
        else
          let (m, _) := p.popMark
          throw ⟨"did not find expected ',' or '\x7d'", t.start, some ("while parsing a flow mapping", m)⟩
      if t.kind == .key then
        let p := p.skip
        let t2 ← p.peek
        if t2.kind != .value && t2.kind != .flowEntry && t2.kind != .flowMappingEnd then
          return ← (p.push .flowMappingValue).node false false
        return (empty t2.start, { p with phase := .flowMappingValue })
      if t.kind != .flowMappingEnd then
        return ← (p.push .flowMappingEmptyValue).node false false
      let (_, p) := p.popMark
      return (⟨.mappingEnd, t.start⟩, p.skip.pop)
    let (_, p) := p.popMark
    return (⟨.mappingEnd, t.start⟩, p.skip.pop)

end Parser

/-- The first document of a stream, as a reader of configuration sees it. -/
structure Document where
  /-- The events of the document, without its start and end; none for an empty stream. -/
  events : List Event
  /-- The problem that stopped reading inside the document, if any. -/
  failure : Option Problem
  /-- Whether anything but the stream end follows the document. -/
  more : Bool
  deriving Repr

/-- Collects the events of one document, until its end, the stream end or a problem. -/
def collect : Nat → Parser → List Event → Option (List Event × Option Problem × Bool × Parser)
  | 0, _, _ => none
  | fuel + 1, p, acc =>
    match p.next with
    | .error e => some (acc.reverse, some e, false, p)
    | .ok (ev, p) =>
      match ev.kind with
      | .streamStart | .documentStart => collect fuel p acc
      | .streamEnd => some (acc.reverse, none, true, p)
      | .documentEnd => some (acc.reverse, none, false, p)
      | _ => collect fuel p (ev :: acc)

/-- Reads the first document of a stream and looks whether more follows. -/
def readDocument (input : List Char) : Document :=
  let (tokens, failure) := scan input
  let p : Parser := { tokens, failure }
  let fuel := 8 * tokens.size + 16
  match collect fuel p [] with
  | none => ⟨[], none, false⟩
  | some (events, some e, _, _) => ⟨events, some e, false⟩
  | some (events, none, true, _) => ⟨events, none, false⟩
  | some (events, none, false, p) =>
    match collect fuel p [] with
    | some (_, none, true, _) => ⟨events, none, false⟩
    | _ => ⟨events, none, true⟩

end StrictCsp.Yaml
