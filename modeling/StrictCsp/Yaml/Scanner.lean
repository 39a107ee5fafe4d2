import StrictCsp.Yaml.Token

/-!
# Scanning a YAML stream into tokens

The scanner reads characters and writes tokens. Most tokens stand for the
characters they cover, but the block structure of YAML is implied by
indentation, and the scanner makes it explicit:

* it keeps a stack of indentation columns; a block collection that starts
  further right pushes its column and a block-sequence-start or
  block-mapping-start token, and a line that starts further left pops columns,
  writing a block-end token for each;
* a mapping key is usually written without a question mark. Every scalar or
  collection that could start a key is remembered as a possible simple key;
  when a colon follows on the same line, a key token (and, if needed, a
  block-mapping-start token) is inserted in front of it. A possible key that
  sits at the indentation column of a block mapping is required: if the line
  ends first, the key is missing its colon and scanning stops.

Tokens wait while a possible simple key might still turn into a key; so when
scanning stops, the tokens from the first undecided possible key on are never
handed on. The result of a scan is the tokens handed on and, when scanning
stopped early, the problem.

Scalars are read in all five styles: plain scalars fold their line breaks
into spaces and end before a colon followed by a blank, before a comment, at a
line less indented than their block, and in flow collections at a flow
indicator; quoted scalars fold line breaks too, and double quotes know escape
sequences; literal and folded block scalars keep or fold their lines and chomp
their final line breaks as their indicators say.
-/

namespace StrictCsp.Yaml

/-- A position in the stream: the characters not yet read and the mark in front of them. -/
structure Cursor where
  /-- The characters not yet read. -/
  rest : List Char
  /-- The mark in front of them. -/
  mark : Mark
  deriving Repr

namespace Cursor

/-- The next character, if any. -/
def head? (c : Cursor) : Option Char := c.rest.head?

/-- The cursor one character further, on the same line. -/
def skip (c : Cursor) : Cursor :=
  match c.rest with
  | [] => c
  | x :: r => ⟨r, c.mark.next x⟩

/-- The cursor past a number of characters on the same line. -/
def skipN : Nat → Cursor → Cursor
  | 0, c => c
  | n + 1, c => skipN n c.skip

/-- Reads a line break: a carriage return and line feed count as one, and every break but the
two separators stands for a line feed. -/
def readBreak (c : Cursor) : List Char × Cursor :=
  match c.rest with
  | '\r' :: '\n' :: r => (['\n'], ⟨r, c.mark.newLine 2⟩)
  | x :: r =>
    if x == '\r' || x == '\n' || x == '\x85' then (['\n'], ⟨r, c.mark.newLine x.utf8Size⟩)
    else if isBreak x then ([x], ⟨r, c.mark.newLine x.utf8Size⟩)
    else ([], c)
  | [] => ([], c)

/-- The cursor past a line break. -/
def skipBreak (c : Cursor) : Cursor := (readBreak c).2

end Cursor

/-- Skips the characters that satisfy a test. -/
def skipWhile (p : Char → Bool) : List Char → Mark → Cursor
  | x :: r, m => if p x then skipWhile p r (m.next x) else ⟨x :: r, m⟩
  | [], m => ⟨[], m⟩

/-- Reads the characters that satisfy a test, giving them in order. -/
def readWhile (p : Char → Bool) : List Char → Mark → List Char × Cursor
  | x :: r, m =>
    if p x then
      let (w, c) := readWhile p r (m.next x)
      (x :: w, c)
    else ([], ⟨x :: r, m⟩)
  | [], m => ([], ⟨[], m⟩)

/-- A document marker, three dashes or three dots, followed by a blank or a line break. -/
def atDocumentMarker (r : List Char) : Bool :=
  (r.take 3 == ['-', '-', '-'] || r.take 3 == ['.', '.', '.']) && blankOrEnd (r.drop 3)

/-- A place where a simple key might start, and whether it must. -/
structure SimpleKey where
  /-- A key may still start here. -/
  possible : Bool := false
  /-- A key must start here. -/
  required : Bool := false
  /-- The number of the token the key would stand in front of. -/
  tokenNumber : Nat := 0
  /-- Where the key would start. -/
  mark : Mark := {}
  deriving Repr

/-- The state of a scan. -/
structure Scanner where
  /-- Where the scan stands. -/
  cur : Cursor
  /-- The tokens written so far. -/
  tokens : Array Token := #[]
  /-- How many flow collections are open. -/
  flowLevel : Nat := 0
  /-- The current indentation column, minus one at the top. -/
  indent : Int := -1
  /-- The enclosing indentation columns, innermost first. -/
  indents : List Int := []
  /-- Whether a simple key may start here. -/
  keyAllowed : Bool := true
  /-- The possible simple key of each open flow level, innermost first. -/
  keys : List SimpleKey := [{}]
  /-- Whether the stream end was reached. -/
  finished : Bool := false
  deriving Repr

/-- Scanning either goes on or stops with a problem. -/
abbrev Scan := Except Problem

namespace Scanner

/-- A scanner at the start of a stream, with the stream-start token written. -/
def start (input : List Char) : Scanner :=
  { cur := ⟨input, {}⟩, tokens := #[⟨.streamStart, {}, {}⟩] }

/-- Writes a token. -/
def emit (s : Scanner) (kind : TokenKind) (start stop : Mark) : Scanner :=
  { s with tokens := s.tokens.push ⟨kind, start, stop⟩ }

/-- The problem of a required simple key without its colon. -/
def missingColon (key here : Mark) : Problem :=
  ⟨"could not find expected ':'", here, some ("while scanning a simple key", key)⟩

/-- Possible keys on an earlier line, or too long ago, are no longer possible. -/
def dropStaleKeys (s : Scanner) : Scan Scanner := do
  let here := s.cur.mark
  let keys ← s.keys.reverse.mapM fun k =>
    if k.possible && (k.mark.line < here.line || k.mark.index + 1024 < here.index) then
      if k.required then throw (missingColon k.mark here) else pure { k with possible := false }
    else pure k
  pure { s with keys := keys.reverse }

/-- The number of the first token a possible simple key still holds back. -/
def handedOn (s : Scanner) : Nat :=
  s.keys.foldl (fun n k => if k.possible then min n k.tokenNumber else n) s.tokens.size

/-- Forgets the possible simple key of the current flow level; a required one is a problem. -/
def removeKey (s : Scanner) : Scan Scanner :=
  match s.keys with
  | k :: ks =>
    if k.possible && k.required then throw (missingColon k.mark s.cur.mark)
    else pure { s with keys := { k with possible := false } :: ks }
  | [] => pure s

/-- Remembers the current place as a possible simple key, if keys may start here. -/
def saveKey (s : Scanner) : Scan Scanner := do
  if s.keyAllowed then
    let required := s.flowLevel == 0 && s.indent == (s.cur.mark.column : Int)
    let k : SimpleKey := ⟨true, required, s.tokens.size, s.cur.mark⟩
    let s ← s.removeKey
    pure { s with keys := k :: s.keys.drop 1 }
  else pure s

/-- Opens a flow level. -/
def enterFlow (s : Scanner) : Scanner :=
  { s with keys := {} :: s.keys, flowLevel := s.flowLevel + 1 }

/-- Closes a flow level. -/
def leaveFlow (s : Scanner) : Scanner :=
  if s.flowLevel > 0 then { s with keys := s.keys.drop 1, flowLevel := s.flowLevel - 1 } else s

/-- In block context, a collection starting right of the indentation pushes its column and
writes its start token, at the end or in front of the given token. -/
def rollIndent (s : Scanner) (column : Nat) (number : Option Nat) (kind : TokenKind)
    (mark : Mark) : Scanner :=
  if s.flowLevel > 0 then s
  else if s.indent < (column : Int) then
    let t : Token := ⟨kind, mark, mark⟩
    let tokens := match number with
      | none => s.tokens.push t
      | some n => s.tokens.insertIdxIfInBounds n t
    { s with indents := s.indent :: s.indents, indent := column, tokens }
  else s

/-- Pops the indentation columns right of the given one, writing a block end for each. -/
def popIndents (column : Int) (m : Mark) :
    Int → List Int → Array Token → Int × List Int × Array Token
  | indent, i :: is, tokens =>
    if indent > column then popIndents column m i is (tokens.push ⟨.blockEnd, m, m⟩)
    else (indent, i :: is, tokens)
  | indent, [], tokens => (indent, [], tokens)

/-- In block context, closes the collections right of the given column. -/
def unrollIndent (s : Scanner) (column : Int) : Scanner :=
  if s.flowLevel > 0 then s
  else
    let (indent, indents, tokens) := popIndents column s.cur.mark s.indent s.indents s.tokens
    { s with indent, indents, tokens }

/-- Skips blanks, comments and line breaks up to the next token. Tabs are skipped only in flow
context or where no simple key may start; a line break in block context allows a key again. -/
def skipToToken : Nat → Scanner → Scanner
  | 0, s => s
  | fuel + 1, s =>
    let c := s.cur
    let c := if c.mark.column == 0 && c.head? == some '\uFEFF' then c.skip else c
    let tabs := s.flowLevel > 0 || !s.keyAllowed
    let c := skipWhile (fun x => x == ' ' || (tabs && x == '\t')) c.rest c.mark
    let c := if c.head? == some '#' then skipWhile (fun x => !isBreak x) c.rest c.mark else c
    match c.rest with
    | x :: _ =>
      if isBreak x then
        let s := { s with cur := c.skipBreak }
        skipToToken fuel (if s.flowLevel == 0 then { s with keyAllowed := true } else s)
      else { s with cur := c }
    | [] => { s with cur := c }

end Scanner

/-! ## Plain scalars -/

/-- What a scalar has read so far, with the blanks and breaks still waiting to be folded. -/
structure Folding where
  /-- The text so far. -/
  text : Array Char := #[]
  /-- The first line break of a run of breaks. -/
  leadingBreak : List Char := []
  /-- The further line breaks of the run. -/
  trailingBreaks : List Char := []
  /-- Blanks read since the last character. -/
  whitespaces : List Char := []
  /-- Whether a line break was read since the last character. -/
  leadingBlanks : Bool := false
  /-- Where the text stops. -/
  stop : Mark := {}
  deriving Repr

namespace Folding

/-- Appends characters to the text. -/
def append (f : Folding) (cs : List Char) : Folding := { f with text := f.text ++ cs.toArray }

/-- Folds the waiting blanks and breaks into the text: a single line break becomes a space,
further breaks stay, and blanks stay when no break came. -/
def fold (f : Folding) : Folding :=
  if f.leadingBlanks then
    if f.leadingBreak.head? == some '\n' then
      if f.trailingBreaks.isEmpty then
        { f.append [' '] with leadingBreak := [], leadingBlanks := false }
      else
        let g := f.append f.trailingBreaks
        { g with trailingBreaks := [], leadingBreak := [], leadingBlanks := false }
    else
      let g := f.append (f.leadingBreak ++ f.trailingBreaks)
      { g with leadingBreak := [], trailingBreaks := [], leadingBlanks := false }
  else { f.append f.whitespaces with whitespaces := [] }

/-- Reads a blank or a line break between the words of a scalar. -/
def readGap (f : Folding) (x : Char) (brk : List Char) : Folding :=
  if isBlank x then
    if f.leadingBlanks then f else { f with whitespaces := f.whitespaces ++ [x] }
  else if f.leadingBlanks then { f with trailingBreaks := f.trailingBreaks ++ brk }
  else { f with whitespaces := [], leadingBreak := brk, leadingBlanks := true }

end Folding

/-- The context of a problem inside a plain scalar. -/
def plainContext (start : Mark) : Option (String × Mark) := some ("while scanning a plain scalar", start)

/-- A flow indicator. -/
def isFlowIndicator (c : Char) : Bool := c == ',' || c == '[' || c == ']' || c == '{' || c == '}'

/-- Reads the characters of one word of a plain scalar. -/
def plainWord (flow : Bool) (start : Mark) : List Char → Mark → Folding → Scan (Cursor × Folding)
  | x :: r, m, f =>
    if isBlank x || isBreak x then pure (⟨x :: r, m⟩, f)
    else if flow && x == ':' && (r.head?.map fun y => y == '?' || isFlowIndicator y) == some true then
      throw ⟨"found unexpected ':'", m, plainContext start⟩
    else if (x == ':' && blankOrEnd r) || (flow && isFlowIndicator x) then pure (⟨x :: r, m⟩, f)
    else
      let f := if f.leadingBlanks || !f.whitespaces.isEmpty then f.fold else f
      plainWord flow start r (m.next x) { f.append [x] with stop := m.next x }
  | [], m, f => pure (⟨[], m⟩, f)

/-- Reads the blanks and line breaks after a word of a plain scalar. -/
def plainGap (indent : Int) (start : Mark) : List Char → Mark → Folding → Scan (Cursor × Folding)
  | '\r' :: '\n' :: r, m, f => plainGap indent start r (m.newLine 2) (f.readGap '\n' ['\n'])
  | x :: r, m, f =>
    if isBlank x then
      if f.leadingBlanks && (m.column : Int) < indent && x == '\t' then
        throw ⟨"found a tab character that violates indentation", m, plainContext start⟩
      else plainGap indent start r (m.next x) (f.readGap x [])
    else if isBreak x then
      plainGap indent start r (m.newLine x.utf8Size) (f.readGap x (Cursor.readBreak ⟨[x], m⟩).1)
    else pure (⟨x :: r, m⟩, f)
  | [], m, f => pure (⟨[], m⟩, f)

/-- Reads a plain scalar word by word, until an indicator, a comment, a document marker or a
line less indented than the block. -/
def plainWords (flow : Bool) (indent : Int) (start : Mark) : Nat → Cursor → Folding →
    Scan (Cursor × Folding)
  | 0, c, f => pure (c, f)
  | fuel + 1, c, f => do
    if c.mark.column == 0 && atDocumentMarker c.rest then return (c, f)
    if c.head? == some '#' then return (c, f)
    let (c, f) ← plainWord flow start c.rest c.mark f
    match c.rest with
    | x :: _ =>
      if !(isBlank x || isBreak x) then return (c, f)
      let (c, f) ← plainGap indent start c.rest c.mark f
      if !flow && (c.mark.column : Int) < indent then return (c, f)
      plainWords flow indent start fuel c f
    | [] => return (c, f)

namespace Scanner

/-- Scans a plain scalar. -/
def plainScalar (s : Scanner) : Scan Scanner := do
  let start := s.cur.mark
  let (c, f) ← plainWords (s.flowLevel > 0) (s.indent + 1) start (s.cur.rest.length + 1) s.cur
    { stop := start }
  let s := { s with cur := c }
  let s := s.emit (.scalar (String.ofList f.text.toList) .plain) start f.stop
  pure (if f.leadingBlanks then { s with keyAllowed := true } else s)

end Scanner

/-! ## Quoted scalars -/

/-- The context of a problem inside a quoted scalar. -/
def quotedContext (start : Mark) : Option (String × Mark) :=
  some ("while scanning a quoted scalar", start)

/-- The context of a problem inside an escape sequence. -/
def escapeContext (start : Mark) : Option (String × Mark) :=
  some ("while parsing a quoted scalar", start)

/-- The character a one-letter escape stands for, and the number of hexadecimal digits of a
numeric escape. -/
def escapeOf : Char → Option (Option Char × Nat)
  | '0' => some (some '\x00', 0)
  | 'a' => some (some '\x07', 0)
  | 'b' => some (some '\x08', 0)
  | 't' => some (some '\t', 0)
  | '\t' => some (some '\t', 0)
  | 'n' => some (some '\n', 0)
  | 'v' => some (some '\x0b', 0)
  | 'f' => some (some '\x0c', 0)
  | 'r' => some (some '\r', 0)
  | 'e' => some (some '\x1b', 0)
  | ' ' => some (some ' ', 0)
  | '"' => some (some '"', 0)
  | '/' => some (some '/', 0)
  | '\'' => some (some '\'', 0)
  | '\\' => some (some '\\', 0)
  | 'N' => some (some '\x85', 0)
  | '_' => some (some '\xa0', 0)
  | 'L' => some (some '\u2028', 0)
  | 'P' => some (some '\u2029', 0)
  | 'x' => some (none, 2)
  | 'u' => some (none, 4)
  | 'U' => some (none, 8)
  | _ => none

/-- The value of a hexadecimal digit. -/
def hexDigit? (c : Char) : Option Nat :=
  if c.isDigit then some (c.toNat - 48)
  else if 'a' ≤ c ∧ c ≤ 'f' then some (c.toNat - 87)
  else if 'A' ≤ c ∧ c ≤ 'F' then some (c.toNat - 55)
  else none

/-- The value of the given number of hexadecimal digits at the front of a text. -/
def hexValue? : Nat → List Char → Option Nat
  | 0, _ => some 0
  | n + 1, c :: r => do
    let d ← hexDigit? c
    let v ← hexValue? n r
    pure (d * Nat.pow 16 n + v)
  | _ + 1, [] => none

/-- Reads the characters of one word of a quoted scalar: up to a blank, a line break, the
closing quote or an escaped line break. -/
def quotedWord (single : Bool) (start : Mark) : Nat → Cursor → Folding → Scan (Cursor × Folding)
  | 0, c, f => pure (c, f)
  | fuel + 1, c, f =>
    match c.rest with
    | [] => pure (c, f)
    | x :: r =>
      if isBlank x || isBreak x then pure (c, f)
      else if single && x == '\'' && r.head? == some '\'' then
        quotedWord single start fuel (c.skipN 2) (f.append ['\''])
      else if x == (if single then '\'' else '"') then pure (c, f)
      else if !single && x == '\\' && (r.head?.map isBreak) == some true then
        pure ((c.skip).skipBreak, { f with leadingBlanks := true })
      else if !single && x == '\\' then
        match r.head?.bind escapeOf with
        | none => throw ⟨"found unknown escape character", c.mark, escapeContext start⟩
        | some (some e, _) => quotedWord single start fuel (c.skipN 2) (f.append [e])
        | some (none, n) =>
          let c := c.skipN 2
          match hexValue? n c.rest with
          | none => throw ⟨"did not find expected hexadecimal number", c.mark, escapeContext start⟩
          | some v =>
            if (0xD800 ≤ v ∧ v ≤ 0xDFFF) ∨ 0x10FFFF < v then
              throw ⟨"found invalid Unicode character escape code", c.mark, escapeContext start⟩
            else quotedWord single start fuel (c.skipN n) (f.append [Char.ofNat v])
      else quotedWord single start fuel c.skip (f.append [x])

/-- Reads the blanks and line breaks between the words of a quoted scalar. -/
def quotedGap : List Char → Mark → Folding → Cursor × Folding
  | '\r' :: '\n' :: r, m, f => quotedGap r (m.newLine 2) (f.readGap '\n' ['\n'])
  | x :: r, m, f =>
    if isBlank x then quotedGap r (m.next x) (f.readGap x [])
    else if isBreak x then quotedGap r (m.newLine x.utf8Size) (f.readGap x (Cursor.readBreak ⟨[x], m⟩).1)
    else (⟨x :: r, m⟩, f)
  | [], m, f => (⟨[], m⟩, f)

/-- Reads a quoted scalar word by word up to its closing quote. -/
def quotedWords (single : Bool) (start : Mark) : Nat → Cursor → Folding → Scan (Cursor × Folding)
  | 0, c, f => pure (c, f)
  | fuel + 1, c, f => do
    if c.mark.column == 0 && atDocumentMarker c.rest then
      throw ⟨"found unexpected document indicator", c.mark, quotedContext start⟩
    if c.rest.isEmpty then throw ⟨"found unexpected end of stream", c.mark, quotedContext start⟩
    let (c, f) ← quotedWord single start (c.rest.length + 1) c { f with leadingBlanks := false }
    if c.head? == some (if single then '\'' else '"') then return (c, f)
    let (c, f) := quotedGap c.rest c.mark f
    let f := if f.leadingBlanks then
        if f.leadingBreak.head? == some '\n' then
          if f.trailingBreaks.isEmpty then { f.append [' '] with leadingBreak := [] }
          else { f.append f.trailingBreaks with trailingBreaks := [], leadingBreak := [] }
        else { f.append (f.leadingBreak ++ f.trailingBreaks) with leadingBreak := [], trailingBreaks := [] }
      else { f.append f.whitespaces with whitespaces := [] }
    quotedWords single start fuel c f

namespace Scanner

/-- Scans a quoted scalar. -/
def quotedScalar (s : Scanner) (single : Bool) : Scan Scanner := do
  let start := s.cur.mark
  let (c, f) ← quotedWords single start (s.cur.rest.length + 1) s.cur.skip {}
  let c := c.skip
  let style := if single then ScalarStyle.singleQuoted else .doubleQuoted
  pure ({ s with cur := c }.emit (.scalar (String.ofList f.text.toList) style) start c.mark)

end Scanner

/-! ## Block scalars -/

/-- The context of a problem inside a block scalar. -/
def blockContext (start : Mark) : Option (String × Mark) := some ("while scanning a block scalar", start)

/-- Skips the indentation spaces of a block scalar line while the column is still short of the
indentation, or all of them while the indentation is not yet known (zero). -/
def indentSpaces (indent : Nat) : List Char → Mark → Cursor
  | ' ' :: r, m => if indent == 0 || m.column < indent then indentSpaces indent r (m.next ' ') else ⟨' ' :: r, m⟩
  | r, m => ⟨r, m⟩

/-- Skips the indentation of the empty lines before a line of a block scalar, collecting their
breaks; the deepest indentation seen counts when the indentation is not yet known (zero). -/
def blockBreaks (start : Mark) (indent : Nat) : Nat → Cursor → Nat → List Char →
    Scan (Cursor × Nat × List Char)
  | 0, c, deepest, brks => pure (c, deepest, brks)
  | fuel + 1, c, deepest, brks => do
    let c := indentSpaces indent c.rest c.mark
    let deepest := max deepest c.mark.column
    if (indent == 0 || c.mark.column < indent) && c.head? == some '\t' then
      throw ⟨"found a tab character where an indentation space is expected", c.mark,
        blockContext start⟩
    match c.rest with
    | x :: _ =>
      if isBreak x then
        let (b, c) := c.readBreak
        blockBreaks start indent fuel c deepest (brks ++ b)
      else pure (c, deepest, brks)
    | [] => pure (c, deepest, brks)

/-- Reads the lines of a block scalar at its indentation. -/
def blockLines (start : Mark) (literal : Bool) (indent : Nat) : Nat → Cursor → Folding →
    Bool → Scan (Cursor × Folding)
  | 0, c, f, _ => pure (c, f)
  | fuel + 1, c, f, leadingBlank => do
    if c.mark.column != indent || c.rest.isEmpty then return (c, f)
    let trailingBlank := (c.head?.map isBlank) == some true
    let f :=
      if !literal && f.leadingBreak.head? == some '\n' && !leadingBlank && !trailingBlank then
        { (if f.trailingBreaks.isEmpty then f.append [' '] else f) with leadingBreak := [] }
      else { f.append f.leadingBreak with leadingBreak := [] }
    let f := { f.append f.trailingBreaks with trailingBreaks := [] }
    let leadingBlank := (c.head?.map isBlank) == some true
    let (line, c) := readWhile (fun x => !isBreak x) c.rest c.mark
    let f := f.append line
    let (b, c) := c.readBreak
    let f := { f with leadingBreak := b }
    let (c, _, brks) ← blockBreaks start indent (c.rest.length + 1) c 0 []
    blockLines start literal indent fuel c { f with trailingBreaks := brks, stop := c.mark }
      leadingBlank

namespace Scanner

/-- Reads the indicators of a block scalar: chomping (keep, strip or clip) and an explicit
indentation, in either order. -/
def blockIndicators (start : Mark) (c : Cursor) : Scan (Int × Nat × Cursor) := do
  let chomp (c : Cursor) : Option Int :=
    match c.head? with
    | some '+' => some 1
    | some '-' => some (-1)
    | _ => none
  let digit (c : Cursor) : Scan (Option Nat) :=
    match c.head? with
    | some '0' => throw ⟨"found an indentation indicator equal to 0", c.mark, blockContext start⟩
    | some d => if d.isDigit then pure (some (d.toNat - 48)) else pure none
    | none => pure none
  match chomp c with
  | some ch =>
    let c := c.skip
    match ← digit c with
    | some d => pure (ch, d, c.skip)
    | none => pure (ch, 0, c)
  | none =>
    match ← digit c with
    | some d =>
      let c := c.skip
      match chomp c with
      | some ch => pure (ch, d, c.skip)
      | none => pure (0, d, c)
    | none => pure (0, 0, c)

/-- Scans a literal or folded block scalar. -/
def blockScalar (s : Scanner) (literal : Bool) : Scan Scanner := do
  let start := s.cur.mark
  let (chomping, increment, c) ← blockIndicators start s.cur.skip
  let c := skipWhile isBlank c.rest c.mark
  let c := if c.head? == some '#' then skipWhile (fun x => !isBreak x) c.rest c.mark else c
  if !breakOrEnd c.rest then
    throw ⟨"did not find expected comment or line break", c.mark, blockContext start⟩
  let c := c.skipBreak
  let indent : Nat :=
    if increment == 0 then 0
    else if s.indent ≥ 0 then (s.indent + increment).toNat else increment
  let (c, deepest, brks) ← blockBreaks start indent (c.rest.length + 1) c 0 []
  let indent :=
    if indent != 0 then indent else max (max deepest (s.indent + 1).toNat) 1
  let (c, f) ← blockLines start literal indent (c.rest.length + 1) c
    { trailingBreaks := brks, stop := c.mark } false
  let f := if chomping != -1 then f.append f.leadingBreak else f
  let f := if chomping == 1 then f.append f.trailingBreaks else f
  let style := if literal then ScalarStyle.literal else .folded
  pure ({ s with cur := c }.emit (.scalar (String.ofList f.text.toList) style) start f.stop)

/-! ## Anchors, tags and directives -/

/-- Scans an anchor or an alias: its indicator and a name of word characters. -/
def anchorOrAlias (s : Scanner) (isAlias : Bool) : Scan Scanner := do
  let start := s.cur.mark
  let c := s.cur.skip
  let (name, c) := readWhile isWordChar c.rest c.mark
  let endsWell := match c.rest with
    | [] => true
    | x :: _ => isBlank x || isBreak x || "?:,]\x7d%@`".toList.contains x
  if name.isEmpty || !endsWell then
    throw ⟨"did not find expected alphabetic or numeric character", c.mark,
      some (if isAlias then "while scanning an alias" else "while scanning an anchor", start)⟩
  let kind := if isAlias then TokenKind.alias (String.ofList name) else .anchor (String.ofList name)
  pure ({ s with cur := c }.emit kind start c.mark)

/-- A character that may stand in the text of a tag. A comma and square brackets, which close
flow collections, may stand only in a verbatim tag and in the prefix of a tag directive. -/
def isUriChar (wide : Bool) (c : Char) : Bool :=
  isWordChar c || ";/?:@&=+$.%!~*'()".toList.contains c || (wide && ",[]".toList.contains c)

/-- What was being read when a tag's text goes wrong: a tag or a tag directive. -/
def uriContext (inDirective : Bool) (start : Mark) : Option (String × Mark) :=
  some (if inDirective then "while parsing a %TAG directive" else "while parsing a tag", start)

/-- The byte an escape, a percent sign and two hexadecimal digits, stands for. -/
def escapedOctet? : List Char → Option Nat
  | '%' :: h :: l :: _ => do
    let a ← hexDigit? h
    let b ← hexDigit? l
    pure (a * 16 + b)
  | _ => none

/-- The length of the UTF-8 sequence a byte leads, or zero if no sequence starts with it. -/
def utf8Width (b : Nat) : Nat :=
  if b < 0x80 then 1
  else if b / 32 == 6 then 2
  else if b / 16 == 14 then 3
  else if b / 8 == 30 then 4
  else 0

/-- Reads the escapes of the continuation bytes of a UTF-8 sequence. -/
def trailingOctets (inDirective : Bool) (start : Mark) : Nat → Cursor → Scan (List Nat × Cursor)
  | 0, c => pure ([], c)
  | n + 1, c =>
    match escapedOctet? c.rest with
    | none => throw ⟨"did not find URI escaped octet", c.mark, uriContext inDirective start⟩
    | some o =>
      if o / 64 != 2 then
        throw ⟨"found an incorrect trailing UTF-8 octet", c.mark, uriContext inDirective start⟩
      else do
        let (os, c) ← trailingOctets inDirective start n (c.skipN 3)
        pure (o :: os, c)

/-- Reads the escapes of one character: the leading byte says how many continuation bytes
follow. -/
def uriEscapes (inDirective : Bool) (start : Mark) (c : Cursor) : Scan (List Nat × Cursor) :=
  match escapedOctet? c.rest with
  | none => throw ⟨"did not find URI escaped octet", c.mark, uriContext inDirective start⟩
  | some o =>
    let width := utf8Width o
    if width == 0 then
      throw ⟨"found an incorrect leading UTF-8 octet", c.mark, uriContext inDirective start⟩
    else do
      let (os, c) ← trailingOctets inDirective start (width - 1) (c.skipN 3)
      pure (o :: os, c)

/-- Reads the bytes of a tag's text, resolving escapes; also whether any character was read. -/
def uriBytes (wide inDirective : Bool) (start : Mark) : Nat → Cursor →
    Scan (List Nat × Bool × Cursor)
  | 0, c => pure ([], false, c)
  | fuel + 1, c =>
    match c.rest with
    | x :: _ =>
      if isUriChar wide x then do
        let (now, c) ← if x == '%' then uriEscapes inDirective start c else pure ([x.toNat], c.skip)
        let (later, _, c) ← uriBytes wide inDirective start fuel c
        pure (now ++ later, true, c)
      else pure ([], false, c)
    | [] => pure ([], false, c)

/-- The text of the bytes of a tag. Bytes that are not UTF-8 stand each for the character of
their number; such a text holds a character past ASCII, as no standard tag does. -/
def tagText (bytes : List Nat) : String :=
  match String.fromUTF8? (ByteArray.mk (bytes.map Nat.toUInt8).toArray) with
  | some s => s
  | none => String.ofList (bytes.map Char.ofNat)

/-- Reads the text of a tag after a head: the head is a handle that turned out to be the start
of the text, and it counts without its exclamation mark. Head and text together must not be
empty. -/
def tagUri (wide inDirective : Bool) (head : List Char) (start : Mark) (c : Cursor) :
    Scan (String × Cursor) := do
  let (bytes, any, c) ← uriBytes wide inDirective start (c.rest.length + 1) c
  if head.isEmpty && !any then
    throw ⟨"did not find expected tag URI", c.mark, uriContext inDirective start⟩
  pure (tagText ((head.drop 1).map Char.toNat ++ bytes), c)

/-- Reads a tag handle: an exclamation mark, word characters and a closing exclamation mark
if one follows. In a tag directive every handle but the lone exclamation mark must be closed. -/
def tagHandle (inDirective : Bool) (start : Mark) (c : Cursor) : Scan (List Char × Cursor) := do
  if c.head? != some '!' then
    throw ⟨"did not find expected '!'", c.mark,
      some (if inDirective then "while scanning a tag directive" else "while scanning a tag", start)⟩
  let (word, c) := readWhile isWordChar c.skip.rest c.skip.mark
  if c.head? == some '!' then pure ('!' :: word ++ ['!'], c.skip)
  else if inDirective && !word.isEmpty then
    throw ⟨"did not find expected '!'", c.mark, some ("while parsing a tag directive", start)⟩
  else pure ('!' :: word, c)

/-- A handle proper: two characters or more, closed by an exclamation mark. -/
def isNamedHandle (h : List Char) : Bool := h.length ≥ 2 && h.getLast? == some '!'

/-- Scans a tag: a verbatim one in angle brackets, a handle and a suffix, or a bare suffix,
which belongs to the handle of one exclamation mark. A lone exclamation mark is the
non-specific tag: no handle and the suffix of one exclamation mark. -/
def tagToken (s : Scanner) : Scan Scanner := do
  let start := s.cur.mark
  let flow := s.flowLevel > 0
  let ctx := some ("while scanning a tag", start)
  let (handle, suffix, c) ← match s.cur.rest with
    | '!' :: '<' :: _ => do
      let (uri, c) ← tagUri true false [] start (s.cur.skipN 2)
      if c.head? != some '>' then throw ⟨"did not find the expected '>'", c.mark, ctx⟩
      pure ("", uri, c.skip)
    | _ => do
      let (handle, c) ← tagHandle false start s.cur
      if isNamedHandle handle then
        let (uri, c) ← tagUri false false [] start c
        pure (String.ofList handle, uri, c)
      else
        let (uri, c) ← tagUri false false handle start c
        if uri.isEmpty then pure ("", "!", c) else pure ("!", uri, c)
  let endsWell := match c.rest with
    | [] => true
    | x :: _ => isBlank x || isBreak x || (flow && x == ',')
  if !endsWell then throw ⟨"did not find expected whitespace or line break", c.mark, ctx⟩
  pure ({ s with cur := c }.emit (.tag handle suffix) start c.mark)

/-- Reads the digits of a version number, at most nine; gives how many were read and their
value. -/
def versionDigits (start : Mark) : Nat → Nat → Nat → Cursor → Scan (Nat × Nat × Cursor)
  | 0, n, v, c => pure (n, v, c)
  | fuel + 1, n, v, c =>
    match c.rest with
    | x :: _ =>
      if x.isDigit then
        if n ≥ 9 then
          throw ⟨"found extremely long version number", c.mark,
            some ("while scanning a %YAML directive", start)⟩
        else versionDigits start fuel (n + 1) (v * 10 + (x.toNat - 48)) c.skip
      else pure (n, v, c)
    | [] => pure (n, v, c)

/-- Reads a version number: one to nine digits. -/
def versionNumber (start : Mark) (c : Cursor) : Scan (Nat × Cursor) := do
  let (n, v, c) ← versionDigits start 10 0 0 c
  if n == 0 then
    throw ⟨"did not find expected version number", c.mark,
      some ("while scanning a %YAML directive", start)⟩
  pure (v, c)

/-- Scans a directive: the version directive, the tag directive, or an unknown one. A directive
closes every block, and the rest of its line, a comment at most, is read with it. -/
def directive (s : Scanner) : Scan Scanner := do
  let s := s.unrollIndent (-1)
  let s ← s.removeKey
  let s := { s with keyAllowed := false }
  let start := s.cur.mark
  let ctx := some ("while scanning a directive", start)
  let c := s.cur.skip
  let (name, c) := readWhile isWordChar c.rest c.mark
  if name.isEmpty then throw ⟨"could not find expected directive name", c.mark, ctx⟩
  if !blankOrEnd c.rest then
    throw ⟨"found unexpected non-alphabetical character", c.mark, ctx⟩
  let (kind, c) ← match String.ofList name with
    | "YAML" => do
      let c := skipWhile isBlank c.rest c.mark
      let (major, c) ← versionNumber start c
      if c.head? != some '.' then throw ⟨"did not find expected digit or '.' character", c.mark,
        some ("while scanning a %YAML directive", start)⟩
      let (minor, c) ← versionNumber start c.skip
      pure (TokenKind.versionDirective major minor, c)
    | "TAG" => do
      let tctx := some ("while scanning a %TAG directive", start)
      let c := skipWhile isBlank c.rest c.mark
      let (handle, c) ← tagHandle true start c
      if !(c.head?.map isBlank).getD false then
        throw ⟨"did not find expected whitespace", c.mark, tctx⟩
      let c := skipWhile isBlank c.rest c.mark
      let (pfx, c) ← tagUri true true [] start c
      if !blankOrEnd c.rest then
        throw ⟨"did not find expected whitespace or line break", c.mark, tctx⟩
      pure (TokenKind.tagDirective (String.ofList handle) pfx, c)
    | _ => throw ⟨"found unknown directive name", c.mark, ctx⟩
  let stop := c.mark
  let c := skipWhile isBlank c.rest c.mark
  let c := if c.head? == some '#' then skipWhile (fun x => !isBreak x) c.rest c.mark else c
  if !breakOrEnd c.rest then
    throw ⟨"did not find expected comment or line break", c.mark, ctx⟩
  pure ({ s with cur := c.skipBreak }.emit kind start stop)

/-! ## Fetching tokens -/

/-- Writes the stream end: the scan moves to a fresh line, closes every block and stops. -/
def streamEnd (s : Scanner) : Scan Scanner := do
  let m := s.cur.mark
  let m := if m.column != 0 then { m with column := 0, line := m.line + 1 } else m
  let s := { s with cur := { s.cur with mark := m } }
  let s := s.unrollIndent (-1)
  let s ← s.removeKey
  pure ({ s with keyAllowed := false, finished := true }.emit .streamEnd m m)

/-- Writes a document marker, which closes every block. -/
def documentMarker (s : Scanner) (kind : TokenKind) : Scan Scanner := do
  let s := s.unrollIndent (-1)
  let s ← s.removeKey
  let start := s.cur.mark
  let c := s.cur.skipN 3
  pure ({ s with keyAllowed := false, cur := c }.emit kind start c.mark)

/-- Writes a one-character token. -/
def single (s : Scanner) (kind : TokenKind) : Scanner :=
  let start := s.cur.mark
  let c := s.cur.skip
  { s with cur := c }.emit kind start c.mark

/-- Opens a flow collection. -/
def flowStart (s : Scanner) (kind : TokenKind) : Scan Scanner := do
  let s ← s.saveKey
  pure ({ s.enterFlow with keyAllowed := true }.single kind)

/-- Closes a flow collection. -/
def flowEnd (s : Scanner) (kind : TokenKind) : Scan Scanner := do
  let s ← s.removeKey
  pure ({ s.leaveFlow with keyAllowed := false }.single kind)

/-- A comma between flow entries. -/
def flowEntry (s : Scanner) : Scan Scanner := do
  let s ← s.removeKey
  pure ({ s with keyAllowed := true }.single .flowEntry)

/-- A dash opening a block sequence entry. -/
def blockEntry (s : Scanner) : Scan Scanner := do
  let m := s.cur.mark
  let s ← if s.flowLevel == 0 then
      if !s.keyAllowed then throw ⟨"block sequence entries are not allowed in this context", m, none⟩
      else pure (s.rollIndent m.column none .blockSequenceStart m)
    else pure s
  let s ← s.removeKey
  pure ({ s with keyAllowed := true }.single .blockEntry)

/-- A question mark opening a complex key. -/
def complexKey (s : Scanner) : Scan Scanner := do
  let m := s.cur.mark
  let s ← if s.flowLevel == 0 then
      if !s.keyAllowed then throw ⟨"mapping keys are not allowed in this context", m, none⟩
      else pure (s.rollIndent m.column none .blockMappingStart m)
    else pure s
  let s ← s.removeKey
  pure ({ s with keyAllowed := s.flowLevel == 0 }.single .key)

/-- A colon: it turns a possible simple key into a key, or follows a complex key. -/
def valueIndicator (s : Scanner) : Scan Scanner := do
  let m := s.cur.mark
  let s ← match s.keys with
    | k :: ks =>
      if k.possible then
        let tokens := s.tokens.insertIdxIfInBounds k.tokenNumber ⟨.key, k.mark, k.mark⟩
        let s := { s with tokens }
        let s := s.rollIndent k.mark.column (some k.tokenNumber) .blockMappingStart k.mark
        pure { s with keys := { k with possible := false } :: ks, keyAllowed := false }
      else if s.flowLevel == 0 then
        if !s.keyAllowed then throw ⟨"mapping values are not allowed in this context", m, none⟩
        else pure { s.rollIndent m.column none .blockMappingStart m with keyAllowed := true }
      else pure { s with keyAllowed := false }
    | [] => pure s
  pure (s.single .value)

/-- Whether a plain scalar may start here: any character but the indicators, or a dash, question
mark or colon followed by a non-blank (in flow context only the dash). -/
def plainStarts (s : Scanner) : Bool :=
  match s.cur.rest with
  | [] => false
  | x :: r =>
    let nextBlank := blankOrEnd r
    !(isBlank x || isBreak x || "-?:,[]\x7b\x7d#&*!|>'\"%@`".toList.contains x) ||
      (x == '-' && !((r.head?.map isBlank) == some true)) ||
      (s.flowLevel == 0 && (x == '?' || x == ':') && !nextBlank)

/-- Fetches the next token. -/
def fetchToken (s : Scanner) : Scan Scanner := do
  let s := s.skipToToken (s.cur.rest.length + 1)
  let s ← s.dropStaleKeys
  let s := s.unrollIndent s.cur.mark.column
  let m := s.cur.mark
  let r := s.cur.rest
  match r with
  | [] => s.streamEnd
  | x :: rest =>
    let flow := s.flowLevel > 0
    let nextBlank := blankOrEnd rest
    if m.column == 0 && x == '%' then s.directive
    else if m.column == 0 && r.take 3 == ['-', '-', '-'] && blankOrEnd (r.drop 3) then
      s.documentMarker .documentStart
    else if m.column == 0 && r.take 3 == ['.', '.', '.'] && blankOrEnd (r.drop 3) then
      s.documentMarker .documentEnd
    else if x == '[' then s.flowStart .flowSequenceStart
    else if x == '{' then s.flowStart .flowMappingStart
    else if x == ']' then s.flowEnd .flowSequenceEnd
    else if x == '}' then s.flowEnd .flowMappingEnd
    else if x == ',' then s.flowEntry
    else if x == '-' && nextBlank then s.blockEntry
    else if x == '?' && (flow || nextBlank) then s.complexKey
    else if x == ':' && (flow || nextBlank) then s.valueIndicator
    else if x == '*' then do
      let s ← s.saveKey
      { s with keyAllowed := false }.anchorOrAlias true
    else if x == '&' then do
      let s ← s.saveKey
      { s with keyAllowed := false }.anchorOrAlias false
    else if x == '!' then do
      let s ← s.saveKey
      { s with keyAllowed := false }.tagToken
    else if (x == '|' || x == '>') && !flow then do
      let s ← s.removeKey
      { s with keyAllowed := true }.blockScalar (x == '|')
    else if x == '\'' || x == '"' then do
      let s ← s.saveKey
      { s with keyAllowed := false }.quotedScalar (x == '\'')
    else if s.plainStarts then do
      let s ← s.saveKey
      { s with keyAllowed := false }.plainScalar
    else throw ⟨"found character that cannot start any token", m,
      some ("while scanning for the next token", m)⟩

/-- Fetches tokens up to the stream end or a problem, given the number of tokens handed on
before the last fetch. -/
def fetchAll : Nat → Scanner → Nat → Array Token × Option Problem
  | 0, s, _ => (s.tokens, none)
  | fuel + 1, s, before =>
    if s.finished then (s.tokens, none)
    else
      match s.dropStaleKeys with
      | .error p => (s.tokens.extract 0 before, some p)
      | .ok s =>
        let avail := s.handedOn
        match s.fetchToken with
        | .error p => (s.tokens.extract 0 avail, some p)
        | .ok s' => fetchAll fuel s' avail

end Scanner

/-- The problem of a character the stream may not hold. -/
def controlProblem (input : List Char) : Option Problem :=
  let rec go : List Char → Nat → Option Problem
    | [], _ => none
    | c :: r, offset =>
      if isAllowed c then go r (offset + c.utf8Size)
      else some ⟨"control characters are not allowed" ++
        (if offset != 0 then s!" at position {offset}" else ""), {}, none⟩
  go input 0

/-- Scans a stream: the tokens handed on, and the problem that stopped the scan, if any. -/
def scan (input : List Char) : Array Token × Option Problem :=
  match controlProblem input with
  | some p => (#[], some p)
  | none =>
    let input := match input with
      | '\uFEFF' :: r => r
      | r => r
    (Scanner.start input).fetchAll (3 * input.length + 8) 1

end StrictCsp.Yaml
