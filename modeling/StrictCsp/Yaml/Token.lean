/-!
# Marks, tokens and problems of a YAML stream

A configuration document is YAML. Reading it goes in two steps: a scanner
cuts the characters into tokens, and a parser groups the tokens into events.
This module holds what both share.

* A mark is a place in the stream: the number of UTF-8 bytes before it, and
  its line and column, both counted from zero in characters. A line ends at a line feed, a
  carriage return, a carriage return and line feed together, a next-line
  character, or a line or paragraph separator.
* A token is one of the syntactic pieces of YAML, with the marks where it
  starts and stops.
* A problem is what stops reading: what went wrong, where, and optionally
  what was being read and where that began. It is written with lines and
  columns counted from one, and a place at the very start of the stream is
  not written at all.
-/

namespace StrictCsp.Yaml

/-- A place in a stream. -/
structure Mark where
  /-- The number of UTF-8 bytes before the place. -/
  index : Nat := 0
  /-- The line, counted from zero. -/
  line : Nat := 0
  /-- The column, counted from zero. -/
  column : Nat := 0
  deriving DecidableEq, Repr, Inhabited

namespace Mark

/-- The very start of the stream, which messages do not name. -/
def isStart (m : Mark) : Bool := m.line == 0 && m.column == 0

/-- A place as messages write it, counting from one. -/
def text (m : Mark) : String := s!"line {m.line + 1} column {m.column + 1}"

/-- The place one ordinary character further. -/
def next (m : Mark) (c : Char) : Mark :=
  { m with index := m.index + c.utf8Size, column := m.column + 1 }

/-- The start of the next line, after a line break of the given number of bytes. -/
def newLine (m : Mark) (width : Nat) : Mark := ⟨m.index + width, m.line + 1, 0⟩

end Mark

/-- What stopped reading a stream. -/
structure Problem where
  /-- What went wrong. -/
  problem : String
  /-- Where it went wrong. -/
  mark : Mark
  /-- What was being read, and where that began. -/
  context : Option (String × Mark) := none
  deriving DecidableEq, Repr

/-- A problem as messages write it. -/
def Problem.text (p : Problem) : String :=
  let at_ := if p.mark.isStart then "" else " at " ++ p.mark.text
  let ctx := match p.context with
    | none => ""
    | some (c, m) =>
      ", " ++ c ++
        (if !m.isStart && (m.line != p.mark.line || m.column != p.mark.column) then
          " at " ++ m.text else "")
  p.problem ++ at_ ++ ctx

/-- How a scalar was written. -/
inductive ScalarStyle where
  | plain
  | singleQuoted
  | doubleQuoted
  | literal
  | folded
  deriving DecidableEq, Repr

/-- The kinds of tokens. -/
inductive TokenKind where
  | streamStart
  | streamEnd
  | versionDirective (major minor : Nat)
  | tagDirective (handle pfx : String)
  | documentStart
  | documentEnd
  | blockSequenceStart
  | blockMappingStart
  | blockEnd
  | flowSequenceStart
  | flowSequenceEnd
  | flowMappingStart
  | flowMappingEnd
  | blockEntry
  | flowEntry
  | key
  | value
  | alias (name : String)
  | anchor (name : String)
  | tag (handle suffix : String)
  | scalar (text : String) (style : ScalarStyle)
  deriving DecidableEq, Repr

/-- A token with the marks where it starts and stops. -/
structure Token where
  /-- What the token is. -/
  kind : TokenKind
  /-- Where it starts. -/
  start : Mark
  /-- Where it stops. -/
  stop : Mark
  deriving DecidableEq, Repr

/-- A line break character. -/
def isBreak (c : Char) : Bool :=
  c == '\r' || c == '\n' || c == '\x85' || c == '\u2028' || c == '\u2029'

/-- A blank: a space or a tab. -/
def isBlank (c : Char) : Bool := c == ' ' || c == '\t'

/-- The stream ends here or a line break follows. -/
def breakOrEnd : List Char → Bool
  | [] => true
  | c :: _ => isBreak c

/-- The stream ends here or a blank or a line break follows. -/
def blankOrEnd : List Char → Bool
  | [] => true
  | c :: _ => isBlank c || isBreak c

/-- A letter, a digit, an underscore or a dash: what names and handles are made of. -/
def isWordChar (c : Char) : Bool :=
  c.isAlphanum || c == '_' || c == '-'

/-- A character the stream may hold: tab, line feed, carriage return, printable ASCII, next
line, and the printable planes of Unicode. -/
def isAllowed (c : Char) : Bool :=
  let n := c.toNat
  n == 0x9 || n == 0xA || n == 0xD || (0x20 ≤ n && n ≤ 0x7E) || n == 0x85 ||
    (0xA0 ≤ n && n ≤ 0xD7FF) || (0xE000 ≤ n && n ≤ 0xFFFD) || (0x10000 ≤ n && n ≤ 0x10FFFF)

example : (Problem.text ⟨"could not find expected ':'", ⟨5, 2, 0⟩,
    some ("while scanning a simple key", ⟨4, 1, 0⟩)⟩) =
    "could not find expected ':' at line 3 column 1, while scanning a simple key at line 2 column 1" := by
  decide

end StrictCsp.Yaml
