import StrictCsp.Text.Similarity

/-!
# The command line

The command takes an optional input path and three options:

* `-c PATH`, `--config PATH`: a configuration file;
* `--nonce TEXT`: the nonce to use;
* `--json`: print one JSON document instead of a body and header lines;

besides `-h`, `--help` and `-V`, `--version`, which print the help or the
version and stop.

Arguments are read from left to right. An option's value is attached
(`--nonce=x`, `-cx`, `-c=x`) or is the next argument that does not look like
an option; `--` makes every later argument an input. An option given twice,
an option without a value, a value given to a flag, an unknown option and a
second input are usage errors, and so is an empty path for the configuration
or the input. A value taken by an option or the input is recorded only when
the next argument is read or the line ends, so a missing value is noticed
there, and an error found first wins.

A usage error names the usage: `cspdog [OPTIONS] [INPUT]`, or, when it comes
from an unknown long option or a flag value, the arguments given so far
followed by the input, written `<INPUT>` when given and `[INPUT]` otherwise.
An unknown long option is matched against the known ones, and the most similar
above seven tenths is suggested and counts as given. An argument whose value
could not be taken counts as given when only its value was wrong, and no more
when it was given twice.

Main statement: the empty command line asks for a plain run
(`parse_nil`).
-/

namespace StrictCsp.Cli

open StrictCsp.Text

/-- The arguments the command knows. -/
inductive Arg where
  | input
  | config
  | nonce
  | json
  | help
  | version
  deriving DecidableEq, Repr

/-- The long name of an argument; the input has none. -/
def Arg.long : Arg → String
  | .input => ""
  | .config => "config"
  | .nonce => "nonce"
  | .json => "json"
  | .help => "help"
  | .version => "version"

/-- The options with a long name, in the order the help lists them. -/
def longOptions : List Arg := [.config, .nonce, .json, .help, .version]

/-- The option a short name stands for. -/
def Arg.ofShort? : Char → Option Arg
  | 'c' => some .config
  | 'h' => some .help
  | 'V' => some .version
  | _ => none

/-- Whether an argument takes a value. -/
def Arg.takesValue : Arg → Bool
  | .input | .config | .nonce => true
  | _ => false

/-- How messages name an argument. -/
def Arg.display : Arg → String
  | .input => "[INPUT]"
  | .config => "--config <CONFIG>"
  | .nonce => "--nonce <NONCE>"
  | .json => "--json"
  | .help => "--help"
  | .version => "--version"

/-- Whether an argument's value is a path, which must not be empty. -/
def Arg.isPath : Arg → Bool
  | .input | .config => true
  | _ => false

/-- How a usage line names an argument that was given. -/
def Arg.given : Arg → String
  | .input => "<INPUT>"
  | a => a.display

/-- What the command line asks of a run. -/
structure Options where
  /-- The input path; the standard input when absent. -/
  input : Option String := none
  /-- The configuration file. -/
  config : Option String := none
  /-- The nonce to use. -/
  nonce : Option String := none
  /-- Whether to print one JSON document. -/
  json : Bool := false
  /-- The arguments taken, in the order they were taken. -/
  taken : List Arg := []
  deriving DecidableEq, Repr

/-- Why reading the command line stops the command. -/
inductive Halt where
  /-- The help was asked for. -/
  | help
  /-- The version was asked for. -/
  | version
  /-- The command line is wrong; the full message. -/
  | misuse (message : String)
  deriving DecidableEq, Repr

/-- The name of the program. -/
def programName : String := "cspdog"

/-- The version line. -/
def versionText : String := programName ++ " 0.3.0\n"

/-- The usage with nothing given. -/
def plainUsage : String := programName ++ " [OPTIONS] [INPUT]"

/-- The help text. -/
def helpText : String :=
  "Rewrites HTML responses for a strict Content-Security-Policy and assembles nonce/hash based CSP headers\n\n" ++
  "Usage: " ++ plainUsage ++ "\n\n" ++
  "Arguments:\n" ++
  "  [INPUT]  HTML file to rewrite (reads stdin when omitted)\n\n" ++
  "Options:\n" ++
  "  -c, --config <CONFIG>  Path to a YAML configuration file (overrides CSPDOG_CONFIG_PATH)\n" ++
  "      --nonce <NONCE>    Use this nonce instead of a freshly generated one\n" ++
  "      --json             Print body, nonce and headers as one JSON document on stdout\n" ++
  "  -h, --help             Print help\n" ++
  "  -V, --version          Print version\n"

/-- The usage naming the arguments given so far: the options first, then the input, which is
always named. -/
def usageOf (taken : List Arg) : String :=
  if taken.isEmpty then plainUsage
  else
    let opts := (taken.filter (· != .input)).eraseDups.map Arg.given
    let input := if taken.contains .input then Arg.input.given else Arg.input.display
    String.intercalate " " (programName :: opts ++ [input])

/-- A usage error: its message, then the usage if any, then where to find help. -/
def misuse (message : String) (usage : Option String) : Halt :=
  .misuse ("error: " ++ message ++ (match usage with
    | some u => "\n\nUsage: " ++ u
    | none => "") ++ "\n\nFor more information, try '--help'.\n")

/-- An option without a value. -/
def emptyValue (a : Arg) : Halt :=
  misuse ("a value is required for '" ++ a.display ++ "' but none was supplied") none

/-- An argument given twice. -/
def givenTwice (a : Arg) : Halt :=
  misuse ("the argument '" ++ a.display ++ "' cannot be used multiple times") (some plainUsage)

/-- The tip for an argument that looks like an option. -/
def asValueTip (arg : String) : String :=
  "\n\n  tip: to pass '" ++ arg ++ "' as a value, use '-- " ++ arg ++ "'"

/-- An argument that is not known. -/
def unexpected (arg tip usage : String) : Halt :=
  misuse ("unexpected argument '" ++ arg ++ "' found" ++ tip) (some usage)

/-- Takes an argument with its values into the options. -/
def Options.accept (o : Options) (a : Arg) (values : List String) : Except Halt Options :=
  match a with
  | .help => .error .help
  | .version => .error .version
  | .json =>
    if o.taken.contains .json then .error (givenTwice .json)
    else .ok { o with json := true, taken := o.taken ++ [.json] }
  | _ =>
    match values with
    | [] => .error (emptyValue a)
    | v :: _ =>
      if o.taken.contains a then .error (givenTwice a)
      else if a.isPath && v.isEmpty then .error (emptyValue a)
      else
        let o := { o with taken := o.taken ++ [a] }
        .ok (match a with
          | .input => { o with input := some v }
          | .config => { o with config := some v }
          | _ => { o with nonce := some v })

/-- The arguments given after an argument with its values could not be taken: unchanged
without a value, without the argument when it was given twice, and with it when only its value
was wrong. -/
def Options.afterRefusal (o : Options) (a : Arg) (values : List String) : Options :=
  if values.isEmpty then o
  else if o.taken.contains a then { o with taken := o.taken.erase a }
  else { o with taken := o.taken ++ [a] }

/-- Where reading the command line is. -/
structure Scan where
  /-- The arguments taken. -/
  options : Options := {}
  /-- An argument whose values are read but not yet taken. -/
  pending : Option (Arg × List String) := none
  /-- The option whose value comes next, if any. -/
  awaiting : Option Arg := none
  /-- Whether every later argument is an input. -/
  trailing : Bool := false
  /-- Whether the input was read. -/
  inputRead : Bool := false

namespace Scan

/-- Takes the pending argument. -/
def resolve (s : Scan) : Except Halt Scan :=
  match s.pending with
  | none => .ok s
  | some (a, values) => do
    let o ← s.options.accept a values
    pure { s with options := o, pending := none }

/-- Takes the pending argument when it can be taken, and otherwise drops it, keeping what counts
as given. -/
def settle (s : Scan) : Scan :=
  match s.resolve, s.pending with
  | .ok s, _ => s
  | .error _, some (a, values) =>
    { s with options := s.options.afterRefusal a values, pending := none }
  | .error _, none => s

/-- Takes an argument with its values, after the pending one. -/
def react (s : Scan) (a : Arg) (values : List String) : Except Halt Scan := do
  let s ← s.resolve
  pure { s with options := ← s.options.accept a values, awaiting := none }

/-- Starts an option whose value comes next. -/
def expect (s : Scan) (a : Arg) : Except Halt Scan := do
  let s ← s.resolve
  pure { s with pending := some (a, []), awaiting := some a }

/-- Reads an input. -/
def positional (s : Scan) (arg : String) : Except Halt Scan :=
  if s.inputRead then .error (unexpected arg "" plainUsage)
  else do
    let s ← s.resolve
    pure { s with pending := some (.input, [arg]), awaiting := none, inputRead := true }

/-- Reads a long option, given without its dashes. -/
def long (s : Scan) (rest : List Char) : Except Halt Scan :=
  let name := String.ofList (rest.takeWhile (· != '='))
  let value := match rest.dropWhile (· != '=') with
    | [] => none
    | _ :: v => some (String.ofList v)
  match longOptions.find? (·.long == name) with
  | some a =>
    if a.takesValue then
      match value with
      | some v => s.react a [v]
      | none => s.expect a
    else
      match value with
      | some v =>
        .error (misuse ("unexpected value '" ++ v ++ "' for '" ++ a.display ++
          "' found; no more were expected") (some (usageOf (s.options.taken ++ [a]))))
      | none => s.react a []
  | none =>
    let s := s.settle
    let arg := "--" ++ name
    match (mostSimilar name (longOptions.map Arg.long)).bind
        (fun n => longOptions.find? (·.long == n)) with
    | some a =>
      let taken := if s.options.taken.contains a then s.options.taken else s.options.taken ++ [a]
      .error (unexpected arg ("\n\n  tip: a similar argument exists: '--" ++ a.long ++ "'")
        (usageOf taken))
    | none => .error (unexpected arg (asValueTip arg) (usageOf s.options.taken))

/-- Reads a cluster of short options, given without its dash. -/
def short (s : Scan) : List Char → Except Halt Scan
  | [] => .ok s
  | c :: rest =>
    match Arg.ofShort? c with
    | some a =>
      if a.takesValue then
        let value := match rest with
          | [] => none
          | '=' :: v => some (String.ofList v)
          | v => some (String.ofList v)
        match value with
        | some v => s.react a [v]
        | none => s.expect a
      else do
        let s ← s.react a []
        s.short rest
    | none =>
      let arg := "-" ++ c.toString
      .error (unexpected arg (asValueTip arg) plainUsage)

/-- Reads one argument. -/
def step (s : Scan) (arg : String) : Except Halt Scan :=
  if s.trailing then s.positional arg
  else if arg == "--" then .ok { s with trailing := true }
  else
    match arg.toList with
    | '-' :: '-' :: rest => s.long rest
    | '-' :: c :: rest => s.short (c :: rest)
    | _ =>
      match s.awaiting with
      | some a => .ok { s with pending := some (a, [arg]), awaiting := none }
      | none => s.positional arg

end Scan

/-- Reads the command line. -/
def parse (args : List String) : Except Halt Options := do
  let s ← args.foldlM Scan.step {}
  let s ← s.resolve
  pure s.options

/-- The empty command line asks for a plain run. -/
theorem parse_nil : parse [] = .ok {} := rfl

example : parse ["--nonce"] = .error (emptyValue .nonce) := rfl

example : (parse ["-cfile", "--json", "page.html"]).toOption =
    some ⟨some "page.html", some "file", none, true, [.config, .json, .input]⟩ := by decide

end StrictCsp.Cli
