import StrictCsp.Processor
import StrictCsp.Config.File
import StrictCsp.Cli.Arguments
import StrictCsp.Cli.Document

/-!
# One run of the command

A run hardens one page and prints its policies:

1. The command line is read; help, the version and usage errors end the run
   there (usage errors with exit code 2).
2. The settings come from the file named by `--config`, with the variable
   overrides on top, and a failure of either ends the run. Without
   `--config`, they come from the environment as the engine reads them, and a
   failure only warns and falls back to the defaults.
3. The page is the input file, or the standard input.
4. With the engine switched off, or without templates, the page is printed
   as it came.
5. The nonce is the one given, unless it is blank; then one is drawn.
6. The page is hardened and its policies assembled. Printed plainly, the page
   goes to the standard output and each policy header to the error output as
   `Name: value`; with `--json`, one document holds the nonce, the page, the
   headers and how each policy is delivered.

A failure prints `Error: ` with what was being done, then the chain of its
causes, and ends with exit code 1.

Main statement: asking for the version prints it and draws nothing
(`run_version`).
-/

namespace StrictCsp.Cli

open StrictCsp.Entropy StrictCsp.Policy StrictCsp.Config

/-- What a run sees around it. -/
structure Surroundings where
  /-- The arguments after the program name. -/
  args : List String
  /-- The standard input. -/
  stdin : String
  /-- Reads files of the directory the run is in. -/
  read : Reader
  /-- The environment variables. -/
  env : String → Option String

/-- What a run leaves behind. -/
structure Exit where
  /-- The exit code. -/
  code : Nat
  /-- The standard output. -/
  stdout : String
  /-- The error output. -/
  stderr : String
  /-- The nonce drawn for the run, if one was. -/
  drawn : Option String := none
  deriving DecidableEq, Repr

/-- The causes under an engine error: its message, then the system's message it carries. -/
def EngineError.causes (e : EngineError) : List String :=
  e.message :: (match e with
    | .io m | .yaml m => [m]
    | _ => [])

/-- Indents the lines after the first of a text. -/
def indentLines (indent : String) (s : String) : String :=
  "\n".intercalate ((s.splitOn "\n").zipIdx.map fun (l, i) => if i = 0 then l else indent ++ l)

/-- A number right-aligned in five columns. -/
def padNumber (n : Nat) : String :=
  let d := toString n
  String.ofList (List.replicate (5 - d.length) ' ') ++ d

/-- A failure as it is printed: what was being done, then the chain of causes. -/
def failureText (context : String) (causes : List String) : String :=
  "Error: " ++ context ++
    (match causes with
      | [] => ""
      | [c] => "\n\nCaused by:\n    " ++ indentLines "    " c
      | cs => "\n\nCaused by:" ++ String.join (cs.zipIdx.map fun (c, n) =>
          "\n" ++ padNumber n ++ ": " ++ indentLines "       " c)) ++ "\n"

/-- A run that fails. -/
def failure (stderr context : String) (causes : List String) : Exit :=
  ⟨1, "", stderr ++ failureText context causes, none⟩

/-- How a delivery of the enforced policy is written in the document. -/
def enforcedDocument : EnforcedDelivery → Document
  | .header v => .object [("delivery", .text "header"), ("value", .text v)]
  | .metaTag v => .object [("delivery", .text "meta_tag"), ("value", .text v)]
  | .omitted => .object [("delivery", .text "omitted")]

/-- How a delivery of the report-only policy is written in the document. -/
def reportOnlyDocument : ReportOnlyDelivery → Document
  | .header v => .object [("delivery", .text "header"), ("value", .text v)]
  | .degraded v => .object [("delivery", .text "degraded"), ("value", .text v)]
  | .omitted => .object [("delivery", .text "omitted")]

/-- The document printed with `--json`. -/
def resultDocument (nonce : Nonce) (a : Assembled) : Document :=
  .object [("nonce", .text nonce.text), ("body", .text (String.ofList a.body)),
    ("headers", .object (a.headers.map fun (n, v) => (n, .text v))),
    ("enforced", enforcedDocument a.enforced), ("report_only", reportOnlyDocument a.reportOnly)]

/-- The settings of a run, with any warning printed about them, or the failed run. -/
def loadSettings (w : Surroundings) (o : Options) : Except Exit (Settings × String) :=
  match o.config with
  | some path =>
    match Settings.ofFile w.read path with
    | .error e => .error (failure "" ("failed to load config from " ++ path) (EngineError.causes e))
    | .ok s =>
      match s.overlay w.env with
      | .error e =>
        .error (failure "" "invalid CSPDOG_* environment override" (EngineError.causes e))
      | .ok s => .ok (s, "")
  | none =>
    match Settings.ofEnvironment w.read w.env with
    | .ok s => .ok (s, "")
    | .error e =>
      .ok ({}, "Warning: Failed to load config from env, using defaults: " ++ e.message ++ "\n")

/-- Runs a drawing step, catching what stops it. -/
def attempt {α : Type} (d : Draw α) : Draw (Except Stop α) :=
  tryCatch (Except.ok <$> d) (fun e => pure (.error e))

/-- A stop while a page is handled, as a failed run. -/
def stopExit (warning context : String) : Stop → Exit
  | .error e => failure warning context (EngineError.causes e)
  | .panic p =>
    ⟨101, "", warning ++ "thread 'main' panicked:\n" ++
      (match p with
        | .text m => m
        | .other => "Box<dyn Any>") ++ "\n", none⟩

/-- Hardens the page of a run with settings already loaded. -/
def harden (o : Options) (s : Settings) (warning html : String) : Draw Exit := do
  if !s.enabled || !s.isConfigured then return ⟨0, html, warning, none⟩
  let given := o.nonce.map Nonce.mk
  let (nonce, drawn) ← match given with
    | some n =>
      if n.isBlank then
        match ← attempt Nonce.generate with
        | .ok n => pure (n, some n.text)
        | .error stop => return stopExit warning "failed to generate nonce" stop
      else pure (n, none)
    | none =>
      match ← attempt Nonce.generate with
      | .ok n => pure (n, some n.text)
      | .error stop => return stopExit warning "failed to generate nonce" stop
  let p : Processor := ⟨s⟩
  match ← attempt (p.tryWithNonce html.toList nonce) with
  | .error stop => return { stopExit warning "CSP rewrite failed" stop with drawn }
  | .ok a =>
    if o.json then
      return ⟨0, (resultDocument nonce a).pretty ++ "\n", warning, drawn⟩
    else
      let lines := String.join (a.headers.map fun (n, v) => n ++ ": " ++ v ++ "\n")
      return ⟨0, String.ofList a.body, warning ++ lines, drawn⟩

/-- One run of the command. -/
def run (w : Surroundings) : Draw Exit :=
  match parse w.args with
  | .error .help => pure ⟨0, helpText, "", none⟩
  | .error .version => pure ⟨0, versionText, "", none⟩
  | .error (.misuse msg) => pure ⟨2, "", msg, none⟩
  | .ok o =>
    match loadSettings w o with
    | .error e => pure e
    | .ok (s, warning) =>
      match o.input with
      | some path =>
        match w.read path with
        | .ok html => harden o s warning html
        | .error m => pure (failure warning ("failed to read " ++ path) [m])
      | none => harden o s warning w.stdin

/-- Asking for the version prints it and draws nothing. -/
theorem run_version (w : Surroundings) (h : w.args = ["--version"]) (src : Source) :
    (run w).run src = (.ok ⟨0, versionText, "", none⟩, src) := by
  simp only [run, h]
  rfl

end StrictCsp.Cli
