import StrictCsp.EngineError
import StrictCsp.Policy.Assemble

/-!
# Settings

The settings of the engine: the two policy templates, how to log, the header
budget, the hash algorithm and whether the engine is on at all. Each has a
default, and any of them can be overridden by a variable of the environment:

* the templates, the log settings and the hash algorithm take the variable's
  value as it is;
* the header budget takes a decimal number, read after trimming blanks, with
  an optional plus sign and below `2 ^ 64`; anything else is a configuration
  error that quotes the value as given;
* the switch is on exactly when the trimmed value, lowered, is `true`, `1`,
  `yes` or `on`. Only ASCII letters lower into the letters of these words, so
  lowering ASCII letters alone decides it.

Overrides apply in a fixed order, the header budget after the texts and the
switch last, so a bad budget fails before the switch is read.

Main statement: without variables the settings stay as they are
(`overlay_none`). How a budget override is read is worked out in
`StrictCsp.Proofs.SettingsLayers`.
-/

namespace StrictCsp.Config

open StrictCsp.Text StrictCsp.Policy

/-- The settings of the engine. -/
structure Settings where
  /-- The template of the enforced policy. -/
  enforcedPolicy : String := defaultTemplate
  /-- The template of the report-only policy. -/
  reportOnlyPolicy : String := defaultTemplate
  /-- The log level. -/
  logLevel : String := "info"
  /-- The log format, text or json. -/
  logFormat : String := "text"
  /-- The header budget in bytes. -/
  maxHeaderSize : Nat := defaultBudget
  /-- The name of the hash algorithm. -/
  hashAlgorithm : String := "SHA256"
  /-- Whether pages are hardened at all. -/
  enabled : Bool := true
  deriving DecidableEq, Repr

/-- The variable naming a configuration file. -/
def configPathVar : String := "CSPDOG_CONFIG_PATH"

/-- The variable overriding the enforced policy template. -/
def enforcedVar : String := "CSPDOG_ENFORCED_POLICY"

/-- The variable overriding the report-only policy template. -/
def reportOnlyVar : String := "CSPDOG_REPORT_ONLY_POLICY"

/-- The variable overriding the header budget. -/
def maxHeaderSizeVar : String := "CSPDOG_MAX_HEADER_SIZE"

/-- The variable overriding the hash algorithm. -/
def hashAlgorithmVar : String := "CSPDOG_HASH_ALGORITHM"

/-- The variable switching the engine on or off. -/
def enabledVar : String := "CSPDOG_ENABLED"

/-- The variable overriding the log level. -/
def logLevelVar : String := "LOG_LEVEL"

/-- The variable overriding the log format. -/
def logFormatVar : String := "LOG_FORMAT"

/-- The eight variables the settings read. -/
def variableNames : List String :=
  [configPathVar, enforcedVar, reportOnlyVar, maxHeaderSizeVar, hashAlgorithmVar, enabledVar,
    logLevelVar, logFormatVar]

/-- The largest header budget plus one: budgets are machine words. -/
def sizeBound : Nat := Nat.pow 2 64

/-- A number without its plus sign, if it has one. -/
def unsigned : List Char → List Char
  | '+' :: ds => ds
  | ds => ds

/-- The value of decimal digits, most significant first. -/
def decimalValue (ds : List Char) : Nat := ds.foldl (fun acc c => acc * 10 + (c.toNat - 48)) 0

/-- Reads a header budget: blanks trimmed, an optional plus sign, decimal digits, below the bound. -/
def parseSize (v : String) : Option Nat :=
  let digits := unsigned (trim v.toList)
  if !digits.isEmpty && digits.all Char.isDigit then
    let n := decimalValue digits
    if n < sizeBound then some n else none
  else none

/-- The words that switch the engine on. -/
def onWords : List String := ["true", "1", "yes", "on"]

/-- Reads the switch: on exactly for the trimmed and lowered words of onWords. -/
def parseFlag (v : String) : Bool :=
  onWords.contains (String.ofList ((trim v.toList).map asciiLower))

/-- The templates the settings name. -/
def Settings.templates (s : Settings) : Templates := ⟨s.enforcedPolicy, s.reportOnlyPolicy⟩

/-- Both templates are set to something other than blanks. -/
def Settings.isConfigured (s : Settings) : Bool := s.templates.isConfigured

/-- The assembler the settings describe. -/
def Settings.assembler (s : Settings) : Assembler := ⟨s.maxHeaderSize, s.hashAlgorithm⟩

/-- The settings with the overrides of the environment applied. -/
def Settings.overlay (s : Settings) (env : String → Option String) :
    Except EngineError Settings := do
  let s := match env enforcedVar with
    | some v => { s with enforcedPolicy := v }
    | none => s
  let s := match env reportOnlyVar with
    | some v => { s with reportOnlyPolicy := v }
    | none => s
  let s := match env logLevelVar with
    | some v => { s with logLevel := v }
    | none => s
  let s := match env logFormatVar with
    | some v => { s with logFormat := v }
    | none => s
  let s := match env hashAlgorithmVar with
    | some v => { s with hashAlgorithm := v }
    | none => s
  let s ← match env maxHeaderSizeVar with
    | some v =>
      match parseSize v with
      | some n => pure { s with maxHeaderSize := n }
      | none => throw (.configuration
          (maxHeaderSizeVar ++ " must be a positive integer, got '" ++ v ++ "'"))
    | none => pure s
  match env enabledVar with
  | some v => pure { s with enabled := parseFlag v }
  | none => pure s

/-- Without variables the settings stay as they are. -/
theorem overlay_none (s : Settings) : s.overlay (fun _ => none) = .ok s := rfl

end StrictCsp.Config
