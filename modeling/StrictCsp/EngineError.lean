/-!
# Errors of the policy engine

An operation of the engine fails for one of seven causes: the random source is
unavailable, a hash algorithm is unknown, a partial-response fragment cannot be
read, the configuration is wrong, hardening a page was aborted, a file could not be
read, or a configuration document is malformed. Each cause has a message for
logs and a shorter one for users, and two of them can be recovered from by
leaving the affected part of a response as it was.
-/

namespace StrictCsp

/-- Why an operation of the engine failed. -/
inductive EngineError where
  /-- The random source is unavailable. -/
  | entropy (reason : String)
  /-- A hash algorithm name is not one of the supported ones. -/
  | unsupportedHashAlgorithm (name : String)
  /-- A partial-response fragment could not be read at the given byte. -/
  | fragmentParse (position : Nat) (reason : String)
  /-- The configuration is wrong. -/
  | configuration (reason : String)
  /-- Hardening a page was aborted. -/
  | aborted (reason : String)
  /-- A file could not be read. -/
  | io (reason : String)
  /-- A configuration document is malformed. -/
  | yaml (message : String)
  deriving DecidableEq, Repr

namespace EngineError

/-- The message of an error, as written to logs. -/
def message : EngineError → String
  | .entropy r => "Secure random source unavailable: " ++ r
  | .unsupportedHashAlgorithm n => "Unsupported hash algorithm: " ++ n
  | .fragmentParse p r => "Fragment parse error at byte " ++ toString p ++ ": " ++ r
  | .configuration r => "Configuration error: " ++ r
  | .aborted r => "Rewrite aborted: " ++ r
  | .io r => "I/O error: " ++ r
  | .yaml m => "YAML error: " ++ m

/-- The message shown to users, which hides internal details. -/
def userMessage : EngineError → String
  | .entropy _ => "Internal error"
  | .unsupportedHashAlgorithm n => "Unsupported hash algorithm: " ++ n
  | .fragmentParse _ _ => "Malformed partial response"
  | .configuration r => "Configuration error: " ++ r
  | .aborted _ => "Internal error"
  | .io _ => "Internal system error"
  | .yaml _ => "Configuration error"

/-- An error is degradable when the response can still be served with the affected part left
as it was. -/
def isDegradable : EngineError → Bool
  | .unsupportedHashAlgorithm _ | .fragmentParse _ _ => true
  | _ => false

/-- Only an unknown algorithm and an unreadable fragment are degradable. -/
theorem isDegradable_iff (e : EngineError) :
    e.isDegradable = true ↔
      (∃ n, e = .unsupportedHashAlgorithm n) ∨ ∃ p r, e = .fragmentParse p r := by
  cases e <;> simp [isDegradable]

end EngineError

end StrictCsp
