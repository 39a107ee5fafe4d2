import StrictCsp.Config.Settings
import StrictCsp.Yaml.Resolve

/-!
# Settings from a configuration file

A configuration file is a YAML document holding a mapping from setting names
to values; settings it leaves out keep their defaults, and names it does not
know are skipped with whatever value they have. An empty file holds no
settings, and so does a document that is only an empty plain scalar.

Reading stops at the first thing that does not fit, in document order:

* a document that is not a mapping is an invalid type for the whole
  configuration;
* a setting named twice is a duplicate field;
* a template, log setting or algorithm name takes any scalar as its text, but
  not a sequence or a mapping;
* the header budget takes an unsigned integer below `2 ^ 64`, and the switch
  takes a boolean. Each reads the text of a plain scalar, whatever its tag, or
  of a literal block scalar tagged with exactly its kind; anything else is an
  invalid type, named by what the scalar means, or an invalid value when the
  scalar's tag does not fit its text;
* a syntax problem counts where the reader meets it: a type error earlier in
  the document wins over it, and otherwise it is reported even when every
  setting was read;
* a second document is refused.

An alias stands for a copy of the node its anchor names; an alias to an
anchor not yet seen stops reading there.

Messages name the setting (a question mark when an alias stands for its
name), then what went wrong, then the place of the
offending value, counting lines and columns from one and leaving out the very
start of the document.
-/

namespace StrictCsp.Config

open StrictCsp.Yaml

/-- Why a configuration document could not be read. -/
inductive DocumentError where
  /-- The text is not well-formed YAML. -/
  | malformed (p : Problem)
  /-- A value does not fit; the setting it belongs to, if any, and where the value starts. -/
  | mismatch (message : String) (setting : Option String) (mark : Mark)
  /-- An alias names an anchor not seen before it. -/
  | unknownAnchor (mark : Mark)
  /-- The events ended in the middle of a value. -/
  | endOfStream
  /-- More than one document follows. -/
  | moreDocuments
  deriving DecidableEq, Repr

/-- A document error as messages write it. -/
def DocumentError.text : DocumentError → String
  | .malformed p => p.text
  | .mismatch msg setting m =>
    (match setting with
      | some k => k ++ ": "
      | none => "") ++ msg ++ (if m.isStart then "" else " at " ++ m.text)
  | .unknownAnchor m => "unknown anchor" ++ (if m.isStart then "" else " at " ++ m.text)
  | .endOfStream => "EOF while parsing a value"
  | .moreDocuments => "deserializing from YAML containing more than one document is not supported"

/-- Reading a document either goes on or stops with a document error. -/
abbrev Reading := Except DocumentError

/-- Splits off the events of the node that starts a list of events. -/
def splitNode : Nat → List Event → Nat → List Event × List Event
  | 0, evs, _ => ([], evs)
  | fuel + 1, e :: rest, depth =>
    let depth' := match e.kind with
      | .sequenceStart _ _ | .mappingStart _ _ => depth + 1
      | .sequenceEnd | .mappingEnd => depth - 1
      | _ => depth
    if depth' == 0 then ([e], rest)
    else
      let (node, after) := splitNode fuel rest depth'
      (e :: node, after)
  | _, [], _ => ([], [])

/-- The anchor an event carries, if any. -/
def anchorOf (e : Event) : Option String :=
  match e.kind with
  | .scalar a _ _ _ | .sequenceStart a _ | .mappingStart a _ => a
  | _ => none

/-- A copy of a node that an alias stands for: its first event is marked as met through an
alias. -/
def aliasCopy : List Event → List (Event × Bool)
  | [] => []
  | e :: es => (e, true) :: es.map (·, false)

/-- Replaces each alias by a copy of the node its anchor names, marking where each copy starts;
an alias to an unknown anchor cuts the events there and becomes the problem. -/
def expandAliases (all : List Event) : List (Event × Bool) × Option DocumentError :=
  go all.length all []
where
  go : Nat → List Event → List (String × List Event) → List (Event × Bool) × Option DocumentError
    | 0, _, _ => ([], none)
    | _, [], _ => ([], none)
    | fuel + 1, e :: rest, anchors =>
      match e.kind with
      | .alias name =>
        match anchors.find? (·.1 == name) with
        | some (_, node) =>
          let (out, err) := go fuel rest anchors
          (aliasCopy node ++ out, err)
        | none => ([], some (.unknownAnchor e.start))
      | _ =>
        let anchors := match anchorOf e with
          | some a => (a, (splitNode (rest.length + 1) (e :: rest) 0).1) :: anchors
          | none => anchors
        let (out, err) := go fuel rest anchors
        ((e, false) :: out, err)

/-- The events of a document ready for reading settings, and what ends them early. -/
structure Events where
  /-- The events not yet read, each with whether an alias stands there. -/
  rest : List (Event × Bool)
  /-- What is met after the last event, if it ends early. -/
  failure : Option DocumentError

namespace Events

/-- The next event with whether an alias stands there, or what ends the events. -/
def nextMarked (ev : Events) : Reading ((Event × Bool) × Events) :=
  match ev.rest with
  | e :: rest => pure (e, { ev with rest })
  | [] => throw (ev.failure.getD .endOfStream)

/-- The next event, or what ends the events. -/
def next (ev : Events) : Reading (Event × Events) := do
  let ((e, _), ev) ← ev.nextMarked
  pure (e, ev)

/-- Skips one whole node. -/
def skipNode (ev : Events) : Nat → Nat → Reading Events
  | 0, _ => pure ev
  | fuel + 1, depth => do
    let (e, ev) ← ev.next
    let depth := match e.kind with
      | .sequenceStart _ _ | .mappingStart _ _ => depth + 1
      | .sequenceEnd | .mappingEnd => depth - 1
      | _ => depth
    if depth == 0 then pure ev else ev.skipNode fuel depth

end Events

/-- The message for a collection where a scalar was expected. -/
def collectionMismatch (e : Event) (expected : String) : Option String :=
  match e.kind with
  | .sequenceStart _ _ => some (invalidType "sequence" expected)
  | .mappingStart _ _ => some (invalidType "map" expected)
  | _ => none

/-- Reads a text setting: any scalar. -/
def textValue (path : Option String) (e : Event) : Reading String :=
  match e.kind with
  | .scalar _ _ t _ => pure t
  | _ => throw (.mismatch ((collectionMismatch e "a string").getD "invalid type") path e.start)

/-- Whether a typed setting reads a scalar's text: a plain scalar always, whatever its tag, and
a literal block scalar only with exactly the tag of the expected kind. -/
def readsText (kindTag : String) (tag : Option String) (style : ScalarStyle) : Bool :=
  match style with
  | .plain => true
  | .literal => tag == some kindTag
  | _ => false

/-- The message for a scalar a typed setting does not take: what the scalar means, or, when its
tag does not fit its text, that misfit. -/
def scalarMismatch (tag : Option String) (t : String) (style : ScalarStyle) (expected : String) :
    String :=
  match scalarMeaning tag t style with
  | .ok m => invalidType m.unexpected expected
  | .error (txt, exp) => invalidValue ("string " ++ debugText txt) exp

/-- Reads a typed setting: a scalar whose text the reader takes, else a mismatch. -/
def typedValue {α : Type} (path : Option String) (kindTag expected : String)
    (read : String → Option α) (e : Event) : Reading α :=
  match e.kind with
  | .scalar _ tag t style =>
    match (if readsText kindTag tag style then read t else none) with
    | some v => pure v
    | none => throw (.mismatch (scalarMismatch tag t style expected) path e.start)
  | _ => throw (.mismatch ((collectionMismatch e expected).getD "invalid type") path e.start)

/-- Reads the header budget: an unsigned integer below two to the sixty-four. -/
def sizeValue (path : Option String) (e : Event) : Reading Nat :=
  typedValue path (standardTag "int") "usize" (fun t => unsignedBelow (Nat.pow 2 64) t.toList) e

/-- Reads the switch: a boolean. -/
def flagValue (path : Option String) (e : Event) : Reading Bool :=
  typedValue path (standardTag "bool") "a boolean" boolOf e

/-- The names of the settings a file may hold. -/
def settingNames : List String :=
  ["enforced_policy", "report_only_policy", "log_level", "log_format", "max_header_size",
    "hash_algorithm", "enabled"]

/-- Sets one named setting from its value event. Messages name the setting, or a question mark
when an alias stands for its name. -/
def setField (s : Settings) (key : String) (viaAlias : Bool) (e : Event) : Reading Settings :=
  let path := some (if viaAlias then "?" else key)
  match key with
  | "enforced_policy" => return { s with enforcedPolicy := ← textValue path e }
  | "report_only_policy" => return { s with reportOnlyPolicy := ← textValue path e }
  | "log_level" => return { s with logLevel := ← textValue path e }
  | "log_format" => return { s with logFormat := ← textValue path e }
  | "max_header_size" => return { s with maxHeaderSize := ← sizeValue path e }
  | "hash_algorithm" => return { s with hashAlgorithm := ← textValue path e }
  | "enabled" => return { s with enabled := ← flagValue path e }
  | _ => pure s

/-- Reads the entries of the mapping of settings, up to its end. -/
def readEntries (start : Mark) : Nat → Events → List String → Settings → Reading (Settings × Events)
  | 0, ev, _, s => pure (s, ev)
  | fuel + 1, ev, seen, s => do
    let ((e, viaAlias), ev) ← ev.nextMarked
    match e.kind with
    | .mappingEnd => pure (s, ev)
    | .scalar _ _ key _ =>
      if settingNames.contains key then
        if seen.contains key then throw (.mismatch ("duplicate field `" ++ key ++ "`") none start)
        let (v, ev) ← ev.next
        let s ← setField s key viaAlias v
        readEntries start fuel ev (key :: seen) s
      else
        let ev ← ev.skipNode (ev.rest.length + 1) 0
        readEntries start fuel ev seen s
    | _ =>
      throw (.mismatch ((collectionMismatch e "field identifier").getD "invalid type") none e.start)

/-- Reads settings from a document. -/
def readSettings (d : Document) : Reading Settings := do
  let (events, cut) := expandAliases d.events
  let failure := match cut with
    | some err => some err
    | none => d.failure.map .malformed
  let ev : Events := ⟨events, failure⟩
  let s ← match events with
    | [] =>
      match failure with
      | some err => throw err
      | none => pure {}
    | (e, _) :: rest =>
      let ev := { ev with rest }
      match e.kind with
      | .mappingStart _ _ => do
        let (s, _) ← readEntries e.start (rest.length + 1) ev [] {}
        pure s
      | .scalar _ tag t style =>
        if t.isEmpty && style == .plain then pure {}
        else
          match scalarMeaning tag t style with
          | .ok m => throw (.mismatch (invalidType m.unexpected "struct Config") none e.start)
          | .error (txt, exp) =>
            throw (.mismatch (invalidValue ("string " ++ debugText txt) exp) none e.start)
      | _ => throw (.mismatch ((collectionMismatch e "struct Config").getD "invalid type") none e.start)
  if let some err := failure then throw err
  if d.more then throw .moreDocuments
  pure s

/-- Reads settings from the text of a configuration file. -/
def Settings.ofYaml (text : String) : Except EngineError Settings :=
  match readSettings (readDocument text.toList) with
  | .ok s => .ok s
  | .error e => .error (.yaml e.text)

/-- Reads a file by path: its text, or the system's message for why it cannot be read. -/
abbrev Reader := String → Except String String

/-- The system's message for a path that names nothing. -/
def noSuchFile : String := "No such file or directory (os error 2)"

/-- Reads settings from a configuration file. -/
def Settings.ofFile (read : Reader) (path : String) : Except EngineError Settings :=
  match read path with
  | .ok text => Settings.ofYaml text
  | .error msg => .error (.io msg)

/-- Settings from the environment: the configuration file it names, if the name is not blank,
then the overrides of its variables. -/
def Settings.ofEnvironment (read : Reader) (env : String → Option String) :
    Except EngineError Settings := do
  let base ← match env configPathVar with
    | some p =>
      if Text.isBlankText p then pure {} else Settings.ofFile read (Text.trimString p)
    | none => pure {}
  base.overlay env

end StrictCsp.Config
