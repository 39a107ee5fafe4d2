import StrictCsp.Fragment.Attribute
import StrictCsp.Entropy.Source
import StrictCsp.Markup.Entity.Codec
import StrictCsp.Text.Blank
import StrictCsp.Text.Fold

/-!
# Moving an inline style into a class

An opening tag with a `style` attribute (its key compared without ASCII case)
is written again without it: the style's declarations, with their character
references decoded, become the rule of a fresh class, and the class joins the
tag's first `class` attribute (after a blank, unless that attribute is blank,
which it then replaces) or, if there is none, becomes a new last attribute.
Only the first style attribute moves; a later one stays like every other
attribute. The tag is written as `<`, its name, each attribute as
` key="value"` (in single quotes when the value holds a double quote), and `>`
or `/>`.

A fresh class is named `cspdog-style-` followed by the magnitude of a signed
64-bit value drawn from the random source; its rule is
`.name { declarations } `. Reading the attributes comes first, so a tag whose
attributes cannot be read draws nothing.

Main statement: a tag without a style attribute keeps all its attributes in
order (`takeStyle_none`).
-/

namespace StrictCsp.Fragment

open StrictCsp.Entropy StrictCsp.Text StrictCsp.Markup

/-- The prefix of generated class names. -/
def classPrefix : String := "cspdog-style-"

/-- A generated class and the declarations of its rule. -/
structure StyleClass where
  /-- The class name. -/
  name : String
  /-- The declarations the class stands for. -/
  declarations : String
  deriving DecidableEq, Repr

namespace StyleClass

/-- The class for a drawn value. -/
def ofValue (v : Int64) (declarations : String) : StyleClass :=
  ⟨classPrefix ++ (Nat.repr (unsignedAbs v)), declarations⟩

/-- Draws a fresh class for some declarations. -/
def draw (declarations : String) : Draw StyleClass := do
  let v ← nextInt64
  pure (ofValue v declarations)

/-- The CSS rule of a class. -/
def rule (c : StyleClass) : String := "." ++ c.name ++ " \x7b " ++ c.declarations ++ " \x7d "

end StyleClass

/-- A key names the given attribute when the two agree up to ASCII case. -/
def Attribute.named (a : Attribute) (name : String) : Bool := asciiCaselessEq a.key name.toList

/-- Splits off the first style attribute: its value, and the other attributes in order. -/
def takeStyle : List Attribute → Option (List Char) × List Attribute
  | [] => (none, [])
  | a :: as =>
    if a.named "style" then (some a.value, as)
    else
      let (s, rest) := takeStyle as
      (s, a :: rest)

/-- The attributes with a class added to the first class attribute, or appended. -/
def addClass (cls : List Char) : List Attribute → List Attribute
  | [] => [⟨"class".toList, cls⟩]
  | a :: as =>
    if a.named "class" then
      if (trim a.value).isEmpty then ⟨a.key, cls⟩ :: as
      else ⟨a.key, a.value ++ ' ' :: cls⟩ :: as
    else a :: addClass cls as

/-- An attribute as written in a tag, with a blank before it. -/
def Attribute.render (a : Attribute) : List Char :=
  let q := if a.value.contains '"' then '\'' else '"'
  ' ' :: a.key ++ '=' :: q :: a.value ++ [q]

/-- A tag written from its name and attributes. -/
def renderTag (name : List Char) (attrs : List Attribute) (selfClosing : Bool) : List Char :=
  '<' :: name ++ attrs.flatMap Attribute.render ++ (if selfClosing then "/>".toList else ['>'])

/-- The attributes of a written tag: the first style removed and the class added. -/
def restyledAttributes (cls : List Char) (others : List Attribute) : List Attribute :=
  addClass cls others

/-- A restyled tag: its class and its new text. -/
structure Restyled where
  /-- The class that carries the tag's style. -/
  styleClass : StyleClass
  /-- The tag written again. -/
  markup : List Char
  deriving DecidableEq

/-- The message for attributes that cannot be read. -/
def AttributeFault.reason : AttributeFault → String
  | .missingValue => "attribute value missing after an equals sign"
  | .unclosedQuote => "attribute value not closed by its quote"

/-- Moves the inline style of a tag into a fresh class; nothing when the tag has no style. -/
def restyle (t : OpenTag) : Draw (Option Restyled) := do
  match t.attributes with
  | .error f => throw (.error (.fragmentParse 0 f.reason))
  | .ok attrs =>
    match takeStyle attrs with
    | (none, _) => pure none
    | (some style, others) =>
      let cls ← StyleClass.draw (String.ofList (Entity.decode style))
      let attrs := restyledAttributes cls.name.toList others
      pure (some ⟨cls, renderTag t.name attrs t.selfClosing⟩)

/-- The attributes other than the first style keep their order. -/
theorem takeStyle_none {as : List Attribute} {rest : List Attribute}
    (h : takeStyle as = (none, rest)) : rest = as := by
  induction as generalizing rest with
  | nil => simp [takeStyle] at h; exact h
  | cons a as ih =>
    simp only [takeStyle] at h
    split at h
    · cases h
    · obtain ⟨h1, h2⟩ := Prod.mk.inj h
      rw [← h2]
      exact congrArg (a :: ·) (ih (Prod.ext h1 rfl))

end StrictCsp.Fragment
