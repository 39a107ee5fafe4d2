import StrictCsp.Policy.Digest
import StrictCsp.Markup.Pattern.Handler

/-!
# Harvesting digests from a page

The hashes a policy allows are read from the page it is delivered with.

* Event handler digests come from every tag with handlers: within the text of
  each such tag, every handler attribute with a non-empty quoted value adds
  the digest of that value. A blank page has none.
* Inline style digests come from every style attribute of the page with a
  non-empty quoted value.

An empty value runs nothing and is not allowed.

Main statements: a blank page yields no event handler digest
(`handlerDigests_of_blank`), though the scan alone would find none there either
(`handlerDigests_eq`), and every non-empty value harvested adds its digest
(`mem_addDigests`).
-/

namespace StrictCsp.Policy

open StrictCsp.Text StrictCsp.Markup.Pattern

/-- Adds the digests of the non-empty values among the captures. -/
def addDigests (alg : HashAlgorithm) (s : DigestSet) (values : List (List Char)) : DigestSet :=
  values.foldl (fun s v => if v.isEmpty then s else s.add (digestOf alg (String.ofList v))) s

/-- The quoted values of the handler attributes inside every tag with handlers. -/
def handlerValues (html : List Char) : List (List Char) :=
  (Recogniser.findAll handlerTag html).flatMap fun (tag, _) =>
    (Recogniser.findAll handlerCall tag).map (·.2)

/-- The quoted values of the inline style attributes of a page. -/
def styleValues (html : List Char) : List (List Char) :=
  (Recogniser.findAll inlineStyle html).map (·.2)

/-- The digests of the event handlers of a page. -/
def handlerDigests (alg : HashAlgorithm) (html : List Char) : DigestSet :=
  if (trim html).isEmpty then {} else addDigests alg {} (handlerValues html)

/-- The digests of the inline styles of a page. -/
def styleDigests (alg : HashAlgorithm) (html : List Char) : DigestSet :=
  addDigests alg {} (styleValues html)

/-- A blank page yields no event handler digest. -/
theorem handlerDigests_of_blank (alg : HashAlgorithm) {html : List Char}
    (h : (trim html).isEmpty) : handlerDigests alg html = {} := by
  simp [handlerDigests, h]

/-- A page of blanks holds no tag with handlers. -/
theorem handlerValues_of_all_blank {html : List Char} (h : html.all isBlank = true) :
    handlerValues html = [] := by
  have hnone : Recogniser.NoHitBefore handlerTag html [] :=
    Recogniser.noHitBefore_of_forall fun c hc s => by
      have hb : isBlank c = true := List.all_eq_true.mp h c hc
      refine handlerTag_cons_none ?_ s
      rintro rfl
      exact absurd hb (by decide)
  have hscan := Recogniser.findAll_append_of_noHitBefore handlerTag hnone
  rw [List.append_nil] at hscan
  simp [handlerValues, hscan, Recogniser.findAll]

/-- The blank page check only short-cuts the scan: the handler digests of a page are those of
its handler values. -/
theorem handlerDigests_eq (alg : HashAlgorithm) (html : List Char) :
    handlerDigests alg html = addDigests alg {} (handlerValues html) := by
  unfold handlerDigests
  split
  · rename_i hblank
    have hall := (trim_eq_nil_iff html).mp (List.isEmpty_iff.mp hblank)
    rw [handlerValues_of_all_blank hall]
    rfl
  · rfl

/-- Adding the digests of more values keeps every digest already present. -/
theorem mem_addDigests_of_mem (alg : HashAlgorithm) {d : String} :
    ∀ {s : DigestSet} {values : List (List Char)},
      d ∈ s.digests → d ∈ (addDigests alg s values).digests
  | _, [], h => h
  | s, v :: vs, h => by
    simp only [addDigests, List.foldl_cons]
    apply mem_addDigests_of_mem alg
    split
    · exact h
    · exact DigestSet.mem_insert_iff.mpr (.inr h)

/-- Every non-empty value adds its digest. -/
theorem mem_addDigests (alg : HashAlgorithm) {v : List Char} (hv : v ≠ []) :
    ∀ {s : DigestSet} {values : List (List Char)}, v ∈ values →
      digestOf alg (String.ofList v) ∈ (addDigests alg s values).digests
  | _, [], h => by simp at h
  | s, w :: ws, h => by
    simp only [addDigests, List.foldl_cons]
    rcases List.mem_cons.mp h with rfl | h'
    · apply mem_addDigests_of_mem alg
      rw [if_neg (by simpa using hv)]
      exact DigestSet.mem_insert_iff.mpr (.inl rfl)
    · exact mem_addDigests alg hv h'

end StrictCsp.Policy
