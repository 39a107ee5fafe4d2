import StrictCsp.Markup.Pattern.Step

/-!
# Opening tags and character data sections

* An inline tag candidate is `<script` or `<style`, written in lowercase
  exactly, followed by anything but `>` and line breaks, up to a `>`. A
  script candidate is tried before a style candidate.
* A head opening tag is `<head`, read caselessly, closed at once by `>` or
  followed by a blank character and anything up to the next `>`; so
  `<header>` and `<head/>` are no head tags.
* A character data section is `<![CDATA[`, its content, and the first `]]>`
  after it; the content is captured.

Main statements: an inline tag candidate is the bracket, a name, a run of
characters that are neither `>` nor line breaks and the closing `>`
(`inlineTag_eq_some`), read whole whatever follows (`inlineTag_candidate`); and
no candidate starts in such a run when a line break or the end of the text
cuts it (`noHitBefore_cut`).
-/

namespace StrictCsp.Markup.Pattern

open StrictCsp.Text

/-- An opening tag that starts with the given name and holds no line break. -/
def candidateTag (name : List Char) (s : List Char) : Option (List Char) := do
  let r ← literal? ('<' :: name) s
  let r := r.dropWhile fun c => c != '>' && !isLineBreak c
  char? '>' r

/-- A character an inline tag candidate runs over: neither a closing bracket nor a line break. -/
def candidateChar (c : Char) : Bool := c != '>' && !isLineBreak c

/-- Recognises an inline script or style opening tag. -/
def inlineTag : Recogniser Unit :=
  Recogniser.ofRest fun s =>
    ((candidateTag "script".toList s) <|> (candidateTag "style".toList s)).map ((), ·)

/-- Recognises a head opening tag. -/
def headTag : Recogniser Unit :=
  Recogniser.ofRest fun s => do
    let r ← char? '<' s
    let r ← word? "head".toList r
    match r with
    | '>' :: r => pure ((), r)
    | c :: r =>
      if isBlank c then
        let r := r.dropWhile (· != '>')
        (char? '>' r).map ((), ·)
      else none
    | [] => none

/-- The opening mark of a character data section. -/
def cdataOpen : List Char := "<![CDATA[".toList

/-- The closing mark of a character data section. -/
def cdataClose : List Char := "]]>".toList

/-- Splits a text at the first closing mark: the text before it and the text after it. -/
def splitAtClose : List Char → Option (List Char × List Char)
  | [] => none
  | c :: cs =>
    if cdataClose.isPrefixOf (c :: cs) then some ([], (c :: cs).drop 3)
    else (splitAtClose cs).map fun (pre, r) => (c :: pre, r)

/-- Recognises a character data section and captures its content. -/
def cdataSection : Recogniser (List Char) :=
  Recogniser.ofRest fun s => do
    let r ← literal? cdataOpen s
    splitAtClose r

/-- An inline tag candidate starts with an opening bracket. -/
theorem inlineTag_cons_none {c : Char} (hc : c ≠ '<') (t : List Char) :
    inlineTag (c :: t) = none := by
  have h : ∀ name, candidateTag name (c :: t) = none := by
    intro name
    simp [candidateTag, literal?_cons_of_ne hc]
  simp [inlineTag, Recogniser.ofRest, h]

section Candidate

/-- A candidate tag is `<` and its name, then characters of a candidate, then `>`. -/
theorem candidateTag_eq (name s : List Char) :
    candidateTag name s =
      (literal? ('<' :: name) s).bind fun r => char? '>' (r.dropWhile candidateChar) := rfl

/-- Every character of `script` and `style` can stand in a candidate tag. -/
theorem candidateChar_of_mem_name {name : List Char}
    (hname : name = "script".toList ∨ name = "style".toList) :
    ∀ c ∈ name, candidateChar c = true := by
  rcases hname with rfl | rfl <;> exact List.all_eq_true.mp (by decide)

/-- A candidate is an opening bracket, its name, a run of candidate characters and the closing
bracket. -/
theorem candidateTag_eq_some {name s r : List Char} (h : candidateTag name s = some r) :
    ∃ x, (∀ c ∈ x, candidateChar c = true) ∧ s = '<' :: name ++ x ++ '>' :: r := by
  rw [candidateTag_eq, Option.bind_eq_some_iff] at h
  obtain ⟨r₁, hlit, hclose⟩ := h
  refine ⟨r₁.takeWhile candidateChar, fun c hc => List.all_eq_true.mp List.all_takeWhile c hc, ?_⟩
  have hdrop : r₁.dropWhile candidateChar = '>' :: r := by
    cases hd : r₁.dropWhile candidateChar with
    | nil => rw [hd] at hclose; cases hclose
    | cons c cs =>
      rw [hd] at hclose
      simp only [char?] at hclose
      split at hclose
      · rename_i hc
        cases hclose
        rw [hc]
      · cases hclose
  have hsplit : r₁ = r₁.takeWhile candidateChar ++ '>' :: r := by
    rw [← hdrop, List.takeWhile_append_dropWhile]
  rw [literal?_eq_some hlit]
  conv => lhs; rw [hsplit]
  simp

/-- A run of candidate characters closed by a bracket is read as one candidate. -/
theorem candidateTag_append {name x : List Char} (hx : ∀ c ∈ x, candidateChar c = true)
    (r : List Char) : candidateTag name ('<' :: name ++ x ++ '>' :: r) = some r := by
  rw [candidateTag_eq, show '<' :: name ++ x ++ '>' :: r = ('<' :: name) ++ (x ++ '>' :: r) by simp,
    literal?_append, Option.bind_some, List.dropWhile_append_of_pos hx]
  simp [candidateChar, char?]

/-- A run of candidate characters that a line break or the end cuts is no candidate. The closing
bracket cannot come first, as it would be a candidate character. -/
theorem candidateTag_of_cut {name x v : List Char} (hname : ∀ c ∈ name, candidateChar c = true)
    (hx : ∀ c ∈ x, candidateChar c = true) (hv : v.head?.all isLineBreak = true) :
    candidateTag name ('<' :: x ++ v) = none := by
  cases h : candidateTag name ('<' :: x ++ v) with
  | none => rfl
  | some r =>
    obtain ⟨y, hy, hs⟩ := candidateTag_eq_some h
    have heq : x ++ v = (name ++ y) ++ '>' :: r := by simpa using hs
    have hclean : ∀ c ∈ name ++ y, candidateChar c = true := by
      intro c hc
      rcases List.mem_append.mp hc with hc | hc
      · exact hname c hc
      · exact hy c hc
    cases v with
    | nil =>
      have hgt : '>' ∈ x := by
        rw [List.append_nil] at heq
        rw [heq]
        simp
      simpa [candidateChar] using hx _ hgt
    | cons b z =>
      have hb : isLineBreak b = true := by simpa using hv
      have hspan := congrArg (List.span candidateChar) heq
      rw [span_append_cons hx (by simp [candidateChar, hb]),
        span_append_cons hclean (by simp [candidateChar])] at hspan
      have hbgt : b = '>' := (List.cons.inj (Prod.mk.inj hspan).2).1
      rw [hbgt] at hb
      exact absurd hb (by decide)

/-- A text is a run of candidate characters up to its end, a closing bracket or a line break. -/
theorem candidate_split (s : List Char) :
    ∃ x, (∀ c ∈ x, candidateChar c = true) ∧ (s = x ∨ (∃ z, s = x ++ '>' :: z) ∨
      ∃ b z, isLineBreak b = true ∧ s = x ++ b :: z) := by
  refine ⟨s.takeWhile candidateChar, fun c hc => List.all_eq_true.mp List.all_takeWhile c hc, ?_⟩
  have hsplit := (List.takeWhile_append_dropWhile (p := candidateChar) (l := s)).symm
  have hhead := List.head?_dropWhile_not candidateChar s
  rcases hd : s.dropWhile candidateChar with _ | ⟨b, z⟩
  · rw [hd, List.append_nil] at hsplit
    exact .inl hsplit
  · rw [hd] at hsplit hhead
    have hb : b = '>' ∨ isLineBreak b = true := by
      simp only [List.head?_cons, candidateChar, Bool.and_eq_false_iff, bne_eq_false_iff_eq,
        Bool.not_eq_false'] at hhead
      exact hhead
    rcases hb with rfl | hb
    · exact .inr (.inl ⟨z, hsplit⟩)
    · exact .inr (.inr ⟨b, z, hb, hsplit⟩)

/-- A literal word after a bracket is not read off a text that does not start with it. -/
theorem literal?_lt_eq_none {name t : List Char} (h : ¬ name <+: t) :
    literal? ('<' :: name) ('<' :: t) = none := by
  rw [literal?, if_neg]
  intro hp
  exact h (List.cons_prefix_cons.mp (List.isPrefixOf_iff_prefix.mp hp)).2

/-- An inline tag is a candidate `script` tag, else a candidate `style` tag. -/
theorem inlineTag_eq (s : List Char) :
    inlineTag s = (((candidateTag "script".toList s).or (candidateTag "style".toList s)).map
      fun r => (⟨s.length - r.length, ()⟩ : Hit Unit)) := by
  simp only [inlineTag, Recogniser.ofRest, Option.map_map, Option.orElse_eq_orElse,
    Option.orElse_eq_or]
  rfl

/-- No inline tag candidate starts where neither name is read as one. -/
theorem inlineTag_eq_none_iff {s : List Char} :
    inlineTag s = none ↔
      candidateTag "script".toList s = none ∧ candidateTag "style".toList s = none := by
  rw [inlineTag_eq, Option.map_eq_none_iff, Option.or_eq_none_iff]

/-- An inline tag candidate is an opening bracket, a script or style name, a run of candidate
characters and the closing bracket. The script name is tried first, the style name after it. -/
theorem inlineTag_eq_some {s : List Char} {h : Hit Unit} (hm : inlineTag s = some h) :
    ∃ name x r, (name = "script".toList ∨ name = "style".toList) ∧
      (∀ c ∈ x, candidateChar c = true) ∧ s = '<' :: name ++ x ++ '>' :: r ∧
      h.length = ('<' :: name ++ x ++ ['>']).length := by
  rw [inlineTag_eq, Option.map_eq_some_iff] at hm
  obtain ⟨r, hr, rfl⟩ := hm
  have hname : ∃ name, (name = "script".toList ∨ name = "style".toList) ∧
      candidateTag name s = some r := by
    cases hs : candidateTag "script".toList s with
    | some r' =>
      rw [hs, Option.some_or] at hr
      exact ⟨_, .inl rfl, hs.trans hr⟩
    | none =>
      rw [hs, Option.none_or] at hr
      exact ⟨_, .inr rfl, hr⟩
  obtain ⟨name, hn, hc⟩ := hname
  obtain ⟨x, hx, rfl⟩ := candidateTag_eq_some hc
  exact ⟨name, x, r, hn, hx, rfl, by simp; omega⟩

/-- A hit of the candidate pattern covers some characters. -/
theorem inlineTag_length_pos {s : List Char} {h : Hit Unit} (hm : inlineTag s = some h) :
    0 < h.length := by
  obtain ⟨name, x, r, -, -, -, hl⟩ := inlineTag_eq_some hm
  simp [hl]

/-- A script or style candidate is read whole, whatever follows its bracket. -/
theorem inlineTag_candidate {name x : List Char}
    (hname : name = "script".toList ∨ name = "style".toList)
    (hx : ∀ c ∈ x, candidateChar c = true) (r : List Char) :
    inlineTag ('<' :: name ++ x ++ '>' :: r) = some ⟨('<' :: name ++ x ++ ['>']).length, ()⟩ := by
  have hlen : ('<' :: name ++ x ++ '>' :: r).length - r.length =
      ('<' :: name ++ x ++ ['>']).length := by
    simp
    omega
  rcases hname with rfl | rfl
  · rw [inlineTag_eq, candidateTag_append hx, Option.some_or, Option.map_some, hlen]
  · have hscript :
        candidateTag "script".toList ('<' :: "style".toList ++ x ++ '>' :: r) = none := by
      simp [candidateTag_eq, literal?, List.isPrefixOf]
    rw [inlineTag_eq, hscript, candidateTag_append hx, Option.none_or, Option.map_some, hlen]

/-- No candidate starts at a bracket followed by a run of candidate characters that a line break
or the end cuts. -/
theorem inlineTag_cut {x v : List Char} (hx : ∀ c ∈ x, candidateChar c = true)
    (hv : v.head?.all isLineBreak = true) : inlineTag ('<' :: x ++ v) = none :=
  inlineTag_eq_none_iff.mpr ⟨candidateTag_of_cut (candidateChar_of_mem_name (.inl rfl)) hx hv,
    candidateTag_of_cut (candidateChar_of_mem_name (.inr rfl)) hx hv⟩

/-- No candidate starts in a run of candidate characters that a line break or the end cuts. -/
theorem noHitBefore_cut {x v : List Char} (hx : ∀ c ∈ x, candidateChar c = true)
    (hv : v.head?.all isLineBreak = true) : Recogniser.NoHitBefore inlineTag x v := by
  intro t ht hne h hm
  obtain ⟨c, t', rfl⟩ := List.exists_cons_of_ne_nil hne
  by_cases hc : c = '<'
  · subst hc
    have ht' : ∀ d ∈ t', candidateChar d = true :=
      fun d hd => hx d (ht.subset (List.mem_cons_of_mem _ hd))
    rw [inlineTag_cut ht' hv] at hm
    cases hm
  · rw [List.cons_append, inlineTag_cons_none hc] at hm
    cases hm

/-- No candidate starts in a text without an opening bracket. -/
theorem noHitBefore_of_lt_not_mem {u : List Char} (hu : '<' ∉ u) (v : List Char) :
    Recogniser.NoHitBefore inlineTag u v :=
  Recogniser.noHitBefore_of_forall fun _ hc s =>
    inlineTag_cons_none (fun h => hu (h ▸ hc)) s

end Candidate

/-- A split at the first closing mark leaves before it a text without the mark. -/
theorem splitAtClose_eq_some {s pre r : List Char} (h : splitAtClose s = some (pre, r)) :
    s = pre ++ cdataClose ++ r ∧ ¬ cdataClose <:+: pre := by
  induction s generalizing pre r with
  | nil => simp [splitAtClose] at h
  | cons c cs ih =>
    simp only [splitAtClose] at h
    split at h
    · rename_i hp
      cases h
      refine ⟨?_, by simp [cdataClose]⟩
      exact (List.prefix_iff_eq_append.mp (List.isPrefixOf_iff_prefix.mp hp)).symm
    · rename_i hp
      obtain ⟨⟨pre', r'⟩, hs, he⟩ := Option.map_eq_some_iff.mp h
      cases he
      obtain ⟨rfl, hclean⟩ := ih hs
      refine ⟨rfl, fun hin => ?_⟩
      rcases List.infix_cons_iff.mp hin with hpre | hin'
      · apply hp
        apply List.isPrefixOf_iff_prefix.mpr
        exact hpre.trans ⟨cdataClose ++ r', by simp⟩
      · exact hclean hin'


/-- A text that cannot be split holds no closing mark. -/
theorem splitAtClose_eq_none {s : List Char} (h : splitAtClose s = none) : ¬ cdataClose <:+: s := by
  induction s with
  | nil => simp [cdataClose]
  | cons c cs ih =>
    simp only [splitAtClose] at h
    split at h
    · cases h
    · rename_i hp
      intro hin
      rcases List.infix_cons_iff.mp hin with hpre | hin'
      · exact hp (List.isPrefixOf_iff_prefix.mpr hpre)
      · exact ih (Option.map_eq_none_iff.mp h) hin'

/-- A text without the closing mark, followed by the mark, is split right there. -/
theorem splitAtClose_append {g : List Char} (hg : ¬ cdataClose <:+: g) (r : List Char) :
    splitAtClose (g ++ cdataClose ++ r) = some (g, r) := by
  induction g with
  | nil => rfl
  | cons c g ih =>
    have hrest : ¬ cdataClose <:+: g := fun h => hg (h.trans (List.infix_cons (List.infix_refl g)))
    have hhead : ¬ cdataClose <+: c :: (g ++ cdataClose ++ r) := by
      intro hpre
      rcases g with _ | ⟨x, _ | ⟨y, z⟩⟩
      · simp [cdataClose] at hpre
      · simp [cdataClose] at hpre
      · rw [show cdataClose = [']', ']', '>'] from rfl] at hpre hg
        simp only [List.cons_append, List.cons_prefix_cons, List.nil_prefix, and_true] at hpre
        obtain ⟨rfl, rfl, rfl⟩ := hpre
        exact hg (List.IsPrefix.isInfix ⟨z, rfl⟩)
    rw [List.cons_append, List.cons_append, splitAtClose,
      if_neg (fun h => hhead (List.isPrefixOf_iff_prefix.mp h)), ih hrest]
    rfl

/-- A character data section is the opening mark, a content without the closing mark, and the
closing mark. -/
theorem cdataSection_eq_some {s : List Char} {h : Hit (List Char)}
    (hm : cdataSection s = some h) :
    ∃ r, s = cdataOpen ++ h.captured ++ cdataClose ++ r ∧ ¬ cdataClose <:+: h.captured ∧
      h.length = (cdataOpen ++ h.captured ++ cdataClose).length := by
  obtain ⟨r, hf, hl⟩ := Recogniser.ofRest_hit hm
  simp only [Option.bind_eq_bind, Option.bind_eq_some_iff, literal?] at hf
  obtain ⟨rest, hlit, hsplit⟩ := hf
  split at hlit
  · rename_i hp
    cases hlit
    obtain ⟨hrest, hclean⟩ := splitAtClose_eq_some hsplit
    have hs : s = cdataOpen ++ s.drop cdataOpen.length :=
      (List.prefix_iff_eq_append.mp (List.isPrefixOf_iff_prefix.mp hp)).symm
    rw [hrest] at hs
    refine ⟨r, by rw [hs]; simp, hclean, ?_⟩
    rw [hl, hs]
    simp only [List.length_append]
    omega
  · cases hlit

/-- A section holds at least its opening mark, so it is never empty. -/
theorem cdataSection_length_pos {s : List Char} {h : Hit (List Char)}
    (hm : cdataSection s = some h) : 0 < h.length := by
  obtain ⟨-, -, -, hl⟩ := cdataSection_eq_some hm
  have hopen : cdataOpen.length = 9 := rfl
  simp only [List.length_append] at hl
  omega

/-- A content without the closing mark, between the two marks, is read back as one section. -/
theorem cdataSection_section {g : List Char} (hg : ¬ cdataClose <:+: g) (r : List Char) :
    cdataSection (cdataOpen ++ g ++ cdataClose ++ r) =
      some ⟨(cdataOpen ++ g ++ cdataClose).length, g⟩ := by
  have hlit :
      literal? cdataOpen (cdataOpen ++ g ++ cdataClose ++ r) = some (g ++ cdataClose ++ r) := by
    rw [literal?, if_pos (List.isPrefixOf_iff_prefix.mpr ⟨g ++ cdataClose ++ r, by simp⟩)]
    simp
  simp only [cdataSection, Recogniser.ofRest, Option.bind_eq_bind, hlit, Option.bind_some,
    splitAtClose_append hg, Option.map_some]
  simp only [List.length_append, Option.some.injEq, Hit.mk.injEq, and_true]
  omega

example : (Recogniser.first? headTag "<header><head>".toList).map (·.1.length) = some 8 := by
  decide

end StrictCsp.Markup.Pattern
