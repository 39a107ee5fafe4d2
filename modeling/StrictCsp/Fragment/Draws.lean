import StrictCsp.Fragment.TagStream
import StrictCsp.Entropy.Values
import Mathlib.Data.List.Forall2

/-!
# The values restyling a fragment draws

Restyling a fragment draws one signed value for each tag with a style that it
reaches, and nothing else: a tag without a style draws nothing, and restyling
stops at the first tag whose attributes cannot be read, before drawing for it,
or whose span cannot be found, after drawing for it (`tagDraws`). Which tags it
reaches depends on the fragment alone, so restyling is drawing that many values
up front and then computing from them (`restyleFragment_upFront`): the i-th value
names the class of the i-th tag with a style, and that class gives the i-th
rule of the style block (`restyleTagsWith`).
-/

namespace StrictCsp.Fragment

open StrictCsp.Entropy StrictCsp.Text StrictCsp.Markup

/-- The message for a styled tag whose span cannot be found. -/
def unlocatedReason : String := "styled tag could not be located"

/-- The values restyling tags in order draws: one for each tag with a style, up to the first tag
that cannot be restyled. -/
def tagDraws (fragment : List Char) : List OpenTag → Nat
  | [] => 0
  | t :: ts =>
    match t.attributes with
    | .error _ => 0
    | .ok attrs =>
      match (takeStyle attrs).1 with
      | none => tagDraws fragment ts
      | some _ =>
        match locateTag fragment (byteLength t.content) t.stop t.selfClosing with
        | some _ => tagDraws fragment ts + 1
        | none => 1

/-- What restyling tags in order gives from the values it drew: each tag with a style takes the
next value, which names its class. -/
def restyleTagsWith (fragment : List Char) :
    List OpenTag → Option Nat → List Int64 → Except Stop (List Edit × List StyleClass)
  | [], none, _ => .ok ([], [])
  | [], some offset, _ => .error (.error (.fragmentParse offset malformedReason))
  | t :: ts, fault, vs =>
    match t.attributes with
    | .error f => .error (.error (.fragmentParse 0 f.reason))
    | .ok attrs =>
      match takeStyle attrs with
      | (none, _) => restyleTagsWith fragment ts fault vs
      | (some style, others) =>
        let cls := StyleClass.ofValue (vs.headD 0) (String.ofList (Entity.decode style))
        match locateTag fragment (byteLength t.content) t.stop t.selfClosing with
        | some (a, b) =>
          (restyleTagsWith fragment ts fault vs.tail).map fun (edits, classes) =>
            (⟨a, b, renderTag t.name (restyledAttributes cls.name.toList others) t.selfClosing⟩ ::
              edits, cls :: classes)
        | none => .error (.error (.fragmentParse t.stop unlocatedReason))

/-- The tags with a style among tags whose attributes can be read, in order, each with its first
style and its other attributes. -/
def styledTags (tags : List OpenTag) : List (OpenTag × List Char × List Attribute) :=
  tags.filterMap fun t =>
    match t.attributes with
    | .ok attrs =>
      match takeStyle attrs with
      | (some style, others) => some (t, style, others)
      | (none, _) => none
    | .error _ => none

/-- The class a drawn value names for a styled tag, with the tag's declarations. -/
def classFor (v : Int64) (styled : OpenTag × List Char × List Attribute) : StyleClass :=
  StyleClass.ofValue v (String.ofList (Entity.decode styled.2.1))

/-- An edit replaces the span found for a styled tag by the tag written again with its class in
place of its first style. -/
def StyledEdit (fragment : List Char) (e : Edit) :
    StyleClass × OpenTag × List Char × List Attribute → Prop
  | (cls, t, _, others) =>
    locateTag fragment (byteLength t.content) t.stop t.selfClosing = some (e.start, e.stop) ∧
      e.markup = renderTag t.name (restyledAttributes cls.name.toList others) t.selfClosing

/-- The values restyling a fragment draws. -/
def fragmentDraws (fragment : List Char) : Nat := tagDraws fragment (readTags fragment 0).1

/-- What restyling a fragment gives from the values it drew. -/
def restyleFragmentWith (nonce : String) (fragment : List Char) (vs : List Int64) :
    Except Stop (Option (List Char)) :=
  (restyleTagsWith fragment (readTags fragment 0).1 (readTags fragment 0).2 vs).map
    fun (edits, classes) =>
      if edits.isEmpty then none else some (applyEdits fragment (styleBlock nonce classes) 0 true edits)

section Spec

variable {fragment : List Char} {stop : Nat} {t : OpenTag}

/-- A tag whose attributes cannot be read fails before drawing. -/
theorem restyleAt_of_error {f : AttributeFault} (h : t.attributes = .error f) :
    restyleAt fragment stop t = throw (.error (.fragmentParse 0 f.reason)) := by
  simp [restyleAt, restyle, h]

/-- A tag without a style draws nothing and is left alone. -/
theorem restyleAt_of_quiet {attrs : List Attribute} (h : t.attributes = .ok attrs)
    (hnone : (takeStyle attrs).1 = none) : restyleAt fragment stop t = pure ([], []) := by
  rcases hts : takeStyle attrs with ⟨_ | style, others⟩
  · simp [restyleAt, restyle, h, hts]
  · rw [hts] at hnone
    cases hnone

/-- A tag with a style draws a value for its class, then looks for its span. -/
theorem restyleAt_of_styled {attrs others : List Attribute} {style : List Char}
    (h : t.attributes = .ok attrs) (hts : takeStyle attrs = (some style, others)) :
    restyleAt fragment stop t = nextInt64 >>= fun v =>
      let cls := StyleClass.ofValue v (String.ofList (Entity.decode style))
      match locateTag fragment (byteLength t.content) stop t.selfClosing with
      | some (a, b) =>
        pure ([⟨a, b, renderTag t.name (restyledAttributes cls.name.toList others) t.selfClosing⟩],
          [cls])
      | none => throw (.error (.fragmentParse stop unlocatedReason)) := by
  simp only [restyleAt, restyle, h, hts, StyleClass.draw, bind_assoc, pure_bind]
  rfl

end Spec

/-- Restyling tags in order draws their values up front: one per tag with a style, up to the first
tag that cannot be restyled. A tag whose attributes cannot be read draws nothing; a tag with a style
draws one value, whether or not its span is then found. -/
theorem restyleTags_upFront (fragment : List Char) :
    ∀ (tags : List OpenTag) (fault : Option Nat),
      (restyleTags fragment tags fault).UpFront (tagDraws fragment tags)
        (restyleTagsWith fragment tags fault)
  | [], none, src => by
    rw [restyleTags_nil_none, tagDraws, afterValues_zero_run]
    rfl
  | [], some offset, src => by
    rw [tagDraws, afterValues_zero_run]
    rfl
  | t :: ts, fault, src => by
    rw [restyleTags_cons]
    rcases hattrs : t.attributes with f | attrs
    · rw [restyleAt_of_error hattrs, ExceptT.bind_throw]
      simp only [tagDraws, restyleTagsWith, hattrs, afterValues_zero_run]
      rfl
    rcases hts : takeStyle attrs with ⟨_ | style, others⟩
    · rw [restyleAt_of_quiet hattrs (by rw [hts]), pure_bind]
      simp only [List.nil_append, Prod.eta, bind_pure]
      simp only [tagDraws, restyleTagsWith, hattrs, hts]
      exact restyleTags_upFront fragment ts fault src
    · rw [restyleAt_of_styled hattrs hts, bind_assoc, Draw.run_bind]
      simp only [tagDraws, restyleTagsWith, hattrs, hts]
      rcases hloc : locateTag fragment (byteLength t.content) t.stop t.selfClosing with
        _ | ⟨a, b⟩
      · rw [afterValues_succ_run 0]
        rcases nextInt64.run src with ⟨e | v, s⟩
        · rfl
        · simp only [ExceptT.bind_throw, Draw.run_throw, afterValues_zero_run]
      · rw [afterValues_succ_run]
        rcases nextInt64.run src with ⟨e | v, s⟩
        · rfl
        · simp only [pure_bind, List.headD_cons, List.tail_cons, List.singleton_append]
          exact (restyleTags_upFront fragment ts fault).bind_pure _ s

/-- Restyling a fragment draws its values up front: one per tag with a style that the segment
reader meets, up to the first tag that cannot be restyled. -/
theorem restyleFragment_upFront (nonce : String) (fragment : List Char) :
    (restyleFragment nonce fragment).UpFront (fragmentDraws fragment)
      (restyleFragmentWith nonce fragment) := by
  have hfinish : restyleFragment nonce fragment = (segments fragment 0 >>= fun r =>
      pure (if r.1.isEmpty then none
        else some (applyEdits fragment (styleBlock nonce r.2) 0 true r.1))) := by
    unfold restyleFragment
    refine congrArg _ (funext fun r => ?_)
    obtain ⟨edits, classes⟩ := r
    by_cases hempty : edits.isEmpty = true
    · simp only [hempty, if_true]
    · simp only [hempty, Bool.false_eq_true, if_false]
  rw [hfinish, segments_eq_restyleTags]
  exact (restyleTags_upFront fragment _ _).bind_pure _

section Outcome

variable {fragment : List Char}

/-- A tag without a style adds nothing to the styled tags. -/
theorem styledTags_cons_of_quiet {t : OpenTag} {attrs : List Attribute}
    (h : t.attributes = .ok attrs) (hnone : (takeStyle attrs).1 = none) (ts : List OpenTag) :
    styledTags (t :: ts) = styledTags ts := by
  rcases hts : takeStyle attrs with ⟨_ | style, others⟩
  · simp [styledTags, h, hts]
  · rw [hts] at hnone
    cases hnone

/-- A tag with a style comes first among the styled tags, with its style and other attributes. -/
theorem styledTags_cons_of_styled {t : OpenTag} {attrs others : List Attribute}
    {style : List Char} (h : t.attributes = .ok attrs)
    (hts : takeStyle attrs = (some style, others)) (ts : List OpenTag) :
    styledTags (t :: ts) = (t, style, others) :: styledTags ts := by
  simp [styledTags, h, hts]

/-- The tags with a style are among the tags, in their order. -/
theorem styledTags_map_fst_sublist :
    ∀ tags : List OpenTag, ((styledTags tags).map Prod.fst).Sublist tags
  | [] => List.Sublist.slnil
  | t :: ts => by
    have ih := styledTags_map_fst_sublist ts
    rcases hattrs : t.attributes with f | attrs
    · have hskip : styledTags (t :: ts) = styledTags ts := by simp [styledTags, hattrs]
      rw [hskip]
      exact ih.cons t
    rcases hts : takeStyle attrs with ⟨_ | style, others⟩
    · rw [styledTags_cons_of_quiet hattrs (by rw [hts])]
      exact ih.cons t
    · rw [styledTags_cons_of_styled hattrs hts, List.map_cons]
      exact ih.cons_cons t

/-- Tags without a style draw nothing. -/
theorem tagDraws_of_styledTags_nil : ∀ {tags : List OpenTag},
    styledTags tags = [] → tagDraws fragment tags = 0
  | [], _ => rfl
  | t :: ts, h => by
    rcases hattrs : t.attributes with f | attrs
    · simp only [tagDraws, hattrs]
    rcases hts : takeStyle attrs with ⟨_ | style, others⟩
    · rw [styledTags_cons_of_quiet hattrs (by rw [hts])] at h
      simp only [tagDraws, hattrs, hts]
      exact tagDraws_of_styledTags_nil h
    · rw [styledTags_cons_of_styled hattrs hts] at h
      cases h

/-- Restyling from drawn values that succeeds drew one value for each tag with a style. -/
theorem tagDraws_of_restyleTagsWith_ok :
    ∀ {tags : List OpenTag} {fault : Option Nat} {vs : List Int64}
      {r : List Edit × List StyleClass},
      restyleTagsWith fragment tags fault vs = .ok r →
      tagDraws fragment tags = (styledTags tags).length
  | [], _, _, _, _ => rfl
  | t :: ts, fault, vs, r, h => by
    simp only [restyleTagsWith] at h
    rcases hattrs : t.attributes with f | attrs
    · rw [hattrs] at h
      cases h
    rw [hattrs] at h
    simp only at h
    rcases hts : takeStyle attrs with ⟨_ | style, others⟩
    · rw [hts] at h
      rw [styledTags_cons_of_quiet hattrs (by rw [hts])]
      simp only [tagDraws, hattrs, hts]
      exact tagDraws_of_restyleTagsWith_ok h
    · rw [hts] at h
      simp only at h
      rw [styledTags_cons_of_styled hattrs hts]
      rcases hloc : locateTag fragment (byteLength t.content) t.stop t.selfClosing with
        _ | ⟨a, b⟩
      · rw [hloc] at h
        cases h
      rw [hloc] at h
      rcases hrest : restyleTagsWith fragment ts fault vs.tail with e | r'
      · rw [hrest] at h
        cases h
      simp only [tagDraws, hattrs, hts, hloc, List.length_cons]
      rw [tagDraws_of_restyleTagsWith_ok hrest]

/-- Restyling from drawn values that succeeds read every tag's attributes and found the span of
every tag with a style: the i-th value drawn names the class of the i-th such tag, and each
edit writes its tag again with its class. -/
theorem restyleTagsWith_ok :
    ∀ {tags : List OpenTag} {fault : Option Nat} {vs : List Int64} {edits : List Edit}
      {classes : List StyleClass},
      restyleTagsWith fragment tags fault vs = .ok (edits, classes) →
      (styledTags tags).length ≤ vs.length →
      fault = none ∧ classes = List.zipWith classFor vs (styledTags tags) ∧
        List.Forall₂ (StyledEdit fragment) edits (classes.zip (styledTags tags))
  | [], none, vs, edits, classes, h, _ => by
    cases h
    exact ⟨rfl, by simp [styledTags], .nil⟩
  | [], some offset, _, _, _, h, _ => by cases h
  | t :: ts, fault, vs, edits, classes, h, hlen => by
    simp only [restyleTagsWith] at h
    rcases hattrs : t.attributes with f | attrs
    · rw [hattrs] at h
      cases h
    rw [hattrs] at h
    simp only at h
    rcases hts : takeStyle attrs with ⟨_ | style, others⟩
    · rw [hts] at h
      rw [styledTags_cons_of_quiet hattrs (by rw [hts])] at hlen ⊢
      exact restyleTagsWith_ok h hlen
    · rw [hts] at h
      simp only at h
      rw [styledTags_cons_of_styled hattrs hts] at hlen ⊢
      obtain ⟨v, vs', rfl⟩ : ∃ v vs', vs = v :: vs' := by
        cases vs with
        | nil => simp at hlen
        | cons v vs' => exact ⟨v, vs', rfl⟩
      rcases hloc : locateTag fragment (byteLength t.content) t.stop t.selfClosing with
        _ | ⟨a, b⟩
      · rw [hloc] at h
        cases h
      rw [hloc] at h
      rcases hrest : restyleTagsWith fragment ts fault vs' with e | ⟨edits', classes'⟩
      · rw [List.tail_cons, hrest] at h
        cases h
      rw [List.tail_cons, hrest] at h
      simp only [Except.map, Except.ok.injEq, Prod.mk.injEq] at h
      obtain ⟨rfl, rfl⟩ := h
      obtain ⟨hfault, rfl, hedits⟩ := restyleTagsWith_ok hrest (by simpa using hlen)
      refine ⟨hfault, by simp [classFor], .cons ⟨hloc, ?_⟩ hedits⟩
      simp

/-- A fragment restyled from drawn values is the fragment with its edits applied and a style
block whose i-th rule is that of the class named by the i-th value, and each edit writes the
i-th tag with a style again with that class. -/
theorem restyleFragmentWith_some {nonce : String} {vs : List Int64} {g : List Char}
    (h : restyleFragmentWith nonce fragment vs = .ok (some g))
    (hlen : (styledTags (readTags fragment 0).1).length ≤ vs.length) :
    ∃ edits classes, edits ≠ [] ∧ g = applyEdits fragment (styleBlock nonce classes) 0 true edits ∧
      classes = List.zipWith classFor vs (styledTags (readTags fragment 0).1) ∧
      List.Forall₂ (StyledEdit fragment) edits (classes.zip (styledTags (readTags fragment 0).1)) := by
  unfold restyleFragmentWith at h
  rcases hr : restyleTagsWith fragment (readTags fragment 0).1 (readTags fragment 0).2 vs with
    e | ⟨edits, classes⟩
  · rw [hr] at h
    cases h
  rw [hr] at h
  simp only [Except.map, Except.ok.injEq] at h
  obtain ⟨-, hclasses, hedits⟩ := restyleTagsWith_ok hr hlen
  by_cases hempty : edits.isEmpty = true
  · rw [if_pos hempty] at h
    cases h
  · rw [if_neg hempty] at h
    cases h
    exact ⟨edits, classes, by simpa using hempty, rfl, hclasses, hedits⟩

end Outcome

end StrictCsp.Fragment
