import StrictCsp.Fragment.TagPlaces
import StrictCsp.Proofs.EntropyAccounting

/-!
# Restyling a fragment changes only its styled tags

Restyling a fragment writes it again with each styled tag replaced: the reader
meets the tags in order, each styled tag's span is found from where the tag
ends, and the edits are applied from the front. `Splices` says what such an
output is: the text before each span kept, the span replaced by the edit's
markup, the style block written right before the first, and the text after the
last span kept. Every restyling that changes a fragment splices it so: the
spans are pieces of the fragment in order, so no slice the edits take falls
outside the fragment or between the bytes of a character
(`restyleFragment_output_spliced`). When no segment starts with a byte order
mark, the spans are the styled tags' markup as written (`restyleFragment_splices`).

The reader skips a byte order mark at a segment's start without counting its
bytes, so every position it reports after it is three bytes short, and the span
found for a tag can be another piece of markup
(`restyleFragment_byteOrderMark_misplaces`).
-/

namespace StrictCsp.Fragment

open StrictCsp.Entropy StrictCsp.Text

/-- The tags with a style of a fragment, with their style and other attributes, in the order
the reader meets them. -/
def fragmentStyled (fragment : List Char) : List (OpenTag × List Char × List Attribute) :=
  styledTags (readTags fragment 0).1

/-- An edit replaces the markup of a styled tag, as it stands in a fragment, with the tag
written again with its class in place of its style. -/
def ReplacesTag (fragment : List Char) (e : Edit) :
    StyleClass × OpenTag × List Char × List Attribute → Prop
  | (cls, t, _, others) =>
    sliceBytes? fragment e.start e.stop = some t.markup ∧ e.stop = t.stop ∧
      e.markup = renderTag t.name (restyledAttributes cls.name.toList others) t.selfClosing

/-- An output spliced by edits in order from a text whose bytes are counted from an offset:
the text before each edit's span is kept, the span is replaced by the edit's markup with the
block written right before the first, and what follows the last span is kept. -/
inductive Splices (block : List Char) : Nat → Bool → List Char → List Edit → List Char → Prop
  /-- After the last edit the rest of the text is kept. -/
  | done (pos : Nat) (first : Bool) (rest : List Char) : Splices block pos first rest [] rest
  /-- An edit replaces a span that follows some kept text. -/
  | edit {pos : Nat} {first : Bool} {kept span rest out : List Char} {e : Edit}
      {es : List Edit} :
      e.start = pos + byteLength kept → e.stop = e.start + byteLength span →
      Splices block e.stop false rest es out →
      Splices block pos first (kept ++ span ++ rest) (e :: es)
        (kept ++ (if first then block else []) ++ e.markup ++ out)

/-- What restyling a fragment makes of it when it changes it: one value drawn for each styled
tag, one edit for each styled tag that replaces exactly its markup with the tag written again
with its class, the spans in order within the fragment, and the output spliced from the
fragment by these edits with the style block of the classes right before the first. -/
def SplicedRestyle (nonce : String) (fragment : List Char) (src src' : Source) (g : List Char) :
    Prop :=
  ∃ vs edits, (drawValues (fragmentStyled fragment).length).run src = (.ok vs, src') ∧
    edits ≠ [] ∧
    List.Forall₂ (ReplacesTag fragment) edits
      ((List.zipWith classFor vs (fragmentStyled fragment)).zip (fragmentStyled fragment)) ∧
    edits.Pairwise (fun e e' => e.stop ≤ e'.start) ∧
    (∀ e ∈ edits, e.start < e.stop ∧ e.stop ≤ byteLength fragment) ∧
    Splices (styleBlock nonce (List.zipWith classFor vs (fragmentStyled fragment))) 0 true
      fragment edits g

section Splicing

variable {block : List Char}

/-- The spans of a splicing follow one another within the text. -/
theorem Splices.chain {pos : Nat} {first : Bool} {s out : List Char} {es : List Edit}
    (h : Splices block pos first s es out) :
    es.Pairwise (fun e e' => e.stop ≤ e'.start) ∧
      ∀ e ∈ es, pos ≤ e.start ∧ e.start ≤ e.stop ∧ e.stop ≤ pos + byteLength s := by
  induction h with
  | done => simp
  | @edit pos first kept span rest out e es hstart hstop _ ih =>
    obtain ⟨hpair, hin⟩ := ih
    refine ⟨List.pairwise_cons.mpr ⟨fun e' he' => (hin e' he').1, hpair⟩,
      List.forall_mem_cons.mpr ⟨?_, fun e' he' => ?_⟩⟩
    · simp only [byteLength_append]
      exact ⟨by omega, by omega, by omega⟩
    · obtain ⟨hafter, hle, hend⟩ := hin e' he'
      simp only [byteLength_append]
      exact ⟨by omega, hle, by omega⟩

/-- Of two splits of one text, the one with the shorter first part splits the other's first part. -/
theorem prefix_of_byteLength_le {c r a s : List Char} (h : c ++ r = a ++ s)
    (hle : byteLength c ≤ byteLength a) : ∃ x, a = c ++ x ∧ r = x ++ s := by
  rcases List.append_eq_append_iff.mp h with ⟨x, rfl, rfl⟩ | ⟨x, rfl, rfl⟩
  · exact ⟨x, rfl, rfl⟩
  · have hx : x = [] := by
      by_contra hne
      have := byteLength_pos hne
      rw [byteLength_append] at hle
      omega
    subst hx
    exact ⟨[], by simp, by simp⟩

/-- Edits in order whose spans are pieces of a fragment, applied from a byte offset before them
all, splice the rest of the fragment, whatever the spans hold. -/
theorem applyEdits_splices {fragment : List Char} :
    ∀ {edits : List Edit} {cursor : Nat} {first : Bool} {rest : List Char},
      edits.Pairwise (fun e e' => e.stop ≤ e'.start) →
      (∀ e ∈ edits, cursor ≤ e.start ∧ ∃ span, sliceBytes? fragment e.start e.stop = some span) →
      dropBytes? fragment cursor = some rest →
      Splices block cursor first rest edits (applyEdits fragment block cursor first edits)
  | [], cursor, first, rest, _, _, hdrop => by
    rw [applyEdits, hdrop]
    exact .done cursor first rest
  | e :: es, cursor, first, rest, hchain, hspans, hdrop => by
    obtain ⟨hcursor, span, hspan⟩ := hspans e List.mem_cons_self
    obtain ⟨a, b, hfrag, ha, hab⟩ := sliceBytes?_eq_some hspan
    obtain ⟨c, hc, rfl⟩ := dropBytes?_eq_some hdrop
    obtain ⟨kept, rfl, hrest⟩ :=
      prefix_of_byteLength_le (hc.symm.trans (hfrag.trans (List.append_assoc _ span b)))
        (by omega)
    have he : e.start = byteLength c + byteLength kept := by rw [← ha, byteLength_append]
    have hslice : sliceBytes? fragment (byteLength c) e.start = some kept := by
      rw [he, hfrag, List.append_assoc, List.append_assoc, ← List.append_assoc c kept]
      exact sliceBytes?_append c kept (span ++ b)
    have hnext : Splices block e.stop false b es (applyEdits fragment block e.stop false es) :=
      applyEdits_splices (List.pairwise_cons.mp hchain).2
        (fun e' he' => ⟨(List.pairwise_cons.mp hchain).1 e' he',
          (hspans e' (List.mem_cons_of_mem _ he')).2⟩)
        (by rw [← hab, hfrag]; exact dropBytes?_append _ b)
    rw [applyEdits, hslice, Option.getD_some, hrest, ← List.append_assoc]
    exact .edit he (by rw [byteLength_append] at hab; omega) hnext

/-- An edit's span ends where a tag ends and starts no earlier than the tag's markup. -/
def Edit.EndsAt (e : Edit) (t : OpenTag) : Prop :=
  e.stop = t.stop ∧ t.stop ≤ e.start + byteLength t.markup

/-- Spans that end at the ends of tags start past where every tag before them ends. -/
theorem start_le_of_endsAt {r : Nat} : ∀ {edits : List Edit} {tags : List OpenTag},
    List.Forall₂ Edit.EndsAt edits tags → (∀ t ∈ tags, r + byteLength t.markup ≤ t.stop) →
      ∀ e ∈ edits, r ≤ e.start
  | _, _, .nil, _ => by simp
  | _, t :: _, .cons ⟨_, hstart⟩ hs, hpast => by
    refine List.forall_mem_cons.mpr ⟨?_, start_le_of_endsAt hs fun u hu =>
      hpast u (List.mem_cons_of_mem _ hu)⟩
    have := hpast t List.mem_cons_self
    omega

/-- Spans that end at the ends of tags in order come one after another. -/
theorem pairwise_of_endsAt : ∀ {edits : List Edit} {tags : List OpenTag},
    List.Forall₂ Edit.EndsAt edits tags → tags.Pairwise OpenTag.Before →
      edits.Pairwise (fun e e' => e.stop ≤ e'.start)
  | _, _, .nil, _ => List.Pairwise.nil
  | _, t :: _, .cons ⟨hstop, _⟩ hs, hord => by
    obtain ⟨hbefore, hrest⟩ := List.pairwise_cons.mp hord
    refine List.pairwise_cons.mpr ⟨fun e' he' => ?_, pairwise_of_endsAt hs hrest⟩
    rw [hstop]
    exact start_le_of_endsAt hs hbefore e' he'

/-- Edits whose spans are pieces of a fragment ending at the ends of tags in order, each starting
no earlier than its tag's markup, splice the fragment. -/
theorem applyEdits_splices_of_endsAt {fragment : List Char} {edits : List Edit}
    {tags : List OpenTag} (h : List.Forall₂ Edit.EndsAt edits tags) (hord : InOrder 0 tags)
    (hspans : ∀ e ∈ edits, ∃ span, sliceBytes? fragment e.start e.stop = some span) :
    Splices block 0 true fragment edits (applyEdits fragment block 0 true edits) :=
  applyEdits_splices (pairwise_of_endsAt h hord.ordered) (fun e he => ⟨Nat.zero_le _, hspans e he⟩)
    (dropBytes?_append [] fragment)

end Splicing

section Restyled

variable {fragment : List Char}

/-- The edit of a styled tag that stands in the fragment replaces exactly its markup. -/
theorem StyledEdit.replacesTag {e : Edit} {p : StyleClass × OpenTag × List Char × List Attribute}
    (h : StyledEdit fragment e p) (hs : p.2.1.StandsIn 0 fragment) : ReplacesTag fragment e p := by
  obtain ⟨cls, t, style, others⟩ := p
  obtain ⟨hlocate, hmarkup⟩ := h
  have hs : t.StandsIn 0 fragment := hs
  rw [hs.locateTag, Option.some.injEq, Prod.mk.injEq] at hlocate
  obtain ⟨hstart, hstop⟩ := hlocate
  refine ⟨?_, hstop.symm, hmarkup⟩
  rw [← hstart, ← hstop]
  exact hs.sliceBytes?

/-- The edits of styled tags that all stand in the fragment replace exactly their markup. -/
theorem forall₂_replacesTag : ∀ {edits : List Edit}
    {pairs : List (StyleClass × OpenTag × List Char × List Attribute)},
    List.Forall₂ (StyledEdit fragment) edits pairs → (∀ p ∈ pairs, p.2.1.StandsIn 0 fragment) →
    List.Forall₂ (ReplacesTag fragment) edits pairs
  | _, _, .nil, _ => .nil
  | _, _, .cons h hs, hst =>
    .cons (h.replacesTag (hst _ (List.mem_cons_self ..)))
      (forall₂_replacesTag hs fun p hp => hst p (List.mem_cons_of_mem _ hp))

/-- The span an edit replaces is its tag's markup, right before where the tag ends. -/
theorem ReplacesTag.span {e : Edit} {p : StyleClass × OpenTag × List Char × List Attribute}
    (h : ReplacesTag fragment e p) :
    e.start + byteLength p.2.1.markup = p.2.1.stop ∧ e.stop = p.2.1.stop := by
  obtain ⟨cls, t, style, others⟩ := p
  obtain ⟨hslice, hstop, -⟩ := h
  obtain ⟨a, b, -, ha, hab⟩ := sliceBytes?_eq_some hslice
  rw [byteLength_append] at hab
  show e.start + byteLength t.markup = t.stop ∧ e.stop = t.stop
  exact ⟨by omega, hstop⟩

/-- Every span an edit replaces holds at least the brackets of its tag. -/
theorem forall₂_replacesTag_start_lt : ∀ {edits : List Edit}
    {pairs : List (StyleClass × OpenTag × List Char × List Attribute)},
    List.Forall₂ (ReplacesTag fragment) edits pairs → ∀ e ∈ edits, e.start < e.stop
  | _, _, .nil => by simp
  | _, p :: _, .cons h hs => by
    have hpos := byteLength_pos (OpenTag.markup_ne_nil p.2.1)
    have hspan := h.span
    exact List.forall_mem_cons.mpr ⟨by omega, forall₂_replacesTag_start_lt hs⟩

/-- The span an edit replaces ends where its tag ends and holds the tag's markup. -/
theorem ReplacesTag.endsAt {e : Edit} {p : StyleClass × OpenTag × List Char × List Attribute}
    (h : ReplacesTag fragment e p) :
    e.EndsAt p.2.1 ∧ ∃ span, sliceBytes? fragment e.start e.stop = some span := by
  obtain ⟨cls, t, style, others⟩ := p
  have hspan := h.span
  exact ⟨⟨hspan.2, by omega⟩, t.markup, h.1⟩

/-- The span located for a styled tag ends where the tag ends, starts no earlier than its markup,
and is a piece of the fragment, wherever the tag stands. -/
theorem StyledEdit.endsAt {e : Edit} {p : StyleClass × OpenTag × List Char × List Attribute}
    (h : StyledEdit fragment e p) :
    e.EndsAt p.2.1 ∧ ∃ span, sliceBytes? fragment e.start e.stop = some span := by
  obtain ⟨cls, t, style, others⟩ := p
  obtain ⟨hstop, hstart, hspan⟩ := locateTag_eq_some h.1
  exact ⟨⟨hstop, hstart⟩, hspan⟩

/-- A restyling that changes a fragment draws one value for each styled tag, then restyles from
those values without drawing. -/
theorem restyleFragment_run_some {nonce : String} {src src' : Source} {g : List Char}
    (h : (restyleFragment nonce fragment).run src = (.ok (some g), src')) :
    ∃ vs, (drawValues (fragmentStyled fragment).length).run src = (.ok vs, src') ∧
      restyleFragmentWith nonce fragment vs = .ok (some g) := by
  rw [restyleFragment_upFront nonce fragment src, afterValues_run] at h
  rcases hd : (drawValues (fragmentDraws fragment)).run src with ⟨e | vs, s⟩
  · rw [hd] at h
    cases h
  rw [hd] at h
  simp only [Prod.mk.injEq] at h
  obtain ⟨hk, rfl⟩ := h
  have hdraws : fragmentDraws fragment = (fragmentStyled fragment).length := by
    unfold restyleFragmentWith at hk
    rcases hr : restyleTagsWith fragment (readTags fragment 0).1 (readTags fragment 0).2 vs with
      _ | r
    · rw [hr] at hk
      cases hk
    · exact tagDraws_of_restyleTagsWith_ok hr
  rw [hdraws] at hd
  exact ⟨vs, hd, hk⟩

/-- The tags of pairs of classes and styled tags, in order. -/
theorem map_tag_zip_styled (classes : List StyleClass)
    (hlen : (fragmentStyled fragment).length ≤ classes.length) :
    (classes.zip (fragmentStyled fragment)).map (fun p => p.2.1) =
      (fragmentStyled fragment).map Prod.fst := by
  rw [show (fun p : StyleClass × OpenTag × List Char × List Attribute => p.2.1) =
    Prod.fst ∘ Prod.snd from rfl, ← List.map_map, List.map_snd_zip hlen]

/-- Restyling that changes a fragment splices it, whatever the fragment: the spans it replaces
are pieces of the fragment in order, the text between them is kept, and no slice it takes falls
outside the fragment or between the bytes of a character. -/
theorem restyleFragment_output_spliced {nonce : String} {src src' : Source} {g : List Char}
    (h : (restyleFragment nonce fragment).run src = (.ok (some g), src')) :
    ∃ edits classes, edits ≠ [] ∧ Splices (styleBlock nonce classes) 0 true fragment edits g := by
  obtain ⟨vs, hdraw, hk⟩ := restyleFragment_run_some h
  have hlen := drawValues_length hdraw
  obtain ⟨edits, classes, hne, rfl, rfl, hedits⟩ := restyleFragmentWith_some hk (Nat.le_of_eq hlen.symm)
  have htags : ((List.zipWith classFor vs (fragmentStyled fragment)).zip
      (fragmentStyled fragment)).map (fun p => p.2.1) = (fragmentStyled fragment).map Prod.fst :=
    map_tag_zip_styled _ (by simp [hlen])
  have hord : InOrder 0 (((List.zipWith classFor vs (fragmentStyled fragment)).zip
      (fragmentStyled fragment)).map fun p => p.2.1) := by
    rw [htags]
    exact (readTags_inOrder fragment 0).sublist (styledTags_map_fst_sublist _)
  have hends := List.forall₂_map_right_iff.mpr (hedits.imp fun _ _ he => he.endsAt.1)
  have hspans := ((List.forall₂_and_left _ _).mp (hedits.imp fun _ _ he => ⟨he.endsAt.2, he⟩)).1
  exact ⟨edits, _, hne, applyEdits_splices_of_endsAt hends hord hspans⟩

/-- Restyling from values, when it changes a fragment none of whose segments starts with a byte
order mark, splices the fragment: each styled tag's markup is replaced in place. -/
theorem restyleFragmentWith_splices {nonce : String} {vs : List Int64} {g : List Char}
    (hbom : fragment.head? ≠ some byteOrderMark)
    (hseg : ∀ t ∈ (readTags fragment 0).1, t.ResumesWithoutMark fragment)
    (h : restyleFragmentWith nonce fragment vs = .ok (some g))
    (hlen : vs.length = (fragmentStyled fragment).length) :
    ∃ edits, edits ≠ [] ∧
      List.Forall₂ (ReplacesTag fragment) edits
        ((List.zipWith classFor vs (fragmentStyled fragment)).zip (fragmentStyled fragment)) ∧
      Splices (styleBlock nonce (List.zipWith classFor vs (fragmentStyled fragment))) 0 true
        fragment edits g := by
  obtain ⟨edits, classes, hne, rfl, rfl, hedits⟩ :=
    restyleFragmentWith_some h (Nat.le_of_eq hlen.symm)
  have hstart : dropBytes? fragment 0 = some fragment := dropBytes?_append [] fragment
  have hplaced : Placed 0 fragment ((fragmentStyled fragment).map Prod.fst) := by
    refine (readTags_placed 0 (fun rest hrest => ?_) hseg).sublist (styledTags_map_fst_sublist _)
    rw [hstart, Option.some.injEq] at hrest
    rw [← hrest]
    exact hbom
  have htags : ((List.zipWith classFor vs (fragmentStyled fragment)).zip
      (fragmentStyled fragment)).map (fun p => p.2.1) = (fragmentStyled fragment).map Prod.fst :=
    map_tag_zip_styled _ (by simp [hlen])
  rw [← htags] at hplaced
  have hrepl := forall₂_replacesTag hedits fun p hp => hplaced.stands _ (List.mem_map_of_mem hp)
  have hends := List.forall₂_map_right_iff.mpr (hrepl.imp fun _ _ hr => hr.endsAt.1)
  have hspans := ((List.forall₂_and_left _ _).mp (hrepl.imp fun _ _ hr => ⟨hr.endsAt.2, hr⟩)).1
  exact ⟨edits, hne, hrepl, applyEdits_splices_of_endsAt hends hplaced.inOrder hspans⟩

/-- A restyling that changes a fragment none of whose segments starts with a byte order mark
replaces each styled tag's markup in place, in order, and keeps the rest of the fragment. -/
theorem restyleFragment_splices {nonce : String} {src src' : Source} {g : List Char}
    (hbom : fragment.head? ≠ some byteOrderMark)
    (hseg : ∀ t ∈ (readTags fragment 0).1, t.ResumesWithoutMark fragment)
    (h : (restyleFragment nonce fragment).run src = (.ok (some g), src')) :
    SplicedRestyle nonce fragment src src' g := by
  obtain ⟨vs, hdraw, hk⟩ := restyleFragment_run_some h
  obtain ⟨edits, hne, hrepl, hspl⟩ :=
    restyleFragmentWith_splices hbom hseg hk (drawValues_length hdraw)
  obtain ⟨hpair, hin⟩ := hspl.chain
  refine ⟨vs, edits, hdraw, hne, hrepl, hpair, fun e he => ⟨?_, ?_⟩, hspl⟩
  · exact forall₂_replacesTag_start_lt hrepl e he
  · have := (hin e he).2.2
    omega

/-- One styled paragraph with a byte order mark in its text, not at a segment's start: its
restyling splices it. -/
theorem restyleFragment_splices_of_one_tag :
    ∃ g src', "<p style=\"a\">\uFEFFx</p>".toList.head? ≠ some byteOrderMark ∧
      (∀ t ∈ (readTags "<p style=\"a\">\uFEFFx</p>".toList 0).1,
        t.ResumesWithoutMark "<p style=\"a\">\uFEFFx</p>".toList) ∧
      (restyleFragment "N" "<p style=\"a\">\uFEFFx</p>".toList).run (.scripted ⟨[7], .fails⟩) =
        (.ok (some g), src') ∧
      SplicedRestyle "N" "<p style=\"a\">\uFEFFx</p>".toList (.scripted ⟨[7], .fails⟩) src' g := by
  have hbom : "<p style=\"a\">\uFEFFx</p>".toList.head? ≠ some byteOrderMark := by decide
  have htags : (readTags "<p style=\"a\">\uFEFFx</p>".toList 0).1 =
      [⟨"p style=\"a\"".toList, false, 13⟩] := by
    decide +kernel
  have hseg : ∀ t ∈ (readTags "<p style=\"a\">\uFEFFx</p>".toList 0).1,
      t.ResumesWithoutMark "<p style=\"a\">\uFEFFx</p>".toList := by
    rw [htags]
    rintro t ht hraw
    rw [List.mem_singleton.mp ht] at hraw
    exact absurd hraw (by decide)
  have hrun : (restyleFragment "N" "<p style=\"a\">\uFEFFx</p>".toList).run
      (.scripted ⟨[7], .fails⟩) =
      (.ok (some ("<style type=\"text/css\" nonce=\"N\">.cspdog-style-7 \x7b a \x7d </style>" ++
        "<p class=\"cspdog-style-7\">\uFEFFx</p>").toList), .scripted ⟨[], .fails⟩) := by
    decide +kernel
  exact ⟨_, _, hbom, hseg, hrun, restyleFragment_splices hbom hseg hrun⟩

/-- A byte order mark at the start of a fragment puts every position the reader reports three
bytes short: here the span found for the styled tag starts at the tag before it, which is lost,
and the last bytes of the styled tag are kept after its new markup. -/
theorem restyleFragment_byteOrderMark_misplaces :
    (restyleFragment "N" "\uFEFF<i><p style=\"x\" q=\">\"r>y</p>".toList).run
        (.scripted ⟨[7], .fails⟩) =
      (.ok (some ("\uFEFF<style type=\"text/css\" nonce=\"N\">" ++
        ".cspdog-style-7 \x7b x \x7d </style>" ++
        "<p q=\">\" r=\"\" class=\"cspdog-style-7\">\"r>y</p>").toList), .scripted ⟨[], .fails⟩) ∧
      "<i>".toList <:+: "\uFEFF<i><p style=\"x\" q=\">\"r>y</p>".toList ∧
      ¬ "<i>".toList <:+: ("\uFEFF<style type=\"text/css\" nonce=\"N\">" ++
        ".cspdog-style-7 \x7b x \x7d </style>" ++
        "<p q=\">\" r=\"\" class=\"cspdog-style-7\">\"r>y</p>").toList :=
  ⟨by decide +kernel, by decide +kernel, by decide +kernel⟩

end Restyled

end StrictCsp.Fragment
