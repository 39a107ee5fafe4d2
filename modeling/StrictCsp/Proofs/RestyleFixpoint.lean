import StrictCsp.Fragment.ReadThrough
import StrictCsp.Fragment.RestyledWalk
import Mathlib.Data.List.ReduceOption

/-!
# Restyling a restyled fragment

A fragment is restyled along its walk (`Tour`): each tag with a style is written
again with a class in its place, and the style block goes right before the first
one. Read again, the restyled fragment has the same walk, the block one more raw
text visit, and none of its tags has a style left (`tour_respliced`). So a second
pass finds nothing to do, and draws no entropy (`restyleFragment_restyled_none`).
Every fragment the reader reads through has a walk, and its visits carry the tags
the reader meets (`ReadsThrough.walked`, `readTags_of_tour`), so the condition is
one on those tags.

That needs each styled tag to move its style cleanly (`StyleMovable`). Only the
first style of a tag moves, so a tag with two keeps the second, which the second
pass restyles again (`restyleFragment_duplicate_style_restyled_again`). The rules
are written decoded into the block, so a declaration that decodes to the closing
tag of a style element ends the block early, and what follows it is read as
markup.
-/

namespace StrictCsp.Fragment

open StrictCsp.Entropy StrictCsp.Markup StrictCsp.Text

section Walk

variable {nonce : String} {vs : List Visit} {cs : List (Option StyleClass)} {tail : List Char}

/-- Each class drawn along a walk comes from a visit it restyles. -/
theorem exists_restyles_of_mem_reduceOption (h : List.Forall₂ Visit.Restyles vs cs)
    {cls : StyleClass} (hc : cls ∈ cs.reduceOption) : ∃ v ∈ vs, v.Restyles (some cls) := by
  rw [List.reduceOption_mem_iff] at hc
  induction h with
  | nil => simp at hc
  | @cons v c vs cs hv _ ih =>
    rcases List.mem_cons.mp hc with rfl | hc
    · exact ⟨v, List.mem_cons_self, hv⟩
    · obtain ⟨w, hw, hr⟩ := ih hc
      exact ⟨w, List.mem_cons_of_mem _ hw, hr⟩

/-- The class drawn for a rewritable visit holds declarations that stay in the block. -/
theorem Visit.Restyles.staysInBlock {v : Visit} {cls : StyleClass} (hr : v.Restyles (some cls))
    (hrw : v.Rewritable) :
    ∃ n style, cls = ⟨classPrefix ++ Nat.repr n, String.ofList (Entity.decode style)⟩ ∧
      ¬ styleClose <:+: (Entity.decode style).map asciiLower := by
  obtain ⟨attrs, style, hattrs, hfst, n, rfl⟩ := hr
  have hts : takeStyle attrs = (some style, (takeStyle attrs).2) := Prod.ext hfst rfl
  exact ⟨n, style, rfl, (hrw attrs style _ hattrs hts).staysInBlock⟩

/-- The block written for a walk of rewritable visits ends at its own closing tag. -/
theorem rawTextLength?_block_of_walk (h : List.Forall₂ Visit.Restyles vs cs)
    (hrw : ∀ v ∈ vs, v.Rewritable) :
    rawTextLength? "style".toList (rulesText cs.reduceOption ++ "</style>".toList) =
      some (rulesText cs.reduceOption ++ "</style>".toList).length := by
  refine rawTextLength?_block (not_styleClose_infix_rulesText fun cls hc => ?_)
  obtain ⟨v, hv, hr⟩ := exists_restyles_of_mem_reduceOption h hc
  exact hr.staysInBlock (hrw v hv)

/-- A restyled fragment is its walk with each styled visit written again and the block before
the first of them. -/
theorem restyleFragment_run_walk (hN : '"' ∉ nonce.toList) (h : Tour vs tail)
    (hbom : (textOf vs tail).head? ≠ some byteOrderMark) {src src' : Source} {g : List Char}
    (hrun : (restyleFragment nonce (textOf vs tail)).run src = (.ok (some g), src')) :
    ∃ cs, List.Forall₂ Visit.Restyles vs cs ∧
      g = textOf (respliced nonce cs.reduceOption true vs cs) tail := by
  unfold restyleFragment at hrun
  obtain ⟨⟨edits, classes⟩, mid, hseg, hfill⟩ := Draw.run_bind_eq_ok hrun
  rw [segments_zero_eq_visitAll h hbom] at hseg
  obtain ⟨cs, hcs, rfl, rfl⟩ := visitAll_run (u := []) hseg
  have happly : applyEdits (textOf vs tail) (styleBlock nonce cs.reduceOption) 0 true
      (editsOf 0 vs cs) = textOf (respliced nonce cs.reduceOption true vs cs) tail :=
    applyEdits_editsOf hN hcs.length_eq [] [] tail true
  refine ⟨cs, hcs, ?_⟩
  dsimp only at hfill
  split at hfill
  · simp at hfill
  · simp only [Draw.run_pure, Prod.mk.injEq, Except.ok.injEq, Option.some.injEq] at hfill
    rw [← hfill.1, byteLength_nil, happly]

/-- A fragment walked along quiet visits is left alone, and no entropy is drawn. -/
theorem restyleFragment_of_quiet {ws : List Visit} (h : Tour ws tail)
    (hbom : (textOf ws tail).head? ≠ some byteOrderMark) (hq : ∀ w ∈ ws, w.Quiet) (s : Source) :
    (restyleFragment nonce (textOf ws tail)).run s = (.ok none, s) := by
  rw [restyleFragment, segments_zero_eq_visitAll h hbom, visitAll_quiet hq]
  rfl

/-- Along a walk, the visits are rewritable when every tag the reader meets can move its
style. -/
theorem Tour.rewritable {f : List Char} (hread : ReadsThrough f)
    (hmove : ∀ t ∈ (readTags f 0).1, t.StyleMoves) (h : Tour vs tail) (hf : textOf vs tail = f) :
    ∀ v ∈ vs, v.Rewritable := by
  subst hf
  intro v hv
  obtain ⟨stop, hmem⟩ := exists_tag_mem_tagsOf 0 hv
  have hmet : v.tag stop ∈ (readTags (textOf vs tail) 0).1 := by
    rw [(readTags_of_tour h hread.start).1]
    exact hmem
  exact (v.rewritable_iff_styleMoves stop).mpr (hmove _ hmet)

/-- Restyling a restyled fragment again leaves it alone and draws no entropy, when the reader
reads the fragment through and every tag it meets can move its style cleanly into its class. -/
theorem restyleFragment_restyled_none (hN : '"' ∉ nonce.toList) {f g : List Char}
    (hread : ReadsThrough f) (hmove : ∀ t ∈ (readTags f 0).1, t.StyleMoves)
    {src src' : Source} (hrun : (restyleFragment nonce f).run src = (.ok (some g), src'))
    (s : Source) :
    (restyleFragment nonce g).run s = (.ok none, s) := by
  obtain ⟨vs, tail, hf, htour⟩ := hread.walked
  have hrw := htour.rewritable hread hmove hf
  subst hf
  obtain ⟨cs, hcs, rfl⟩ := restyleFragment_run_walk hN htour hread.start hrun
  obtain ⟨htour', hquiet⟩ :=
    tour_respliced hN (rawTextLength?_block_of_walk hcs hrw) htour hcs hrw true
  have hbom' : (textOf (respliced nonce cs.reduceOption true vs cs) tail).head? ≠
      some byteOrderMark := by
    rw [head?_textOf_respliced]
    exact hread.start
  exact restyleFragment_of_quiet htour' hbom' hquiet s

/-- One styled paragraph: the reader reads it through along its walk, its tag can move its
style, and the second pass leaves its restyling alone. -/
theorem restyleFragment_restyled_none_of_paragraph :
    '"' ∉ "N".toList ∧ ReadsThrough "<p style=\"a\">x</p>".toList ∧
      (∀ t ∈ (readTags "<p style=\"a\">x</p>".toList 0).1, t.StyleMoves) ∧
      (restyleFragment "N" "<p style=\"a\">x</p>".toList).run (.scripted ⟨[7], .fails⟩) =
        (.ok (some ("<style type=\"text/css\" nonce=\"N\">.cspdog-style-7 \x7b a \x7d </style>" ++
          "<p class=\"cspdog-style-7\">x</p>").toList), .scripted ⟨[], .fails⟩) ∧
      ∀ s, (restyleFragment "N" ("<style type=\"text/css\" nonce=\"N\">.cspdog-style-7 \x7b a \x7d " ++
        "</style><p class=\"cspdog-style-7\">x</p>").toList).run s = (.ok none, s) := by
  have hN : '"' ∉ "N".toList := by decide
  have hbom : "<p style=\"a\">x</p>".toList.head? ≠ some byteOrderMark := by decide
  have hrun : (restyleFragment "N" "<p style=\"a\">x</p>".toList).run (.scripted ⟨[7], .fails⟩) =
      (.ok (some ("<style type=\"text/css\" nonce=\"N\">.cspdog-style-7 \x7b a \x7d </style>" ++
        "<p class=\"cspdog-style-7\">x</p>").toList), .scripted ⟨[], .fails⟩) := by
    decide +kernel
  let v : Visit := ⟨[], "p style=\"a\"".toList, false, []⟩
  have hhead : v.content.head? = some 'p' := by decide
  have hreadable : v.Readable := ⟨rfl, tagText_of_scan (by decide)
    (fun d hd => by rw [hhead, Option.some.injEq] at hd; subst hd; decide) (by decide +kernel)
    (fun _ => by decide)⟩
  have hrw : v.Rewritable := by
    intro attrs style others hattrs hts
    have hv : v.attributes = .ok [⟨"style".toList, "a".toList⟩] := by decide +kernel
    rw [hv, Except.ok.injEq] at hattrs
    subst hattrs
    have hone : takeStyle [⟨"style".toList, "a".toList⟩] = (some "a".toList, []) := by
      decide +kernel
    rw [hone, Prod.mk.injEq, Option.some.injEq] at hts
    obtain ⟨rfl, rfl⟩ := hts
    have hname : v.name = ['p'] := by decide +kernel
    have hdecode : Entity.decode "a".toList = "a".toList := by decide +kernel
    refine ⟨?_, by simp, by simp, by simp, ?_⟩
    · rw [hname]
      simp
    · rw [hdecode]
      exact fun h => absurd h.length_le (by decide)
  have htour : Tour [v] ['x', '<', '/', 'p', '>'] :=
    .plain hreadable (by decide +kernel) rfl (.finish rfl)
  have htext : textOf [v] ['x', '<', '/', 'p', '>'] = "<p style=\"a\">x</p>".toList := by decide
  have hread : ReadsThrough "<p style=\"a\">x</p>".toList :=
    readsThrough_iff.mpr ⟨hbom, [v], _, htext, htour⟩
  have hmove : ∀ t ∈ (readTags "<p style=\"a\">x</p>".toList 0).1, t.StyleMoves := by
    rw [← htext, (readTags_of_tour htour (htext ▸ hbom)).1]
    intro t ht
    rw [tagsOf, tagsOf, List.mem_singleton] at ht
    subst ht
    exact (v.rewritable_iff_styleMoves _).mp hrw
  exact ⟨hN, hread, hmove, hrun, restyleFragment_restyled_none hN hread hmove hrun⟩

end Walk

/-- A tag with two styles keeps the second through the first pass, and the second pass draws
again to move it into a class of its own. -/
theorem restyleFragment_duplicate_style_restyled_again :
    (restyleFragment "N" "<p style=\"a\" style=\"b\">x</p>".toList).run (.scripted ⟨[7], .fails⟩) =
        (.ok (some ("<style type=\"text/css\" nonce=\"N\">.cspdog-style-7 \x7b a \x7d </style>" ++
          "<p style=\"b\" class=\"cspdog-style-7\">x</p>").toList), .scripted ⟨[], .fails⟩) ∧
      (restyleFragment "N" ("<style type=\"text/css\" nonce=\"N\">.cspdog-style-7 \x7b a \x7d " ++
          "</style><p style=\"b\" class=\"cspdog-style-7\">x</p>").toList).run
          (.scripted ⟨[8], .fails⟩) =
        (.ok (some ("<style type=\"text/css\" nonce=\"N\">.cspdog-style-7 \x7b a \x7d </style>" ++
          "<style type=\"text/css\" nonce=\"N\">.cspdog-style-8 \x7b b \x7d </style>" ++
          "<p class=\"cspdog-style-7 cspdog-style-8\">x</p>").toList), .scripted ⟨[], .fails⟩) := by
  decide +kernel

end StrictCsp.Fragment
