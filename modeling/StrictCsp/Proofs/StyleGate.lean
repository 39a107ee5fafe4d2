import StrictCsp.Fragment.AttributeText
import StrictCsp.Fragment.TagPlaces
import StrictCsp.Proofs.CdataFraming

/-!
# When the styled-response test lets a response through

Styles are extracted from a response only when it passes a quick test: it
mentions `partial-response` and holds an inline style attribute, read caselessly
as `style`, an equals sign and a value in quotes on one line (`isStyled`). The
reader that restyles the sections is more lenient: it also takes a bare value,
or a quoted one over several lines.

Main statements: the test lets a response through whenever one of its sections
holds a tag the reader meets with a style attribute written in quotes on one
line, and extracting styles is then restyling every section
(`isStyled_of_quoted_style`). A style with a bare value is restyled by the loop
over the sections but stopped by the test (`extractStyles_bare_style`).
-/

namespace StrictCsp.Markup.Pattern

open StrictCsp.Text StrictCsp.Fragment

/-- A markup blank is a blank. -/
theorem isBlank_of_isMarkupBlank {c : Char} (h : isMarkupBlank c = true) : isBlank c = true := by
  simp only [isMarkupBlank, Bool.or_eq_true, beq_iff_eq] at h
  rcases h with ((rfl | rfl) | rfl) | rfl <;> decide

/-- A run of markup blanks is skipped up to the character after it. -/
theorem blanks_markup_append_cons {w : List Char} (hw : ∀ c ∈ w, isMarkupBlank c = true)
    {c : Char} (hc : isBlank c = false) (u : List Char) : blanks (w ++ c :: u) = c :: u := by
  rw [blanks, List.dropWhile_append_of_pos fun x hx => isBlank_of_isMarkupBlank (hw x hx),
    List.dropWhile_cons, if_neg (by simp [hc])]

/-- A text that lowers to a word of small letters is read as that word. -/
theorem word?_of_map_asciiLower : ∀ {key w : List Char}, key.map asciiLower = w →
    (∀ x ∈ w, x.isLower = true) → ∀ r, word? w (key ++ r) = some r
  | [], [], _, _, _ => rfl
  | [], _ :: _, h, _, _ => by cases h
  | _ :: _, [], h, _, _ => by cases h
  | c :: cs, x :: xs, h, hl, r => by
    simp only [List.map_cons, List.cons.injEq] at h
    have hfold : foldEq c x = true := by
      simp [foldEq, h.1, hl x List.mem_cons_self]
    simp only [List.cons_append, word?, hfold, if_true]
    exact word?_of_map_asciiLower h.2 (fun y hy => hl y (List.mem_cons_of_mem _ hy)) r

/-- A style attribute written with a quoted value on one line is an inline style. The value reads in
its own quotes; a single quote is tried after a double one fails. -/
theorem inlineStyle_quotedText {key w₁ w₂ v : List Char} {q : Char}
    (hkey : key.map asciiLower = "style".toList) (hw₁ : ∀ c ∈ w₁, isMarkupBlank c = true)
    (hw₂ : ∀ c ∈ w₂, isMarkupBlank c = true) (hq : q = '"' ∨ q = '\'') (hv : q ∉ v)
    (hline : ∀ c ∈ v, isLineBreak c = false) (rest : List Char) :
    ∃ h, inlineStyle (quotedText key w₁ w₂ q v ++ rest) = some h ∧ 0 < h.length := by
  have hlower : ∀ x ∈ "style".toList, x.isLower = true :=
    List.all_eq_true.mp (by decide : "style".toList.all Char.isLower = true)
  have hqblank : isBlank q = false := by rcases hq with rfl | rfl <;> decide
  have hword := word?_of_map_asciiLower hkey hlower (w₁ ++ '=' :: w₂ ++ q :: v ++ q :: rest)
  have hequals :
      equals? (w₁ ++ '=' :: w₂ ++ q :: v ++ q :: rest) = some (q :: (v ++ q :: rest)) := by
    simp only [equals?, List.append_assoc, List.cons_append]
    rw [blanks_markup_append_cons hw₁ (by decide), char?, if_pos rfl, Option.map_some,
      blanks_markup_append_cons hw₂ hqblank]
  have hvalue : lineValue? (q :: (v ++ q :: rest)) = some (v, rest) := by
    rcases hq with rfl | rfl
    · simp only [lineValue?, Option.orElse_eq_orElse, quoted?_append hv hline rest,
        Option.orElse_some]
    · have hnone : quoted? '"' isLineBreak ('\'' :: (v ++ '\'' :: rest)) = none := by
        simp [quoted?, char?]
      simp only [lineValue?, Option.orElse_eq_orElse, hnone, Option.orElse_none]
      exact quoted?_append hv hline rest
  have hs :
      quotedText key w₁ w₂ q v ++ rest = key ++ (w₁ ++ '=' :: w₂ ++ q :: v ++ q :: rest) := by
    simp [quotedText]
  refine ⟨⟨(quotedText key w₁ w₂ q v ++ rest).length - rest.length, v⟩, ?_, ?_⟩
  simp only [inlineStyle, Recogniser.ofRest, hs, Option.bind_eq_bind, hword, Option.bind_some,
    hequals, hvalue, Option.map_some]
  · simp only [quotedText, List.length_append, List.length_cons]
    omega

end StrictCsp.Markup.Pattern

namespace StrictCsp.PartialResponse

open StrictCsp.Entropy StrictCsp.Text StrictCsp.Markup StrictCsp.Fragment
open Recogniser (Piece)

/-- Restyles every section of a response, whether or not the response passes the
styled-response test. -/
def extractSections (html : List Char) (nonce : String) : Draw (Option (List Char)) := do
  let (out, changed) ← restyleSections nonce (Recogniser.pieces Pattern.cdataSection html)
  return if 0 < changed then some out.flatten else none

/-- A response that passes the styled-response test has every section restyled. -/
theorem extractStyles_of_isStyled {html : List Char} (h : isStyled html = true)
    (nonce : String) : extractStyles html nonce = extractSections html nonce := by
  simp [extractStyles, extractSections, h]

/-- A response that mentions the marker and holds a style attribute written in quotes on one
line passes the styled-response test. -/
theorem isStyled_of_quotedIn {html : List Char} {a : Attribute} {q : Char}
    (hmark : marker <:+: html) (hstyle : a.named "style" = true) (hq : a.QuotedIn q html)
    (hline : ∀ c ∈ a.value, Pattern.isLineBreak c = false) : isStyled html = true := by
  obtain ⟨w₁, w₂, hw₁, hw₂, hquote, hv, pre, post, rfl⟩ := hq
  have hkey : a.key.map asciiLower = "style".toList := by
    have hstyle' : "style".toList.map asciiLower = "style".toList := by decide
    rwa [Attribute.named, asciiCaselessEq, beq_iff_eq, hstyle'] at hstyle
  obtain ⟨h, hm, hpos⟩ := Pattern.inlineStyle_quotedText hkey hw₁ hw₂ hquote hv hline post
  rw [isStyled, occursIn_iff_infix.mpr hmark, Bool.true_and]
  exact Recogniser.found_of_suffix hm hpos (by simp [quotedText]) ⟨pre, by simp⟩

/-- The content of a section of a response is part of the response. -/
theorem infix_of_hit_mem_pieces {html block content : List Char}
    (hsec : Piece.hit block content ∈ Recogniser.pieces Pattern.cdataSection html) :
    content <:+: html := by
  obtain ⟨hblock, -⟩ := hit_mem_pieces hsec
  have hin : block <:+: html := by
    have h := List.infix_of_mem_flatten (List.mem_map_of_mem (f := Piece.text) hsec)
    rwa [← List.flatMap_def, Recogniser.flatMap_text_pieces] at h
  exact List.IsInfix.trans ⟨Pattern.cdataOpen, Pattern.cdataClose, hblock.symm⟩ hin

/-- The text of a tag's attributes is part of its markup. -/
theorem attributeText_infix_markup (t : OpenTag) : t.attributeText <:+: t.markup :=
  (List.dropWhile_suffix _).isInfix.trans ⟨['<'], closing t.selfClosing, by simp [OpenTag.markup,
    tagMarkup]⟩

/-- A response that mentions the marker and has a section holding a tag the reader meets, with
a style attribute written in quotes on one line, passes the styled-response test; extracting its
styles is restyling every section. -/
theorem isStyled_of_quoted_style {html block content : List Char} {t : OpenTag}
    {ps : List (Attribute × Option Char)} {a : Attribute} {q : Char} (nonce : String)
    (hmark : marker <:+: html)
    (hsec : Piece.hit block content ∈ Recogniser.pieces Pattern.cdataSection html)
    (ht : t ∈ (readTags content 0).1) (hwritten : t.writtenAttributes = .ok ps)
    (hmem : (a, some q) ∈ ps) (hstyle : a.named "style" = true)
    (hline : ∀ c ∈ a.value, Pattern.isLineBreak c = false) :
    isStyled html = true ∧ extractStyles html nonce = extractSections html nonce := by
  have hquoted : a.QuotedIn q t.attributeText := by
    simpa using readWritten_quotedIn (m := .between) (x := []) trivial hwritten a q hmem
  have hin : t.attributeText <:+: html :=
    (attributeText_infix_markup t).trans
      ((markup_infix_of_mem_readTags content 0 t ht).trans (infix_of_hit_mem_pieces hsec))
  have hstyled := isStyled_of_quotedIn hmark hstyle (hquoted.mono hin) hline
  exact ⟨hstyled, extractStyles_of_isStyled hstyled nonce⟩

/-- One section with a quoted style: the gate sees it, and the fast path does what the loop does. -/
theorem isStyled_of_quoted_style_of_one_section :
    marker <:+: "<partial-response><![CDATA[<p style=\"a\">x</p>]]></partial-response>".toList ∧
      Piece.hit "<![CDATA[<p style=\"a\">x</p>]]>".toList "<p style=\"a\">x</p>".toList ∈
        Recogniser.pieces Pattern.cdataSection
          "<partial-response><![CDATA[<p style=\"a\">x</p>]]></partial-response>".toList ∧
      (⟨"p style=\"a\"".toList, false, 13⟩ : OpenTag) ∈ (readTags "<p style=\"a\">x</p>".toList 0).1 ∧
      (⟨"p style=\"a\"".toList, false, 13⟩ : OpenTag).writtenAttributes =
        .ok [(⟨"style".toList, ['a']⟩, some '"')] ∧
      isStyled "<partial-response><![CDATA[<p style=\"a\">x</p>]]></partial-response>".toList = true ∧
      extractStyles "<partial-response><![CDATA[<p style=\"a\">x</p>]]></partial-response>".toList "N" =
        extractSections "<partial-response><![CDATA[<p style=\"a\">x</p>]]></partial-response>".toList
          "N" := by
  have hmark : marker <:+:
      "<partial-response><![CDATA[<p style=\"a\">x</p>]]></partial-response>".toList := by
    decide +kernel
  have hsec : Piece.hit "<![CDATA[<p style=\"a\">x</p>]]>".toList "<p style=\"a\">x</p>".toList ∈
      Recogniser.pieces Pattern.cdataSection
        "<partial-response><![CDATA[<p style=\"a\">x</p>]]></partial-response>".toList := by
    decide +kernel
  have ht : (⟨"p style=\"a\"".toList, false, 13⟩ : OpenTag) ∈
      (readTags "<p style=\"a\">x</p>".toList 0).1 := by
    decide +kernel
  have hw : (⟨"p style=\"a\"".toList, false, 13⟩ : OpenTag).writtenAttributes =
      .ok [(⟨"style".toList, ['a']⟩, some '"')] := by
    decide +kernel
  exact ⟨hmark, hsec, ht, hw, isStyled_of_quoted_style "N" hmark hsec ht hw
    List.mem_cons_self (by decide) fun c hc => by rw [List.mem_singleton.mp hc]; decide⟩

/-- A style with a bare value: the loop over the sections restyles it, the styled-response test
stops it, and the response is left as it was. -/
theorem extractStyles_bare_style :
    isStyled "<partial-response><![CDATA[<p style=color:red>x</p>]]></partial-response>".toList =
        false ∧
      (extractStyles "<partial-response><![CDATA[<p style=color:red>x</p>]]></partial-response>".toList
        "N").run (.scripted ⟨[7], .fails⟩) = (.ok none, .scripted ⟨[7], .fails⟩) ∧
      (extractSections
        "<partial-response><![CDATA[<p style=color:red>x</p>]]></partial-response>".toList
        "N").run (.scripted ⟨[7], .fails⟩) =
        (.ok (some ("<partial-response><![CDATA[<style type=\"text/css\" nonce=\"N\">" ++
          ".cspdog-style-7 \x7b color:red \x7d </style><p class=\"cspdog-style-7\">x</p>]]>" ++
          "</partial-response>").toList), .scripted ⟨[], .fails⟩) :=
  ⟨by decide +kernel, by decide +kernel, by decide +kernel⟩

end StrictCsp.PartialResponse
