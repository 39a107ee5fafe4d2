import StrictCsp.Fragment.Segment
import StrictCsp.Fragment.TagMarkup
import Mathlib.Data.List.Forall2

/-!
# How the segment reader walks a fragment

The segment reader meets the opening tags of a fragment one after another. Each
tag it meets is a *visit*: the text read before the tag, the tag's markup and,
after the opening tag of a raw text element, the element's text through its
closing tag, which the reader skips. A fragment is walked along visits
(`Tour`) when each lead glides back to text, each markup is read as its tag,
each raw element's text runs to the first closing tag of its name, and what
follows the last visit glides back to text. A new segment starts only after a
raw element; the reader skips a byte order mark at a segment's start without
counting it, so none may stand there.

Along a walk, the reader is a plain loop over the visits: it restyles each
visit's tag at its place in the fragment and collects the edits and classes
(`segments_eq_visitAll`). A loop over visits whose tags have no style draws
nothing and finds nothing to do (`visitAll_quiet`).
-/

namespace StrictCsp.Fragment

open StrictCsp.Entropy StrictCsp.Markup StrictCsp.Text

/-- An opening tag the segment reader meets, with the text around it. -/
structure Visit where
  /-- The text read before the tag. -/
  lead : List Char
  /-- The characters between the tag's brackets, without the slash of a self-closing tag. -/
  content : List Char
  /-- The tag closes itself. -/
  selfClosing : Bool
  /-- After a raw text element's opening tag, its text through the closing tag. -/
  skip : List Char

namespace Visit

/-- The tag as written. -/
def markup (v : Visit) : List Char := tagMarkup v.content v.selfClosing

/-- The text of a visit. -/
def text (v : Visit) : List Char := v.lead ++ v.markup ++ v.skip

/-- The tag read, ending at a byte position. -/
def tag (v : Visit) (stop : Nat) : OpenTag := ⟨v.content, v.selfClosing, stop⟩

/-- The name of the tag. -/
def name (v : Visit) : List Char := (v.tag 0).name

/-- The tag opens a raw text element. -/
def isRaw (v : Visit) : Bool := !v.selfClosing && isRawTextName v.name

/-- The text before the tag glides back to text, and the markup is read as the tag. -/
structure Readable (v : Visit) : Prop where
  /-- The lead glides back to text. -/
  lead : glide .text v.lead = some .text
  /-- The markup is read as the tag. -/
  markup : TagText v.markup v.content v.selfClosing

@[simp] theorem tag_stop (v : Visit) (stop : Nat) : (v.tag stop).stop = stop := rfl

@[simp] theorem tag_name (v : Visit) (stop : Nat) : (v.tag stop).name = v.name := rfl

/-- A visit's markup is never empty. -/
theorem markup_ne_nil (v : Visit) : v.markup ≠ [] := by
  simp [markup, tagMarkup]

/-- The attributes of the tag. -/
def attributes (v : Visit) : Except AttributeFault (List Attribute) := (v.tag 0).attributes

@[simp] theorem tag_attributes (v : Visit) (stop : Nat) :
    (v.tag stop).attributes = v.attributes := rfl

/-- The attributes of the tag other than its first style, when they can be read. -/
def others (v : Visit) : List Attribute :=
  match v.attributes with
  | .ok attrs => (takeStyle attrs).2
  | .error _ => []

/-- The visit with its tag written again, a class in place of its first style. -/
def restyled (v : Visit) (cls : StyleClass) : Visit :=
  { v with
    content := v.name ++ (restyledAttributes cls.name.toList v.others).flatMap Attribute.render }

/-- The tag reads without a style attribute. -/
def Quiet (v : Visit) : Prop := ∃ attrs, v.attributes = .ok attrs ∧ (takeStyle attrs).1 = none

/-- What restyling the tag can give: nothing for a tag without a style, or a class drawn for
its first style. -/
def Restyles (v : Visit) : Option StyleClass → Prop
  | none => v.Quiet
  | some cls => ∃ attrs style, v.attributes = .ok attrs ∧ (takeStyle attrs).1 = some style ∧
      ∃ n, cls = ⟨classPrefix ++ Nat.repr n, String.ofList (Entity.decode style)⟩

end Visit

/-- The text of visits followed by a tail. -/
def textOf (vs : List Visit) (tail : List Char) : List Char := vs.flatMap Visit.text ++ tail

@[simp] theorem textOf_nil (tail : List Char) : textOf [] tail = tail := rfl

/-- The text of visits is the first visit's text, then the rest. -/
theorem textOf_cons (v : Visit) (vs : List Visit) (tail : List Char) :
    textOf (v :: vs) tail = v.text ++ textOf vs tail := by
  simp [textOf]

/-- An empty text has no visits. -/
theorem eq_nil_of_textOf_eq_nil {vs : List Visit} {tail : List Char} (h : textOf vs tail = []) :
    vs = [] := by
  cases vs with
  | nil => rfl
  | cons v vs =>
    rw [textOf_cons, Visit.text] at h
    simp only [List.append_eq_nil_iff] at h
    exact absurd h.1.1.2 v.markup_ne_nil

/-- A fragment walked along visits, then a tail. -/
inductive Tour : List Visit → List Char → Prop
  /-- What is left glides back to text: reading ends. -/
  | finish {tail : List Char} : glide .text tail = some .text → Tour [] tail
  /-- A tag that opens no raw text element: reading goes on after it. -/
  | plain {v : Visit} {vs : List Visit} {tail : List Char} : v.Readable → v.isRaw = false →
      v.skip = [] → Tour vs tail → Tour (v :: vs) tail
  /-- A raw text element whose text runs to its closing tag; a new segment starts after it. -/
  | closed {v : Visit} {vs : List Visit} {tail : List Char} : v.Readable → v.isRaw = true →
      rawTextLength? v.name v.skip = some v.skip.length →
      (textOf vs tail).head? ≠ some byteOrderMark → Tour vs tail → Tour (v :: vs) tail
  /-- A raw text element never closed: the rest of the fragment is its text. -/
  | unclosed {v : Visit} : v.Readable → v.isRaw = true → rawTextLength? v.name v.skip = none →
      Tour [v] []

section RawText

/-- Lowering keeps the byte length. -/
theorem byteLength_map_asciiLower (s : List Char) :
    byteLength (s.map asciiLower) = byteLength s := by
  induction s with
  | nil => rfl
  | cons c cs ih => simp [ih, utf8Size_asciiLower]

/-- The closing tag of a raw text element is found within its text, whatever follows. -/
theorem rawTextLength?_append {name skip : List Char}
    (h : rawTextLength? name skip = some skip.length) (rest : List Char) :
    rawTextLength? name (skip ++ rest) = some skip.length := by
  simp only [rawTextLength?, Option.bind_eq_bind, Option.bind_eq_some_iff, Option.pure_def,
    Option.some.injEq] at h
  obtain ⟨i, hi, j, hj, hlen⟩ := h
  have hle : i ≤ (skip.map asciiLower).length := by simp; omega
  simp only [rawTextLength?, List.map_append, findFrom?_append_of_eq_some hi,
    List.drop_append_of_le_length hle, findFrom?_append_of_eq_some hj, Option.bind_eq_bind,
    Option.bind_some, Option.pure_def, hlen]

/-- The name of a raw text element, lowered, holds no closing bracket. -/
theorem gt_not_mem_of_isRawTextName {name : List Char} (h : isRawTextName name = true) :
    '>' ∉ name.map asciiLower := by
  simp only [isRawTextName, asciiCaselessEq, Bool.or_eq_true, beq_iff_eq] at h
  rcases h with h | h <;> rw [h] <;> decide

/-- The first `>` after the closing tag's start lies past the whole closing tag's name. -/
theorem length_le_findFrom?_gt {name rest : List Char} (hname : '>' ∉ name.map asciiLower)
    {closeAt gt : Nat}
    (hclose : findFrom? ('<' :: '/' :: name.map asciiLower) rest = some closeAt)
    (hgt : findFrom? ['>'] (rest.drop closeAt) = some gt) :
    ('<' :: '/' :: name.map asciiLower).length ≤ gt := by
  obtain ⟨B, hB⟩ := List.isPrefixOf_iff_prefix.mp (isPrefixOf_drop_findFrom? hclose)
  have hfound := isPrefixOf_drop_findFrom? hgt
  by_contra hlt
  rw [← hB, List.drop_append_of_le_length (by omega)] at hfound
  obtain ⟨d, ds, hd⟩ := List.exists_cons_of_ne_nil (l := ('<' :: '/' :: name.map asciiLower).drop gt)
    (by simp only [ne_eq, List.drop_eq_nil_iff]; omega)
  rw [hd, List.cons_append] at hfound
  have hdgt : '>' = d := by simpa using hfound
  have hmem : '>' ∈ '<' :: '/' :: name.map asciiLower :=
    hdgt.symm ▸ List.mem_of_mem_drop (hd ▸ List.mem_cons_self)
  simp only [List.mem_cons] at hmem
  rcases hmem with h | h | h
  · exact absurd h (by decide)
  · exact absurd h (by decide)
  · exact hname h

/-- The text of a raw text element through its closing tag, taken on its own, still ends at that
closing tag. -/
theorem rawTextLength?_take {name rest : List Char} (hname : isRawTextName name = true) {n : Nat}
    (h : rawTextLength? name rest = some n) :
    rawTextLength? name (rest.take n) = some (rest.take n).length := by
  simp only [rawTextLength?, Option.bind_eq_bind, Option.bind_eq_some_iff, Option.pure_def,
    Option.some.injEq] at h
  obtain ⟨closeAt, hclose, gt, hgt, rfl⟩ := h
  have hpast := length_le_findFrom?_gt (gt_not_mem_of_isRawTextName hname) hclose hgt
  have hfit := findFrom?_fits hgt
  simp only [List.length_drop, List.length_map, List.length_cons] at hfit hpast
  have hlen : (rest.take (closeAt + gt + 1)).length = closeAt + gt + 1 := by
    simp only [List.length_take]
    omega
  have hcloseAt : findFrom? ('<' :: '/' :: name.map asciiLower)
      ((rest.map asciiLower).take (closeAt + gt + 1)) = some closeAt :=
    findFrom?_take hclose (by simp; omega)
  have hgtAt : findFrom? ['>'] (((rest.map asciiLower).drop closeAt).take (closeAt + gt + 1 - closeAt)) =
      some gt :=
    findFrom?_take hgt (by simp; omega)
  rw [hlen]
  simp only [rawTextLength?, List.map_take, hcloseAt, List.drop_take, hgtAt, Option.bind_eq_bind,
    Option.bind_some, Option.pure_def]

/-- After the opening tag of a raw text element, reading resumes right after its text. -/
theorem rawTextEnd_append {name skip : List Char}
    (h : rawTextLength? name skip = some skip.length) (u rest : List Char) :
    rawTextEnd (u ++ skip ++ rest) (byteLength u) name = some (byteLength u + byteLength skip) := by
  have htake : ((skip ++ rest).map asciiLower).take skip.length = skip.map asciiLower := by
    simp
  simp only [rawTextEnd, List.append_assoc, dropBytes?_append, rawTextLength?_append h,
    Option.bind_eq_bind, Option.bind_some, Option.pure_def, htake, byteLength_map_asciiLower]

/-- A raw text element whose closing tag is never found ends the reading. -/
theorem rawTextEnd_of_none {name skip : List Char} (h : rawTextLength? name skip = none)
    (u : List Char) : rawTextEnd (u ++ skip) (byteLength u) name = none := by
  simp [rawTextEnd, dropBytes?_append, h]

/-- The raw text element a visit opens and closes, searched for from the end of its tag in any
text around the visit, ends where the visit does. -/
theorem Visit.rawTextEnd_closed {v : Visit}
    (hclose : rawTextLength? v.name v.skip = some v.skip.length) (u rest : List Char) :
    rawTextEnd (u ++ v.text ++ rest) (byteLength (u ++ v.lead ++ v.markup)) v.name =
      some (byteLength (u ++ v.text)) := by
  have h := rawTextEnd_append hclose (u ++ v.lead ++ v.markup) rest
  rwa [← byteLength_append, show u ++ v.lead ++ v.markup ++ v.skip = u ++ v.text by
    simp [Visit.text]] at h

end RawText

section Loop

/-- What the segment reader does with the reading of a segment that starts at a byte offset. -/
def segmentRest (fragment : List Char) (offset : Nat) (reading : List OpenTag × Ending) :
    Draw (List Edit × List StyleClass) := do
  let (edits, classes, next) ← handleTags fragment offset reading.1 reading.2
  match next with
  | .done => pure (edits, classes)
  | .resumeAt resume =>
    if offset < resume then
      let (moreEdits, moreClasses) ← segments fragment resume
      pure (edits ++ moreEdits, classes ++ moreClasses)
    else pure (edits, classes)

/-- Restyles the tags of visits in order, the first visit starting at a byte offset. -/
def visitAll (fragment : List Char) : Nat → List Visit → Draw (List Edit × List StyleClass)
  | _, [] => pure ([], [])
  | pos, v :: vs => do
    let stop := pos + byteLength (v.lead ++ v.markup)
    let (edits, classes) ← restyleAt fragment stop (v.tag stop)
    let (moreEdits, moreClasses) ← visitAll fragment (pos + byteLength v.text) vs
    pure (edits ++ moreEdits, classes ++ moreClasses)

variable {fragment : List Char} {offset : Nat}

/-- Restyling from an offset inside the fragment restyles the tags of the segment read there, then
goes on where that segment says. -/
theorem segments_eq_segmentRest {rest : List Char} (hlt : offset < byteLength fragment)
    (h : dropBytes? fragment offset = some rest) :
    segments fragment offset = segmentRest fragment offset (read rest) := by
  rw [segments, if_pos hlt, h]
  rfl

/-- A segment read to its end with no tag restyles nothing. -/
theorem segmentRest_finished : segmentRest fragment offset ([], .finished) = pure ([], []) := by
  simp [segmentRest, handleTags]

/-- A tag that opens no raw text element is restyled, and the segment goes on after it. -/
theorem segmentRest_cons_plain {t : OpenTag} (ht : (!t.selfClosing && isRawTextName t.name) = false)
    (ts : List OpenTag) (ending : Ending) :
    segmentRest fragment offset (t :: ts, ending) = (do
      let (edits, classes) ← restyleAt fragment (offset + t.stop) t
      let (moreEdits, moreClasses) ← segmentRest fragment offset (ts, ending)
      pure (edits ++ moreEdits, classes ++ moreClasses)) := by
  simp only [segmentRest, handleTags, ht, Bool.false_eq_true, if_false, bind_assoc]
  congr
  funext r
  obtain ⟨edits, classes⟩ := r
  congr
  funext r'
  obtain ⟨moreEdits, moreClasses, next⟩ := r'
  cases next with
  | done => simp
  | resumeAt resume =>
    simp only [pure_bind]
    split <;> simp [List.append_assoc]

/-- The opening tag of a raw text element is restyled, and reading starts a new segment past its
closing tag, if there is one. -/
theorem segmentRest_cons_raw {t : OpenTag} (ht : (!t.selfClosing && isRawTextName t.name) = true)
    (ts : List OpenTag) (ending : Ending) :
    segmentRest fragment offset (t :: ts, ending) = (do
      let (edits, classes) ← restyleAt fragment (offset + t.stop) t
      match rawTextEnd fragment (offset + t.stop) t.name with
      | some resume =>
        if offset < resume then
          let (moreEdits, moreClasses) ← segments fragment resume
          pure (edits ++ moreEdits, classes ++ moreClasses)
        else pure (edits, classes)
      | none => pure (edits, classes)) := by
  simp only [segmentRest, handleTags, ht, if_true, bind_assoc]
  congr
  funext r
  obtain ⟨edits, classes⟩ := r
  cases rawTextEnd fragment (offset + t.stop) t.name with
  | none => simp
  | some resume => simp

/-- A text that does not start with a byte order mark is read from text mode at its start. -/
theorem read_eq_run {s : List Char} (h : s.head? ≠ some byteOrderMark) :
    read s = run .text 0 s := by
  cases s with
  | nil => rfl
  | cons c cs =>
    have hc : c ≠ byteOrderMark := fun hc => h (by rw [hc]; rfl)
    simp [read, hc]

/-- Read from text mode, a visit's lead and markup give its tag; reading goes on after it. -/
theorem Visit.Readable.run_eq {v : Visit} (h : v.Readable) (pos : Nat) (rest : List Char) :
    run .text pos (v.lead ++ v.markup ++ rest) =
      (v.tag (pos + byteLength (v.lead ++ v.markup)) ::
        (run .text (pos + byteLength (v.lead ++ v.markup)) rest).1,
        (run .text (pos + byteLength (v.lead ++ v.markup)) rest).2) := by
  rw [List.append_assoc, run_append_of_glide h.lead, h.markup, byteLength_append, Nat.add_assoc]
  rfl

/-- Restyling a visit's tag does not look at where the tag ends. -/
theorem restyleAt_visit (stop : Nat) (v : Visit) (a b : Nat) :
    restyleAt fragment stop (v.tag a) = restyleAt fragment stop (v.tag b) := rfl

/-- Where the text of visits is all read from its start, the segment reader is the loop over the
visits. -/
theorem segments_eq_visitAll_of {vs : List Visit} {tail : List Char}
    (hbom : (textOf vs tail).head? ≠ some byteOrderMark)
    (hrest : ∀ (u : List Char) (offset pos : Nat), byteLength u = offset + pos →
      segmentRest (u ++ textOf vs tail) offset (run .text pos (textOf vs tail)) =
        visitAll (u ++ textOf vs tail) (offset + pos) vs) (u : List Char) :
    segments (u ++ textOf vs tail) (byteLength u) =
      visitAll (u ++ textOf vs tail) (byteLength u) vs := by
  by_cases hnil : textOf vs tail = []
  · obtain rfl := eq_nil_of_textOf_eq_nil hnil
    rw [hnil, segments, if_neg (by simp)]
    rfl
  · have hlt : byteLength u < byteLength (u ++ textOf vs tail) := by
      rw [byteLength_append]
      have := byteLength_pos hnil
      omega
    rw [segments_eq_segmentRest hlt (dropBytes?_append u _), read_eq_run hbom,
      hrest u (byteLength u) 0 rfl]
    rfl

/-- Along a walk, what the reader does after each segment is the loop over the rest of the visits. -/
theorem segmentRest_of_tour {vs : List Visit} {tail : List Char} (h : Tour vs tail) :
    ∀ (u : List Char) (offset pos : Nat), byteLength u = offset + pos →
      segmentRest (u ++ textOf vs tail) offset (run .text pos (textOf vs tail)) =
        visitAll (u ++ textOf vs tail) (offset + pos) vs := by
  induction h with
  | @finish tail hglide =>
    intro u offset pos _
    have hrun : run .text pos tail = ([], .finished) := by
      rw [← List.append_nil tail, run_append_of_glide hglide]
      rfl
    rw [textOf_nil, hrun, segmentRest_finished]
    rfl
  | @plain v vs tail hv hraw hskip _ ih =>
    intro u offset pos hu
    have htext : textOf (v :: vs) tail = v.lead ++ v.markup ++ textOf vs tail := by
      rw [textOf_cons, Visit.text, hskip, List.append_nil]
    have hfrag : u ++ (v.lead ++ v.markup ++ textOf vs tail) =
        u ++ v.lead ++ v.markup ++ textOf vs tail := by simp
    have hnext : offset + (pos + byteLength (v.lead ++ v.markup)) =
        offset + pos + byteLength v.text := by
      simp [Visit.text, hskip]
      omega
    rw [htext, hv.run_eq, segmentRest_cons_plain (t := v.tag (pos + byteLength (v.lead ++ v.markup)))
      hraw, Visit.tag_stop, Prod.eta, hfrag, ← Nat.add_assoc,
      ih (u ++ v.lead ++ v.markup) offset _ (by simp at hu ⊢; omega), hnext, visitAll,
      restyleAt_visit _ v _ (offset + pos + byteLength (v.lead ++ v.markup))]
  | @closed v vs tail hv hraw hclose hbom _ ih =>
    intro u offset pos hu
    have htext : textOf (v :: vs) tail = v.lead ++ v.markup ++ (v.skip ++ textOf vs tail) := by
      simp [textOf_cons, Visit.text]
    have hfrag : u ++ (v.lead ++ v.markup ++ (v.skip ++ textOf vs tail)) =
        u ++ v.text ++ textOf vs tail := by simp [Visit.text]
    have hstop : offset + (pos + byteLength (v.lead ++ v.markup)) =
        byteLength (u ++ v.lead ++ v.markup) := by
      simp at hu ⊢
      omega
    have hresume : byteLength (u ++ v.text) = offset + pos + byteLength v.text := by
      simp at hu ⊢
      omega
    have hlt : offset < byteLength (u ++ v.text) := by
      have := byteLength_pos v.markup_ne_nil
      simp [Visit.text] at hu ⊢
      omega
    rw [htext, hv.run_eq, segmentRest_cons_raw (t := v.tag (pos + byteLength (v.lead ++ v.markup)))
      hraw, hfrag, Visit.tag_stop, Visit.tag_name, hstop, v.rawTextEnd_closed hclose]
    simp only [if_pos hlt]
    rw [segments_eq_visitAll_of hbom ih (u ++ v.text), hresume, visitAll, ← hstop, ← Nat.add_assoc,
      restyleAt_visit _ v _ (offset + pos + byteLength (v.lead ++ v.markup))]
  | @unclosed v hv hraw hnone =>
    intro u offset pos hu
    have htext : textOf [v] [] = v.lead ++ v.markup ++ v.skip := by
      simp [textOf, Visit.text]
    have hstop : offset + (pos + byteLength (v.lead ++ v.markup)) =
        byteLength (u ++ v.lead ++ v.markup) := by
      simp at hu ⊢
      omega
    rw [htext, hv.run_eq, segmentRest_cons_raw (t := v.tag (pos + byteLength (v.lead ++ v.markup)))
      hraw, Visit.tag_stop, Visit.tag_name, hstop,
      show u ++ (v.lead ++ v.markup ++ v.skip) = u ++ v.lead ++ v.markup ++ v.skip by simp,
      rawTextEnd_of_none hnone, visitAll, visitAll, ← hstop, ← Nat.add_assoc,
      restyleAt_visit _ v _ (offset + pos + byteLength (v.lead ++ v.markup))]
    simp

/-- Along a walk, the segment reader is the loop over the visits. -/
theorem segments_eq_visitAll {vs : List Visit} {tail : List Char} (h : Tour vs tail)
    (hbom : (textOf vs tail).head? ≠ some byteOrderMark) (u : List Char) :
    segments (u ++ textOf vs tail) (byteLength u) =
      visitAll (u ++ textOf vs tail) (byteLength u) vs :=
  segments_eq_visitAll_of hbom (segmentRest_of_tour h) u

/-- A whole fragment, read from its start, is restyled along its walk. -/
theorem segments_zero_eq_visitAll {vs : List Visit} {tail : List Char} (h : Tour vs tail)
    (hbom : (textOf vs tail).head? ≠ some byteOrderMark) :
    segments (textOf vs tail) 0 = visitAll (textOf vs tail) 0 vs :=
  segments_eq_visitAll h hbom []

end Loop

section Restyling

variable {v : Visit}

/-- A tag without a style is not restyled. -/
theorem restyle_of_quiet (h : v.Quiet) (stop : Nat) : restyle (v.tag stop) = pure none := by
  obtain ⟨attrs, hattrs, hnone⟩ := h
  rcases hts : takeStyle attrs with ⟨_ | style, others⟩
  · simp [restyle, hattrs, hts]
  · rw [hts] at hnone
    cases hnone

/-- A loop over visits whose tags have no style draws nothing and edits nothing. -/
theorem visitAll_quiet {fragment : List Char} :
    ∀ {vs : List Visit}, (∀ v ∈ vs, v.Quiet) → ∀ pos, visitAll fragment pos vs = pure ([], [])
  | [], _, _ => rfl
  | v :: vs, h, pos => by
    rw [visitAll, restyleAt, restyle_of_quiet (h v List.mem_cons_self),
      visitAll_quiet (fun w hw => h w (List.mem_cons_of_mem v hw))]
    simp

/-- A tag written again is the markup of its name and written attributes. -/
theorem renderTag_eq_tagMarkup (name : List Char) (attrs : List Attribute) (sc : Bool) :
    renderTag name attrs sc = tagMarkup (name ++ attrs.flatMap Attribute.render) sc := by
  cases sc <;> simp [renderTag, tagMarkup, closing]

/-- A tag's markup takes its content and two bytes, or three for a self-closing tag. -/
theorem byteLength_tagMarkup (content : List Char) (sc : Bool) :
    byteLength (tagMarkup content sc) = byteLength content + (if sc then 3 else 2) := by
  have hlt : ('<' : Char).utf8Size = 1 := rfl
  have hgt : ('>' : Char).utf8Size = 1 := rfl
  have hslash : ('/' : Char).utf8Size = 1 := rfl
  cases sc <;> simp [tagMarkup, closing, hlt, hgt, hslash] <;> omega

/-- A draw for a style gives a fresh class named after the value drawn. -/
theorem draw_run_ok {declarations : String} {src src' : Source} {cls : StyleClass}
    (h : (StyleClass.draw declarations).run src = (.ok cls, src')) :
    ∃ n, cls = ⟨classPrefix ++ Nat.repr n, declarations⟩ := by
  obtain ⟨x, _, _, hx⟩ := Draw.run_bind_eq_ok h
  simp only [Draw.run_pure, Prod.mk.injEq, Except.ok.injEq] at hx
  exact ⟨unsignedAbs x, hx.1.symm⟩

/-- Restyling a visit's tag gives nothing for a tag without a style, and otherwise a drawn class
and the visit written again with it. -/
theorem restyle_run_ok {stop : Nat} {src src' : Source} {r : Option Restyled}
    (h : (restyle (v.tag stop)).run src = (.ok r, src')) :
    ∃ c, v.Restyles c ∧ r = c.map fun cls => ⟨cls, (v.restyled cls).markup⟩ := by
  unfold restyle at h
  rw [Visit.tag_attributes] at h
  rcases hattrs : v.attributes with fault | attrs
  · rw [hattrs] at h
    cases h
  simp only [hattrs] at h
  rcases hts : takeStyle attrs with ⟨_ | style, others⟩
  · rw [hts] at h
    simp only [Draw.run_pure, Prod.mk.injEq, Except.ok.injEq] at h
    exact ⟨none, ⟨attrs, hattrs, by rw [hts]⟩, h.1.symm⟩
  · rw [hts] at h
    obtain ⟨cls, _, hdraw, hpure⟩ := Draw.run_bind_eq_ok h
    simp only [Draw.run_pure, Prod.mk.injEq, Except.ok.injEq] at hpure
    obtain ⟨n, rfl⟩ := draw_run_ok hdraw
    have hothers : v.others = others := by simp [Visit.others, hattrs, hts]
    refine ⟨some _, ⟨attrs, style, hattrs, by rw [hts], n, rfl⟩, ?_⟩
    rw [← hpure.1, Option.map_some, Visit.restyled, hothers, renderTag_eq_tagMarkup]
    rfl

/-- The span of a tag is found from where it ends and the length of its content. The first length
tried is that of the markup, which starts with `<` and ends as it should. -/
theorem locateTag_markup (u w content : List Char) (sc : Bool) :
    locateTag (u ++ tagMarkup content sc ++ w) (byteLength content)
        (byteLength u + byteLength (tagMarkup content sc)) sc =
      some (byteLength u, byteLength u + byteLength (tagMarkup content sc)) := by
  have hslice := sliceBytes?_append u (tagMarkup content sc) w
  have hends : (tagMarkup content sc).head? = some '<' ∧
      (closing sc).reverse <+: (tagMarkup content sc).reverse := by
    simp [tagMarkup]
  rw [byteLength_tagMarkup] at hslice ⊢
  cases sc with
  | false =>
    rw [if_neg Bool.false_ne_true] at hslice ⊢
    simp only [locateTag, Bool.false_eq_true, if_false, List.findSome?_cons, List.findSome?_nil,
      show byteLength content + 2 ≤ byteLength u + (byteLength content + 2) by omega, if_true,
      show byteLength u + (byteLength content + 2) - (byteLength content + 2) = byteLength u
        by omega, hslice]
    rw [if_pos (by simpa [closing, List.isPrefixOf_iff_prefix] using hends)]
  | true =>
    rw [if_pos rfl] at hslice ⊢
    simp only [locateTag, if_true, List.findSome?_cons,
      show byteLength content + 3 ≤ byteLength u + (byteLength content + 3) by omega,
      show byteLength u + (byteLength content + 3) - (byteLength content + 3) = byteLength u
        by omega, hslice]
    rw [if_pos (by simpa [closing, List.isPrefixOf_iff_prefix] using hends)]

/-- Restyling a visit's tag at its place gives the edit of its span, if it has a style. -/
theorem restyleAt_run {u w : List Char} {stop : Nat} {src src' : Source}
    {edits : List Edit} {classes : List StyleClass}
    (h : (restyleAt (u ++ v.lead ++ v.markup ++ w) (byteLength (u ++ v.lead ++ v.markup))
      (v.tag stop)).run src = (.ok (edits, classes), src')) :
    ∃ c, v.Restyles c ∧
      edits = c.toList.map (fun cls => ⟨byteLength (u ++ v.lead),
        byteLength (u ++ v.lead ++ v.markup), (v.restyled cls).markup⟩) ∧ classes = c.toList := by
  obtain ⟨r, mid, hr, hrest⟩ := Draw.run_bind_eq_ok h
  obtain ⟨c, hc, rfl⟩ := restyle_run_ok hr
  cases c with
  | none =>
    simp only [Option.map_none, Draw.run_pure, Prod.mk.injEq, Except.ok.injEq] at hrest
    obtain ⟨⟨rfl, rfl⟩, -⟩ := hrest
    exact ⟨none, hc, rfl, rfl⟩
  | some cls =>
    have hloc := locateTag_markup (u ++ v.lead) w v.content v.selfClosing
    rw [← Visit.markup, ← byteLength_append] at hloc
    simp only [Option.map_some, Visit.tag, List.append_assoc] at hrest
    simp only [List.append_assoc] at hloc
    rw [hloc] at hrest
    simp only [Draw.run_pure, Prod.mk.injEq, Except.ok.injEq] at hrest
    obtain ⟨⟨rfl, rfl⟩, -⟩ := hrest
    exact ⟨some cls, hc, by simp, rfl⟩

/-- The edits of restyled visits: each styled tag's span replaced by the tag written again. -/
def editsOf : Nat → List Visit → List (Option StyleClass) → List Edit
  | pos, v :: vs, c :: cs =>
    c.toList.map (fun cls => ⟨pos + byteLength v.lead, pos + byteLength (v.lead ++ v.markup),
      (v.restyled cls).markup⟩) ++ editsOf (pos + byteLength v.text) vs cs
  | _, _, _ => []

/-- A loop over visits that succeeds restyles each visit's tag in turn: its edits replace the
spans of the styled tags, and its classes are those drawn for them. -/
theorem visitAll_run : ∀ {vs : List Visit} {u tail : List Char} {src src' : Source}
    {edits : List Edit} {classes : List StyleClass},
    (visitAll (u ++ textOf vs tail) (byteLength u) vs).run src = (.ok (edits, classes), src') →
    ∃ cs, List.Forall₂ Visit.Restyles vs cs ∧ edits = editsOf (byteLength u) vs cs ∧
      classes = cs.reduceOption
  | [], u, tail, src, src', edits, classes, h => by
    simp only [visitAll, Draw.run_pure, Prod.mk.injEq, Except.ok.injEq] at h
    obtain ⟨⟨rfl, rfl⟩, -⟩ := h
    exact ⟨[], .nil, rfl, rfl⟩
  | v :: vs, u, tail, src, src', edits, classes, h => by
    rw [visitAll] at h
    obtain ⟨⟨e, c⟩, mid, hfirst, hmore⟩ := Draw.run_bind_eq_ok h
    obtain ⟨⟨me, mc⟩, mid', hrest, hpure⟩ := Draw.run_bind_eq_ok hmore
    simp only [Draw.run_pure, Prod.mk.injEq, Except.ok.injEq] at hpure
    obtain ⟨⟨rfl, rfl⟩, -⟩ := hpure
    have hfrag : u ++ textOf (v :: vs) tail =
        u ++ v.lead ++ v.markup ++ (v.skip ++ textOf vs tail) := by
      simp [textOf_cons, Visit.text]
    have hstop : byteLength u + byteLength (v.lead ++ v.markup) =
        byteLength (u ++ v.lead ++ v.markup) := by
      simp
    rw [hfrag, hstop] at hfirst
    obtain ⟨c₀, hc₀, rfl, rfl⟩ := restyleAt_run hfirst
    have hnext : byteLength u + byteLength v.text = byteLength (u ++ v.text) := by simp
    rw [show u ++ textOf (v :: vs) tail = u ++ v.text ++ textOf vs tail by simp [textOf_cons],
      hnext] at hrest
    obtain ⟨cs, hcs, rfl, rfl⟩ := visitAll_run hrest
    refine ⟨c₀ :: cs, .cons hc₀ hcs, ?_, ?_⟩
    · simp [editsOf]
    · cases c₀ <;> rfl

end Restyling

end StrictCsp.Fragment
