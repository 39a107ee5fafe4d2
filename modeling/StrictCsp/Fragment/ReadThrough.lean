import StrictCsp.Fragment.TagPlaces

/-!
# Fragments the reader reads through

The segment reader reads a fragment through when no segment starts with a byte
order mark and it never stops on markup it cannot read (`ReadsThrough`). Such a
fragment is walked along visits (`ReadsThrough.walked`): each tag the reader
meets gives a visit, and each raw text element it skips gives its visit's text
through the closing tag. Conversely, along a walk the reader meets exactly the
walk's tags (`readTags_of_tour`). So a fragment that does not start with a byte
order mark has a walk exactly when the reader reads it through
(`readsThrough_iff`), and the tags of its walk are the tags the reader meets.
-/

namespace StrictCsp.Fragment

open StrictCsp.Text

/-- A text is walked along some visits, then a tail. -/
def Walked (s : List Char) : Prop := ∃ vs tail, textOf vs tail = s ∧ Tour vs tail

/-- The segment reader reads a fragment through: no segment starts with a byte order mark, and
reading never stops on markup it cannot read. -/
structure ReadsThrough (fragment : List Char) : Prop where
  /-- The fragment does not start with a byte order mark. -/
  start : fragment.head? ≠ some byteOrderMark
  /-- No segment after a raw text element starts with one. -/
  resumes : ∀ t ∈ (readTags fragment 0).1, t.ResumesWithoutMark fragment
  /-- Every segment's markup can be read. -/
  readable : (readTags fragment 0).2 = none

/-- The empty text is walked along no visits. -/
theorem walked_nil : Walked [] := ⟨[], [], rfl, .finish rfl⟩

section Building

variable {fragment : List Char} {offset : Nat}

/-- A segment read from text mode is walked when its markup can be read, and the text after the
raw text element that ends it, if one does, starts without a byte order mark and is walked. -/
theorem walked_of_run : ∀ {tags : List OpenTag} {ending : Ending} {W S : List Char} {pos : Nat},
    run .text pos S = (tags, ending) → fragment = W ++ S → byteLength W = offset + pos →
    (segmentTags fragment offset tags ending).2.1 = none →
    (∀ resume rest, (segmentTags fragment offset tags ending).2.2 = .resumeAt resume →
      dropBytes? fragment resume = some rest → rest.head? ≠ some byteOrderMark ∧ Walked rest) →
    Walked S
  | [], .finished, _, S, _, hrun, _, _, _, _ => ⟨[], S, rfl, .finish (glide_of_run_finished hrun)⟩
  | [], .malformed, _, _, _, _, _, _, hfault, _ => by cases hfault
  | t :: ts, ending, W, S, pos, hrun, hfrag, hpos, hfault, hnext => by
    obtain ⟨X, R, hS, hglide, htag, -, hstop, hrest⟩ := run_text_eq_cons (congrArg Prod.fst hrun)
    rw [hrun] at hrest
    have hv : ∀ skip, Visit.Readable ⟨X, t.content, t.selfClosing, skip⟩ := fun _ => ⟨hglide, htag⟩
    have hat : offset + t.stop = byteLength (W ++ X ++ tagMarkup t.content t.selfClosing) := by
      rw [hstop]
      simp only [byteLength_append] at hpos ⊢
      omega
    cases hraw : (!t.selfClosing && isRawTextName t.name) with
    | false =>
      rw [segmentTags_cons_plain hraw] at hfault hnext
      obtain ⟨vs, tail, htext, htour⟩ := walked_of_run hrest
        (by rw [hfrag, hS]; simp) hat.symm hfault hnext
      refine ⟨⟨X, t.content, t.selfClosing, []⟩ :: vs, tail, ?_, .plain (hv []) hraw rfl htour⟩
      rw [textOf_cons, htext, hS]
      simp [Visit.text, Visit.markup]
    | true =>
      rw [segmentTags_cons_raw hraw] at hnext
      have hname : isRawTextName t.name = true := (Bool.and_eq_true _ _ ▸ hraw).2
      rcases hlen : rawTextLength? t.name R with _ | n
      · refine ⟨[⟨X, t.content, t.selfClosing, R⟩], [], ?_, .unclosed (hv R) hraw hlen⟩
        simp [textOf, Visit.text, Visit.markup, hS]
      · have hclose := rawTextLength?_take hname hlen
        let v : Visit := ⟨X, t.content, t.selfClosing, R.take n⟩
        have hsplit : fragment = W ++ v.text ++ R.drop n := by
          rw [hfrag, hS]
          simp [v, Visit.text, Visit.markup]
        have hend : rawTextEnd fragment (offset + t.stop) t.name = some (byteLength (W ++ v.text)) := by
          rw [hsplit, hat]
          exact v.rawTextEnd_closed hclose W _
        obtain ⟨hhead, vs, tail, htext, htour⟩ := hnext (byteLength (W ++ v.text)) (R.drop n)
          (by simp only [hend]) (by rw [hsplit]; exact dropBytes?_append _ _)
        refine ⟨v :: vs, tail, ?_, .closed (hv _) hraw hclose (htext ▸ hhead) htour⟩
        rw [textOf_cons, htext, hS]
        simp [v, Visit.text, Visit.markup]

/-- What follows a byte offset is walked when the reader, from there on, starts no segment with a
byte order mark and never stops on markup it cannot read. -/
theorem walked_of_readTags (fragment : List Char) (offset : Nat) :
    ∀ rest, dropBytes? fragment offset = some rest → rest.head? ≠ some byteOrderMark →
      (∀ t ∈ (readTags fragment offset).1, t.ResumesWithoutMark fragment) →
      (readTags fragment offset).2 = none → Walked rest := by
  fun_induction readTags fragment offset with
  | case1 offset hlt hdrop =>
    intro rest hrest
    rw [hdrop] at hrest
    cases hrest
  | case2 offset hlt rest hdrop here fault hseg =>
    intro rest' hrest hbom _ hread
    rw [hdrop, Option.some.injEq] at hrest
    subst hrest
    obtain ⟨W, hfrag, hW⟩ := dropBytes?_eq_some hdrop
    have hrun : run .text 0 rest = ((read rest).1, (read rest).2) := by rw [← read_eq_run hbom]
    refine walked_of_run hrun hfrag hW (by rw [hseg]; exact hread) ?_
    rw [hseg]
    intro _ _ hnext
    cases hnext
  | case3 offset hlt rest hdrop here fault resume hseg hres more fault' hmore ih =>
    intro rest' hrest hbom hresumes hread
    rw [hdrop, Option.some.injEq] at hrest
    subst hrest
    obtain ⟨W, hfrag, hW⟩ := dropBytes?_eq_some hdrop
    have hrun : run .text 0 rest = ((read rest).1, (read rest).2) := by rw [← read_eq_run hbom]
    obtain ⟨pre, last, hlast, hraw, hend⟩ := segmentTags_resumeAt (by rw [hseg])
    rw [hseg] at hlast
    refine walked_of_run hrun hfrag hW (segmentTags_fault_of_resumeAt (by rw [hseg])) ?_
    rw [hseg]
    intro resume' next hnext hdrop'
    cases hnext
    have hlastMem : last ∈ here ++ more := by
      simp only at hlast
      rw [hlast]
      simp
    have hhead := hresumes last hlastMem hraw resume next hend hdrop'
    refine ⟨hhead, ih next hdrop' hhead ?_ ?_⟩
    · rw [hmore]
      exact fun t ht => hresumes t (List.mem_append_right _ ht)
    · rw [hmore]
      exact hread
  | case4 offset hlt rest hdrop here fault resume hseg hres =>
    obtain ⟨pre, last, hlast, -, hend⟩ := segmentTags_resumeAt (by rw [hseg])
    have hord := segmentTags_inOrder fragment offset rest
    rw [hseg] at hord hlast
    have hpast := hord.past last (by rw [hlast]; simp)
    have := rawTextEnd_le hend
    have := byteLength_pos last.markup_ne_nil
    omega
  | case5 offset hge =>
    intro rest hrest _ _ _
    obtain ⟨W, hfrag, hW⟩ := dropBytes?_eq_some hrest
    have hempty : rest = [] := by
      by_contra hne
      have := byteLength_pos hne
      rw [hfrag, byteLength_append] at hge
      omega
    rw [hempty]
    exact walked_nil

/-- A fragment the reader reads through is walked. -/
theorem ReadsThrough.walked (h : ReadsThrough fragment) : Walked fragment :=
  walked_of_readTags fragment 0 fragment (dropBytes?_append [] fragment) h.start h.resumes
    h.readable

end Building

section Along

/-- The tags of visits, each ending where its visit puts it, the first visit starting at a byte
offset. -/
def tagsOf : Nat → List Visit → List OpenTag
  | _, [] => []
  | pos, v :: vs =>
    v.tag (pos + byteLength (v.lead ++ v.markup)) :: tagsOf (pos + byteLength v.text) vs

/-- Every visit gives one of the tags. -/
theorem exists_tag_mem_tagsOf : ∀ {vs : List Visit} {v : Visit} (pos : Nat), v ∈ vs →
    ∃ stop, v.tag stop ∈ tagsOf pos vs
  | [], _, _, h => absurd h List.not_mem_nil
  | w :: ws, v, pos, h => by
    rcases List.mem_cons.mp h with rfl | h
    · exact ⟨_, List.mem_cons_self⟩
    · obtain ⟨stop, hs⟩ := exists_tag_mem_tagsOf (pos + byteLength w.text) h
      exact ⟨stop, List.mem_cons_of_mem _ hs⟩

/-- What the reader meets after reading a segment that starts at a byte offset. -/
def readRest (fragment : List Char) (offset : Nat) (reading : List OpenTag × Ending) :
    List OpenTag × Option Nat :=
  match segmentTags fragment offset reading.1 reading.2 with
  | (here, fault, .done) => (here, fault)
  | (here, fault, .resumeAt resume) =>
    if offset < resume then
      let (more, fault') := readTags fragment resume
      (here ++ more, fault')
    else (here, fault)

variable {fragment : List Char} {offset : Nat}

/-- The tags met from an offset inside the fragment are those of the segment read there, then
those met where that segment says to go on. -/
theorem readTags_eq_readRest {rest : List Char} (hlt : offset < byteLength fragment)
    (h : dropBytes? fragment offset = some rest) :
    readTags fragment offset = readRest fragment offset (read rest) := by
  rw [readTags, if_pos hlt, h]
  rfl

/-- A segment read to its end with no tag hands on nothing and no fault. -/
theorem readRest_finished : readRest fragment offset ([], .finished) = ([], none) := rfl

/-- A tag that opens no raw text element is met, and reading goes on after it. -/
theorem readRest_cons_plain {t : OpenTag} (ht : (!t.selfClosing && isRawTextName t.name) = false)
    (ts : List OpenTag) (ending : Ending) :
    readRest fragment offset (t :: ts, ending) =
      (t.shift offset :: (readRest fragment offset (ts, ending)).1,
        (readRest fragment offset (ts, ending)).2) := by
  simp only [readRest, segmentTags_cons_plain ht]
  rcases segmentTags fragment offset ts ending with ⟨here, fault, _ | resume⟩
  · rfl
  · simp only
    split <;> rfl

/-- After a raw text element that closes, reading starts a new segment past its closing tag. -/
theorem readRest_cons_closed {t : OpenTag} (ht : (!t.selfClosing && isRawTextName t.name) = true)
    {resume : Nat} (hend : rawTextEnd fragment (offset + t.stop) t.name = some resume)
    (hlt : offset < resume) (ts : List OpenTag) (ending : Ending) :
    readRest fragment offset (t :: ts, ending) =
      (t.shift offset :: (readTags fragment resume).1, (readTags fragment resume).2) := by
  simp only [readRest, segmentTags_cons_raw ht, hend, if_pos hlt]
  rfl

/-- A raw text element that never closes ends the reading. -/
theorem readRest_cons_unclosed {t : OpenTag} (ht : (!t.selfClosing && isRawTextName t.name) = true)
    (hend : rawTextEnd fragment (offset + t.stop) t.name = none) (ts : List OpenTag)
    (ending : Ending) : readRest fragment offset (t :: ts, ending) = ([t.shift offset], none) := by
  simp only [readRest, segmentTags_cons_raw ht, hend]

/-- A visit's tag opens a raw text element exactly when the visit does. -/
theorem Visit.tag_raw (v : Visit) (stop : Nat) :
    (!(v.tag stop).selfClosing && isRawTextName (v.tag stop).name) = v.isRaw := rfl

/-- A visit's tag counted from an offset ends that much later. -/
theorem Visit.shift_tag (v : Visit) (offset stop : Nat) :
    (v.tag stop).shift offset = v.tag (offset + stop) := rfl

/-- Where the text of visits is all read from its start, the reader meets the visits' tags. -/
theorem readTags_of_readRest {vs : List Visit} {tail : List Char}
    (hbom : (textOf vs tail).head? ≠ some byteOrderMark)
    (hrest : ∀ (u : List Char) (offset pos : Nat), byteLength u = offset + pos →
      readRest (u ++ textOf vs tail) offset (run .text pos (textOf vs tail)) =
          (tagsOf (offset + pos) vs, none) ∧
        ∀ t ∈ tagsOf (offset + pos) vs, t.ResumesWithoutMark (u ++ textOf vs tail))
    (u : List Char) :
    readTags (u ++ textOf vs tail) (byteLength u) = (tagsOf (byteLength u) vs, none) ∧
      ∀ t ∈ tagsOf (byteLength u) vs, t.ResumesWithoutMark (u ++ textOf vs tail) := by
  by_cases hnil : textOf vs tail = []
  · obtain rfl := eq_nil_of_textOf_eq_nil hnil
    rw [hnil, readTags, if_neg (by simp)]
    exact ⟨rfl, by simp [tagsOf]⟩
  · have hlt : byteLength u < byteLength (u ++ textOf vs tail) := by
      rw [byteLength_append]
      have := byteLength_pos hnil
      omega
    have h := hrest u (byteLength u) 0 rfl
    rw [Nat.add_zero] at h
    rw [readTags_eq_readRest hlt (dropBytes?_append u _), read_eq_run hbom]
    exact h

/-- Along a walk, the reader meets the walk's tags, each ending where its visit puts it, and
resumes after every raw text element at text without a byte order mark. -/
theorem readRest_of_tour {vs : List Visit} {tail : List Char} (h : Tour vs tail) :
    ∀ (u : List Char) (offset pos : Nat), byteLength u = offset + pos →
      readRest (u ++ textOf vs tail) offset (run .text pos (textOf vs tail)) =
          (tagsOf (offset + pos) vs, none) ∧
        ∀ t ∈ tagsOf (offset + pos) vs, t.ResumesWithoutMark (u ++ textOf vs tail) := by
  induction h with
  | @finish tail hglide =>
    intro u offset pos _
    have hrun : run .text pos tail = ([], .finished) := by
      rw [← List.append_nil tail, run_append_of_glide hglide]
      rfl
    rw [textOf_nil, hrun, readRest_finished]
    exact ⟨rfl, by simp [tagsOf]⟩
  | @plain v vs tail hv hraw hskip _ ih =>
    intro u offset pos hu
    have htext : textOf (v :: vs) tail = v.lead ++ v.markup ++ textOf vs tail := by
      rw [textOf_cons, Visit.text, hskip, List.append_nil]
    have hfrag : u ++ (v.lead ++ v.markup ++ textOf vs tail) =
        u ++ v.lead ++ v.markup ++ textOf vs tail := by simp
    have hnext : offset + (pos + byteLength (v.lead ++ v.markup)) =
        offset + pos + byteLength v.text := by
      simp [Visit.text, hskip]
      omega
    obtain ⟨hread, hresumes⟩ := ih (u ++ v.lead ++ v.markup) offset
      (pos + byteLength (v.lead ++ v.markup)) (by simp at hu ⊢; omega)
    rw [hnext] at hread hresumes
    rw [htext, hv.run_eq, readRest_cons_plain ((v.tag_raw _).trans hraw), Prod.eta, hfrag, hread,
      Visit.shift_tag, tagsOf, ← Nat.add_assoc]
    refine ⟨rfl, List.forall_mem_cons.mpr ⟨fun hr => ?_, hresumes⟩⟩
    rw [v.tag_raw, hraw] at hr
    cases hr
  | @closed v vs tail hv hraw hclose hbom _ ih =>
    intro u offset pos hu
    have htext : textOf (v :: vs) tail = v.lead ++ v.markup ++ (v.skip ++ textOf vs tail) := by
      simp [textOf_cons, Visit.text]
    have hfrag : u ++ (v.lead ++ v.markup ++ (v.skip ++ textOf vs tail)) =
        u ++ v.text ++ textOf vs tail := by simp [Visit.text]
    have hstop : offset + (pos + byteLength (v.lead ++ v.markup)) =
        byteLength (u ++ v.lead ++ v.markup) := by
      simp at hu ⊢
      omega
    have hresume : byteLength (u ++ v.text) = offset + pos + byteLength v.text := by
      simp at hu ⊢
      omega
    have hend : rawTextEnd (u ++ v.text ++ textOf vs tail)
        (offset + (pos + byteLength (v.lead ++ v.markup))) v.name =
        some (byteLength (u ++ v.text)) := by
      rw [hstop]
      exact v.rawTextEnd_closed hclose u _
    have hlt : offset < byteLength (u ++ v.text) := by
      have := byteLength_pos v.markup_ne_nil
      simp [Visit.text] at hu ⊢
      omega
    obtain ⟨hread, hresumes⟩ := readTags_of_readRest hbom ih (u ++ v.text)
    rw [hresume] at hresumes
    rw [htext, hv.run_eq, hfrag,
      readRest_cons_closed ((v.tag_raw _).trans hraw) hend hlt, hread, Visit.shift_tag, tagsOf,
      hresume, ← Nat.add_assoc]
    refine ⟨rfl, List.forall_mem_cons.mpr ⟨fun _ resume' rest hend' hdrop => ?_, hresumes⟩⟩
    rw [Visit.tag_stop, Visit.tag_name, Nat.add_assoc, hend, Option.some.injEq] at hend'
    subst hend'
    rw [dropBytes?_append, Option.some.injEq] at hdrop
    rw [← hdrop]
    exact hbom
  | @unclosed v hv hraw hnone =>
    intro u offset pos hu
    have htext : textOf [v] [] = v.lead ++ v.markup ++ v.skip := by
      simp [textOf, Visit.text]
    have hstop : offset + (pos + byteLength (v.lead ++ v.markup)) =
        byteLength (u ++ v.lead ++ v.markup) := by
      simp at hu ⊢
      omega
    have hend : rawTextEnd (u ++ (v.lead ++ v.markup ++ v.skip))
        (offset + (pos + byteLength (v.lead ++ v.markup))) v.name = none := by
      rw [hstop, show u ++ (v.lead ++ v.markup ++ v.skip) = u ++ v.lead ++ v.markup ++ v.skip by simp]
      exact rawTextEnd_of_none hnone _
    rw [htext, hv.run_eq, readRest_cons_unclosed ((v.tag_raw _).trans hraw) hend, Visit.shift_tag,
      tagsOf, tagsOf, ← Nat.add_assoc]
    refine ⟨rfl, List.forall_mem_cons.mpr ⟨fun _ resume' rest hend' => ?_, by simp⟩⟩
    rw [Visit.tag_stop, Visit.tag_name, Nat.add_assoc, hend] at hend'
    cases hend'

/-- Along a walk whose text does not start with a byte order mark, the reader meets exactly the
walk's tags, never stops on markup it cannot read, and starts no segment with a byte order
mark. -/
theorem readTags_of_tour {vs : List Visit} {tail : List Char} (h : Tour vs tail)
    (hbom : (textOf vs tail).head? ≠ some byteOrderMark) :
    readTags (textOf vs tail) 0 = (tagsOf 0 vs, none) ∧
      ∀ t ∈ tagsOf 0 vs, t.ResumesWithoutMark (textOf vs tail) :=
  readTags_of_readRest hbom (readRest_of_tour h) []

end Along

/-- A fragment that does not start with a byte order mark is walked exactly when the reader
reads it through. -/
theorem readsThrough_iff {fragment : List Char} :
    ReadsThrough fragment ↔ fragment.head? ≠ some byteOrderMark ∧ Walked fragment := by
  constructor
  · intro h
    exact ⟨h.start, h.walked⟩
  · rintro ⟨hbom, vs, tail, rfl, htour⟩
    obtain ⟨hread, hresumes⟩ := readTags_of_tour htour hbom
    exact ⟨hbom, by rw [hread]; exact hresumes, by rw [hread]⟩

end StrictCsp.Fragment
