import StrictCsp.Fragment.TagStream
import StrictCsp.Fragment.Tour

/-!
# Where the tags the reader meets stand

The reader counts where each opening tag it meets ends in bytes of the fragment,
and the tag's markup as written stands right before that end. Read from text
mode, the tags of a text come out in order, each ending before the markup of the
next one starts (`run_placed`). A new segment starts right after the `>` that
closes a raw text element, past the element's opening tag, so the ends the reader
reports for a whole fragment keep that order, whatever the fragment
(`readTags_inOrder`). They are the ends of the tags' markup in the fragment when
no segment starts with a byte order mark, neither the first nor one after a raw
text element (`OpenTag.ResumesWithoutMark`, `readTags_placed`): the reader skips
one there without counting its bytes. A tag that stands in a fragment is found there from where it ends
(`OpenTag.StandsIn.locateTag`). Wherever segments start, every tag the reader
meets stands somewhere in the fragment (`markup_infix_of_mem_readTags`).
-/

namespace StrictCsp.Fragment

open StrictCsp.Text

/-- An opening tag as written. -/
def OpenTag.markup (t : OpenTag) : List Char := tagMarkup t.content t.selfClosing

/-- A tag stands in a text whose bytes are counted from an offset: its markup is part of the
text and ends where the tag ends. -/
def OpenTag.StandsIn (t : OpenTag) (pos : Nat) (s : List Char) : Prop :=
  ∃ a b, s = a ++ t.markup ++ b ∧ pos + byteLength (a ++ t.markup) = t.stop

/-- One tag ends before the markup of another starts. -/
def OpenTag.Before (t u : OpenTag) : Prop := t.stop + byteLength u.markup ≤ u.stop

/-- Tags that stand in a text one after another. -/
structure Placed (pos : Nat) (s : List Char) (tags : List OpenTag) : Prop where
  /-- Each tag stands in the text. -/
  stands : ∀ t ∈ tags, t.StandsIn pos s
  /-- Each tag ends before the markup of every later one starts. -/
  ordered : tags.Pairwise OpenTag.Before

/-- Tags whose ends, counted from an offset, come in order: each ends past the offset by at least
its markup, and before the markup of every later one starts. -/
structure InOrder (pos : Nat) (tags : List OpenTag) : Prop where
  /-- Each tag ends past the offset by at least its markup. -/
  past : ∀ t ∈ tags, pos + byteLength t.markup ≤ t.stop
  /-- Each tag ends before the markup of every later one starts. -/
  ordered : tags.Pairwise OpenTag.Before

section Placement

variable {t u : OpenTag} {pos : Nat} {s : List Char} {tags more : List OpenTag}

@[simp] theorem OpenTag.shift_markup (offset : Nat) (t : OpenTag) :
    (t.shift offset).markup = t.markup := rfl

@[simp] theorem OpenTag.shift_name (offset : Nat) (t : OpenTag) :
    (t.shift offset).name = t.name := rfl

/-- A tag's markup is never empty. -/
theorem OpenTag.markup_ne_nil (t : OpenTag) : t.markup ≠ [] := List.cons_ne_nil _ _

/-- A tag standing in a text ends past the text's start by at least its markup. -/
theorem OpenTag.StandsIn.markup_le (h : t.StandsIn pos s) :
    pos + byteLength t.markup ≤ t.stop := by
  obtain ⟨a, b, -, hstop⟩ := h
  rw [byteLength_append] at hstop
  omega

/-- A tag that stands in what follows a text stands in the whole. -/
theorem OpenTag.StandsIn.prepend {w : List Char} (h : t.StandsIn (pos + byteLength w) s) :
    t.StandsIn pos (w ++ s) := by
  obtain ⟨a, b, rfl, hstop⟩ := h
  refine ⟨w ++ a, b, by simp, ?_⟩
  simp only [byteLength_append] at hstop ⊢
  omega

/-- A tag read from what follows a text stands in the whole once its end is counted there. -/
theorem OpenTag.StandsIn.shift (h : t.StandsIn pos s) (w : List Char) :
    (t.shift (byteLength w)).StandsIn pos (w ++ s) := by
  obtain ⟨a, b, rfl, hstop⟩ := h
  refine ⟨w ++ a, b, by simp, ?_⟩
  simp only [byteLength_append, OpenTag.shift_stop, OpenTag.shift_markup] at hstop ⊢
  omega

/-- A tag before another ends no later. -/
theorem OpenTag.Before.stop_le (h : t.Before u) : t.stop ≤ u.stop := by
  unfold OpenTag.Before at h
  omega

/-- No tags stand anywhere in order. -/
theorem Placed.nil : Placed pos s [] := ⟨by simp, List.Pairwise.nil⟩

/-- Some of the tags standing in order still do. -/
theorem Placed.sublist (h : Placed pos s tags) (hsub : more.Sublist tags) : Placed pos s more :=
  ⟨fun t ht => h.stands t (hsub.subset ht), h.ordered.sublist hsub⟩

/-- Tags standing in what follows a text stand in the whole once counted from its start. -/
theorem Placed.shift (h : Placed pos s tags) (w : List Char) :
    Placed pos (w ++ s) (tags.map (OpenTag.shift (byteLength w))) := by
  refine ⟨?_, ?_⟩
  · simp only [List.mem_map, forall_exists_index, and_imp, forall_apply_eq_imp_iff₂]
    exact fun t ht => (h.stands t ht).shift w
  · refine List.pairwise_map.mpr (h.ordered.imp fun hb => ?_)
    simp only [OpenTag.Before, OpenTag.shift_stop, OpenTag.shift_markup] at hb ⊢
    omega

/-- Tags that stand in a text in order end in order. -/
theorem Placed.inOrder (h : Placed pos s tags) : InOrder pos tags :=
  ⟨fun t ht => (h.stands t ht).markup_le, h.ordered⟩

/-- No tags are in order. -/
theorem InOrder.nil : InOrder pos [] := ⟨by simp, List.Pairwise.nil⟩

/-- Some of the tags in order still are. -/
theorem InOrder.sublist (h : InOrder pos tags) (hsub : more.Sublist tags) : InOrder pos more :=
  ⟨fun t ht => h.past t (hsub.subset ht), h.ordered.sublist hsub⟩

/-- Tags in order past an offset are in order past any earlier one. -/
theorem InOrder.mono {pos' : Nat} (h : InOrder pos tags) (hle : pos' ≤ pos) : InOrder pos' tags :=
  ⟨fun t ht => Nat.le_trans (Nat.add_le_add_right hle _) (h.past t ht), h.ordered⟩

/-- Tags read from a text that starts at a byte offset end in order once counted from there. -/
theorem InOrder.shift (h : InOrder 0 tags) (offset : Nat) :
    InOrder offset (tags.map (OpenTag.shift offset)) := by
  refine ⟨?_, List.pairwise_map.mpr (h.ordered.imp fun hb => ?_)⟩
  · simp only [List.mem_map, forall_exists_index, and_imp, forall_apply_eq_imp_iff₂,
      OpenTag.shift_markup, OpenTag.shift_stop]
    intro t ht
    have := h.past t ht
    omega
  · simp only [OpenTag.Before, OpenTag.shift_stop, OpenTag.shift_markup] at hb ⊢
    omega

/-- Tags in order, then tags in order that all come after them, are in order. -/
theorem InOrder.append (h : InOrder pos tags) (h' : InOrder pos more)
    (hbefore : ∀ t ∈ tags, ∀ u ∈ more, t.Before u) : InOrder pos (tags ++ more) :=
  ⟨fun t ht => (List.mem_append.mp ht).elim (h.past t) (h'.past t),
    List.pairwise_append.mpr ⟨h.ordered, h'.ordered, hbefore⟩⟩

/-- Tags in order all end by where the last of them ends. -/
theorem InOrder.stop_le_of_last {last : OpenTag} (h : InOrder pos (tags ++ [last])) {r : Nat}
    (hr : last.stop ≤ r) : ∀ t ∈ tags ++ [last], t.stop ≤ r := by
  intro t ht
  rcases List.mem_append.mp ht with ht | ht
  · exact Nat.le_trans ((List.pairwise_append.mp h.ordered).2.2 t ht last
      (List.mem_singleton_self _)).stop_le hr
  · rw [List.mem_singleton.mp ht]
    exact hr

/-- A tag whose markup follows a text, then tags that stand in what follows it. -/
theorem Placed.cons {X R : List Char} (hs : s = X ++ t.markup ++ R)
    (hstop : pos + byteLength (X ++ t.markup) = t.stop) (h : Placed t.stop R tags) :
    Placed pos s (t :: tags) := by
  refine ⟨List.forall_mem_cons.mpr ⟨⟨X, R, hs, hstop⟩, fun u hu => ?_⟩,
    List.pairwise_cons.mpr ⟨fun u hu => (h.stands u hu).markup_le, h.ordered⟩⟩
  rw [hs]
  exact OpenTag.StandsIn.prepend (hstop ▸ h.stands u hu)

/-- Read from text mode, the tags of a text stand in it in order. -/
theorem run_placed : ∀ {tags : List OpenTag} {pos : Nat} {s : List Char},
    (run .text pos s).1 = tags → Placed pos s tags
  | [], _, _, _ => Placed.nil
  | t :: tags, pos, s, h => by
    obtain ⟨X, R, hs, -, -, -, hstop, hrest⟩ := run_text_eq_cons h
    refine Placed.cons hs ?_ (run_placed (congrArg Prod.fst hrest))
    rw [hstop, byteLength_append, Nat.add_assoc]
    rfl

end Placement

section RawText

/-- Only `>` lowers to `>`. -/
theorem eq_gt_of_asciiLower {c : Char} (h : asciiLower c = '>') : c = '>' := by
  unfold asciiLower Char.toLower at h
  split at h
  · rename_i hup
    have hA : 65 ≤ c.val.toNat := by simpa using UInt32.le_iff_toNat_le.mp hup.1
    have hZ : c.val.toNat ≤ 90 := by simpa using UInt32.le_iff_toNat_le.mp hup.2
    have hval := congrArg (fun d : Char => d.val.toNat) h
    have hshift : ('a'.val - 'A'.val).toNat = 32 := by decide
    simp only [UInt32.toNat_add, hshift] at hval
    have hgt : '>'.val.toNat = 62 := rfl
    omega
  · exact h

/-- A raw text element ends with a `>` past the end of its opening tag. -/
theorem rawTextEnd_eq_some {fragment name : List Char} {start resume : Nat}
    (h : rawTextEnd fragment start name = some resume) :
    ∃ pre body rest, fragment = pre ++ body ++ '>' :: rest ∧ byteLength pre = start ∧
      byteLength (pre ++ body ++ ['>']) = resume := by
  simp only [rawTextEnd, Option.bind_eq_bind, Option.bind_eq_some_iff, Option.pure_def,
    Option.some.injEq] at h
  obtain ⟨rest, hdrop, length, hlength, rfl⟩ := h
  obtain ⟨pre, rfl, rfl⟩ := dropBytes?_eq_some hdrop
  simp only [rawTextLength?, Option.bind_eq_bind, Option.bind_eq_some_iff, Option.pure_def,
    Option.some.injEq] at hlength
  obtain ⟨closeAt, -, gt, hgt, rfl⟩ := hlength
  have hfound := isPrefixOf_drop_findFrom? hgt
  rw [List.drop_drop, ← List.map_drop] at hfound
  rcases hdrop' : rest.drop (closeAt + gt) with _ | ⟨c, after⟩
  · simp [hdrop'] at hfound
  simp only [hdrop', List.map_cons, List.isPrefixOf, Bool.and_true, beq_iff_eq] at hfound
  have hc := eq_gt_of_asciiLower hfound.symm
  subst hc
  have hrest : rest = rest.take (closeAt + gt) ++ '>' :: after := by
    rw [← hdrop', List.take_append_drop]
  have htake : rest.take (closeAt + gt + 1) = rest.take (closeAt + gt) ++ ['>'] := by
    rw [List.take_add_one, ← List.head?_drop, hdrop']
    rfl
  refine ⟨pre, rest.take (closeAt + gt), after, ?_, rfl, ?_⟩
  · conv => lhs; rw [hrest]
    simp
  · rw [← List.map_take, byteLength_map_asciiLower, htake]
    simp only [byteLength_append, Nat.add_assoc]

/-- Reading resumes past the end of the raw text element's opening tag. -/
theorem rawTextEnd_le {fragment name : List Char} {start resume : Nat}
    (h : rawTextEnd fragment start name = some resume) : start < resume := by
  obtain ⟨pre, body, rest, -, rfl, rfl⟩ := rawTextEnd_eq_some h
  simp only [byteLength_append, byteLength_cons, byteLength_nil]
  have := utf8Size_pos '>'
  omega

end RawText

section Segments

variable {fragment : List Char} {offset : Nat}

/-- The tags a segment hands on are among the tags read in it, counted in the fragment. -/
theorem segmentTags_sublist : ∀ (tags : List OpenTag) (ending : Ending),
    (segmentTags fragment offset tags ending).1.Sublist (tags.map (OpenTag.shift offset))
  | [], .finished => by simp [segmentTags]
  | [], .malformed => by simp [segmentTags]
  | t :: ts, ending => by
    unfold segmentTags
    split
    · simp
    · exact (segmentTags_sublist ts ending).cons_cons _

/-- A segment goes on elsewhere only after the raw text element its last tag opens. -/
theorem segmentTags_resumeAt {resume : Nat} : ∀ {tags : List OpenTag} {ending : Ending},
    (segmentTags fragment offset tags ending).2.2 = .resumeAt resume →
    ∃ pre t, (segmentTags fragment offset tags ending).1 = pre ++ [t] ∧
      (!t.selfClosing && isRawTextName t.name) = true ∧
      rawTextEnd fragment t.stop t.name = some resume
  | [], .finished, h => by cases h
  | [], .malformed, h => by cases h
  | t :: ts, ending, h => by
    unfold segmentTags at h ⊢
    split
    · rename_i hraw
      rw [if_pos hraw] at h
      rcases hend : rawTextEnd fragment (offset + t.stop) t.name with _ | r
      · rw [hend] at h
        cases h
      · rw [hend] at h
        cases h
        exact ⟨[], t.shift offset, rfl, hraw, hend⟩
    · rw [if_neg (by assumption)] at h
      obtain ⟨pre, u, hpre, hraw, hu⟩ := segmentTags_resumeAt h
      exact ⟨t.shift offset :: pre, u, congrArg (t.shift offset :: ·) hpre, hraw, hu⟩

/-- The tags read from a text end in order, each past the text's start by its markup, byte
order mark or not. -/
theorem read_inOrder (s : List Char) : InOrder 0 (read s).1 := by
  unfold read
  split
  · split
    · exact (run_placed rfl).inOrder
    · exact (run_placed rfl).inOrder
  · exact (run_placed rfl).inOrder

/-- The tags a segment hands on end in order, past the segment's start. -/
theorem segmentTags_inOrder (fragment : List Char) (offset : Nat) (rest : List Char) :
    InOrder offset (segmentTags fragment offset (read rest).1 (read rest).2).1 :=
  ((read_inOrder rest).shift offset).sublist (segmentTags_sublist _ _)

/-- The tags the reader meets from a byte offset on end in order, past that offset, whatever the
fragment. -/
theorem readTags_inOrder (fragment : List Char) (offset : Nat) :
    InOrder offset (readTags fragment offset).1 := by
  fun_induction readTags fragment offset with
  | case1 offset hlt hdrop => exact InOrder.nil
  | case2 offset hlt rest hdrop here fault hseg =>
    have h := segmentTags_inOrder fragment offset rest
    rwa [hseg] at h
  | case3 offset hlt rest hdrop here fault resume hseg hres more fault' hmore ih =>
    have hhere := segmentTags_inOrder fragment offset rest
    obtain ⟨pre, last, hlast, -, hend⟩ := segmentTags_resumeAt (by rw [hseg])
    simp only [hseg] at hhere hlast
    subst hlast
    rw [hmore] at ih
    have hupto := hhere.stop_le_of_last (Nat.le_of_lt (rawTextEnd_le hend))
    exact hhere.append (ih.mono (Nat.le_of_lt hres)) fun t ht u hu => by
      have := ih.past u hu
      have := hupto t ht
      unfold OpenTag.Before
      omega
  | case4 offset hlt rest hdrop here fault resume hseg hres =>
    have h := segmentTags_inOrder fragment offset rest
    rwa [hseg] at h
  | case5 offset hge => exact InOrder.nil

/-- The tags a segment hands on stand in the fragment, when the segment does not start with a
byte order mark. -/
theorem segmentTags_stand {rest : List Char} (hdrop : dropBytes? fragment offset = some rest)
    (hbom : rest.head? ≠ some byteOrderMark) :
    ∀ t ∈ (segmentTags fragment offset (read rest).1 (read rest).2).1, t.StandsIn 0 fragment := by
  obtain ⟨pre, rfl, rfl⟩ := dropBytes?_eq_some hdrop
  have hread : Placed 0 rest (read rest).1 := run_placed (by rw [read_eq_run hbom])
  exact ((hread.shift pre).sublist (segmentTags_sublist _ _)).stands

/-- Reading resumes after the raw text element a tag opens, when it does, at text that does not
start with a byte order mark. -/
def OpenTag.ResumesWithoutMark (fragment : List Char) (t : OpenTag) : Prop :=
  (!t.selfClosing && isRawTextName t.name) = true → ∀ resume rest,
    rawTextEnd fragment t.stop t.name = some resume → dropBytes? fragment resume = some rest →
      rest.head? ≠ some byteOrderMark

/-- Reading resumes right after a `>`, so where no `>` is followed by a byte order mark, no
segment after a raw text element starts with one. -/
theorem OpenTag.resumesWithoutMark_of_no_gt_mark (hgt : ¬ ['>', byteOrderMark] <:+: fragment)
    (t : OpenTag) : t.ResumesWithoutMark fragment := by
  intro _ resume rest hend hdrop hhead
  obtain ⟨pre, body, after, hfrag, -, hresume⟩ := rawTextEnd_eq_some hend
  have hafter : rest = after := by
    have h := dropBytes?_append (pre ++ body ++ ['>']) after
    rw [hresume, List.append_assoc (pre ++ body), List.singleton_append, ← hfrag, hdrop] at h
    exact Option.some.inj h
  subst hafter
  obtain ⟨more, rfl⟩ : ∃ more, rest = byteOrderMark :: more := by
    cases rest with
    | nil => cases hhead
    | cons c cs => exact ⟨cs, by simpa using hhead⟩
  exact hgt ⟨pre ++ body, more, by rw [hfrag]; simp⟩

end Segments

/-- The tags the reader meets from a byte offset on stand in the fragment in order, when no
segment starts with a byte order mark: neither the one at that offset nor one after a raw text
element. -/
theorem readTags_placed {fragment : List Char} (offset : Nat)
    (hbom : ∀ rest, dropBytes? fragment offset = some rest → rest.head? ≠ some byteOrderMark)
    (hseg : ∀ t ∈ (readTags fragment offset).1, t.ResumesWithoutMark fragment) :
    Placed 0 fragment (readTags fragment offset).1 := by
  refine ⟨?_, (readTags_inOrder fragment offset).ordered⟩
  fun_induction readTags fragment offset with
  | case1 offset hlt hdrop => simp
  | case2 offset hlt rest hdrop here fault hseg' =>
    have h := segmentTags_stand hdrop (hbom rest hdrop)
    rwa [hseg'] at h
  | case3 offset hlt rest hdrop here fault resume hseg' hres more fault' hmore ih =>
    have hhere := segmentTags_stand hdrop (hbom rest hdrop)
    obtain ⟨pre, last, hlast, hraw, hend⟩ := segmentTags_resumeAt (by rw [hseg'])
    simp only [hseg'] at hhere hlast
    subst hlast
    simp only [hmore] at hseg ih
    have hlastSeg := hseg last (List.mem_append_left _ (List.mem_append_right _ (List.mem_singleton_self _)))
    have hmoreStand := ih (fun r hr => hlastSeg hraw resume r hend hr)
      (fun t ht => hseg t (List.mem_append_right _ ht))
    intro t ht
    rcases List.mem_append.mp ht with ht | ht
    · exact hhere t ht
    · exact hmoreStand t ht
  | case4 offset hlt rest hdrop here fault resume hseg' hres =>
    have h := segmentTags_stand hdrop (hbom rest hdrop)
    rwa [hseg'] at h
  | case5 offset hge => simp

section Markup

/-- Every tag read from a text stands in it, byte order mark or not. -/
theorem markup_infix_of_mem_read :
    ∀ {s : List Char} {t : OpenTag}, t ∈ (read s).1 → t.markup <:+: s
  | [], t, ht => by
    have hp : Placed 0 [] (run .text 0 []).1 := run_placed rfl
    obtain ⟨a, b, hs, -⟩ := hp.stands t ht
    exact ⟨a, b, hs.symm⟩
  | c :: cs, t, ht => by
    by_cases hc : c = byteOrderMark
    · rw [read, if_pos hc] at ht
      have hp : Placed 0 cs (run .text 0 cs).1 := run_placed rfl
      obtain ⟨a, b, hs, -⟩ := hp.stands t ht
      exact ⟨c :: a, b, by rw [hs]; simp⟩
    · rw [read, if_neg hc] at ht
      have hp : Placed 0 (c :: cs) (run .text 0 (c :: cs)).1 := run_placed rfl
      obtain ⟨a, b, hs, -⟩ := hp.stands t ht
      exact ⟨a, b, hs.symm⟩

/-- Every tag of a segment stands in the fragment. -/
theorem markup_infix_of_mem_segmentTags {fragment rest : List Char} {offset : Nat}
    (hdrop : dropBytes? fragment offset = some rest) :
    ∀ t ∈ (segmentTags fragment offset (read rest).1 (read rest).2).1, t.markup <:+: fragment := by
  obtain ⟨pre, rfl, -⟩ := dropBytes?_eq_some hdrop
  intro t ht
  obtain ⟨u, hu, rfl⟩ := List.mem_map.mp ((segmentTags_sublist _ _).subset ht)
  rw [OpenTag.shift_markup]
  exact (markup_infix_of_mem_read hu).trans (List.suffix_append pre rest).isInfix

/-- Every tag the reader meets stands in the fragment, wherever its segments start. -/
theorem markup_infix_of_mem_readTags (fragment : List Char) (offset : Nat) :
    ∀ t ∈ (readTags fragment offset).1, t.markup <:+: fragment := by
  fun_induction readTags fragment offset with
  | case1 => simp
  | case2 offset hlt rest hdrop here fault hseg =>
    have h := markup_infix_of_mem_segmentTags hdrop
    rwa [hseg] at h
  | case3 offset hlt rest hdrop here fault resume hseg hres more fault' hmore ih =>
    have h := markup_infix_of_mem_segmentTags hdrop
    rw [hseg] at h
    rw [hmore] at ih
    intro t ht
    rcases List.mem_append.mp ht with ht | ht
    · exact h t ht
    · exact ih t ht
  | case4 offset hlt rest hdrop here fault resume hseg hres =>
    have h := markup_infix_of_mem_segmentTags hdrop
    rwa [hseg] at h
  | case5 => simp

end Markup

section Locate

variable {fragment : List Char} {t : OpenTag}

/-- A tag that stands in a fragment is found there from where it ends. -/
theorem OpenTag.StandsIn.locateTag (h : t.StandsIn 0 fragment) :
    locateTag fragment (byteLength t.content) t.stop t.selfClosing =
      some (t.stop - byteLength t.markup, t.stop) := by
  obtain ⟨a, b, rfl, hstop⟩ := h
  rw [Nat.zero_add, byteLength_append] at hstop
  rw [← hstop, Nat.add_sub_cancel]
  exact locateTag_markup a b t.content t.selfClosing

/-- A span located for a tag ends where the tag ends, starts no earlier than the tag's markup
would, and is a piece of the fragment, wherever the tag stands. -/
theorem locateTag_eq_some {a b : Nat}
    (h : locateTag fragment (byteLength t.content) t.stop t.selfClosing = some (a, b)) :
    b = t.stop ∧ t.stop ≤ a + byteLength t.markup ∧ ∃ span, sliceBytes? fragment a b = some span := by
  unfold locateTag at h
  obtain ⟨extra, hextra, hfound⟩ := List.exists_of_findSome?_eq_some h
  have hbound : extra ≤ if t.selfClosing then 3 else 2 := by
    cases hsc : t.selfClosing <;> simp [hsc] at hextra ⊢ <;> omega
  rw [OpenTag.markup, byteLength_tagMarkup]
  dsimp only at hfound
  split at hfound
  · rename_i hle
    split at hfound
    · rename_i raw hraw
      simp only [Option.ite_none_right_eq_some, Option.some.injEq, Prod.mk.injEq] at hfound
      obtain ⟨-, rfl, rfl⟩ := hfound
      exact ⟨rfl, by omega, raw, hraw⟩
    · cases hfound
  · cases hfound

/-- The bytes of a tag that stands in a fragment are its markup. -/
theorem OpenTag.StandsIn.sliceBytes? (h : t.StandsIn 0 fragment) :
    sliceBytes? fragment (t.stop - byteLength t.markup) t.stop = some t.markup := by
  obtain ⟨a, b, rfl, hstop⟩ := h
  rw [Nat.zero_add, byteLength_append] at hstop
  rw [← hstop, Nat.add_sub_cancel]
  exact sliceBytes?_append a t.markup b

end Locate

end StrictCsp.Fragment
