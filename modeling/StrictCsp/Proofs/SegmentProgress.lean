import StrictCsp.Fragment.TagPlaces

/-!
# The segment reader moves on

After the opening tag of a raw text element the segment reader stops and
starts again past the element's closing tag, found by a search of its own in a
lowered copy of the rest of the fragment. That restart lies past the end of the
element's opening tag, which ends past the start of the segment, and never past
the fragment's end (`handleTags_resumeAt_progress`). Each segment thus starts
strictly later than the one before.

`segments` is written with a guard against a restart that does not move on, so
that it ends by well-founded recursion. The guard is never taken: the loop as
written, which starts again wherever it is told and may read as many segments
as the fragment has bytes (`segmentLoop`), reads the whole fragment within that
budget and does just what `segments` does (`segmentLoop_eq_segments`).

Main statement: `segmentLoop_reads_within_length`.
-/

namespace StrictCsp.Fragment

open StrictCsp.Entropy StrictCsp.Text

/-- The segment loop as written: it starts again wherever a raw text element ends, with no check
that this moves on, and gives up (`none`) rather than read more than `fuel` segments. -/
def segmentLoop (fragment : List Char) : Nat → Nat → Draw (Option (List Edit × List StyleClass))
  | 0, offset => if offset < byteLength fragment then pure none else pure (some ([], []))
  | fuel + 1, offset =>
    if offset < byteLength fragment then
      match dropBytes? fragment offset with
      | none => pure (some ([], []))
      | some rest => do
        let (edits, classes, next) ← handleTags fragment offset (read rest).1 (read rest).2
        match next with
        | .done => pure (some (edits, classes))
        | .resumeAt resume => do
          let more ← segmentLoop fragment fuel resume
          pure (more.map fun (moreEdits, moreClasses) =>
            (edits ++ moreEdits, classes ++ moreClasses))
    else pure (some ([], []))

section Restart

variable {fragment : List Char}

/-- Every tag read ends past the start of the text: its markup stands before its end. -/
theorem stop_pos_of_mem_read {s : List Char} {t : OpenTag} (ht : t ∈ (read s).1) : 0 < t.stop := by
  have hrun : ∀ s', t ∈ (run .text 0 s').1 → 0 < t.stop := fun s' h => by
    have hle := ((run_placed rfl).stands t h).markup_le
    have hpos := byteLength_pos t.markup_ne_nil
    omega
  unfold read at ht
  split at ht
  · split at ht <;> exact hrun _ ht
  · exact hrun _ ht

/-- A raw text element ends within the fragment. -/
theorem rawTextEnd_le_byteLength {name : List Char} {start resume : Nat}
    (h : rawTextEnd fragment start name = some resume) : resume ≤ byteLength fragment := by
  obtain ⟨pre, body, rest, rfl, -, rfl⟩ := rawTextEnd_eq_some h
  simp only [byteLength_append, byteLength_cons, byteLength_nil]
  omega

/-- Handling the tags of a segment goes on where the tags alone say. -/
theorem handleTags_resumeAt {offset resume : Nat} {tags : List OpenTag} {ending : Ending}
    {src src' : Source} {edits : List Edit} {classes : List StyleClass}
    (h : (handleTags fragment offset tags ending).run src =
      (.ok (edits, classes, .resumeAt resume), src')) :
    (segmentTags fragment offset tags ending).2.2 = .resumeAt resume := by
  rw [handleTags_eq, map_eq_pure_bind] at h
  obtain ⟨r, mid, -, hpure⟩ := Draw.run_bind_eq_ok h
  simp only [Draw.run_pure, Prod.mk.injEq, Except.ok.injEq] at hpure
  exact hpure.1.2.2

/-- A segment goes on elsewhere only after the opening tag of a raw text element read in it, where
that element ends. -/
theorem segmentTags_resumeAt_tag {offset resume : Nat} {tags : List OpenTag} {ending : Ending}
    (h : (segmentTags fragment offset tags ending).2.2 = .resumeAt resume) :
    ∃ t ∈ tags, (!t.selfClosing && isRawTextName t.name) = true ∧
      rawTextEnd fragment (offset + t.stop) t.name = some resume := by
  obtain ⟨pre, last, hlast, hraw, hend⟩ := segmentTags_resumeAt h
  have hmem : last ∈ tags.map (OpenTag.shift offset) :=
    (segmentTags_sublist tags ending).subset (by rw [hlast]; simp)
  obtain ⟨t, ht, rfl⟩ := List.mem_map.mp hmem
  exact ⟨t, ht, hraw, hend⟩

/-- A segment that goes on after a raw text element goes on past the end of the element's
opening tag, which ends past the segment's start, and within the fragment. -/
theorem segmentTags_resumeAt_progress {offset resume : Nat} {rest : List Char}
    (h : (segmentTags fragment offset (read rest).1 (read rest).2).2.2 = .resumeAt resume) :
    ∃ t ∈ (read rest).1, (!t.selfClosing && isRawTextName t.name) = true ∧
      rawTextEnd fragment (offset + t.stop) t.name = some resume ∧
      offset < offset + t.stop ∧ offset + t.stop < resume ∧ resume ≤ byteLength fragment := by
  obtain ⟨t, ht, hraw, hend⟩ := segmentTags_resumeAt_tag h
  have hpos := stop_pos_of_mem_read ht
  exact ⟨t, ht, hraw, hend, by omega, rawTextEnd_le hend, rawTextEnd_le_byteLength hend⟩

/-- Wherever handling the tags of a segment says to go on, in any run that gets that far, it is
past the end of a raw text element's opening tag read in the segment, which ends past the
segment's start, and within the fragment. -/
theorem handleTags_resumeAt_progress {offset resume : Nat} {rest : List Char} {src src' : Source}
    {edits : List Edit} {classes : List StyleClass}
    (h : (handleTags fragment offset (read rest).1 (read rest).2).run src =
      (.ok (edits, classes, .resumeAt resume), src')) :
    ∃ t ∈ (read rest).1, (!t.selfClosing && isRawTextName t.name) = true ∧
      rawTextEnd fragment (offset + t.stop) t.name = some resume ∧
      offset < offset + t.stop ∧ offset + t.stop < resume ∧ resume ≤ byteLength fragment :=
  segmentTags_resumeAt_progress (handleTags_resumeAt h)

end Restart

/-- With room for every byte not yet read, the loop as written reads to the end of the fragment and
does what the segment reader does. Each restart moves on, so the guard of `segments` holds and fewer
bytes are left. -/
theorem segmentLoop_eq_segments (fragment : List Char) (fuel : Nat) :
    ∀ offset, byteLength fragment - offset ≤ fuel →
      segmentLoop fragment fuel offset = some <$> segments fragment offset := by
  induction fuel with
  | zero =>
    intro offset hfuel
    rw [segmentLoop, if_neg (by omega), segments, if_neg (by omega)]
    rfl
  | succ n ih =>
    intro offset hfuel
    by_cases hlt : offset < byteLength fragment
    · rcases hdrop : dropBytes? fragment offset with _ | rest
      · rw [segmentLoop, if_pos hlt, hdrop, segments, if_pos hlt, hdrop]
        rfl
      · rw [segmentLoop, if_pos hlt, hdrop, segments, if_pos hlt, hdrop]
        rcases hseg : segmentTags fragment offset (read rest).1 (read rest).2 with
          ⟨here, fault, _ | resume⟩
        · simp only [handleTags_eq, hseg, map_eq_pure_bind, bind_assoc, pure_bind]
        · obtain ⟨t, -, -, -, -, hpast, -⟩ := segmentTags_resumeAt_progress (by rw [hseg])
          simp only [handleTags_eq, hseg, map_eq_pure_bind, bind_assoc, pure_bind]
          have hmoves : offset < resume := by omega
          simp only [hmoves, ↓reduceIte, ih resume (by omega), map_eq_pure_bind, bind_assoc,
            pure_bind, Option.map_some]
    · rw [segmentLoop, if_neg hlt, segments, if_neg hlt]
      rfl

/-- A script element takes two segments: one up to its closing tag, one after it. -/
example : ((segmentLoop "<script>a</script><p>".toList 1 0).run (.scripted ⟨[], .fails⟩)).1 =
      .ok none ∧
    ((segmentLoop "<script>a</script><p>".toList 2 0).run (.scripted ⟨[], .fails⟩)).1 =
      .ok (some ([], [])) := ⟨rfl, rfl⟩

/-- The segment reader moves on after every raw text element: it starts again past the end of
the element's opening tag, which ends past where the segment started, and never past the end of
the fragment. So the loop as written, with no check that a restart moves on, reads at most as
many segments as the fragment has bytes, and does what the segment reader does. -/
theorem segmentLoop_reads_within_length (fragment : List Char) :
    (∀ (offset resume : Nat) (rest : List Char) (src src' : Source) (edits : List Edit)
        (classes : List StyleClass),
      (handleTags fragment offset (read rest).1 (read rest).2).run src =
          (.ok (edits, classes, .resumeAt resume), src') →
        ∃ t ∈ (read rest).1, (!t.selfClosing && isRawTextName t.name) = true ∧
          rawTextEnd fragment (offset + t.stop) t.name = some resume ∧
          offset < offset + t.stop ∧ offset + t.stop < resume ∧ resume ≤ byteLength fragment) ∧
      segmentLoop fragment (byteLength fragment) 0 = some <$> segments fragment 0 :=
  ⟨fun _ _ _ _ _ _ _ h => handleTags_resumeAt_progress h,
    segmentLoop_eq_segments fragment _ 0 (Nat.sub_le _ _)⟩

end StrictCsp.Fragment
