import StrictCsp.Fragment.Segment

/-!
# The opening tags the segment reader meets

The segment reader interleaves reading with restyling: it reads a segment,
restyles the tags read in it, and decides from the tags alone where the next
segment starts. What it reads therefore does not depend on what restyling
draws, and can be read off first: `readTags` lists the opening tags the reader
meets in a fragment, each with its end counted in the fragment, and says where
reading stops on markup it cannot read.

Main statement: the reader is the loop that restyles these tags in order and
fails after them if reading did (`segments_eq_restyleTags`).
-/

namespace StrictCsp.Fragment

open StrictCsp.Entropy StrictCsp.Text

/-- A tag read from a segment that starts at a byte offset, with its end counted in the
fragment. -/
def OpenTag.shift (offset : Nat) (t : OpenTag) : OpenTag := { t with stop := offset + t.stop }

/-- The tags of one segment that the reader handles, each with its end counted in the fragment,
up to and including the first opening tag of a raw text element; the offset of the segment when
its markup cannot be read; and where reading goes on. -/
def segmentTags (fragment : List Char) (offset : Nat) :
    List OpenTag → Ending → List OpenTag × Option Nat × Continue
  | [], .finished => ([], none, .done)
  | [], .malformed => ([], some offset, .done)
  | t :: ts, ending =>
    if !t.selfClosing && isRawTextName t.name then
      ([t.shift offset], none, match rawTextEnd fragment (offset + t.stop) t.name with
        | some resume => .resumeAt resume
        | none => .done)
    else
      let (more, fault, next) := segmentTags fragment offset ts ending
      (t.shift offset :: more, fault, next)

/-- The opening tags the segment reader meets in a fragment from a byte offset on, each with its
end counted in the fragment, and the offset of the segment whose markup cannot be read, if
reading stops at one. -/
def readTags (fragment : List Char) (offset : Nat) : List OpenTag × Option Nat :=
  if offset < byteLength fragment then
    match dropBytes? fragment offset with
    | none => ([], none)
    | some rest =>
      match segmentTags fragment offset (read rest).1 (read rest).2 with
      | (here, fault, .done) => (here, fault)
      | (here, fault, .resumeAt resume) =>
        if offset < resume then
          let (more, fault') := readTags fragment resume
          (here ++ more, fault')
        else (here, fault)
  else ([], none)
termination_by byteLength fragment - offset

/-- Restyles tags in order, each at the offset where it ends, and fails after them when the
markup that follows cannot be read. -/
def restyleTags (fragment : List Char) :
    List OpenTag → Option Nat → Draw (List Edit × List StyleClass)
  | [], none => pure ([], [])
  | [], some offset => throw (.error (.fragmentParse offset malformedReason))
  | t :: ts, fault => do
    let (edits, classes) ← restyleAt fragment t.stop t
    let (moreEdits, moreClasses) ← restyleTags fragment ts fault
    pure (edits ++ moreEdits, classes ++ moreClasses)

variable {fragment : List Char}

@[simp] theorem OpenTag.shift_stop (offset : Nat) (t : OpenTag) :
    (t.shift offset).stop = offset + t.stop := rfl

@[simp] theorem OpenTag.shift_content (offset : Nat) (t : OpenTag) :
    (t.shift offset).content = t.content := rfl

@[simp] theorem OpenTag.shift_selfClosing (offset : Nat) (t : OpenTag) :
    (t.shift offset).selfClosing = t.selfClosing := rfl

/-- The opening tag of a raw text element ends its segment, which goes on after the element. -/
theorem segmentTags_cons_raw {offset : Nat} {t : OpenTag}
    (ht : (!t.selfClosing && isRawTextName t.name) = true) (ts : List OpenTag) (ending : Ending) :
    segmentTags fragment offset (t :: ts) ending =
      ([t.shift offset], none, match rawTextEnd fragment (offset + t.stop) t.name with
        | some resume => .resumeAt resume
        | none => .done) := by
  rw [segmentTags, if_pos ht]

/-- Any other tag is handed on, and the segment goes on after it. -/
theorem segmentTags_cons_plain {offset : Nat} {t : OpenTag}
    (ht : (!t.selfClosing && isRawTextName t.name) = false) (ts : List OpenTag) (ending : Ending) :
    segmentTags fragment offset (t :: ts) ending =
      (t.shift offset :: (segmentTags fragment offset ts ending).1,
        (segmentTags fragment offset ts ending).2) := by
  rw [segmentTags, if_neg (by simp [ht])]

/-- Restyling a tag does not look at where it was read to end. -/
theorem restyleAt_shift (stop offset : Nat) (t : OpenTag) :
    restyleAt fragment stop (t.shift offset) = restyleAt fragment stop t := rfl

/-- A segment read up to a raw text element goes on elsewhere with nothing left unread. -/
theorem segmentTags_fault_of_resumeAt {offset resume : Nat} :
    ∀ {tags : List OpenTag} {ending : Ending},
      (segmentTags fragment offset tags ending).2.2 = .resumeAt resume →
      (segmentTags fragment offset tags ending).2.1 = none
  | [], .finished, h => by cases h
  | [], .malformed, h => by cases h
  | t :: ts, ending, h => by
    unfold segmentTags at h ⊢
    split
    · rfl
    · rw [if_neg (by assumption)] at h
      exact segmentTags_fault_of_resumeAt h

/-- Restyling no tags, with no fault after them, does nothing. -/
theorem restyleTags_nil_none : restyleTags fragment [] none = pure ([], []) := rfl

/-- Restyling tags restyles the first, then the rest. -/
theorem restyleTags_cons (t : OpenTag) (ts : List OpenTag) (fault : Option Nat) :
    restyleTags fragment (t :: ts) fault = (do
      let (edits, classes) ← restyleAt fragment t.stop t
      let (moreEdits, moreClasses) ← restyleTags fragment ts fault
      pure (edits ++ moreEdits, classes ++ moreClasses)) := rfl

/-- Restyling two runs of tags one after the other restyles them in one loop. -/
theorem restyleTags_append (fault : Option Nat) :
    ∀ (tags more : List OpenTag), restyleTags fragment (tags ++ more) fault = (do
      let (edits, classes) ← restyleTags fragment tags none
      let (moreEdits, moreClasses) ← restyleTags fragment more fault
      pure (edits ++ moreEdits, classes ++ moreClasses))
  | [], more => by simp [restyleTags_nil_none]
  | t :: ts, more => by
    simp only [List.cons_append, restyleTags_cons, restyleTags_append fault ts more, bind_assoc,
      pure_bind, List.append_assoc]

/-- Handling the tags of a segment is restyling the tags it handles, then going on where it
says. -/
theorem handleTags_eq (offset : Nat) :
    ∀ (tags : List OpenTag) (ending : Ending), handleTags fragment offset tags ending =
      (fun r => (r.1, r.2, (segmentTags fragment offset tags ending).2.2)) <$>
        restyleTags fragment (segmentTags fragment offset tags ending).1
          (segmentTags fragment offset tags ending).2.1
  | [], .finished => by simp [handleTags, segmentTags, restyleTags_nil_none]
  | [], .malformed => by simp [handleTags, segmentTags, restyleTags]
  | t :: ts, ending => by
    rw [handleTags, segmentTags]
    split
    · simp only [restyleTags_cons, restyleTags_nil_none, OpenTag.shift_stop, restyleAt_shift,
        map_bind, bind_pure_comp, Functor.map_map]
      refine congrArg _ (funext fun r => ?_)
      cases rawTextEnd fragment (offset + t.stop) t.name <;> simp
    · simp only [handleTags_eq offset ts ending, restyleTags_cons, OpenTag.shift_stop,
        restyleAt_shift, map_bind, bind_pure_comp, Functor.map_map]

/-- The segment reader restyles the tags it meets in order, and fails after them when it stops
on markup it cannot read. -/
theorem segments_eq_restyleTags (fragment : List Char) (offset : Nat) :
    segments fragment offset =
      restyleTags fragment (readTags fragment offset).1 (readTags fragment offset).2 := by
  fun_induction readTags fragment offset with
  | case1 offset hlt hdrop =>
    rw [segments, if_pos hlt, hdrop]
    rfl
  | case2 offset hlt rest hdrop here fault hseg =>
    rw [segments, if_pos hlt, hdrop]
    simp only [handleTags_eq, hseg, map_eq_pure_bind, bind_assoc, pure_bind, Prod.eta,
      bind_pure]
  | case3 offset hlt rest hdrop here fault resume hseg hres more fault' hmore ih =>
    have hfault : fault = none := by
      have h : (segmentTags fragment offset (read rest).1 (read rest).2).2.1 = none :=
        segmentTags_fault_of_resumeAt (by rw [hseg])
      rwa [hseg] at h
    rw [segments, if_pos hlt, hdrop]
    simp only [handleTags_eq, hseg, hfault, map_eq_pure_bind, bind_assoc, pure_bind, if_pos hres,
      ih, hmore, restyleTags_append]
  | case4 offset hlt rest hdrop here fault resume hseg hres =>
    rw [segments, if_pos hlt, hdrop]
    simp only [handleTags_eq, hseg, map_eq_pure_bind, bind_assoc, pure_bind, if_neg hres,
      Prod.eta, bind_pure]
  | case5 offset hge =>
    rw [segments, if_neg hge]
    rfl

end StrictCsp.Fragment
