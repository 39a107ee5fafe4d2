import StrictCsp.Fragment.Draws
import StrictCsp.Proofs.CdataFraming

/-!
# What style extraction draws

A response that is not a styled partial response draws nothing. Otherwise its
character data sections are restyled from left to right, and each draws one
value per tag with a style that the segment reader meets in its fragment, up to
the first tag that cannot be restyled (`fragmentDraws`). A section whose
fragment then fails to read is left as it was, but the values it drew stay
drawn; only a draw that fails stops the whole extraction, at once.

All of this is one statement: extraction draws the values of all sections up
front, the first section's first, and then computes the response from them
without drawing (`extractStyles_upFront`). In a restyled section the i-th value
drawn for it names the class of its i-th tag with a style and the i-th rule of
its style block (`restyleFragmentWith_classes`).
-/

namespace StrictCsp.PartialResponse

open StrictCsp.Entropy StrictCsp.Text StrictCsp.Markup StrictCsp.Markup.Pattern StrictCsp.Fragment
open Recogniser (Piece)

/-- What restyling a section gives from the values it drew: the restyled fragment, or nothing
when the fragment did not change or could not be read. -/
def attemptWith (nonce : String) (content : List Char) (vs : List Int64) : Option (List Char) :=
  match restyleFragmentWith nonce content vs with
  | .ok changed => changed
  | .error _ => none

/-- The values restyling the sections of a response draws: those of each section in turn. -/
def sectionDraws : List (Piece (List Char)) → Nat
  | [] => 0
  | .plain _ :: ps => sectionDraws ps
  | .hit _ content :: ps => fragmentDraws content + sectionDraws ps

/-- What restyling the sections gives from the values it drew: each section takes its values in
turn, and the sections that changed are counted. -/
def sectionsWith (nonce : String) : List (Piece (List Char)) → List Int64 → List (List Char) × Nat
  | [], _ => ([], 0)
  | .plain c :: ps, vs =>
    let (out, n) := sectionsWith nonce ps vs
    ([c] :: out, n)
  | .hit block content :: ps, vs =>
    let (out, n) := sectionsWith nonce ps (vs.drop (fragmentDraws content))
    match attemptWith nonce content (vs.take (fragmentDraws content)) with
    | some g => ((cdataOpen ++ g ++ cdataClose) :: out, n + 1)
    | none => (block :: out, n)

/-- What style extraction gives from the values it drew. -/
def extractWith (html : List Char) (nonce : String) (vs : List Int64) : Option (List Char) :=
  let (out, changed) := sectionsWith nonce (Recogniser.pieces cdataSection html) vs
  if 0 < changed then some out.flatten else none

section Pure

variable {fragment : List Char}

/-- Restyling from drawn values fails only on markup that cannot be read, which a section
recovers from. -/
theorem restyleTagsWith_error :
    ∀ {tags : List OpenTag} {fault : Option Nat} {vs : List Int64} {s : Stop},
      restyleTagsWith fragment tags fault vs = .error s →
      ∃ e : EngineError, s = .error e ∧ e.isDegradable = true
  | [], none, _, _, h => by cases h
  | [], some offset, _, _, h => by
    cases h
    exact ⟨_, rfl, rfl⟩
  | t :: ts, fault, vs, s, h => by
    simp only [restyleTagsWith] at h
    split at h
    · cases h
      exact ⟨_, rfl, rfl⟩
    · split at h
      · exact restyleTagsWith_error h
      · split at h
        · rcases hrest : restyleTagsWith fragment ts fault vs.tail with e | r
          · rw [hrest] at h
            cases h
            exact restyleTagsWith_error hrest
          · rw [hrest] at h
            cases h
        · cases h
          exact ⟨_, rfl, rfl⟩

/-- Restyling from values fails only with an error the page may degrade on. -/
theorem restyleFragmentWith_error {nonce : String} {vs : List Int64} {s : Stop}
    (h : restyleFragmentWith nonce fragment vs = .error s) :
    ∃ e : EngineError, s = .error e ∧ e.isDegradable = true := by
  unfold restyleFragmentWith at h
  rcases hr : restyleTagsWith fragment (readTags fragment 0).1 (readTags fragment 0).2 vs with
    e | r
  · rw [hr] at h
    cases h
    exact restyleTagsWith_error hr
  · rw [hr] at h
    cases h

/-- A fragment without a tag with a style is left alone, whatever the values. -/
theorem attemptWith_of_unstyled {nonce : String} (h : styledTags (readTags fragment 0).1 = [])
    (vs : List Int64) : attemptWith nonce fragment vs = none := by
  unfold attemptWith
  rcases hr : restyleFragmentWith nonce fragment vs with e | _ | g
  · rfl
  · rfl
  · obtain ⟨edits, classes, hne, -, -, hedits⟩ := restyleFragmentWith_some hr
      (by rw [h]; exact Nat.zero_le _)
    rw [h, List.zip_nil_right] at hedits
    exact absurd (List.forall₂_nil_right_iff.mp hedits) hne

end Pure

section Sections

variable {nonce : String}

/-- An attempt at a section draws the values of its fragment up front; what a fragment that cannot
be read drew stays drawn. A failed draw is fatal, so the attempt passes it on. -/
theorem attemptFragment_upFront (content : List Char) :
    (attemptFragment nonce content).UpFront (fragmentDraws content)
      fun vs => .ok (attemptWith nonce content vs) := by
  intro src
  rw [attemptFragment_run, restyleFragment_upFront nonce content src, afterValues_run,
    afterValues_run]
  rcases hd : (drawValues (fragmentDraws content)).run src with ⟨e | vs, s⟩
  · have hfatal := drawValues_run_error hd
    cases e with
    | error e =>
      simp only [Stop.Fatal] at hfatal
      simp only [hfatal, Bool.false_eq_true, if_false]
    | panic p => rfl
  · simp only [attemptWith]
    rcases hr : restyleFragmentWith nonce content vs with e | changed
    · obtain ⟨e', rfl, hdeg⟩ := restyleFragmentWith_error hr
      simp only [hdeg, if_true]
    · rfl

/-- Restyling the sections of a response draws the values of each section in turn, up front. -/
theorem restyleSections_upFront :
    ∀ ps : List (Piece (List Char)),
      (restyleSections nonce ps).UpFront (sectionDraws ps) fun vs => .ok (sectionsWith nonce ps vs)
  | [] => Draw.UpFront.pure _
  | .plain c :: ps => by
    rw [restyleSections]
    exact (restyleSections_upFront ps).bind_pure _
  | .hit block content :: ps => by
    have hstep : restyleSections nonce (.hit block content :: ps) =
        (attemptFragment nonce content >>= fun changed => restyleSections nonce ps >>= fun r =>
          pure (match changed with
            | some g => ((cdataOpen ++ g ++ cdataClose) :: r.1, r.2 + 1)
            | none => (block :: r.1, r.2))) := by
      rw [restyleSections]
      refine congrArg _ (funext fun changed => congrArg _ (funext fun r => ?_))
      cases changed <;> rfl
    rw [hstep]
    exact (attemptFragment_upFront content).bind fun changed =>
      (restyleSections_upFront ps).bind_pure _

/-- A styled partial response draws the values of its sections up front, the first section's
first, and the response is computed from them without drawing. -/
theorem extractStyles_upFront {html : List Char} (h : isStyled html = true) :
    (extractStyles html nonce).UpFront (sectionDraws (Recogniser.pieces cdataSection html))
      fun vs => .ok (extractWith html nonce vs) := by
  have hstep : extractStyles html nonce =
      (restyleSections nonce (Recogniser.pieces cdataSection html) >>= fun r =>
        pure (if 0 < r.2 then some r.1.flatten else none)) := by
    simp only [extractStyles, h, Bool.not_true, Bool.false_eq_true, if_false]
  rw [hstep]
  exact (restyleSections_upFront _).bind_pure _

/-- Sections without a tag with a style draw nothing and none of them changes. -/
theorem sections_of_unstyled : ∀ {ps : List (Piece (List Char))},
    (∀ block content, Piece.hit block content ∈ ps → styledTags (readTags content 0).1 = []) →
    sectionDraws ps = 0 ∧ ∀ vs, (sectionsWith nonce ps vs).2 = 0
  | [], _ => ⟨rfl, fun _ => rfl⟩
  | .plain c :: ps, h => by
    obtain ⟨hdraws, hchanged⟩ := sections_of_unstyled fun block content hmem =>
      h block content (List.mem_cons_of_mem _ hmem)
    exact ⟨hdraws, fun vs => hchanged vs⟩
  | .hit block content :: ps, h => by
    have hcontent := h block content List.mem_cons_self
    obtain ⟨hdraws, hchanged⟩ := sections_of_unstyled fun block content hmem =>
      h block content (List.mem_cons_of_mem _ hmem)
    refine ⟨?_, fun vs => ?_⟩
    · simp only [sectionDraws, fragmentDraws, tagDraws_of_styledTags_nil hcontent, hdraws]
    · simp only [sectionsWith, attemptWith_of_unstyled hcontent]
      exact hchanged _

end Sections

/-- Style extraction draws nothing from a response that is not a styled partial response, and
otherwise draws the values of its sections up front: for each section in order, one value per
tag with a style that the segment reader meets in its fragment, up to the first tag that
cannot be restyled, whether or not the section is then restyled; a draw that fails stops it at
once. In a restyled section the i-th value drawn for it names the class of its i-th tag with a
style, which gives the i-th rule of its style block and the class its tag is written with. A
response whose sections hold no tag with a style comes back unchanged without drawing. -/
theorem extractStyles_draws (html : List Char) (nonce : String) :
    (isStyled html = false → ∀ src, (extractStyles html nonce).run src = (.ok none, src)) ∧
    (isStyled html = true →
      (extractStyles html nonce).UpFront (sectionDraws (Recogniser.pieces cdataSection html))
        fun vs => .ok (extractWith html nonce vs)) ∧
    (∀ content vs g, restyleFragmentWith nonce content vs = .ok (some g) →
      vs.length = fragmentDraws content →
      ∃ edits classes, g = applyEdits content (styleBlock nonce classes) 0 true edits ∧
        classes = List.zipWith classFor vs (styledTags (readTags content 0).1) ∧
        List.Forall₂ (StyledEdit content) edits (classes.zip (styledTags (readTags content 0).1))) ∧
    ((∀ block content, Piece.hit block content ∈ Recogniser.pieces cdataSection html →
        styledTags (readTags content 0).1 = []) →
      ∀ src, (extractStyles html nonce).run src = (.ok none, src)) := by
  refine ⟨fun h src => extractStyles_of_not_isStyled h nonce src, extractStyles_upFront,
    fun content vs g h hlen => ?_, fun h src => ?_⟩
  · have hdraws : fragmentDraws content = (styledTags (readTags content 0).1).length := by
      unfold restyleFragmentWith at h
      rcases hr : restyleTagsWith content (readTags content 0).1 (readTags content 0).2 vs with
        e | r
      · rw [hr] at h
        cases h
      · exact tagDraws_of_restyleTagsWith_ok hr
    obtain ⟨edits, classes, -, hg, hclasses, hedits⟩ :=
      restyleFragmentWith_some h (Nat.le_of_eq (by rw [hlen, hdraws]))
    exact ⟨edits, classes, hg, hclasses, hedits⟩
  · cases hstyled : isStyled html
    · exact extractStyles_of_not_isStyled hstyled nonce src
    · obtain ⟨hdraws, hchanged⟩ : _ ∧ ∀ vs, (sectionsWith nonce _ vs).2 = 0 :=
        sections_of_unstyled h
      rw [extractStyles_upFront hstyled src, hdraws, afterValues_zero_run]
      simp only [extractWith, hchanged, Nat.lt_irrefl, if_false]

/-- A partial response with one styled section draws the values of its sections up front. -/
theorem extractStyles_draws_of_styled_section :
    isStyled "<partial-response><![CDATA[<p style=\"a\">x</p>]]></partial-response>".toList = true ∧
      (extractStyles "<partial-response><![CDATA[<p style=\"a\">x</p>]]></partial-response>".toList
        "N").UpFront (sectionDraws (Recogniser.pieces cdataSection
          "<partial-response><![CDATA[<p style=\"a\">x</p>]]></partial-response>".toList))
        fun vs => .ok (extractWith
          "<partial-response><![CDATA[<p style=\"a\">x</p>]]></partial-response>".toList "N" vs) :=
  ⟨by decide, (extractStyles_draws _ "N").2.1 (by decide)⟩

end StrictCsp.PartialResponse
