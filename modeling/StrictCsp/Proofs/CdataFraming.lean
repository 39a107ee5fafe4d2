import StrictCsp.PartialResponse
import Mathlib.Data.List.Forall2

/-!
# Character data sections through style extraction

A partial response is cut into characters and character data sections, each
section is restyled on its own, and the pieces are written back in order
(`extractStyles`). `SectionsRun` states what is written for each piece: a
character as itself, a section as it was when its fragment did not change or
could not be read, and otherwise the restyled fragment between the section
marks. A successful extraction is such a run (`extractStyles_run`).

Whether the written text is read back as the same sections is a question of
the closing mark `]]>` alone. A character that started no section still starts
none, since the nine characters from it agree and a section that would start
there would have to run on to a closing mark that was not there before
(`cdataSection_plain`). So the sections of the output are exactly the written
ones when no restyled fragment holds the closing mark
(`SectionsRun.pieces_flatMap_iff`), and the main statement
(`extractStyles_framing`) gives both halves for every response that changed.
A fragment may hold the mark: a style value that spells it with entities
comes out decoded in the style block, which then closes the section early
(`extractStyles_decoded_close_splits_section`).
-/

namespace StrictCsp.PartialResponse

open StrictCsp.Entropy StrictCsp.Text StrictCsp.Markup StrictCsp.Markup.Pattern StrictCsp.Fragment

/-- Restyling a fragment keeps its success; an error that can be recovered from leaves it
unchanged, and any other stop goes on. -/
theorem attemptFragment_run (nonce : String) (content : List Char) (src : Source) :
    (attemptFragment nonce content).run src = match (restyleFragment nonce content).run src with
      | (.ok r, s) => (.ok r, s)
      | (.error (.error e), s) => if e.isDegradable then (.ok none, s) else (.error (.error e), s)
      | (.error (.panic p), s) => (.error (.panic p), s) := by
  rw [attemptFragment, Draw.run_tryCatch]
  rcases (restyleFragment nonce content).run src with ⟨_ | _, s⟩
  · rename_i stop
    cases stop with
    | error e =>
      simp only
      split <;> rfl
    | panic p => rfl
  · rfl

/-- An attempt at a fragment answers exactly what restyling answered, or nothing after an error
that can be recovered from. -/
theorem attemptFragment_ok {nonce : String} {content : List Char} {src mid : Source}
    {changed : Option (List Char)} :
    (attemptFragment nonce content).run src = (.ok changed, mid) ↔
      (restyleFragment nonce content).run src = (.ok changed, mid) ∨
        changed = none ∧ ∃ e : EngineError, e.isDegradable = true ∧
          (restyleFragment nonce content).run src = (.error (.error e), mid) := by
  rw [attemptFragment_run]
  rcases (restyleFragment nonce content).run src with ⟨stop | r, s⟩
  · cases stop with
    | error e =>
      cases hdeg : e.isDegradable
      · simp [hdeg]
      · simp only [hdeg, if_true]
        constructor
        · intro h
          cases h
          exact .inr ⟨rfl, e, hdeg, rfl⟩
        · rintro (h | ⟨rfl, e', -, h⟩)
          · cases h
          · cases h
            rfl
    | panic p => simp
  · simp

/-- Restyling a section is the attempt at its fragment followed by the rest on the source it
left; the section is written again only when its fragment changed. -/
theorem restyleSections_hit_run (nonce : String) (block content : List Char)
    (ps : List (Recogniser.Piece (List Char))) (src : Source) :
    (restyleSections nonce (.hit block content :: ps)).run src =
      match (attemptFragment nonce content).run src with
      | (.ok changed, mid) => match (restyleSections nonce ps).run mid with
        | (.ok (out, n), s) => (.ok (match changed with
            | some g => ((cdataOpen ++ g ++ cdataClose) :: out, n + 1)
            | none => (block :: out, n)), s)
        | (.error e, s) => (.error e, s)
      | (.error e, s) => (.error e, s) := by
  rw [restyleSections, Draw.run_bind]
  rcases (attemptFragment nonce content).run src with ⟨_ | changed, mid⟩
  · rfl
  · simp only
    rw [Draw.run_bind]
    rcases (restyleSections nonce ps).run mid with ⟨_ | ⟨out, n⟩, s⟩
    · rfl
    · cases changed <;> rfl

/-- The sections of a response restyled one after another on one source: what is written for
each piece, and how many sections changed. -/
inductive SectionsRun (nonce : String) :
    Source → List (Recogniser.Piece (List Char)) → List (Recogniser.Piece (List Char)) → Nat →
      Source → Prop where
  /-- No piece left. -/
  | done (src : Source) : SectionsRun nonce src [] [] 0 src
  /-- A character outside the sections is written as itself, without drawing. -/
  | plain {src fin : Source} {c : Char} {ps ws : List (Recogniser.Piece (List Char))} {n : Nat} :
      SectionsRun nonce src ps ws n fin →
      SectionsRun nonce src (.plain c :: ps) (.plain c :: ws) n fin
  /-- A section whose fragment did not change, or could not be read, is written as it was. -/
  | kept {src mid fin : Source} {block content : List Char}
      {ps ws : List (Recogniser.Piece (List Char))} {n : Nat} :
      ((restyleFragment nonce content).run src = (.ok none, mid) ∨
        ∃ e : EngineError, e.isDegradable = true ∧
          (restyleFragment nonce content).run src = (.error (.error e), mid)) →
      SectionsRun nonce mid ps ws n fin →
      SectionsRun nonce src (.hit block content :: ps) (.hit block content :: ws) n fin
  /-- A section whose fragment was restyled is written around the restyled fragment. -/
  | restyled {src mid fin : Source} {block content g : List Char}
      {ps ws : List (Recogniser.Piece (List Char))} {n : Nat} :
      (restyleFragment nonce content).run src = (.ok (some g), mid) →
      SectionsRun nonce mid ps ws n fin →
      SectionsRun nonce src (.hit block content :: ps)
        (.hit (cdataOpen ++ g ++ cdataClose) g :: ws) (n + 1) fin

/-- Restyling the sections succeeds only along a run, and writes the texts of its pieces. -/
theorem restyleSections_run (nonce : String) :
    ∀ (ps : List (Recogniser.Piece (List Char))) {src fin : Source} {out : List (List Char)}
      {n : Nat}, (restyleSections nonce ps).run src = (.ok (out, n), fin) →
      ∃ ws, SectionsRun nonce src ps ws n fin ∧ out = ws.map Recogniser.Piece.text
  | [], src, fin, out, n, h => by
    simp only [restyleSections, Draw.run_pure, Prod.mk.injEq, Except.ok.injEq] at h
    obtain ⟨⟨rfl, rfl⟩, rfl⟩ := h
    exact ⟨[], .done _, rfl⟩
  | .plain c :: ps, src, fin, out, n, h => by
    rw [restyleSections] at h
    obtain ⟨⟨out', n'⟩, s, hrest, hpure⟩ := Draw.run_bind_eq_ok h
    simp only [Draw.run_pure, Prod.mk.injEq, Except.ok.injEq] at hpure
    obtain ⟨⟨rfl, rfl⟩, rfl⟩ := hpure
    obtain ⟨ws, hws, rfl⟩ := restyleSections_run nonce ps hrest
    exact ⟨.plain c :: ws, .plain hws, rfl⟩
  | .hit block content :: ps, src, fin, out, n, h => by
    rw [restyleSections_hit_run] at h
    rcases ha : (attemptFragment nonce content).run src with ⟨_ | changed, mid⟩
    · simp only [ha] at h
      cases h
    simp only [ha] at h
    rcases hrest : (restyleSections nonce ps).run mid with ⟨_ | ⟨out', n'⟩, s⟩
    · simp only [hrest] at h
      cases h
    simp only [hrest] at h
    obtain ⟨ws, hws, rfl⟩ := restyleSections_run nonce ps hrest
    cases changed with
    | none =>
      simp only [Prod.mk.injEq, Except.ok.injEq] at h
      obtain ⟨⟨rfl, rfl⟩, rfl⟩ := h
      exact ⟨_, .kept ((attemptFragment_ok.mp ha).imp_right And.right) hws, rfl⟩
    | some g =>
      simp only [Prod.mk.injEq, Except.ok.injEq] at h
      obtain ⟨⟨rfl, rfl⟩, rfl⟩ := h
      exact ⟨_, .restyled ((attemptFragment_ok.mp ha).resolve_right (by simp)) hws, rfl⟩

/-- A response that changed is the text of a run over its pieces in which some section was
restyled. -/
theorem extractStyles_run {html o : List Char} {nonce : String} {src fin : Source}
    (h : (extractStyles html nonce).run src = (.ok (some o), fin)) :
    ∃ ws n, SectionsRun nonce src (Recogniser.pieces cdataSection html) ws n fin ∧ 0 < n ∧
      o = ws.flatMap Recogniser.Piece.text := by
  unfold extractStyles at h
  split at h
  · simp at h
  · obtain ⟨⟨out, n⟩, s, hr, hpure⟩ := Draw.run_bind_eq_ok h
    obtain ⟨ws, hws, rfl⟩ := restyleSections_run nonce _ hr
    simp only [Draw.run_pure, Prod.mk.injEq] at hpure
    obtain ⟨hsome, rfl⟩ := hpure
    split at hsome
    · rename_i hn
      cases hsome
      exact ⟨ws, n, hws, hn, by simp [List.flatMap_def]⟩
    · cases hsome

open Recogniser in
/-- How a piece of a response stands to the piece written in its place: a character as itself,
and a section written as the marks around a content without the closing mark. -/
def Reframes : Piece (List Char) → Piece (List Char) → Prop
  | .plain c, .plain c' => c' = c
  | .hit t f, .hit t' g =>
    t = cdataOpen ++ f ++ cdataClose ∧ t' = cdataOpen ++ g ++ cdataClose ∧ ¬ cdataClose <:+: g
  | _, _ => False

open Recogniser in
/-- Written pieces agree with the pieces they stand for on their first nine characters. -/
theorem take_flatMap_reframes {P W : List (Piece (List Char))} (h : List.Forall₂ Reframes P W) :
    ∀ n, n ≤ cdataOpen.length → (P.flatMap Piece.text).take n = (W.flatMap Piece.text).take n := by
  induction h with
  | nil => intro n _; rfl
  | @cons p w P' W' hpw _ ih =>
    intro n hn
    cases p with
    | plain c =>
      cases w with
      | plain c' =>
        cases hpw
        cases n with
        | zero => rfl
        | succ k =>
          simp only [List.flatMap_cons, Piece.text, List.cons_append, List.nil_append,
            List.take_succ_cons]
          rw [ih k (by omega)]
      | hit => cases hpw
    | hit t f =>
      cases w with
      | plain => cases hpw
      | hit t' g =>
        obtain ⟨rfl, rfl, -⟩ := hpw
        simp only [List.flatMap_cons, Piece.text, List.append_assoc]
        rw [List.take_append_of_le_length hn, List.take_append_of_le_length hn]

open Recogniser in
/-- Every section among the pieces of a text is a whole section, marks included, whose content
holds no closing mark. -/
theorem hit_mem_pieces {t f : List Char} :
    ∀ {s : List Char}, Piece.hit t f ∈ pieces cdataSection s →
      t = cdataOpen ++ f ++ cdataClose ∧ ¬ cdataClose <:+: f := by
  intro s
  fun_induction pieces cdataSection s with
  | case1 => simp
  | case2 c cs hit hm hpos ih =>
    intro hmem
    rcases List.mem_cons.mp hmem with he | hmem'
    · cases he
      obtain ⟨r, hs, hclean, hl⟩ := cdataSection_eq_some hm
      refine ⟨?_, hclean⟩
      rw [hl, hs, List.take_left]
    · exact ih hmem'
  | case3 c cs hit hm hpos ih =>
    intro hmem
    rcases List.mem_cons.mp hmem with he | hmem'
    · cases he
    · exact ih hmem'
  | case4 c cs hm ih =>
    intro hmem
    rcases List.mem_cons.mp hmem with he | hmem'
    · cases he
    · exact ih hmem'

open Recogniser in
/-- Pieces whose sections all carry their closing mark hold that mark after any eight of their
characters. -/
theorem close_infix_drop {P : List (Piece (List Char))} {t f : List Char}
    (hmem : Piece.hit t f ∈ P) (ht : t = cdataOpen ++ f ++ cdataClose) :
    cdataClose <:+: (P.flatMap Piece.text).drop 8 := by
  obtain ⟨A, B, rfl⟩ := List.append_of_mem hmem
  have hlen : 8 ≤ (A.flatMap Piece.text ++ (cdataOpen ++ f)).length := by
    simp only [List.length_append]
    have : cdataOpen.length = 9 := rfl
    omega
  have hsplit : (A ++ Piece.hit t f :: B).flatMap Piece.text =
      (A.flatMap Piece.text ++ (cdataOpen ++ f)) ++ cdataClose ++ B.flatMap Piece.text := by
    simp [ht, List.flatMap_append, Piece.text]
  rw [hsplit, List.append_assoc, List.drop_append_of_le_length hlen]
  exact List.infix_append' _ _ _

open Recogniser in
/-- Written pieces that stand for pieces without sections give back the same text. -/
theorem flatMap_text_of_no_hit {P W : List (Piece (List Char))} (h : List.Forall₂ Reframes P W)
    (hno : ∀ t f, Piece.hit t f ∉ P) : W.flatMap Piece.text = P.flatMap Piece.text := by
  induction h with
  | nil => rfl
  | @cons p w P' W' hpw _ ih =>
    have ih' := ih (fun t f hm => hno t f (List.mem_cons_of_mem _ hm))
    cases p with
    | plain c =>
      cases w with
      | plain c' =>
        cases hpw
        simp [ih']
      | hit => cases hpw
    | hit t f => exact absurd (List.mem_cons_self) (hno t f)

/-- Whether a text opens a section is read off its first nine characters. -/
theorem isPrefixOf_cdataOpen_take (s : List Char) :
    cdataOpen.isPrefixOf s = cdataOpen.isPrefixOf (s.take 9) := by
  apply Bool.eq_iff_iff.mpr
  simp only [List.isPrefixOf_iff_prefix, List.prefix_take_iff]
  exact ⟨fun h => ⟨h, Nat.le_refl _⟩, fun h => h.1⟩

open Recogniser in
/-- Where a response has no section, neither has the text written for it: a section can only
start at the same characters, and a section that would run on finds no closing mark. -/
theorem cdataSection_plain {c : Char} {xs : List Char} {P W : List (Piece (List Char))}
    (hnone : ∀ hit, cdataSection (c :: xs) = some hit → hit.length = 0)
    (hP : pieces cdataSection xs = P) (hR : List.Forall₂ Reframes P W) :
    cdataSection (c :: W.flatMap Piece.text) = none := by
  have hxs : P.flatMap Piece.text = xs := by rw [← hP]; exact flatMap_text_pieces _ xs
  have hx : cdataSection (c :: xs) = none := by
    cases hm : cdataSection (c :: xs) with
    | none => rfl
    | some hit => exact absurd (hnone hit hm) (Nat.pos_iff_ne_zero.mp (cdataSection_length_pos hm))
  have htake : (c :: xs).take 9 = (c :: W.flatMap Piece.text).take 9 := by
    simp only [List.take_succ_cons]
    rw [← hxs, take_flatMap_reframes hR 8 (by decide)]
  simp only [cdataSection, ofRest, Option.bind_eq_bind, Option.map_eq_none_iff,
    Option.bind_eq_none_iff, literal?] at hx ⊢
  intro rest hlit
  split at hlit
  · rename_i hpre
    cases hlit
    have hpre' : cdataOpen.isPrefixOf (c :: xs) = true := by
      rw [isPrefixOf_cdataOpen_take, htake, ← isPrefixOf_cdataOpen_take]
      exact hpre
    have hsplit := hx _ (by rw [if_pos hpre'])
    have hclose := splitAtClose_eq_none hsplit
    have hd : List.drop cdataOpen.length (c :: xs) = xs.drop 8 := rfl
    rw [hd] at hclose
    have hno : ∀ t f, Piece.hit t f ∉ P := by
      intro t f hmem
      have hshape := hit_mem_pieces (hP ▸ hmem)
      apply hclose
      have := close_infix_drop hmem hshape.1
      rw [hxs] at this
      simpa using this
    rw [flatMap_text_of_no_hit hR hno, hxs]
    exact hsplit
  · cases hlit

open Recogniser in
/-- Pieces written in place of the pieces of a text, characters as themselves and sections
around contents without the closing mark, are exactly the pieces of the written text. -/
theorem pieces_flatMap_of_reframes {P W : List (Piece (List Char))}
    (hR : List.Forall₂ Reframes P W) :
    ∀ {x : List Char}, pieces cdataSection x = P →
      pieces cdataSection (W.flatMap Piece.text) = W := by
  induction hR with
  | nil => intro x _; simp [pieces]
  | @cons p w P' W' hpw hrest ih =>
    intro x hx
    cases p with
    | plain c =>
      cases w with
      | plain c' =>
        cases hpw
        obtain ⟨xs, rfl, hxs, hnone⟩ := pieces_eq_plain_cons hx
        simp only [List.flatMap_cons, Piece.text, List.cons_append, List.nil_append]
        rw [pieces_of_none (cdataSection_plain hnone hxs hrest), ih hxs]
      | hit => cases hpw
    | hit t f =>
      cases w with
      | plain => cases hpw
      | hit t' g =>
        obtain ⟨-, rfl, hg⟩ := hpw
        obtain ⟨hit, -, -, -, -, hdrop⟩ := pieces_eq_hit_cons hx
        have hsec := cdataSection_section hg (W'.flatMap Piece.text)
        have hlen : 0 < (cdataOpen ++ g ++ cdataClose).length := cdataSection_length_pos hsec
        have hne : cdataOpen ++ g ++ cdataClose ++ W'.flatMap Piece.text ≠ [] :=
          List.ne_nil_of_length_pos (by simp only [List.length_append] at hlen ⊢; omega)
        obtain ⟨c, cs, hcs⟩ := List.exists_cons_of_ne_nil hne
        simp only [List.flatMap_cons, Piece.text]
        rw [hcs, pieces_of_hit (hcs ▸ hsec) hlen, ← hcs, List.take_left, List.drop_left, ih hdrop]

/-- Sections restyled one after another are written as characters kept, sections kept, and
sections around their restyled content. -/
theorem SectionsRun.reframes {nonce : String} {src fin : Source}
    {ps ws : List (Recogniser.Piece (List Char))} {n : Nat}
    (hrun : SectionsRun nonce src ps ws n fin)
    (hps : ∀ t f, Recogniser.Piece.hit t f ∈ ps → t = cdataOpen ++ f ++ cdataClose ∧
      ¬ cdataClose <:+: f)
    (hws : ∀ t g, Recogniser.Piece.hit t g ∈ ws → ¬ cdataClose <:+: g) :
    List.Forall₂ Reframes ps ws := by
  induction hrun with
  | done => exact .nil
  | plain _ ih =>
    exact .cons rfl (ih (fun t f hm => hps t f (List.mem_cons_of_mem _ hm))
      (fun t g hm => hws t g (List.mem_cons_of_mem _ hm)))
  | @kept _ _ _ block content _ _ _ _ _ ih =>
    obtain ⟨hshape, hclean⟩ := hps block content List.mem_cons_self
    exact .cons ⟨hshape, hshape, hclean⟩ (ih (fun t f hm => hps t f (List.mem_cons_of_mem _ hm))
      (fun t g hm => hws t g (List.mem_cons_of_mem _ hm)))
  | @restyled _ _ _ block content g _ _ _ _ _ ih =>
    exact .cons ⟨(hps block content List.mem_cons_self).1, rfl, hws _ g List.mem_cons_self⟩
      (ih (fun t f hm => hps t f (List.mem_cons_of_mem _ hm))
        (fun t g hm => hws t g (List.mem_cons_of_mem _ hm)))

/-- The sections written for a response are read back as they were written exactly when no
restyled content holds the closing mark. -/
theorem SectionsRun.pieces_flatMap_iff {nonce : String} {html : List Char} {src fin : Source}
    {ws : List (Recogniser.Piece (List Char))} {n : Nat}
    (hrun : SectionsRun nonce src (Recogniser.pieces cdataSection html) ws n fin) :
    Recogniser.pieces cdataSection (ws.flatMap Recogniser.Piece.text) = ws ↔
      ∀ t g, Recogniser.Piece.hit t g ∈ ws → ¬ cdataClose <:+: g := by
  constructor
  · intro h t g hmem
    rw [← h] at hmem
    exact (hit_mem_pieces hmem).2
  · intro hclean
    exact pieces_flatMap_of_reframes (hrun.reframes (fun _ _ hm => hit_mem_pieces hm) hclean) rfl

/-- Moving the inline styles of a partial response keeps its character data sections, one for
one, in order, with the text around them, each section as it was or around its restyled
content, exactly when no restyled content holds the closing mark `]]>`. -/
theorem extractStyles_framing {html o : List Char} {nonce : String} {src fin : Source}
    (h : (extractStyles html nonce).run src = (.ok (some o), fin)) :
    ∃ ws n, SectionsRun nonce src (Recogniser.pieces cdataSection html) ws n fin ∧ 0 < n ∧
      o = ws.flatMap Recogniser.Piece.text ∧
      (Recogniser.pieces cdataSection o = ws ↔
        ∀ t g, Recogniser.Piece.hit t g ∈ ws → ¬ cdataClose <:+: g) := by
  obtain ⟨ws, n, hrun, hn, rfl⟩ := extractStyles_run h
  exact ⟨ws, n, hrun, hn, rfl, hrun.pieces_flatMap_iff⟩

/-- One styled section moved into a nonced class: the run, and what the framing theorem says of
it. -/
theorem extractStyles_framing_of_one_style :
    ∃ o fin, (extractStyles "partial-response<![CDATA[<p style=\"c\">x</p>]]>".toList "N").run
        (.scripted ⟨[7], .fails⟩) = (.ok (some o), fin) ∧
      ∃ ws n, SectionsRun "N" (.scripted ⟨[7], .fails⟩)
          (Recogniser.pieces cdataSection "partial-response<![CDATA[<p style=\"c\">x</p>]]>".toList)
          ws n fin ∧ 0 < n ∧ o = ws.flatMap Recogniser.Piece.text ∧
        (Recogniser.pieces cdataSection o = ws ↔
          ∀ t g, Recogniser.Piece.hit t g ∈ ws → ¬ cdataClose <:+: g) := by
  have hrun : (extractStyles "partial-response<![CDATA[<p style=\"c\">x</p>]]>".toList "N").run
      (.scripted ⟨[7], .fails⟩) =
        (.ok (some ("partial-response<![CDATA[<style type=\"text/css\" nonce=\"N\">" ++
          ".cspdog-style-7 \x7b c \x7d </style><p class=\"cspdog-style-7\">x</p>]]>").toList),
        .scripted ⟨[], .fails⟩) := by
    decide +kernel
  exact ⟨_, _, hrun, extractStyles_framing hrun⟩

/-- A style value that spells the closing mark with entities splits the section it stood in. -/
theorem extractStyles_decoded_close_splits_section :
    (extractStyles ("partial-response<![CDATA[<p style=\"a]]&gt;&lt;![CDATA[&lt;i " ++
        "style=&quot;c&quot;&gt;\">x</p>]]>").toList "N").run (.scripted ⟨[7], .fails⟩) =
      (.ok (some ("partial-response<![CDATA[<style type=\"text/css\" nonce=\"N\">" ++
        ".cspdog-style-7 \x7b a]]><![CDATA[<i style=\"c\"> \x7d </style>" ++
        "<p class=\"cspdog-style-7\">x</p>]]>").toList),
        .scripted ⟨[], .fails⟩) ∧
    (Recogniser.findAll cdataSection ("partial-response<![CDATA[<p style=\"a]]&gt;" ++
        "&lt;![CDATA[&lt;i style=&quot;c&quot;&gt;\">x</p>]]>").toList).length = 1 ∧
    (Recogniser.findAll cdataSection ("partial-response<![CDATA[<style type=\"text/css\" " ++
        "nonce=\"N\">.cspdog-style-7 \x7b a]]><![CDATA[<i style=\"c\"> \x7d </style><p " ++
        "class=\"cspdog-style-7\">x</p>]]>").toList).length = 2 := by
  decide +kernel

end StrictCsp.PartialResponse
