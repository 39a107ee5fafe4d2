import StrictCsp.Fragment.Token

/-!
# Where the opening tags of a text stand

The reading machine reads a text one character at a time, so what it reads from
the front of a text does not depend on what follows. A text *glides* from one
mode to another when the machine reads it without completing a tag and without
failing (`glide`); the machine then reads whatever follows as it would from that
mode (`run_append_of_glide`).

An opening tag starts with a `<` read in text mode. Its markup is `<`, its
content and `>`, or `/>` for a tag that closes itself (`tagMarkup`), and read
from text mode it gives just that tag, whatever follows (`TagText`). The first
tag read from text splits the text into what glides back to text before it, its
markup and the rest (`run_text_eq_cons`), and a text read to its end without a
tag glides back to text (`glide_of_run_finished`). Conversely, markup whose
quotes close before its bracket is read as one tag (`tagText_of_scan`).
-/

namespace StrictCsp.Fragment

open StrictCsp.Text

/-- Reads a text without completing a tag or failing, giving the mode it ends in. -/
def glide : Mode → List Char → Option Mode
  | m, [] => some m
  | m, c :: cs =>
    match m.step c with
    | .next m' => glide m' cs
    | _ => none

/-- The modes outside an opening tag. -/
def Mode.Outer : Mode → Prop
  | .angle => False
  | .openTag _ _ => False
  | _ => True

/-- A character that can follow `<` in an opening tag. -/
def opensTag (c : Char) : Bool := c != '!' && c != '/' && c != '?' && c != '>'

/-- How an opening tag ends. -/
def closing (selfClosing : Bool) : List Char := if selfClosing then "/>".toList else ['>']

/-- An opening tag as written: `<`, its content, and how it ends. -/
def tagMarkup (content : List Char) (selfClosing : Bool) : List Char :=
  '<' :: content ++ closing selfClosing

/-- A text that, read from text mode, is one opening tag with the given content, whatever
follows it. -/
def TagText (markup content : List Char) (selfClosing : Bool) : Prop :=
  ∀ pos rest, run .text pos (markup ++ rest) =
    (⟨content, selfClosing, pos + byteLength markup⟩ ::
      (run .text (pos + byteLength markup) rest).1, (run .text (pos + byteLength markup) rest).2)

/-- Where a quote-aware scan of a tag stands after a text, or nothing when a bracket closes
the tag on the way. -/
def Quote.scan : Quote → List Char → Option Quote
  | q, [] => some q
  | q, c :: cs => if q = .outside ∧ c = '>' then none else scan (q.next c) cs

section Run

variable {m m' : Mode} {pos : Nat} {c : Char} {cs : List Char}

/-- A character that moves the reader on is read past. -/
theorem run_cons_next (h : m.step c = .next m') (pos : Nat) (cs : List Char) :
    run m pos (c :: cs) = run m' (pos + c.utf8Size) cs := by
  simp [run, h]

/-- A character that ends an opening tag adds the tag, ending right after it. -/
theorem run_cons_tag {content : List Char} {sc : Bool} (h : m.step c = .tag content sc)
    (pos : Nat) (cs : List Char) :
    run m pos (c :: cs) = (⟨content, sc, pos + c.utf8Size⟩ :: (run .text (pos + c.utf8Size) cs).1,
      (run .text (pos + c.utf8Size) cs).2) := by
  simp [run, h]

/-- Gliding over a character that moves the reader on glides over the rest from there. -/
theorem glide_cons_next (h : m.step c = .next m') (cs : List Char) :
    glide m (c :: cs) = glide m' cs := by
  simp [glide, h]

/-- Gliding over two texts glides over the first, then the second. -/
theorem glide_append (m : Mode) (u v : List Char) :
    glide m (u ++ v) = (glide m u).bind fun m' => glide m' v := by
  induction u generalizing m with
  | nil => rfl
  | cons c cs ih =>
    simp only [List.cons_append, glide]
    split
    · exact ih _
    · rfl

/-- After a text that glides, the machine reads on as from the mode it glided to. -/
theorem run_append_of_glide {X : List Char} (h : glide m X = some m') (pos : Nat)
    (S : List Char) : run m pos (X ++ S) = run m' (pos + byteLength X) S := by
  induction X generalizing m pos with
  | nil =>
    cases h
    simp
  | cons c cs ih =>
    simp only [glide] at h
    split at h
    · rename_i m₁ hstep
      rw [List.cons_append, run_cons_next hstep, ih h, byteLength_cons, Nat.add_assoc]
    · cases h

/-- A text glides to some mode exactly when it is read to its end without a tag; it is read
to its end outside any markup exactly when it glides back to text. -/
theorem glide_of_run_finished :
    ∀ {m : Mode} {pos : Nat} {S : List Char}, run m pos S = ([], .finished) →
      glide m S = some .text
  | m, pos, [], h => by
    simp only [run, Prod.mk.injEq, true_and] at h
    cases m <;> first | rfl | cases h
  | m, pos, c :: cs, h => by
    simp only [run] at h
    split at h
    · rename_i m₁ hstep
      rw [glide_cons_next hstep]
      exact glide_of_run_finished h
    · cases h
    · cases h

/-- The first tag the machine completes: the text it glides through, the character that
completes the tag, and the rest, read from text mode. -/
theorem run_first_tag :
    ∀ {m : Mode} {pos : Nat} {S : List Char} {t : OpenTag} {ts : List OpenTag},
      (run m pos S).1 = t :: ts →
      ∃ X c R mL, S = X ++ c :: R ∧ glide m X = some mL ∧
        mL.step c = .tag t.content t.selfClosing ∧ t.stop = pos + byteLength X + c.utf8Size ∧
        run .text t.stop R = (ts, (run m pos S).2)
  | m, pos, [], t, ts, h => by simp [run] at h
  | m, pos, c :: cs, t, ts, h => by
    cases hstep : m.step c with
    | next m₁ =>
      rw [run_cons_next hstep] at h ⊢
      obtain ⟨X, d, R, mL, rfl, hg, hd, hstop, hrest⟩ := run_first_tag h
      refine ⟨c :: X, d, R, mL, rfl, by rw [glide_cons_next hstep]; exact hg, hd, ?_, hrest⟩
      rw [hstop, byteLength_cons]
      omega
    | tag content sc =>
      rw [run_cons_tag hstep] at h ⊢
      obtain ⟨rfl, rfl⟩ := List.cons.inj h
      exact ⟨[], c, cs, m, rfl, rfl, hstep, by simp, rfl⟩
    | fail => simp [run, hstep] at h

end Run

section Steps

/-- Inside a tag every character but a closing bracket outside quotes is taken in. -/
theorem Mode.step_openTag_next {acc : List Char} {q : Quote} {c : Char}
    (h : ¬ (q = .outside ∧ c = '>')) :
    (Mode.openTag acc q).step c = .next (.openTag (c :: acc) (q.next c)) := by
  simp only [Mode.step]
  split <;> simp_all

/-- A closing bracket outside quotes completes the tag, which closes itself after a slash. -/
theorem Mode.step_openTag_close (acc : List Char) :
    (Mode.openTag acc .outside).step '>' =
      match acc with
      | '/' :: rest => .tag rest.reverse true
      | _ => .tag acc.reverse false := rfl

/-- Outside an opening tag a character fails, keeps the machine outside, or is the `<` that
starts a tag. -/
theorem Mode.step_outer {m : Mode} (hm : m.Outer) (c : Char) :
    m.step c = .fail ∨ (∃ m', m.step c = .next m' ∧ m'.Outer) ∨
      (m = .text ∧ c = '<' ∧ m.step c = .next .angle) := by
  cases m with
  | angle => exact absurd hm id
  | openTag acc q => exact absurd hm id
  | _ =>
    simp only [Mode.step]
    split <;> (try split) <;> (try split) <;> simp_all [Mode.Outer]

/-- The ways into a tag: `<` from text, a first character after it, or one more character
inside it. -/
theorem Mode.step_eq_next_inner {m m' : Mode} {c : Char} (h : m.step c = .next m')
    (hm' : ¬ m'.Outer) :
    (m = .text ∧ c = '<' ∧ m' = .angle) ∨
      (m = .angle ∧ opensTag c = true ∧ m' = .openTag [c] (Quote.outside.next c)) ∨
      ∃ acc q, m = .openTag acc q ∧ ¬ (q = .outside ∧ c = '>') ∧
        m' = .openTag (c :: acc) (q.next c) := by
  by_cases hm : m.Outer
  · rcases Mode.step_outer hm c with hf | ⟨m₁, h₁, ho⟩ | ⟨rfl, rfl, _⟩
    · rw [hf] at h
      cases h
    · rw [h₁] at h
      cases h
      exact absurd ho hm'
    · simp only [Mode.step, Move.next.injEq] at h
      exact .inl ⟨rfl, rfl, h.symm⟩
  · cases m with
    | angle =>
      refine .inr (.inl ⟨rfl, ?_⟩)
      simp only [Mode.step] at h
      split at h <;> (try cases h) <;> simp_all [opensTag, Mode.Outer]
    | openTag acc q =>
      refine .inr (.inr ⟨acc, q, rfl, ?_⟩)
      by_cases hq : q = .outside ∧ c = '>'
      · obtain ⟨rfl, rfl⟩ := hq
        rw [Mode.step_openTag_close] at h
        split at h <;> cases h
      · rw [Mode.step_openTag_next hq] at h
        cases h
        exact ⟨hq, rfl⟩
    | _ => exact absurd trivial hm

/-- Only a closing bracket completes a tag: right after `<`, or inside a tag and outside
quotes, where a slash before it makes the tag close itself. -/
theorem Mode.step_eq_tag {m : Mode} {c : Char} {content : List Char} {sc : Bool}
    (h : m.step c = .tag content sc) :
    c = '>' ∧ ((m = .angle ∧ content = [] ∧ sc = false) ∨
      ∃ acc, m = .openTag acc .outside ∧
        ((acc = '/' :: content.reverse ∧ sc = true) ∨
          (acc = content.reverse ∧ acc.head? ≠ some '/' ∧ sc = false))) := by
  cases m with
  | angle =>
    simp only [Mode.step] at h
    split at h <;> simp_all
  | openTag acc q =>
    by_cases hq : q = .outside ∧ c = '>'
    · obtain ⟨rfl, rfl⟩ := hq
      rw [Mode.step_openTag_close] at h
      refine ⟨rfl, .inr ⟨acc, rfl, ?_⟩⟩
      split at h
      · cases h
        exact .inl ⟨by simp, rfl⟩
      · rename_i hslash
        cases h
        refine .inr ⟨by simp, ?_, rfl⟩
        intro hhead
        obtain ⟨rest, rfl⟩ : ∃ rest, acc = '/' :: rest := by
          cases acc with
          | nil => cases hhead
          | cons a rest => exact ⟨rest, by simp at hhead; rw [hhead]⟩
        exact hslash rest rfl
    · rw [Mode.step_openTag_next hq] at h
      cases h
  | _ =>
    simp only [Mode.step] at h
    split at h <;> (try split at h) <;> (try split at h) <;> simp_all

end Steps

/-- The text before the machine stands inside a tag ends with the `<` that opened it, read from text
mode, and what was read of the tag since. The induction runs from the right end of the text, on its
reverse. -/
theorem glide_text_inner {X : List Char} {m : Mode} (h : glide .text X = some m)
    (hm : ¬ m.Outer) :
    ∃ X₀ body, X = X₀ ++ '<' :: body ∧ glide .text X₀ = some .text ∧
      ((body = [] ∧ m = .angle) ∨
        ∃ q, m = .openTag body.reverse q ∧ ∃ d ds, body = d :: ds ∧ opensTag d = true) := by
  rw [← List.reverse_reverse X] at h ⊢
  generalize X.reverse = Y at h ⊢
  induction Y generalizing m with
  | nil =>
    cases h
    exact absurd trivial hm
  | cons c Y ih =>
    rw [List.reverse_cons, glide_append] at h
    obtain ⟨m₀, hY, hc⟩ := Option.bind_eq_some_iff.mp h
    have hstep : m₀.step c = .next m := by
      simp only [glide] at hc
      split at hc
      · cases hc
        assumption
      · cases hc
    rw [List.reverse_cons]
    rcases Mode.step_eq_next_inner hstep hm with ⟨rfl, rfl, rfl⟩ | ⟨rfl, hc', rfl⟩ |
        ⟨acc, q, rfl, -, rfl⟩
    · exact ⟨Y.reverse, [], rfl, hY, .inl ⟨rfl, rfl⟩⟩
    · obtain ⟨X₀, body, hX, hX₀, hbody⟩ := ih id hY
      rcases hbody with ⟨rfl, -⟩ | ⟨q, hq, -⟩
      · exact ⟨X₀, [c], by simp [hX], hX₀, .inr ⟨_, rfl, c, [], rfl, hc'⟩⟩
      · cases hq
    · obtain ⟨X₀, body, hX, hX₀, hbody⟩ := ih id hY
      rcases hbody with ⟨-, hq⟩ | ⟨q', hq, d, ds, rfl, hd⟩
      · cases hq
      · obtain ⟨rfl, rfl⟩ := Mode.openTag.inj hq
        exact ⟨X₀, d :: ds ++ [c], by simp [hX], hX₀, .inr ⟨q.next c, by simp, d, ds ++ [c], rfl, hd⟩⟩

/-- A text that glides from text mode into a mode where a character completes a tag, with that
character, is that tag. -/
theorem tagText_of_glide {T₀ : List Char} {mL : Mode} {c : Char} {content : List Char}
    {sc : Bool} (hg : glide .text T₀ = some mL) (hc : mL.step c = .tag content sc) :
    TagText (T₀ ++ [c]) content sc := by
  intro pos rest
  rw [List.append_assoc, run_append_of_glide hg, List.singleton_append, run_cons_tag hc,
    byteLength_append, byteLength_cons, byteLength_nil, Nat.add_zero, Nat.add_assoc]

/-- The first opening tag read from text mode splits the text: what glides back to text
before it, its markup, which is read as that tag whatever follows, and the rest. -/
theorem run_text_eq_cons {pos : Nat} {S : List Char} {t : OpenTag} {ts : List OpenTag}
    (h : (run .text pos S).1 = t :: ts) :
    ∃ X R, S = X ++ tagMarkup t.content t.selfClosing ++ R ∧ glide .text X = some .text ∧
      TagText (tagMarkup t.content t.selfClosing) t.content t.selfClosing ∧
      (∀ d, t.content.head? = some d → opensTag d = true) ∧
      t.stop = pos + byteLength X + byteLength (tagMarkup t.content t.selfClosing) ∧
      run .text t.stop R = (ts, (run .text pos S).2) := by
  obtain ⟨X, c, R, mL, rfl, hg, hc, hstop, hrest⟩ := run_first_tag h
  obtain ⟨rfl, hkind⟩ := Mode.step_eq_tag hc
  have hinner : ¬ mL.Outer := by
    rcases hkind with ⟨rfl, -⟩ | ⟨acc, rfl, -⟩ <;> exact id
  obtain ⟨X₀, body, rfl, hX₀, hbody⟩ := glide_text_inner hg hinner
  have hmarkup : '<' :: body ++ ['>'] = tagMarkup t.content t.selfClosing ∧
      ∀ d, t.content.head? = some d → opensTag d = true := by
    rcases hbody with ⟨rfl, rfl⟩ | ⟨q, rfl, d, ds, rfl, hd⟩
    · obtain ⟨-, hcontent, hsc⟩ | ⟨acc, hacc, -⟩ := hkind
      · simp [tagMarkup, closing, hcontent, hsc]
      · cases hacc
    · rcases hkind with ⟨hm, -⟩ | ⟨acc, hacc, hform⟩
      · cases hm
      obtain ⟨hrev, -⟩ := Mode.openTag.inj hacc
      rcases hform with ⟨hacc', hsc⟩ | ⟨hacc', -, hsc⟩
      · rw [hacc'] at hrev
        have hbody : d :: ds = t.content ++ ['/'] := by
          rw [← List.reverse_reverse (d :: ds), hrev]
          simp
        refine ⟨by simp [tagMarkup, closing, hsc, hbody], fun e he => ?_⟩
        cases hct : t.content with
        | nil =>
          rw [hct] at he
          cases he
        | cons e' es =>
          rw [hct] at he hbody
          cases he
          cases (List.cons.inj hbody).1
          exact hd
      · rw [hacc'] at hrev
        have hbody : d :: ds = t.content := by
          rw [← List.reverse_reverse (d :: ds), hrev, List.reverse_reverse]
        refine ⟨by simp [tagMarkup, closing, hsc, hbody], fun e he => ?_⟩
        rw [← hbody] at he
        cases he
        exact hd
  obtain ⟨hT, hopen⟩ := hmarkup
  have hT₀ : glide .text ('<' :: body) = some mL := by
    rw [glide_append, hX₀] at hg
    exact hg
  refine ⟨X₀, R, ?_, hX₀, ?_, hopen, ?_, hrest⟩
  · rw [← hT]
    simp
  · rw [← hT]
    exact tagText_of_glide hT₀ hc
  · rw [hstop, ← hT]
    simp only [byteLength_append, byteLength_cons, byteLength_nil]
    omega


section Forward

/-- Scanning two texts scans the first, then the second. -/
theorem Quote.scan_append (q : Quote) (u v : List Char) :
    Quote.scan q (u ++ v) = (Quote.scan q u).bind fun q' => Quote.scan q' v := by
  induction u generalizing q with
  | nil => rfl
  | cons c cs ih =>
    simp only [List.cons_append, Quote.scan]
    split
    · rfl
    · exact ih _

/-- The first character after `<` opens a tag unless it makes other markup. -/
theorem Mode.step_angle_of_opens {d : Char} (hd : opensTag d = true) :
    Mode.angle.step d = .next (.openTag [d] (Quote.outside.next d)) := by
  simp only [opensTag, Bool.and_eq_true, bne_iff_ne, ne_eq] at hd
  simp only [Mode.step]
  split <;> simp_all

/-- Inside a tag, a text that the quote scan follows without meeting a closing bracket is
taken in whole. -/
theorem glide_openTag_of_scan {q q' : Quote} :
    ∀ {cs acc : List Char}, Quote.scan q cs = some q' →
      glide (.openTag acc q) cs = some (.openTag (cs.reverse ++ acc) q')
  | [], acc, h => by
    cases h
    rfl
  | c :: cs, acc, h => by
    simp only [Quote.scan] at h
    split at h
    · cases h
    · rename_i hc
      rw [glide_cons_next (Mode.step_openTag_next hc), glide_openTag_of_scan h]
      simp

/-- Markup whose content starts like a tag's and whose quotes all close before its bracket is
read as one tag. -/
theorem tagText_of_scan {content : List Char} {sc : Bool} (hne : content ≠ [])
    (hopen : ∀ d, content.head? = some d → opensTag d = true)
    (hscan : Quote.scan .outside content = some .outside)
    (hlast : sc = false → content.getLast? ≠ some '/') :
    TagText (tagMarkup content sc) content sc := by
  obtain ⟨d, ds, rfl⟩ := List.exists_cons_of_ne_nil hne
  have hd := hopen d rfl
  have hd' : ¬ (Quote.outside = .outside ∧ d = '>') := by
    rintro ⟨-, rfl⟩
    exact absurd hd (by decide)
  have hrest : Quote.scan (Quote.outside.next d) ds = some .outside := by
    rw [Quote.scan, if_neg hd'] at hscan
    exact hscan
  have hopened : ∀ tail, Quote.scan (Quote.outside.next d) tail = some .outside →
      glide .text ('<' :: d :: tail) = some (.openTag (d :: tail).reverse .outside) := by
    intro tail htail
    rw [glide_cons_next (show Mode.text.step '<' = .next .angle from rfl),
      glide_cons_next (Mode.step_angle_of_opens hd), glide_openTag_of_scan htail]
    simp
  cases sc with
  | false =>
    have hclose : (Mode.openTag (d :: ds).reverse .outside).step '>' = .tag (d :: ds) false := by
      rw [Mode.step_openTag_close]
      split
      · rename_i rest hrev
        have : (d :: ds).getLast? = some '/' := by
          rw [← List.head?_reverse, hrev]
          rfl
        exact absurd this (hlast rfl)
      · simp
    have h := tagText_of_glide (hopened ds hrest) hclose
    simpa [tagMarkup, closing] using h
  | true =>
    have hslash : Quote.scan (Quote.outside.next d) (ds ++ ['/']) = some .outside := by
      rw [Quote.scan_append, hrest]
      rfl
    have hclose : (Mode.openTag (d :: (ds ++ ['/'])).reverse .outside).step '>' =
        .tag (d :: ds) true := by
      rw [Mode.step_openTag_close]
      simp
    have h := tagText_of_glide (hopened (ds ++ ['/']) hslash) hclose
    simpa [tagMarkup, closing] using h

end Forward

end StrictCsp.Fragment
