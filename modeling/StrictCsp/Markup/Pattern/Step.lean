import StrictCsp.Text.Blank
import StrictCsp.Text.Fold
import StrictCsp.Text.Scan

/-!
# Steps of the markup patterns

The markup patterns are built from a handful of steps, each of which consumes
a piece at the head of a text and returns the rest: one given character, a
word read caselessly or exactly, a run of blank characters, and a quoted value.
Every pattern of this library is a chain of such steps with at most a few
alternatives, and every step is deterministic: a run stops at the first
character that the next step needs, so giving back characters can never let
the next step succeed. That is why each pattern needs no backtracking inside a
chain, only across its listed alternatives.

Main statements: every step returns a suffix of its input (`Consumes`), and a
step that cannot read a given character works on a text followed by that
character as on the text alone (`word?_append_cons`, `equals?_append_cons`).
-/

namespace StrictCsp.Markup.Pattern

open StrictCsp.Text

/-- A step returns a suffix of the text it was given. -/
def Consumes (f : List Char → Option (List Char)) : Prop :=
  ∀ s r, f s = some r → r <:+ s

/-- Consumes one given character. -/
def char? (x : Char) : List Char → Option (List Char)
  | c :: cs => if c = x then some cs else none
  | [] => none

/-- Consumes a word of pattern characters, its letters read caselessly. -/
def word? : List Char → List Char → Option (List Char)
  | [], s => some s
  | _ :: _, [] => none
  | x :: xs, c :: cs => if foldEq c x then word? xs cs else none

/-- Consumes a word of characters exactly as written. -/
def literal? (w : List Char) (s : List Char) : Option (List Char) :=
  if w.isPrefixOf s then some (s.drop w.length) else none

/-- Skips a run of blank characters. -/
def blanks (s : List Char) : List Char := s.dropWhile isBlank

/-- A character that ends a line. -/
def isLineBreak (c : Char) : Bool := c == '\r' || c == '\n'

/-- A value between two quotes of the given kind, holding no quote of that kind and no character
the predicate refuses; returns the value and the rest after the closing quote. -/
def quoted? (q : Char) (refuse : Char → Bool) (s : List Char) : Option (List Char × List Char) := do
  let r ← char? q s
  let (body, r) := r.span fun c => c != q && !refuse c
  let r ← char? q r
  pure (body, r)

/-- An equals sign with any blanks around it. -/
def equals? (s : List Char) : Option (List Char) := (char? '=' (blanks s)).map blanks

/-- Matching a character consumes it. -/
theorem char?_consumes (x : Char) : Consumes (char? x) := by
  intro s r h
  cases s with
  | nil => simp [char?] at h
  | cons c cs =>
    simp only [char?] at h
    split at h
    · rw [← Option.some.inj h]; exact List.suffix_cons c cs
    · cases h

/-- Matching a word consumes it. -/
theorem word?_consumes (w : List Char) : Consumes (word? w) := by
  induction w with
  | nil => intro s r h; simp only [word?, Option.some.injEq] at h; subst h; exact List.suffix_refl s
  | cons x xs ih =>
    intro s r h
    cases s with
    | nil => simp [word?] at h
    | cons c cs =>
      simp only [word?] at h
      split at h
      · exact (ih cs r h).trans (List.suffix_cons c cs)
      · cases h

/-- Skipping blanks leaves a suffix. -/
theorem blanks_suffix (s : List Char) : blanks s <:+ s := List.dropWhile_suffix isBlank

/-- Matching an equals sign with blanks around it consumes it. -/
theorem equals?_consumes : Consumes equals? := by
  intro s r h
  obtain ⟨r', hr', rfl⟩ := Option.map_eq_some_iff.mp h
  exact (blanks_suffix r').trans ((char?_consumes '=' _ _ hr').trans (blanks_suffix s))

/-- An optional character leaves a suffix whether or not it was there. -/
theorem getD_char?_suffix (x : Char) (r : List Char) : (char? x r).getD r <:+ r := by
  cases h : char? x r with
  | none => exact List.suffix_refl r
  | some r' => exact char?_consumes x r r' h

/-- A test that fails on every character of a text, checked as one test over the text. -/
theorem eq_false_of_all_not {p : Char → Bool} {w : List Char} (h : (w.all fun c => !p c) = true) :
    ∀ c ∈ w, p c = false := by
  intro c hc
  simpa using List.all_eq_true.mp h c hc

/-- A run of blanks stops at a character that is no blank. -/
theorem blanks_append_cons {c : Char} (hc : isBlank c = false) (t u : List Char) :
    blanks (t ++ c :: u) = blanks t ++ c :: u := by
  unfold blanks
  rw [List.dropWhile_append]
  split
  · rename_i h
    rw [List.isEmpty_iff.mp h, List.nil_append, List.dropWhile_cons, if_neg (by simp [hc])]
  · rfl

/-- A literal word is not read off a text whose first character is not its first one. -/
theorem literal?_cons_of_ne {x c : Char} (hc : c ≠ x) (w t : List Char) :
    literal? (x :: w) (c :: t) = none := by
  simp [literal?, List.isPrefixOf, Ne.symm hc]

/-- A literal word read off a text starts it. -/
theorem literal?_eq_some {w s r : List Char} (h : literal? w s = some r) : s = w ++ r := by
  unfold literal? at h
  split at h
  · rename_i hp
    cases h
    exact (List.prefix_iff_eq_append.mp (List.isPrefixOf_iff_prefix.mp hp)).symm
  · cases h

/-- A literal word is read off a text that starts with it. -/
theorem literal?_append (w r : List Char) : literal? w (w ++ r) = some r := by
  rw [literal?, if_pos (List.isPrefixOf_iff_prefix.mpr (List.prefix_append w r))]
  simp

/-- An equals sign right before a character that is no blank is read up to that character. -/
theorem equals?_cons_cons {c : Char} (hc : isBlank c = false) (r : List Char) :
    equals? ('=' :: c :: r) = some (c :: r) := by
  have h1 := blanks_append_cons (by decide : isBlank '=' = false) [] (c :: r)
  have h2 := blanks_append_cons hc [] r
  simp only [blanks, List.dropWhile_nil, List.nil_append] at h1 h2
  simp only [equals?, blanks, h1, char?, if_true, Option.map_some, h2]

/-- A word is read off a text that starts with it. -/
theorem word?_append_self (w s : List Char) : word? w (w ++ s) = some s := by
  induction w with
  | nil => rfl
  | cons x xs ih => simp [word?, ih]

/-- A word none of whose characters matches a given character is read before it: reading it from
a text followed by that character reads it from the text alone. -/
theorem word?_append_cons {c : Char} {w : List Char} (hc : ∀ x ∈ w, foldEq c x = false) :
    ∀ {t u r : List Char}, word? w (t ++ c :: u) = some r →
      ∃ r', word? w t = some r' ∧ r = r' ++ c :: u := by
  induction w with
  | nil =>
    intro t u r h
    simp only [word?, Option.some.injEq] at h
    exact ⟨t, rfl, h.symm⟩
  | cons x xs ih =>
    intro t u r h
    cases t with
    | nil => simp [word?, hc x List.mem_cons_self] at h
    | cons d ds =>
      simp only [List.cons_append, word?] at h ⊢
      split at h
      · rw [if_pos ‹_›]
        exact ih (fun y hy => hc y (List.mem_cons_of_mem x hy)) h
      · cases h

/-- A given character is read before another character. -/
theorem char?_append_cons {x c : Char} (hc : c ≠ x) :
    ∀ {t u r : List Char}, char? x (t ++ c :: u) = some r →
      ∃ r', char? x t = some r' ∧ r = r' ++ c :: u
  | [], u, r, h => by simp [char?, hc] at h
  | d :: ds, u, r, h => by
    simp only [List.cons_append, char?] at h ⊢
    split at h
    · rw [if_pos ‹_›]
      exact ⟨ds, rfl, (Option.some.inj h).symm⟩
    · cases h

/-- An equals sign with its blanks is read before a character that is neither. -/
theorem equals?_append_cons {c : Char} (hb : isBlank c = false) (he : c ≠ '=') {t u r : List Char}
    (h : equals? (t ++ c :: u) = some r) : ∃ r', equals? t = some r' ∧ r = r' ++ c :: u := by
  obtain ⟨r1, h1, rfl⟩ := Option.map_eq_some_iff.mp h
  rw [blanks_append_cons hb] at h1
  obtain ⟨r1', h1', rfl⟩ := char?_append_cons he h1
  exact ⟨blanks r1', by simp [equals?, h1'], blanks_append_cons hb _ _⟩

/-- Splitting off the characters that pass a test stops at the first one that fails it. -/
theorem span_append_cons {p : Char → Bool} {w : List Char} {c : Char} (hw : ∀ x ∈ w, p x = true)
    (hc : p c = false) (u : List Char) : (w ++ c :: u).span p = (w, c :: u) := by
  suffices h : ∀ acc, List.span.loop p (w ++ c :: u) acc = (acc.reverse ++ w, c :: u) by
    have h0 := h []
    simp only [List.reverse_nil, List.nil_append] at h0
    exact h0
  induction w with
  | nil =>
    intro acc
    change (match p c with
      | true => List.span.loop p u (c :: acc)
      | false => (acc.reverse, c :: u)) = _
    rw [hc]
    simp
  | cons x xs ih =>
    intro acc
    change (match p x with
      | true => List.span.loop p (xs ++ c :: u) (x :: acc)
      | false => (acc.reverse, x :: (xs ++ c :: u))) = _
    rw [hw x List.mem_cons_self, ih (fun y hy => hw y (List.mem_cons_of_mem x hy))]
    simp

/-- A quoted value free of its quote and of refused characters is read whole. -/
theorem quoted?_append {q : Char} {refuse : Char → Bool} {v : List Char} (hq : q ∉ v)
    (hr : ∀ c ∈ v, refuse c = false) (u : List Char) :
    quoted? q refuse (q :: (v ++ q :: u)) = some (v, u) := by
  have hspan : (v ++ q :: u).span (fun c => c != q && !refuse c) = (v, q :: u) := by
    apply span_append_cons _ (by simp)
    intro x hx
    have hne : x ≠ q := fun h => hq (h ▸ hx)
    simp [hne, hr x hx]
  simp only [quoted?, char?, if_true, Option.bind_eq_bind, Option.bind_some, hspan,
    Option.pure_def]

/-- A character read off a text heads it. -/
theorem char?_eq_some {x : Char} {s r : List Char} (h : char? x s = some r) : s = x :: r := by
  rcases s with _ | ⟨c, cs⟩
  · cases h
  · simp only [char?] at h
    split at h
    · cases h
      rename_i hc
      rw [hc]
    · cases h

/-- A word read off a text is read off any longer one, the rest growing with it. -/
theorem word?_append {w s r : List Char} (h : word? w s = some r) (x : List Char) :
    word? w (s ++ x) = some (r ++ x) := by
  induction w generalizing s with
  | nil =>
    cases h
    rfl
  | cons y ys ih =>
    rcases s with _ | ⟨c, cs⟩
    · simp [word?] at h
    · rw [List.cons_append]
      simp only [word?] at h ⊢
      split at h
      · rw [if_pos ‹_›]
        exact ih h
      · cases h

end StrictCsp.Markup.Pattern
