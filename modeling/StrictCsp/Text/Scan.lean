/-!
# Scanning a text for the matches of a pattern

A pattern is given by a recogniser: a function that decides whether the
pattern matches at the head of a text and, if so, returns the match that the
pattern's own priority order prefers, as its length and what it captured.
Scanning tries the recogniser at each position from left to right; the first
position where it matches gives the leftmost match, and the scan goes on right
after it, so matches never overlap. A match of no characters counts as none.

Main statements: a text with no match anywhere is left as it is
(`substitute_of_noHit`) and has no matches to list (`findAll_of_noHit`), and the
pieces of a text put together give it back (`flatMap_text_pieces`). Conversely, a
scan that lists no match saw none (`noHit_of_findAll_eq_nil`), and a substitution
whose every replacement holds fewer characters of some kind than the text it
replaces loses at least one of them per match (`countP_substitute_add_length_findAll`).
A stretch of text where no match starts is passed over by every scan
(`substitute_append_of_noHitBefore`, `findAll_append_of_noHitBefore`,
`pieces_append_of_noHitBefore`).
-/

namespace StrictCsp.Text

/-- What a pattern matched at the head of a text: how many characters and what it captured. -/
structure Hit (α : Type) where
  /-- The number of characters the match covers. -/
  length : Nat
  /-- What the pattern's groups captured. -/
  captured : α

/-- A recogniser decides whether a pattern matches at the head of a text. -/
abbrev Recogniser (α : Type) := List Char → Option (Hit α)

namespace Recogniser

variable {α β : Type}

/-- Builds a recogniser from a matcher that returns the capture and the rest of the text. -/
def ofRest (f : List Char → Option (α × List Char)) : Recogniser α :=
  fun s => (f s).map fun (a, r) => ⟨s.length - r.length, a⟩

/-- Replaces every match, left to right, by a function of the matched text and its capture. -/
def substitute (m : Recogniser α) (f : List Char → α → List Char) : List Char → List Char
  | [] => []
  | c :: cs =>
    match m (c :: cs) with
    | some h =>
      if 0 < h.length then
        f ((c :: cs).take h.length) h.captured ++ substitute m f ((c :: cs).drop h.length)
      else c :: substitute m f cs
    | none => c :: substitute m f cs
termination_by s => s.length
decreasing_by all_goals simp only [List.length_drop, List.length_cons]; omega

/-- The matches from left to right, each as the matched text and its capture. -/
def findAll (m : Recogniser α) : List Char → List (List Char × α)
  | [] => []
  | c :: cs =>
    match m (c :: cs) with
    | some h =>
      if 0 < h.length then
        ((c :: cs).take h.length, h.captured) :: findAll m ((c :: cs).drop h.length)
      else findAll m cs
    | none => findAll m cs
termination_by s => s.length
decreasing_by all_goals simp only [List.length_drop, List.length_cons]; omega

/-- The leftmost match, as the text before it, the matched text and its capture. -/
def first? (m : Recogniser α) : List Char → Option (List Char × List Char × α)
  | [] => none
  | c :: cs =>
    match m (c :: cs) with
    | some h =>
      if 0 < h.length then some ([], (c :: cs).take h.length, h.captured)
      else (first? m cs).map fun (pre, t, a) => (c :: pre, t, a)
    | none => (first? m cs).map fun (pre, t, a) => (c :: pre, t, a)

/-- A piece of a scanned text: a character outside any match, or a match with its capture. -/
inductive Piece (α : Type) where
  /-- A character outside any match. -/
  | plain (c : Char)
  /-- A match, as the matched text and its capture. -/
  | hit (text : List Char) (captured : α)
  deriving DecidableEq

/-- The text a piece stands for. -/
def Piece.text : Piece α → List Char
  | .plain c => [c]
  | .hit t _ => t

/-- Cuts a text into characters outside matches and matches, from left to right. -/
def pieces (m : Recogniser α) : List Char → List (Piece α)
  | [] => []
  | c :: cs =>
    match m (c :: cs) with
    | some h =>
      if 0 < h.length then
        .hit ((c :: cs).take h.length) h.captured :: pieces m ((c :: cs).drop h.length)
      else .plain c :: pieces m cs
    | none => .plain c :: pieces m cs
termination_by s => s.length
decreasing_by all_goals simp only [List.length_drop, List.length_cons]; omega

/-- The pieces of a text put together give the text back. -/
theorem flatMap_text_pieces (m : Recogniser α) (s : List Char) :
    (pieces m s).flatMap Piece.text = s := by
  fun_induction pieces m s <;> simp_all [Piece.text]

/-- Characters written as themselves give back their text. -/
@[simp] theorem flatMap_text_map_plain (u : List Char) :
    (u.map Piece.plain : List (Piece α)).flatMap Piece.text = u := by
  induction u with
  | nil => rfl
  | cons c cs ih => simp [Piece.text, ih]

/-- At a match, the pieces start with it and go on after it. -/
theorem pieces_of_hit {m : Recogniser α} {c : Char} {cs : List Char} {h : Hit α}
    (hm : m (c :: cs) = some h) (hpos : 0 < h.length) :
    pieces m (c :: cs) =
      .hit ((c :: cs).take h.length) h.captured :: pieces m ((c :: cs).drop h.length) := by
  rw [pieces]
  simp only [hm, hpos, if_true]

/-- Where nothing matches, the pieces start with the character. -/
theorem pieces_of_none {m : Recogniser α} {c : Char} {cs : List Char}
    (hm : m (c :: cs) = none) : pieces m (c :: cs) = .plain c :: pieces m cs := by
  rw [pieces]
  simp only [hm]

/-- Pieces that start with a character came from a text that starts with it and has no match
there. -/
theorem pieces_eq_plain_cons {m : Recogniser α} {s : List Char} {c : Char} {ps : List (Piece α)}
    (h : pieces m s = .plain c :: ps) :
    ∃ cs, s = c :: cs ∧ pieces m cs = ps ∧ ∀ hit, m s = some hit → hit.length = 0 := by
  cases s with
  | nil => simp [pieces] at h
  | cons c' cs =>
    rw [pieces] at h
    split at h
    · rename_i hit hm
      split at h
      · cases h
      · obtain ⟨hc, rfl⟩ := List.cons.inj h
        cases hc
        exact ⟨cs, rfl, rfl, fun hit' he => by rw [hm] at he; cases he; omega⟩
    · rename_i hm
      obtain ⟨hc, rfl⟩ := List.cons.inj h
      cases hc
      exact ⟨cs, rfl, rfl, fun hit' he => by rw [hm] at he; cases he⟩

/-- Pieces that start with a match came from a text where the recogniser matched. -/
theorem pieces_eq_hit_cons {m : Recogniser α} {s t : List Char} {a : α} {ps : List (Piece α)}
    (h : pieces m s = .hit t a :: ps) :
    ∃ hit, m s = some hit ∧ 0 < hit.length ∧ t = s.take hit.length ∧ a = hit.captured ∧
      pieces m (s.drop hit.length) = ps := by
  cases s with
  | nil => simp [pieces] at h
  | cons c cs =>
    rw [pieces] at h
    split at h
    · rename_i hit hm
      split at h
      · rename_i hpos
        obtain ⟨hc, rfl⟩ := List.cons.inj h
        cases hc
        exact ⟨hit, hm, hpos, rfl, rfl, rfl⟩
      · cases (List.cons.inj h).1
    · cases (List.cons.inj h).1

/-- The pattern matches somewhere in the text. -/
def found (m : Recogniser α) (s : List Char) : Bool := (first? m s).isSome

/-- The recogniser finds no match at any position of the text. -/
def NoHit (m : Recogniser α) (s : List Char) : Prop :=
  ∀ t, t <:+ s → ∀ h, m t = some h → h.length = 0

/-- Where nothing is hit from a character on, nothing is hit from the next on. -/
theorem NoHit.tail {m : Recogniser α} {c : Char} {cs : List Char} (h : NoHit m (c :: cs)) :
    NoHit m cs :=
  fun t ht => h t (ht.trans (List.suffix_cons c cs))

/-- A text with no match is left as it is. -/
theorem substitute_of_noHit (m : Recogniser α) (f : List Char → α → List Char) :
    ∀ s, NoHit m s → substitute m f s = s
  | [], _ => by simp [substitute]
  | c :: cs, h => by
    have ih := substitute_of_noHit m f cs h.tail
    rw [substitute]
    split
    · rename_i hit hm
      have := h (c :: cs) (List.suffix_refl _) hit hm
      simp [this, ih]
    · simp [ih]

/-- A text with no match has no matches to list. -/
theorem findAll_of_noHit (m : Recogniser α) : ∀ s, NoHit m s → findAll m s = []
  | [], _ => by simp [findAll]
  | c :: cs, h => by
    have ih := findAll_of_noHit m cs h.tail
    rw [findAll]
    split
    · rename_i hit hm
      have := h (c :: cs) (List.suffix_refl _) hit hm
      simp [this, ih]
    · simp [ih]

/-- A match built from a matcher's rest covers the characters before that rest. -/
theorem ofRest_hit {f : List Char → Option (α × List Char)} {s : List Char} {h : Hit α}
    (hm : ofRest f s = some h) :
    ∃ r, f s = some (h.captured, r) ∧ h.length = s.length - r.length := by
  obtain ⟨⟨a, r⟩, hf, rfl⟩ := Option.map_eq_some_iff.mp hm
  exact ⟨r, hf, rfl⟩

/-- A match built from a matcher's rest never covers more than the text. -/
theorem ofRest_fits (f : List Char → Option (α × List Char)) :
    ∀ s h, ofRest f s = some h → h.length ≤ s.length := by
  intro s h hm
  obtain ⟨r, _, hl⟩ := ofRest_hit hm
  omega

/-- The characters before a suffix, put back in front of it, give the text. -/
theorem take_length_sub_append {r s : List Char} (h : r <:+ s) :
    s.take (s.length - r.length) ++ r = s := by
  obtain ⟨u, rfl⟩ := h
  simp

/-- A scan that lists no match saw no match anywhere, provided no match covers more than the
text it was found in. -/
theorem noHit_of_findAll_eq_nil (m : Recogniser α)
    (hfit : ∀ s h, m s = some h → h.length ≤ s.length) :
    ∀ s, findAll m s = [] → NoHit m s
  | [], _ => by
    intro t ht h hm
    rw [List.suffix_nil.mp ht] at hm
    have := hfit [] h hm
    simp only [List.length_nil, Nat.le_zero] at this
    exact this
  | c :: cs, hnil => by
    rw [findAll] at hnil
    have hrest : findAll m cs = [] ∧ ∀ h, m (c :: cs) = some h → h.length = 0 := by
      cases hm : m (c :: cs) with
      | none =>
        simp only [hm] at hnil
        exact ⟨hnil, by simp⟩
      | some h =>
        simp only [hm] at hnil
        split at hnil
        · cases hnil
        · exact ⟨hnil, fun h' he => by cases he; omega⟩
    intro t ht h hm
    rcases List.suffix_cons_iff.mp ht with rfl | ht'
    · exact hrest.2 h hm
    · exact noHit_of_findAll_eq_nil m hfit cs hrest.1 t ht' h hm

/-- When every replacement holds fewer characters of a kind than the match it replaces, a
substitution loses at least one such character for each match the scan lists. -/
theorem countP_substitute_add_length_findAll (m : Recogniser α) (f : List Char → α → List Char)
    (p : Char → Bool)
    (hdrop : ∀ s h, m s = some h → 0 < h.length →
      (f (s.take h.length) h.captured).countP p < (s.take h.length).countP p) :
    ∀ s, (substitute m f s).countP p + (findAll m s).length ≤ s.countP p := by
  intro s
  fun_induction substitute m f s with
  | case1 => simp [findAll]
  | case2 c cs h hm hpos ih =>
    have hd := hdrop (c :: cs) h hm hpos
    have hs : (c :: cs).countP p =
        ((c :: cs).take h.length).countP p + ((c :: cs).drop h.length).countP p := by
      rw [← List.countP_append, List.take_append_drop]
    rw [findAll]
    simp only [hm, hpos, if_true, List.countP_append, List.length_cons]
    omega
  | case3 c cs h hm hpos ih =>
    rw [findAll]
    simp only [hm, hpos, if_false, List.countP_cons]
    split <;> omega
  | case4 c cs hm ih =>
    rw [findAll]
    simp only [hm, List.countP_cons]
    split <;> omega

/-- No match starts at a character of the first text when the second one follows it. -/
def NoHitBefore (m : Recogniser α) (u v : List Char) : Prop :=
  ∀ t, t <:+ u → t ≠ [] → ∀ h, m (t ++ v) = some h → h.length = 0

/-- Nothing starts before an empty stretch. -/
theorem NoHitBefore.nil (m : Recogniser α) (v : List Char) : NoHitBefore m [] v := by
  intro t ht hne
  exact absurd (List.eq_nil_of_suffix_nil ht) hne

/-- No match starts in a stretch when none starts at its first character or in the rest. -/
theorem NoHitBefore.cons {m : Recogniser α} {c : Char} {u v : List Char}
    (hc : ∀ h, m (c :: (u ++ v)) = some h → h.length = 0) (hu : NoHitBefore m u v) :
    NoHitBefore m (c :: u) v := by
  intro t ht hne
  rcases List.suffix_cons_iff.mp ht with rfl | ht'
  · exact hc
  · exact hu t ht' hne

/-- Two stretches where no match starts make one. -/
theorem NoHitBefore.append {m : Recogniser α} {u w v : List Char} (hu : NoHitBefore m u (w ++ v))
    (hw : NoHitBefore m w v) : NoHitBefore m (u ++ w) v := by
  induction u with
  | nil => simpa using hw
  | cons c cs ih =>
    apply NoHitBefore.cons
    · have := hu (c :: cs) (List.suffix_refl _) (List.cons_ne_nil c cs)
      simpa using this
    · exact ih (fun t ht hne => hu t (ht.trans (List.suffix_cons c cs)) hne)

/-- No match starts at a character that can start none. -/
theorem noHitBefore_of_forall {m : Recogniser α} {u v : List Char}
    (h : ∀ c ∈ u, ∀ s, m (c :: s) = none) : NoHitBefore m u v := by
  induction u with
  | nil => exact NoHitBefore.nil m v
  | cons c cs ih =>
    refine NoHitBefore.cons (fun hit hm => ?_) (ih fun d hd => h d (List.mem_cons_of_mem c hd))
    rw [h c List.mem_cons_self] at hm
    cases hm

/-- The replacements of a text after a stretch where no match starts. -/
theorem substitute_append_of_noHitBefore (m : Recogniser α) (f : List Char → α → List Char)
    {v : List Char} : ∀ {u : List Char}, NoHitBefore m u v →
      substitute m f (u ++ v) = u ++ substitute m f v
  | [], _ => rfl
  | c :: cs, hu => by
    have ih := substitute_append_of_noHitBefore m f
      (fun t ht hne => hu t (ht.trans (List.suffix_cons c cs)) hne)
    have hc := hu (c :: cs) (List.suffix_refl _) (List.cons_ne_nil c cs)
    rw [List.cons_append, substitute]
    split
    · rename_i hit hm
      rw [if_neg (by rw [hc hit hm]; omega), ih]
      rfl
    · rw [ih]
      rfl

/-- The matches of a text after a stretch where no match starts. -/
theorem findAll_append_of_noHitBefore (m : Recogniser α) {v : List Char} :
    ∀ {u : List Char}, NoHitBefore m u v → findAll m (u ++ v) = findAll m v
  | [], _ => rfl
  | c :: cs, hu => by
    have ih := findAll_append_of_noHitBefore m
      (fun t ht hne => hu t (ht.trans (List.suffix_cons c cs)) hne)
    have hc := hu (c :: cs) (List.suffix_refl _) (List.cons_ne_nil c cs)
    rw [List.cons_append, findAll]
    split
    · rename_i hit hm
      rw [if_neg (by rw [hc hit hm]; omega), ih]
    · rw [ih]

/-- A match at the head of a text is replaced, and the scan goes on after it. -/
theorem substitute_of_hit {m : Recogniser α} {f : List Char → α → List Char} {s : List Char}
    {h : Hit α} (hm : m s = some h) (hpos : 0 < h.length) (hne : s ≠ []) :
    substitute m f s = f (s.take h.length) h.captured ++ substitute m f (s.drop h.length) := by
  cases s with
  | nil => exact absurd rfl hne
  | cons c cs =>
    rw [substitute]
    simp only [hm, hpos, if_true]

/-- A match at the head of a text is listed first, and the scan goes on after it. -/
theorem findAll_of_hit {m : Recogniser α} {s : List Char} {h : Hit α} (hm : m s = some h)
    (hpos : 0 < h.length) (hne : s ≠ []) :
    findAll m s = (s.take h.length, h.captured) :: findAll m (s.drop h.length) := by
  cases s with
  | nil => exact absurd rfl hne
  | cons c cs =>
    rw [findAll]
    simp only [hm, hpos, if_true]

/-- The check of `NoHitBefore`, trying the recogniser at each character of the stretch. -/
def noHitBefore (m : Recogniser α) (v : List Char) : List Char → Bool
  | [] => true
  | c :: u => (m (c :: (u ++ v))).all (·.length == 0) && noHitBefore m v u

/-- The check decides `NoHitBefore`. -/
theorem noHitBefore_iff (m : Recogniser α) (v : List Char) :
    ∀ u, noHitBefore m v u = true ↔ NoHitBefore m u v
  | [] => by simp [noHitBefore, NoHitBefore.nil]
  | c :: u => by
    rw [noHitBefore, Bool.and_eq_true, noHitBefore_iff m v u]
    constructor
    · rintro ⟨hc, hu⟩
      refine NoHitBefore.cons (fun h hm => ?_) hu
      simpa [hm] using hc
    · intro h
      refine ⟨?_, fun t ht hne => h t (ht.trans (List.suffix_cons c u)) hne⟩
      cases hm : m (c :: (u ++ v)) with
      | none => rfl
      | some hit =>
        have := h (c :: u) (List.suffix_refl _) (List.cons_ne_nil c u) hit (by simpa using hm)
        simp [this]

instance (m : Recogniser α) (u v : List Char) : Decidable (NoHitBefore m u v) :=
  decidable_of_iff _ (noHitBefore_iff m v u)

/-- Every match decision that starts in a text is made within it: what follows the text
changes no answer of the recogniser at any of its characters. -/
def ReadsWithin (m : Recogniser α) (u : List Char) : Prop :=
  ∀ t, t <:+ u → t ≠ [] → ∀ v, m (t ++ v) = m t

/-- A recogniser that reads within a text reads within its suffixes. -/
theorem ReadsWithin.suffix {m : Recogniser α} {u w : List Char} (h : ReadsWithin m u)
    (hw : w <:+ u) : ReadsWithin m w :=
  fun t ht => h t (ht.trans hw)

/-- The matches of a text followed by another, when every match decision starting in the first
is made within it: a frame lemma for the scan. -/
theorem findAll_append_of_readsWithin (m : Recogniser α)
    (hfit : ∀ s h, m s = some h → h.length ≤ s.length) (v : List Char) (u : List Char) :
    ReadsWithin m u → findAll m (u ++ v) = findAll m u ++ findAll m v := by
  fun_induction findAll m u with
  | case1 => simp
  | case2 c cs hit hm hpos ih =>
    intro hu
    have hm' : m (c :: (cs ++ v)) = some hit := by
      rw [← hm, ← List.cons_append]
      exact hu _ (List.suffix_refl _) (List.cons_ne_nil c cs) v
    have hle := hfit _ _ hm
    rw [List.cons_append, findAll_of_hit hm' hpos (List.cons_ne_nil _ _), ← List.cons_append,
      List.take_append_of_le_length hle, List.drop_append_of_le_length hle,
      ih (hu.suffix (List.drop_suffix _ _))]
    rfl
  | case3 c cs hit hm hpos ih =>
    intro hu
    have hm' : m (c :: (cs ++ v)) = some hit := by
      rw [← hm, ← List.cons_append]
      exact hu _ (List.suffix_refl _) (List.cons_ne_nil c cs) v
    rw [List.cons_append, findAll]
    simp only [hm', hpos, if_false]
    exact ih (hu.suffix (List.suffix_cons c cs))
  | case4 c cs hm ih =>
    intro hu
    have hm' : m (c :: (cs ++ v)) = none := by
      rw [← hm, ← List.cons_append]
      exact hu _ (List.suffix_refl _) (List.cons_ne_nil c cs) v
    rw [List.cons_append, findAll]
    simp only [hm']
    exact ih (hu.suffix (List.suffix_cons c cs))

/-- The leftmost match of a text is a match at its head, or the leftmost match of its tail with
the head character in front. -/
theorem first?_cons_eq_some {m : Recogniser α} {c : Char} {cs pre t : List Char} {a : α}
    (h : first? m (c :: cs) = some (pre, t, a)) :
    (∃ hit, m (c :: cs) = some hit ∧ pre = [] ∧ t = (c :: cs).take hit.length) ∨
      ∃ pre', pre = c :: pre' ∧ first? m cs = some (pre', t, a) := by
  rw [first?] at h
  have hrest : (first? m cs).map (fun (pre, t, a) => (c :: pre, t, a)) = some (pre, t, a) →
      ∃ pre', pre = c :: pre' ∧ first? m cs = some (pre', t, a) := by
    intro hr
    obtain ⟨⟨pre', t', a'⟩, hf, he⟩ := Option.map_eq_some_iff.mp hr
    cases he
    exact ⟨pre', rfl, hf⟩
  split at h
  · rename_i hit hm
    split at h
    · cases h
      exact .inl ⟨hit, hm, rfl, rfl⟩
    · exact .inr (hrest h)
  · exact .inr (hrest h)

/-- The leftmost match splits the text into what comes before it, the match and the rest. -/
theorem first?_eq_some_append {m : Recogniser α} :
    ∀ {s pre t : List Char} {a : α}, first? m s = some (pre, t, a) → ∃ r, s = pre ++ t ++ r
  | [], _, _, _, h => by simp [first?] at h
  | c :: cs, pre, t, a, h => by
    rcases first?_cons_eq_some h with ⟨hit, -, rfl, rfl⟩ | ⟨pre', rfl, hf⟩
    · exact ⟨(c :: cs).drop hit.length, by simp⟩
    · obtain ⟨r, rfl⟩ := first?_eq_some_append hf
      exact ⟨r, by simp⟩

/-- A pattern that matches somewhere in a text with a match of some length is found there. -/
theorem found_of_suffix {m : Recogniser α} {t : List Char} {h : Hit α} (hm : m t = some h)
    (hpos : 0 < h.length) (hne : t ≠ []) : ∀ {s : List Char}, t <:+ s → found m s = true
  | [], ht => absurd (List.suffix_nil.mp ht) hne
  | c :: cs, ht => by
    unfold found
    rw [first?]
    rcases List.suffix_cons_iff.mp ht with rfl | ht'
    · simp [hm, hpos]
    · have ih := found_of_suffix hm hpos hne ht'
      unfold found at ih
      split
      · split
        · rfl
        · simpa using ih
      · simpa using ih

end Recogniser

end StrictCsp.Text
