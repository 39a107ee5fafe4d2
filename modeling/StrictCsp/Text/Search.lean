/-!
# Searching and replacing literal text

Texts are lists of characters. `occursIn p s` says that `p` occurs in `s` as a
contiguous piece, `findFrom? p s` gives the position of the first occurrence,
and `replaceAll p r s` replaces the occurrences of `p` from left to right,
never letting two of them overlap and never looking into a replacement.

Main statements: the first occurrence found is an occurrence (`isPrefixOf_drop_findFrom?`),
and `replaceAll` leaves a text without occurrences unchanged. Replacing by nothing, a piece
of the result is a piece of the text free of the pattern, or starts with a nonempty part of
the text that stood right before a removed occurrence (`infix_replaceAll_go_cut`).
-/

namespace StrictCsp.Text

/-- A text occurs in another as a contiguous piece. -/
def occursIn (p : List Char) : List Char → Bool
  | [] => p.isEmpty
  | c :: cs => p.isPrefixOf (c :: cs) || occursIn p cs

/-- The position of the first occurrence of a text in another. -/
def findFrom? (p : List Char) : List Char → Option Nat
  | [] => if p.isEmpty then some 0 else none
  | c :: cs => if p.isPrefixOf (c :: cs) then some 0 else (findFrom? p cs).map (· + 1)

/-- Replaces the occurrences of a nonempty text from left to right; an empty text is left
alone. -/
def replaceAll (p r : List Char) (s : List Char) : List Char :=
  match p with
  | [] => s
  | q :: qs => go (q :: qs) s
where
  /-- Replacement once the pattern is known to be nonempty. -/
  go (p : List Char) : List Char → List Char
    | [] => []
    | c :: cs =>
      if p.isPrefixOf (c :: cs) && !p.isEmpty then
        r ++ go p ((c :: cs).drop p.length)
      else c :: go p cs
  termination_by s => s.length
  decreasing_by
    all_goals simp_wf
    all_goals first
      | omega
      | (rename_i h; simp only [Bool.and_eq_true, Bool.not_eq_true', List.isEmpty_eq_false_iff] at h
         have := List.length_pos_iff.mpr h.2; omega)

/-- Replaces the occurrences of a nonempty text in a string. -/
def replaceText (s p r : String) : String :=
  String.ofList (replaceAll p.toList r.toList s.toList)

/-- A text contains another as a contiguous piece. -/
def containsText (s p : String) : Bool := occursIn p.toList s.toList

/-- The first occurrence found is an occurrence. -/
theorem isPrefixOf_drop_findFrom? {p s : List Char} {i : Nat} (h : findFrom? p s = some i) :
    p.isPrefixOf (s.drop i) = true := by
  induction s generalizing i with
  | nil =>
    simp only [findFrom?] at h
    split at h
    · rename_i hp
      cases h
      simp only [List.isEmpty_iff] at hp
      simp [hp]
    · cases h
  | cons c cs ih =>
    simp only [findFrom?] at h
    split at h
    · rename_i hp
      cases h
      simpa using hp
    · obtain ⟨j, hj, rfl⟩ := Option.map_eq_some_iff.mp h
      simpa using ih hj

/-- The first occurrence found lies within the text. -/
theorem findFrom?_fits {p s : List Char} {i : Nat} (h : findFrom? p s = some i) :
    i + p.length ≤ s.length := by
  induction s generalizing i with
  | nil =>
    simp only [findFrom?] at h
    split at h
    · rename_i hp
      cases h
      simp [List.isEmpty_iff.mp hp]
    · cases h
  | cons c cs ih =>
    simp only [findFrom?] at h
    split at h
    · rename_i hp
      cases h
      simpa using (List.isPrefixOf_iff_prefix.mp hp).length_le
    · obtain ⟨j, hj, rfl⟩ := Option.map_eq_some_iff.mp h
      have := ih hj
      simp only [List.length_cons]
      omega

/-- Whether a text at least as long as the pattern starts with it does not depend on what
follows the text. -/
theorem isPrefixOf_append_of_le {p s : List Char} (h : p.length ≤ s.length) (r : List Char) :
    p.isPrefixOf (s ++ r) = p.isPrefixOf s := by
  rw [Bool.eq_iff_iff, List.isPrefixOf_iff_prefix, List.isPrefixOf_iff_prefix,
    List.prefix_iff_eq_take, List.prefix_iff_eq_take, List.take_append_of_le_length h]

/-- The first occurrence in a text is the first occurrence in any text that goes on from it. -/
theorem findFrom?_append_of_eq_some {p s : List Char} {i : Nat} (h : findFrom? p s = some i)
    (r : List Char) : findFrom? p (s ++ r) = some i := by
  induction s generalizing i with
  | nil =>
    simp only [findFrom?] at h
    split at h
    · rename_i hp
      cases h
      rw [List.isEmpty_iff.mp hp]
      cases r <;> rfl
    · cases h
  | cons c cs ih =>
    simp only [findFrom?] at h
    split at h
    · rename_i hp
      cases h
      have hlen : p.length ≤ (c :: cs).length := (List.isPrefixOf_iff_prefix.mp hp).length_le
      rw [List.cons_append, findFrom?, ← List.cons_append, isPrefixOf_append_of_le hlen, if_pos hp]
    · rename_i hp
      obtain ⟨j, hj, rfl⟩ := Option.map_eq_some_iff.mp h
      have hlen : p.length ≤ (c :: cs).length := by
        have := findFrom?_fits hj
        simp only [List.length_cons]
        omega
      rw [List.cons_append, findFrom?, ← List.cons_append, isPrefixOf_append_of_le hlen, if_neg hp,
        ih hj]
      rfl

/-- An occurrence that a text holds whole is the first occurrence in the text already, whatever
followed it. -/
theorem findFrom?_of_append_eq_some {p s r : List Char} {i : Nat}
    (h : findFrom? p (s ++ r) = some i) (hfit : i + p.length ≤ s.length) :
    findFrom? p s = some i := by
  induction s generalizing i with
  | nil =>
    rw [List.length_nil] at hfit
    have hp : p = [] := List.eq_nil_of_length_eq_zero (by omega)
    have hi : i = 0 := by omega
    simp [findFrom?, hp, hi]
  | cons c cs ih =>
    have hlen : p.length ≤ (c :: cs).length := by omega
    rw [List.cons_append, findFrom?, ← List.cons_append, isPrefixOf_append_of_le hlen] at h
    rw [findFrom?]
    split at h
    · rename_i hp
      rw [if_pos hp]
      exact h
    · rename_i hp
      obtain ⟨j, hj, rfl⟩ := Option.map_eq_some_iff.mp h
      rw [if_neg hp, ih hj (by simp at hfit; omega)]
      rfl

/-- The first occurrence is found again in any prefix that holds it whole. -/
theorem findFrom?_take {p s : List Char} {i n : Nat} (h : findFrom? p s = some i)
    (hn : i + p.length ≤ n) : findFrom? p (s.take n) = some i := by
  have hfit := findFrom?_fits h
  rw [← List.take_append_drop n s] at h
  exact findFrom?_of_append_eq_some h (by simp; omega)

/-- Where no occurrence of the pattern starts within a first text, the first occurrence in the
whole is the first one in what follows, moved past the first text. -/
theorem findFrom?_append_of_no_start {p R : List Char} :
    ∀ {L : List Char}, (∀ s, s <:+ L → s ≠ [] → p.isPrefixOf (s ++ R) = false) →
      findFrom? p (L ++ R) = (findFrom? p R).map (L.length + ·)
  | [], _ => by simp
  | c :: cs, h => by
    have hstart := h (c :: cs) (List.suffix_refl _) (List.cons_ne_nil c cs)
    rw [List.cons_append, findFrom?, ← List.cons_append, hstart, if_neg Bool.false_ne_true,
      findFrom?_append_of_no_start fun s hs hne => h s (hs.trans (List.suffix_cons c cs)) hne]
    simp only [Option.map_map, List.length_cons]
    congr 1
    funext i
    simp only [Function.comp_apply]
    omega

/-- A piece of a text that holds neither side of a character the piece lacks lies on one side. -/
theorem infix_append_cons {p A B : List Char} {c : Char} (hc : c ∉ p) (h : p <:+: A ++ c :: B) :
    p <:+: A ∨ p <:+: B := by
  obtain ⟨s, t, hst⟩ := h
  rw [List.append_assoc] at hst
  rcases List.append_eq_append_iff.mp hst with ⟨a, rfl, hrest⟩ | ⟨c', rfl, hrest⟩
  · rcases List.append_eq_append_iff.mp hrest with ⟨a', rfl, -⟩ | ⟨c'', rfl, hc''⟩
    · exact .inl ⟨s, a', by simp⟩
    · cases c'' with
      | nil => exact .inl ⟨s, [], by simp⟩
      | cons d ds =>
        obtain ⟨rfl, -⟩ := List.cons.inj hc''
        exact absurd (List.mem_append_right _ List.mem_cons_self) hc
  · cases c' with
    | nil =>
      cases p with
      | nil => exact .inl List.nil_infix
      | cons d ds =>
        obtain ⟨rfl, -⟩ := List.cons.inj hrest
        exact absurd List.mem_cons_self hc
    | cons d ds =>
      obtain ⟨-, rfl⟩ := List.cons.inj hrest
      exact .inr ⟨ds, t, by simp⟩

/-- A text with no occurrence of the pattern is left unchanged. -/
theorem replaceAll_go_of_not_occursIn {p r s : List Char} (h : occursIn p s = false) :
    replaceAll.go r p s = s := by
  induction s with
  | nil => simp [replaceAll.go]
  | cons c cs ih =>
    simp only [occursIn, Bool.or_eq_false_iff] at h
    rw [replaceAll.go, if_neg (by simp [h.1]), ih h.2]

/-- The search for a piece decides whether it is a piece of the text. -/
theorem occursIn_iff_infix {p : List Char} : ∀ {s : List Char}, occursIn p s = true ↔ p <:+: s
  | [] => by simp [occursIn, List.isEmpty_iff]
  | c :: cs => by
    rw [occursIn, Bool.or_eq_true, List.isPrefixOf_iff_prefix, occursIn_iff_infix,
      List.infix_cons_iff]

/-- Replacing a nonempty pattern is the replacement loop. -/
theorem replaceAll_of_ne_nil {p : List Char} (hp : p ≠ []) (r s : List Char) :
    replaceAll p r s = replaceAll.go r p s := by
  cases p with
  | nil => exact absurd rfl hp
  | cons q qs => rfl

/-- Replacing a nonempty piece of a string by nothing is the removal loop over its characters. -/
theorem toList_replaceText_empty (s t : String) (ht : t.toList ≠ []) :
    (replaceText s t "").toList = replaceAll.go [] t.toList s.toList := by
  rw [replaceText, String.toList_ofList, replaceAll_of_ne_nil ht]
  rfl

/-- Where the pattern does not start, a removal keeps the character. -/
theorem replaceAll_go_nil_of_not_starts {p : List Char} {c : Char} {cs : List Char}
    (h : ¬ p <+: c :: cs) : replaceAll.go [] p (c :: cs) = c :: replaceAll.go [] p cs := by
  rw [replaceAll.go, if_neg (by simp [List.isPrefixOf_iff_prefix, h])]

/-- Every nonempty suffix of a removal is the removal from a suffix of the text where the
pattern does not start. -/
theorem exists_suffix_of_suffix_replaceAll_go {p : List Char} (hp : p ≠ []) (s : List Char) :
    ∀ {r : List Char}, r <:+ replaceAll.go [] p s → r ≠ [] →
      ∃ s', s' <:+ s ∧ ¬ p <+: s' ∧ r = replaceAll.go [] p s' := by
  fun_induction replaceAll.go [] p s with
  | case1 =>
    intro r hr hne
    exact absurd (List.eq_nil_of_suffix_nil hr) hne
  | case2 c cs hpre ih =>
    intro r hr hne
    obtain ⟨s', hs', hns, rfl⟩ := ih hr hne
    exact ⟨s', hs'.trans (List.drop_suffix _ _), hns, rfl⟩
  | case3 c cs hpre ih =>
    intro r hr hne
    have hnp : ¬ p <+: c :: cs := by
      simpa [List.isPrefixOf_iff_prefix, hp] using hpre
    rcases List.suffix_cons_iff.mp hr with rfl | hr'
    · exact ⟨c :: cs, List.suffix_refl _, hnp, (replaceAll_go_nil_of_not_starts hnp).symm⟩
    · obtain ⟨s', hs', hns, rfl⟩ := ih hr' hne
      exact ⟨s', hs'.trans (List.suffix_cons c cs), hns, rfl⟩

/-- A nonempty prefix of a removal from a text where the pattern does not start is a prefix of
the text free of the pattern, or starts with a nonempty part of the text that stood right before
a removed occurrence. -/
theorem prefix_replaceAll_go_cut {p : List Char} (hp : p ≠ []) :
    ∀ {s q : List Char}, q <+: replaceAll.go [] p s → q ≠ [] → ¬ p <+: s →
      (q <+: s ∧ ¬ p <:+: q) ∨ ∃ x, x ≠ [] ∧ x <+: q ∧ x ++ p <+: s
  | [], q, hq, hne, _ => by
    rw [replaceAll.go] at hq
    exact absurd (List.prefix_nil.mp hq) hne
  | c :: cs, q, hq, hne, hns => by
    rw [replaceAll_go_nil_of_not_starts hns] at hq
    obtain ⟨q', rfl⟩ : ∃ q', q = c :: q' := by
      cases q with
      | nil => exact absurd rfl hne
      | cons d q' =>
        obtain ⟨rfl, -⟩ := List.cons_prefix_cons.mp hq
        exact ⟨q', rfl⟩
    have hq' := (List.cons_prefix_cons.mp hq).2
    by_cases hnil : q' = []
    · subst hnil
      refine .inl ⟨List.cons_prefix_cons.mpr ⟨rfl, List.nil_prefix⟩, fun hin => hns ?_⟩
      rcases List.infix_cons_iff.mp hin with hpre | hin'
      · exact hpre.trans (List.cons_prefix_cons.mpr ⟨rfl, List.nil_prefix⟩)
      · exact absurd (List.eq_nil_of_infix_nil hin') hp
    by_cases hnext : p <+: cs
    · exact .inr ⟨[c], by simp, List.cons_prefix_cons.mpr ⟨rfl, List.nil_prefix⟩,
        List.cons_prefix_cons.mpr ⟨rfl, hnext⟩⟩
    rcases prefix_replaceAll_go_cut hp hq' hnil hnext with ⟨hpre, hfree⟩ | ⟨x, hx, hxq, hxp⟩
    · refine .inl ⟨List.cons_prefix_cons.mpr ⟨rfl, hpre⟩, fun hin => ?_⟩
      rcases List.infix_cons_iff.mp hin with hhead | hin'
      · exact hns (hhead.trans (List.cons_prefix_cons.mpr ⟨rfl, hpre⟩))
      · exact hfree hin'
    · exact .inr ⟨c :: x, by simp, List.cons_prefix_cons.mpr ⟨rfl, hxq⟩,
        List.cons_prefix_cons.mpr ⟨rfl, hxp⟩⟩

/-- A nonempty piece of a removal is a piece of the text free of the pattern, or starts with a
nonempty part of the text that stood right before an occurrence of the pattern. -/
theorem infix_replaceAll_go_cut {p : List Char} (hp : p ≠ []) {s q : List Char}
    (hq : q <:+: replaceAll.go [] p s) (hne : q ≠ []) :
    (q <:+: s ∧ ¬ p <:+: q) ∨ ∃ x, x ≠ [] ∧ x <+: q ∧ x ++ p <:+: s := by
  obtain ⟨u, w, hs⟩ := hq
  have hsuf : q ++ w <:+ replaceAll.go [] p s := ⟨u, by rw [← List.append_assoc, hs]⟩
  obtain ⟨s', hs', hns, he⟩ :=
    exists_suffix_of_suffix_replaceAll_go hp s hsuf (by simp [hne])
  have hpre : q <+: replaceAll.go [] p s' := ⟨w, he⟩
  rcases prefix_replaceAll_go_cut hp hpre hne hns with ⟨hq', hfree⟩ | ⟨x, hx, hxq, hxp⟩
  · exact .inl ⟨hq'.isInfix.trans hs'.isInfix, hfree⟩
  · exact .inr ⟨x, hx, hxq, hxp.isInfix.trans hs'.isInfix⟩

end StrictCsp.Text
