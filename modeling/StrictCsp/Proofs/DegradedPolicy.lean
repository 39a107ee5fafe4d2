import StrictCsp.Policy.Assemble

/-!
# What a degraded report-only policy still holds

A report-only policy over budget is degraded by three passes, each removing
one piece from left to right: every `'unsafe-hashes'` keyword, then the older
handler placeholder, then the older style placeholder. A pass never looks
back at what it produced, so a removal can join what stood on its two sides
into a new occurrence: `'unsafe-'unsafe-hashes'hashes'` loses its inner
keyword and becomes `'unsafe-hashes'` (`degraded_nested_keeps_unsafeHashes`).

That is the only way a piece survives. By `infix_replaceAll_go_cut`, a piece
found after a pass was there before, or begins with characters that stood
right before a removed piece. When every dropped piece of the policy starts
it or follows a character that none of the three pieces holds
(`TokensStandAlone`), no run of such characters stands before a removed
piece, so each pass leaves none of its piece, creates none of the others and
keeps the condition for the next pass (`tokensStandAlone_removal`).

Main statement: an oversized report-only policy in which each dropped piece
stands alone is delivered with none of the three (`degraded_reportOnly_free`).
-/

namespace StrictCsp.Policy

open StrictCsp.Text

/-- The three pieces a degraded policy drops, in the order it drops them. -/
def droppedTokens : List (List Char) :=
  [unsafeHashes.toList, olderHandlerPlaceholder.toList, olderStylePlaceholder.toList]

/-- The characters the dropped pieces are made of. -/
def tokenChars : List Char := droppedTokens.flatten

/-- No dropped piece of a text stands right after a character of a dropped piece: each one
starts the text or follows a separator. -/
def TokensStandAlone (s : List Char) : Prop :=
  ∀ t ∈ droppedTokens, ∀ c ∈ tokenChars, ¬ (c :: t) <:+: s

/-- The check of `TokensStandAlone`, one search per piece and character. -/
def tokensStandAlone (s : List Char) : Bool :=
  droppedTokens.all fun t => tokenChars.all fun c => !occursIn (c :: t) s

/-- The check that tokens stand alone decides `TokensStandAlone`. -/
theorem tokensStandAlone_iff (s : List Char) : tokensStandAlone s = true ↔ TokensStandAlone s := by
  simp only [tokensStandAlone, List.all_eq_true, Bool.not_eq_true', TokensStandAlone]
  constructor
  · intro h t ht c hc hin
    have hsearch := h t ht c hc
    rw [← Bool.not_eq_true, occursIn_iff_infix] at hsearch
    exact hsearch hin
  · intro h t ht c hc
    rw [← Bool.not_eq_true, occursIn_iff_infix]
    exact h t ht c hc

instance : DecidablePred TokensStandAlone := fun s =>
  decidable_of_iff _ (tokensStandAlone_iff s)

/-- No dropped token is empty. -/
theorem ne_nil_of_mem_droppedTokens {t : List Char} (ht : t ∈ droppedTokens) : t ≠ [] := by
  simp only [droppedTokens, List.mem_cons, List.not_mem_nil, or_false] at ht
  rcases ht with rfl | rfl | rfl <;>
    simp [unsafeHashes, olderHandlerPlaceholder, olderStylePlaceholder]

/-- Every character of a dropped token is a token character. -/
theorem mem_tokenChars {t : List Char} (ht : t ∈ droppedTokens) {c : Char} (hc : c ∈ t) :
    c ∈ tokenChars :=
  List.mem_flatten.mpr ⟨t, ht, hc⟩

/-- `unsafe-hashes` is dropped. -/
theorem unsafeHashes_mem : unsafeHashes.toList ∈ droppedTokens := by simp [droppedTokens]

/-- The older handler placeholder is dropped. -/
theorem olderHandlerPlaceholder_mem : olderHandlerPlaceholder.toList ∈ droppedTokens := by
  simp [droppedTokens]

/-- The older style placeholder is dropped. -/
theorem olderStylePlaceholder_mem : olderStylePlaceholder.toList ∈ droppedTokens := by
  simp [droppedTokens]

section Removal

variable {p s : List Char}

/-- In a text whose dropped pieces stand alone, no nonempty run of token characters stands right
before a dropped piece. -/
theorem not_glued (hp : p ∈ droppedTokens) (h : TokensStandAlone s) {x : List Char}
    (hx : x ≠ []) (hxc : ∀ c ∈ x, c ∈ tokenChars) : ¬ x ++ p <:+: s := by
  intro hin
  have hsplit := List.dropLast_concat_getLast hx
  apply h p hp _ (hxc _ (List.getLast_mem hx))
  refine List.IsInfix.trans ⟨x.dropLast, [], ?_⟩ hin
  conv => rhs; rw [← hsplit]
  simp

/-- A piece of token characters found after a removal pass was already there, and holds no
occurrence of the removed piece. -/
theorem infix_of_infix_removal (hp : p ∈ droppedTokens) (h : TokensStandAlone s)
    {q : List Char} (hq : q <:+: replaceAll.go [] p s) (hne : q ≠ [])
    (hqc : ∀ c ∈ q, c ∈ tokenChars) : q <:+: s ∧ ¬ p <:+: q := by
  rcases infix_replaceAll_go_cut (ne_nil_of_mem_droppedTokens hp) hq hne with
    hkept | ⟨x, hx, hxq, hxp⟩
  · exact hkept
  · exact absurd hxp (not_glued hp h hx fun c hc => hqc c (hxq.subset hc))

/-- A removal pass leaves none of its piece. -/
theorem not_infix_removal_self (hp : p ∈ droppedTokens) (h : TokensStandAlone s) :
    ¬ p <:+: replaceAll.go [] p s := fun hin =>
  (infix_of_infix_removal hp h hin (ne_nil_of_mem_droppedTokens hp)
    fun _ hc => mem_tokenChars hp hc).2 (List.infix_refl p)

/-- A removal pass creates no dropped piece. -/
theorem not_infix_removal {q : List Char} (hp : p ∈ droppedTokens) (hq : q ∈ droppedTokens)
    (h : TokensStandAlone s) (hqs : ¬ q <:+: s) : ¬ q <:+: replaceAll.go [] p s := fun hin =>
  hqs (infix_of_infix_removal hp h hin (ne_nil_of_mem_droppedTokens hq)
    fun _ hc => mem_tokenChars hq hc).1

/-- A removal pass keeps every dropped piece standing alone. -/
theorem tokensStandAlone_removal (hp : p ∈ droppedTokens) (h : TokensStandAlone s) :
    TokensStandAlone (replaceAll.go [] p s) := by
  intro t ht c hc hin
  have hchars : ∀ d ∈ c :: t, d ∈ tokenChars := by
    intro d hd
    rcases List.mem_cons.mp hd with rfl | hd
    · exact hc
    · exact mem_tokenChars ht hd
  exact h t ht c hc (infix_of_infix_removal hp h hin (List.cons_ne_nil c t) hchars).1

end Removal

/-- A policy whose dropped pieces all stand alone is degraded completely. -/
theorem degrade_free_of_standAlone {p : String} (h : TokensStandAlone p.toList) :
    containsText (degrade p) unsafeHashes = false ∧
      containsText (degrade p) olderHandlerPlaceholder = false ∧
      containsText (degrade p) olderStylePlaceholder = false := by
  have hu := unsafeHashes_mem
  have hi := olderHandlerPlaceholder_mem
  have hs := olderStylePlaceholder_mem
  have h1 := tokensStandAlone_removal hu h
  have n1u := not_infix_removal_self hu h
  have h2 := tokensStandAlone_removal hi h1
  have n2i := not_infix_removal_self hi h1
  have n2u := not_infix_removal hi hu h1 n1u
  have n3s := not_infix_removal_self hs h2
  have n3u := not_infix_removal hs hu h2 n2u
  have n3i := not_infix_removal hs hi h2 n2i
  have hdeg : (degrade p).toList = replaceAll.go [] olderStylePlaceholder.toList
      (replaceAll.go [] olderHandlerPlaceholder.toList
        (replaceAll.go [] unsafeHashes.toList p.toList)) := by
    rw [degrade, toList_replaceText_empty _ _ (ne_nil_of_mem_droppedTokens hs),
      toList_replaceText_empty _ _ (ne_nil_of_mem_droppedTokens hi),
      toList_replaceText_empty _ _ (ne_nil_of_mem_droppedTokens hu)]
  simp only [containsText, hdeg, ← Bool.not_eq_true, occursIn_iff_infix]
  exact ⟨n3u, n3i, n3s⟩

/-- An oversized report-only policy is delivered without `'unsafe-hashes'` and without the two
older placeholders whenever each of these pieces stands alone in the materialized policy. -/
theorem degraded_reportOnly_free (a : Assembler) (body : List Char) (nonce : Nonce)
    (t : Templates) {v : String} (hv : (a.apply body nonce t).reportOnly = .degraded v)
    (happart : TokensStandAlone (materialize t.reportOnly nonce (a.hashLists body).1
      (a.hashLists body).2).toList) :
    containsText v unsafeHashes = false ∧ containsText v olderHandlerPlaceholder = false ∧
      containsText v olderStylePlaceholder = false := by
  rw [Assembler.apply_reportOnly] at hv
  rw [Assembler.eq_degrade_of_deliverReportOnly hv]
  exact degrade_free_of_standAlone happart

/-- A ten-byte budget degrades a report-only policy that holds the keyword and the older handler
placeholder, each after a blank. -/
theorem degraded_reportOnly_free_of_legacy_policy :
    (Assembler.apply ⟨10, "MD5"⟩ "<p>x</p>".toList ⟨"abc"⟩
        ⟨"script-src 'self'", "script-src 'self' 'unsafe-hashes' \x7binvocation_hashes\x7d ;"⟩).reportOnly =
        .degraded "script-src 'self'   ;" ∧
      TokensStandAlone (materialize "script-src 'self' 'unsafe-hashes' \x7binvocation_hashes\x7d ;"
        ⟨"abc"⟩ (Assembler.hashLists ⟨10, "MD5"⟩ "<p>x</p>".toList).1
        (Assembler.hashLists ⟨10, "MD5"⟩ "<p>x</p>".toList).2).toList ∧
      containsText "script-src 'self'   ;" unsafeHashes = false ∧
      containsText "script-src 'self'   ;" olderHandlerPlaceholder = false ∧
      containsText "script-src 'self'   ;" olderStylePlaceholder = false :=
  have hv : (Assembler.apply ⟨10, "MD5"⟩ "<p>x</p>".toList ⟨"abc"⟩
      ⟨"script-src 'self'", "script-src 'self' 'unsafe-hashes' \x7binvocation_hashes\x7d ;"⟩).reportOnly =
      .degraded "script-src 'self'   ;" := by decide +kernel
  have hsep : TokensStandAlone
      (materialize "script-src 'self' 'unsafe-hashes' \x7binvocation_hashes\x7d ;" ⟨"abc"⟩
        (Assembler.hashLists ⟨10, "MD5"⟩ "<p>x</p>".toList).1
        (Assembler.hashLists ⟨10, "MD5"⟩ "<p>x</p>".toList).2).toList := by decide +kernel
  ⟨hv, hsep, degraded_reportOnly_free _ _ _ _ hv hsep⟩

/-- A keyword split by another one comes together when the inner one is removed, so the
degraded policy still holds it. -/
theorem degraded_nested_keeps_unsafeHashes :
    ¬ ∀ v, (Assembler.apply ⟨10, "MD5"⟩ "<p>x</p>".toList ⟨"abc"⟩
        ⟨"", "'unsafe-'unsafe-hashes'hashes'"⟩).reportOnly = .degraded v →
      containsText v unsafeHashes = false := by
  intro h
  have hv : (Assembler.apply ⟨10, "MD5"⟩ "<p>x</p>".toList ⟨"abc"⟩
      ⟨"", "'unsafe-'unsafe-hashes'hashes'"⟩).reportOnly = .degraded unsafeHashes := by
    decide +kernel
  have hfree := h _ hv
  revert hfree
  decide

end StrictCsp.Policy
