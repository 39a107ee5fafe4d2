import StrictCsp.Markup.NonceAttr
import StrictCsp.Text.Base64

/-!
# Adding nonces twice

Adding nonces rewrites every inline tag candidate that needs a nonce, and a
second pass over the result finds exactly the same candidates, each of them
needing none (`addNonces_addNonces`). The second pass sees the same candidates
because nothing the first pass does can move one: a rewritten candidate is
read back as one candidate that ends where it ended or earlier, or, when the
nonce holds a line break, as no candidate at all (`insertNonces_withNonce_append`);
and a start that failed before still fails, since inserting text inside a
candidate only ever follows its first six characters (`take_insertNonces`).
Both need the nonce to hold no `<`, which no generated nonce does.
-/

namespace StrictCsp.Markup

open StrictCsp.Text Pattern

/-- The substitution that adds the nonce to every candidate that needs one. -/
abbrev insertNonces (nonce : List Char) : List Char → List Char :=
  inlineTag.substitute fun tag _ => withNonce nonce tag

section InsertNonces

variable {nonce : List Char}

/-- A candidate that mentions a nonce after its name needs none. -/
theorem needsNonce_of_mentions_nonce {name x : List Char}
    (hname : name = "script".toList ∨ name = "style".toList) (hx : "nonce".toList <:+: x) :
    needsNonce ('<' :: name ++ x ++ ['>']) = false := by
  rcases hname with rfl | rfl
  · have hlit : literal? "<script".toList ('<' :: "script".toList ++ x ++ ['>']) = some (x ++ ['>']) := by
      rw [show '<' :: "script".toList ++ x ++ ['>'] = "<script".toList ++ (x ++ ['>']) by simp]
      exact literal?_append _ _
    have hocc : occursIn "nonce".toList (x ++ ['>']) = true :=
      occursIn_iff_infix.mpr (hx.trans (List.prefix_append x ['>']).isInfix)
    unfold needsNonce
    rw [hlit]
    dsimp only
    rw [hocc]
    rfl
  · have hlit : literal? "<script".toList ('<' :: "style".toList ++ x ++ ['>']) = none := by
      simp [literal?, List.isPrefixOf]
    have hocc : occursIn "nonce".toList ('<' :: "style".toList ++ x ++ ['>']) = true :=
      occursIn_iff_infix.mpr (hx.trans ⟨'<' :: "style".toList, ['>'], by simp⟩)
    unfold needsNonce
    rw [hlit, hocc]
    rfl

/-- The nonce goes in before the closing bracket, so the first characters of a candidate stay. -/
theorem take_withNonce {name x : List Char}
    (hname : name = "script".toList ∨ name = "style".toList) :
    (withNonce nonce ('<' :: name ++ x ++ ['>'])).take 6 = ('<' :: name ++ x ++ ['>']).take 6 := by
  have hlen : 6 ≤ ('<' :: name ++ x).length := by
    rcases hname with rfl | rfl <;> simp
  unfold withNonce
  split
  · rw [show '<' :: name ++ x ++ ['>'] = ('<' :: name ++ x) ++ ['>'] from rfl, List.dropLast_concat,
      List.append_assoc, List.take_append_of_le_length hlen, List.take_append_of_le_length hlen]
  · rfl

/-- Adding nonces keeps the first six characters of a text. -/
theorem take_insertNonces (s : List Char) : (insertNonces nonce s).take 6 = s.take 6 := by
  unfold insertNonces
  fun_induction Recogniser.substitute inlineTag (fun tag _ => withNonce nonce tag) s with
  | case1 => rfl
  | case2 c cs h hm hpos ih =>
    obtain ⟨name, x, r, hname, -, hs, hl⟩ := inlineTag_eq_some hm
    have hlen : 6 ≤ (withNonce nonce ('<' :: name ++ x ++ ['>'])).length := by
      have := congrArg (List.length ∘ List.take 6)
        (take_withNonce hname : (withNonce nonce ('<' :: name ++ x ++ ['>'])).take 6 = _)
      rcases hname with rfl | rfl <;> simp at this ⊢ <;> omega
    have hT : 6 ≤ ('<' :: name ++ x ++ ['>']).length := by rcases hname with rfl | rfl <;> simp
    rw [hs, hl, show '<' :: name ++ x ++ '>' :: r = ('<' :: name ++ x ++ ['>']) ++ r by simp,
      List.take_left, List.drop_left, List.take_append_of_le_length hlen, take_withNonce hname,
      List.take_append_of_le_length hT]
  | case3 c cs h hm hpos ih => exact absurd (inlineTag_length_pos hm) hpos
  | case4 c cs hm ih =>
    have h5 := congrArg (List.take 5) ih
    simp only [List.take_take, show min 5 6 = 5 from rfl] at h5
    rw [List.take_succ_cons, List.take_succ_cons, h5]

/-- A name of at most six characters is read off a text with nonces added as off the text. -/
theorem prefix_insertNonces_iff {name : List Char} (hn : name.length ≤ 6) (s : List Char) :
    name <+: insertNonces nonce s ↔ name <+: s := by
  rw [← and_iff_left (a := name <+: insertNonces nonce s) hn, ← List.prefix_take_iff, take_insertNonces,
    List.prefix_take_iff, and_iff_left hn]


/-- Inserting nonces into nothing gives nothing. -/
theorem insertNonces_nil : insertNonces nonce [] = [] := by
  simp [insertNonces, Recogniser.substitute]

/-- A character that starts no candidate is kept, and nonces are added after it. -/
theorem insertNonces_cons_of_none {c : Char} {cs : List Char} (h : inlineTag (c :: cs) = none) :
    insertNonces nonce (c :: cs) = c :: insertNonces nonce cs := by
  rw [insertNonces, Recogniser.substitute]
  simp only [h]

/-- A stretch where no candidate starts is kept as it is. -/
theorem insertNonces_append_of_noHitBefore {u v : List Char}
    (h : Recogniser.NoHitBefore inlineTag u v) : insertNonces nonce (u ++ v) = u ++ insertNonces nonce v :=
  Recogniser.substitute_append_of_noHitBefore _ _ h

/-- A run of candidate characters cut by a line break or the end is kept as it is. -/
theorem insertNonces_cut {x v : List Char} (hx : ∀ c ∈ x, candidateChar c = true)
    (hv : v.head?.all isLineBreak = true) : insertNonces nonce (x ++ v) = x ++ insertNonces nonce v :=
  insertNonces_append_of_noHitBefore (noHitBefore_cut hx hv)

/-- A line break starts no candidate and is kept. -/
theorem insertNonces_lineBreak {b : Char} (hb : isLineBreak b = true) (z : List Char) :
    insertNonces nonce (b :: z) = b :: insertNonces nonce z := by
  have hne : b ≠ '<' := by
    rintro rfl
    exact absurd hb (by decide)
  exact insertNonces_cons_of_none (inlineTag_cons_none hne z)

/-- A candidate name that a bracket does not close in a text is not closed after nonces are added
either: the run reaches the end, where nothing closes it before or after, for a bracket closing it
would have made the text hold a candidate after all. -/
theorem candidateTag_insertNonces_of_none {name cs : List Char}
    (hname : name = "script".toList ∨ name = "style".toList)
    (h : candidateTag name ('<' :: cs) = none) :
    candidateTag name ('<' :: insertNonces nonce cs) = none := by
  have hclean := candidateChar_of_mem_name hname
  have hlen : name.length ≤ 6 := by rcases hname with rfl | rfl <;> decide
  by_cases hp : name <+: cs
  · obtain ⟨y, rfl⟩ := hp
    obtain ⟨x, hx, hy⟩ := candidate_split y
    have hnx : ∀ c ∈ name ++ x, candidateChar c = true := by
      intro c hc
      rcases List.mem_append.mp hc with hc | hc
      · exact hclean c hc
      · exact hx c hc
    rcases hy with rfl | ⟨z, rfl⟩ | ⟨b, z, hb, rfl⟩
    · have hcut : ([] : List Char).head?.all isLineBreak = true := rfl
      have hfix : insertNonces nonce _ = _ := insertNonces_cut hnx hcut
      rw [List.append_nil, insertNonces_nil, List.append_nil] at hfix
      rw [hfix]
      simpa using candidateTag_of_cut hclean hnx hcut
    · rw [show '<' :: (name ++ (x ++ '>' :: z)) = '<' :: name ++ x ++ '>' :: z by simp,
        candidateTag_append hx] at h
      cases h
    · have hcut : (b :: z).head?.all isLineBreak = true := by simpa using hb
      rw [← List.append_assoc, insertNonces_cut hnx hcut, insertNonces_lineBreak hb]
      exact candidateTag_of_cut hclean hnx (by simpa using hb)
  · rw [candidateTag_eq, literal?_lt_eq_none (mt (prefix_insertNonces_iff hlen cs).mp hp)]
    rfl

/-- A text that starts no candidate starts none after nonces are added to its rest. -/
theorem inlineTag_insertNonces_of_none {c : Char} {cs : List Char} (h : inlineTag (c :: cs) = none) :
    inlineTag (c :: insertNonces nonce cs) = none := by
  by_cases hc : c = '<'
  · subst hc
    obtain ⟨hs, hst⟩ := inlineTag_eq_none_iff.mp h
    exact inlineTag_eq_none_iff.mpr
      ⟨candidateTag_insertNonces_of_none (.inl rfl) hs, candidateTag_insertNonces_of_none (.inr rfl) hst⟩
  · exact inlineTag_cons_none hc _

/-- A candidate scanned whole is kept when it needs no nonce, and the scan goes on after it. -/
theorem insertNonces_candidate {name y : List Char}
    (hname : name = "script".toList ∨ name = "style".toList)
    (hy : ∀ c ∈ y, candidateChar c = true) (hneed : needsNonce ('<' :: name ++ y ++ ['>']) = false)
    (R : List Char) :
    insertNonces nonce ('<' :: name ++ y ++ ['>'] ++ R) = '<' :: name ++ y ++ ['>'] ++ insertNonces nonce R := by
  have hm := inlineTag_candidate hname hy R
  rw [show '<' :: name ++ y ++ '>' :: R = ('<' :: name ++ y ++ ['>']) ++ R by simp] at hm
  rw [insertNonces, Recogniser.substitute_of_hit hm (by simp) (by simp), List.take_left, List.drop_left]
  simp only [withNonce, hneed, Bool.false_eq_true, if_false]

/-- The text a candidate is rewritten to is scanned back as itself, and the scan goes on after
it: a nonce without brackets and line breaks makes the candidate longer, a closing bracket in the
nonce makes it end early, and a line break in the nonce makes it no candidate at all. -/
theorem insertNonces_withNonce_append (hN : '<' ∉ nonce) {name x : List Char}
    (hname : name = "script".toList ∨ name = "style".toList)
    (hx : ∀ c ∈ x, candidateChar c = true) (R : List Char) :
    insertNonces nonce (withNonce nonce ('<' :: name ++ x ++ ['>']) ++ R) =
      withNonce nonce ('<' :: name ++ x ++ ['>']) ++ insertNonces nonce R := by
  have hopen : ∀ c ∈ " nonce=\"".toList, candidateChar c = true := List.all_eq_true.mp (by decide)
  have hclose : ∀ c ∈ "\" ".toList, candidateChar c = true := List.all_eq_true.mp (by decide)
  have hmention : ∀ y z, "nonce".toList <:+: x ++ " nonce=\"".toList ++ y ++ z := by
    intro y z
    have hseg : " nonce=\"".toList = [' '] ++ "nonce".toList ++ "=\"".toList := rfl
    exact ⟨x ++ [' '], "=\"".toList ++ y ++ z, by rw [hseg]; simp only [List.append_assoc]⟩
  cases hneed : needsNonce ('<' :: name ++ x ++ ['>'])
  · simp only [withNonce, hneed, Bool.false_eq_true, if_false]
    exact insertNonces_candidate hname hx hneed R
  · have hW : withNonce nonce ('<' :: name ++ x ++ ['>']) =
        '<' :: name ++ (x ++ " nonce=\"".toList ++ nonce ++ "\" ".toList) ++ ['>'] := by
      unfold withNonce nonceSegment
      rw [if_pos hneed, List.dropLast_concat]
      simp only [List.append_assoc, List.cons_append]
    rw [hW]
    obtain ⟨n₀, hn₀, hsplit⟩ := candidate_split nonce
    rcases hsplit with rfl | ⟨z, rfl⟩ | ⟨b, z, hb, rfl⟩
    · have hy : ∀ c ∈ x ++ " nonce=\"".toList ++ nonce ++ "\" ".toList, candidateChar c = true := by
        intro c hc
        simp only [List.mem_append] at hc
        rcases hc with ((hc | hc) | hc) | hc
        · exact hx c hc
        · exact hopen c hc
        · exact hn₀ c hc
        · exact hclose c hc
      exact insertNonces_candidate hname hy (needsNonce_of_mentions_nonce hname (hmention nonce _)) R
    · have hy : ∀ c ∈ x ++ " nonce=\"".toList ++ n₀, candidateChar c = true := by
        intro c hc
        simp only [List.mem_append] at hc
        rcases hc with (hc | hc) | hc
        · exact hx c hc
        · exact hopen c hc
        · exact hn₀ c hc
      have hrest : '<' ∉ z ++ "\" ".toList ++ ['>'] := by
        simp only [List.mem_append, not_or]
        exact ⟨⟨fun h => hN (by simp [h]), by decide⟩, by decide⟩
      have hsplit : '<' :: name ++ (x ++ " nonce=\"".toList ++ (n₀ ++ '>' :: z) ++ "\" ".toList) ++
          ['>'] ++ R = '<' :: name ++ (x ++ " nonce=\"".toList ++ n₀) ++ ['>'] ++
            ((z ++ "\" ".toList ++ ['>']) ++ R) := by simp
      rw [hsplit, insertNonces_candidate hname hy
        (needsNonce_of_mentions_nonce hname (by simpa using hmention n₀ [])),
        insertNonces_append_of_noHitBefore (noHitBefore_of_lt_not_mem hrest R)]
      simp
    · have hC : ∀ c ∈ name ++ x ++ " nonce=\"".toList ++ n₀, candidateChar c = true := by
        intro c hc
        simp only [List.mem_append] at hc
        rcases hc with ((hc | hc) | hc) | hc
        · exact candidateChar_of_mem_name hname c hc
        · exact hx c hc
        · exact hopen c hc
        · exact hn₀ c hc
      have hbl : b ≠ '<' := by
        rintro rfl
        exact absurd hb (by decide)
      have hrest : '<' ∉ b :: (z ++ "\" ".toList ++ ['>']) := by
        simp only [List.mem_cons, List.mem_append, not_or]
        exact ⟨Ne.symm hbl, ⟨fun h => hN (by simp [h]), by decide⟩, by decide⟩
      have hcut : ((b :: (z ++ "\" ".toList ++ ['>'])) ++ R).head?.all isLineBreak = true := by
        simpa using hb
      have hnone : inlineTag ('<' :: (name ++ x ++ " nonce=\"".toList ++ n₀ ++
          ((b :: (z ++ "\" ".toList ++ ['>'])) ++ R))) = none := inlineTag_cut hC hcut
      have hfront : Recogniser.NoHitBefore inlineTag ('<' :: (name ++ x ++ " nonce=\"".toList ++ n₀))
          ((b :: (z ++ "\" ".toList ++ ['>'])) ++ R) :=
        Recogniser.NoHitBefore.cons (fun h hm => by rw [hnone] at hm; cases hm)
          (noHitBefore_cut hC hcut)
      have hsplit : '<' :: name ++ (x ++ " nonce=\"".toList ++ (n₀ ++ b :: z) ++ "\" ".toList) ++
          ['>'] ++ R = ('<' :: (name ++ x ++ " nonce=\"".toList ++ n₀) ++
            (b :: (z ++ "\" ".toList ++ ['>']))) ++ R := by simp
      rw [hsplit, insertNonces_append_of_noHitBefore (hfront.append (noHitBefore_of_lt_not_mem hrest R))]
      simp


/-- Adding nonces a second time changes nothing, when the nonce holds no opening bracket. Each
candidate is rewritten once, its rewriting is read back as itself, and the rest is the induction
hypothesis. -/
theorem insertNonces_insertNonces (hN : '<' ∉ nonce) (s : List Char) :
    insertNonces nonce (insertNonces nonce s) = insertNonces nonce s := by
  unfold insertNonces
  fun_induction Recogniser.substitute inlineTag (fun tag _ => withNonce nonce tag) s with
  | case1 => exact insertNonces_nil
  | case2 c cs h hm hpos ih =>
    obtain ⟨name, x, r, hname, hx, hs, hl⟩ := inlineTag_eq_some hm
    have hsplit : c :: cs = ('<' :: name ++ x ++ ['>']) ++ r := by rw [hs]; simp
    rw [hl, hsplit, List.drop_left] at ih
    rw [hl, hsplit, List.take_left, List.drop_left]
    exact (insertNonces_withNonce_append hN hname hx _).trans (congrArg _ ih)
  | case3 c cs h hm hpos ih => exact absurd (inlineTag_length_pos hm) hpos
  | case4 c cs hm ih =>
    exact (insertNonces_cons_of_none (inlineTag_insertNonces_of_none hm)).trans (congrArg _ ih)

/-- Every character of a text is kept when nonces are added. -/
theorem sublist_insertNonces (s : List Char) : List.Sublist s (insertNonces nonce s) := by
  unfold insertNonces
  fun_induction Recogniser.substitute inlineTag (fun tag _ => withNonce nonce tag) s with
  | case1 => exact List.Sublist.refl _
  | case2 c cs h hm hpos ih =>
    obtain ⟨name, x, r, hname, hx, hs, hl⟩ := inlineTag_eq_some hm
    have hsplit : c :: cs = ('<' :: name ++ x ++ ['>']) ++ r := by rw [hs]; simp
    rw [hl, hsplit, List.drop_left] at ih
    rw [hl, hsplit, List.take_left, List.drop_left]
    refine List.Sublist.append ?_ ih
    unfold withNonce
    split
    · rw [show '<' :: name ++ x ++ ['>'] = ('<' :: name ++ x) ++ ['>'] from rfl, List.dropLast_concat]
      exact List.Sublist.append (List.sublist_append_left _ _) (List.Sublist.refl _)
    · exact List.Sublist.refl _
  | case3 c cs h hm hpos ih => exact ih.cons_cons c
  | case4 c cs hm ih => exact ih.cons_cons c

/-- Adding a nonce twice adds it once: no tag gets a second nonce attribute, when the nonce holds no
opening bracket (as no generated nonce does). The page keeps every character, so it stays non-blank.
-/
theorem addNonces_addNonces (html nonce : List Char) (hN : '<' ∉ nonce) :
    addNonces (addNonces html nonce) nonce = addNonces html nonce := by
  by_cases hb : ((trim html).isEmpty || (trim nonce).isEmpty) = true
  · have hsame : addNonces html nonce = html := by simp only [addNonces, hb, if_true]
    rw [hsame, hsame]
  · have hstep : addNonces html nonce = insertNonces nonce html := by
      simp only [addNonces, hb, Bool.false_eq_true, if_false]
    simp only [Bool.or_eq_true, not_or, Bool.not_eq_true] at hb
    have hpage : (trim (insertNonces nonce html)).isEmpty = false := by
      rw [List.isEmpty_eq_false_iff, ne_eq, trim_eq_nil_iff]
      intro hall
      have hhtml : html.all isBlank = true :=
        List.all_eq_true.mpr fun c hc => List.all_eq_true.mp hall c ((sublist_insertNonces html).subset hc)
      rw [← trim_eq_nil_iff] at hhtml
      simp [hhtml] at hb
    rw [hstep, addNonces, hpage, hb.2, Bool.or_false, if_neg Bool.false_ne_true]
    exact insertNonces_insertNonces hN html

/-- Adding a Base64 nonce twice adds it once. -/
theorem addNonces_addNonces_base64 :
    '<' ∉ Base64.encodeChars [1, 2, 3] ∧
      addNonces (addNonces "<style>".toList (Base64.encodeChars [1, 2, 3]))
        (Base64.encodeChars [1, 2, 3]) = addNonces "<style>".toList (Base64.encodeChars [1, 2, 3]) :=
  ⟨Base64.lt_not_mem_encodeChars _, addNonces_addNonces _ _ (Base64.lt_not_mem_encodeChars _)⟩

/- A closing bracket in the nonce ends the rewritten candidate early, at a tag that already
mentions a nonce. -/
example : addNonces (addNonces "<script>".toList "a>b".toList) "a>b".toList =
    addNonces "<script>".toList "a>b".toList := by decide +kernel

end InsertNonces

end StrictCsp.Markup
