import StrictCsp.Policy.Assemble

/-!
# The digests of the served page

The policies list the digests of the handlers and styles of the page they are
assembled from. An enforced policy over budget moves into a meta element spliced
in right after the page's first head opening tag, so the page served is not the
page hashed. A splice leaves a scan alone when every match decision that starts
up to the end of the head tag is made within that stretch, and no match starts
inside the meta element (`SpliceInert`). Each scan then finds in the served page
just what it found in the first one (`findAll_splice`).

Both scans need little for that. A tag with handlers is read from a blank followed
by `on` and a letter, and an inline style from the word `style` followed by an
equals sign (`opensHandler`, `opensStyle`). In a stretch that ends with a closing
bracket and holds neither, no match starts, whatever follows
(`handlerTag_append_eq_none`, `inlineStyle_append_eq_none`). The head tag ends
with its bracket, and so does the meta element.

The head tag is found by a pattern that knows nothing of attribute quotes, so a
`<head>` written inside an attribute value is taken for one. The meta element then
cuts the value, whose style is no longer found in the served page
(`apply_drops_style_of_head_in_value`).

Main statement: the digests filled into the policies are those of the served page
whenever no handler or style attribute can be read up to the end of the first head
tag or in the meta element (`apply_keeps_digests`).
-/

namespace StrictCsp.Policy

open StrictCsp.Text StrictCsp.Markup.Pattern Recogniser

/-- Text spliced between two parts of a page leaves a pattern's matches alone. -/
structure SpliceInert {α : Type} (m : Recogniser α) (u x w : List Char) : Prop where
  /-- Every match decision that starts in the first part is made within it. -/
  readsWithin : ReadsWithin m u
  /-- No match starts in the spliced text. -/
  noHit : NoHitBefore m x w

section Splice

variable {u x w : List Char}

/-- A splice that leaves a pattern alone keeps its matches. -/
theorem findAll_splice {α : Type} {m : Recogniser α} (h : SpliceInert m u x w)
    (hfit : ∀ s h, m s = some h → h.length ≤ s.length) :
    findAll m (u ++ x ++ w) = findAll m (u ++ w) := by
  rw [List.append_assoc, findAll_append_of_readsWithin m hfit _ u h.readsWithin,
    findAll_append_of_readsWithin m hfit _ u h.readsWithin, findAll_append_of_noHitBefore m h.noHit]

/-- Handler digests do not see a spliced piece that is inert to handler tags. -/
theorem handlerDigests_splice (alg : HashAlgorithm) (h : SpliceInert handlerTag u x w) :
    handlerDigests alg (u ++ x ++ w) = handlerDigests alg (u ++ w) := by
  simp only [handlerDigests_eq, handlerValues, findAll_splice h (ofRest_fits _)]

/-- Style digests do not see a spliced piece that is inert to inline styles. -/
theorem styleDigests_splice (alg : HashAlgorithm) (h : SpliceInert inlineStyle u x w) :
    styleDigests alg (u ++ x ++ w) = styleDigests alg (u ++ w) := by
  simp only [styleDigests, styleValues, findAll_splice h (ofRest_fits _)]

/-- Two stretches where no match starts, whatever follows, leave a pattern alone on both sides
of a splice. -/
theorem SpliceInert.of_none {α : Type} {m : Recogniser α}
    (hu : ∀ t, t <:+ u → t ≠ [] → ∀ v, m (t ++ v) = none)
    (hx : ∀ t, t <:+ x → t ≠ [] → ∀ v, m (t ++ v) = none) : SpliceInert m u x w where
  readsWithin t ht hne v := by rw [hu t ht hne v, ← hu t ht hne [], List.append_nil]
  noHit t ht hne h hm := by
    rw [hx t ht hne w] at hm
    cases hm

end Splice

section Openers

/-- Where an inline style can be read from: the word `style`, in any case, then an equals sign
after optional blanks. -/
def opensStyle (s : List Char) : Bool :=
  ((word? "style".toList s).bind fun r => char? '=' (blanks r)).isSome

/-- A text from no point of which a tag with handlers or an inline style can be read. -/
def opensNoAttribute : List Char → Bool
  | [] => true
  | c :: cs => !opensHandler (c :: cs) && !opensStyle (c :: cs) && opensNoAttribute cs

/-- The check decides that no suffix opens a handler or a style attribute. -/
theorem opensNoAttribute_iff {s : List Char} :
    opensNoAttribute s = true ↔ ∀ t, t <:+ s → opensHandler t = false ∧ opensStyle t = false := by
  induction s with
  | nil =>
    simp only [opensNoAttribute, List.suffix_nil, true_iff]
    rintro t rfl
    exact ⟨rfl, rfl⟩
  | cons c cs ih =>
    simp only [opensNoAttribute, Bool.and_eq_true, Bool.not_eq_true', ih, List.suffix_cons_iff]
    constructor
    · rintro ⟨⟨hh, hs⟩, hrest⟩ t (rfl | ht)
      · exact ⟨hh, hs⟩
      · exact hrest t ht
    · intro h
      exact ⟨h _ (.inl rfl), fun t ht => h t (.inr ht)⟩

/-- A suffix of a text that ends with a closing bracket ends with it too. -/
theorem exists_eq_append_bracket {u t : List Char} (hu : ∃ u0, u = u0 ++ ['>'])
    (ht : t <:+ u) (hne : t ≠ []) : ∃ t0, t = t0 ++ ['>'] := by
  obtain ⟨u0, rfl⟩ := hu
  obtain ⟨p, hp⟩ := ht
  rcases List.eq_nil_or_concat t with rfl | ⟨t0, b, rfl⟩
  · exact absurd rfl hne
  · rw [List.concat_eq_append, ← List.append_assoc] at hp
    obtain ⟨-, hb⟩ := List.append_inj' hp rfl
    cases hb
    exact ⟨t0, List.concat_eq_append⟩

variable {u : List Char}

/-- Where no blank is followed by `on` and a letter up to a closing bracket, no tag with handlers
starts, whatever follows. -/
theorem handlerTag_append_eq_none (hend : ∃ u0, u = u0 ++ ['>'])
    (hu : ∀ t, t <:+ u → opensHandler t = false) {t : List Char} (ht : t <:+ u) (hne : t ≠ [])
    (v : List Char) : handlerTag (t ++ v) = none := by
  obtain ⟨t0, rfl⟩ := exists_eq_append_bracket hend ht hne
  rcases t0 with _ | ⟨c, body⟩
  · exact handlerTag_cons_none (by decide) _
  by_cases hc : c = '<'
  · subst hc
    have hbody : '>' ∈ body ++ ['>'] := List.mem_append_right _ (List.mem_singleton_self '>')
    have hforms : ∀ r ∈ afterBlanks ((body ++ ['>']) ++ v), handlerForms r = [] := by
      intro r hr
      obtain ⟨b, r0, hb, hsuf, hin, rfl⟩ :=
        mem_afterEachBlank_append hbody (List.mem_reverse.mp hr)
      exact handlerForms_eq_nil hb (hu _ (hsuf.trans ((List.suffix_cons '<' _).trans ht))) hin v
    simp only [List.cons_append, handlerTag, Recogniser.ofRest, Option.map_eq_none_iff]
    rw [List.findSome?_eq_none_iff]
    intro r hr
    simp [hforms r hr]
  · rw [List.cons_append, List.cons_append]
    exact handlerTag_cons_none hc _

/-- Where the word `style` is followed by no equals sign up to a closing bracket, no inline style
starts, whatever follows. -/
theorem inlineStyle_append_eq_none (hend : ∃ u0, u = u0 ++ ['>'])
    (hu : ∀ t, t <:+ u → opensStyle t = false) {t : List Char} (ht : t <:+ u) (hne : t ≠ [])
    (v : List Char) : inlineStyle (t ++ v) = none := by
  obtain ⟨t0, rfl⟩ := exists_eq_append_bracket hend ht hne
  have hopen := hu _ ht
  simp only [inlineStyle, Recogniser.ofRest, Option.map_eq_none_iff, Option.bind_eq_bind,
    List.append_assoc, List.singleton_append]
  rcases hw : word? "style".toList (t0 ++ '>' :: v) with _ | r
  · rfl
  obtain ⟨r0, hw0, rfl⟩ := word?_append_cons (eq_false_of_all_not (p := foldEq '>') (by decide)) hw
  rcases he : equals? (r0 ++ '>' :: v) with _ | r1
  · simp [he]
  obtain ⟨r1', he0, -⟩ := equals?_append_cons (by decide) (by decide) he
  obtain ⟨r2, hc, -⟩ := Option.map_eq_some_iff.mp he0
  have hblanks : blanks (r0 ++ ['>']) = blanks r0 ++ ['>'] := by
    have hne' : (blanks r0).isEmpty = false := by
      rw [List.isEmpty_eq_false_iff]
      rintro h0
      rw [h0] at hc
      cases hc
    simp only [blanks, List.dropWhile_append]
    exact if_neg (by simpa [blanks] using hne')
  have hopen' : opensStyle (t0 ++ ['>']) = true := by
    obtain ⟨q, hq⟩ : ∃ q, blanks r0 = '=' :: q := by
      rcases hb : blanks r0 with _ | ⟨d, q⟩
      · rw [hb] at hc
        cases hc
      · rw [hb] at hc
        simp only [char?] at hc
        split at hc
        · rename_i hd
          exact ⟨q, by rw [hd]⟩
        · cases hc
    rw [opensStyle, word?_append hw0, Option.bind_some, hblanks, hq]
    rfl
  rw [hopen'] at hopen
  cases hopen

/-- A stretch that ends with a closing bracket, from no point of which a handler tag or an inline
style can be read, is passed over by both scans on either side of a splice. -/
theorem spliceInert_of_opensNoAttribute {x w : List Char} (hu : opensNoAttribute u = true)
    (huend : ∃ u0, u = u0 ++ ['>']) (hx : opensNoAttribute x = true)
    (hxend : ∃ x0, x = x0 ++ ['>']) :
    SpliceInert handlerTag u x w ∧ SpliceInert inlineStyle u x w := by
  have hu' := opensNoAttribute_iff.mp hu
  have hx' := opensNoAttribute_iff.mp hx
  exact ⟨.of_none
      (fun _ ht hne v => handlerTag_append_eq_none huend (fun t ht => (hu' t ht).1) ht hne v)
      (fun _ ht hne v => handlerTag_append_eq_none hxend (fun t ht => (hx' t ht).1) ht hne v),
    .of_none
      (fun _ ht hne v => inlineStyle_append_eq_none huend (fun t ht => (hu' t ht).2) ht hne v)
      (fun _ ht hne v => inlineStyle_append_eq_none hxend (fun t ht => (hx' t ht).2) ht hne v)⟩

end Openers

/-- A head opening tag ends with its closing bracket. -/
theorem headTag_ends {s : List Char} {h : Hit Unit} (hm : headTag s = some h) :
    ∃ t0, s.take h.length = t0 ++ ['>'] := by
  obtain ⟨r, hf, hlen⟩ := ofRest_hit hm
  have hsplit : '>' :: r <:+ s := by
    obtain ⟨r1, h1, hf⟩ := Option.bind_eq_some_iff.mp hf
    obtain ⟨r2, h2, hf⟩ := Option.bind_eq_some_iff.mp hf
    have hs2 : r2 <:+ s := (word?_consumes _ _ _ h2).trans (char?_consumes _ _ _ h1)
    split at hf
    · cases hf
      exact hs2
    · rename_i c r3 _
      split at hf
      · obtain ⟨r4, h4, hr4⟩ := Option.map_eq_some_iff.mp hf
        cases hr4
        rw [← char?_eq_some h4]
        exact (List.dropWhile_suffix _).trans ((List.suffix_cons c r3).trans hs2)
      · cases hf
    · cases hf
  obtain ⟨p, rfl⟩ := hsplit
  refine ⟨p, ?_⟩
  have hlen' : (p ++ '>' :: r).length - r.length = (p ++ ['>']).length := by
    simp only [List.length_append, List.length_cons, List.length_nil]
    omega
  rw [hlen, hlen', show p ++ '>' :: r = (p ++ ['>']) ++ r by simp, List.take_left]

/-- The leftmost match is what the recogniser reads at some suffix of the text. -/
theorem first?_hit {α : Type} {m : Recogniser α} :
    ∀ {s pre t : List Char} {a : α}, first? m s = some (pre, t, a) →
      ∃ s' h, s' <:+ s ∧ m s' = some h ∧ t = s'.take h.length
  | [], _, _, _, h => by simp [first?] at h
  | c :: cs, pre, t, a, h => by
    rcases Recogniser.first?_cons_eq_some h with ⟨hit, hm, -, rfl⟩ | ⟨pre', -, hf⟩
    · exact ⟨c :: cs, hit, List.suffix_refl _, hm, rfl⟩
    · obtain ⟨s', h', hs', hm', rfl⟩ := first?_hit hf
      exact ⟨s', h', hs'.trans (List.suffix_cons c cs), hm', rfl⟩

/-- The first head tag of a page ends with its closing bracket. -/
theorem first?_headTag_ends {body pre tag : List Char} (h : first? headTag body = some (pre, tag, ())) :
    ∃ u0, pre ++ tag = u0 ++ ['>'] := by
  obtain ⟨s', hit, -, hm, rfl⟩ := first?_hit h
  obtain ⟨t0, ht0⟩ := headTag_ends hm
  exact ⟨pre ++ t0, by rw [ht0, List.append_assoc]⟩

/-- The meta element ends with the closing bracket of its tag. -/
theorem metaElement_ends (policy : String) : ∃ x0, metaElement policy = x0 ++ ['>'] := by
  have e : "\" />".toList = "\" /".toList ++ ['>'] := by simp
  refine ⟨("\n<meta http-equiv=\"" ++ enforcedHeader ++ "\" content=\"").toList ++
      Markup.Entity.quoteAttribute policy.toList ++ "\" /".toList, ?_⟩
  unfold metaElement
  rw [e, List.append_assoc _ _ ['>']]

/-- The handler and style digests filled into both policies are those of the page served, when no
tag with handlers and no inline style can be read from any point up to the end of the page's first
head tag, nor from any point of the meta element the enforced policy may move into. -/
theorem apply_keeps_digests (a : Assembler) (body : List Char) (nonce : Nonce) (t : Templates)
    (alg : HashAlgorithm)
    (hhead : ∀ pre tag, first? headTag body = some (pre, tag, ()) →
      opensNoAttribute (pre ++ tag) = true)
    (hmeta : ∀ v, (a.apply body nonce t).enforced = .metaTag v →
      opensNoAttribute (metaElement v) = true) :
    handlerDigests alg (a.apply body nonce t).body = handlerDigests alg body ∧
      styleDigests alg (a.apply body nonce t).body = styleDigests alg body := by
  by_cases hmoved : ∃ v, (a.apply body nonce t).enforced = .metaTag v
  · obtain ⟨v, hv⟩ := hmoved
    obtain ⟨pre, tag, hfirst, hbody⟩ := Assembler.apply_metaTag hv
    obtain ⟨r, hr⟩ := first?_eq_some_append hfirst
    have hrest : body.drop (pre.length + tag.length) = r := by
      rw [hr]
      simp
    obtain ⟨hhandler, hstyle⟩ := spliceInert_of_opensNoAttribute (w := r) (hhead pre tag hfirst)
      (first?_headTag_ends hfirst) (hmeta v hv) (metaElement_ends v)
    rw [hbody, hrest, hr]
    exact ⟨handlerDigests_splice alg hhandler, styleDigests_splice alg hstyle⟩
  · simp only [not_exists] at hmoved
    rw [body_of_not_metaTag a body nonce t hmoved]
    exact ⟨rfl, rfl⟩

/-- A page that opens with its head: the meta element follows `<head>`, and neither the head tag
nor the meta element can start a handler or style scan. -/
theorem apply_keeps_digests_of_leading_head :
    (∀ pre tag, first? headTag "<head><b onclick=\"f()\" style=\"c\">x</b>".toList =
        some (pre, tag, ()) → opensNoAttribute (pre ++ tag) = true) ∧
      (∀ v, (Assembler.apply ⟨10, "MD5"⟩ "<head><b onclick=\"f()\" style=\"c\">x</b>".toList
          ⟨"abc"⟩ ⟨"script-src 'self'", "script-src 'self'"⟩).enforced = .metaTag v →
        opensNoAttribute (metaElement v) = true) ∧
      handlerDigests .sha256 (Assembler.apply ⟨10, "MD5"⟩
          "<head><b onclick=\"f()\" style=\"c\">x</b>".toList ⟨"abc"⟩
          ⟨"script-src 'self'", "script-src 'self'"⟩).body =
        handlerDigests .sha256 "<head><b onclick=\"f()\" style=\"c\">x</b>".toList ∧
      styleDigests .sha256 (Assembler.apply ⟨10, "MD5"⟩
          "<head><b onclick=\"f()\" style=\"c\">x</b>".toList ⟨"abc"⟩
          ⟨"script-src 'self'", "script-src 'self'"⟩).body =
        styleDigests .sha256 "<head><b onclick=\"f()\" style=\"c\">x</b>".toList := by
  have hv : (Assembler.apply ⟨10, "MD5"⟩ "<head><b onclick=\"f()\" style=\"c\">x</b>".toList
      ⟨"abc"⟩ ⟨"script-src 'self'", "script-src 'self'"⟩).enforced =
      .metaTag "script-src 'self'" := by decide +kernel
  have hfirst : first? headTag "<head><b onclick=\"f()\" style=\"c\">x</b>".toList =
      some ([], "<head>".toList, ()) := by decide +kernel
  have hhead : ∀ pre tag, first? headTag "<head><b onclick=\"f()\" style=\"c\">x</b>".toList =
      some (pre, tag, ()) → opensNoAttribute (pre ++ tag) = true := by
    intro pre tag h
    rw [hfirst] at h
    cases h
    decide
  have hmeta : ∀ v, (Assembler.apply ⟨10, "MD5"⟩
      "<head><b onclick=\"f()\" style=\"c\">x</b>".toList ⟨"abc"⟩
      ⟨"script-src 'self'", "script-src 'self'"⟩).enforced = .metaTag v →
      opensNoAttribute (metaElement v) = true := by
    intro v h
    rw [hv] at h
    cases h
    decide +kernel
  exact ⟨hhead, hmeta, apply_keeps_digests _ _ _ _ _ hhead hmeta⟩

/-- A `<head>` written inside a style value is taken for the head tag: the meta element cuts the
value, and the served page has no style left to match the digest the policies list. -/
theorem apply_drops_style_of_head_in_value :
    styleDigests .sha256 (Assembler.apply ⟨10, "MD5"⟩ "<p style=\"<head>\">t</p>".toList ⟨"abc"⟩
        ⟨"script-src 'self'", "script-src 'self'"⟩).body ≠
      styleDigests .sha256 "<p style=\"<head>\">t</p>".toList := by
  have hserved : styleValues (Assembler.apply ⟨10, "MD5"⟩ "<p style=\"<head>\">t</p>".toList
      ⟨"abc"⟩ ⟨"script-src 'self'", "script-src 'self'"⟩).body = [] := by decide +kernel
  have hpage : styleValues "<p style=\"<head>\">t</p>".toList = ["<head>".toList] := by
    decide +kernel
  intro h
  have hmem : digestOf .sha256 (String.ofList "<head>".toList) ∈
      (styleDigests .sha256 "<p style=\"<head>\">t</p>".toList).digests := by
    rw [styleDigests, hpage]
    exact mem_addDigests .sha256 (by decide) (List.mem_singleton_self _)
  rw [← h, styleDigests, hserved] at hmem
  simp [addDigests] at hmem

end StrictCsp.Policy
