import StrictCsp.Policy.Assemble

/-!
# How the enforced policy is delivered

The enforced policy goes out in one of three ways, decided by its UTF-8 size
against the header budget and by the page. A non-empty policy strictly under
budget is a header and the page stays as it is. A non-empty policy at or over
budget moves into a meta element right after the page's first head opening
tag; its value is quoted for a double-quoted attribute, so it holds no raw
double quote and decoding its character references gives the policy back
(`decode_quoteAttribute`). An empty policy, or one over budget in a page
without a head, is left out, and the page again stays as it is.

The emptiness check comes first. Under a budget of zero the empty policy is
both at budget and empty, and it is left out, even in a page with a head
(`apply_empty_policy_zero_budget`).

Main statement: `apply_delivers_enforced`.
-/

namespace StrictCsp.Policy

open StrictCsp.Text StrictCsp.Markup

section Quoting

open Entity

/-- A named reference is read whole: its letters extend the pending name one by one. -/
theorem decodeFrom_named_letters {name acc : List Char}
    (h : ∀ c ∈ name, c.isAlphanum = true) (rest : List Char) :
    decodeFrom (some (.named acc)) (name ++ ';' :: rest) =
      decodeFrom (some (.named (name.reverse ++ acc))) (';' :: rest) := by
  induction name generalizing acc with
  | nil => rfl
  | cons c cs ih =>
    have hc := h c List.mem_cons_self
    have hsemi : c ≠ ';' := fun he => by rw [he] at hc; exact absurd hc (by decide)
    have hhash : c ≠ '#' := fun he => by rw [he] at hc; exact absurd hc (by decide)
    have hext : (Pending.named acc).extend? c = some (.named (c :: acc)) := by
      cases acc with
      | nil => simp [Pending.extend?, hc, hhash]
      | cons d ds => simp [Pending.extend?, hc]
    rw [List.cons_append, decodeFrom, if_neg hsemi, hext]
    simp only
    rw [ih fun d hd => h d (List.mem_cons_of_mem c hd), List.reverse_cons, List.append_assoc,
      List.singleton_append]

/-- A reference by a name of the table decodes to its character. -/
theorem decode_named (name : List Char) {d : Char} (h : name.all Char.isAlphanum = true)
    (hres : (Pending.named name.reverse).resolve = some d) (rest : List Char) :
    decodeFrom none ('&' :: name ++ ';' :: rest) = d :: decodeFrom none rest := by
  rw [List.cons_append, decodeFrom, if_pos rfl, decodeFrom_named_letters (List.all_eq_true.mp h), List.append_nil,
    decodeFrom, if_pos rfl, hres]

/-- The written form of one character decodes back to it, whatever follows. -/
theorem decode_quoted_char (c : Char) (rest : List Char) :
    decodeFrom none ((if c = '&' then "&amp;".toList
      else if c = '"' then "&quot;".toList
      else if c = '<' then "&lt;".toList
      else if c = '>' then "&gt;".toList
      else [c]) ++ rest) = c :: decodeFrom none rest := by
  by_cases hamp : c = '&'
  · subst hamp
    exact decode_named "amp".toList (by decide) (by decide) rest
  by_cases hquot : c = '"'
  · subst hquot
    exact decode_named "quot".toList (by decide) (by decide) rest
  by_cases hlt : c = '<'
  · subst hlt
    exact decode_named "lt".toList (by decide) (by decide) rest
  by_cases hgt : c = '>'
  · subst hgt
    exact decode_named "gt".toList (by decide) (by decide) rest
  rw [if_neg hamp, if_neg hquot, if_neg hlt, if_neg hgt, List.singleton_append, decodeFrom,
    if_neg hamp]

/-- Decoding the character references of a quoted value gives the value back. -/
theorem decode_quoteAttribute (s : List Char) : decode (quoteAttribute s) = s := by
  induction s with
  | nil => rfl
  | cons c cs ih =>
    rw [decode, quoteAttribute, List.flatMap_cons, decode_quoted_char]
    exact congrArg (c :: ·) ih

end Quoting

section Delivery

variable {a : Assembler} {body : List Char} {policy : String}

/-- A policy has a positive UTF-8 size exactly when it is not empty. -/
theorem utf8ByteSize_pos_iff : 0 < policy.utf8ByteSize ↔ policy ≠ "" := by
  rw [Nat.pos_iff_ne_zero, ne_eq, String.utf8ByteSize_eq_zero_iff]

/-- A policy with some bytes is not empty. -/
theorem isEmpty_eq_false_of_pos (h : 0 < policy.utf8ByteSize) : policy.isEmpty = false := by
  rw [← Bool.not_eq_true, String.isEmpty_iff]
  exact utf8ByteSize_pos_iff.mp h

/-- A policy fits a header exactly when its UTF-8 size is positive and under the budget. -/
theorem fitsHeader_iff (policy : String) (budget : Nat) :
    fitsHeader policy budget = true ↔ 0 < policy.utf8ByteSize ∧ policy.utf8ByteSize < budget := by
  rw [fitsHeader, Bool.and_eq_true, Bool.not_eq_true', decide_eq_true_iff, Nat.pos_iff_ne_zero,
    ne_eq, String.utf8ByteSize_eq_zero_iff, ← String.isEmpty_iff, Bool.not_eq_true]

/-- A policy under budget goes in its header and leaves the page alone. -/
theorem deliverEnforced_of_fits (h : 0 < policy.utf8ByteSize ∧ policy.utf8ByteSize < a.budget) :
    a.deliverEnforced body policy = (body, .header policy) := by
  rw [Assembler.deliverEnforced, isEmpty_eq_false_of_pos h.1, if_neg Bool.false_ne_true,
    if_pos ((fitsHeader_iff policy a.budget).mpr h)]

/-- The empty policy is left out. -/
theorem deliverEnforced_empty (a : Assembler) (body : List Char) :
    a.deliverEnforced body "" = (body, .omitted) := rfl

/-- A non-empty policy at or over budget moves into the page after its first head tag, or is
left out when the page has none. -/
theorem deliverEnforced_of_over (hpos : 0 < policy.utf8ByteSize)
    (hover : a.budget ≤ policy.utf8ByteSize) :
    a.deliverEnforced body policy = match injectMeta body policy with
      | some page => (page, .metaTag policy)
      | none => (body, .omitted) := by
  have hfit : fitsHeader policy a.budget = false := by
    rw [← Bool.not_eq_true, fitsHeader_iff]
    exact fun h => absurd h.2 (Nat.not_lt.mpr hover)
  rw [Assembler.deliverEnforced, isEmpty_eq_false_of_pos hpos, hfit]
  rfl

/-- Only a non-empty policy under budget is delivered in a header. Over budget it is a meta element
or nothing, never a header. -/
theorem deliverEnforced_header_iff :
    (a.deliverEnforced body policy).2 = .header policy ↔
      0 < policy.utf8ByteSize ∧ policy.utf8ByteSize < a.budget := by
  refine ⟨fun h => ?_, fun h => by rw [deliverEnforced_of_fits h]⟩
  by_cases hempty : policy = ""
  · rw [hempty, deliverEnforced_empty] at h
    cases h
  have hpos := utf8ByteSize_pos_iff.mpr hempty
  refine ⟨hpos, Nat.lt_of_not_le fun hover => ?_⟩
  rw [deliverEnforced_of_over hpos hover] at h
  split at h <;> cases h

/-- An empty policy, or one over budget in a page without a head, is left out. -/
theorem deliverEnforced_omitted
    (h : policy = "" ∨ a.budget ≤ policy.utf8ByteSize ∧
      Recogniser.first? Pattern.headTag body = none) :
    a.deliverEnforced body policy = (body, .omitted) := by
  by_cases hempty : policy = ""
  · rw [hempty, deliverEnforced_empty]
  obtain ⟨hover, hnone⟩ := h.resolve_left hempty
  have hno : injectMeta body policy = none := by simp [injectMeta, hnone]
  rw [deliverEnforced_of_over (utf8ByteSize_pos_iff.mpr hempty) hover, hno]

/-- The first head tag ends where the page is cut for the meta element. -/
theorem take_first?_headTag {pre tag : List Char}
    (h : Recogniser.first? Pattern.headTag body = some (pre, tag, ())) :
    body.take (pre ++ tag).length = pre ++ tag ∧
      body.drop (pre ++ tag).length = body.drop (pre.length + tag.length) := by
  obtain ⟨rest, hrest⟩ := Recogniser.first?_eq_some_append h
  subst hrest
  exact ⟨List.take_left, by rw [List.length_append]⟩

/-- The meta element is the policy, quoted, in the content of a `Content-Security-Policy` meta
element after a line break. -/
theorem metaElement_eq (policy : String) :
    metaElement policy = "\n<meta http-equiv=\"Content-Security-Policy\" content=\"".toList ++
      Entity.quoteAttribute policy.toList ++ "\" />".toList := rfl

/-- The headers name the enforced policy before the report-only one, each at most once. -/
theorem headers_names_sublist (x : Assembled) :
    (x.headers.map Prod.fst).Sublist [enforcedHeader, reportOnlyHeader] := by
  unfold Assembled.headers
  cases x.enforced <;> cases x.reportOnly <;> simp

/-- The enforced header is sent exactly when the policy is delivered in a header. -/
theorem enforced_mem_headers (x : Assembled) (v : String) :
    (enforcedHeader, v) ∈ x.headers ↔ x.enforced = .header v := by
  have hne : enforcedHeader ≠ reportOnlyHeader := by decide
  unfold Assembled.headers
  cases x.enforced <;> cases x.reportOnly <;> simp [hne, eq_comm]

end Delivery

/-- The enforced policy is delivered in exactly one of three ways, counting its size in UTF-8
bytes. It is a header, with the page unchanged, exactly when it is non-empty and under budget.
Non-empty at or over budget, it moves into a meta element cut into the page right after the
first head opening tag, its content quoted so that it holds no double quote and decodes back to
the policy. Empty, or over budget in a page without a head, it is left out and the page is
unchanged. The headers name the enforced policy, when it is sent, before the report-only one. -/
theorem apply_delivers_enforced (a : Assembler) (body : List Char) (nonce : Nonce)
    (t : Templates) :
    let p := materialize t.enforced nonce (a.hashLists body).1 (a.hashLists body).2
    let r := a.apply body nonce t
    ((r.enforced = .header p ∧ r.body = body) ↔ 0 < p.utf8ByteSize ∧ p.utf8ByteSize < a.budget) ∧
    (∀ pre tag, 0 < p.utf8ByteSize → a.budget ≤ p.utf8ByteSize →
      Recogniser.first? Pattern.headTag body = some (pre, tag, ()) →
      r.enforced = .metaTag p ∧
        r.body = body.take (pre ++ tag).length ++
          "\n<meta http-equiv=\"Content-Security-Policy\" content=\"".toList ++
          Entity.quoteAttribute p.toList ++ "\" />".toList ++ body.drop (pre ++ tag).length) ∧
    (p = "" ∨ a.budget ≤ p.utf8ByteSize ∧ Recogniser.first? Pattern.headTag body = none →
      r.enforced = .omitted ∧ r.body = body) ∧
    '"' ∉ Entity.quoteAttribute p.toList ∧ Entity.decode (Entity.quoteAttribute p.toList) = p.toList ∧
    (r.headers.map Prod.fst).Sublist [enforcedHeader, reportOnlyHeader] ∧
    (∀ v, (enforcedHeader, v) ∈ r.headers ↔ r.enforced = .header v) := by
  intro p r
  have hdeliver : (r.body, r.enforced) = a.deliverEnforced body p := a.apply_body_enforced body nonce t
  have hbody : r.body = (a.deliverEnforced body p).1 := by rw [← hdeliver]
  have henforced : r.enforced = (a.deliverEnforced body p).2 := by rw [← hdeliver]
  refine ⟨⟨fun ⟨he, _⟩ => deliverEnforced_header_iff.mp (henforced ▸ he), fun h => ?_⟩,
    fun pre tag hpos hover hfirst => ?_, fun h => ?_, Entity.quoteAttribute_no_quote _,
    decode_quoteAttribute _, headers_names_sublist r, enforced_mem_headers r⟩
  · rw [henforced, hbody, deliverEnforced_of_fits h]
    exact ⟨rfl, rfl⟩
  · obtain ⟨htake, hdrop⟩ := take_first?_headTag hfirst
    rw [henforced, hbody, deliverEnforced_of_over hpos hover, injectMeta_eq hfirst, htake, hdrop,
      metaElement_eq]
    simp only [List.append_assoc, and_self]
  · rw [henforced, hbody, deliverEnforced_omitted h]
    exact ⟨rfl, rfl⟩

/-- Under a budget of zero the empty enforced policy is at budget, and the page has a head to
carry it, yet it is left out: emptiness is checked first. -/
theorem apply_empty_policy_zero_budget :
    Recogniser.first? Pattern.headTag "<head>".toList = some ([], "<head>".toList, ()) ∧
      (Assembler.apply ⟨0, "SHA256"⟩ "<head>".toList ⟨"N"⟩ ⟨"", ""⟩).enforced = .omitted ∧
      (Assembler.apply ⟨0, "SHA256"⟩ "<head>".toList ⟨"N"⟩ ⟨"", ""⟩).body = "<head>".toList := by
  refine ⟨by decide +kernel, by decide +kernel, by decide +kernel⟩

end StrictCsp.Policy
