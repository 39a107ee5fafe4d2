import StrictCsp.Markup.Pattern.Step

/-!
# Event handlers and inline styles

All three patterns here are read caselessly.

* An event handler attribute is `on`, one or more letters, an equals sign with
  optional blanks, and a value in double or single quotes holding no line
  break; the value is captured.
* An inline style attribute is the word `style`, an equals sign, and a value
  quoted the same way; the value is captured.
* A tag with handlers is a `<`, then a blank character that may come after any
  characters other than `>`, then a handler attribute whose value is quoted
  (and may then hold `>` or line breaks) or bare, then anything up to the
  first `>`. Among the blank characters of the tag the last one that works is
  used, and for each of them the double-quoted, single-quoted and bare forms
  are tried in this order.
-/

namespace StrictCsp.Markup.Pattern

open StrictCsp.Text

/-- The name of an event handler attribute: on followed by letters. -/
def handlerName? (s : List Char) : Option (List Char) := do
  let r ← word? "on".toList s
  match r.span isFoldedLetter with
  | ([], _) => none
  | (_ :: _, r) => pure r

/-- A value in double or single quotes that holds no line break, double quotes first. -/
def lineValue? (s : List Char) : Option (List Char × List Char) :=
  (quoted? '"' isLineBreak s) <|> (quoted? '\'' isLineBreak s)

/-- Recognises an event handler attribute and captures its value. -/
def handlerCall : Recogniser (List Char) :=
  Recogniser.ofRest fun s => do
    let r ← handlerName? s
    let r ← equals? r
    lineValue? r

/-- Recognises an inline style attribute and captures its value. -/
def inlineStyle : Recogniser (List Char) :=
  Recogniser.ofRest fun s => do
    let r ← word? "style".toList s
    let r ← equals? r
    lineValue? r

/-- A handler attribute as it may stand in a tag: a double-quoted, a single-quoted or a bare
value, returning the rest after the value for each form in this order. -/
def handlerForms (s : List Char) : List (List Char) :=
  match handlerName? s with
  | none => []
  | some r =>
    let quotedForm (q : Char) : Option (List Char) :=
      ((equals? r).bind (quoted? q fun _ => false)).map (·.2)
    let bare : Option (List Char) :=
      (char? '=' (blanks r)).map fun r =>
        r.dropWhile fun c => c != '\'' && c != '"' && !isBlank c && c != '>'
    [quotedForm '"', quotedForm '\'', bare].filterMap id

/-- The rest after the first closing bracket of a tag. -/
def closeTag? (s : List Char) : Option (List Char) := char? '>' (s.dropWhile (· != '>'))

/-- The rests of a tag body after each of its blank characters before the first closing
bracket, first blank first. -/
def afterEachBlank : List Char → List (List Char)
  | [] => []
  | c :: cs =>
    if c = '>' then []
    else if isBlank c then cs :: afterEachBlank cs
    else afterEachBlank cs

/-- The ways a tag body can continue after a blank, last blank first. -/
def afterBlanks (body : List Char) : List (List Char) := (afterEachBlank body).reverse

/-- Recognises a tag that carries an event handler attribute. -/
def handlerTag : Recogniser Unit :=
  Recogniser.ofRest fun s =>
    match s with
    | '<' :: body =>
      ((afterBlanks body).findSome? fun r => (handlerForms r).findSome? closeTag?).map ((), ·)
    | _ => none

/-- Where a tag with handlers can be read from: a blank, then `on` and a letter, in any case. -/
def opensHandler : List Char → Bool
  | b :: o :: n :: l :: _ => isBlank b && foldEq o 'o' && foldEq n 'n' && isFoldedLetter l
  | _ => false

/-- A handler name starts with `o`, `n` and a letter. -/
theorem handlerName?_eq_some {s r : List Char} (h : handlerName? s = some r) :
    ∃ o n l rest, s = o :: n :: l :: rest ∧ foldEq o 'o' = true ∧ foldEq n 'n' = true ∧
      isFoldedLetter l = true := by
  rcases s with _ | ⟨o, _ | ⟨n, rest⟩⟩
  · simp [handlerName?, word?] at h
  · simp [handlerName?, word?] at h
  · simp only [handlerName?, Option.bind_eq_bind] at h
    obtain ⟨r1, hw, hs⟩ := Option.bind_eq_some_iff.mp h
    have hw' : word? ['o', 'n'] (o :: n :: rest) = some r1 := hw
    simp only [word?] at hw'
    split at hw' <;> rename_i ho
    · split at hw' <;> rename_i hn
      · cases hw'
        rcases rest with _ | ⟨l, rest⟩
        · rw [show List.span isFoldedLetter [] = ([], []) from rfl] at hs
          cases hs
        · refine ⟨o, n, l, rest, rfl, ho, hn, ?_⟩
          cases hl : isFoldedLetter l
          · rw [show l :: rest = [] ++ l :: rest from rfl, span_append_cons (by simp) hl] at hs
            cases hs
          · rfl
      · cases hw'
    · cases hw'

/-- A tag with handlers starts with an opening bracket. -/
theorem handlerTag_cons_none {c : Char} (hc : c ≠ '<') (t : List Char) :
    handlerTag (c :: t) = none := by
  simp only [handlerTag, Recogniser.ofRest]
  split
  · rename_i h
    cases h
    exact absurd rfl hc
  · rfl

/-- A tag body continues after a blank only at a rest that holds its first closing bracket,
when that bracket comes before what follows the body. -/
theorem mem_afterEachBlank_append {v : List Char} :
    ∀ {x r : List Char}, '>' ∈ x → r ∈ afterEachBlank (x ++ v) →
      ∃ b r0, isBlank b = true ∧ b :: r0 <:+ x ∧ '>' ∈ r0 ∧ r = r0 ++ v
  | [], _, hx, _ => absurd hx List.not_mem_nil
  | c :: cs, r, hx, hr => by
    rw [List.cons_append, afterEachBlank] at hr
    split at hr
    · simp at hr
    · rename_i hgt
      have hcs : '>' ∈ cs := by
        rcases List.mem_cons.mp hx with h | h
        · exact absurd h.symm hgt
        · exact h
      have hlater : r ∈ afterEachBlank (cs ++ v) →
          ∃ b r0, isBlank b = true ∧ b :: r0 <:+ c :: cs ∧ '>' ∈ r0 ∧ r = r0 ++ v := by
        intro hr'
        obtain ⟨b, r0, hb, hsuf, hin, rfl⟩ := mem_afterEachBlank_append hcs hr'
        exact ⟨b, r0, hb, hsuf.trans (List.suffix_cons c cs), hin, rfl⟩
      split at hr
      · rename_i hblank
        rcases List.mem_cons.mp hr with rfl | hr'
        · exact ⟨c, cs, hblank, List.suffix_refl _, hcs, rfl⟩
        · exact hlater hr'
      · exact hlater hr

/-- After a blank that is not followed by `on` and a letter, a rest holding a closing bracket has
no handler form, whatever follows it. -/
theorem handlerForms_eq_nil {b : Char} {r0 : List Char} (hb : isBlank b = true)
    (hopen : opensHandler (b :: r0) = false) (hin : '>' ∈ r0) (v : List Char) :
    handlerForms (r0 ++ v) = [] := by
  cases hname : handlerName? (r0 ++ v) with
  | none => simp [handlerForms, hname]
  | some r1 =>
    obtain ⟨o, n, l, rest, hs, ho, hn, hl⟩ := handlerName?_eq_some hname
    have hgt : o ≠ '>' ∧ n ≠ '>' := ⟨by rintro rfl; exact absurd ho (by decide),
      by rintro rfl; exact absurd hn (by decide)⟩
    rcases r0 with _ | ⟨a, _ | ⟨d, _ | ⟨e, rest0⟩⟩⟩
    · exact absurd hin List.not_mem_nil
    · simp only [List.cons_append, List.nil_append, List.cons.injEq] at hs
      obtain ⟨rfl, -⟩ := hs
      exact absurd (List.mem_singleton.mp hin).symm hgt.1
    · simp only [List.cons_append, List.nil_append, List.cons.injEq] at hs
      obtain ⟨rfl, rfl, -⟩ := hs
      rcases List.mem_cons.mp hin with h | h
      · exact absurd h.symm hgt.1
      · exact absurd (List.mem_singleton.mp h).symm hgt.2
    · simp only [List.cons_append, List.cons.injEq] at hs
      obtain ⟨rfl, rfl, rfl, -⟩ := hs
      simp [opensHandler, hb, ho, hn, hl] at hopen

example : (Recogniser.findAll handlerCall "<a onClick='go()' onmouseover=\"x\">".toList).map
    (·.2) = ["go()".toList, "x".toList] := by decide +kernel

end StrictCsp.Markup.Pattern
