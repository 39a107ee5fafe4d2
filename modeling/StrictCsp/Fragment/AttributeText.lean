import StrictCsp.Fragment.Attribute

/-!
# How attributes stand in the text of a tag

The attribute reader keeps only keys and values, so a value read from quotes and
the same value read bare look alike. Read again with the quote each value was
written in (`readWritten`), the reader gives the same attributes
(`readWritten_map`), and every attribute whose value was quoted stands in the
text as its key, markup blanks, an equals sign, markup blanks and the value
between two of its quotes (`readWritten_quotedIn`).

The invariant behind it says what the text read so far ends with in each mode
of the reader (`AttrMode.After`); one step of the reader keeps it
(`AttrMode.After.step`).
-/

namespace StrictCsp.Fragment

/-- The quote a mode reads a value in, if it reads one in quotes. -/
def AttrMode.quote : AttrMode → Option Char
  | .quoted _ q _ => some q
  | _ => none

/-- Reads attributes from a mode to the end of the text, each with the quote its value was
written in, if any. -/
def readWritten : AttrMode → List Char → Except AttributeFault (List (Attribute × Option Char))
  | m, [] => m.finish.map (·.map (·, m.quote))
  | m, c :: cs =>
    match m.step c with
    | (some a, m') => (readWritten m' cs).map ((a, m.quote) :: ·)
    | (none, m') => readWritten m' cs

/-- The attributes of an opening tag, each with the quote its value was written in, if any. -/
def OpenTag.writtenAttributes (t : OpenTag) :
    Except AttributeFault (List (Attribute × Option Char)) :=
  readWritten .between t.attributeText

/-- An attribute written with a quoted value: its key, blanks, an equals sign, blanks, and the
value between two quotes. -/
def quotedText (key blanks₁ blanks₂ : List Char) (q : Char) (value : List Char) : List Char :=
  key ++ blanks₁ ++ '=' :: blanks₂ ++ q :: value ++ [q]

/-- An attribute stands in a text with its value between quotes of the given kind. -/
def Attribute.QuotedIn (a : Attribute) (q : Char) (s : List Char) : Prop :=
  ∃ blanks₁ blanks₂, (∀ c ∈ blanks₁, isMarkupBlank c = true) ∧
    (∀ c ∈ blanks₂, isMarkupBlank c = true) ∧ (q = '"' ∨ q = '\'') ∧ q ∉ a.value ∧
    quotedText a.key blanks₁ blanks₂ q a.value <:+: s

/-- What the text read so far ends with in each mode of the reader: the key being read, the
blanks after it, the equals sign with its blanks, and the part of a quoted value read so far. -/
def AttrMode.After : AttrMode → List Char → Prop
  | .between, _ => True
  | .key k, x => ∃ y, x = y ++ k.reverse
  | .afterKey k, x => ∃ y w, x = y ++ k.reverse ++ w ∧ ∀ c ∈ w, isMarkupBlank c = true
  | .afterEquals k, x => ∃ y w₁ w₂, x = y ++ k.reverse ++ w₁ ++ '=' :: w₂ ∧
      (∀ c ∈ w₁, isMarkupBlank c = true) ∧ ∀ c ∈ w₂, isMarkupBlank c = true
  | .quoted k q v, x => ∃ y w₁ w₂, x = y ++ k.reverse ++ w₁ ++ '=' :: w₂ ++ q :: v.reverse ∧
      (∀ c ∈ w₁, isMarkupBlank c = true) ∧ (∀ c ∈ w₂, isMarkupBlank c = true) ∧
      (q = '"' ∨ q = '\'') ∧ q ∉ v
  | .bare _ _, _ => True

/-- An attribute quoted in a text is quoted in any text around it. -/
theorem Attribute.QuotedIn.mono {a : Attribute} {q : Char} {s s' : List Char}
    (h : a.QuotedIn q s) (hs : s <:+: s') : a.QuotedIn q s' := by
  obtain ⟨w₁, w₂, hw₁, hw₂, hq, hv, hin⟩ := h
  exact ⟨w₁, w₂, hw₁, hw₂, hq, hv, hin.trans hs⟩

/-- One character read keeps the invariant, and an attribute read from quotes stands quoted in
the text read. -/
theorem AttrMode.After.step {m : AttrMode} {x : List Char} (h : m.After x) (c : Char) :
    (m.step c).2.After (x ++ [c]) ∧
      ∀ a q, (m.step c).1 = some a → m.quote = some q → a.QuotedIn q (x ++ [c]) := by
  cases m with
  | between =>
    simp only [AttrMode.step]
    split
    · exact ⟨trivial, by simp⟩
    · exact ⟨⟨x, rfl⟩, by simp⟩
  | key k =>
    obtain ⟨y, rfl⟩ := h
    simp only [AttrMode.step]
    split
    · rename_i hc
      subst hc
      exact ⟨⟨y, [], [], by simp, by simp, by simp⟩, by simp⟩
    · split
      · rename_i hb
        exact ⟨⟨y, [c], by simp, by simpa using hb⟩, by simp⟩
      · exact ⟨⟨y, by simp⟩, by simp⟩
  | afterKey k =>
    obtain ⟨y, w, rfl, hw⟩ := h
    simp only [AttrMode.step]
    split
    · rename_i hb
      refine ⟨⟨y, w ++ [c], by simp, ?_⟩, by simp⟩
      simpa [or_imp, forall_and] using And.intro hw hb
    · split
      · rename_i hc
        subst hc
        exact ⟨⟨y, w, [], by simp, hw, by simp⟩, by simp⟩
      · exact ⟨⟨y ++ k.reverse ++ w, by simp⟩, by simp [quote]⟩
  | afterEquals k =>
    obtain ⟨y, w₁, w₂, rfl, hw₁, hw₂⟩ := h
    simp only [AttrMode.step]
    split
    · rename_i hb
      refine ⟨⟨y, w₁, w₂ ++ [c], by simp, hw₁, ?_⟩, by simp⟩
      simpa [or_imp, forall_and] using And.intro hw₂ hb
    · split
      · rename_i hq
        exact ⟨⟨y, w₁, w₂, by simp, hw₁, hw₂, hq, by simp⟩, by simp⟩
      · exact ⟨trivial, by simp⟩
  | quoted k q v =>
    obtain ⟨y, w₁, w₂, rfl, hw₁, hw₂, hq, hv⟩ := h
    simp only [AttrMode.step]
    split
    · rename_i hc
      subst hc
      refine ⟨trivial, ?_⟩
      simp only [Option.some.injEq, quote]
      rintro a q' rfl rfl
      refine ⟨w₁, w₂, hw₁, hw₂, hq, by simpa [attributeOf] using hv, ?_⟩
      exact ⟨y, [], by simp [quotedText, attributeOf]⟩
    · rename_i hc
      refine ⟨⟨y, w₁, w₂, by simp, hw₁, hw₂, hq, ?_⟩, by simp⟩
      simp only [List.mem_cons, not_or]
      exact ⟨Ne.symm hc, hv⟩
  | bare k v =>
    simp only [AttrMode.step]
    split <;> exact ⟨trivial, by simp [quote]⟩

/-- Reading with quotes gives the attributes the reader gives. -/
theorem readWritten_map (m : AttrMode) (s : List Char) :
    (readWritten m s).map (List.map Prod.fst) = readAttributes m s := by
  induction s generalizing m with
  | nil =>
    cases hm : m.finish with
    | error e => simp [readWritten, readAttributes, hm, Except.map]
    | ok as => simp [readWritten, readAttributes, hm, Except.map, Function.comp_def]
  | cons c cs ih =>
    simp only [readWritten, readAttributes]
    rcases m.step c with ⟨_ | a, m'⟩
    · exact ih m'
    · dsimp only
      rw [← ih m']
      cases readWritten m' cs <;> rfl

/-- Every attribute read from quotes stands quoted in the text. -/
theorem readWritten_quotedIn : ∀ {m : AttrMode} {x s : List Char}
    {ps : List (Attribute × Option Char)}, m.After x → readWritten m s = .ok ps →
      ∀ a q, (a, some q) ∈ ps → a.QuotedIn q (x ++ s)
  | m, x, [], ps, _, h => by
    intro a q hmem
    cases m with
    | quoted k q' v => cases h
    | between | key _ | afterKey _ | afterEquals _ | bare _ _ =>
      simp only [readWritten, AttrMode.finish, Except.map] at h
      cases h <;> simp [AttrMode.quote] at hmem
  | m, x, c :: cs, ps, hm, h => by
    have hstep := hm.step c
    simp only [readWritten] at h
    split at h
    · rename_i a m' he
      rw [he] at hstep
      cases hr : readWritten m' cs with
      | error e => rw [hr] at h; cases h
      | ok rest =>
        rw [hr] at h
        cases h
        intro b q hmem
        rcases List.mem_cons.mp hmem with he' | hmem'
        · obtain ⟨rfl, hq⟩ := Prod.mk.inj he'
          exact (hstep.2 b q rfl hq.symm).mono ⟨[], cs, by simp⟩
        · have := readWritten_quotedIn hstep.1 hr b q hmem'
          simpa using this
    · rename_i m' he
      rw [he] at hstep
      have := readWritten_quotedIn hstep.1 h
      simpa using this

end StrictCsp.Fragment
