import StrictCsp.Fragment.Restyle
import StrictCsp.Fragment.TagMarkup

/-!
# Reading a written tag back

A restyled tag is written as `<`, its name and each attribute as ` key="value"`
(in single quotes when the value holds a double quote). Read again, it is the
same tag, with the same attributes, exactly when the writing keeps the reader in
step: the name and keys hold no quote and no closing bracket, so the quote scan
of the tag stays outside them, and no value holds both kinds of quote, so each
value stays inside its own quotes (`Attribute.Rereadable`). Keys read from a tag
already have the shape the attribute reader gives back: no blank, and no equals
sign after their first character (`KeyShaped`, `readAttributes_keyShaped`).

Main statements: written attributes are read back as themselves
(`readAttributes_flatMap_render`), and a written tag is read as one opening tag
whose name and attributes are those it was written from (`renderTag_reads`).
-/

namespace StrictCsp.Fragment

open StrictCsp.Text

/-- The shape of a key the attribute reader gives: not empty, no blank, and no equals sign
after the first character. -/
def KeyShaped (key : List Char) : Prop :=
  key ≠ [] ∧ (∀ c ∈ key, isMarkupBlank c = false) ∧ ∀ c ∈ key.tail, c ≠ '='

/-- An attribute whose written form is read back as itself inside a tag. -/
structure Attribute.Rereadable (a : Attribute) : Prop where
  /-- The key has the shape the reader gives. -/
  shaped : KeyShaped a.key
  /-- The key holds no quote and no closing bracket. -/
  plainKey : ∀ c ∈ a.key, c ≠ '"' ∧ c ≠ '\'' ∧ c ≠ '>'
  /-- The value does not hold both kinds of quote. -/
  oneQuote : ¬ ('"' ∈ a.value ∧ '\'' ∈ a.value)

/-- The quote an attribute is written in. -/
def Attribute.quote (a : Attribute) : Char := if a.value.contains '"' then '\'' else '"'

/-- An attribute is written as a blank, its key, `=` and its value in its quotes. -/
theorem Attribute.render_eq (a : Attribute) :
    a.render = ' ' :: a.key ++ '=' :: a.quote :: a.value ++ [a.quote] := rfl

/-- The value of a rereadable attribute does not hold the quote it is written in. -/
theorem Attribute.quote_not_mem {a : Attribute} (h : a.Rereadable) : a.quote ∉ a.value := by
  unfold Attribute.quote
  split
  · rename_i hq
    intro hs
    exact h.oneQuote ⟨List.elem_iff.mp hq, hs⟩
  · rename_i hq
    intro hd
    exact hq (List.elem_iff.mpr hd)

/-- An attribute's value is quoted with a double or a single quote. -/
theorem Attribute.quote_eq (a : Attribute) : a.quote = '"' ∨ a.quote = '\'' := by
  unfold Attribute.quote
  split
  · exact .inr rfl
  · exact .inl rfl

section Reader

/-- Inside a key the reader takes in every character that is neither blank nor `=`. -/
theorem readAttributes_key {kt : List Char} (h : ∀ c ∈ kt, c ≠ '=' ∧ isMarkupBlank c = false)
    (k rest : List Char) :
    readAttributes (.key k) (kt ++ rest) = readAttributes (.key (kt.reverse ++ k)) rest := by
  induction kt generalizing k with
  | nil => rfl
  | cons c cs ih =>
    obtain ⟨hc, hb⟩ := h c List.mem_cons_self
    simp only [List.cons_append, readAttributes, AttrMode.step, if_neg hc, hb, Bool.false_eq_true,
      if_false]
    rw [ih (fun d hd => h d (List.mem_cons_of_mem c hd))]
    simp

/-- Inside a quoted value the reader takes in every character up to the quote. -/
theorem readAttributes_quoted {q : Char} {v : List Char} (h : q ∉ v) (k acc rest : List Char) :
    readAttributes (.quoted k q acc) (v ++ q :: rest) =
      (readAttributes .between rest).map (attributeOf k (v.reverse ++ acc) :: ·) := by
  induction v generalizing acc with
  | nil => simp [readAttributes, AttrMode.step]
  | cons c cs ih =>
    have hc : c ≠ q := fun hcq => h (hcq ▸ List.mem_cons_self)
    simp only [List.cons_append, readAttributes, AttrMode.step, if_neg hc]
    rw [ih (fun hm => h (List.mem_cons_of_mem c hm))]
    simp

/-- A rereadable attribute, written, is read back as itself before whatever follows. -/
theorem readAttributes_render {a : Attribute} (h : a.Rereadable) (rest : List Char) :
    readAttributes .between (a.render ++ rest) = (readAttributes .between rest).map (a :: ·) := by
  obtain ⟨hne, hblank, heq⟩ := h.shaped
  obtain ⟨k₀, kt, hkey⟩ := List.exists_cons_of_ne_nil hne
  have hk₀ : isMarkupBlank k₀ = false := hblank k₀ (hkey ▸ List.mem_cons_self)
  have hkt : ∀ c ∈ kt, c ≠ '=' ∧ isMarkupBlank c = false := fun c hc =>
    ⟨heq c (by rw [hkey]; exact hc), hblank c (hkey ▸ List.mem_cons_of_mem k₀ hc)⟩
  have hq := Attribute.quote_not_mem h
  rcases Attribute.quote_eq a with hquote | hquote <;>
  · rw [Attribute.render_eq, hkey]
    simp only [List.cons_append, List.append_assoc, readAttributes, AttrMode.step,
      show isMarkupBlank ' ' = true from rfl, if_true, hk₀, Bool.false_eq_true, if_false]
    rw [readAttributes_key hkt]
    simp only [readAttributes, AttrMode.step, if_true, hquote, show isMarkupBlank '"' = false
      from rfl, show isMarkupBlank '\'' = false from rfl, Bool.false_eq_true, if_false, true_or,
      or_true, List.nil_append]
    rw [hquote] at hq
    rw [readAttributes_quoted hq]
    simp only [attributeOf, List.reverse_append, List.reverse_reverse, List.append_nil,
      List.reverse_cons, List.reverse_nil, List.nil_append, List.singleton_append, ← hkey]

/-- Rereadable attributes, written one after another, are read back as themselves. -/
theorem readAttributes_flatMap_render :
    ∀ {attrs : List Attribute}, (∀ a ∈ attrs, a.Rereadable) →
      readAttributes .between (attrs.flatMap Attribute.render) = .ok attrs
  | [], _ => rfl
  | a :: as, h => by
    rw [List.flatMap_cons, readAttributes_render (h a List.mem_cons_self),
      readAttributes_flatMap_render fun b hb => h b (List.mem_cons_of_mem a hb)]
    rfl

/-- The keys read from a tag have the shape the reader gives. -/
theorem readAttributes_keyShaped {s : List Char} {as : List Attribute}
    (h : readAttributes .between s = .ok as) : ∀ a ∈ as, KeyShaped a.key := by
  have hkeys := readAttributes_keysSatisfy (P := fun k => KeyShaped k.reverse)
    (fun c hc => ⟨by simp, by simpa using hc, by simp⟩) (fun k c hk heq hc => ?_) .between s as
    trivial h
  · intro a ha
    simpa using hkeys a ha
  · obtain ⟨hne, hblank, htail⟩ := hk
    obtain ⟨k₀, kt, hrev⟩ := List.exists_cons_of_ne_nil hne
    refine ⟨by simp, ?_, ?_⟩
    · simp only [List.reverse_cons, List.mem_append, List.mem_singleton]
      rintro d (hd | rfl)
      · exact hblank d hd
      · exact hc
    · simp only [List.reverse_cons, hrev, List.cons_append, List.tail_cons, List.mem_append,
        List.mem_singleton]
      rintro d (hd | rfl)
      · exact htail d (by rw [hrev]; exact hd)
      · exact heq

end Reader

section Scan

/-- The quote scan stays outside over text without quotes or a closing bracket. -/
theorem Quote.scan_plain {s : List Char} (h : ∀ c ∈ s, c ≠ '"' ∧ c ≠ '\'' ∧ c ≠ '>') :
    Quote.scan .outside s = some .outside := by
  induction s with
  | nil => rfl
  | cons c cs ih =>
    obtain ⟨hd, hs, hg⟩ := h c List.mem_cons_self
    have hnext : Quote.outside.next c = .outside := by
      unfold Quote.next
      split <;> simp_all
    rw [Quote.scan, if_neg (fun h => hg h.2), hnext]
    exact ih fun d hd => h d (List.mem_cons_of_mem c hd)

/-- Inside a quote, the scan runs over every character up to the closing quote. -/
theorem Quote.scan_quoted {q : Char} (hq : q = '"' ∨ q = '\'') {v : List Char} (hv : q ∉ v) :
    Quote.scan .outside (q :: v ++ [q]) = some .outside := by
  obtain ⟨inside, hopen, hkeep, hclose, hne⟩ : ∃ inside : Quote, Quote.outside.next q = inside ∧
      (∀ c, c ≠ q → inside.next c = inside) ∧ inside.next q = .outside ∧ inside ≠ .outside := by
    rcases hq with rfl | rfl
    · refine ⟨.double, rfl, fun c hc => ?_, rfl, by decide⟩
      unfold Quote.next
      split <;> simp_all
    · refine ⟨.single, rfl, fun c hc => ?_, rfl, by decide⟩
      unfold Quote.next
      split <;> simp_all
  have hinside : ∀ w : List Char, q ∉ w → Quote.scan inside (w ++ [q]) = some .outside := by
    intro w hw
    induction w with
    | nil => simp [Quote.scan, hne, hclose]
    | cons c cs ih =>
      have hc : c ≠ q := fun h => hw (h ▸ List.mem_cons_self)
      rw [List.cons_append, Quote.scan, if_neg (fun h => hne h.1), hkeep c hc]
      exact ih fun h => hw (List.mem_cons_of_mem c h)
  have hq' : ¬ (Quote.outside = .outside ∧ q = '>') := by
    rintro ⟨-, rfl⟩
    rcases hq with h | h <;> cases h
  rw [List.cons_append, Quote.scan, if_neg hq', hopen]
  exact hinside v hv

/-- A rereadable attribute, written, leaves the quote scan outside. -/
theorem Quote.scan_render {a : Attribute} (h : a.Rereadable) :
    Quote.scan .outside a.render = some .outside := by
  have hkey : Quote.scan .outside (' ' :: a.key ++ ['=']) = some .outside := by
    refine Quote.scan_plain fun c hc => ?_
    simp only [List.cons_append, List.mem_cons, List.mem_append, List.not_mem_nil,
      or_false] at hc
    rcases hc with rfl | hc | rfl
    · decide
    · exact h.plainKey c hc
    · decide
  rw [Attribute.render_eq, show ' ' :: a.key ++ '=' :: a.quote :: a.value ++ [a.quote] =
    (' ' :: a.key ++ ['=']) ++ (a.quote :: a.value ++ [a.quote]) by simp, Quote.scan_append, hkey]
  exact Quote.scan_quoted a.quote_eq (Attribute.quote_not_mem h)

/-- Rereadable attributes, written, leave no quote open. -/
theorem Quote.scan_flatMap_render :
    ∀ {attrs : List Attribute}, (∀ a ∈ attrs, a.Rereadable) →
      Quote.scan .outside (attrs.flatMap Attribute.render) = some .outside
  | [], _ => rfl
  | a :: as, h => by
    rw [List.flatMap_cons, Quote.scan_append, Quote.scan_render (h a List.mem_cons_self)]
    exact Quote.scan_flatMap_render fun b hb => h b (List.mem_cons_of_mem a hb)

end Scan

section Written

variable {name : List Char} {attrs : List Attribute}

/-- Every character of a longest prefix satisfies its test. -/
theorem mem_takeWhile {p : Char → Bool} {c : Char} :
    ∀ {l : List Char}, c ∈ l.takeWhile p → p c = true
  | [], h => by simp at h
  | d :: ds, h => by
    simp only [List.takeWhile_cons] at h
    split at h
    · rename_i hd
      rcases List.mem_cons.mp h with rfl | h
      · exact hd
      · exact mem_takeWhile h
    · simp at h

/-- The characters of a tag's name are not blank. -/
theorem not_blank_of_mem_name {t : OpenTag} {c : Char} (h : c ∈ t.name) :
    isMarkupBlank c = false := by
  simpa using mem_takeWhile h

/-- Written attributes start with a blank. -/
theorem takeWhile_render (attrs : List Attribute) :
    (attrs.flatMap Attribute.render).takeWhile (!isMarkupBlank ·) = [] := by
  cases attrs with
  | nil => rfl
  | cons a as => simp [Attribute.render_eq, isMarkupBlank]

/-- Written attributes start with a blank, so nothing before them is dropped. -/
theorem dropWhile_render (attrs : List Attribute) :
    (attrs.flatMap Attribute.render).dropWhile (!isMarkupBlank ·) = attrs.flatMap Attribute.render := by
  cases attrs with
  | nil => rfl
  | cons a as => simp [Attribute.render_eq, isMarkupBlank]

/-- Written attributes end with the quote of the last one. -/
theorem flatMap_render_eq_append :
    ∀ {attrs : List Attribute}, attrs ≠ [] →
      ∃ pre q, attrs.flatMap Attribute.render = pre ++ [q] ∧ (q = '"' ∨ q = '\'')
  | [], h => absurd rfl h
  | [a], _ => ⟨' ' :: a.key ++ '=' :: a.quote :: a.value, a.quote, by simp [Attribute.render_eq],
      a.quote_eq⟩
  | a :: b :: bs, _ => by
    obtain ⟨pre, q, h, hq⟩ := flatMap_render_eq_append (List.cons_ne_nil b bs)
    exact ⟨a.render ++ pre, q, by rw [List.flatMap_cons, h, List.append_assoc], hq⟩

/-- A tag written from a name without blanks is read with that name. -/
theorem name_written (hname : ∀ c ∈ name, isMarkupBlank c = false) (sc : Bool) (stop : Nat) :
    (⟨name ++ attrs.flatMap Attribute.render, sc, stop⟩ : OpenTag).name = name := by
  rw [OpenTag.name, List.takeWhile_append_of_pos (by simpa using hname), takeWhile_render,
    List.append_nil]

/-- A tag written from a name without blanks and rereadable attributes is read with those
attributes. -/
theorem attributes_written (hname : ∀ c ∈ name, isMarkupBlank c = false)
    (hattrs : ∀ a ∈ attrs, a.Rereadable) (sc : Bool) (stop : Nat) :
    (⟨name ++ attrs.flatMap Attribute.render, sc, stop⟩ : OpenTag).attributes = .ok attrs := by
  rw [OpenTag.attributes, OpenTag.attributeText, List.dropWhile_append_of_pos (by simpa using hname),
    dropWhile_render, readAttributes_flatMap_render hattrs]

/-- A tag written from a plain name and some rereadable attributes is read as one tag. -/
theorem tagText_written (hname : ∀ c ∈ name, c ≠ '"' ∧ c ≠ '\'' ∧ c ≠ '>')
    (hopen : ∀ d, name.head? = some d → opensTag d = true)
    (hattrs : ∀ a ∈ attrs, a.Rereadable) (hne : attrs ≠ []) (sc : Bool) :
    TagText (tagMarkup (name ++ attrs.flatMap Attribute.render) sc)
      (name ++ attrs.flatMap Attribute.render) sc := by
  obtain ⟨a, as, rfl⟩ := List.exists_cons_of_ne_nil hne
  refine tagText_of_scan (by simp [Attribute.render_eq]) ?_ ?_ ?_
  · intro d hd
    cases name with
    | nil =>
      simp only [List.nil_append, List.flatMap_cons, Attribute.render_eq, List.cons_append,
        List.head?_cons, Option.some.injEq] at hd
      rw [← hd]
      rfl
    | cons n ns => exact hopen d (by simpa using hd)
  · rw [Quote.scan_append, Quote.scan_plain hname]
    exact Quote.scan_flatMap_render hattrs
  · intro _
    obtain ⟨pre, q, hend, hq⟩ := flatMap_render_eq_append (List.cons_ne_nil a as)
    rw [hend, ← List.append_assoc, List.getLast?_concat]
    rcases hq with rfl | rfl <;> decide

end Written

section Class

variable {cls : List Char} {others : List Attribute}

/-- Without an attribute named `style` there is no style to take. -/
theorem takeStyle_fst_eq_none :
    ∀ {as : List Attribute}, (∀ a ∈ as, a.named "style" = false) → (takeStyle as).1 = none
  | [], _ => rfl
  | a :: as, h => by
    simp only [takeStyle, h a List.mem_cons_self, Bool.false_eq_true, if_false]
    exact takeStyle_fst_eq_none fun b hb => h b (List.mem_cons_of_mem a hb)

/-- The attributes left beside a style are attributes of the tag. -/
theorem mem_of_takeStyle :
    ∀ {as : List Attribute} {s : Option (List Char)} {others : List Attribute},
      takeStyle as = (s, others) → ∀ a ∈ others, a ∈ as
  | [], _, _, h => by
    simp only [takeStyle, Prod.mk.injEq] at h
    rw [← h.2]
    simp
  | a :: as, s, others, h => by
    simp only [takeStyle] at h
    split at h
    · rw [← (Prod.mk.inj h).2]
      exact fun b hb => List.mem_cons_of_mem a hb
    · rcases ht : takeStyle as with ⟨s', rest⟩
      rw [ht] at h
      rw [← (Prod.mk.inj h).2]
      intro b hb
      rcases List.mem_cons.mp hb with rfl | hb
      · exact List.mem_cons_self
      · exact List.mem_cons_of_mem a (mem_of_takeStyle ht b hb)

/-- Adding a class leaves at least one attribute. -/
theorem addClass_ne_nil (cls : List Char) (others : List Attribute) : addClass cls others ≠ [] := by
  cases others with
  | nil => simp [addClass]
  | cons a as =>
    simp only [addClass]
    split
    · split <;> simp
    · simp

/-- Adding a class names no new style. -/
theorem addClass_named_style (h : ∀ a ∈ others, a.named "style" = false) :
    ∀ a ∈ addClass cls others, a.named "style" = false := by
  induction others with
  | nil =>
    simp only [addClass, List.mem_singleton]
    rintro a rfl
    rfl
  | cons b bs ih =>
    have hb := h b List.mem_cons_self
    simp only [addClass]
    split
    · split <;>
      · simp only [List.mem_cons]
        rintro a (rfl | ha)
        · exact hb
        · exact h a (List.mem_cons_of_mem b ha)
    · simp only [List.mem_cons]
      rintro a (rfl | ha)
      · exact hb
      · exact ih (fun c hc => h c (List.mem_cons_of_mem b hc)) a ha

/-- Adding a class without quotes keeps the attributes rereadable. -/
theorem addClass_rereadable (hcls : '"' ∉ cls ∧ '\'' ∉ cls) (h : ∀ a ∈ others, a.Rereadable) :
    ∀ a ∈ addClass cls others, a.Rereadable := by
  have hvalue : ∀ (b : Attribute) (v : List Char), b.Rereadable →
      ¬ ('"' ∈ v ∧ '\'' ∈ v) → Attribute.Rereadable ⟨b.key, v⟩ :=
    fun b v hb hv => ⟨hb.shaped, hb.plainKey, hv⟩
  induction others with
  | nil =>
    simp only [addClass, List.mem_singleton]
    rintro a rfl
    refine ⟨⟨by simp, ?_, ?_⟩, ?_, fun hq => hcls.1 hq.1⟩
    · have hall : ("class".toList.all fun c => !isMarkupBlank c) = true := by decide
      intro c hc
      simpa using List.all_eq_true.mp hall c hc
    · have hall : ("lass".toList.all fun c => c != '=') = true := by decide
      intro c hc
      simpa using List.all_eq_true.mp hall c hc
    · have hall : ("class".toList.all fun c => c != '"' && c != '\'' && c != '>') = true := by
        decide
      intro c hc
      simpa [and_assoc] using List.all_eq_true.mp hall c hc
  | cons b bs ih =>
    have hb := h b List.mem_cons_self
    have hbs := fun c hc => h c (List.mem_cons_of_mem b hc)
    simp only [addClass]
    split
    · split
      · simp only [List.mem_cons]
        rintro a (rfl | ha)
        · exact hvalue b cls hb fun hq => hcls.1 hq.1
        · exact hbs a ha
      · simp only [List.mem_cons]
        rintro a (rfl | ha)
        · refine hvalue b _ hb fun ⟨hd, hs⟩ => hb.oneQuote ⟨?_, ?_⟩
          · simpa [hcls.1] using hd
          · simpa [hcls.2] using hs
        · exact hbs a ha
    · simp only [List.mem_cons]
      rintro a (rfl | ha)
      · exact hb
      · exact ih hbs a ha

end Class

end StrictCsp.Fragment
