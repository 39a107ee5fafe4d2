import StrictCsp.Fragment.RestyledWalk

/-!
# Reading a restyled tag back

A tag with a style is written again with its first style taken out and a class
added (`restyle`). Read by the same reader, the written tag is one opening tag
of the same kind and name, whose attributes are the tag's own, in order, less
the first style, with the class joined to them as `ClassAdded` says: after a
blank in the first class attribute, in place of a blank one, or in a class
attribute of its own at the end (`restyle_reads_back`).

That holds when the writing keeps the reader in step: the name and the other
keys hold no quote and no closing bracket, and no other value holds both kinds
of quote (`OpenTag.Rewritable`). A value holding both is written in single
quotes and ends at its first single quote, so the written tag does not read as
a tag (`restyle_both_quotes_unreadable`).
-/

namespace StrictCsp.Fragment

open StrictCsp.Entropy StrictCsp.Markup StrictCsp.Text

section Spec

/-- How a class joins a tag's attributes: the first class attribute (its key compared without
ASCII case) takes it after a blank, or in place of a blank value; attributes without one get a
class attribute holding it, last. -/
inductive ClassAdded (cls : List Char) : List Attribute → List Attribute → Prop
  | extend {pre post : List Attribute} {a : Attribute} :
      (∀ b ∈ pre, b.named "class" = false) → a.named "class" = true → trim a.value ≠ [] →
      ClassAdded cls (pre ++ a :: post) (pre ++ ⟨a.key, a.value ++ ' ' :: cls⟩ :: post)
  | replace {pre post : List Attribute} {a : Attribute} :
      (∀ b ∈ pre, b.named "class" = false) → a.named "class" = true → trim a.value = [] →
      ClassAdded cls (pre ++ a :: post) (pre ++ ⟨a.key, cls⟩ :: post)
  | append {as : List Attribute} :
      (∀ b ∈ as, b.named "class" = false) → ClassAdded cls as (as ++ [⟨"class".toList, cls⟩])

/-- A tag whose attributes other than the first style can be written again and read back: its
name and their keys hold no quote and no closing bracket, and none of their values holds both
kinds of quote. -/
structure OpenTag.Rewritable (t : OpenTag) : Prop where
  /-- The name holds no quote and no closing bracket. -/
  plainName : ∀ c ∈ t.name, c ≠ '"' ∧ c ≠ '\'' ∧ c ≠ '>'
  /-- No other key holds a quote or a closing bracket. -/
  plainKeys : ∀ attrs, t.attributes = .ok attrs →
    ∀ a ∈ (takeStyle attrs).2, ∀ c ∈ a.key, c ≠ '"' ∧ c ≠ '\'' ∧ c ≠ '>'
  /-- No other value holds both kinds of quote. -/
  oneQuote : ∀ attrs, t.attributes = .ok attrs →
    ∀ a ∈ (takeStyle attrs).2, ¬ ('"' ∈ a.value ∧ '\'' ∈ a.value)

/-- Text with no quote and no closing bracket. -/
def plainText (s : List Char) : Bool := s.all fun c => c != '"' && c != '\'' && c != '>'

/-- Whether a tag is `OpenTag.Rewritable`, as a check that runs. -/
def OpenTag.rewritable (t : OpenTag) : Bool :=
  plainText t.name &&
    match t.attributes with
    | .ok attrs => (takeStyle attrs).2.all fun a =>
        plainText a.key && !(a.value.contains '"' && a.value.contains '\'')
    | .error _ => true

/-- Plain text holds no quote and no closing bracket. -/
theorem plainText_iff {s : List Char} :
    plainText s = true ↔ ∀ c ∈ s, c ≠ '"' ∧ c ≠ '\'' ∧ c ≠ '>' := by
  simp [plainText, and_assoc]

/-- The check that a tag is rewritable decides `OpenTag.Rewritable`. -/
theorem OpenTag.rewritable_iff {t : OpenTag} : t.rewritable = true ↔ t.Rewritable := by
  have hfields : t.Rewritable ↔ (∀ c ∈ t.name, c ≠ '"' ∧ c ≠ '\'' ∧ c ≠ '>') ∧
      ∀ attrs, t.attributes = .ok attrs → ∀ a ∈ (takeStyle attrs).2,
        (∀ c ∈ a.key, c ≠ '"' ∧ c ≠ '\'' ∧ c ≠ '>') ∧ ¬ ('"' ∈ a.value ∧ '\'' ∈ a.value) :=
    ⟨fun h => ⟨h.plainName, fun as hs a ha => ⟨h.plainKeys as hs a ha, h.oneQuote as hs a ha⟩⟩,
      fun ⟨hn, ho⟩ => ⟨hn, fun as hs a ha => (ho as hs a ha).1, fun as hs a ha => (ho as hs a ha).2⟩⟩
  rw [hfields, OpenTag.rewritable, Bool.and_eq_true, plainText_iff]
  refine and_congr_right fun _ => ?_
  generalize t.attributes = read
  cases read with
  | error f => simp
  | ok attrs =>
    have hquotes : ∀ v : List Char,
        (!(v.contains '"' && v.contains '\'')) = true ↔ ¬ ('"' ∈ v ∧ '\'' ∈ v) := fun v => by
      simp [Decidable.imp_iff_not_or]
    simp only [Except.ok.injEq, forall_eq', List.all_eq_true, Bool.and_eq_true, plainText_iff,
      hquotes]

instance : DecidablePred OpenTag.Rewritable := fun _ => decidable_of_iff _ OpenTag.rewritable_iff

end Spec

section Class

variable {cls : List Char}

/-- An attribute that is no class comes before where the class joins. -/
theorem ClassAdded.cons {as bs : List Attribute} {b : Attribute} (hb : b.named "class" = false)
    (h : ClassAdded cls as bs) : ClassAdded cls (b :: as) (b :: bs) := by
  cases h with
  | @extend pre post a hpre ha hv =>
    exact @ClassAdded.extend cls (b :: pre) post a (List.forall_mem_cons.mpr ⟨hb, hpre⟩) ha hv
  | @replace pre post a hpre ha hv =>
    exact @ClassAdded.replace cls (b :: pre) post a (List.forall_mem_cons.mpr ⟨hb, hpre⟩) ha hv
  | append has => exact .append (List.forall_mem_cons.mpr ⟨hb, has⟩)

/-- Adding a class joins it to the attributes as `ClassAdded` says. -/
theorem addClass_classAdded : ∀ others : List Attribute, ClassAdded cls others (addClass cls others)
  | [] => @ClassAdded.append cls [] (by simp)
  | a :: as => by
    by_cases ha : a.named "class" = true
    · by_cases hv : (trim a.value).isEmpty = true
      · have heq : addClass cls (a :: as) = ⟨a.key, cls⟩ :: as := by simp [addClass, ha, hv]
        rw [heq]
        exact @ClassAdded.replace cls [] as a (by simp) ha (List.isEmpty_iff.mp hv)
      · have heq : addClass cls (a :: as) = ⟨a.key, a.value ++ ' ' :: cls⟩ :: as := by
          simp [addClass, ha, hv]
        rw [heq]
        exact @ClassAdded.extend cls [] as a (by simp) ha fun h => hv (List.isEmpty_iff.mpr h)
    · rw [Bool.not_eq_true] at ha
      have heq : addClass cls (a :: as) = a :: addClass cls as := by simp [addClass, ha]
      rw [heq]
      exact (addClass_classAdded as).cons ha

end Class

section Style

/-- An attribute that is not a style stays among the others. -/
theorem takeStyle_cons_of_named {a : Attribute} (h : a.named "style" = false) (as : List Attribute) :
    takeStyle (a :: as) = ((takeStyle as).1, a :: (takeStyle as).2) := by
  simp [takeStyle, h]

/-- Taking a style splits the attributes around the first style. -/
theorem takeStyle_eq_some : ∀ {attrs : List Attribute} {style : List Char},
    (takeStyle attrs).1 = some style →
      ∃ pre a post, attrs = pre ++ a :: post ∧ (∀ b ∈ pre, b.named "style" = false) ∧
        a.named "style" = true ∧ a.value = style ∧ (takeStyle attrs).2 = pre ++ post
  | [], _, h => by cases h
  | a :: as, style, h => by
    by_cases ha : a.named "style" = true
    · simp only [takeStyle, ha, if_true] at h ⊢
      exact ⟨[], a, as, rfl, by simp, ha, Option.some.inj h, rfl⟩
    · rw [Bool.not_eq_true] at ha
      rw [takeStyle_cons_of_named ha] at h ⊢
      obtain ⟨pre, b, post, rfl, hpre, hb, hv, hrest⟩ := takeStyle_eq_some h
      exact ⟨a :: pre, b, post, rfl, List.forall_mem_cons.mpr ⟨ha, hpre⟩, hb, hv, by rw [hrest]; rfl⟩

end Style

section Reading

/-- Every tag read from text mode is read back from its own markup, which opens like a tag. -/
theorem tagText_of_mem_run : ∀ {tags : List OpenTag} {pos : Nat} {s : List Char},
    (run .text pos s).1 = tags → ∀ t ∈ tags,
      TagText (tagMarkup t.content t.selfClosing) t.content t.selfClosing ∧
        ∀ d, t.content.head? = some d → opensTag d = true
  | [], _, _, _, _, ht => absurd ht List.not_mem_nil
  | _ :: _, _, _, h, t, ht => by
    obtain ⟨_, _, -, -, htext, hopen, -, hrest⟩ := run_text_eq_cons h
    rcases List.mem_cons.mp ht with rfl | ht
    · exact ⟨htext, hopen⟩
    · exact tagText_of_mem_run (congrArg Prod.fst hrest) t ht

/-- Restyling a tag gives, when it gives a class, a class drawn for the tag's first style and
the tag written with the other attributes and the class. -/
theorem restyle_run_some {t : OpenTag} {src src' : Source} {r : Restyled}
    (h : (restyle t).run src = (.ok (some r), src')) :
    ∃ attrs style n, t.attributes = .ok attrs ∧ (takeStyle attrs).1 = some style ∧
      r.styleClass = ⟨classPrefix ++ Nat.repr n, String.ofList (Entity.decode style)⟩ ∧
      r.markup = tagMarkup (t.name ++ (addClass (classPrefix ++ Nat.repr n).toList
        (takeStyle attrs).2).flatMap Attribute.render) t.selfClosing := by
  have hrun : (restyle (Visit.tag ⟨[], t.content, t.selfClosing, []⟩ t.stop)).run src =
      (.ok (some r), src') := h
  obtain ⟨_ | cls, hc, hr⟩ := restyle_run_ok hrun
  · cases hr
  · obtain ⟨attrs, style, hattrs, hstyle, n, rfl⟩ := hc
    rw [Option.map_some, Option.some.injEq] at hr
    subst hr
    refine ⟨attrs, style, n, hattrs, hstyle, rfl, ?_⟩
    rw [Visit.markup, Visit.restyled, Visit.others_eq hattrs (Prod.ext hstyle rfl)]
    rfl

end Reading

/-- A restyled tag, read again, is one opening tag of the same kind and name, whose attributes are
the tag's own less the first style, with the class joined to them. -/
theorem restyle_reads_back {pos : Nat} {s : List Char} {t : OpenTag}
    (ht : t ∈ (run .text pos s).1) (hw : t.Rewritable) {src src' : Source} {r : Restyled}
    (h : (restyle t).run src = (.ok (some r), src')) :
    ∃ pre style post written,
      t.attributes = .ok (pre ++ style :: post) ∧ (∀ a ∈ pre, a.named "style" = false) ∧
      style.named "style" = true ∧ ClassAdded r.styleClass.name.toList (pre ++ post) written ∧
      ∃ t', read r.markup = ([t'], .finished) ∧ t'.selfClosing = t.selfClosing ∧
        t'.name = t.name ∧ t'.attributes = .ok written := by
  obtain ⟨attrs, style, n, hattrs, hstyle, hcls, hmarkup⟩ := restyle_run_some h
  obtain ⟨pre, a, post, rfl, hpre, ha, -, hothers⟩ := takeStyle_eq_some hstyle
  let written := addClass (classPrefix ++ Nat.repr n).toList (pre ++ post)
  have hplain : ∀ c ∈ t.name, isMarkupBlank c = false := fun _ hc => not_blank_of_mem_name hc
  have hreread : ∀ b ∈ written, b.Rereadable := by
    have h := addClass_rereadable_of_attributes hattrs rfl (hw.plainKeys _ hattrs)
      (hw.oneQuote _ hattrs) n
    rwa [hothers] at h
  have hopen : ∀ d, t.name.head? = some d → opensTag d = true := fun d hd =>
    (tagText_of_mem_run rfl t ht).2 d (OpenTag.head?_content_of_name hd)
  have hread := tagText_written hw.plainName hopen hreread (addClass_ne_nil _ _) t.selfClosing 0 []
  rw [hothers] at hmarkup
  rw [List.append_nil, Nat.zero_add, ← hmarkup, ← read_eq_run] at hread
  · refine ⟨pre, a, post, written, hattrs, hpre, ha, by rw [hcls]; exact addClass_classAdded _,
      _, hread, rfl, name_written hplain _ _, attributes_written hplain hreread _ _⟩
  · rw [hmarkup, tagMarkup, List.cons_append, List.head?_cons]
    decide

/-- A paragraph with an identifier and a style is read back with the identifier and the class. -/
theorem restyle_reads_back_of_paragraph :
    let t : OpenTag := ⟨"p id=\"a\" style=\"b\"".toList, false, 20⟩
    let r : Restyled := ⟨⟨"cspdog-style-7", "b"⟩, "<p id=\"a\" class=\"cspdog-style-7\">".toList⟩
    t ∈ (run .text 0 "<p id=\"a\" style=\"b\">".toList).1 ∧ t.Rewritable ∧
      (restyle t).run (.scripted ⟨[7], .fails⟩) = (.ok (some r), .scripted ⟨[], .fails⟩) ∧
      ∃ pre style post written,
        t.attributes = .ok (pre ++ style :: post) ∧ (∀ a ∈ pre, a.named "style" = false) ∧
        style.named "style" = true ∧ ClassAdded r.styleClass.name.toList (pre ++ post) written ∧
        ∃ t', read r.markup = ([t'], .finished) ∧ t'.selfClosing = t.selfClosing ∧
          t'.name = t.name ∧ t'.attributes = .ok written := by
  intro t r
  have ht : t ∈ (run .text 0 "<p id=\"a\" style=\"b\">".toList).1 := by decide +kernel
  have hw : t.Rewritable := by decide +kernel
  have hrun : (restyle t).run (.scripted ⟨[7], .fails⟩) = (.ok (some r), .scripted ⟨[], .fails⟩) := by
    decide +kernel
  exact ⟨ht, hw, hrun, restyle_reads_back ht hw hrun⟩

/-- A value holding both kinds of quote is written in single quotes and ends at its first single
quote, so the restyled tag is not read as a tag. -/
theorem restyle_both_quotes_unreadable :
    (run .text 0 "<p a=b\"'\" style=s>".toList).1 = [⟨"p a=b\"'\" style=s".toList, false, 18⟩] ∧
      (restyle ⟨"p a=b\"'\" style=s".toList, false, 18⟩).run (.scripted ⟨[7], .fails⟩) =
        (.ok (some ⟨⟨"cspdog-style-7", "s"⟩, "<p a='b\"'\"' class=\"cspdog-style-7\">".toList⟩),
          .scripted ⟨[], .fails⟩) ∧
      read "<p a='b\"'\"' class=\"cspdog-style-7\">".toList = ([], .malformed) := by
  decide +kernel

end StrictCsp.Fragment
