import StrictCsp.Fragment.Tour
import StrictCsp.Fragment.WrittenTag

/-!
# The walk of a restyled fragment

A restyled fragment is the text of its walk with each styled tag written again,
a class in place of its first style, and the style block right before the first
one (`applyEdits_editsOf`). Read again, it is walked along the same visits, with
the block as one more raw text visit, when each styled tag can be written again
without changing how it reads (`StyleMovable`): its name and the keys of its
other attributes hold no quote and no closing bracket, no other value holds both
kinds of quote, no other attribute is a style, and the declarations, decoded,
hold no closing tag of a style element, so the block's text ends at the block's
own closing tag. Every visit of that walk is quiet (`tour_respliced`).
-/

namespace StrictCsp.Fragment

open StrictCsp.Entropy StrictCsp.Markup StrictCsp.Text

/-- The closing tag of a style element up to its bracket, in lower case. -/
def styleClose : List Char := "</style".toList

/-- A styled tag whose style can move into a class so that the tag, written again, is read back
as itself without the style. -/
structure StyleMovable (name style : List Char) (others : List Attribute) : Prop where
  /-- The name holds no quote and no closing bracket. -/
  plainName : ∀ c ∈ name, c ≠ '"' ∧ c ≠ '\'' ∧ c ≠ '>'
  /-- No other key holds a quote or a closing bracket. -/
  plainKeys : ∀ a ∈ others, ∀ c ∈ a.key, c ≠ '"' ∧ c ≠ '\'' ∧ c ≠ '>'
  /-- No other value holds both kinds of quote. -/
  oneQuote : ∀ a ∈ others, ¬ ('"' ∈ a.value ∧ '\'' ∈ a.value)
  /-- No other attribute is a style. -/
  oneStyle : ∀ a ∈ others, a.named "style" = false
  /-- The declarations, decoded, stay inside the style block. -/
  staysInBlock : ¬ styleClose <:+: (Entity.decode style).map asciiLower

/-- A visit whose tag, if it has a style, can move it into a class. -/
def Visit.Rewritable (v : Visit) : Prop :=
  ∀ attrs style others, v.attributes = .ok attrs → takeStyle attrs = (some style, others) →
    StyleMovable v.name style others

/-- A tag that, if it has a style, can move it into a class. -/
def OpenTag.StyleMoves (t : OpenTag) : Prop :=
  ∀ attrs style others, t.attributes = .ok attrs → takeStyle attrs = (some style, others) →
    StyleMovable t.name style others

/-- A visit is rewritable exactly when its tag, wherever it ends, can move its style. -/
theorem Visit.rewritable_iff_styleMoves (v : Visit) (stop : Nat) :
    v.Rewritable ↔ (v.tag stop).StyleMoves := Iff.rfl

section ClassName

/-- A generated class name holds the prefix's characters and digits. -/
theorem mem_className {n : Nat} {c : Char} (h : c ∈ (classPrefix ++ Nat.repr n).toList) :
    c ∈ classPrefix.toList ∨ c.isDigit = true := by
  rw [String.toList_append, List.mem_append, Nat.toList_repr] at h
  exact h.imp id (Nat.isDigit_of_mem_toDigits (by decide) (by decide))

/-- A generated class name holds no quote. -/
theorem quote_not_mem_className (n : Nat) :
    '"' ∉ (classPrefix ++ Nat.repr n).toList ∧ '\'' ∉ (classPrefix ++ Nat.repr n).toList := by
  constructor <;> intro h <;> rcases mem_className h with h | h <;> revert h <;> decide

/-- The attributes of a tag other than its first style, with a generated class added, are
rereadable when no other key holds a quote or a closing bracket and no other value holds both
kinds of quote. -/
theorem addClass_rereadable_of_attributes {t : OpenTag} {attrs others : List Attribute}
    {style : Option (List Char)} (hattrs : t.attributes = .ok attrs)
    (hts : takeStyle attrs = (style, others))
    (hkeys : ∀ a ∈ others, ∀ c ∈ a.key, c ≠ '"' ∧ c ≠ '\'' ∧ c ≠ '>')
    (hquote : ∀ a ∈ others, ¬ ('"' ∈ a.value ∧ '\'' ∈ a.value)) (n : Nat) :
    ∀ a ∈ addClass (classPrefix ++ Nat.repr n).toList others, a.Rereadable := by
  have hshaped := readAttributes_keyShaped hattrs
  refine addClass_rereadable (quote_not_mem_className n) fun a ha => ?_
  exact ⟨hshaped a (mem_of_takeStyle hts a ha), hkeys a ha, hquote a ha⟩

end ClassName

section Restyled

variable {v : Visit} {attrs : List Attribute} {style : List Char} {others : List Attribute}

/-- A tag's name starts its content. -/
theorem OpenTag.head?_content_of_name {t : OpenTag} {d : Char} (h : t.name.head? = some d) :
    t.content.head? = some d := by
  obtain ⟨rest, hrest⟩ := List.takeWhile_prefix (fun c => !isMarkupBlank c) (l := t.content)
  have hname : (t.content.takeWhile (!isMarkupBlank ·)).head? = some d := h
  rw [← hrest, List.head?_append, hname]
  rfl

/-- The tag read from a visit's markup opens like a tag. -/
theorem Visit.Readable.opens (h : v.Readable) :
    ∀ d, v.content.head? = some d → opensTag d = true := by
  have hrun := h.markup 0 []
  obtain ⟨_, _, _, _, _, hopen, _⟩ := run_text_eq_cons (congrArg Prod.fst hrun)
  exact hopen

/-- A readable visit stays readable behind any lead that glides back to text. -/
theorem Visit.Readable.of_lead (h : v.Readable) {lead : List Char}
    (hlead : glide .text lead = some .text) : ({ v with lead := lead } : Visit).Readable :=
  ⟨hlead, h.markup⟩

/-- The other attributes of a styled visit are those left after its first style. -/
theorem Visit.others_eq (hattrs : v.attributes = .ok attrs)
    (hts : takeStyle attrs = (some style, others)) : v.others = others := by
  simp [Visit.others, hattrs, hts]

/-- The attributes a styled visit is written again with are rereadable and name no style. -/
theorem restyledAttributes_rereadable (hmov : StyleMovable v.name style others)
    (hattrs : v.attributes = .ok attrs) (hts : takeStyle attrs = (some style, others)) (n : Nat) :
    ∀ a ∈ restyledAttributes (classPrefix ++ Nat.repr n).toList others, a.Rereadable :=
  addClass_rereadable_of_attributes (t := v.tag 0) hattrs hts hmov.plainKeys hmov.oneQuote n

/-- Restyling a visit keeps its tag's name. -/
theorem Visit.name_restyled (cls : StyleClass) : (v.restyled cls).name = v.name :=
  name_written (fun _ hc => not_blank_of_mem_name hc) _ _

variable (hmov : StyleMovable v.name style others) (hattrs : v.attributes = .ok attrs)
  (hts : takeStyle attrs = (some style, others))
include hmov hattrs hts

/-- A styled visit written again is read as a tag. -/
theorem Visit.Readable.restyled (hv : v.Readable) (n : Nat) (declarations : String) :
    (v.restyled ⟨classPrefix ++ Nat.repr n, declarations⟩).Readable := by
  refine ⟨hv.lead, ?_⟩
  rw [Visit.markup, Visit.restyled, v.others_eq hattrs hts]
  exact tagText_written hmov.plainName
    (fun d hd => hv.opens d (OpenTag.head?_content_of_name (t := v.tag 0) hd))
    (restyledAttributes_rereadable hmov hattrs hts n) (addClass_ne_nil _ _) _

/-- A styled visit written again reads without a style. -/
theorem Visit.quiet_restyled (n : Nat) (declarations : String) :
    (v.restyled ⟨classPrefix ++ Nat.repr n, declarations⟩).Quiet := by
  refine ⟨restyledAttributes (classPrefix ++ Nat.repr n).toList others, ?_, ?_⟩
  · rw [Visit.attributes, Visit.tag, Visit.restyled, v.others_eq hattrs hts]
    exact attributes_written (fun _ hc => not_blank_of_mem_name hc)
      (restyledAttributes_rereadable hmov hattrs hts n) _ _
  · exact takeStyle_fst_eq_none (addClass_named_style hmov.oneStyle)

end Restyled

section Block

/-- The attributes of the style block's opening tag. -/
def blockAttributes (nonce : String) : List Attribute :=
  [⟨"type".toList, "text/css".toList⟩, ⟨"nonce".toList, nonce.toList⟩]

/-- The rules of classes, one after another. -/
def rulesText (classes : List StyleClass) : List Char := classes.flatMap fun c => c.rule.toList

/-- The style block as a visit after a lead: its opening tag, then its rules and closing tag as
the text of a style element. -/
def blockVisit (nonce : String) (classes : List StyleClass) (lead : List Char) : Visit :=
  ⟨lead, "style".toList ++ (blockAttributes nonce).flatMap Attribute.render, false,
    rulesText classes ++ "</style>".toList⟩

variable {nonce : String} {classes : List StyleClass}

/-- A value with no double quote is written between double quotes. -/
theorem Attribute.render_of_not_mem {a : Attribute} (h : '"' ∉ a.value) :
    a.render = ' ' :: a.key ++ '=' :: '"' :: a.value ++ ['"'] := by
  simp [Attribute.render, h]

/-- The block written into a restyled fragment is the block visit's tag and text. -/
theorem styleBlock_eq (hN : '"' ∉ nonce.toList) (classes : List StyleClass) :
    styleBlock nonce classes =
      (blockVisit nonce classes []).markup ++ (blockVisit nonce classes []).skip := by
  have hopen : "<style type=\"text/css\" nonce=\"".toList =
      '<' :: "style".toList ++ (' ' :: "type".toList ++ '=' :: '"' :: "text/css".toList ++ ['"']) ++
        ' ' :: "nonce".toList ++ ['=', '"'] := by decide
  have htype : '"' ∉ "text/css".toList := by decide
  simp only [styleBlock, blockVisit, Visit.markup, tagMarkup, closing, blockAttributes, rulesText,
    List.flatMap_cons, List.flatMap_nil,
    Attribute.render_of_not_mem (a := ⟨_, "text/css".toList⟩) htype,
    Attribute.render_of_not_mem (a := ⟨_, nonce.toList⟩) hN, String.toList_append, hopen]
  simp

/-- The style block's attributes are read back as written for a nonce without a double quote. -/
theorem blockAttributes_rereadable (hN : '"' ∉ nonce.toList) :
    ∀ a ∈ blockAttributes nonce, a.Rereadable := by
  have hkeys : ∀ key ∈ ["type".toList, "nonce".toList], key.all (fun c =>
      !isMarkupBlank c && c != '"' && c != '\'' && c != '>') = true ∧
      key.tail.all (· != '=') = true := by decide
  have hrereadable : ∀ (key value : List Char), key ∈ ["type".toList, "nonce".toList] →
      ¬ ('"' ∈ value ∧ '\'' ∈ value) → Attribute.Rereadable ⟨key, value⟩ := by
    intro key value hk hv
    obtain ⟨hall, htail⟩ := hkeys key hk
    have hchars : ∀ c ∈ key, isMarkupBlank c = false ∧ c ≠ '"' ∧ c ≠ '\'' ∧ c ≠ '>' := by
      intro c hc
      have := List.all_eq_true.mp hall c hc
      simp only [Bool.and_eq_true, Bool.not_eq_true', bne_iff_ne, ne_eq] at this
      exact ⟨this.1.1.1, this.1.1.2, this.1.2, this.2⟩
    refine ⟨⟨?_, fun c hc => (hchars c hc).1, fun c hc => ?_⟩, fun c hc => (hchars c hc).2, hv⟩
    · simp only [List.mem_cons, List.not_mem_nil, or_false] at hk
      rcases hk with rfl | rfl <;> simp
    · simpa using List.all_eq_true.mp htail c hc
  simp only [blockAttributes, List.mem_cons, List.not_mem_nil, or_false]
  rintro a (rfl | rfl)
  · exact hrereadable _ _ (by simp) (by decide)
  · exact hrereadable _ _ (by simp) fun h => hN h.1

/-- The name `style` holds no blank, no quote and no closing bracket. -/
theorem style_plain : ∀ c ∈ "style".toList, isMarkupBlank c = false ∧ c ≠ '"' ∧ c ≠ '\'' ∧ c ≠ '>' := by
  have hall : ("style".toList.all fun c => !isMarkupBlank c && c != '"' && c != '\'' &&
      c != '>') = true := by decide
  intro c hc
  simpa [and_assoc] using List.all_eq_true.mp hall c hc

variable {lead : List Char}

/-- The style block's tag is named `style`. -/
theorem blockVisit_name : (blockVisit nonce classes lead).name = "style".toList :=
  name_written (fun c hc => (style_plain c hc).1) false 0

/-- The style block opens a raw text element. -/
theorem blockVisit_isRaw : (blockVisit nonce classes lead).isRaw = true := by
  rw [Visit.isRaw, blockVisit_name]
  rfl

/-- The style block's opening tag is read as a tag. -/
theorem blockVisit_readable (hN : '"' ∉ nonce.toList) (hlead : glide .text lead = some .text) :
    (blockVisit nonce classes lead).Readable := by
  refine ⟨hlead, tagText_written (fun c hc => (style_plain c hc).2) ?_
    (blockAttributes_rereadable hN) (by simp [blockAttributes]) false⟩
  intro d hd
  cases hd
  rfl

/-- The style block's opening tag reads without a style. -/
theorem blockVisit_quiet (hN : '"' ∉ nonce.toList) : (blockVisit nonce classes lead).Quiet := by
  refine ⟨blockAttributes nonce,
    attributes_written (fun c hc => (style_plain c hc).1) (blockAttributes_rereadable hN) _ _, ?_⟩
  have hnames : ∀ a ∈ blockAttributes nonce, a.named "style" = false := by
    simp only [blockAttributes, List.mem_cons, List.not_mem_nil, or_false]
    rintro a (rfl | rfl) <;> rfl
  exact takeStyle_fst_eq_none hnames

end Block

section Rules

variable {classes : List StyleClass}

/-- A class's rule is a dot, its name and its declarations in braces. -/
theorem StyleClass.rule_toList (c : StyleClass) : c.rule.toList =
    '.' :: c.name.toList ++ ' ' :: '{' :: ' ' :: (c.declarations.toList ++ [' ', '}', ' ']) := by
  simp [StyleClass.rule]

/-- Lowering leaves a digit alone. -/
theorem asciiLower_of_isDigit {c : Char} (h : c.isDigit = true) : asciiLower c = c := by
  unfold asciiLower Char.toLower
  split
  · rename_i hup
    have hd : c.toNat ≤ 57 := by
      simp only [Char.isDigit, Bool.and_eq_true, decide_eq_true_eq] at h
      simpa using UInt32.le_iff_toNat_le.mp h.2
    have hA : 65 ≤ c.toNat := by simpa using UInt32.le_iff_toNat_le.mp hup.1
    omega
  · rfl

/-- No character of a generated class name lowers to `<`. -/
theorem lt_not_mem_className (n : Nat) :
    '<' ∉ (classPrefix ++ Nat.repr n).toList.map asciiLower := by
  have hprefix : (classPrefix.toList.all fun c => asciiLower c != '<') = true := by decide
  simp only [List.mem_map, not_exists, not_and]
  intro c hc hlt
  rcases mem_className hc with hc | hc
  · simpa [hlt] using List.all_eq_true.mp hprefix c hc
  · rw [asciiLower_of_isDigit hc] at hlt
    rw [hlt] at hc
    exact absurd hc (by decide)

/-- A text holding the closing tag of a style element holds a `<`. -/
theorem lt_mem_of_contains_styleClose {x : List Char} (h : styleClose <:+: x) : '<' ∈ x :=
  h.subset (by decide : '<' ∈ styleClose)

/-- Rules drawn for styles that stay in the block hold no closing tag of a style element: the
declarations are set off by blanks, which the closing tag lacks. -/
theorem not_styleClose_infix_rulesText
    (h : ∀ c ∈ classes, ∃ n style,
      c = ⟨classPrefix ++ Nat.repr n, String.ofList (Entity.decode style)⟩ ∧
        ¬ styleClose <:+: (Entity.decode style).map asciiLower) :
    ¬ styleClose <:+: (rulesText classes).map asciiLower := by
  induction classes with
  | nil =>
    rw [rulesText, List.flatMap_nil, List.map_nil, List.infix_nil]
    decide
  | cons c cs ih =>
    obtain ⟨n, style, rfl, hstay⟩ := h c List.mem_cons_self
    have hrest := ih fun d hd => h d (List.mem_cons_of_mem _ hd)
    have hblank : ' ' ∉ styleClose := by decide
    have hshape : (rulesText (⟨classPrefix ++ Nat.repr n, String.ofList (Entity.decode style)⟩ ::
        cs)).map asciiLower =
        ('.' :: (classPrefix ++ Nat.repr n).toList.map asciiLower) ++ ' ' ::
          (['{'] ++ ' ' :: ((Entity.decode style).map asciiLower ++ ' ' ::
            (['}'] ++ ' ' :: (rulesText cs).map asciiLower))) := by
      have hpunct : asciiLower '.' = '.' ∧ asciiLower ' ' = ' ' ∧ asciiLower '{' = '{' ∧
          asciiLower '}' = '}' := by decide
      simp [rulesText, StyleClass.rule_toList, hpunct]
    intro hin
    rw [hshape] at hin
    rcases infix_append_cons hblank hin with hin | hin
    · exact lt_not_mem_className n
        (List.mem_of_ne_of_mem (by decide) (lt_mem_of_contains_styleClose hin))
    rcases infix_append_cons hblank hin with hin | hin
    · exact absurd (lt_mem_of_contains_styleClose hin) (by decide)
    rcases infix_append_cons hblank hin with hin | hin
    · exact hstay hin
    rcases infix_append_cons hblank hin with hin | hin
    · exact absurd (lt_mem_of_contains_styleClose hin) (by decide)
    · exact hrest hin

/-- The rules of some classes end with a blank. -/
theorem rulesText_eq_append : ∀ {classes : List StyleClass}, classes ≠ [] →
    ∃ pre, rulesText classes = pre ++ [' ']
  | [], h => absurd rfl h
  | [c], _ => ⟨'.' :: c.name.toList ++ ' ' :: '{' :: ' ' :: (c.declarations.toList ++ [' ', '}']),
      by simp [rulesText, StyleClass.rule_toList]⟩
  | c :: d :: ds, _ => by
    obtain ⟨pre, h⟩ := rulesText_eq_append (List.cons_ne_nil d ds)
    refine ⟨c.rule.toList ++ pre, ?_⟩
    rw [rulesText, List.flatMap_cons, ← rulesText, h, List.append_assoc]

/-- The text of the style block ends at its own closing tag when its rules hold none. No occurrence
starts within the rules: each of their suffixes ends with a blank, which the closing tag lacks. -/
theorem rawTextLength?_block (h : ¬ styleClose <:+: (rulesText classes).map asciiLower) :
    rawTextLength? "style".toList (rulesText classes ++ "</style>".toList) =
      some (rulesText classes ++ "</style>".toList).length := by
  have hpat : ('<' :: '/' :: "style".toList.map asciiLower) = styleClose := by decide
  have hclose : "</style>".toList.map asciiLower = styleClose ++ ['>'] := by decide
  have hstart : ∀ s, s <:+ (rulesText classes).map asciiLower → s ≠ [] →
      styleClose.isPrefixOf (s ++ (styleClose ++ ['>'])) = false := by
    intro s hs hne
    rw [← Bool.not_eq_true, List.isPrefixOf_iff_prefix]
    intro hp
    have hblank : ' ' ∈ s := by
      by_cases hcl : classes = []
      · subst hcl
        simp [rulesText] at hs
        exact absurd hs hne
      obtain ⟨pre, hpre⟩ := rulesText_eq_append hcl
      obtain ⟨t, ht⟩ := hs
      rw [hpre, List.map_append] at ht
      have hlast := congrArg List.getLast? ht
      rw [List.getLast?_append, List.map_singleton, List.getLast?_concat] at hlast
      obtain ⟨x, hx⟩ := Option.ne_none_iff_exists'.mp (mt List.getLast?_eq_none_iff.mp hne)
      rw [hx, Option.some_or] at hlast
      rw [show x = ' ' by simpa [show asciiLower ' ' = ' ' by decide] using hlast] at hx
      exact List.mem_of_getLast? hx
    rcases Nat.le_total styleClose.length s.length with hle | hle
    · exact h ((List.prefix_of_prefix_length_le hp (List.prefix_append s _) hle).isInfix.trans
        hs.isInfix)
    · exact absurd ((List.prefix_of_prefix_length_le (List.prefix_append s _) hp hle).subset hblank)
        (by decide)
  have hfind : findFrom? styleClose ((rulesText classes).map asciiLower ++ (styleClose ++ ['>'])) =
      some ((rulesText classes).map asciiLower).length := by
    rw [findFrom?_append_of_no_start hstart, show findFrom? styleClose (styleClose ++ ['>']) = some 0
      by decide]
    rfl
  simp only [rawTextLength?, List.map_append, hpat, hclose, hfind, Option.bind_eq_bind,
    Option.bind_some, Option.pure_def]
  rw [List.drop_left, show findFrom? ['>'] (styleClose ++ ['>']) = some 7 by decide]
  simp

end Rules

section Splice

variable {nonce : String} {classes : List StyleClass}

/-- The visits of a restyled fragment: each styled visit written again, and the style block read
right before the first one. -/
def respliced (nonce : String) (classes : List StyleClass) :
    Bool → List Visit → List (Option StyleClass) → List Visit
  | first, v :: vs, none :: cs => v :: respliced nonce classes first vs cs
  | true, v :: vs, some cls :: cs =>
    blockVisit nonce classes v.lead :: { v.restyled cls with lead := [] } ::
      respliced nonce classes false vs cs
  | false, v :: vs, some cls :: cs => v.restyled cls :: respliced nonce classes false vs cs
  | _, vs, _ => vs

/-- Applying the edits of restyled visits writes the text of the restyled walk. -/
theorem applyEdits_editsOf (hN : '"' ∉ nonce.toList) :
    ∀ {vs : List Visit} {cs : List (Option StyleClass)}, vs.length = cs.length →
      ∀ (u₁ u₂ tail : List Char) (first : Bool),
      applyEdits (u₁ ++ u₂ ++ textOf vs tail) (styleBlock nonce classes) (byteLength u₁) first
          (editsOf (byteLength (u₁ ++ u₂)) vs cs) =
        u₂ ++ textOf (respliced nonce classes first vs cs) tail
  | [], [], _, u₁, u₂, tail, first => by
    simp [editsOf, applyEdits, respliced, dropBytes?_append]
  | v :: vs, none :: cs, hlen, u₁, u₂, tail, first => by
    have ih := applyEdits_editsOf hN (by simpa using hlen) u₁ (u₂ ++ v.text) tail first
    have hfrag : u₁ ++ u₂ ++ textOf (v :: vs) tail = u₁ ++ (u₂ ++ v.text) ++ textOf vs tail := by
      simp [textOf_cons]
    have hpos : byteLength (u₁ ++ u₂) + byteLength v.text = byteLength (u₁ ++ (u₂ ++ v.text)) := by
      simp [Nat.add_assoc]
    rw [editsOf, Option.toList_none, List.map_nil, List.nil_append, hfrag, hpos, ih, respliced,
      textOf_cons, List.append_assoc]
  | v :: vs, some cls :: cs, hlen, u₁, u₂, tail, first => by
    have ih := applyEdits_editsOf hN (by simpa using hlen) (u₁ ++ u₂ ++ v.lead ++ v.markup) v.skip
      tail false
    have hfrag : u₁ ++ u₂ ++ textOf (v :: vs) tail =
        u₁ ++ u₂ ++ v.lead ++ v.markup ++ v.skip ++ textOf vs tail := by
      simp [textOf_cons, Visit.text]
    have hslice : sliceBytes? (u₁ ++ u₂ ++ v.lead ++ v.markup ++ v.skip ++ textOf vs tail)
        (byteLength u₁) (byteLength (u₁ ++ u₂) + byteLength v.lead) = some (u₂ ++ v.lead) := by
      have := sliceBytes?_append u₁ (u₂ ++ v.lead) (v.markup ++ v.skip ++ textOf vs tail)
      simp only [List.append_assoc, byteLength_append, Nat.add_assoc] at this ⊢
      exact this
    have hstop : byteLength (u₁ ++ u₂) + byteLength (v.lead ++ v.markup) =
        byteLength (u₁ ++ u₂ ++ v.lead ++ v.markup) := by
      simp [Nat.add_assoc]
    have hnext : byteLength (u₁ ++ u₂) + byteLength v.text =
        byteLength (u₁ ++ u₂ ++ v.lead ++ v.markup ++ v.skip) := by
      simp [Visit.text, Nat.add_assoc]
    rw [editsOf, Option.toList_some, List.map_singleton, List.singleton_append, applyEdits, hfrag,
      hslice, hstop, hnext, ih]
    have hblock : (blockVisit nonce classes v.lead).text = v.lead ++ styleBlock nonce classes := by
      rw [styleBlock_eq hN, Visit.text, List.append_assoc]
      rfl
    have hrestyled : ∀ lead, ({ v.restyled cls with lead := lead } : Visit).text =
        lead ++ (v.restyled cls).markup ++ v.skip := fun _ => rfl
    cases first with
    | false =>
      have hv' : (v.restyled cls).text = v.lead ++ (v.restyled cls).markup ++ v.skip := rfl
      simp only [respliced, textOf_cons, Option.getD_some, hv']
      simp
    | true =>
      simp only [respliced, textOf_cons, Option.getD_some, if_true, hblock, hrestyled,
        List.nil_append]
      simp

/-- A visit's text starts with its lead, or with the `<` of its tag when the lead is empty. -/
theorem head?_text_append (v : Visit) (rest : List Char) :
    (v.text ++ rest).head? = (v.lead ++ ['<']).head? := by
  have htext : v.text ++ rest =
      v.lead ++ '<' :: (v.content ++ closing v.selfClosing ++ v.skip ++ rest) := by
    simp [Visit.text, Visit.markup, tagMarkup]
  rw [htext]
  cases v.lead <;> rfl

/-- Restyling keeps the first character of a walk's text. -/
theorem head?_textOf_respliced : ∀ (first : Bool) (vs : List Visit)
    (cs : List (Option StyleClass)) (tail : List Char),
    (textOf (respliced nonce classes first vs cs) tail).head? = (textOf vs tail).head?
  | _, [], _, _ => by simp [respliced]
  | _, _ :: _, [], _ => by simp [respliced]
  | _, v :: vs, none :: cs, tail => by simp only [respliced, textOf_cons, head?_text_append]
  | true, v :: vs, some cls :: cs, tail => by
    simp only [respliced, textOf_cons, head?_text_append]
    rfl
  | false, v :: vs, some cls :: cs, tail => by
    simp only [respliced, textOf_cons, head?_text_append]
    rfl

end Splice

section Walk

variable {nonce : String} {classes : List StyleClass} {v : Visit} {cls : StyleClass}

/-- A styled visit that can be written again is, written again, a quiet tag of the same kind. -/
theorem restyled_facts (hv : v.Readable) (hr : v.Restyles (some cls)) (hrw : v.Rewritable) :
    (v.restyled cls).Readable ∧ (v.restyled cls).Quiet ∧ (v.restyled cls).isRaw = v.isRaw := by
  obtain ⟨attrs, style, hattrs, hfst, n, rfl⟩ := hr
  have hts : takeStyle attrs = (some style, (takeStyle attrs).2) := Prod.ext hfst rfl
  have hmov := hrw attrs style _ hattrs hts
  refine ⟨hv.restyled hmov hattrs hts n _, Visit.quiet_restyled hmov hattrs hts n _, ?_⟩
  rw [Visit.isRaw, Visit.isRaw, Visit.name_restyled]
  rfl

/-- The style block read before a walk whose first visit has no lead. -/
theorem Tour.block (hN : '"' ∉ nonce.toList)
    (hblock : rawTextLength? "style".toList (rulesText classes ++ "</style>".toList) =
      some (rulesText classes ++ "</style>".toList).length)
    {lead : List Char} (hlead : glide .text lead = some .text) {w : Visit} {ws : List Visit}
    {tail : List Char} (hw : w.lead = []) (h : Tour (w :: ws) tail) :
    Tour (blockVisit nonce classes lead :: w :: ws) tail := by
  refine .closed (blockVisit_readable hN hlead) blockVisit_isRaw ?_ ?_ h
  · rw [blockVisit_name]
    exact hblock
  · rw [textOf_cons, head?_text_append, hw]
    decide

/-- A restyled visit heads the respliced walk, behind the block when it is the first one, given
that it walks after any lead that glides back to text. -/
theorem respliced_restyled_cons (hN : '"' ∉ nonce.toList)
    (hblock : rawTextLength? "style".toList (rulesText classes ++ "</style>".toList) =
      some (rulesText classes ++ "</style>".toList).length)
    {v : Visit} {cls : StyleClass} {vs : List Visit} {cs : List (Option StyleClass)}
    {tail : List Char} (hlead : glide .text v.lead = some .text) (hq : (v.restyled cls).Quiet)
    (hquiet : ∀ w ∈ respliced nonce classes false vs cs, w.Quiet)
    (hstep : ∀ lead, glide .text lead = some .text →
      Tour ({ v.restyled cls with lead := lead } :: respliced nonce classes false vs cs) tail)
    (first : Bool) :
    Tour (respliced nonce classes first (v :: vs) (some cls :: cs)) tail ∧
      ∀ w ∈ respliced nonce classes first (v :: vs) (some cls :: cs), w.Quiet := by
  cases first with
  | false =>
    refine ⟨hstep v.lead hlead, ?_⟩
    simpa [respliced] using ⟨hq, hquiet⟩
  | true =>
    refine ⟨Tour.block hN hblock hlead rfl (hstep [] rfl), ?_⟩
    simpa [respliced] using ⟨blockVisit_quiet hN, hq, hquiet⟩

/-- Read again, a restyled fragment is walked along its visits, with the style block before the
first styled one, and every visit of that walk is quiet. -/
theorem tour_respliced (hN : '"' ∉ nonce.toList)
    (hblock : rawTextLength? "style".toList (rulesText classes ++ "</style>".toList) =
      some (rulesText classes ++ "</style>".toList).length)
    {vs : List Visit} {tail : List Char} (h : Tour vs tail) :
    ∀ {cs : List (Option StyleClass)}, List.Forall₂ Visit.Restyles vs cs →
      (∀ v ∈ vs, v.Rewritable) → ∀ first,
      Tour (respliced nonce classes first vs cs) tail ∧
        ∀ w ∈ respliced nonce classes first vs cs, w.Quiet := by
  induction h with
  | finish hglide =>
    intro cs hcs _ first
    cases hcs
    exact ⟨.finish hglide, by simp [respliced]⟩
  | @plain v vs tail hv hraw hskip _ ih =>
    intro cs hcs hrw first
    cases hcs with
    | cons hr hrest =>
    have hrest' := fun first => ih hrest (fun w hw => hrw w (List.mem_cons_of_mem v hw)) first
    rename_i c cs
    cases c with
    | none =>
      obtain ⟨htour, hquiet⟩ := hrest' first
      refine ⟨.plain hv hraw hskip htour, ?_⟩
      simpa [respliced] using ⟨hr, hquiet⟩
    | some cls =>
      obtain ⟨hv', hq', hraw'⟩ := restyled_facts hv hr (hrw v List.mem_cons_self)
      obtain ⟨htour, hquiet⟩ := hrest' false
      exact respliced_restyled_cons hN hblock hv.lead hq' hquiet
        (fun lead hlead => .plain (hv'.of_lead hlead) (hraw'.trans hraw) hskip htour) first
  | @closed v vs tail hv hraw hclose hbom _ ih =>
    intro cs hcs hrw first
    cases hcs with
    | cons hr hrest =>
    have hrest' := fun first => ih hrest (fun w hw => hrw w (List.mem_cons_of_mem v hw)) first
    rename_i c cs
    have hbom' : ∀ first, (textOf (respliced nonce classes first vs cs) tail).head? ≠
        some byteOrderMark := fun first => by rw [head?_textOf_respliced]; exact hbom
    cases c with
    | none =>
      obtain ⟨htour, hquiet⟩ := hrest' first
      refine ⟨.closed hv hraw hclose (hbom' first) htour, ?_⟩
      simpa [respliced] using ⟨hr, hquiet⟩
    | some cls =>
      obtain ⟨hv', hq', hraw'⟩ := restyled_facts hv hr (hrw v List.mem_cons_self)
      obtain ⟨htour, hquiet⟩ := hrest' false
      have hname : (v.restyled cls).name = v.name := Visit.name_restyled cls
      exact respliced_restyled_cons hN hblock hv.lead hq' hquiet
        (fun lead hlead => .closed (hv'.of_lead hlead) (hraw'.trans hraw) (hname ▸ hclose)
          (hbom' false) htour) first
  | @unclosed v hv hraw hnone =>
    intro cs hcs hrw first
    cases hcs with
    | cons hr hrest =>
    cases hrest
    rename_i c
    cases c with
    | none =>
      have hq : v.Quiet := hr
      refine ⟨.unclosed hv hraw hnone, ?_⟩
      simpa [respliced] using hq
    | some cls =>
      obtain ⟨hv', hq', hraw'⟩ := restyled_facts hv hr (hrw v List.mem_cons_self)
      have hname : (v.restyled cls).name = v.name := Visit.name_restyled cls
      have hnil : ∀ w ∈ respliced nonce classes false [] [], w.Quiet := by simp [respliced]
      exact respliced_restyled_cons hN hblock hv.lead hq' hnil
        (fun lead hlead => .unclosed (hv'.of_lead hlead) (hraw'.trans hraw) (hname ▸ hnone)) first

end Walk

end StrictCsp.Fragment
