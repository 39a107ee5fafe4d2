import StrictCsp.Policy.Assemble

/-!
# Filling a template in one scan

A template is materialized by three replacement passes, the nonce first, then
the handler hashes, then the style hashes, each over the text the pass before
it wrote. Filling in one scan instead (`fillOnce`) reads the template once from
left to right and writes the value of each placeholder it meets, never reading
a value again.

The two agree unless a pass can join what it wrote with the template around
it into a new placeholder. With no handler hashes,
`{inlinestyles{eventhandlerhashes}hashes}` loses its inner placeholder in the
second pass and becomes a style placeholder, which the third pass fills
(`materialize_joined_placeholder`).

A template in which every opening brace starts a placeholder (`BracesOpenSlots`)
leaves no room for that. It is a sequence of pieces, plain characters other
than `{` and placeholders (`exists_pieces`), and with values free of braces each
pass keeps that shape: it fills its own placeholders and steps over the others
and over the values already written (`replaceAll_fillSome`).

Main statement: for such templates and values, the passes fill the template as
one scan does (`materialize_eq_fillOnce`).
-/

namespace StrictCsp.Policy

open StrictCsp.Text

/-- The three placeholders of a template. -/
inductive Slot where
  /-- The nonce. -/
  | nonce
  /-- The event handler hashes. -/
  | handlers
  /-- The inline style hashes. -/
  | styles
  deriving DecidableEq, Repr

namespace Slot

/-- The text of a placeholder. -/
def placeholder : Slot → List Char
  | .nonce => noncePlaceholder.toList
  | .handlers => handlerPlaceholder.toList
  | .styles => stylePlaceholder.toList

/-- The first letter of a placeholder's name. -/
def initial : Slot → Char
  | .nonce => 'n'
  | .handlers => 'e'
  | .styles => 'i'

/-- What follows the first letter of a placeholder: the rest of its name and the closing
brace. -/
def tail : Slot → List Char
  | .nonce => "once\x7d".toList
  | .handlers => "venthandlerhashes\x7d".toList
  | .styles => "nlinestyleshashes\x7d".toList

/-- A slot's placeholder is a brace, its initial and the rest of it. -/
theorem placeholder_eq (k : Slot) : k.placeholder = '{' :: k.initial :: k.tail := by
  cases k <;> rfl

/-- Placeholders are told apart by the first letter of their names. -/
theorem eq_of_initial_eq {j k : Slot} (h : j.initial = k.initial) : j = k := by
  cases j <;> cases k <;> first | rfl | exact absurd h (by decide)

/-- No slot's placeholder has a brace for its initial. -/
theorem initial_ne_brace (k : Slot) : k.initial ≠ '{' := by
  cases k <;> decide

/-- No slot's placeholder holds a brace after its initial. -/
theorem brace_not_mem_tail (k : Slot) : '{' ∉ k.tail := by
  cases k <;> decide

end Slot

/-- The placeholder that starts a text, if any, tried in the order the passes fill them. -/
def slotAt? (s : List Char) : Option Slot :=
  [Slot.nonce, .handlers, .styles].find? fun k => k.placeholder.isPrefixOf s

/-- Fills the placeholders of a template in one scan from left to right: where a placeholder
starts, its value is written and the scan goes on after it; every other character is kept. -/
def fillOnce (value : Slot → List Char) : List Char → List Char
  | [] => []
  | c :: cs =>
    match slotAt? (c :: cs) with
    | some k => value k ++ fillOnce value (cs.drop (k.placeholder.length - 1))
    | none => c :: fillOnce value cs
termination_by s => s.length
decreasing_by all_goals simp only [List.length_drop, List.length_cons]; omega

/-- The values a materialized template gets for its placeholders. -/
def slotValue (nonce : Nonce) (handlerHashes styleHashes : String) : Slot → List Char
  | .nonce => nonce.text.toList
  | .handlers => handlerHashes.toList
  | .styles => styleHashes.toList

/-- Every opening brace of a template starts one of its placeholders. -/
def BracesOpenSlots (t : List Char) : Prop :=
  ∀ pre rest, t = pre ++ '{' :: rest → ∃ k : Slot, k.placeholder <+: '{' :: rest

/-- Checks that every opening brace of a text starts a placeholder. -/
def bracesOpenSlots : List Char → Bool
  | [] => true
  | c :: cs => (c != '{' || (slotAt? (c :: cs)).isSome) && bracesOpenSlots cs

/-- A piece of a template: a plain character, or a placeholder. -/
inductive TemplatePiece where
  /-- A character written as it is. -/
  | plain (c : Char)
  /-- A placeholder. -/
  | hole (k : Slot)

namespace TemplatePiece

/-- The text of a piece in the template. -/
def text : TemplatePiece → List Char
  | .plain c => [c]
  | .hole k => k.placeholder

/-- The text of a piece once the placeholders marked done are filled. -/
def fillSome (done : Slot → Bool) (value : Slot → List Char) : TemplatePiece → List Char
  | .plain c => [c]
  | .hole k => if done k then value k else k.placeholder

/-- The plain characters of a template built from pieces are no opening braces. -/
def Plain : TemplatePiece → Prop
  | .plain c => c ≠ '{'
  | .hole _ => True

end TemplatePiece

open TemplatePiece

/-- Marks one more placeholder as filled. -/
def markDone (done : Slot → Bool) (k : Slot) : Slot → Bool := fun j => done j || decide (j = k)

section Scan

/-- A placeholder is never empty. -/
theorem Slot.placeholder_ne_nil (k : Slot) : k.placeholder ≠ [] := by
  rw [k.placeholder_eq]
  exact List.cons_ne_nil _ _

/-- A text starting with a character other than an opening brace starts no placeholder. -/
theorem isPrefixOf_placeholder_of_ne {c : Char} (hc : c ≠ '{') (k : Slot) (cs : List Char) :
    k.placeholder.isPrefixOf (c :: cs) = false := by
  rw [k.placeholder_eq, List.isPrefixOf_cons_cons, Bool.and_eq_false_iff]
  exact .inl (by simpa using Ne.symm hc)

/-- A placeholder starts a text that begins with a placeholder exactly when they are the same. Two
different names part at their first letter. -/
theorem isPrefixOf_placeholder_append (j k : Slot) (rest : List Char) :
    j.placeholder.isPrefixOf (k.placeholder ++ rest) = decide (j = k) := by
  by_cases hjk : j = k
  · subst hjk
    simp
  · have hab : j.initial ≠ k.initial := fun h => hjk (Slot.eq_of_initial_eq h)
    rw [decide_eq_false hjk, j.placeholder_eq, k.placeholder_eq]
    simp [List.isPrefixOf_cons_cons, hab]

/-- A slot's placeholder is read as that slot, whatever follows. -/
theorem slotAt?_placeholder_append (k : Slot) (rest : List Char) :
    slotAt? (k.placeholder ++ rest) = some k := by
  cases k <;> simp [slotAt?, isPrefixOf_placeholder_append]

/-- A text that does not start with a brace starts no slot. -/
theorem slotAt?_of_ne {c : Char} (hc : c ≠ '{') (cs : List Char) : slotAt? (c :: cs) = none := by
  simp [slotAt?, isPrefixOf_placeholder_of_ne hc]

/-- Some placeholder starts a text exactly when the scan finds one there. -/
theorem slotAt?_isSome_iff (s : List Char) :
    (slotAt? s).isSome = true ↔ ∃ k : Slot, k.placeholder <+: s := by
  rw [slotAt?, List.find?_isSome]
  constructor
  · rintro ⟨k, -, hk⟩
    exact ⟨k, List.isPrefixOf_iff_prefix.mp hk⟩
  · rintro ⟨k, hk⟩
    exact ⟨k, by cases k <;> simp, List.isPrefixOf_iff_prefix.mpr hk⟩

/-- In the empty text every brace opens a slot. -/
theorem bracesOpenSlots_nil : BracesOpenSlots [] := fun pre rest h => by
  cases pre <;> cases h

/-- Every opening brace of a text starts a placeholder when its first one does and every one
after it does. -/
theorem bracesOpenSlots_cons_iff (c : Char) (cs : List Char) :
    BracesOpenSlots (c :: cs) ↔
      (c = '{' → ∃ k : Slot, k.placeholder <+: c :: cs) ∧ BracesOpenSlots cs := by
  constructor
  · intro h
    refine ⟨fun hc => ?_, fun pre rest hcs => h (c :: pre) rest (by rw [hcs]; rfl)⟩
    subst hc
    exact h [] cs rfl
  · rintro ⟨hhead, htail⟩ pre rest hsplit
    cases pre with
    | nil =>
      obtain ⟨rfl, rfl⟩ := List.cons.inj hsplit
      exact hhead rfl
    | cons d pre => exact htail pre rest (List.cons.inj hsplit).2

/-- The check decides that every opening brace starts a placeholder. -/
theorem bracesOpenSlots_iff : ∀ t : List Char, bracesOpenSlots t = true ↔ BracesOpenSlots t
  | [] => iff_of_true rfl bracesOpenSlots_nil
  | c :: cs => by
    rw [bracesOpenSlots, bracesOpenSlots_cons_iff, Bool.and_eq_true, bracesOpenSlots_iff cs,
      Bool.or_eq_true, bne_iff_ne, ne_eq, slotAt?_isSome_iff, ← Decidable.imp_iff_not_or]

instance : DecidablePred BracesOpenSlots := fun t => decidable_of_iff _ (bracesOpenSlots_iff t)

/-- The scan steps over a character that starts no placeholder. -/
theorem fillOnce_plain {c : Char} (hc : c ≠ '{') (value : Slot → List Char) (cs : List Char) :
    fillOnce value (c :: cs) = c :: fillOnce value cs := by
  rw [fillOnce, slotAt?_of_ne hc]

/-- The scan writes the value of a placeholder and resumes after it. -/
theorem fillOnce_placeholder (value : Slot → List Char) (k : Slot) (rest : List Char) :
    fillOnce value (k.placeholder ++ rest) = value k ++ fillOnce value rest := by
  have hscan := slotAt?_placeholder_append k rest
  rw [k.placeholder_eq, List.cons_append] at hscan ⊢
  rw [fillOnce, hscan]
  simp only [k.placeholder_eq, List.length_cons, Nat.add_sub_cancel, List.cons_append,
    List.drop_succ_cons, List.drop_left]

/-- Scanning a template built from pieces fills each placeholder piece. -/
theorem fillOnce_pieces (value : Slot → List Char) :
    ∀ {ps : List TemplatePiece}, (∀ p ∈ ps, p.Plain) →
      fillOnce value (ps.flatMap text) = ps.flatMap (fillSome (fun _ => true) value)
  | [], _ => by simp [fillOnce]
  | .plain c :: ps, h => by
    have hc : c ≠ '{' := h (.plain c) List.mem_cons_self
    rw [List.flatMap_cons, List.flatMap_cons, text, fillSome, List.singleton_append,
      fillOnce_plain hc, fillOnce_pieces value fun p hp => h p (List.mem_cons_of_mem _ hp)]
    rfl
  | .hole k :: ps, h => by
    rw [List.flatMap_cons, List.flatMap_cons, text, fillSome, if_pos rfl, fillOnce_placeholder,
      fillOnce_pieces value fun p hp => h p (List.mem_cons_of_mem _ hp)]

end Scan

section Passes

variable {r : List Char}

/-- A pass steps over text without opening braces. -/
theorem replaceAll_go_append_of_brace_free (k : Slot) {x : List Char} (hx : '{' ∉ x)
    (s : List Char) :
    replaceAll.go r k.placeholder (x ++ s) = x ++ replaceAll.go r k.placeholder s := by
  induction x with
  | nil => rfl
  | cons c cs ih =>
    have hc : c ≠ '{' := fun h => hx (h ▸ List.mem_cons_self)
    rw [List.cons_append, replaceAll.go, isPrefixOf_placeholder_of_ne hc, Bool.false_and,
      if_neg Bool.false_ne_true, ih fun h => hx (List.mem_cons_of_mem c h), List.cons_append]

/-- A pass fills its own placeholder and goes on after it. -/
theorem replaceAll_go_own (k : Slot) (s : List Char) :
    replaceAll.go r k.placeholder (k.placeholder ++ s) = r ++ replaceAll.go r k.placeholder s := by
  obtain ⟨c, cs, hk⟩ := List.exists_cons_of_ne_nil k.placeholder_ne_nil
  rw [hk, List.cons_append, replaceAll.go, if_pos (by simp), ← List.cons_append, List.drop_left]

/-- A pass steps over a placeholder of another kind. Past its opening brace nothing of the
placeholder starts another. -/
theorem replaceAll_go_other {j k : Slot} (hjk : j ≠ k) (s : List Char) :
    replaceAll.go r k.placeholder (j.placeholder ++ s) = j.placeholder ++ replaceAll.go r k.placeholder s := by
  have hstart := isPrefixOf_placeholder_append k j s
  rw [decide_eq_false (Ne.symm hjk)] at hstart
  rw [j.placeholder_eq, List.cons_append] at hstart ⊢
  have hrest : '{' ∉ j.initial :: j.tail := by
    simp only [List.mem_cons, not_or]
    exact ⟨Ne.symm j.initial_ne_brace, j.brace_not_mem_tail⟩
  rw [replaceAll.go, hstart, Bool.false_and, if_neg Bool.false_ne_true,
    replaceAll_go_append_of_brace_free k hrest]
  rfl

/-- A pass over a template built from pieces, some placeholders already filled with values
without opening braces, fills its own placeholders and keeps everything else. -/
theorem replaceAll_fillSome {done : Slot → Bool} {value : Slot → List Char} {k : Slot}
    (hk : done k = false) (hvalues : ∀ j, done j = true → '{' ∉ value j) :
    ∀ {ps : List TemplatePiece}, (∀ p ∈ ps, p.Plain) →
      replaceAll.go (value k) k.placeholder (ps.flatMap (fillSome done value)) =
        ps.flatMap (fillSome (markDone done k) value)
  | [], _ => by simp [replaceAll.go]
  | p :: ps, h => by
    have ih := replaceAll_fillSome hk hvalues fun q (hq : q ∈ ps) => h q (List.mem_cons_of_mem p hq)
    rw [List.flatMap_cons, List.flatMap_cons, ← ih]
    cases p with
    | plain c =>
      have hc : c ≠ '{' := h (.plain c) List.mem_cons_self
      exact replaceAll_go_append_of_brace_free k (x := [c]) (by simpa using Ne.symm hc) _
    | hole j =>
      by_cases hj : done j = true
      · have hmark : markDone done k j = true := by simp [markDone, hj]
        simp only [fillSome, hj, hmark, if_true]
        exact replaceAll_go_append_of_brace_free k (hvalues j hj) _
      · by_cases hjk : j = k
        · subst hjk
          have hmark : markDone done j j = true := by simp [markDone]
          simp only [fillSome, hk, hmark, Bool.false_eq_true, if_true, if_false]
          exact replaceAll_go_own j _
        · have hmark : markDone done k j = false := by simp [markDone, hj, hjk]
          simp only [fillSome, hj, hmark, Bool.false_eq_true, if_false]
          exact replaceAll_go_other hjk _

end Passes

/-- A template in which every opening brace starts a placeholder is built from plain characters
other than opening braces and placeholders. Each opening brace opens a placeholder, and the rest of
the template keeps the property. -/
theorem exists_pieces : ∀ (n : Nat) {t : List Char}, t.length ≤ n → BracesOpenSlots t →
    ∃ ps : List TemplatePiece, (∀ p ∈ ps, p.Plain) ∧ t = ps.flatMap text
  | _, [], _, _ => ⟨[], by simp, rfl⟩
  | 0, _ :: _, hn, _ => absurd hn (by simp)
  | n + 1, c :: cs, hn, h => by
    by_cases hc : c = '{'
    · subst hc
      obtain ⟨k, rest, hrest⟩ := h [] cs rfl
      have hlen : rest.length ≤ n := by
        have hsum := congrArg List.length hrest
        have hpos := List.length_pos_iff.mpr k.placeholder_ne_nil
        simp only [List.length_append, List.length_cons] at hsum hn
        omega
      have hbraces : BracesOpenSlots rest := fun pre r hr =>
        h (k.placeholder ++ pre) r (by rw [← hrest, hr, List.append_assoc])
      obtain ⟨ps, hps, rfl⟩ := exists_pieces n hlen hbraces
      exact ⟨.hole k :: ps, List.forall_mem_cons.mpr ⟨trivial, hps⟩,
        by rw [List.flatMap_cons, ← hrest]; rfl⟩
    · have hbraces : BracesOpenSlots cs := fun pre r hr => h (c :: pre) r (by rw [hr]; rfl)
      obtain ⟨ps, hps, rfl⟩ := exists_pieces n (by simpa using hn) hbraces
      exact ⟨.plain c :: ps, List.forall_mem_cons.mpr ⟨hc, hps⟩, rfl⟩

/-- Materializing a template runs the three passes over its characters. -/
theorem toList_materialize (t : String) (nonce : Nonce) (handlerHashes styleHashes : String) :
    (materialize t nonce handlerHashes styleHashes).toList =
      replaceAll.go (slotValue nonce handlerHashes styleHashes .styles) Slot.styles.placeholder
        (replaceAll.go (slotValue nonce handlerHashes styleHashes .handlers)
          Slot.handlers.placeholder
          (replaceAll.go (slotValue nonce handlerHashes styleHashes .nonce) Slot.nonce.placeholder
            t.toList)) := by
  simp only [materialize, replaceText, String.toList_ofList]
  rw [replaceAll_of_ne_nil (p := noncePlaceholder.toList) Slot.nonce.placeholder_ne_nil,
    replaceAll_of_ne_nil (p := handlerPlaceholder.toList) Slot.handlers.placeholder_ne_nil,
    replaceAll_of_ne_nil (p := stylePlaceholder.toList) Slot.styles.placeholder_ne_nil]
  rfl

/-- Three passes fill a template as one scan does when every opening brace of the template starts
a placeholder and no value holds an opening brace: no pass then joins text into a placeholder. -/
theorem materialize_eq_fillOnce {t : String} {nonce : Nonce} {handlerHashes styleHashes : String}
    (ht : BracesOpenSlots t.toList) (hn : '{' ∉ nonce.text.toList)
    (hh : '{' ∉ handlerHashes.toList) (hs : '{' ∉ styleHashes.toList) :
    (materialize t nonce handlerHashes styleHashes).toList =
      fillOnce (slotValue nonce handlerHashes styleHashes) t.toList := by
  obtain ⟨ps, hps, hpieces⟩ := exists_pieces _ (Nat.le_refl _) ht
  have hvalues : ∀ j, '{' ∉ slotValue nonce handlerHashes styleHashes j := by
    intro j
    cases j
    · exact hn
    · exact hh
    · exact hs
  have hstart : t.toList = ps.flatMap (fillSome (fun _ => false)
      (slotValue nonce handlerHashes styleHashes)) := by
    rw [hpieces]
    exact congrArg (fun f => ps.flatMap f) (funext fun p => by cases p <;> rfl)
  rw [toList_materialize, hstart, replaceAll_fillSome (k := .nonce) rfl (fun j _ => hvalues j) hps,
    replaceAll_fillSome (k := .handlers) rfl (fun j _ => hvalues j) hps,
    replaceAll_fillSome (k := .styles) rfl (fun j _ => hvalues j) hps, ← hstart, hpieces,
    fillOnce_pieces _ hps]
  exact congrArg (fun done => ps.flatMap (fillSome done _)) (funext fun j => by cases j <;> rfl)

/-- The usual template, filled with a nonce and a handler hash, is filled as by one scan. -/
theorem materialize_eq_fillOnce_of_defaultTemplate :
    BracesOpenSlots defaultTemplate.toList ∧ '{' ∉ "abc".toList ∧
      '{' ∉ "'SHA256-x' ".toList ∧ '{' ∉ "".toList ∧
      (materialize defaultTemplate ⟨"abc"⟩ "'SHA256-x' " "").toList =
        fillOnce (slotValue ⟨"abc"⟩ "'SHA256-x' " "") defaultTemplate.toList :=
  have ht : BracesOpenSlots defaultTemplate.toList := by decide +kernel
  have hn : '{' ∉ "abc".toList := by decide
  have hh : '{' ∉ "'SHA256-x' ".toList := by decide
  have hs : '{' ∉ "".toList := by decide
  ⟨ht, hn, hh, hs, materialize_eq_fillOnce ht hn hh hs⟩

/-- With no handler hashes, a style placeholder split by a handler placeholder comes together in
the second pass and the third pass fills it, where one scan keeps it as text. -/
theorem materialize_joined_placeholder :
    materialize "\x7binlinestyles\x7beventhandlerhashes\x7dhashes\x7d" ⟨"abc"⟩ "" "S" = "S" ∧
      fillOnce (slotValue ⟨"abc"⟩ "" "S")
          "\x7binlinestyles\x7beventhandlerhashes\x7dhashes\x7d".toList =
        "\x7binlinestyleshashes\x7d".toList := by
  constructor <;> decide +kernel

end StrictCsp.Policy
