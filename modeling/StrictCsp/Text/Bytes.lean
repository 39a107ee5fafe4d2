/-!
# Byte offsets in a text

Positions inside a partial-response fragment are counted in bytes of the
text's UTF-8 form. A byte offset splits a text only when it falls between two
characters; an offset inside a character, or past the end, splits nothing.

Main statements: splitting at the byte length of a prefix gives back that
prefix and the rest (`splitAtByte?_append`), and every split is of this kind
(`splitAtByte?_eq_some`).
-/

namespace StrictCsp.Text

/-- The number of bytes of a text in UTF-8. -/
def byteLength : List Char → Nat
  | [] => 0
  | c :: cs => c.utf8Size + byteLength cs

/-- Splits a text at a byte offset that falls between two characters. -/
def splitAtByte? : List Char → Nat → Option (List Char × List Char)
  | s, 0 => some ([], s)
  | [], _ + 1 => none
  | c :: cs, n + 1 =>
    if c.utf8Size ≤ n + 1 then
      (splitAtByte? cs (n + 1 - c.utf8Size)).map fun (a, b) => (c :: a, b)
    else none

/-- The part of a text between two byte offsets, when both fall between characters. -/
def sliceBytes? (s : List Char) (start stop : Nat) : Option (List Char) := do
  let (_, rest) ← splitAtByte? s start
  if start ≤ stop then
    let (piece, _) ← splitAtByte? rest (stop - start)
    pure piece
  else none

/-- The text from a byte offset on, when the offset falls between characters. -/
def dropBytes? (s : List Char) (n : Nat) : Option (List Char) := (splitAtByte? s n).map (·.2)

@[simp] theorem byteLength_nil : byteLength [] = 0 := rfl

@[simp] theorem byteLength_cons (c : Char) (cs : List Char) :
    byteLength (c :: cs) = c.utf8Size + byteLength cs := rfl

@[simp] theorem byteLength_append (a b : List Char) :
    byteLength (a ++ b) = byteLength a + byteLength b := by
  induction a with
  | nil => simp
  | cons c cs ih => simp only [List.cons_append, byteLength_cons, ih, Nat.add_assoc]

/-- Every character takes at least one byte. -/
theorem utf8Size_pos (c : Char) : 0 < c.utf8Size := by
  have := Char.utf8Size_pos c
  omega

/-- Splitting at the byte length of a prefix gives back the prefix and the rest. -/
theorem splitAtByte?_append (a b : List Char) :
    splitAtByte? (a ++ b) (byteLength a) = some (a, b) := by
  induction a with
  | nil => simp [splitAtByte?]
  | cons c cs ih =>
    have hc := utf8Size_pos c
    obtain ⟨n, hn⟩ : ∃ n, c.utf8Size + byteLength cs = n + 1 := ⟨_, (Nat.succ_pred_eq_of_pos
      (Nat.lt_of_lt_of_le hc (Nat.le_add_right _ _))).symm⟩
    rw [List.cons_append, byteLength_cons, hn, splitAtByte?, if_pos (by omega)]
    have : n + 1 - c.utf8Size = byteLength cs := by omega
    rw [this, ih]
    rfl

/-- A nonempty text takes at least one byte. -/
theorem byteLength_pos {s : List Char} (h : s ≠ []) : 0 < byteLength s := by
  obtain ⟨c, cs, rfl⟩ := List.exists_cons_of_ne_nil h
  have := utf8Size_pos c
  simp only [byteLength_cons]
  omega

/-- The text after a prefix starts at the prefix's byte length. -/
theorem dropBytes?_append (a b : List Char) : dropBytes? (a ++ b) (byteLength a) = some b := by
  simp [dropBytes?, splitAtByte?_append]

/-- The bytes between the ends of two prefixes of a text are the text between them. -/
theorem sliceBytes?_append (a b c : List Char) :
    sliceBytes? (a ++ b ++ c) (byteLength a) (byteLength a + byteLength b) = some b := by
  simp [sliceBytes?, List.append_assoc, splitAtByte?_append]

/-- A text splits only at the byte length of a prefix, into that prefix and the rest. -/
theorem splitAtByte?_eq_some : ∀ {s : List Char} {n : Nat} {a b : List Char},
    splitAtByte? s n = some (a, b) → s = a ++ b ∧ byteLength a = n
  | s, 0, a, b, h => by
    simp only [splitAtByte?, Option.some.injEq, Prod.mk.injEq] at h
    obtain ⟨rfl, rfl⟩ := h
    exact ⟨rfl, rfl⟩
  | [], _ + 1, _, _, h => by cases h
  | c :: cs, n + 1, a, b, h => by
    simp only [splitAtByte?] at h
    split at h
    · rename_i hle
      obtain ⟨⟨a', b'⟩, hs, hab⟩ := Option.map_eq_some_iff.mp h
      simp only [Prod.mk.injEq] at hab
      obtain ⟨rfl, rfl⟩ := hab
      obtain ⟨rfl, hlen⟩ := splitAtByte?_eq_some hs
      refine ⟨rfl, ?_⟩
      rw [byteLength_cons, hlen]
      omega
    · cases h

/-- The text from a byte offset on follows a prefix of that byte length. -/
theorem dropBytes?_eq_some {s r : List Char} {n : Nat} (h : dropBytes? s n = some r) :
    ∃ a, s = a ++ r ∧ byteLength a = n := by
  obtain ⟨⟨a, b⟩, hs, rfl⟩ := Option.map_eq_some_iff.mp h
  exact ⟨a, splitAtByte?_eq_some hs⟩

/-- The part of a text between two byte offsets stands between prefixes of those lengths. -/
theorem sliceBytes?_eq_some {s p : List Char} {i j : Nat} (h : sliceBytes? s i j = some p) :
    ∃ a b, s = a ++ p ++ b ∧ byteLength a = i ∧ byteLength (a ++ p) = j := by
  unfold sliceBytes? at h
  rcases hsplit : splitAtByte? s i with _ | ⟨a, rest⟩
  · simp [hsplit] at h
  by_cases hle : i ≤ j
  · rcases hsplit' : splitAtByte? rest (j - i) with _ | ⟨p', b⟩
    · simp [hsplit, hle, hsplit'] at h
    simp only [hsplit, hle, hsplit', Option.bind_eq_bind, Option.bind_some, if_true,
      Option.pure_def, Option.some.injEq] at h
    subst h
    obtain ⟨rfl, ha⟩ := splitAtByte?_eq_some hsplit
    obtain ⟨rfl, hp⟩ := splitAtByte?_eq_some hsplit'
    refine ⟨a, b, by simp, ha, ?_⟩
    rw [byteLength_append, ha, hp]
    omega
  · simp [hsplit, hle] at h

end StrictCsp.Text
