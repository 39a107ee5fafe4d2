/-!
# Caseless matching of pattern letters

The markup patterns are written with lowercase ASCII letters and match text
without regard to case under Unicode simple case folding. Folding puts every
ASCII letter in one class with its other case, and adds two characters outside
ASCII: the Kelvin sign joins `k` and the long s joins `s`. No other character
folds onto an ASCII letter, so `foldEq c x` decides whether a text character
`c` matches a pattern character `x`, and `isFoldedLetter` decides membership
in the letter range `a` to `z` read caselessly.
-/

namespace StrictCsp.Text

/-- The Kelvin sign, which folds onto the letter k. -/
def kelvinSign : Char := 'K'

/-- The long s, which folds onto the letter s. -/
def longS : Char := 'ſ'

/-- Lowers an ASCII capital letter and keeps every other character. -/
def asciiLower (c : Char) : Char := c.toLower

/-- Lowering keeps the UTF-8 size of a character: only ASCII capitals change, into ASCII. -/
theorem utf8Size_asciiLower (c : Char) : (asciiLower c).utf8Size = c.utf8Size := by
  unfold asciiLower Char.toLower
  split
  · rename_i h
    have hz : c.toNat ≤ 90 := by simpa using UInt32.le_iff_toNat_le.mp h.2
    rw [Char.utf8Size_eq_one_iff.mpr, Char.utf8Size_eq_one_iff.mpr]
    · exact UInt32.le_iff_toNat_le.mpr (by simp; omega)
    · show c.val + 32 ≤ 127
      exact UInt32.le_iff_toNat_le.mpr (by simp [UInt32.toNat_add]; omega)
  · rfl

/-- Raises an ASCII small letter and keeps every other character. -/
def asciiUpper (c : Char) : Char := c.toUpper

/-- A text character matches a pattern character under simple case folding;
pattern letters are lowercase ASCII. -/
def foldEq (c x : Char) : Bool :=
  c == x ||
    (x.isLower && (asciiLower c == x || (x == 'k' && c == kelvinSign) || (x == 's' && c == longS)))

/-- Every character matches itself. -/
@[simp] theorem foldEq_self (c : Char) : foldEq c c = true := by simp [foldEq]

/-- A character lies in the letter range a to z read caselessly. -/
def isFoldedLetter (c : Char) : Bool := c.isAlpha || c == kelvinSign || c == longS

/-- Two texts are equal when ASCII letters are compared without case. -/
def asciiCaselessEq (a b : List Char) : Bool := a.map asciiLower == b.map asciiLower

example : foldEq 'S' 's' ∧ foldEq longS 's' ∧ foldEq kelvinSign 'k' ∧ foldEq ':' ':' ∧
    !foldEq 'İ' 'i' ∧ !foldEq 'K' 's' := by decide

/-- A character that folds onto a letter other than k or s is that letter in one of its two
ASCII cases. -/
theorem foldEq_ascii {c x : Char} (h : foldEq c x = true) (hk : x ≠ 'k') (hs : x ≠ 's') :
    c = x ∨ asciiLower c = x := by
  simp only [foldEq, Bool.or_eq_true, beq_iff_eq, Bool.and_eq_true] at h
  rcases h with h | ⟨_, (h | ⟨h, _⟩) | ⟨h, _⟩⟩
  · exact Or.inl h
  · exact Or.inr h
  · exact absurd h hk
  · exact absurd h hs

end StrictCsp.Text
