/-!
# Blank characters

A character is blank when it has the Unicode White_Space property: the ASCII
tab, line feed, vertical tab, form feed, carriage return and space, the next
line control, the no-break space, the Ogham space mark, the typographic spaces
from the en quad to the hair space, the line and paragraph separators, the
narrow no-break space, the medium mathematical space and the ideographic space.
The zero-width space is not blank.

Trimming removes blank characters at both ends of a text, and a text is blank
when trimming leaves nothing: `isBlankText_iff` says so.
-/

namespace StrictCsp.Text

/-- A character is blank when it has the Unicode White_Space property. -/
def isBlank (c : Char) : Bool :=
  let n := c.toNat
  (0x09 ≤ n && n ≤ 0x0D) || n == 0x20 || n == 0x85 || n == 0xA0 || n == 0x1680 ||
    (0x2000 ≤ n && n ≤ 0x200A) || n == 0x2028 || n == 0x2029 || n == 0x202F ||
    n == 0x205F || n == 0x3000

/-- Drops the blank characters that lead a text. -/
def trimStart (s : List Char) : List Char := s.dropWhile isBlank

/-- Drops the blank characters that end a text. -/
def trimEnd (s : List Char) : List Char := ((s.reverse).dropWhile isBlank).reverse

/-- Drops the blank characters at both ends of a text. -/
def trim (s : List Char) : List Char := trimEnd (trimStart s)

/-- Trims a string at both ends. -/
def trimString (s : String) : String := String.ofList (trim s.toList)

/-- A text is blank when all its characters are blank, so that trimming leaves nothing. -/
def isBlankText (s : String) : Bool := s.toList.all isBlank

example : isBlank ' ' ∧ isBlank '\t' ∧ isBlank ' ' ∧ isBlank '　' ∧
    !isBlank '​' ∧ !isBlank 'a' := by decide

/-- Trimming an all-blank text leaves nothing. -/
theorem trimStart_eq_nil_iff (s : List Char) : trimStart s = [] ↔ s.all isBlank = true := by
  induction s with
  | nil => simp [trimStart]
  | cons c cs ih =>
    by_cases h : isBlank c = true
    · rw [show trimStart (c :: cs) = trimStart cs by simp [trimStart, h]]
      simp only [List.all_cons, h, Bool.true_and]
      exact ih
    · simp [trimStart, h]

/-- A string is blank exactly when dropping its leading blanks leaves nothing. -/
theorem isBlankText_iff (s : String) : isBlankText s = true ↔ trimStart s.toList = [] := by
  rw [isBlankText, trimStart_eq_nil_iff]

/-- A text that starts with a character that is no blank is not blank. -/
theorem trim_cons_ne_nil {c : Char} (hc : isBlank c = false) (t : List Char) :
    trim (c :: t) ≠ [] := by
  have hstart : trimStart (c :: t) = c :: t := by simp [trimStart, hc]
  rw [trim, hstart, trimEnd, ne_eq, List.reverse_eq_nil_iff]
  intro h
  have hall := (trimStart_eq_nil_iff _).mp h
  simp [hc] at hall

/-- A text trims to nothing exactly when all its characters are blanks. -/
theorem trim_eq_nil_iff (s : List Char) : trim s = [] ↔ s.all isBlank = true := by
  induction s with
  | nil => simp [trim, trimStart, trimEnd]
  | cons c cs ih =>
    by_cases hc : isBlank c = true
    · have hdrop : trim (c :: cs) = trim cs := by simp [trim, trimStart, hc]
      rw [hdrop, ih, List.all_cons, hc, Bool.true_and]
    · have hc' : isBlank c = false := by simpa using hc
      simp [trim_cons_ne_nil hc' cs, hc']

end StrictCsp.Text
