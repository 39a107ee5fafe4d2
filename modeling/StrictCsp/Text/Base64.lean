/-!
# Base64 text

Bytes are written in the standard Base64 alphabet (`A`–`Z`, `a`–`z`, `0`–`9`,
`+`, `/`), three bytes to four characters, with `=` padding the last group to
four characters.

Main statements: the text has four characters for every started group of three
bytes (`encodeChars_length`), it holds no opening bracket
(`lt_not_mem_encodeChars`), and each of its characters takes one byte
(`utf8Size_of_mem_encodeChars`).
-/

namespace StrictCsp.Text.Base64

/-- The character for a six-bit value. -/
def digit (v : Nat) : Char :=
  if v < 26 then Char.ofNat (65 + v)
  else if v < 52 then Char.ofNat (97 + v - 26)
  else if v < 62 then Char.ofNat (48 + v - 52)
  else if v = 62 then '+' else '/'

/-- The characters for a group of one to three bytes. -/
def group : List UInt8 → List Char
  | [a] =>
    let n := a.toNat * 65536
    [digit (n / 262144 % 64), digit (n / 4096 % 64), '=', '=']
  | [a, b] =>
    let n := a.toNat * 65536 + b.toNat * 256
    [digit (n / 262144 % 64), digit (n / 4096 % 64), digit (n / 64 % 64), '=']
  | a :: b :: c :: _ =>
    let n := a.toNat * 65536 + b.toNat * 256 + c.toNat
    [digit (n / 262144 % 64), digit (n / 4096 % 64), digit (n / 64 % 64), digit (n % 64)]
  | [] => []

/-- The Base64 characters of a list of bytes. -/
def encodeChars : List UInt8 → List Char
  | a :: b :: c :: rest => group [a, b, c] ++ encodeChars rest
  | bs => group bs

/-- The Base64 text of a list of bytes. -/
def encode (bs : List UInt8) : String := String.ofList (encodeChars bs)

/-- Base64 writes four characters for every three bytes or part of three. -/
theorem encodeChars_length : ∀ bs : List UInt8, (encodeChars bs).length = 4 * ((bs.length + 2) / 3)
  | [] => by simp [encodeChars, group]
  | [_] => by simp [encodeChars, group]
  | [_, _] => by simp [encodeChars, group]
  | a :: b :: c :: rest => by
    simp only [encodeChars, List.length_append, encodeChars_length rest, group, List.length_cons,
      List.length_nil]
    omega

/-- No digit is an opening bracket: past the alphabet's end every value gives `/`. -/
theorem digit_ne_lt (v : Nat) : digit v ≠ '<' := by
  by_cases hv : v < 64
  · have hall : (List.range 64).all (fun w => digit w != '<') = true := by decide
    simpa using List.all_eq_true.mp hall v (List.mem_range.mpr hv)
  · have hslash : digit v = '/' := by
      unfold digit
      rw [if_neg (by omega), if_neg (by omega), if_neg (by omega), if_neg (by omega)]
    rw [hslash]
    decide

/-- A group is written in digits and padding. -/
theorem mem_group {bs : List UInt8} {c : Char} (h : c ∈ group bs) :
    (∃ v, digit v = c) ∨ c = '=' := by
  unfold group at h
  split at h <;> simp only [List.mem_cons, List.not_mem_nil, or_false] at h <;> grind

/-- Base64 text is written in digits and padding. -/
theorem mem_encodeChars {bs : List UInt8} {c : Char} (h : c ∈ encodeChars bs) :
    (∃ v, digit v = c) ∨ c = '=' := by
  revert h
  fun_induction encodeChars bs with
  | case1 a b d rest ih =>
    intro h
    exact (List.mem_append.mp h).elim mem_group ih
  | case2 bs hbs => exact mem_group

/-- Base64 never writes `<`. -/
theorem lt_not_mem_encodeChars (bs : List UInt8) : '<' ∉ encodeChars bs := by
  intro h
  rcases mem_encodeChars h with ⟨v, hv⟩ | hv
  · exact digit_ne_lt v hv
  · exact absurd hv (by decide)

/-- Every digit takes one byte in UTF-8: past the alphabet's end every value gives `/`. -/
theorem digit_utf8Size (v : Nat) : (digit v).utf8Size = 1 := by
  by_cases hv : v < 64
  · have hall : (List.range 64).all (fun w => (digit w).utf8Size == 1) = true := by decide
    simpa using List.all_eq_true.mp hall v (List.mem_range.mpr hv)
  · have hslash : digit v = '/' := by
      unfold digit
      rw [if_neg (by omega), if_neg (by omega), if_neg (by omega), if_neg (by omega)]
    rw [hslash]
    decide

/-- Base64 text is ASCII: each of its characters takes one byte. -/
theorem utf8Size_of_mem_encodeChars {bs : List UInt8} {c : Char} (h : c ∈ encodeChars bs) :
    c.utf8Size = 1 := by
  rcases mem_encodeChars h with ⟨v, rfl⟩ | rfl
  · exact digit_utf8Size v
  · decide

example : encodeChars [1, 0, 0, 0, 0, 0, 0, 0, 2, 0, 0, 0, 0, 0, 0, 0] =
    "AQAAAAAAAAACAAAAAAAAAA==".toList := by decide

end StrictCsp.Text.Base64
