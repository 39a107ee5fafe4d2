import StrictCsp.Text.Float

/-!
# Jaro similarity

The Jaro similarity of two texts compares their common characters. A
character of the first text matches the first still unmatched equal character
of the second that lies at most one less than half the longer length away.
With `m` matches and `t` of them out of order (counted in pairs), the
similarity is `((m / a + m / b) + (m - t) / m) / 3` for lengths `a` and `b`. Two
empty texts are fully similar, and an empty text is not similar to any other.

The value is computed as binary64 arithmetic computes it: every quotient and
every sum is rounded to the nearest binary64 value, and the threshold of seven
tenths is the binary64 value nearest to it. So `3 / 5 + 3 / 6 + 3 / 3`, which
is exactly `2.1`, gives a similarity just above seven tenths. Each rounded value
is kept as an exact fraction, so comparing two of them never rounds again.
-/

namespace StrictCsp.Text

/-- Marks which characters of two texts match: the flags of the first and of the second. -/
def jaroMarks (a b : List Char) : List Bool × List Bool :=
  let window := max a.length b.length / 2 - 1
  let (aFlags, bFlags) := a.zipIdx.foldl (fun (af, bf) (c, i) =>
    let lo := i - window
    let hi := min b.length (i + window + 1)
    match (List.range' lo (hi - lo)).find? (fun j => b[j]? == some c && bf[j]? == some false) with
    | some j => (true :: af, bf.set j true)
    | none => (false :: af, bf)) ([], List.replicate b.length false)
  (aFlags.reverse, bFlags)

/-- The characters of a text whose flag is set, in order. -/
def marked (s : List Char) (flags : List Bool) : List Char :=
  (s.zip flags).filterMap fun (c, f) => if f then some c else none

/-- The binary64 value nearest to a fraction, as a fraction. -/
def nearest (num den : Nat) : Nat × Nat :=
  match Float.roundFraction num den with
  | some b => b.fraction
  | none => (1, 0)

/-- The binary64 value nearest to the sum of two fractions, as a fraction. -/
def nearestSum (x y : Nat × Nat) : Nat × Nat := nearest (x.1 * y.2 + y.1 * x.2) (x.2 * y.2)

/-- The Jaro similarity of two texts in binary64 arithmetic, as a fraction: numerator and
denominator. -/
def similarity (a b : List Char) : Nat × Nat :=
  if a.isEmpty && b.isEmpty then (1, 1)
  else if a.isEmpty || b.isEmpty then (0, 1)
  else
    let (af, bf) := jaroMarks a b
    let ma := marked a af
    let mb := marked b bf
    let m := ma.length
    if m = 0 then (0, 1)
    else
      let t := ((ma.zip mb).filter fun (x, y) => x != y).length / 2
      let sum := nearestSum (nearestSum (nearest m a.length) (nearest m b.length)) (nearest (m - t) m)
      nearest sum.1 (sum.2 * 3)

/-- Whether one fraction is below another. -/
def fractionLt (x y : Nat × Nat) : Bool := x.1 * y.2 < y.1 * x.2

/-- The candidate most similar to a text, if any is more than seven tenths similar; among
equally similar candidates the last one wins. -/
def mostSimilar (s : String) (candidates : List String) : Option String :=
  let scored := candidates.filterMap fun c =>
    let v := similarity s.toList c.toList
    if fractionLt (nearest 7 10) v then some (v, c) else none
  (scored.foldl (fun best (v, c) =>
    match best with
    | some (bv, _) => if fractionLt v bv then best else some (v, c)
    | none => some (v, c)) none).map (·.2)

example : mostSimilar "jsn" ["config", "nonce", "json", "help", "version"] = some "json" := by
  decide

example : mostSimilar "bogus" ["config", "nonce", "json", "help", "version"] = none := by decide

example : mostSimilar "cccfg" ["config", "nonce", "json", "help", "version"] = some "config" := by
  decide

end StrictCsp.Text
