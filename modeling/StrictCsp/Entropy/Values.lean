import StrictCsp.Entropy.Source

/-!
# Drawing values up front

`drawValues n` draws `n` signed 64-bit values one after another, and the first
draw that fails stops it with nothing drawn after. A computation that draws
only values, and whose control flow does not depend on them, is the same as
drawing all its values up front and then computing from them without drawing:
`afterValues n k` draws `n` values and gives what `k` makes of them.

Main statements: such computations run one after another draw the values of
both, the first computation's values first (`Draw.UpFront.bind`); and a draw
that fails stops with an error that leaving part of a response unchanged does
not recover from (`drawValues_run_error`).
-/

namespace StrictCsp.Entropy

/-- Draws the given number of signed values, one after another. -/
def drawValues : Nat → Draw (List Int64)
  | 0 => pure []
  | n + 1 => do
    let v ← nextInt64
    let vs ← drawValues n
    pure (v :: vs)

/-- Draws the given number of values up front, then gives what a function makes of them without
drawing. -/
def afterValues {α : Type} (n : Nat) (k : List Int64 → Except Stop α) : Draw α := do
  let vs ← drawValues n
  match k vs with
  | .ok a => pure a
  | .error e => throw e

/-- A computation draws `n` values up front: on every source it runs as drawing them and then
computing `k` from them. -/
def Draw.UpFront {α : Type} (d : Draw α) (n : Nat) (k : List Int64 → Except Stop α) : Prop :=
  ∀ src, d.run src = (afterValues n k).run src

/-- A stop that no part of a response can be left unchanged for: an error that cannot be recovered
from, or a panic. -/
def Stop.Fatal : Stop → Prop
  | .error e => e.isDegradable = false
  | .panic _ => True

section Run

variable {α β : Type}

/-- A draw that throws stops with its error and leaves the source as it was. -/
theorem Draw.run_throw (e : Stop) (src : Source) :
    (throw e : Draw α).run src = (.error e, src) := rfl

/-- A computation that answers without drawing. -/
theorem Draw.run_ofExcept (x : Except Stop α) (src : Source) :
    (match x with
      | .ok a => (pure a : Draw α)
      | .error e => throw e).run src = (x, src) := by
  cases x <;> rfl

/-- With no values to draw, the continuation runs on none and the source is left alone. -/
theorem afterValues_zero_run (k : List Int64 → Except Stop α) (src : Source) :
    (afterValues 0 k).run src = (k [], src) := by
  rw [afterValues, Draw.run_bind]
  exact Draw.run_ofExcept _ _

/-- Drawing `n + 1` values up front draws one value, then `n` more. -/
theorem afterValues_succ_run (n : Nat) (k : List Int64 → Except Stop α) (src : Source) :
    (afterValues (n + 1) k).run src = match nextInt64.run src with
      | (.ok v, s) => (afterValues n fun vs => k (v :: vs)).run s
      | (.error e, s) => (.error e, s) := by
  simp only [afterValues, drawValues, bind_assoc, pure_bind]
  rw [Draw.run_bind]
  rcases nextInt64.run src with ⟨e | v, s⟩ <;> rfl

/-- Drawing values up front and then continuing runs the draw first, then the continuation on what
it drew. -/
theorem afterValues_run (n : Nat) (k : List Int64 → Except Stop α) (src : Source) :
    (afterValues n k).run src = match (drawValues n).run src with
      | (.ok vs, s) => (k vs, s)
      | (.error e, s) => (.error e, s) := by
  rw [afterValues, Draw.run_bind]
  rcases (drawValues n).run src with ⟨e | vs, s⟩
  · rfl
  · exact Draw.run_ofExcept _ _

/-- A pure draw draws no values up front. -/
theorem Draw.UpFront.pure (a : α) : (Pure.pure a : Draw α).UpFront 0 fun _ => .ok a := by
  intro src
  rw [afterValues_zero_run]
  rfl

/-- Computing further from what drew values up front draws the same values. -/
theorem Draw.UpFront.bind_pure {d : Draw α} {n : Nat} {k : List Int64 → Except Stop α}
    (h : d.UpFront n k) (g : α → β) :
    (d >>= fun a => Pure.pure (g a)).UpFront n fun vs => (k vs).map g := by
  intro src
  rw [Draw.run_bind, h, afterValues_run, afterValues_run]
  rcases (drawValues n).run src with ⟨e | vs, s⟩
  · rfl
  · simp only
    cases k vs <;> rfl

/-- The values drawn are as many as asked for. -/
theorem drawValues_length : ∀ {n : Nat} {src s : Source} {vs : List Int64},
    (drawValues n).run src = (.ok vs, s) → vs.length = n
  | 0, src, s, vs, h => by
    simp only [drawValues, Draw.run_pure, Prod.mk.injEq, Except.ok.injEq] at h
    rw [← h.1]
    rfl
  | n + 1, src, s, vs, h => by
    obtain ⟨v, mid, -, hrest⟩ := Draw.run_bind_eq_ok h
    obtain ⟨ws, mid', hws, hpure⟩ := Draw.run_bind_eq_ok hrest
    simp only [Draw.run_pure, Prod.mk.injEq, Except.ok.injEq] at hpure
    rw [← hpure.1, List.length_cons, drawValues_length hws]

/-- Drawing `m + n` values draws `m` values, then `n` more. -/
theorem drawValues_add_run (m n : Nat) (src : Source) :
    (drawValues (m + n)).run src = match (drawValues m).run src with
      | (.ok vs, s) => match (drawValues n).run s with
        | (.ok ws, s') => (.ok (vs ++ ws), s')
        | (.error e, s') => (.error e, s')
      | (.error e, s) => (.error e, s) := by
  induction m generalizing src with
  | zero =>
    simp only [Nat.zero_add, drawValues, Draw.run_pure, List.nil_append]
    rcases (drawValues n).run src with ⟨e | ws, s⟩ <;> rfl
  | succ m ih =>
    rw [Nat.add_right_comm, drawValues, drawValues, Draw.run_bind, Draw.run_bind]
    rcases nextInt64.run src with ⟨e | v, s⟩
    · rfl
    · simp only
      rw [Draw.run_bind, Draw.run_bind, ih]
      rcases (drawValues m).run s with ⟨e | vs, s₁⟩
      · rfl
      · simp only [Draw.run_pure]
        rcases (drawValues n).run s₁ with ⟨e | ws, s₂⟩ <;> rfl

/-- A computation that draws `m` values and cannot fail after them, followed by one that draws
`n` values, draws `m + n` values up front: the first `m` go to the first computation. -/
theorem Draw.UpFront.bind {d : Draw α} {e : α → Draw β} {m n : Nat} {f : List Int64 → α}
    {k : α → List Int64 → Except Stop β} (hd : d.UpFront m fun vs => .ok (f vs))
    (he : ∀ a, (e a).UpFront n (k a)) :
    (d >>= e).UpFront (m + n) fun vs => k (f (vs.take m)) (vs.drop m) := by
  intro src
  rw [Draw.run_bind, hd, afterValues_run, afterValues_run, drawValues_add_run m n src]
  rcases hm : (drawValues m).run src with ⟨err | vs, s⟩
  · rfl
  · have hlen := drawValues_length hm
    simp only
    rw [he, afterValues_run]
    rcases (drawValues n).run s with ⟨err | ws, s'⟩
    · rfl
    · simp only
      rw [List.take_left' hlen, List.drop_left' hlen]

/-- A draw of bytes fails only when a script runs out, which is fatal. -/
theorem drawBytes_run_error {n : Nat} {src s : Source} {e : Stop}
    (h : (drawBytes n).run src = (.error e, s)) : e.Fatal := by
  cases src with
  | scripted script =>
    have h' : (Source.scripted script).draw n = (.error e, s) := h
    by_cases hle : (n + 7) / 8 ≤ script.values.length
    · simp only [Source.draw, if_pos hle] at h'
      cases h'
    · simp only [Source.draw, if_neg hle, Prod.mk.injEq, Except.error.injEq] at h'
      rw [← h'.1]
      cases script.onExhausted <;> trivial
  | seeded key pos => cases h

/-- A draw of values fails only fatally. -/
theorem drawValues_run_error : ∀ {n : Nat} {src s : Source} {e : Stop},
    (drawValues n).run src = (.error e, s) → e.Fatal
  | 0, _, _, _, h => by cases h
  | n + 1, src, s, e, h => by
    rw [drawValues, Draw.run_bind] at h
    rcases hv : nextInt64.run src with ⟨e' | v, mid⟩
    · rw [hv] at h
      cases h
      rw [nextInt64, Draw.run_bind] at hv
      rcases hb : (drawBytes 8).run src with ⟨e'' | bs, mid'⟩
      · rw [hb] at hv
        cases hv
        exact drawBytes_run_error hb
      · rw [hb] at hv
        cases hv
    · rw [hv] at h
      simp only at h
      rw [Draw.run_bind] at h
      rcases hr : (drawValues n).run mid with ⟨e' | vs, mid'⟩
      · rw [hr] at h
        cases h
        exact drawValues_run_error hr
      · rw [hr] at h
        cases h

end Run

end StrictCsp.Entropy
