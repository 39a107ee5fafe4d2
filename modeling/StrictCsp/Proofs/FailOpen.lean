import StrictCsp.Processor

/-!
# Fail-open processing over a sequence of responses

A processor serves response after response and draws every nonce and class
name from one shared random source. One step either skips the response
without drawing, or serves what the direct way produced, or, when the direct
way stopped with an engine error or a panic of any payload, serves the
response as it came without headers. The source afterwards is the one the
direct way left at its success or at its stop.

`FailOpenRun` states that contract for a whole sequence, threading nothing but
the source from one step to the next. The main statement is that serving a
sequence never stops and that its answers and final source are exactly the
ones `FailOpenRun` relates (`serve_failsOpen`).
-/

namespace StrictCsp.Processor

open Entropy

/-- One processor answering a sequence of responses in order, on one shared source. -/
def serve (p : Processor) : List (List Char × Bool) → Draw (List Processed)
  | [] => pure []
  | (body, eligible) :: rest => do
    let r ← p.process body eligible
    let rs ← p.serve rest
    pure (r :: rs)

/-- The contract of processing over a sequence of responses, each given with the caller's
verdict on its eligibility; only the source carries from one step to the next. -/
inductive FailOpenRun (p : Processor) :
    Source → List (List Char × Bool) → List Processed → Source → Prop where
  /-- Nothing left to serve. -/
  | done (src : Source) : FailOpenRun p src [] [] src
  /-- A skipped response is served as it came, without drawing. -/
  | skipped {src fin : Source} {body : List Char} {eligible : Bool}
      {rest : List (List Char × Bool)} {outs : List Processed} :
      p.skips eligible = true → FailOpenRun p src rest outs fin →
      FailOpenRun p src ((body, eligible) :: rest) (.unchanged body .skipped :: outs) fin
  /-- A response whose hardening and assembly succeeded is served as assembled. -/
  | hardened {src mid fin : Source} {body : List Char} {eligible : Bool}
      {rest : List (List Char × Bool)} {outs : List Processed} {a : Policy.Assembled} :
      p.skips eligible = false → (p.tryProcess body).run src = (.ok a, mid) →
      FailOpenRun p mid rest outs fin →
      FailOpenRun p src ((body, eligible) :: rest) (⟨a.body, a.headers, .hardened⟩ :: outs) fin
  /-- A response whose hardening or assembly stopped, by an error or a panic, is served as it
  came, and what was drawn before the stop stays drawn. -/
  | failedOpen {src mid fin : Source} {body : List Char} {eligible : Bool}
      {rest : List (List Char × Bool)} {outs : List Processed} {stop : Stop} :
      p.skips eligible = false → (p.tryProcess body).run src = (.error stop, mid) →
      FailOpenRun p mid rest outs fin →
      FailOpenRun p src ((body, eligible) :: rest) (.unchanged body .failedOpen :: outs) fin

/-- One step: skipped without drawing, or the direct way's answer, with every stop of the
direct way served as the response that came. -/
theorem process_run (p : Processor) (body : List Char) (eligible : Bool) (src : Source) :
    (p.process body eligible).run src =
      if p.skips eligible then (.ok (.unchanged body .skipped), src)
      else match (p.tryProcess body).run src with
        | (.ok a, s) => (.ok ⟨a.body, a.headers, .hardened⟩, s)
        | (.error _, s) => (.ok (.unchanged body .failedOpen), s) := by
  unfold process
  split
  · rfl
  · rw [Draw.run_tryCatch, Draw.run_bind]
    rcases (p.tryProcess body).run src with ⟨_ | a, s⟩ <;> rfl

/-- A response that was not hardened is served as it came, without headers. -/
theorem process_unchanged_of_not_hardened {p : Processor} {body : List Char} {eligible : Bool}
    {src s : Source} {r : Processed} (h : (p.process body eligible).run src = (.ok r, s))
    (hr : r.outcome ≠ .hardened) : r.body = body ∧ r.headers = [] := by
  rw [process_run] at h
  split at h
  · cases h
    exact ⟨rfl, rfl⟩
  · split at h
    · cases h
      exact absurd rfl hr
    · cases h
      exact ⟨rfl, rfl⟩

/-- Serving a nonempty sequence is one step followed by the rest on the source it left. -/
theorem serve_cons (p : Processor) (body : List Char) (eligible : Bool)
    (rest : List (List Char × Bool)) (src : Source) :
    (p.serve ((body, eligible) :: rest)).run src =
      match (p.process body eligible).run src with
      | (.ok r, s) => match (p.serve rest).run s with
        | (.ok rs, s') => (.ok (r :: rs), s')
        | (.error e, s') => (.error e, s')
      | (.error e, s) => (.error e, s) := by
  rw [serve, Draw.run_bind]
  rcases (p.process body eligible).run src with ⟨_ | r, s⟩
  · rfl
  · simp only
    rw [Draw.run_bind]
    rcases (p.serve rest).run s with ⟨_ | rs, s'⟩ <;> rfl

/-- Serving a sequence never stops, and its answers follow the contract step by step. -/
theorem serve_failOpenRun (p : Processor) :
    ∀ (steps : List (List Char × Bool)) (src : Source),
      ∃ outs fin, (p.serve steps).run src = (.ok outs, fin) ∧ FailOpenRun p src steps outs fin
  | [], src => ⟨[], src, rfl, .done src⟩
  | (body, eligible) :: rest, src => by
    rw [serve_cons, process_run]
    cases hskip : p.skips eligible with
    | true =>
      obtain ⟨outs, fin, hrun, hrel⟩ := serve_failOpenRun p rest src
      simp only [if_true, hrun]
      exact ⟨_, fin, rfl, .skipped hskip hrel⟩
    | false =>
      simp only [Bool.false_eq_true, if_false]
      rcases htry : (p.tryProcess body).run src with ⟨_ | a, mid⟩
      · obtain ⟨outs, fin, hrun, hrel⟩ := serve_failOpenRun p rest mid
        simp only [hrun]
        exact ⟨_, fin, rfl, .failedOpen hskip htry hrel⟩
      · obtain ⟨outs, fin, hrun, hrel⟩ := serve_failOpenRun p rest mid
        simp only [hrun]
        exact ⟨_, fin, rfl, .hardened hskip htry hrel⟩

/-- The contract relates a sequence and a source to one list of answers and one final source. -/
theorem FailOpenRun.unique {p : Processor} {src fin fin' : Source}
    {steps : List (List Char × Bool)} {outs outs' : List Processed}
    (h : FailOpenRun p src steps outs fin) (h' : FailOpenRun p src steps outs' fin') :
    outs = outs' ∧ fin = fin' := by
  induction h generalizing outs' fin' with
  | done => cases h'; exact ⟨rfl, rfl⟩
  | skipped hs _ ih =>
    cases h' with
    | skipped _ hr => obtain ⟨rfl, rfl⟩ := ih hr; exact ⟨rfl, rfl⟩
    | hardened hs' => simp [hs] at hs'
    | failedOpen hs' => simp [hs] at hs'
  | hardened hs ht _ ih =>
    cases h' with
    | skipped hs' => simp [hs] at hs'
    | hardened _ ht' hr =>
      rw [ht] at ht'
      cases ht'
      obtain ⟨rfl, rfl⟩ := ih hr
      exact ⟨rfl, rfl⟩
    | failedOpen _ ht' => rw [ht] at ht'; cases ht'
  | failedOpen hs ht _ ih =>
    cases h' with
    | skipped hs' => simp [hs] at hs'
    | hardened _ ht' => rw [ht] at ht'; cases ht'
    | failedOpen _ ht' hr =>
      rw [ht] at ht'
      cases ht'
      obtain ⟨rfl, rfl⟩ := ih hr
      exact ⟨rfl, rfl⟩

/-- Serving any sequence of responses on one processor never stops, and its answers and final
source are exactly the ones the fail-open contract relates to the sequence. -/
theorem serve_failsOpen (p : Processor) (steps : List (List Char × Bool)) (src : Source) :
    (∃ outs fin, (p.serve steps).run src = (.ok outs, fin)) ∧
      ∀ outs fin, (p.serve steps).run src = (.ok outs, fin) ↔ FailOpenRun p src steps outs fin := by
  obtain ⟨outs, fin, hrun, hrel⟩ := serve_failOpenRun p steps src
  refine ⟨⟨outs, fin, hrun⟩, fun outs' fin' => ⟨fun h => ?_, fun h => ?_⟩⟩
  · rw [hrun] at h
    cases h
    exact hrel
  · obtain ⟨rfl, rfl⟩ := hrel.unique h
    exact hrun

end StrictCsp.Processor
