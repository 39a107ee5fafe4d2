import StrictCsp.EngineError
import StrictCsp.Entropy.ChaCha

/-!
# Random sources

Nonces and style class names are drawn from a random source, which is one of:

* a script: a list of signed 64-bit values handed out in order. A draw of `n`
  bytes takes the next ⌈n/8⌉ values and writes each as eight little-endian
  bytes, the last one cut to the bytes still needed. When fewer values are
  left the draw takes none of them, and the script says what happens then:
  the draw fails with an entropy error, or the computation panics with a
  text or with a payload that is no text;
* a seeded stream: the ChaCha12 keystream of a key derived from a 64-bit
  seed, read from the position where the previous draw stopped.

A computation that draws is a `Draw`: it threads the source through, and it
stops on an engine error or on a panic while keeping the source as it was at
that point, so that the values used before the stop stay used.

Main statements: a scripted draw that succeeds uses exactly ⌈n/8⌉ values
(`remaining_drawBytes`), and one that fails uses none (`drawBytes_exhausted`).
-/

namespace StrictCsp.Entropy

/-- What a panic carries: a text, or a payload that is no text. -/
inductive PanicPayload where
  /-- A panic with a message. -/
  | text (message : String)
  /-- A panic whose payload is not a text. -/
  | other
  deriving DecidableEq, Repr

/-- What a script does when it has too few values left. -/
inductive Exhaustion where
  /-- The draw fails with an entropy error. -/
  | fails
  /-- The computation panics with the given payload. -/
  | panics (payload : PanicPayload)
  deriving DecidableEq, Repr

/-- A script of values to hand out. -/
structure Script where
  /-- The values still to be handed out, in order. -/
  values : List Int64
  /-- What happens when a draw needs more values than are left. -/
  onExhausted : Exhaustion
  deriving DecidableEq

/-- A source of random bytes. -/
inductive Source where
  /-- A scripted list of values. -/
  | scripted (script : Script)
  /-- The ChaCha12 keystream of a key, read from a byte position. -/
  | seeded (key : Vector UInt32 8) (position : Nat)
  deriving DecidableEq

/-- Why a computation that draws stopped early. -/
inductive Stop where
  /-- An engine error. -/
  | error (e : EngineError)
  /-- A panic. -/
  | panic (payload : PanicPayload)
  deriving DecidableEq, Repr

/-- A computation that draws from a random source and may stop early. -/
abbrev Draw := ExceptT Stop (StateM Source)

/-- The seeded source for a 64-bit seed. -/
def Source.ofSeed (seed : UInt64) : Source := .seeded (keyOfSeed seed) 0

/-- How many scripted values are left; a seeded stream never runs out. -/
def Source.remaining : Source → Option Nat
  | .scripted s => some s.values.length
  | .seeded _ _ => none

/-- The eight little-endian bytes of a value. -/
def int64Bytes (v : Int64) : List UInt8 :=
  (List.range 8).map fun i => (v.toUInt64 >>> (8 * i).toUInt64).toUInt8

/-- The message of a script that has run out. -/
def exhaustedMessage : String := "scripted entropy exhausted"

/-- Why a draw from an exhausted script stops. -/
def Exhaustion.stop : Exhaustion → Stop
  | .fails => .error (.entropy exhaustedMessage)
  | .panics p => .panic p

/-- The result of drawing bytes from a source, and the source afterwards. -/
def Source.draw (n : Nat) : Source → Except Stop (List UInt8) × Source
  | .scripted s =>
    let need := (n + 7) / 8
    if need ≤ s.values.length then
      (.ok (((s.values.take need).flatMap int64Bytes).take n),
        .scripted { s with values := s.values.drop need })
    else (.error s.onExhausted.stop, .scripted s)
  | .seeded key pos => (.ok (streamBytes key pos n), .seeded key (pos + n))

/-- Draws the given number of bytes. -/
def drawBytes (n : Nat) : Draw (List UInt8) :=
  ExceptT.mk (StateT.mk fun src => Id.run (pure (src.draw n)))

/-- The signed value of eight little-endian bytes. -/
def int64OfBytes (bs : List UInt8) : Int64 :=
  UInt64.toInt64 ((List.range 8).foldl (fun acc i => acc ||| ((bs.getD i 0).toUInt64 <<< (8 * i).toUInt64)) 0)

/-- Draws a signed 64-bit value from eight bytes. -/
def nextInt64 : Draw Int64 := do
  let bs ← drawBytes 8
  pure (int64OfBytes bs)

/-- The magnitude of a signed 64-bit value; the least value has magnitude 2^63. -/
def unsignedAbs (v : Int64) : Nat := v.toInt.natAbs

/-- Runs a drawing computation on a source. -/
def Draw.run {α : Type} (d : Draw α) (src : Source) : Except Stop α × Source :=
  (ExceptT.run d).run src

example : unsignedAbs (-9223372036854775808 : Int64) = 9223372036854775808 := by decide

/-- Results of computations are compared value by value, so that a run on a given source can be
decided. -/
instance instDecidableEqExcept {ε α : Type} [DecidableEq ε] [DecidableEq α] :
    DecidableEq (Except ε α)
  | .ok a, .ok b => if h : a = b then isTrue (h ▸ rfl) else isFalse fun he => h (by cases he; rfl)
  | .error a, .error b =>
    if h : a = b then isTrue (h ▸ rfl) else isFalse fun he => h (by cases he; rfl)
  | .ok _, .error _ => isFalse fun he => by cases he
  | .error _, .ok _ => isFalse fun he => by cases he

section Run

variable {α β : Type}

/-- A pure computation draws nothing. -/
@[simp] theorem Draw.run_pure (a : α) (src : Source) :
    (pure a : Draw α).run src = (.ok a, src) := rfl

/-- A sequenced computation goes on from where the first one left the source, and a stop of
the first one keeps the source as it was at the stop. -/
theorem Draw.run_bind (d : Draw α) (f : α → Draw β) (src : Source) :
    (d >>= f).run src = match d.run src with
      | (.ok a, s) => (f a).run s
      | (.error e, s) => (.error e, s) := by
  unfold Draw.run ExceptT.run StateT.run
  simp only [bind, ExceptT.bind, ExceptT.mk, StateT.bind, ExceptT.bindCont]
  cases d src with
  | mk result next => cases result <;> rfl

/-- A sequenced computation that succeeds ran both parts to success, the second from where the
first left the source. -/
theorem Draw.run_bind_eq_ok {d : Draw α} {f : α → Draw β} {src src' : Source} {b : β}
    (h : (d >>= f).run src = (.ok b, src')) :
    ∃ a mid, d.run src = (.ok a, mid) ∧ (f a).run mid = (.ok b, src') := by
  rw [Draw.run_bind] at h
  rcases hd : d.run src with ⟨_ | a, mid⟩
  · rw [hd] at h
    cases h
  · rw [hd] at h
    exact ⟨a, mid, rfl, h⟩

/-- A handler catches every stop, panics included, and runs on the source left at the stop. -/
theorem Draw.run_tryCatch (d : Draw α) (h : Stop → Draw α) (src : Source) :
    (tryCatch d h).run src = match d.run src with
      | (.ok a, s) => (.ok a, s)
      | (.error e, s) => (h e).run s := by
  unfold Draw.run ExceptT.run StateT.run
  simp only [tryCatch, MonadExcept.tryCatch, tryCatchThe, MonadExceptOf.tryCatch,
    ExceptT.tryCatch, ExceptT.mk, bind, StateT.bind]
  cases d src with
  | mk result next => cases result <;> rfl

end Run

/-- A scripted draw that succeeds uses exactly the values it needs. -/
theorem remaining_drawBytes {s : Script} {n : Nat} (h : (n + 7) / 8 ≤ s.values.length) :
    ((Source.scripted s).draw n).2.remaining = some (s.values.length - (n + 7) / 8) := by
  simp [Source.draw, h, Source.remaining]

/-- A scripted draw that fails uses no value. -/
theorem drawBytes_exhausted {s : Script} {n : Nat} (h : s.values.length < (n + 7) / 8) :
    (Source.scripted s).draw n = (.error s.onExhausted.stop, .scripted s) := by
  simp [Source.draw, Nat.not_le.mpr h]

end StrictCsp.Entropy
