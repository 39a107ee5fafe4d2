import StrictCsp.Crypto.Sha2
import StrictCsp.EngineError
import StrictCsp.Markup.Entity.Codec
import StrictCsp.Text.Base64
import StrictCsp.Text.Blank
import StrictCsp.Text.Fold

/-!
# Digests of inline code

A policy allows an inline event handler or style by the digest of its text.
The text is first decoded (character references become characters, since the
browser hashes what it runs), then hashed as UTF-8 with SHA-256, SHA-384 or
SHA-512, and written as the algorithm's name, a dash and the Base64 hash, for
example `SHA256-…`.

An algorithm is named after trimming blanks, raising ASCII letters and
dropping every dash, so ` sha-256 ` names SHA-256; any other name is an
unsupported algorithm, reported with the name exactly as given.

A digest set keeps digests sorted and without repeats, and renders them each
in single quotes followed by a blank.

The set carries its own order (`DigestSet.sorted`), which every insertion keeps
(`pairwise_insertSorted`). Main statement: an insertion holds exactly the digest
inserted and the digests before (`mem_insert_iff`).
-/

namespace StrictCsp.Policy

open StrictCsp.Text StrictCsp.Crypto

/-- The hash algorithms a policy can use. -/
inductive HashAlgorithm where
  | sha256
  | sha384
  | sha512
  deriving DecidableEq, Repr

namespace HashAlgorithm

/-- The name written in front of a digest. -/
def label : HashAlgorithm → String
  | .sha256 => "SHA256"
  | .sha384 => "SHA384"
  | .sha512 => "SHA512"

/-- The hash of a message. -/
def hash : HashAlgorithm → List UInt8 → List UInt8
  | .sha256 => Sha2.sha256
  | .sha384 => Sha2.sha384
  | .sha512 => Sha2.sha512

/-- The canonical spelling of a name: trimmed, ASCII letters raised, dashes dropped. -/
def canonicalName (name : String) : String :=
  String.ofList (((trim name.toList).map asciiUpper).filter (· != '-'))

/-- Reads the name of an algorithm. -/
def parse (name : String) : Except EngineError HashAlgorithm :=
  match canonicalName name with
  | "SHA256" => .ok .sha256
  | "SHA384" => .ok .sha384
  | "SHA512" => .ok .sha512
  | _ => .error (.unsupportedHashAlgorithm name)

end HashAlgorithm

/-- The UTF-8 bytes of a text. -/
def utf8Bytes (s : String) : List UInt8 := s.toUTF8.toList

/-- The digest of an inline text: its references decoded, hashed and written in Base64. -/
def digestOf (alg : HashAlgorithm) (raw : String) : String :=
  alg.label ++ "-" ++ Base64.encode (alg.hash (utf8Bytes (Markup.Entity.decodeText raw)))

/-- A set of digests, kept sorted and without repeats. -/
structure DigestSet where
  /-- The digests in ascending order. -/
  digests : List String := []
  /-- Each digest comes before the next, so none repeats. -/
  sorted : digests.Pairwise (· < ·) := by exact List.Pairwise.nil
  deriving DecidableEq, Repr

namespace DigestSet

/-- Inserts a digest into a sorted list; tells whether it was new. -/
def insertSorted (d : String) : List String → Bool × List String
  | [] => (true, [d])
  | x :: xs =>
    if d < x then (true, d :: x :: xs)
    else if d = x then (false, x :: xs)
    else
      let (fresh, rest) := insertSorted d xs
      (fresh, x :: rest)

section InsertSorted

variable {d e : String}

/-- Inserting into a list holds the digest inserted and the digests of the list. -/
theorem mem_insertSorted_iff :
    ∀ {xs : List String}, e ∈ (insertSorted d xs).2 ↔ e = d ∨ e ∈ xs
  | [] => by simp [insertSorted]
  | x :: xs => by
    simp only [insertSorted]
    split
    · simp
    · split
      · rename_i heq
        subst heq
        simp
      · simp [mem_insertSorted_iff, or_left_comm]

/-- Inserting into a strictly ascending list keeps it strictly ascending. -/
theorem pairwise_insertSorted : ∀ {xs : List String}, xs.Pairwise (· < ·) →
    (insertSorted d xs).2.Pairwise (· < ·)
  | [], _ => by simp [insertSorted]
  | x :: xs, hs => by
    obtain ⟨hx, hrest⟩ := List.pairwise_cons.mp hs
    simp only [insertSorted]
    split
    · rename_i hlt
      refine List.pairwise_cons.mpr ⟨fun y hy => ?_, hs⟩
      rcases List.mem_cons.mp hy with rfl | hy
      · exact hlt
      · exact String.lt_trans hlt (hx y hy)
    · split
      · exact hs
      · rename_i hnlt hne
        have hxd : x < d := Std.lt_of_le_of_ne (String.not_lt.mp hnlt) (Ne.symm hne)
        refine List.pairwise_cons.mpr ⟨fun y hy => ?_, pairwise_insertSorted hrest⟩
        rcases mem_insertSorted_iff.mp hy with rfl | hy
        · exact hxd
        · exact hx y hy

end InsertSorted

/-- Inserts a digest; tells whether it was new. -/
def insert (d : String) (s : DigestSet) : Bool × DigestSet :=
  let r := insertSorted d s.digests
  (r.1, ⟨r.2, pairwise_insertSorted s.sorted⟩)

/-- Inserts a digest and forgets whether it was new. -/
def add (s : DigestSet) (d : String) : DigestSet := (s.insert d).2

/-- The number of digests. -/
def size (s : DigestSet) : Nat := s.digests.length

/-- Whether the set holds no digest. -/
def isEmpty (s : DigestSet) : Bool := s.digests.isEmpty

/-- The digests as they stand in a policy: each in single quotes and followed by a blank. -/
def render (s : DigestSet) : String :=
  String.join (s.digests.map fun d => "'" ++ d ++ "' ")

/-- An insertion holds the digest inserted and the digests before. -/
theorem mem_insert_iff {d e : String} {s : DigestSet} :
    e ∈ (s.insert d).2.digests ↔ e = d ∨ e ∈ s.digests :=
  mem_insertSorted_iff

end DigestSet

end StrictCsp.Policy
