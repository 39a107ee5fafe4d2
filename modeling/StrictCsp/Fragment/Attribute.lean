import StrictCsp.Fragment.Token

/-!
# Attributes of an opening tag

The attributes of a tag are read leniently, as HTML allows, one character at a
time after the tag's name:

* blanks separate attributes; a key starts at any other character, even `=`
  or a quote, and runs to the next `=` or blank;
* a key not followed by `=` (after optional blanks) has the empty value, and
  the next character that is neither blank nor `=` starts the next key;
* after `=` and optional blanks, a value in single or double quotes runs to
  the matching quote, and any other value runs to the next blank;
* a key may appear more than once.

Reading fails when `=` is followed by nothing but blanks, or when a quoted
value is not closed.

Main statement: the keys read are never empty (`key_ne_nil`).
-/

namespace StrictCsp.Fragment

/-- An attribute as written: its key and its value, without quotes. -/
structure Attribute where
  /-- The key, as written. -/
  key : List Char
  /-- The value, as written between its quotes, or empty for a bare key. -/
  value : List Char
  deriving DecidableEq, Repr

/-- Why the attributes of a tag could not be read. -/
inductive AttributeFault where
  /-- An equals sign is followed by no value. -/
  | missingValue
  /-- A quoted value is not closed. -/
  | unclosedQuote
  deriving DecidableEq, Repr

/-- Where the attribute reader stands; keys and values are kept latest first. -/
inductive AttrMode where
  /-- Between attributes. -/
  | between
  /-- Inside a key. -/
  | key (latest : List Char)
  /-- After a key and some blanks. -/
  | afterKey (key : List Char)
  /-- After an equals sign and optional blanks. -/
  | afterEquals (key : List Char)
  /-- Inside a quoted value. -/
  | quoted (key : List Char) (quote : Char) (latest : List Char)
  /-- Inside an unquoted value. -/
  | bare (key : List Char) (latest : List Char)

/-- The attribute made of a key and a value kept latest first. -/
def attributeOf (key value : List Char) : Attribute := ⟨key.reverse, value.reverse⟩

/-- What one character does to the attribute reader: maybe an attribute, and the next mode. -/
def AttrMode.step : AttrMode → Char → Option Attribute × AttrMode
  | .between, c => if isMarkupBlank c then (none, .between) else (none, .key [c])
  | .key k, c =>
    if c = '=' then (none, .afterEquals k)
    else if isMarkupBlank c then (none, .afterKey k)
    else (none, .key (c :: k))
  | .afterKey k, c =>
    if isMarkupBlank c then (none, .afterKey k)
    else if c = '=' then (none, .afterEquals k)
    else (some (attributeOf k []), .key [c])
  | .afterEquals k, c =>
    if isMarkupBlank c then (none, .afterEquals k)
    else if c = '"' ∨ c = '\'' then (none, .quoted k c [])
    else (none, .bare k [c])
  | .quoted k q v, c => if c = q then (some (attributeOf k v), .between) else (none, .quoted k q (c :: v))
  | .bare k v, c =>
    if isMarkupBlank c then (some (attributeOf k v), .between) else (none, .bare k (c :: v))

/-- How the attribute reader finishes at the end of the text. -/
def AttrMode.finish : AttrMode → Except AttributeFault (List Attribute)
  | .between => .ok []
  | .key k | .afterKey k => .ok [attributeOf k []]
  | .afterEquals _ => .error .missingValue
  | .quoted _ _ _ => .error .unclosedQuote
  | .bare k v => .ok [attributeOf k v]

/-- Reads attributes from a mode to the end of the text. -/
def readAttributes : AttrMode → List Char → Except AttributeFault (List Attribute)
  | m, [] => m.finish
  | m, c :: cs =>
    match m.step c with
    | (some a, m') => (readAttributes m' cs).map (a :: ·)
    | (none, m') => readAttributes m' cs

/-- The attributes of an opening tag. -/
def OpenTag.attributes (t : OpenTag) : Except AttributeFault (List Attribute) :=
  readAttributes .between t.attributeText

/-- The keys a mode holds are never empty, so neither are the keys it reads. -/
def AttrMode.KeysOk : AttrMode → Prop
  | .between => True
  | .key k | .afterKey k | .afterEquals k | .quoted k _ _ | .bare k _ => k ≠ []

/-- Every key a mode holds, kept latest first, has a property. -/
def AttrMode.KeysSatisfy (P : List Char → Prop) : AttrMode → Prop
  | .between => True
  | .key k | .afterKey k | .afterEquals k | .quoted k _ _ | .bare k _ => P k

section Keys

variable {P : List Char → Prop} (hfirst : ∀ c, isMarkupBlank c = false → P [c])
  (hgrow : ∀ k c, P k → c ≠ '=' → isMarkupBlank c = false → P (c :: k))
include hfirst hgrow

/-- A property of keys that holds of every key's first character and survives each further
character of a key holds of every key a step gives. -/
theorem AttrMode.step_keysSatisfy {m : AttrMode} (hm : m.KeysSatisfy P) (c : Char) :
    (m.step c).2.KeysSatisfy P ∧ ∀ a, (m.step c).1 = some a → P a.key.reverse := by
  cases m with
  | between =>
    simp only [step]
    split
    · simp [KeysSatisfy]
    · rename_i hc
      exact ⟨hfirst c (by simpa using hc), by simp⟩
  | key k =>
    simp only [step]
    split
    · exact ⟨hm, by simp⟩
    · split
      · exact ⟨hm, by simp⟩
      · rename_i heq hc
        exact ⟨hgrow k c hm heq (by simpa using hc), by simp⟩
  | afterKey k =>
    simp only [step]
    split
    · exact ⟨hm, by simp⟩
    · split
      · exact ⟨hm, by simp⟩
      · rename_i hc _
        refine ⟨hfirst c (by simpa using hc), ?_⟩
        simp only [Option.some.injEq]
        rintro a rfl
        simpa [attributeOf, KeysSatisfy] using hm
  | afterEquals k =>
    simp only [step]
    split
    · exact ⟨hm, by simp⟩
    · split
      · exact ⟨hm, by simp⟩
      · exact ⟨hm, by simp⟩
  | quoted k q v =>
    simp only [step]
    split
    · simp only [KeysSatisfy, Option.some.injEq, true_and]
      rintro a rfl
      simpa [attributeOf, KeysSatisfy] using hm
    · exact ⟨hm, by simp⟩
  | bare k v =>
    simp only [step]
    split
    · simp only [KeysSatisfy, Option.some.injEq, true_and]
      rintro a rfl
      simpa [attributeOf, KeysSatisfy] using hm
    · exact ⟨hm, by simp⟩

/-- Such a property holds of every key read. -/
theorem readAttributes_keysSatisfy : ∀ (m : AttrMode) (s : List Char) (as : List Attribute),
    m.KeysSatisfy P → readAttributes m s = .ok as → ∀ a ∈ as, P a.key.reverse
  | m, [], as, hm, h => by
    cases m <;> simp only [readAttributes, AttrMode.finish] at h <;> cases h <;>
      simp_all [AttrMode.KeysSatisfy, attributeOf]
  | m, c :: cs, as, hm, h => by
    have hs := AttrMode.step_keysSatisfy hfirst hgrow hm c
    simp only [readAttributes] at h
    split at h
    · rename_i a m' he
      rw [he] at hs
      cases hr : readAttributes m' cs with
      | error e => rw [hr] at h; cases h
      | ok rest =>
        rw [hr] at h
        cases h
        intro x hx
        rcases List.mem_cons.mp hx with rfl | hx
        · exact hs.2 x rfl
        · exact readAttributes_keysSatisfy m' cs rest hs.1 hr x hx
    · rename_i m' he
      rw [he] at hs
      exact readAttributes_keysSatisfy m' cs as hs.1 h

end Keys

/-- Keys are fine exactly when every key read is nonempty. -/
theorem AttrMode.keysOk_iff (m : AttrMode) : m.KeysOk ↔ m.KeysSatisfy (· ≠ []) := by
  cases m <;> exact Iff.rfl

/-- A key is read from its first character on, so no key read is empty. -/
theorem readAttributes_key_ne_nil : ∀ (m : AttrMode) (s : List Char) (as : List Attribute),
    m.KeysOk → readAttributes m s = .ok as → ∀ a ∈ as, a.key ≠ [] := by
  intro m s as hm h a ha
  have hkey := readAttributes_keysSatisfy (fun c _ => List.cons_ne_nil c [])
    (fun k c _ _ _ => List.cons_ne_nil c k) m s as ((AttrMode.keysOk_iff m).mp hm) h a ha
  simpa using hkey

/-- The keys of the attributes of a tag are never empty. -/
theorem key_ne_nil {t : OpenTag} {as : List Attribute} (h : t.attributes = .ok as) :
    ∀ a ∈ as, a.key ≠ [] :=
  readAttributes_key_ne_nil .between _ as trivial h

end StrictCsp.Fragment
