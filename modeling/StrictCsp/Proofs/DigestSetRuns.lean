import StrictCsp.Policy.Harvest

/-!
# Runs of digest insertions

A digest set answers each insertion with whether the digest was new, and keeps
its digests strictly ascending. A run of insertions therefore answers "new"
exactly at the first occurrence of each digest (`insertAll_fst`), holds one
digest per such answer (`size_insertAll`), and holds every digest inserted and
nothing else (`mem_insertAll_iff`), in the ascending order every set carries.

The set compares digests as texts, character by character, where a policy
compares them byte by byte. The two orders agree on texts whose characters each
take one byte in UTF-8 (`byteLt_of_lt`), and every digest is such a text
(`utf8Size_of_mem_digestOf`).

Main statement: a run of insertions answers, counts and renders as a set
should, so each harvested digest is rendered exactly once, in ascending byte
order, whatever the order and number of the values it comes from
(`digestSet_renders_each_once`).
-/

namespace StrictCsp.Policy

open StrictCsp.Text

namespace DigestSet

@[simp] theorem size_empty : ({} : DigestSet).size = 0 := rfl

section Insert

variable {d e : String}

/-- Inserting into a strictly ascending list answers whether the digest was absent. -/
theorem insertSorted_fst : ∀ {xs : List String}, xs.Pairwise (· < ·) →
    (insertSorted d xs).1 = decide (d ∉ xs)
  | [], _ => by simp [insertSorted]
  | x :: xs, hs => by
    obtain ⟨hx, hrest⟩ := List.pairwise_cons.mp hs
    simp only [insertSorted]
    split
    · rename_i hlt
      have hnot : d ∉ x :: xs := by
        intro hmem
        rcases List.mem_cons.mp hmem with rfl | hmem
        · exact String.lt_irrefl d hlt
        · exact String.lt_asymm hlt (hx d hmem)
      simp [hnot]
    · split
      · rename_i heq
        simp [heq]
      · rename_i hne
        simp [insertSorted_fst hrest, hne]

/-- An insertion that answers "new" adds one digest, any other adds none. -/
theorem length_insertSorted : ∀ xs : List String,
    (insertSorted d xs).2.length = xs.length + if (insertSorted d xs).1 then 1 else 0
  | [] => by simp [insertSorted]
  | x :: xs => by
    simp only [insertSorted]
    split
    · simp
    · split
      · simp
      · simp [length_insertSorted xs]
        omega

variable {s : DigestSet}

/-- An insertion answers whether the digest was absent. -/
theorem insert_fst (s : DigestSet) (d : String) : (s.insert d).1 = decide (d ∉ s.digests) :=
  insertSorted_fst s.sorted

/-- Inserting a digest adds one to the size exactly when it is new. -/
theorem size_insert (s : DigestSet) (d : String) :
    (s.insert d).2.size = s.size + if (s.insert d).1 then 1 else 0 :=
  length_insertSorted s.digests

/-- A digest set is empty exactly when its size is zero. -/
theorem isEmpty_iff (s : DigestSet) : s.isEmpty = true ↔ s.size = 0 :=
  List.isEmpty_iff_length_eq_zero

end Insert

/-- Inserts digests in order, collecting each insertion's answer. -/
def insertAll : DigestSet → List String → List Bool × DigestSet
  | s, [] => ([], s)
  | s, d :: ds =>
    let step := s.insert d
    let rest := insertAll step.2 ds
    (step.1 :: rest.1, rest.2)

section Run

variable {e : String}

@[simp] theorem insertAll_nil (s : DigestSet) : insertAll s [] = ([], s) := rfl

/-- Inserting digests inserts the first, then the rest. -/
theorem insertAll_cons (s : DigestSet) (d : String) (ds : List String) :
    insertAll s (d :: ds) =
      ((s.insert d).1 :: (insertAll (s.insert d).2 ds).1, (insertAll (s.insert d).2 ds).2) :=
  rfl

/-- The set a run ends with is the one the harvest builds, forgetting the answers. -/
theorem insertAll_snd :
    ∀ (s : DigestSet) (ds : List String), (insertAll s ds).2 = ds.foldl add s
  | _, [] => rfl
  | s, d :: ds => insertAll_snd (s.insert d).2 ds

/-- After inserting digests, the set holds exactly the old digests and the new ones. -/
theorem mem_insertAll_iff : ∀ {s : DigestSet} {ds : List String},
    e ∈ (insertAll s ds).2.digests ↔ e ∈ s.digests ∨ e ∈ ds
  | _, [] => by simp
  | s, d :: ds => by
    rw [insertAll_cons, mem_insertAll_iff, mem_insert_iff, List.mem_cons, or_assoc]
    exact or_left_comm

/-- The i-th insertion of a run answers "new" exactly when its digest is neither in the set nor
among the digests inserted before it: after the head, a digest is new for the grown set as for
the run from the first one. -/
theorem insertAll_fst : ∀ (s : DigestSet) (ds : List String),
    (insertAll s ds).1 = ds.mapIdx fun i d => decide (d ∉ s.digests ∧ d ∉ ds.take i)
  | _, [] => rfl
  | s, d :: ds => by
    rw [insertAll_cons, insert_fst, insertAll_fst _ ds, List.mapIdx_cons]
    simp only [List.take_zero, List.not_mem_nil, not_false_eq_true, and_true,
      List.take_succ_cons, List.mem_cons, mem_insert_iff, not_or, and_assoc, and_left_comm]

/-- A run adds one digest per "new" answer. -/
theorem size_insertAll : ∀ (s : DigestSet) (ds : List String),
    (insertAll s ds).2.size = s.size + (insertAll s ds).1.count true
  | _, [] => by simp
  | s, d :: ds => by
    rw [insertAll_cons, size_insertAll, size_insert, List.count_cons]
    cases (s.insert d).1 <;> simp only [Bool.false_eq_true, ↓reduceIte, beq_true, BEq.rfl] <;>
      omega

/-- A repeated digest is answered "old" and kept once, in ascending order. -/
example : insertAll {} ["b", "a", "b"] = ([true, true, false], ⟨["a", "b"], by decide⟩) := by decide

end Run

end DigestSet

section ByteOrder

/-- Byte order on texts: their UTF-8 bytes compared lexicographically. -/
def ByteLt (a b : String) : Prop := utf8Bytes a < utf8Bytes b

/-- The loop listing a byte array lists its bytes from an index on behind those it has. -/
theorem byteArray_toList_loop (bs : ByteArray) (i : Nat) (r : List UInt8) :
    ByteArray.toList.loop bs i r = r.reverse ++ bs.data.toList.drop i := by
  fun_induction ByteArray.toList.loop bs i r with
  | case1 i r hi ih =>
    have hlt : i < bs.data.toList.length := by simpa using hi
    rw [ih, List.reverse_cons, List.append_assoc, List.drop_eq_getElem_cons hlt, ByteArray.get!,
      getElem!_pos bs.data i (by simpa using hi), Array.getElem_toList]
    rfl
  | case2 i r hi =>
    have hle : bs.data.toList.length ≤ i := by simpa using hi
    simp [List.drop_eq_nil_of_le hle]

/-- A byte array lists its bytes. -/
theorem byteArray_toList (bs : ByteArray) : bs.toList = bs.data.toList := by
  simp [ByteArray.toList, byteArray_toList_loop]

/-- The bytes of a text are the UTF-8 encodings of its characters, in order. -/
theorem utf8Bytes_eq_flatMap (s : String) :
    utf8Bytes s = s.toList.flatMap String.utf8EncodeChar := by
  rw [utf8Bytes, String.toUTF8_eq_toByteArray, ← String.utf8Encode_toList, List.utf8Encode,
    byteArray_toList, List.toList_data_toByteArray]

/-- Characters of one byte each are encoded as their own values. -/
theorem flatMap_utf8EncodeChar_of_one_byte : ∀ {cs : List Char}, (∀ c ∈ cs, c.utf8Size = 1) →
    cs.flatMap String.utf8EncodeChar = cs.map fun c => c.val.toUInt8
  | [], _ => rfl
  | c :: cs, h => by
    rw [List.flatMap_cons, List.map_cons,
      String.utf8EncodeChar_eq_singleton (h c List.mem_cons_self),
      flatMap_utf8EncodeChar_of_one_byte fun c' hc' => h c' (List.mem_cons_of_mem c hc')]
    rfl

/-- Of one-byte characters, the first in code order has the lesser byte. -/
theorem toUInt8_lt_of_lt {c d : Char} (hc : c.utf8Size = 1) (hd : d.utf8Size = 1)
    (h : c < d) : c.val.toUInt8 < d.val.toUInt8 := by
  rw [Char.utf8Size_eq_one_iff, UInt32.le_iff_toNat_le] at hc hd
  rw [Char.lt_def, UInt32.lt_iff_toNat_lt] at h
  rw [UInt8.lt_iff_toNat_lt, UInt32.toNat_toUInt8, UInt32.toNat_toUInt8]
  simp only [UInt32.reduceToNat] at hc hd
  omega

/-- Lexicographic order carries over along a map that keeps the order of the letters. -/
theorem lex_map_of_lex {l₁ l₂ : List Char} (f : Char → UInt8)
    (hf : ∀ a ∈ l₁, ∀ b ∈ l₂, a < b → f a < f b) (h : l₁ < l₂) : l₁.map f < l₂.map f := by
  induction h with
  | nil => exact List.Lex.nil
  | @cons a l₁ l₂ _ ih =>
    exact List.Lex.cons
      (ih fun x hx y hy => hf x (List.mem_cons_of_mem a hx) y (List.mem_cons_of_mem a hy))
  | @rel a l₁ b l₂ hab =>
    exact List.Lex.rel (hf a List.mem_cons_self b List.mem_cons_self hab)

/-- On texts whose characters each take one byte, text order is byte order. -/
theorem byteLt_of_lt {a b : String} (ha : ∀ c ∈ a.toList, c.utf8Size = 1)
    (hb : ∀ c ∈ b.toList, c.utf8Size = 1) (h : a < b) : ByteLt a b := by
  unfold ByteLt
  rw [utf8Bytes_eq_flatMap, utf8Bytes_eq_flatMap, flatMap_utf8EncodeChar_of_one_byte ha,
    flatMap_utf8EncodeChar_of_one_byte hb]
  exact lex_map_of_lex _ (fun c hc d hd => toUInt8_lt_of_lt (ha c hc) (hb d hd)) h

/-- Every character of a digest takes one byte: the algorithm's name, a dash and Base64 text. -/
theorem utf8Size_of_mem_digestOf (alg : HashAlgorithm) (raw : String) :
    ∀ c ∈ (digestOf alg raw).toList, c.utf8Size = 1 := by
  intro c hc
  simp only [digestOf, String.toList_append, Base64.encode, String.toList_ofList,
    List.mem_append] at hc
  rcases hc with hname | hbase
  · have hall : (alg.label ++ "-").toList.all (fun c => c.utf8Size == 1) = true := by
      cases alg <;> decide
    rw [String.toList_append] at hall
    simpa using List.all_eq_true.mp hall c (List.mem_append.mpr hname)
  · exact Base64.utf8Size_of_mem_encodeChars hbase

end ByteOrder

/-- A set renders exactly the digests that have a property, each once and in ascending byte
order. -/
def DigestSet.RendersAscending (s : DigestSet) (P : String → Prop) : Prop :=
  ∃ L : List String, (∀ d, d ∈ L ↔ P d) ∧ L.Pairwise ByteLt ∧
    s.render = String.join (L.map fun d => "'" ++ d ++ "' ")

/-- A set of digests renders its own digests in ascending byte order. -/
theorem DigestSet.rendersAscending (s : DigestSet) (alg : HashAlgorithm)
    (hdig : ∀ d ∈ s.digests, ∃ raw, digestOf alg raw = d) {P : String → Prop}
    (hmem : ∀ d, d ∈ s.digests ↔ P d) : s.RendersAscending P := by
  refine ⟨s.digests, hmem, s.sorted.imp_of_mem fun ha hb hab => ?_, rfl⟩
  obtain ⟨x, rfl⟩ := hdig _ ha
  obtain ⟨y, rfl⟩ := hdig _ hb
  exact byteLt_of_lt (utf8Size_of_mem_digestOf alg x) (utf8Size_of_mem_digestOf alg y) hab

/-- Rendering in ascending order carries over to an equivalent condition. -/
theorem DigestSet.RendersAscending.of_iff {s : DigestSet} {P Q : String → Prop}
    (h : s.RendersAscending P) (hPQ : ∀ d, P d ↔ Q d) : s.RendersAscending Q := by
  obtain ⟨L, hL, hsorted, hrender⟩ := h
  exact ⟨L, fun d => (hL d).trans (hPQ d), hsorted, hrender⟩

/-- A run of insertions of digests into the empty set renders exactly the digests inserted, each
once and in ascending byte order. -/
theorem insertAll_rendersAscending (alg : HashAlgorithm) {ds : List String}
    (hdig : ∀ d ∈ ds, ∃ raw, digestOf alg raw = d) :
    (DigestSet.insertAll {} ds).2.RendersAscending (· ∈ ds) := by
  have hmem : ∀ d, d ∈ (DigestSet.insertAll {} ds).2.digests ↔ d ∈ ds := fun d => by
    simpa using @DigestSet.mem_insertAll_iff d {} ds
  exact (DigestSet.insertAll {} ds).2.rendersAscending alg
    (fun d hd => hdig d ((hmem d).mp hd)) hmem

section Harvest

/-- Adding the digests of values is a run of insertions of the digests of the non-empty ones. -/
theorem addDigests_eq_insertAll (alg : HashAlgorithm) :
    ∀ (s : DigestSet) (values : List (List Char)), addDigests alg s values =
      (s.insertAll ((values.filter fun v => !v.isEmpty).map
        fun v => digestOf alg (String.ofList v))).2
  | s, [] => rfl
  | s, v :: vs => by
    rw [addDigests, List.foldl_cons, ← addDigests, addDigests_eq_insertAll]
    cases hv : v.isEmpty
    · simp [hv, DigestSet.insertAll_cons, DigestSet.add]
    · simp [hv]

/-- Harvesting values renders the digest of each non-empty one exactly once, in ascending byte
order. -/
theorem addDigests_rendersAscending (alg : HashAlgorithm) (values : List (List Char)) :
    (addDigests alg {} values).RendersAscending
      fun d => ∃ v ∈ values, v ≠ [] ∧ digestOf alg (String.ofList v) = d := by
  rw [addDigests_eq_insertAll]
  refine (insertAll_rendersAscending alg fun d hd => ?_).of_iff fun d => ?_
  · obtain ⟨v, -, rfl⟩ := List.mem_map.mp hd
    exact ⟨_, rfl⟩
  · simp [List.mem_filter, and_assoc]

end Harvest

/-- A run of insertions into an empty set answers "new" exactly at the first occurrence of each
digest, holds one digest per such answer, is empty exactly when it holds none, and renders the
distinct digests once each in ascending byte order. So do the handler and style harvests of every
page, whatever the order and number of the values they read. -/
theorem digestSet_renders_each_once (alg : HashAlgorithm) (texts : List String) :
    let ds := texts.map (digestOf alg)
    let run := DigestSet.insertAll {} ds
    run.1 = ds.mapIdx (fun i d => decide (d ∉ ds.take i)) ∧
      run.2.size = run.1.count true ∧
      (run.2.isEmpty = true ↔ run.2.size = 0) ∧
      run.2.RendersAscending (· ∈ ds) ∧
      ∀ html : List Char,
        (handlerDigests alg html).RendersAscending
            (fun d => ∃ v ∈ handlerValues html, v ≠ [] ∧
              digestOf alg (String.ofList v) = d) ∧
          (styleDigests alg html).RendersAscending
            (fun d => ∃ v ∈ styleValues html, v ≠ [] ∧
              digestOf alg (String.ofList v) = d) := by
  intro ds run
  refine ⟨?_, ?_, DigestSet.isEmpty_iff _, ?_,
    fun html => ⟨?_, addDigests_rendersAscending alg _⟩⟩
  · simpa using DigestSet.insertAll_fst {} ds
  · simpa using DigestSet.size_insertAll {} ds
  · refine insertAll_rendersAscending alg fun d hd => ?_
    obtain ⟨t, -, rfl⟩ := List.mem_map.mp hd
    exact ⟨t, rfl⟩
  · rw [handlerDigests_eq]
    exact addDigests_rendersAscending alg _

end StrictCsp.Policy
