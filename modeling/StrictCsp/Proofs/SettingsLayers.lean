import StrictCsp.Config.File

/-!
# Layering the settings

The settings come in layers: the defaults, then the configuration file that the
environment names, then the variables of the environment one at a time. A
variable that is present replaces the field it names and a missing one keeps
the field of the layer below (`Settings.layered`); the header budget is read as
a machine word, and the switch as one of the words that turn it on. A budget
that is not the text of a machine word (`IsWordText`) refuses the whole layer,
whatever the other variables say.

So layers compose key by key: applying one lookup and then another is applying
the two as one, the later lookup winning wherever it has a value
(`overlay_overlay`). The variable that names the configuration file chooses the
bottom layer only and is never read as an override.

Main statement: `overlay_layers`.
-/

namespace StrictCsp.Config

open StrictCsp.Text

/-- The text of a machine word as the standard library reads it: an optional plus sign, then
decimal digits, at least one, whose value is below `2 ^ 64`. -/
def IsWordText (t : List Char) : Prop :=
  ∃ ds, (t = ds ∨ t = '+' :: ds) ∧ ds ≠ [] ∧ (∀ c ∈ ds, c.isDigit = true) ∧
    decimalValue ds < sizeBound

/-- Two lookups read as one: the later one, and the earlier one where the later has no value. -/
def Lookup.over (later earlier : String → Option String) : String → Option String :=
  fun k => (later k).or (earlier k)

/-- A lookup whose header budget, if it gives one, is the text of a machine word. -/
def SizeReadable (env : String → Option String) : Prop :=
  ∀ v, env maxHeaderSizeVar = some v → IsWordText (trim v.toList)

/-- The refusal of a header budget that is no number, quoting the value as given. -/
def sizeRefusal (v : String) : EngineError :=
  .configuration (maxHeaderSizeVar ++ " must be a positive integer, got '" ++ v ++ "'")

/-- The settings with every field a lookup gives taken from it, the budget read as a number and
the switch parsed, and every other field kept. -/
def Settings.layered (s : Settings) (env : String → Option String) : Settings where
  enforcedPolicy := (env enforcedVar).getD s.enforcedPolicy
  reportOnlyPolicy := (env reportOnlyVar).getD s.reportOnlyPolicy
  logLevel := (env logLevelVar).getD s.logLevel
  logFormat := (env logFormatVar).getD s.logFormat
  maxHeaderSize := ((env maxHeaderSizeVar).bind parseSize).getD s.maxHeaderSize
  hashAlgorithm := (env hashAlgorithmVar).getD s.hashAlgorithm
  enabled := ((env enabledVar).map parseFlag).getD s.enabled

section Word

/-- A text is its number with or without a plus sign in front. -/
theorem eq_or_eq_plus_unsigned (t : List Char) : t = unsigned t ∨ t = '+' :: unsigned t := by
  match t with
  | [] => exact .inl rfl
  | c :: cs =>
    by_cases hc : c = '+'
    · subst hc
      exact .inr rfl
    · left
      simp [unsigned, hc]

/-- Digits have no plus sign to drop. -/
theorem unsigned_of_digits {ds : List Char} (h : ∀ c ∈ ds, c.isDigit = true) :
    unsigned ds = ds := by
  match ds, h with
  | [], _ => rfl
  | c :: cs, h =>
    have hc : c ≠ '+' := fun hp => absurd (h c List.mem_cons_self) (by rw [hp]; decide)
    simp [unsigned, hc]

/-- A machine word's text is, without its plus sign, nonempty decimal digits below the bound. -/
theorem isWordText_iff (t : List Char) :
    IsWordText t ↔ unsigned t ≠ [] ∧ (∀ c ∈ unsigned t, c.isDigit = true) ∧
      decimalValue (unsigned t) < sizeBound := by
  constructor
  · rintro ⟨ds, hds | hds, hne, hdig, hlt⟩
    · subst hds
      rw [unsigned_of_digits hdig]
      exact ⟨hne, hdig, hlt⟩
    · subst hds
      exact ⟨hne, hdig, hlt⟩
  · rintro ⟨hne, hdig, hlt⟩
    exact ⟨unsigned t, eq_or_eq_plus_unsigned t, hne, hdig, hlt⟩

/-- A budget is read exactly when its trimmed text is a machine word's, and then as the number it
spells. The reader checks digits first, then the bound. -/
theorem parseSize_eq_some_iff (v : String) (n : Nat) :
    parseSize v = some n ↔
      IsWordText (trim v.toList) ∧ n = decimalValue (unsigned (trim v.toList)) := by
  rw [isWordText_iff]
  unfold parseSize
  generalize unsigned (trim v.toList) = ds
  by_cases hcheck : (!ds.isEmpty && ds.all Char.isDigit) = true
  · have hds : ds ≠ [] ∧ ∀ c ∈ ds, c.isDigit = true := by
      simpa [List.isEmpty_iff] using hcheck
    rw [if_pos hcheck]
    by_cases hlt : decimalValue ds < sizeBound
    · rw [if_pos hlt, Option.some.injEq]
      exact ⟨fun h => ⟨⟨hds.1, hds.2, hlt⟩, h.symm⟩, fun h => h.2.symm⟩
    · rw [if_neg hlt]
      simp only [reduceCtorEq, false_iff, not_and]
      exact fun h => absurd h.2.2 hlt
  · have hds : ¬ (ds ≠ [] ∧ ∀ c ∈ ds, c.isDigit = true) := by
      simpa [List.isEmpty_iff] using hcheck
    simp only [hcheck, Bool.false_eq_true, if_false, reduceCtorEq, false_iff, not_and]
    exact fun h _ => absurd ⟨h.1, h.2.1⟩ hds

/-- A budget is refused exactly when its trimmed text is no machine word's. -/
theorem parseSize_eq_none_iff (v : String) : parseSize v = none ↔ ¬ IsWordText (trim v.toList) := by
  cases hp : parseSize v with
  | none =>
    simp only [true_iff]
    intro hw
    have := (parseSize_eq_some_iff v _).mpr ⟨hw, rfl⟩
    simp [hp] at this
  | some n =>
    simp only [reduceCtorEq, false_iff, Classical.not_not]
    exact ((parseSize_eq_some_iff v n).mp hp).1

end Word

section Overlay

variable {s : Settings} {env : String → Option String}

/-- A lookup gives a readable budget, or one that is refused. -/
theorem sizeReadable_or_refused (env : String → Option String) :
    SizeReadable env ∨ ∃ v, env maxHeaderSizeVar = some v ∧ parseSize v = none := by
  cases hv : env maxHeaderSizeVar with
  | none => exact .inl fun v h => by simp [hv] at h
  | some v =>
    cases hp : parseSize v with
    | none => exact .inr ⟨v, rfl, hp⟩
    | some n =>
      left
      intro w hw
      rw [hv, Option.some.injEq] at hw
      subst hw
      exact ((parseSize_eq_some_iff v n).mp hp).1

/-- A lookup whose budget is readable gives the layered settings. The budget is read first, absent
or as a number, then each other variable, present or not. -/
theorem overlay_eq_ok (h : SizeReadable env) : s.overlay env = .ok (s.layered env) := by
  unfold Settings.overlay Settings.layered
  rcases hsize : env maxHeaderSizeVar with _ | v
  case' some =>
    obtain ⟨n, hn⟩ : ∃ n, parseSize v = some n :=
      ⟨_, (parseSize_eq_some_iff v _).mpr ⟨h v hsize, rfl⟩⟩
    simp only [hn, Option.bind_some, Option.getD_some]
  all_goals
    generalize env enforcedVar = e₁
    generalize env reportOnlyVar = e₂
    generalize env logLevelVar = e₃
    generalize env logFormatVar = e₄
    generalize env hashAlgorithmVar = e₅
    generalize env enabledVar = e₆
    cases e₁ <;> cases e₂ <;> cases e₃ <;> cases e₄ <;> cases e₅ <;> cases e₆ <;>
      simp only [Option.getD_none, Option.getD_some, Option.map_some, Option.map_none,
        Option.bind_none] <;> rfl

/-- A budget that is no number refuses the layer, whatever else the lookup gives. -/
theorem overlay_eq_error {v : String} (hv : env maxHeaderSizeVar = some v)
    (hn : parseSize v = none) : s.overlay env = .error (sizeRefusal v) := by
  unfold Settings.overlay
  simp only [hv, hn]
  rfl

/-- A layer that applies had a readable budget. -/
theorem sizeReadable_of_overlay_ok {s' : Settings} (h : s.overlay env = .ok s') :
    SizeReadable env := by
  rcases sizeReadable_or_refused env with hr | ⟨v, hv, hn⟩
  · exact hr
  · rw [overlay_eq_error hv hn] at h
    cases h

/-- A layer fails exactly on a budget that is no machine word, and then with its refusal. -/
theorem overlay_eq_error_iff {e : EngineError} :
    s.overlay env = .error e ↔
      ∃ v, env maxHeaderSizeVar = some v ∧ ¬ IsWordText (trim v.toList) ∧ e = sizeRefusal v := by
  constructor
  · intro h
    rcases sizeReadable_or_refused env with hr | ⟨v, hv, hn⟩
    · rw [overlay_eq_ok hr] at h
      cases h
    · rw [overlay_eq_error hv hn] at h
      cases h
      exact ⟨v, hv, (parseSize_eq_none_iff v).mp hn, rfl⟩
  · rintro ⟨v, hv, hw, rfl⟩
    exact overlay_eq_error hv ((parseSize_eq_none_iff v).mpr hw)

/-- Two lookups read as one give a readable budget when each does. -/
theorem SizeReadable.over {later earlier : String → Option String} (hl : SizeReadable later)
    (he : SizeReadable earlier) : SizeReadable (Lookup.over later earlier) := by
  intro v hv
  unfold Lookup.over at hv
  cases hlv : later maxHeaderSizeVar with
  | none =>
    rw [hlv, Option.none_or] at hv
    exact he v hv
  | some w =>
    rw [hlv, Option.some_or] at hv
    cases hv
    exact hl _ hlv

/-- Layering twice is layering once with the two lookups read as one. The budget is the one field
whose reading may fail, and the later lookup's budget is read or absent. -/
theorem layered_layered {later earlier : String → Option String} (h : SizeReadable later) :
    (s.layered earlier).layered later = s.layered (Lookup.over later earlier) := by
  have hsize : ((later maxHeaderSizeVar).bind parseSize).getD
      (((earlier maxHeaderSizeVar).bind parseSize).getD s.maxHeaderSize) =
      (((later maxHeaderSizeVar).or (earlier maxHeaderSizeVar)).bind parseSize).getD
        s.maxHeaderSize := by
    cases hv : later maxHeaderSizeVar with
    | none => rfl
    | some v =>
      obtain ⟨n, hn⟩ : ∃ n, parseSize v = some n :=
        ⟨_, (parseSize_eq_some_iff v _).mpr ⟨h v hv, rfl⟩⟩
      simp [hn]
  simp only [Settings.layered, Lookup.over, Option.getD_or, Option.map_or, hsize]

/-- Later layers win key by key: a layer applied over one that applied is one layer with the later
lookup read first. A refused later budget refuses both, with the same message. -/
theorem overlay_overlay {later earlier : String → Option String} {s₁ : Settings}
    (h : s.overlay earlier = .ok s₁) : s₁.overlay later = s.overlay (Lookup.over later earlier) := by
  have he := sizeReadable_of_overlay_ok h
  rw [overlay_eq_ok he] at h
  cases h
  rcases sizeReadable_or_refused later with hl | ⟨v, hv, hn⟩
  · rw [overlay_eq_ok hl, overlay_eq_ok (hl.over he), layered_layered hl]
  · have hov : Lookup.over later earlier maxHeaderSizeVar = some v := by
      simp [Lookup.over, hv]
    rw [overlay_eq_error hv hn, overlay_eq_error hov hn]

/-- The layer reads only the seven variables it overrides; the variable naming the configuration
file is never one of them. -/
theorem overlay_congr {env' : String → Option String}
    (h : ∀ k, k ≠ configPathVar → env k = env' k) : s.overlay env = s.overlay env' := by
  have hsize : env maxHeaderSizeVar = env' maxHeaderSizeVar := h _ (by decide)
  rcases sizeReadable_or_refused env with hr | ⟨v, hv, hn⟩
  · have hr' : SizeReadable env' := fun v hv => hr v (hsize.trans hv)
    rw [overlay_eq_ok hr, overlay_eq_ok hr']
    simp only [Settings.layered, hsize, h enforcedVar (by decide), h reportOnlyVar (by decide),
      h logLevelVar (by decide), h logFormatVar (by decide), h hashAlgorithmVar (by decide),
      h enabledVar (by decide)]
  · rw [overlay_eq_error hv hn, overlay_eq_error (hsize ▸ hv) hn]

end Overlay

section Environment

variable {read : Reader} {env : String → Option String}

/-- A configuration file that cannot be read fails with the system's message, and one that is no
valid document with the document's error. -/
theorem ofFile_error {path : String} {e : EngineError} (h : Settings.ofFile read path = .error e) :
    (∃ m, e = .io m) ∨ ∃ m, e = .yaml m := by
  unfold Settings.ofFile Settings.ofYaml at h
  split at h
  · split at h
    · cases h
    · cases h
      exact .inr ⟨_, rfl⟩
  · cases h
    exact .inl ⟨_, rfl⟩

/-- Without a configuration file, or with a blank name for one, the defaults are the bottom
layer. -/
theorem ofEnvironment_of_blank (h : ∀ p, env configPathVar = some p → trim p.toList = []) :
    Settings.ofEnvironment read env = ({} : Settings).overlay env := by
  unfold Settings.ofEnvironment
  cases hp : env configPathVar with
  | none => rfl
  | some p =>
    have hblank : isBlankText p = true := by
      rw [isBlankText, ← trim_eq_nil_iff]
      exact h p hp
    simp only [hblank, if_true]
    rfl

/-- A configuration file named by a path that is not blank is the bottom layer, read at the
trimmed path; failing to read it is the answer. -/
theorem ofEnvironment_of_path {p : String} (hp : env configPathVar = some p)
    (hne : trim p.toList ≠ []) :
    Settings.ofEnvironment read env = (Settings.ofFile read (trimString p)).bind (·.overlay env) := by
  have hblank : isBlankText p = false := by
    rw [← Bool.not_eq_true, isBlankText, ← trim_eq_nil_iff]
    exact hne
  unfold Settings.ofEnvironment
  simp only [hp, hblank, Bool.false_eq_true, if_false]
  rfl

end Environment

/-- The settings are layered key by key. A layer of variables fails exactly when it gives a
header budget that is no machine word, and then with the refusal quoting it; otherwise it takes
every field the variables give, the budget read as the number its digits spell, and keeps the
others. No variables change nothing, and a layer over a layer that applied is one layer in
which the later variables win. The variable naming a configuration file is never read as an
override: it only chooses the bottom layer, the file at its trimmed value when that is not
blank, whose failure to be read is the answer, and the defaults otherwise. -/
theorem overlay_layers (s : Settings) (env earlier later : String → Option String)
    (read : Reader) :
    (∀ e, s.overlay env = .error e ↔
      ∃ v, env maxHeaderSizeVar = some v ∧ ¬ IsWordText (trim v.toList) ∧ e = sizeRefusal v) ∧
    (∀ v n, parseSize v = some n ↔
      IsWordText (trim v.toList) ∧ n = decimalValue (unsigned (trim v.toList))) ∧
    (SizeReadable env → s.overlay env = .ok (s.layered env)) ∧
    s.overlay (fun _ => none) = .ok s ∧
    (∀ s₁, s.overlay earlier = .ok s₁ →
      s₁.overlay later = s.overlay (Lookup.over later earlier)) ∧
    (∀ env', (∀ k, k ≠ configPathVar → env k = env' k) → s.overlay env = s.overlay env') ∧
    ((∀ p, env configPathVar = some p → trim p.toList = []) →
      Settings.ofEnvironment read env = ({} : Settings).overlay env) ∧
    (∀ p, env configPathVar = some p → trim p.toList ≠ [] →
      Settings.ofEnvironment read env =
        (Settings.ofFile read (trimString p)).bind (·.overlay env)) ∧
    (∀ path e, Settings.ofFile read path = .error e → (∃ m, e = .io m) ∨ ∃ m, e = .yaml m) :=
  ⟨fun _ => overlay_eq_error_iff, parseSize_eq_some_iff, overlay_eq_ok, overlay_none s,
    fun _ => overlay_overlay, fun _ => overlay_congr, ofEnvironment_of_blank,
    fun _ => ofEnvironment_of_path, fun _ _ => ofFile_error⟩

end StrictCsp.Config
