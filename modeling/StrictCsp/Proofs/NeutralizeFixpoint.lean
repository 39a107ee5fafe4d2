import StrictCsp.Markup.ScriptLink
import Mathlib.Data.List.TakeDrop

/-!
# The pages that neutralizing leaves alone

Neutralizing replaces script links and false frame sources, and a page is left
as it is exactly when it holds neither (`neutralize_eq_self_iff`). The hard
half is that a page holding one always changes. It is a counting argument:
each match holds the `j` of its `javascript:` scheme, while its replacement
holds no `j` beyond those of the script it carries along. So each pass loses
at least one letter `j` per match (`Recogniser.countP_substitute_add_length_findAll`),
and a page that comes back unchanged had no match in either pass.

Applied to a page already neutralized, this says when a second pass changes
nothing (`neutralize_neutralize_eq_iff`). It may change something: a script
carried into a click handler can itself hold a script link, which only the
second pass finds (`neutralize_twice_ne`).
-/

namespace StrictCsp.Markup

open StrictCsp.Text Pattern

/-- The letters of a text that read as `j` under caseless matching. -/
def jLetters (s : List Char) : Nat := s.countP fun c => foldEq c 'j'

@[simp] theorem jLetters_append (a b : List Char) :
    jLetters (a ++ b) = jLetters a + jLetters b :=
  List.countP_append

/-- A caseless word starting with `j` takes one letter `j` from the text. -/
theorem jLetters_word?_j {w s r : List Char} (h : word? ('j' :: w) s = some r) :
    r <:+ s ∧ jLetters r + 1 ≤ jLetters s := by
  cases s with
  | nil => simp [word?] at h
  | cons c cs =>
    simp only [word?] at h
    split at h
    · rename_i hc
      have hr := word?_consumes _ _ _ h
      have hcs : jLetters (c :: cs) = jLetters cs + 1 := by simp [jLetters, hc]
      have hle : jLetters r ≤ jLetters cs := hr.countP_le
      exact ⟨hr.trans (List.suffix_cons c cs), by omega⟩
    · cases h

/-- A script link takes its script and the `j` of its scheme from the text. -/
theorem jLetters_scriptLinkIn {q : Char} {s body r : List Char}
    (h : scriptLinkIn q s = some (body, r)) :
    r <:+ s ∧ jLetters r + jLetters body + 1 ≤ jLetters s := by
  simp only [scriptLinkIn, Option.bind_eq_bind, Option.bind_eq_some_iff, Option.pure_def,
    Option.some.injEq, Prod.mk.injEq] at h
  obtain ⟨r1, h1, r2, h2, r3, h3, r4, h4, r5, h5, rfl, rfl⟩ := h
  rw [show "javascript:".toList = 'j' :: "avascript:".toList from rfl] at h4
  obtain ⟨hs4, hj⟩ := jLetters_word?_j h4
  have hs3 := (char?_consumes q _ _ h3).trans ((equals?_consumes _ _ h2).trans
    (word?_consumes _ _ _ h1))
  have hsplit : r4 = (r4.span fun x => x != q).1 ++ (r4.span fun x => x != q).2 := by
    rw [List.span_eq_takeWhile_dropWhile, List.takeWhile_append_dropWhile]
  have hspan : (r4.span fun x => x != q).2 <:+ r4 := ⟨_, hsplit.symm⟩
  have hs5 := char?_consumes q _ _ h5
  have hb := jLetters_append (r4.span fun x => x != q).1 (r4.span fun x => x != q).2
  rw [← hsplit] at hb
  have h5le : jLetters r5 ≤ jLetters (r4.span fun x => x != q).2 := hs5.countP_le
  have h3le : jLetters r3 ≤ jLetters s := hs3.countP_le
  exact ⟨hs5.trans (hspan.trans (hs4.trans hs3)), by omega⟩

/-- A quoted false frame source takes the `j` of its scheme from the text. -/
theorem jLetters_falseSourceIn {q : Char} {s r : List Char} (h : falseSourceIn q s = some r) :
    r <:+ s ∧ jLetters r + 1 ≤ jLetters s := by
  simp only [falseSourceIn, Option.bind_eq_bind, Option.bind_eq_some_iff] at h
  obtain ⟨r1, h1, r2, h2, r3, h3, r4, h4, r5, h5, h6⟩ := h
  rw [show "javascript:".toList = 'j' :: "avascript:".toList from rfl] at h4
  obtain ⟨hs4, hj⟩ := jLetters_word?_j h4
  have hs6 : r <:+ r4 := (char?_consumes q _ _ h6).trans ((getD_char?_suffix ';' r5).trans
    ((word?_consumes _ _ _ h5).trans (blanks_suffix r4)))
  have hs3 := (char?_consumes q _ _ h3).trans ((equals?_consumes _ _ h2).trans
    (word?_consumes _ _ _ h1))
  have h6le : jLetters r ≤ jLetters r4 := hs6.countP_le
  have h3le : jLetters r3 ≤ jLetters s := hs3.countP_le
  exact ⟨hs6.trans (hs4.trans hs3), by omega⟩

/-- A bare false frame source takes the `j` of its scheme from the text. -/
theorem jLetters_falseSourceBare {s r : List Char} (h : falseSourceBare s = some r) :
    r <:+ s ∧ jLetters r + 1 ≤ jLetters s := by
  simp only [falseSourceBare, Option.bind_eq_bind, Option.bind_eq_some_iff, Option.pure_def,
    Option.some.injEq] at h
  obtain ⟨r1, h1, r2, h2, r3, h3, rfl⟩ := h
  rw [show "javascript:false".toList = 'j' :: "avascript:false".toList from rfl] at h3
  obtain ⟨hs3, hj⟩ := jLetters_word?_j h3
  have hs2 := (equals?_consumes _ _ h2).trans (word?_consumes _ _ _ h1)
  have hsemi : jLetters ((char? ';' r3).getD r3) ≤ jLetters r3 :=
    (getD_char?_suffix ';' r3).countP_le
  have h2le : jLetters r2 ≤ jLetters s := hs2.countP_le
  exact ⟨(getD_char?_suffix ';' r3).trans (hs3.trans hs2), by omega⟩

/-- The script of a link, whichever quotes it stood between. -/
def Pattern.LinkBody.script : LinkBody → List Char
  | .doubleQuoted s => s
  | .singleQuoted s => s

/-- Turning double quotes into single ones keeps every letter. -/
theorem jLetters_singleQuotes (s : List Char) : jLetters (singleQuotes s) = jLetters s := by
  unfold jLetters singleQuotes
  rw [List.countP_map]
  congr 1
  funext c
  by_cases hc : c = '"'
  · subst hc
    decide
  · simp [hc]

/-- An anchor holds no letter `j` beyond those of its script. -/
theorem jLetters_anchorFor (s : List Char) : jLetters (anchorFor s) ≤ jLetters s := by
  unfold anchorFor
  split
  · exact Nat.zero_le _
  · have h1 : jLetters inertAnchor = 0 := by decide
    have h2 : jLetters " onclick=\"".toList = 0 := by decide
    have h3 : jLetters ['"'] = 0 := by decide
    simp only [jLetters_append]
    omega

/-- The replacement of a script link holds no letter `j` beyond those of its script. -/
theorem jLetters_replacement (b : LinkBody) : jLetters b.replacement ≤ jLetters b.script := by
  cases b with
  | doubleQuoted s =>
    simp only [LinkBody.replacement, LinkBody.script]
    split
    · exact Nat.zero_le _
    · exact jLetters_anchorFor s
  | singleQuoted s =>
    simp only [LinkBody.replacement, LinkBody.script]
    split
    · exact Nat.zero_le _
    · rw [← jLetters_singleQuotes s]
      exact jLetters_anchorFor _

/-- Replacing a script link loses the `j` of its scheme. -/
theorem jLetters_scriptLink {s : List Char} {h : Hit LinkBody} (hm : scriptLink s = some h) :
    jLetters h.captured.replacement < jLetters (s.take h.length) := by
  obtain ⟨r, hf, hl⟩ := Recogniser.ofRest_hit hm
  have key : r <:+ s ∧ jLetters r + jLetters h.captured.script + 1 ≤ jLetters s := by
    split at hf
    · rename_i b r' hq
      obtain ⟨hc, rfl⟩ := Prod.mk.inj (Option.some.inj hf)
      rw [← hc]
      exact jLetters_scriptLinkIn hq
    · obtain ⟨⟨b, r'⟩, hq, he⟩ := Option.map_eq_some_iff.mp hf
      obtain ⟨hc, rfl⟩ := Prod.mk.inj he
      rw [← hc]
      exact jLetters_scriptLinkIn hq
  have hs := jLetters_append (s.take (s.length - r.length)) r
  rw [Recogniser.take_length_sub_append key.1] at hs
  have := jLetters_replacement h.captured
  rw [hl]
  omega

/-- Replacing a false frame source loses the `j` of its scheme. -/
theorem jLetters_falseSource {s : List Char} {h : Hit Unit} (hm : falseSource s = some h) :
    jLetters blankSource < jLetters (s.take h.length) := by
  obtain ⟨r, hf, hl⟩ := Recogniser.ofRest_hit hm
  have key : r <:+ s ∧ jLetters r + 1 ≤ jLetters s := by
    obtain ⟨r', hq, he⟩ := Option.map_eq_some_iff.mp hf
    obtain ⟨-, rfl⟩ := Prod.mk.inj he
    simp only [Option.orElse_eq_orElse, Option.orElse_eq_or, Option.or_eq_some_iff] at hq
    rcases hq with hd | ⟨-, hs | ⟨-, hb⟩⟩
    · exact jLetters_falseSourceIn hd
    · exact jLetters_falseSourceIn hs
    · exact jLetters_falseSourceBare hb
  have hs := jLetters_append (s.take (s.length - r.length)) r
  rw [Recogniser.take_length_sub_append key.1] at hs
  have h0 : jLetters blankSource = 0 := by decide
  rw [hl]
  omega

/-- Neutralizing leaves a page as it is exactly when the page holds no script link and no false
frame source. -/
theorem neutralize_eq_self_iff (y : List Char) :
    neutralize y = y ↔ Recogniser.NoHit scriptLink y ∧ Recogniser.NoHit falseSource y := by
  constructor
  · intro hfix
    have hlinks := Recogniser.countP_substitute_add_length_findAll scriptLink
      (fun _ body => body.replacement) (foldEq · 'j') (fun _ _ hm _ => jLetters_scriptLink hm) y
    have hsources := Recogniser.countP_substitute_add_length_findAll falseSource
      (fun _ _ => blankSource) (foldEq · 'j') (fun _ _ hm _ => jLetters_falseSource hm)
      (scriptLink.substitute (fun _ body => body.replacement) y)
    unfold neutralize at hfix
    rw [hfix] at hsources
    have hl : (Recogniser.findAll scriptLink y).length = 0 := by omega
    have hnl := Recogniser.noHit_of_findAll_eq_nil scriptLink (Recogniser.ofRest_fits _) y
      (List.length_eq_zero_iff.mp hl)
    refine ⟨hnl, ?_⟩
    rw [Recogniser.substitute_of_noHit scriptLink _ y hnl] at hsources
    have hs : (Recogniser.findAll falseSource y).length = 0 := by omega
    exact Recogniser.noHit_of_findAll_eq_nil falseSource (Recogniser.ofRest_fits _) y
      (List.length_eq_zero_iff.mp hs)
  · rintro ⟨hl, hs⟩
    unfold neutralize
    simp only
    rw [Recogniser.substitute_of_noHit scriptLink _ y hl, Recogniser.substitute_of_noHit _ _ y hs]

/-- A second pass changes nothing exactly when the first left no script link and no false
frame source. -/
theorem neutralize_neutralize_eq_iff (html : List Char) :
    neutralize (neutralize html) = neutralize html ↔
      Recogniser.NoHit scriptLink (neutralize html) ∧
        Recogniser.NoHit falseSource (neutralize html) :=
  neutralize_eq_self_iff (neutralize html)

/-- A script link inside a script carried into a click handler is found by the second pass. -/
theorem neutralize_twice_ne :
    neutralize (neutralize "<a href=\"javascript:href='javascript:x()'\">k</a>".toList) ≠
      neutralize "<a href=\"javascript:href='javascript:x()'\">k</a>".toList := by
  decide +kernel

end StrictCsp.Markup
