import Mathlib.Data.List.DropRight
import TitleScript.Proofs.Text.CodePoints
import TitleScript.Text.Blank
import TitleScript.Text.Case.Mapping

/-!
# Lower case of names

Names are stored in lower case and put into lower case again when they are looked up, and blanks at
their ends are dropped before or after that. For this to name one thing, lower case must have
nothing more to do on a text in lower case, and blanks must be the same before and after.

Both could fail for a table of letters: the image of a letter need not be in lower case itself, it
may have several characters, and a sigma depends on its neighbours. That they hold for the letters
of names is checked for their table.

## Main definitions

* `LowerCase.Settled` — what a table of letters must satisfy

## Main results

* `LowerCase.Settled.chars_chars` — lower case of a text in lower case
* `LowerCase.Settled.trimChars_chars` — blanks are dropped before or after
* `LowerCase.settled_ofNames` — the letters of names are settled
-/

namespace TitleScript

open Text

theorem Text.trimChars_eq (cs : List Char) :
    trimChars cs = (cs.dropWhile isBlank).rdropWhile isBlank := rfl

namespace LowerCase

/-- Images of letters are in lower case, and blanks play no part in it. -/
structure Settled (l : LowerCase) : Prop where
  /-- The image of a letter is in lower case. -/
  image_of_mem : ∀ c, ∀ d ∈ l.image c, l.image d = [d]
  /-- No letter disappears. -/
  image_ne_nil : ∀ c, l.image c ≠ []
  /-- The final sigma is in lower case. -/
  image_final : l.image 'ς' = ['ς']
  /-- The capital sigma is not. -/
  image_capital : l.image 'Σ' ≠ ['Σ']
  /-- A blank is in lower case. -/
  image_blank : ∀ c, isBlank c → l.image c = [c]
  /-- No image of another character has blanks. -/
  isBlank_of_mem : ∀ c, ∀ d ∈ l.image c, isBlank d → isBlank c
  /-- A blank has no case. -/
  isCased_blank : ∀ c, isBlank c → l.isCased c = false
  /-- A blank ends a word. -/
  isIgnorable_blank : ∀ c, isBlank c → l.isIgnorable c = false

variable {l : LowerCase} {cased : Bool} {c d : Char} {cs rest : List Char}

/-- A character is sent to its image or to the final sigma. -/
theorem imageAt_cases (l : LowerCase) (cased : Bool) (c : Char) (rest : List Char) :
    l.imageAt cased c rest = l.image c ∨ c = 'Σ' ∧ l.imageAt cased c rest = ['ς'] := by
  rw [imageAt]
  split
  · next h =>
    simp only [Bool.and_eq_true, beq_iff_eq] at h
    exact .inr ⟨h.1.1, rfl⟩
  · exact .inl rfl

namespace Settled

theorem image_of_mem_imageAt (h : l.Settled) (hd : d ∈ l.imageAt cased c rest) :
    l.image d = [d] := by
  obtain himage | ⟨-, hfinal⟩ := imageAt_cases l cased c rest
  · exact h.image_of_mem c d (himage ▸ hd)
  · obtain rfl : d = 'ς' := by simpa [hfinal] using hd
    exact h.image_final

theorem imageAt_ne_nil (h : l.Settled) : l.imageAt cased c rest ≠ [] := by
  obtain himage | ⟨-, hfinal⟩ := imageAt_cases l cased c rest
  · rw [himage]
    exact h.image_ne_nil c
  · rw [hfinal]
    exact List.cons_ne_nil _ _

theorem isBlank_of_mem_imageAt (h : l.Settled) (hd : d ∈ l.imageAt cased c rest)
    (hblank : isBlank d) : isBlank c := by
  obtain himage | ⟨-, hfinal⟩ := imageAt_cases l cased c rest
  · exact h.isBlank_of_mem c d (himage ▸ hd) hblank
  · obtain rfl : d = 'ς' := by simpa [hfinal] using hd
    have hnot : isBlank 'ς' = false := by decide +kernel
    rw [hnot] at hblank
    contradiction

/-- A character that is its own image stays where it is. -/
theorem imageAt_eq (h : l.Settled) (hc : l.image c = [c]) : l.imageAt cased c rest = [c] := by
  obtain himage | ⟨rfl, -⟩ := imageAt_cases l cased c rest
  · rw [himage, hc]
  · exact absurd hc h.image_capital

/-! ### Lower case again -/

theorem charsFrom_eq_self (h : l.Settled) (hcs : ∀ c ∈ cs, l.image c = [c]) :
    l.charsFrom cased [] cs = cs := by
  induction cs generalizing cased with
  | nil => rfl
  | cons c cs ih =>
    obtain ⟨hc, hcs⟩ := List.forall_mem_cons.1 hcs
    rw [charsFrom_cons, h.imageAt_eq hc, ih hcs]
    rfl

theorem image_of_mem_charsFrom (h : l.Settled) :
    ∀ d ∈ l.charsFrom cased [] cs, l.image d = [d] := by
  induction cs generalizing cased with
  | nil => exact fun d hd => absurd hd List.not_mem_nil
  | cons c cs ih =>
    intro d hd
    rw [charsFrom_cons, List.mem_append] at hd
    obtain hd | hd := hd
    · exact h.image_of_mem_imageAt hd
    · exact ih d hd

/-- **A text in lower case is left as it is.** -/
theorem chars_chars (h : l.Settled) (cs : List Char) : l.chars (l.chars cs) = l.chars cs :=
  h.charsFrom_eq_self h.image_of_mem_charsFrom

/-! ### Blanks -/

/-- A blank at the beginning is not passed over, so a capital sigma behind it is a first letter. -/
theorem chars_cons_blank (h : l.Settled) (hc : isBlank c) (cs : List Char) :
    l.chars (c :: cs) = c :: l.chars cs := by
  have hafter : l.casedAfter false c = false := by
    rw [casedAfter, h.isIgnorable_blank c hc, h.isCased_blank c hc]
    rfl
  rw [chars, charsFrom_cons, h.imageAt_eq (h.image_blank c hc), hafter]
  rfl

theorem dropWhile_chars (h : l.Settled) (cs : List Char) :
    (l.chars cs).dropWhile isBlank = l.chars (cs.dropWhile isBlank) := by
  induction cs with
  | nil => rfl
  | cons c cs ih =>
    by_cases hc : isBlank c
    · rw [h.chars_cons_blank hc, List.dropWhile_cons_of_pos hc, List.dropWhile_cons_of_pos hc, ih]
    · rw [List.dropWhile_cons_of_neg hc, chars, charsFrom_cons]
      have hne : l.imageAt false c cs ≠ [] := h.imageAt_ne_nil
      obtain ⟨d, image, himage⟩ := List.exists_cons_of_ne_nil hne
      have hd : ¬ isBlank d := fun hblank =>
        hc (h.isBlank_of_mem_imageAt (himage ▸ List.mem_cons_self) hblank)
      rw [himage, List.cons_append, List.dropWhile_cons_of_neg hd]

/-- A blank behind a text ends the search for a cased letter, as the end of the text does. -/
theorem startsCased_append (h : l.Settled) (hc : isBlank c) (cs : List Char) :
    l.startsCased (cs ++ [c]) = l.startsCased cs := by
  have hblank : l.startsCased [c] = l.startsCased [] := by
    simp [startsCased, h.isIgnorable_blank c hc, h.isCased_blank c hc]
  induction cs with
  | nil => exact hblank
  | cons d cs ih =>
    rw [startsCased, startsCased] at ih ⊢
    rw [List.cons_append, List.dropWhile_cons, List.dropWhile_cons]
    cases l.isIgnorable d with
    | true => exact ih
    | false => rfl

theorem charsFrom_append_blank (h : l.Settled) (hc : isBlank c) (cs : List Char) :
    l.charsFrom cased [] (cs ++ [c]) = l.charsFrom cased [] cs ++ [c] := by
  induction cs generalizing cased with
  | nil =>
    rw [List.nil_append, charsFrom_cons, h.imageAt_eq (h.image_blank c hc)]
    rfl
  | cons d cs ih =>
    have himage : l.imageAt cased d (cs ++ [c]) = l.imageAt cased d cs := by
      rw [imageAt, imageAt, h.startsCased_append hc]
    rw [List.cons_append, charsFrom_cons, charsFrom_cons, himage, ih, List.append_assoc]

theorem exists_charsFrom_append (l : LowerCase) (cased : Bool) (cs : List Char) (c : Char) :
    ∃ before cased', l.charsFrom cased [] (cs ++ [c]) = before ++ l.imageAt cased' c [] := by
  induction cs generalizing cased with
  | nil =>
    refine ⟨[], cased, ?_⟩
    rw [List.nil_append, charsFrom_cons]
    exact List.append_nil _
  | cons d cs ih =>
    obtain ⟨before, cased', heq⟩ := ih (l.casedAfter cased d)
    refine ⟨l.imageAt cased d (cs ++ [c]) ++ before, cased', ?_⟩
    rw [List.cons_append, charsFrom_cons, heq, List.append_assoc]

theorem rdropWhile_chars (h : l.Settled) (cs : List Char) :
    (l.chars cs).rdropWhile isBlank = l.chars (cs.rdropWhile isBlank) := by
  induction cs using List.reverseRecOn with
  | nil => rfl
  | append_singleton cs c ih =>
    by_cases hc : isBlank c
    · rw [chars, h.charsFrom_append_blank hc, List.rdropWhile_concat_pos _ _ _ hc,
        List.rdropWhile_concat_pos _ _ _ hc]
      exact ih
    · obtain ⟨before, cased', heq⟩ := exists_charsFrom_append l false cs c
      obtain ⟨image, d, himage⟩ := (l.imageAt cased' c []).eq_nil_or_concat.resolve_left
        h.imageAt_ne_nil
      rw [List.concat_eq_append] at himage
      have hd : ¬ isBlank d := fun hblank =>
        hc (h.isBlank_of_mem_imageAt (himage ▸ List.mem_append_right _ (.head _)) hblank)
      rw [List.rdropWhile_concat_neg _ _ _ hc, chars, heq, himage, ← List.append_assoc,
        List.rdropWhile_concat_neg _ _ _ hd]

/-- **Blanks at the ends can be dropped before or after.** -/
theorem trimChars_chars (h : l.Settled) (cs : List Char) :
    trimChars (l.chars cs) = l.chars (trimChars cs) := by
  rw [trimChars_eq, trimChars_eq, h.dropWhile_chars, h.rdropWhile_chars]

end Settled

/-! ### The letters of names -/

/-- No letter is sent to one that is not in lower case, and none is sent to a blank. -/
theorem bits_imageCodes :
    bits lowerMap.imageCodes &&& bits (lowerMap.codes ++ blanks.codes) = 0 := by
  decide +kernel

theorem bits_blanks : bits blanks.codes &&& bits lowerMap.codes = 0 := by
  decide +kernel

theorem mem_codes_of_isBlank (h : isBlank c) : c.toNat ∈ blanks.codes :=
  ScalarSet.mem_codes (by decide +kernel) h

theorem settled_ofNames : ofNames.Settled where
  image_of_mem c d hd := by
    obtain ⟨rfl, hself⟩ | hmem := ScalarMap.mem_imageCodes hd
    · exact hself
    · have hnot := not_mem_of_bits bits_imageCodes hmem
      exact ScalarMap.image_of_not_mem fun hcode => hnot (List.mem_append_left _ hcode)
  image_ne_nil := ScalarMap.image_ne_nil (by decide +kernel)
  image_final := by decide +kernel
  image_capital := by decide +kernel
  image_blank c hc :=
    ScalarMap.image_of_not_mem (not_mem_of_bits bits_blanks (mem_codes_of_isBlank hc))
  isBlank_of_mem c d hd hblank := by
    obtain ⟨rfl, -⟩ | hmem := ScalarMap.mem_imageCodes hd
    · exact hblank
    · have hnot := not_mem_of_bits bits_imageCodes hmem
      exact absurd (List.mem_append_right _ (mem_codes_of_isBlank hblank)) hnot
  isCased_blank _ hc := ScalarSet.contains_eq_false_of_apart (by decide +kernel)
    (by decide +kernel) (by decide +kernel) hc
  isIgnorable_blank _ hc := ScalarSet.contains_eq_false_of_apart (by decide +kernel)
    (by decide +kernel) (by decide +kernel) hc

end LowerCase

end TitleScript
