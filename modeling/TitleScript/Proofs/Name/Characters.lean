import TitleScript.Proofs.Name
import TitleScript.Proofs.Script.Grammar

/-!
# The characters of a name in lower case

A name is checked as it is written and kept in lower case, so what the check says has to hold of the
name in lower case as well. For fields it does: the characters with a meaning in a script are not
the image of any letter, and blanks are not either.

For functions it does with one exception. The capital I with a dot above is a letter, and its lower
case is the small i followed by a combining dot, which is neither a letter nor a digit. No other
letter has a part that no name of a function could have.

Texts of ASCII are treated by the table of letters as they are by the lower case of ASCII, and no
text with other letters becomes one, the Kelvin sign apart, whose lower case is the small k.

## Main definitions

* `fieldMarks` — the characters that no name of a field has
* `combiningDot` — the combining dot above
* `isAscii` — the characters of ASCII
* `NameTables` — what is checked about the tables of characters

## Main results

* `isReferenceable_normalizeName` — a name that a field can have still is one in its normalized form
* `isCallable_lowerName_iff` — which names of functions are names of functions in lower case
* `normalizeName_of_isCallable` — the name of a function has no blanks to lose
* `LowerCase.chars_eq_iff_of_ascii` — texts whose lower case is a text of ASCII
-/

namespace TitleScript

open Text

namespace LowerCase

variable {l : LowerCase} {cased : Bool} {c d : Char} {cs : List Char}

/-- A character in lower case is a part of the image of a character, or it is the final sigma. -/
theorem exists_of_mem_charsFrom (h : d ∈ l.charsFrom cased [] cs) :
    ∃ c ∈ cs, d ∈ l.image c ∨ c = 'Σ' ∧ d = 'ς' := by
  induction cs generalizing cased with
  | nil => exact absurd h List.not_mem_nil
  | cons c cs ih =>
    rw [charsFrom_cons, List.mem_append] at h
    rcases h with h | h
    · refine ⟨c, List.mem_cons_self, ?_⟩
      obtain himage | ⟨hc, hfinal⟩ := imageAt_cases l cased c cs
      · exact .inl (himage ▸ h)
      · rw [hfinal, List.mem_singleton] at h
        exact .inr ⟨hc, h⟩
    · obtain ⟨c', hc', himage⟩ := ih h
      exact ⟨c', List.mem_cons_of_mem _ hc', himage⟩

theorem exists_of_mem_chars (h : d ∈ l.chars cs) : ∃ c ∈ cs, d ∈ l.image c ∨ c = 'Σ' ∧ d = 'ς' :=
  exists_of_mem_charsFrom h

theorem Settled.chars_eq_nil_iff (h : l.Settled) : l.chars cs = [] ↔ cs = [] := by
  constructor
  · intro hnil
    cases cs with
    | nil => rfl
    | cons c cs =>
      rw [chars, charsFrom_cons, List.append_eq_nil_iff] at hnil
      exact absurd hnil.1 h.imageAt_ne_nil
  · rintro rfl
    rfl

end LowerCase

/-! ### What the tables say -/

/-- Characters that no name of a field has. -/
def fieldMarks : List Char := "\n%$[]\"\\,()<>".toList

/-- The combining dot above, which is neither a letter nor a digit. -/
def combiningDot : Char := '\u0307'

/-- Whether the character is one of ASCII. -/
def isAscii (c : Char) : Bool := c.toNat < 128

/-- What is checked about the characters of names and their images. -/
structure NameTables : Prop where
  /-- The images of letters are letters, digits and the combining dot, and no marks. Every image is
  computed for this, so it is checked at once. -/
  images : bits lowerMap.imageCodes &&& bits (fieldMarks.map Char.toNat) = 0
    ∧ bits lowerMap.imageCodes ||| (alphanumerics.bits ||| bits [combiningDot.toNat])
      = alphanumerics.bits ||| bits [combiningDot.toNat]
  /-- The final sigma is a letter. -/
  isNameChar_finalSigma : isNameChar 'ς'
  /-- The combining dot is neither a letter nor a digit. -/
  isNameChar_combiningDot : isNameChar combiningDot = false
  /-- No letter or digit is a blank. -/
  apart : alphanumerics.apart blanks
  /-- Both sets end with a cut. -/
  even : alphanumerics.cuts.toList.length % 2 = 0 ∧ blanks.cuts.toList.length % 2 = 0
  /-- The underscore is no blank. -/
  isBlank_underscore : isBlank '_' = false
  /-- The digits and the small letters of ASCII are letters and digits. -/
  stretches : (48, 58) ∈ alphanumerics.stretches ∧ (97, 123) ∈ alphanumerics.stretches
  /-- The characters of ASCII have the images that they have in ASCII alone. -/
  ascii : ∀ n ∈ List.range 128, lowerMap.image (Char.ofNat n) = [(Char.ofNat n).toLower]
  /-- The image of another character has a part outside of ASCII, the Kelvin sign apart. -/
  beyondAscii : ∀ r ∈ lowerMap.runs.toList, ∀ n ∈ r.codes,
    n < 128 ∨ n = 0x212A ∨ (r.image.apply n).any (!isAscii ·)
  /-- The Kelvin sign has the image of the letter. -/
  kelvin : lowerMap.image '\u212A' = ['k']

theorem nameTables : NameTables where
  images := by decide +kernel
  isNameChar_finalSigma := by decide +kernel
  isNameChar_combiningDot := by decide +kernel
  apart := by decide +kernel
  even := by decide +kernel
  isBlank_underscore := by decide +kernel
  stretches := by decide +kernel
  ascii := by decide +kernel
  beyondAscii := by decide +kernel
  kelvin := by decide +kernel

/-! ### Names of fields -/

theorem isFieldChar_iff_not_mem {c : Char} :
    (isFieldChar c ∧ c ≠ '<' ∧ c ≠ '>') ↔ c ∉ fieldMarks := by
  have hmarks : fieldMarks = ['\n', '%', '$', '[', ']', '"', '\\', ',', '(', ')', '<', '>'] := rfl
  simp only [hmarks, isFieldChar, isStructural, isArgumentMark, List.mem_cons, List.not_mem_nil]
  grind

/-- The name of a field has no part in lower case that the name of a field could not have. -/
theorem IsName.chars {name : List Char} (h : IsName name) :
    IsName (LowerCase.ofNames.chars name) := by
  obtain ⟨hchars, htrim⟩ := h
  constructor
  · intro d hd
    rw [isFieldChar_iff_not_mem]
    obtain ⟨c, hc, hd | ⟨-, rfl⟩⟩ := LowerCase.exists_of_mem_chars hd
    · obtain ⟨rfl, -⟩ | hcode := ScalarMap.mem_imageCodes hd
      · exact isFieldChar_iff_not_mem.1 (hchars d hc)
      · intro hmark
        exact not_mem_of_bits nameTables.images.1 hcode (List.mem_map_of_mem hmark)
    · decide
  · rw [LowerCase.settled_ofNames.trimChars_chars, Ne, LowerCase.settled_ofNames.chars_eq_nil_iff]
    exact htrim

/-- **A name that a field can have still is one in its normalized form.** -/
theorem isReferenceable_normalizeName {name : String} (h : isReferenceable (Text.trim name)) :
    isReferenceable (normalizeName name) := by
  rw [← String.ofList_toList (s := Text.trim name), ← isName_iff, toList_trim] at h
  rw [← String.ofList_toList (s := normalizeName name), ← isName_iff, toList_normalizeName]
  exact h.chars

/-! ### Names of functions -/

theorem isNameChar_or_eq_of_mem_imageCodes {d : Char} (h : d.toNat ∈ lowerMap.imageCodes) :
    isNameChar d ∨ d = combiningDot := by
  have hbit := testBit_of_bits nameTables.images.2 h
  rw [Nat.testBit_or, Bool.or_eq_true] at hbit
  rcases hbit with hbit | hbit
  · have halphanumeric : isAlphanumeric d := ScalarSet.contains_of_testBit hbit
    rw [isNameChar, halphanumeric, Bool.true_or]
    exact .inl rfl
  · have hdot : bits [combiningDot.toNat] = 2 ^ combiningDot.toNat := by
      simp [bits, Nat.one_shiftLeft]
    rw [hdot, Nat.testBit_two_pow, decide_eq_true_eq] at hbit
    exact .inr (Char.toNat_inj.1 hbit.symm)

/-- A name of a function has letters, digits and combining dots in lower case. -/
theorem isNameChar_or_eq_of_mem_lowerName {name : String} (h : isCallable name) {d : Char}
    (hd : d ∈ (lowerName name).toList) : isNameChar d ∨ d = combiningDot := by
  rw [isCallable, Bool.and_eq_true, List.all_eq_true] at h
  rw [toList_lowerName] at hd
  obtain ⟨c, hc, hd | ⟨-, rfl⟩⟩ := LowerCase.exists_of_mem_chars hd
  · obtain ⟨rfl, -⟩ | hcode := ScalarMap.mem_imageCodes hd
    · exact .inl (h.2 d hc)
    · exact isNameChar_or_eq_of_mem_imageCodes hcode
  · exact .inl nameTables.isNameChar_finalSigma

/-- **A name of a function is one in lower case as well, unless a combining dot has come up.** -/
theorem isCallable_lowerName_iff {name : String} (h : isCallable name) :
    isCallable (lowerName name) ↔ combiningDot ∉ (lowerName name).toList := by
  have hne : (lowerName name).toList.isEmpty = false := by
    rw [isCallable, Bool.and_eq_true, Bool.not_eq_true', List.isEmpty_eq_false_iff] at h
    rw [toList_lowerName, List.isEmpty_eq_false_iff, Ne, LowerCase.settled_ofNames.chars_eq_nil_iff]
    exact h.1
  rw [isCallable, hne, Bool.not_false, Bool.true_and, List.all_eq_true]
  constructor
  · intro hall hdot
    have hname := hall _ hdot
    rw [nameTables.isNameChar_combiningDot] at hname
    exact Bool.false_ne_true hname
  · intro hdot d hd
    refine (isNameChar_or_eq_of_mem_lowerName h hd).resolve_right ?_
    rintro rfl
    exact hdot hd

-- The one letter that brings up a dot.
example : isCallable "İ" = true ∧ lowerName "İ" = "i\u0307" ∧ isCallable "i\u0307" = false := by
  decide +kernel

theorem isBlank_of_isNameChar {c : Char} (h : isNameChar c) : isBlank c = false := by
  rw [isNameChar, Bool.or_eq_true, beq_iff_eq] at h
  rcases h with h | rfl
  · exact ScalarSet.contains_eq_false_of_apart nameTables.even.1 nameTables.even.2
      nameTables.apart h
  · exact nameTables.isBlank_underscore

theorem trimChars_of_forall_isNameChar {cs : List Char} (h : ∀ c ∈ cs, isNameChar c) :
    trimChars cs = cs := by
  have hblank : ∀ c ∈ cs, ¬ isBlank c := by
    intro c hc
    rw [isBlank_of_isNameChar (h c hc)]
    exact Bool.false_ne_true
  have hdrop : ∀ {cs : List Char}, (∀ c ∈ cs, ¬ isBlank c) → cs.dropWhile isBlank = cs := by
    intro cs hcs
    rw [List.dropWhile_eq_self_iff]
    exact fun hpos => hcs _ (List.getElem_mem hpos)
  rw [trimChars, hdrop hblank, hdrop (by simpa using hblank), List.reverse_reverse]

/-- A text of letters and digits has no blanks to lose. -/
theorem normalizeName_of_forall_isNameChar {name : String} (h : ∀ c ∈ name.toList, isNameChar c) :
    normalizeName name = lowerName name := by
  rw [← String.toList_inj, toList_normalizeName, toList_lowerName,
    trimChars_of_forall_isNameChar h]

/-- **The name of a function has no blanks to lose.** -/
theorem normalizeName_of_isCallable {name : String} (h : isCallable name) :
    normalizeName name = lowerName name := by
  rw [isCallable, Bool.and_eq_true, List.all_eq_true] at h
  exact normalizeName_of_forall_isNameChar h.2

/-! ### Texts of ASCII -/

variable {cased : Bool}

theorem image_of_isAscii {c : Char} (h : isAscii c) : lowerMap.image c = [c.toLower] := by
  rw [isAscii, decide_eq_true_eq] at h
  have himage := nameTables.ascii c.toNat (List.mem_range.2 h)
  rwa [Char.ofNat_toNat] at himage

theorem isAscii_of_image {c : Char} (h : ∀ d ∈ lowerMap.image c, isAscii d ∧ d ≠ 'k') :
    isAscii c := by
  obtain hself | ⟨r, hmem, hcovers, himage⟩ := ScalarMap.image_cases lowerMap c
  · rw [hself, List.forall_mem_singleton] at h
    exact h.1
  · obtain hc | hc | hany :=
      nameTables.beyondAscii r (Array.mem_toList_iff.2 hmem) c.toNat (r.mem_codes hcovers)
    · rw [isAscii, decide_eq_true_eq]
      exact hc
    · -- the Kelvin sign
      obtain rfl : c = '\u212A' := Char.toNat_inj.1 hc
      rw [nameTables.kelvin, List.forall_mem_singleton] at h
      exact absurd rfl h.2
    · obtain ⟨d, hd, hnot⟩ := List.any_eq_true.1 hany
      rw [← himage] at hd
      rw [(h d hd).1] at hnot
      contradiction

/-- The text in lower case is one of ASCII without a small k only if the text is one of ASCII. -/
theorem isAscii_of_mem {cs : List Char}
    (h : ∀ d ∈ LowerCase.ofNames.charsFrom cased [] cs, isAscii d ∧ d ≠ 'k') :
    ∀ c ∈ cs, isAscii c := by
  induction cs generalizing cased with
  | nil => simp
  | cons c cs ih =>
    rw [LowerCase.charsFrom_cons, List.forall_mem_append] at h
    refine List.forall_mem_cons.2 ⟨?_, ih h.2⟩
    obtain himage | ⟨-, hfinal⟩ := LowerCase.imageAt_cases .ofNames cased c cs
    · rw [himage] at h
      exact isAscii_of_image h.1
    · rw [hfinal, List.forall_mem_singleton] at h
      exact absurd h.1.1 (by decide)

/-- A text of ASCII is treated as in the lower case of ASCII. -/
theorem charsFrom_of_isAscii {cs : List Char} (h : ∀ c ∈ cs, isAscii c) :
    LowerCase.ofNames.charsFrom cased [] cs = cs.map Char.toLower := by
  induction cs generalizing cased with
  | nil => rfl
  | cons c cs ih =>
    obtain ⟨hc, hcs⟩ := List.forall_mem_cons.1 h
    have himage : LowerCase.ofNames.imageAt cased c cs = [c.toLower] := by
      obtain himage | ⟨rfl, -⟩ := LowerCase.imageAt_cases .ofNames cased c cs
      · rw [himage]
        exact image_of_isAscii hc
      · exact absurd hc (by decide)
    rw [LowerCase.charsFrom_cons, himage, ih hcs]
    rfl

/-- A character that is not a capital letter of ASCII is in the lower case of ASCII. -/
theorem toLower_of_not_capital {c : Char} (h : ¬ (65 ≤ c.toNat ∧ c.toNat ≤ 90)) :
    c.toLower = c := by
  unfold Char.toLower
  rw [dif_neg]
  rintro ⟨hA, hZ⟩
  exact h ⟨UInt32.le_iff_toNat_le.1 hA, UInt32.le_iff_toNat_le.1 hZ⟩

theorem isAscii_of_isAscii_toLower {c : Char} (h : isAscii c.toLower) : isAscii c := by
  by_cases hcapital : 65 ≤ c.toNat ∧ c.toNat ≤ 90
  · rw [isAscii, decide_eq_true_eq]
    omega
  · rwa [toLower_of_not_capital hcapital] at h

/-- **Texts whose lower case is a text of ASCII** are those whose lower case of ASCII it is, unless
it has a small k. -/
theorem LowerCase.chars_eq_iff_of_ascii {cs lower : List Char}
    (h : ∀ d ∈ lower, isAscii d ∧ d ≠ 'k') :
    LowerCase.ofNames.chars cs = lower ↔ cs.map Char.toLower = lower := by
  constructor
  · rintro rfl
    exact (charsFrom_of_isAscii (isAscii_of_mem h)).symm
  · rintro rfl
    refine charsFrom_of_isAscii fun c hc => ?_
    exact isAscii_of_isAscii_toLower (h _ (List.mem_map_of_mem hc)).1

end TitleScript
