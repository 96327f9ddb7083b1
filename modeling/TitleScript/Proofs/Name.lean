import TitleScript.Proofs.Text.LowerCase
import TitleScript.Registry
import TitleScript.Track

/-!
# Spellings of a name

Registries and tracks look a name up under its normalized form. So spellings with one normalized
form have one meaning for both of them, and the normalized form and the name in lower case are
spellings of the name like any other.

## Main results

* `lowerName_lowerName`, `normalizeName_normalizeName` — the forms of a name are stable
* `normalizeName_lowerName` — names that differ in case have one normalized form
* `Registry.resolvesField_congr`, `Track.values_congr` — spellings of a name have one meaning
-/

namespace TitleScript

open Text

theorem Text.trimChars_trimChars (cs : List Char) : trimChars (trimChars cs) = trimChars cs := by
  rw [trimChars_eq cs, trimChars_eq]
  -- what is left of a text without blanks in front does not begin with a blank
  have hdrop : ((cs.dropWhile isBlank).rdropWhile isBlank).dropWhile isBlank
      = (cs.dropWhile isBlank).rdropWhile isBlank := by
    obtain ⟨after, hafter⟩ := List.rdropWhile_prefix isBlank (cs.dropWhile isBlank)
    cases hleft : (cs.dropWhile isBlank).rdropWhile isBlank with
    | nil => rfl
    | cons c left =>
      rw [hleft] at hafter
      have hhead := List.head?_dropWhile_not isBlank cs
      rw [← hafter] at hhead
      have hc : isBlank c = false := hhead
      rw [List.dropWhile_cons_of_neg (by simp [hc])]
  rw [hdrop, List.rdropWhile_idempotent]

/-! ### Forms of a name -/

theorem toList_lowerName (name : String) :
    (lowerName name).toList = LowerCase.ofNames.chars name.toList :=
  LowerCase.toList_text LowerCase.ofNames name

theorem toList_normalizeName (name : String) :
    (normalizeName name).toList = LowerCase.ofNames.chars (trimChars name.toList) := by
  rw [normalizeName, toList_lowerName, toList_trim]

@[simp]
theorem lowerName_lowerName (name : String) : lowerName (lowerName name) = lowerName name := by
  rw [← String.toList_inj, toList_lowerName, toList_lowerName]
  exact LowerCase.settled_ofNames.chars_chars name.toList

/-- **A name in lower case has the normalized form that it had before.** -/
@[simp]
theorem normalizeName_lowerName (name : String) :
    normalizeName (lowerName name) = normalizeName name := by
  rw [← String.toList_inj, toList_normalizeName, toList_normalizeName, toList_lowerName,
    LowerCase.settled_ofNames.trimChars_chars, LowerCase.settled_ofNames.chars_chars]

/-- **A normalized name is normalized.** -/
@[simp]
theorem normalizeName_normalizeName (name : String) :
    normalizeName (normalizeName name) = normalizeName name := by
  rw [← String.toList_inj, toList_normalizeName, toList_normalizeName,
    LowerCase.settled_ofNames.trimChars_chars, LowerCase.settled_ofNames.chars_chars,
    trimChars_trimChars]

@[simp]
theorem normalizeName_trim (name : String) : normalizeName (trim name) = normalizeName name := by
  rw [← String.toList_inj, toList_normalizeName, toList_normalizeName, toList_trim,
    trimChars_trimChars]

/-- A normalized name has no blanks to lose. -/
@[simp]
theorem trim_normalizeName (name : String) : trim (normalizeName name) = normalizeName name := by
  rw [← String.toList_inj, toList_trim, toList_normalizeName,
    LowerCase.settled_ofNames.trimChars_chars, trimChars_trimChars]

/-- A normalized name is in lower case. -/
@[simp]
theorem lowerName_normalizeName (name : String) :
    lowerName (normalizeName name) = normalizeName name :=
  lowerName_lowerName (trim name)

/-! ### Meaning of a name -/

variable {name other : String}

theorem Registry.resolvesField_congr (r : Registry) (h : normalizeName name = normalizeName other) :
    r.resolvesField name = r.resolvesField other := by
  rw [resolvesField, resolvesField, fieldKind?, fieldKind?, h]

theorem Track.values_congr (t : Track) (h : normalizeName name = normalizeName other) :
    t.values name = t.values other := by
  rw [values, values, values?, values?, h]

end TitleScript
