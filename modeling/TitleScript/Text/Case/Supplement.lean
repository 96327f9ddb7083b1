import TitleScript.Text.ScalarMap
import TitleScript.Text.ScalarSet

/-!
# Letters of the next edition

The character database grows by editions, which add characters and take nothing back. The tables
of the case mappings and of the classes around a sigma describe one edition; what the edition
after it adds to them is here. Most of the additions are pairs of Latin letters for phonetic
notation, and four of the capitals belong to small letters that had none before.

## Main definitions

* `Text.lowerSupplement`, `Text.upperSupplement`, `Text.foldSupplement` — additions to the mappings
* `Text.casedSupplement`, `Text.ignorableSupplement` — additions to the classes
-/

namespace TitleScript

namespace Text

open ScalarMap

/-- Additions to the mapping to lower case. -/
@[irreducible]
def lowerSupplement : ScalarMap where
  runs := #[
    ⟨0xA7DD, 0xA7DD, 1, .shift (-42342)⟩, ⟨0xA7E2, 0xA7E2, 1, .shift (-42342)⟩,
    ⟨0xAB6C, 0xAB6D, 1, .shift (-33)⟩, ⟨0x1DF40, 0x1DF40, 1, .shift 1⟩,
    ⟨0x1DF48, 0x1DF4A, 2, .shift 1⟩, ⟨0x1DF4D, 0x1DF4D, 1, .shift 1⟩,
    ⟨0x1DF51, 0x1DF51, 1, .shift 1⟩, ⟨0x1DF68, 0x1DF6E, 2, .shift 1⟩,
    ⟨0x1DF72, 0x1DF7E, 2, .shift 1⟩]

/-- Additions to the mapping to upper case. -/
@[irreducible]
def upperSupplement : ScalarMap where
  runs := #[
    ⟨0x277, 0x277, 1, .shift 42342⟩, ⟨0x27C, 0x27C, 1, .shift 42342⟩,
    ⟨0xAB4B, 0xAB4C, 1, .shift 33⟩, ⟨0x1DF41, 0x1DF41, 1, .shift (-1)⟩,
    ⟨0x1DF49, 0x1DF4B, 2, .shift (-1)⟩, ⟨0x1DF4E, 0x1DF4E, 1, .shift (-1)⟩,
    ⟨0x1DF52, 0x1DF52, 1, .shift (-1)⟩, ⟨0x1DF69, 0x1DF6F, 2, .shift (-1)⟩,
    ⟨0x1DF73, 0x1DF7F, 2, .shift (-1)⟩, ⟨0x1DF95, 0x1DF95, 1, .text [0x53, 0x53]⟩]

/-- Additions to the folding of case. -/
@[irreducible]
def foldSupplement : ScalarMap where
  runs := #[
    ⟨0xA7DD, 0xA7DD, 1, .shift (-42342)⟩, ⟨0xA7E2, 0xA7E2, 1, .shift (-42342)⟩,
    ⟨0xAB6C, 0xAB6D, 1, .shift (-33)⟩, ⟨0x1DF40, 0x1DF40, 1, .shift 1⟩,
    ⟨0x1DF48, 0x1DF4A, 2, .shift 1⟩, ⟨0x1DF4D, 0x1DF4D, 1, .shift 1⟩,
    ⟨0x1DF51, 0x1DF51, 1, .shift 1⟩, ⟨0x1DF68, 0x1DF6E, 2, .shift 1⟩,
    ⟨0x1DF72, 0x1DF7E, 2, .shift 1⟩, ⟨0x1DF95, 0x1DF95, 1, .text [0x73, 0x73]⟩]

/-- Additions to the letters with a case. -/
@[irreducible]
def casedSupplement : ScalarSet where
  cuts := #[
    0xA7DD, 0xA7DE, 0xA7E2, 0xA7E3, 0xAB6C, 0xAB6E, 0x1D6A6, 0x1D6A7, 0x1DF1F, 0x1DF25, 0x1DF2B,
    0x1DF8F, 0x1DF90, 0x1DF97]

/-- Additions to the characters that the search for a neighbouring letter passes over. -/
@[irreducible]
def ignorableSupplement : ScalarSet where
  cuts := #[
    0x558, 0x559, 0x58B, 0x58D, 0x5C8, 0x5CA, 0xB53, 0xB55, 0x1ADE, 0x1AE0, 0x1AEC, 0x1AF1, 0x209D,
    0x20A0, 0x107BB, 0x107C0, 0x10EC9, 0x10ED0, 0x10EF0, 0x10EFA, 0x11DF0, 0x11DF1, 0x1D127,
    0x1D129, 0x1D25B, 0x1D25D, 0x1DFCD, 0x1E000]

end Text

end TitleScript
