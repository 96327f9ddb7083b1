import Mathlib.Order.Bounds.Basic
import TitleScript.Outcome
import TitleScript.Proofs.Text.Position

/-!
# Cutting at boundaries

A text can be parted at a byte position only if whole characters stand on both sides of it. Such a
position is a boundary, and the beginnings of a text go with its boundaries, a longer beginning with
a greater one. So the longest beginning that fits into a number of bytes ends at the greatest
boundary that is not beyond them, and this is what a cut leaves.

## Main definitions

* `Text.IsBoundary` — whole characters stand before and behind a byte position

## Main results

* `Text.prefix_takeBytes` — what fits is part of what is taken
* `Text.isGreatest_cut` — a cut leaves what is before the greatest boundary that fits
* `truncate_longest_fitting` — the outcome that a cut leaves
-/

namespace TitleScript

namespace Text

/-! ### Boundaries -/

/-- The byte position has whole characters on both sides. -/
def IsBoundary (s : String) (n : Nat) : Prop :=
  (⟨n⟩ : String.Pos.Raw).IsValid s

instance (s : String) (n : Nat) : Decidable (IsBoundary s n) :=
  inferInstanceAs (Decidable ((⟨n⟩ : String.Pos.Raw).IsValid s))

variable {s : String} {room n : Nat} {cs taken : List Char}

/-- The boundaries of a text are the lengths of its beginnings. -/
theorem isBoundary_iff : IsBoundary s n ↔ ∃ taken, taken <+: s.toList ∧ byteLength taken = n := by
  rw [IsBoundary, String.Pos.Raw.isValid_iff_exists_take_toList]
  constructor
  · rintro ⟨i, hi⟩
    refine ⟨s.toList.take i, List.take_prefix i s.toList, ?_⟩
    rw [← utf8ByteSize_ofList]
    exact hi.symm
  · rintro ⟨taken, htaken, rfl⟩
    refine ⟨taken.length, ?_⟩
    rw [← List.prefix_iff_eq_take.1 htaken]
    exact (utf8ByteSize_ofList taken).symm

theorem isBoundary_zero (s : String) : IsBoundary s 0 :=
  String.Pos.Raw.isValid_zero

/-! ### The longest beginning that fits -/

theorem byteLength_le_of_prefix (h : taken <+: cs) : byteLength taken ≤ byteLength cs := by
  obtain ⟨rest, rfl⟩ := h
  rw [byteLength_append]
  exact Nat.le_add_right _ _

theorem takeBytes_isPrefix (room : Nat) (cs : List Char) : takeBytes room cs <+: cs := by
  induction cs generalizing room with
  | nil => exact List.prefix_rfl
  | cons c cs ih =>
    rw [takeBytes_cons]
    split
    · exact List.cons_prefix_cons.2 ⟨rfl, ih _⟩
    · exact List.nil_prefix

/-- Every beginning that fits is a beginning of what is taken. -/
theorem prefix_takeBytes (h : taken <+: cs) (hfits : byteLength taken ≤ room) :
    taken <+: takeBytes room cs := by
  induction cs generalizing room taken with
  | nil => exact h
  | cons c cs ih =>
    cases taken with
    | nil => exact List.nil_prefix
    | cons d taken =>
      obtain ⟨rfl, htaken⟩ := List.cons_prefix_cons.1 h
      rw [byteLength_cons] at hfits
      rw [takeBytes_cons, if_pos (by omega)]
      exact List.cons_prefix_cons.2 ⟨rfl, ih htaken (by omega)⟩

/-- What fits is taken whole. -/
theorem takeBytes_of_le (h : byteLength cs ≤ room) : takeBytes room cs = cs :=
  (takeBytes_isPrefix room cs).eq_of_length_le (prefix_takeBytes List.prefix_rfl h).length_le

/-- Of what has been taken, as much is taken as fits into the smaller number of bytes. -/
theorem takeBytes_takeBytes (room other : Nat) (cs : List Char) :
    takeBytes other (takeBytes room cs) = takeBytes (min room other) cs := by
  have hboth := takeBytes_isPrefix (min room other) cs
  have hfits := byteLength_takeBytes_le (min room other) cs
  have htaken : takeBytes other (takeBytes room cs) <+: takeBytes (min room other) cs := by
    refine prefix_takeBytes ((takeBytes_isPrefix _ _).trans (takeBytes_isPrefix _ _)) ?_
    have hroom := byteLength_takeBytes_le room cs
    have hother := byteLength_takeBytes_le other (takeBytes room cs)
    have hle := byteLength_le_of_prefix (takeBytes_isPrefix other (takeBytes room cs))
    omega
  have hall : takeBytes (min room other) cs <+: takeBytes other (takeBytes room cs) :=
    prefix_takeBytes (prefix_takeBytes hboth (by omega)) (by omega)
  exact htaken.eq_of_length_le hall.length_le

/-! ### Cuts -/

theorem cut_eq (room : Nat) (s : String) :
    cut room s = String.ofList (takeBytes room s.toList) := by
  rw [cut]
  split
  · next hfits =>
    rw [utf8ByteSize_eq] at hfits
    rw [takeBytes_of_le hfits, String.ofList_toList]
  · rfl

theorem toList_cut (room : Nat) (s : String) : (cut room s).toList = takeBytes room s.toList := by
  rw [cut_eq, String.toList_ofList]

theorem utf8ByteSize_cut (room : Nat) (s : String) :
    (cut room s).utf8ByteSize = byteLength (takeBytes room s.toList) := by
  rw [cut_eq, utf8ByteSize_ofList]

/-- **A cut leaves what is before the greatest boundary that fits.** -/
theorem isGreatest_cut (room : Nat) (s : String) :
    IsGreatest {n | IsBoundary s n ∧ n ≤ room} (cut room s).utf8ByteSize := by
  rw [utf8ByteSize_cut]
  constructor
  · have hprefix := takeBytes_isPrefix room s.toList
    exact ⟨isBoundary_iff.2 ⟨_, hprefix, rfl⟩, byteLength_takeBytes_le room s.toList⟩
  · rintro n ⟨hboundary, hfits⟩
    obtain ⟨taken, htaken, rfl⟩ := isBoundary_iff.1 hboundary
    exact byteLength_le_of_prefix (prefix_takeBytes htaken hfits)

theorem cut_cut_min (room other : Nat) (s : String) :
    cut other (cut room s) = cut (min room other) s := by
  rw [cut_eq other, toList_cut, takeBytes_takeBytes, ← cut_eq]

end Text

open Text

/-- **A cut leaves the longest beginning that fits.** It ends at the greatest boundary of the text
that is not beyond the given number of bytes, and the flags stay as they are. Of two cuts, the
shorter one decides, whichever comes first; and with room for a character of any length, nothing is
left only of nothing. -/
theorem truncate_longest_fitting (o : Outcome) (room : Nat) :
    let kept := o.truncate room
    (kept.success = o.success ∧ kept.isEmpty = o.isEmpty)
      ∧ (∃ rest, o.text = kept.text ++ rest)
      ∧ IsGreatest {n | IsBoundary o.text n ∧ n ≤ room} kept.text.utf8ByteSize
      ∧ (∀ other, kept.truncate other = o.truncate (min room other))
      ∧ (4 ≤ room → (kept.text = "" ↔ o.text = "")) := by
  intro kept
  refine ⟨⟨rfl, rfl⟩, ?_, isGreatest_cut room o.text, ?_, ?_⟩
  · obtain ⟨rest, hrest⟩ := takeBytes_isPrefix room o.text.toList
    refine ⟨String.ofList rest, ?_⟩
    show o.text = cut room o.text ++ String.ofList rest
    rw [cut_eq, ← String.ofList_append, hrest, String.ofList_toList]
  · intro other
    show { o with text := cut other (cut room o.text) } = o.truncate (min room other)
    rw [cut_cut_min, Outcome.truncate]
  · intro hroom
    exact cut_eq_empty_iff hroom

/-- Cuts inside a character, with room for less than one, and with room for any. -/
theorem truncate_longest_fitting_snowman :
    let o : Outcome := .ofField "☃é"
    IsGreatest {n | IsBoundary o.text n ∧ n ≤ 4} 3
      ∧ (o.truncate 2).truncate 4 = o.truncate 2 ∧ (o.truncate 2).text = ""
      ∧ 4 ≤ 4 ∧ (o.truncate 4).text ≠ "" := by
  intro o
  obtain ⟨-, -, hgreatest, -, hempty⟩ := truncate_longest_fitting o 4
  obtain ⟨-, -, -, htwice, -⟩ := truncate_longest_fitting o 2
  have hlength : (o.truncate 4).text.utf8ByteSize = 3 := by decide +kernel
  rw [hlength] at hgreatest
  refine ⟨hgreatest, htwice 4, by decide +kernel, Nat.le_refl 4, ?_⟩
  intro hnone
  exact absurd ((hempty (Nat.le_refl 4)).1 hnone) (by decide +kernel)

end TitleScript
