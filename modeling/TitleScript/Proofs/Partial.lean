import TitleScript.Proofs.Text.Boundary
import TitleScript.Proofs.Text.Integer

/-!
# Operations with a range

Some operations make sense only within a range: natural numbers can be subtracted only if the
difference is not negative, a number of 64 bits can be negated only if its negative has 64 bits as
well, a list has something behind its first elements only if it has as many, and a text can be
parted only at a boundary. Definitions use operations that are total and say something also outside
of that range. Those here fail there, so that a definition written with them and shown not to fail
is known to keep within the range.

Reading a number and cutting a text are the first two examples. A sign is a single byte, so the text
can be parted behind it, and no magnitude is so great that its negative is out of the range. A cut
seeks its end backwards, and comes to a boundary before it could go below zero.

## Main definitions

* `sub?`, `neg?`, `behind?`, `splitAt?` — operations that fail outside of their range
* `boundaryBefore?` — a search backwards that fails if it would go below zero
* `readInteger?`, `Outcome.truncate?` — reading a number and cutting with such operations

## Main results

* `splitAt?_append` — a text can be parted behind each of its beginnings
* `boundaryBefore?_eq` — the search backwards finds the end of a cut
* `readInteger?_eq`, `Outcome.truncate?_eq` — neither reading nor cutting fails
-/

namespace TitleScript

open Text

/-! ### Operations -/

instance (x : Int) : Decidable (InRange x) :=
  inferInstanceAs (Decidable (least ≤ x ∧ x ≤ greatest))

/-- The difference of two natural numbers, if it is not negative. -/
def sub? (m n : Nat) : Option Nat :=
  if n ≤ m then some (m - n) else none

/-- The negative of a number of 64 bits, if it has 64 bits as well. -/
def neg? (x : Int) : Option Int :=
  if InRange x ∧ InRange (-x) then some (-x) else none

/-- What is behind the first `n` elements of a list, if there are as many. -/
def behind? {α : Type} (xs : List α) (n : Nat) : Option (List α) :=
  if n ≤ xs.length then some (xs.drop n) else none

/-- A text parted at a byte position, if that is a boundary. -/
def splitAt? (cs : List Char) (n : Nat) : Option (List Char × List Char) :=
  if IsBoundary (String.ofList cs) n then
    some (takeBytes n cs, cs.drop (takeBytes n cs).length)
  else none

theorem sub?_eq {m n : Nat} (h : n ≤ m) : sub? m n = some (m - n) := if_pos h

theorem eq_add_of_sub? {m n k : Nat} (h : sub? m n = some k) : m = k + n := by
  rw [sub?] at h
  split at h
  · next hle =>
    obtain rfl := Option.some.inj h
    exact (Nat.sub_add_cancel hle).symm
  · cases h

theorem neg?_eq {x : Int} (h : IsReadable x) : neg? x = some (-x) := by
  have hneg : InRange (-x) := by
    simp only [IsReadable, InRange, greatest, least] at *
    omega
  exact if_pos ⟨h.inRange, hneg⟩

theorem behind?_eq {α : Type} {xs : List α} {n : Nat} (h : n ≤ xs.length) :
    behind? xs n = some (xs.drop n) := if_pos h

/-- A text can be parted behind any of its beginnings. -/
theorem splitAt?_append (before behind : List Char) :
    splitAt? (before ++ behind) (byteLength before) = some (before, behind) := by
  have htake : takeBytes (byteLength before) (before ++ behind) = before := by
    have hprefix : before <+: before ++ behind := List.prefix_append before behind
    have hfits := byteLength_takeBytes_le (byteLength before) (before ++ behind)
    obtain ⟨rest, hrest⟩ := prefix_takeBytes hprefix (Nat.le_refl _)
    -- no character is left without a byte
    rw [← hrest, byteLength_append] at hfits
    have hnil : rest = [] := by
      by_contra hne
      have := byteLength_pos hne
      omega
    rw [← hrest, hnil, List.append_nil]
  have hboundary : IsBoundary (String.ofList (before ++ behind)) (byteLength before) := by
    refine isBoundary_iff.2 ⟨before, ?_, rfl⟩
    rw [String.toList_ofList]
    exact List.prefix_append before behind
  rw [splitAt?, if_pos hboundary, htake, List.drop_left]

/-! ### Reading numbers -/

/-- The number a text without blanks before it begins with. A sign is taken off behind its single
byte, and the magnitude is negated. -/
def readSigned? : List Char → Option Int
  | '-' :: cs => do
    let (_, digits) ← splitAt? ('-' :: cs) 1
    neg? (readMagnitude digits)
  | '+' :: cs => do
    let (_, digits) ← splitAt? ('+' :: cs) 1
    some (readMagnitude digits)
  | cs => some (readMagnitude cs)

/-- The number a text begins with. -/
def readInteger? (s : String) : Option Int :=
  readSigned? (s.toList.dropWhile isBlank)

/-- A sign has one byte, and no magnitude has a negative beyond the range. -/
theorem readSigned?_eq (cs : List Char) : readSigned? cs = some (readSigned cs) := by
  have hminus (cs : List Char) : splitAt? ('-' :: cs) 1 = some (['-'], cs) :=
    splitAt?_append ['-'] cs
  have hplus (cs : List Char) : splitAt? ('+' :: cs) 1 = some (['+'], cs) :=
    splitAt?_append ['+'] cs
  fun_cases readSigned? cs with
  | case1 cs =>
    rw [hminus, readSigned]
    exact neg?_eq (isReadable_readMagnitude cs)
  | case2 cs =>
    rw [hplus, readSigned]
    rfl
  | case3 cs hnotMinus hnotPlus =>
    rw [readSigned]
    · exact hnotMinus
    · exact hnotPlus

theorem readInteger?_eq (s : String) : readInteger? s = some (readInteger s) :=
  readSigned?_eq _

/-! ### Cutting -/

/-- The nearest boundary at or before a position, sought backwards byte by byte. There is none if
the search would have to go below zero. -/
def boundaryBefore? (s : String) : Nat → Option Nat
  | 0 => if IsBoundary s 0 then some 0 else none
  | n + 1 => if IsBoundary s (n + 1) then some (n + 1) else boundaryBefore? s n

/-- **The search backwards finds the greatest boundary that fits.** -/
theorem boundaryBefore?_eq (s : String) (room : Nat) :
    boundaryBefore? s room = some (cut room s).utf8ByteSize := by
  suffices h : ∀ n, IsGreatest {m | IsBoundary s m ∧ m ≤ room} n →
      boundaryBefore? s room = some n from h _ (isGreatest_cut room s)
  induction room with
  | zero =>
    rintro n ⟨⟨-, hn⟩, -⟩
    rw [boundaryBefore?, if_pos (isBoundary_zero s), Nat.le_zero.1 hn]
  | succ room ih =>
    rintro n ⟨⟨hboundary, hn⟩, hgreatest⟩
    rw [boundaryBefore?]
    split
    · next hlast =>
      have hle : room + 1 ≤ n := hgreatest ⟨hlast, Nat.le_refl _⟩
      rw [Nat.le_antisymm hle hn]
    · next hlast =>
      have hne : n ≠ room + 1 := fun heq => hlast (heq ▸ hboundary)
      exact ih n ⟨⟨hboundary, by omega⟩, fun m hm => hgreatest ⟨hm.1, Nat.le_succ_of_le hm.2⟩⟩

/-- The outcome with its text cut to at most `room` bytes. The end is sought backwards from there,
and the text parted at the place found. -/
def Outcome.truncate? (o : Outcome) (room : Nat) : Option Outcome :=
  if o.text.utf8ByteSize ≤ room then some o
  else do
    let stop ← boundaryBefore? o.text room
    let (kept, _) ← splitAt? o.text.toList stop
    some { o with text := String.ofList kept }

/-- The search backwards ends at a boundary, where the text can be parted. -/
theorem Outcome.truncate?_eq (o : Outcome) (room : Nat) :
    o.truncate? room = some (o.truncate room) := by
  rw [truncate?, truncate]
  split
  · next hfits => rw [cut_of_le hfits]
  · obtain ⟨rest, hrest⟩ := takeBytes_isPrefix room o.text.toList
    have hsplit := splitAt?_append (takeBytes room o.text.toList) rest
    rw [hrest, ← utf8ByteSize_cut] at hsplit
    rw [boundaryBefore?_eq, cut_eq] at *
    simp [hsplit]

end TitleScript
