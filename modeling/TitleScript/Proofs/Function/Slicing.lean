import TitleScript.Function
import TitleScript.Proofs.Text.Integer

/-!
# Taking texts apart

Four functions take texts apart, and each has its own way to say where: the length of a beginning,
the length of an end, the first and the last position of a part counted from one, and the number of
characters before something that is put in. Behind all of them stands one thing, the slice of a
text between two places, where a place is the number of characters before it.

Slices that meet can be put together, and that is all there is to say about cutting a text in two
or three. What else there is to say is about the numbers. They are limited like every width and
number of copies, and for a beginning, an end or a place to put something in that makes no
difference as long as the text is no longer than the limit. Positions are not widths: one beyond
the limit becomes the limit itself, so a part that lies behind the limit is asked for in vain, and
the character at the limit comes in its place.

## Main definitions

* `Text.slice` — the part of a text between two places
* `Builtin.textOf` — what a function makes of texts, before it is cut

## Main results

* `Text.slice_append_slice` — slices that meet can be put together
* `Builtin.textOf_left`, `textOf_right`, `textOf_middle`, `textOf_insert` — functions as slices
* `slices_reassemble` — the parts of a text put together are the text
* `middle_covers_range` — the characters that lie within a range of positions
-/

namespace TitleScript

open Text

/-! ### Slices -/

namespace Text

/-- The characters of a text behind the first `m` and up to the `n`-th, as a reader counts them. -/
def slice (s : String) (m n : Nat) : String :=
  String.ofList (((clusters s.toList).take n).drop m).flatten

variable (s : String) {m n k : Nat}

theorem slice_eq_empty (h : n ≤ m) : slice s m n = "" := by
  have hlength : ((clusters s.toList).take n).length ≤ m :=
    (List.length_take_le n _).trans h
  rw [slice, List.drop_eq_nil_of_le hlength]
  rfl

/-- **Slices that meet can be put together.** -/
theorem slice_append_slice (hmn : m ≤ n) (hnk : n ≤ k) :
    slice s m n ++ slice s n k = slice s m k := by
  have hsplit (pieces : List (List Char)) :
      (pieces.take n).drop m ++ pieces.drop n = pieces.drop m := by
    have hrest : pieces.drop n = (pieces.drop m).drop (n - m) := by
      rw [List.drop_drop, Nat.add_sub_cancel' hmn]
    rw [List.drop_take, hrest, List.take_append_drop]
  have htake : (clusters s.toList).take n = ((clusters s.toList).take k).take n := by
    rw [List.take_take, Nat.min_eq_left hnk]
  rw [slice, slice, slice, ← String.ofList_append, ← List.flatten_append, htake, hsplit]

theorem slice_to_end : slice s m (Text.length s)
    = String.ofList ((clusters s.toList).drop m).flatten := by
  have hall : (clusters s.toList).take (Text.length s) = clusters s.toList := List.take_length
  rw [slice, hall]

/-- The slice from the beginning to the end is the text. -/
theorem slice_all : slice s 0 (Text.length s) = s := by
  rw [slice_to_end, List.drop_zero, flatten_clusters, String.ofList_toList]

/-- A slice that ends behind the end of the text ends there. -/
theorem slice_min_right (m n : Nat) : slice s m (min n (Text.length s)) = slice s m n := by
  have htake : (clusters s.toList).take (min n (Text.length s)) = (clusters s.toList).take n := by
    rw [List.take_eq_take_iff, Nat.min_assoc, Text.length, Nat.min_self]
  rw [slice, htake, slice]

/-- There is nothing behind the end of the text. -/
theorem slice_eq_empty_of_length_le (h : Text.length s ≤ m) (n : Nat) : slice s m n = "" := by
  rw [← slice_min_right, slice_eq_empty s ((Nat.min_le_right ..).trans h)]

/-- A slice that begins behind the end of the text is empty, like one that begins there. -/
theorem slice_min_left (m n : Nat) : slice s (min m (Text.length s)) n = slice s m n := by
  obtain hle | hge := Nat.le_total m (Text.length s)
  · rw [Nat.min_eq_left hle]
  · rw [Nat.min_eq_right hge, slice_eq_empty_of_length_le s (Nat.le_refl _),
      slice_eq_empty_of_length_le s hge]

/-- A slice that would end before it begins ends where it begins. -/
theorem slice_max_right (m n : Nat) : slice s m (max m n) = slice s m n := by
  obtain hle | hge := Nat.le_total n m
  · rw [Nat.max_eq_left hle, slice_eq_empty s hle, slice_eq_empty s (Nat.le_refl m)]
  · rw [Nat.max_eq_right hge]

/-- The text falls into what is before a slice, the slice, and what is behind it. -/
theorem exists_slice_eq (m n : Nat) :
    ∃ before shown behind, clusters s.toList = before ++ shown ++ behind
      ∧ slice s m n = String.ofList shown.flatten
      ∧ before.length = min m (Text.length s)
      ∧ before.length + shown.length = min (max m n) (Text.length s) := by
  refine ⟨(clusters s.toList).take m, ((clusters s.toList).take (max m n)).drop m,
    (clusters s.toList).drop (max m n), ?_, (slice_max_right s m n).symm, List.length_take, ?_⟩
  · have htake : (clusters s.toList).take m = ((clusters s.toList).take (max m n)).take m := by
      rw [List.take_take, Nat.min_eq_left (Nat.le_max_left m n)]
    rw [htake, List.take_append_drop, List.take_append_drop]
  · rw [List.length_drop, List.length_take, List.length_take, Text.length]
    omega

/-- A slice with a character in it is not empty. -/
theorem slice_ne_empty (hmn : m < n) (hm : m < Text.length s) : slice s m n ≠ "" := by
  obtain ⟨before, shown, behind, hsplit, hshown, hbefore, hend⟩ := exists_slice_eq s m n
  have hlength : 0 < shown.length := by omega
  obtain ⟨piece, shown, rfl⟩ := List.exists_cons_of_length_pos hlength
  have hmem : piece ∈ clusters s.toList := by simp [hsplit]
  have hpiece : piece ≠ [] := ne_nil_of_mem_clusters hmem
  rw [hshown, ← String.ofList_nil, Ne, String.ofList_inj, List.flatten_cons, List.append_eq_nil_iff]
  intro h
  exact hpiece h.1

end Text

/-! ### One character over and over -/

section Replicate

variable {c : Char} (h : (ClusterState.start (.ofChar c)).joins (.ofChar c) = false)

include h

theorem piecesFrom_replicate (done : List (List Char)) (n : Nat) :
    clusterSegmenter.piecesFrom (.start (.ofChar c)) [c] done (List.replicate n c)
      = done.reverse ++ List.replicate (n + 1) [c] := by
  induction n generalizing done with
  | zero => exact List.reverse_cons
  | succ n ih =>
    have hadvance : clusterSegmenter.advance (.start (.ofChar c)) c (List.replicate n c) = none :=
      if_neg (Bool.eq_false_iff.1 h)
    rw [List.replicate_succ, Segmenter.piecesFrom, hadvance]
    refine (ih _).trans ?_
    rw [List.reverse_cons, List.append_assoc, List.replicate_succ (n := n + 1)]
    rfl

/-- A character that does not join itself is a character of its own each time. -/
theorem clusters_replicate (n : Nat) :
    clusters (List.replicate n c) = List.replicate n [c] := by
  cases n with
  | zero => rfl
  | succ n => exact piecesFrom_replicate h [] n

theorem length_replicate (n : Nat) : Text.length (String.ofList (List.replicate n c)) = n := by
  rw [Text.length, String.toList_ofList, clusters_replicate h, List.length_replicate]

theorem slice_replicate (n m k : Nat) :
    slice (String.ofList (List.replicate n c)) m k
      = String.ofList (List.replicate (min k n - m) c) := by
  rw [slice, String.toList_ofList, clusters_replicate h, List.take_replicate, List.drop_replicate,
    List.flatten_replicate_singleton]

end Replicate

/-! ### Numbers as arguments -/

theorem argumentCount_writeInteger {args : List Outcome} {i : Nat} {n : Int}
    (h : argumentText args i = writeInteger n) : argumentCount args i = min n.toNat maxCount := by
  rw [argumentCount, argumentNumber, h, readInteger_writeInteger]
  simp only [clamp, greatest, maxCount]
  omega

/-! ### Functions as slices -/

/-- What a function makes of texts, before it is cut to size. -/
def Builtin.textOf (ctx : Context) (b : Builtin) (texts : List String) : String :=
  (b.run ctx (texts.map Outcome.literal)).text

section Functions

variable (ctx : Context) (s x : String) (n a b : Int)

theorem textOf_left :
    Builtin.left.textOf ctx [s, writeInteger n] = slice s 0 (min n.toNat maxCount) := by
  have hcount : argumentCount ([s, writeInteger n].map .literal) 1 = min n.toNat maxCount :=
    argumentCount_writeInteger rfl
  rw [Builtin.textOf, Builtin.run, Textual.left, hcount]
  rfl

theorem textOf_right :
    Builtin.right.textOf ctx [s, writeInteger n]
      = slice s (Text.length s - min n.toNat maxCount) (Text.length s) := by
  have hcount : argumentCount ([s, writeInteger n].map .literal) 1 = min n.toNat maxCount :=
    argumentCount_writeInteger rfl
  rw [Builtin.textOf, Builtin.run, Textual.right, hcount, slice_to_end]
  rfl

theorem textOf_middle :
    Builtin.middle.textOf ctx [s, writeInteger a, writeInteger b]
      = slice s (max (min a.toNat maxCount) 1 - 1) (min b.toNat maxCount) := by
  have hfirst : argumentCount ([s, writeInteger a, writeInteger b].map .literal) 1
      = min a.toNat maxCount := argumentCount_writeInteger rfl
  have hlast : argumentCount ([s, writeInteger a, writeInteger b].map .literal) 2
      = min b.toNat maxCount := argumentCount_writeInteger rfl
  rw [Builtin.textOf, Builtin.run, Textual.middle, hfirst, hlast]
  have hpos : 1 ≤ max (min a.toNat maxCount) 1 := Nat.le_max_right _ 1
  generalize max (min a.toNat maxCount) 1 = first, min b.toNat maxCount = last at hpos
  split
  · next h =>
    rw [slice_eq_empty s (by omega)]
    rfl
  · next h =>
    have hwidth : last - first + 1 = last - (first - 1) := by omega
    rw [slice, List.drop_take, hwidth]
    rfl

theorem textOf_insert :
    Builtin.insert.textOf ctx [s, x, writeInteger n]
      = slice s 0 (min n.toNat maxCount) ++ x
        ++ slice s (min n.toNat maxCount) (Text.length s) := by
  have hcount : argumentCount ([s, x, writeInteger n].map .literal) 2 = min n.toNat maxCount :=
    argumentCount_writeInteger rfl
  have hput : argumentText ([s, x, writeInteger n].map .literal) 1 = x := rfl
  rw [Builtin.textOf, Builtin.run, Textual.insert, hcount, hput, slice_to_end, slice,
    List.drop_zero, Textual.ofClusters, List.flatten_append, List.flatten_append,
    List.flatten_singleton]
  show String.ofList _ = _
  rw [String.ofList_append, String.ofList_append, String.ofList_toList]
  rfl

/-- Positions that both become the limit leave the character at the limit. -/
theorem textOf_middle_of_limit {a b : Int} (ha : maxCount < a) (hb : maxCount ≤ b) :
    Builtin.middle.textOf ctx [s, writeInteger a, writeInteger b]
      = slice s (maxCount - 1) maxCount := by
  have hmax : 1 ≤ maxCount := by decide
  have hfirst : max (min a.toNat maxCount) 1 - 1 = maxCount - 1 := by omega
  have hlast : min b.toNat maxCount = maxCount := by omega
  rw [textOf_middle, hfirst, hlast]

end Functions

/-! ### Texts within the limit -/

/-- The place in a text that a number of characters leads to. -/
def place (s : String) (n : Int) : Nat :=
  min n.toNat (Text.length s)

theorem place_le_length (s : String) (n : Int) : place s n ≤ Text.length s :=
  Nat.min_le_right ..

section Limit

variable {s : String} (hs : Text.length s ≤ maxCount) (ctx : Context) (n : Int)

include hs

theorem min_length_eq_place : min (min n.toNat maxCount) (Text.length s) = place s n := by
  rw [Nat.min_assoc, Nat.min_eq_right hs, place]

theorem textOf_left_place :
    Builtin.left.textOf ctx [s, writeInteger n] = slice s 0 (place s n) := by
  rw [textOf_left, ← slice_min_right, min_length_eq_place hs]

theorem textOf_right_place :
    Builtin.right.textOf ctx [s, writeInteger n]
      = slice s (Text.length s - place s n) (Text.length s) := by
  have hplace : Text.length s - min n.toNat maxCount = Text.length s - place s n := by
    rw [place]
    omega
  rw [textOf_right, hplace]

/-- An end that is as long as what is left of the text begins where the rest begins. -/
theorem textOf_right_sub {n : Int} (h : 0 ≤ n) (hn : n ≤ Text.length s) :
    Builtin.right.textOf ctx [s, writeInteger (Text.length s - n)]
      = slice s (place s n) (Text.length s) := by
  have hplace : Text.length s - place s (Text.length s - n) = place s n := by
    rw [place, place]
    omega
  rw [textOf_right_place hs, hplace]

theorem textOf_insert_place (x : String) :
    Builtin.insert.textOf ctx [s, x, writeInteger n]
      = slice s 0 (place s n) ++ x ++ slice s (place s n) (Text.length s) := by
  rw [textOf_insert, ← slice_min_right s 0, ← slice_min_left s (min n.toNat maxCount),
    min_length_eq_place hs]

/-- A part that ends within the text begins behind the characters before its first one. -/
theorem textOf_middle_place {a b : Int} (h : 1 ≤ a) (hab : a ≤ b) (hb : b ≤ Text.length s) :
    Builtin.middle.textOf ctx [s, writeInteger a, writeInteger b]
      = slice s (place s (a - 1)) (place s b) := by
  have hfirst : max (min a.toNat maxCount) 1 - 1 = place s (a - 1) := by
    rw [place]
    omega
  have hlast : min b.toNat maxCount = place s b := by
    rw [place]
    omega
  rw [textOf_middle, hfirst, hlast]

/-- Between positions in the wrong order there is nothing, unless both become the limit and there is
a character at it. -/
theorem textOf_middle_of_lt {a b : Int} (h : b < max a 1) :
    Builtin.middle.textOf ctx [s, writeInteger a, writeInteger b]
      = if Text.length s = maxCount ∧ maxCount ≤ b then slice s (maxCount - 1) maxCount
        else "" := by
  have hmax : 1 ≤ maxCount := by decide
  split
  · next hlimit => exact textOf_middle_of_limit ctx s (by omega) hlimit.2
  · next hlimit =>
    rw [textOf_middle]
    obtain hb | hb := Int.lt_or_le b maxCount
    · exact slice_eq_empty s (by omega)
    · exact slice_eq_empty_of_length_le s (by omega) _

end Limit

/-! ### Putting the parts together -/

/-- **The parts of a text put together are the text**, for a text of at most 4096 characters. A
beginning and the end behind it are the text, also with a part between them; what is put in comes
between a beginning and the end behind it; negative numbers count as zero, and numbers beyond the
end of the text as its length. Between positions in the wrong order there is nothing, unless both
are at the limit or beyond it and the text reaches it: then its last character is there. -/
theorem slices_reassemble (ctx : Context) {s : String} (hs : Text.length s ≤ 4096) (x : String) :
    let N : Int := Text.length s
    let left (n : Int) := Builtin.left.textOf ctx [s, writeInteger n]
    let right (n : Int) := Builtin.right.textOf ctx [s, writeInteger n]
    let middle (a b : Int) := Builtin.middle.textOf ctx [s, writeInteger a, writeInteger b]
    let insert (n : Int) := Builtin.insert.textOf ctx [s, x, writeInteger n]
    (∀ n, 0 ≤ n → n ≤ N →
        left n ++ right (N - n) = s ∧ middle 1 n = left n ∧ insert n = left n ++ x ++ right (N - n))
      ∧ (∀ a b, 1 ≤ a → a ≤ b → b ≤ N → left (a - 1) ++ middle a b ++ right (N - b) = s)
      ∧ (∀ n < 0, left n = left 0 ∧ right n = right 0 ∧ insert n = insert 0)
      ∧ (∀ n > N, left n = left N ∧ right n = right N ∧ insert n = insert N)
      ∧ ∀ a b, b < max a 1 →
        middle a b = if Text.length s = 4096 ∧ 4096 ≤ b then slice s 4095 4096 else "" := by
  intro N left right middle insert
  have hleft (n : Int) : left n = slice s 0 (place s n) := textOf_left_place hs ctx n
  have hright (n : Int) : right n = slice s (Text.length s - place s n) (Text.length s) :=
    textOf_right_place hs ctx n
  have hinsert (n : Int) : insert n
      = slice s 0 (place s n) ++ x ++ slice s (place s n) (Text.length s) :=
    textOf_insert_place hs ctx n x
  have hend {n : Int} (h : 0 ≤ n) (hn : n ≤ N) :
      right (N - n) = slice s (place s n) (Text.length s) := textOf_right_sub hs ctx h hn
  have hmiddle {a b : Int} (h : 1 ≤ a) (hab : a ≤ b) (hb : b ≤ N) :
      middle a b = slice s (place s (a - 1)) (place s b) := textOf_middle_place hs ctx h hab hb
  -- numbers that lead to the same place cannot be told apart
  have hsame {n m : Int} (h : place s n = place s m) :
      left n = left m ∧ right n = right m ∧ insert n = insert m := by
    rw [hleft, hleft, hright, hright, hinsert, hinsert, h]
    exact ⟨rfl, rfl, rfl⟩
  refine ⟨?_, ?_, ?_, ?_, ?_⟩
  · intro n h hn
    refine ⟨?_, ?_, ?_⟩
    · rw [hleft, hend h hn, slice_append_slice s (Nat.zero_le _) (place_le_length s n), slice_all]
    · exact (textOf_middle ctx s 1 n).trans (textOf_left ctx s n).symm
    · rw [hinsert, hleft, hend h hn]
  · intro a b h hab hb
    have hmeet : place s (a - 1) ≤ place s b := by
      rw [place, place]
      omega
    have hpos : 0 ≤ b := by omega
    rw [hleft, hmiddle h hab hb, hend hpos hb, slice_append_slice s (Nat.zero_le _) hmeet,
      slice_append_slice s (Nat.zero_le _) (place_le_length s b), slice_all]
  · intro n h
    refine hsame ?_
    rw [place, place]
    omega
  · intro n h
    refine hsame ?_
    rw [place, place]
    omega
  · intro a b h
    exact textOf_middle_of_lt hs ctx h

/-- Three characters, the first of which is a letter with an accent. -/
theorem slices_reassemble_accent :
    let ctx : Context := ⟨fun _ => .missing, .empty, {}⟩
    let s := "e\u0301xy"
    let left (n : Int) := Builtin.left.textOf ctx [s, writeInteger n]
    let right (n : Int) := Builtin.right.textOf ctx [s, writeInteger n]
    let middle (a b : Int) := Builtin.middle.textOf ctx [s, writeInteger a, writeInteger b]
    let insert (n : Int) := Builtin.insert.textOf ctx [s, "-", writeInteger n]
    Text.length s = 3 ∧ Text.length s ≤ 4096
      ∧ left 1 ++ right (3 - 1) = s ∧ insert 1 = left 1 ++ "-" ++ right (3 - 1)
      ∧ left (2 - 1) ++ middle 2 2 ++ right (3 - 2) = s
      ∧ insert (-7) = insert 0 ∧ right 9 = right 3 ∧ middle 5000 4999 = "" := by
  intro ctx s left right middle insert
  have hlength : Text.length s = 3 := by decide +kernel
  have hlimit : Text.length s ≤ 4096 := hlength ▸ by decide
  have hall := slices_reassemble ctx hlimit "-"
  simp only [hlength] at hall
  obtain ⟨hcut, hthree, hnegative, hbeyond, hwrong⟩ := hall
  obtain ⟨htwo, -, hinsert⟩ := hcut 1 (by decide) (by decide)
  exact ⟨hlength, hlimit, htwo, hinsert, hthree 2 2 (by decide) (by decide) (by decide),
    (hnegative (-7) (by decide)).2.2, (hbeyond 9 (by decide)).2.1, hwrong 5000 4999 (by decide)⟩

/-- Between positions in the wrong order beyond the limit, there is a character. -/
theorem slices_in_wrong_order :
    let ctx : Context := ⟨fun _ => .missing, .empty, {}⟩
    let s := String.ofList (List.replicate 4096 'x')
    Text.length s ≤ 4096 ∧ (4096 : Int) < max 4097 1
      ∧ Builtin.middle.textOf ctx [s, writeInteger 4097, writeInteger 4096] = "x" := by
  have hjoins : (ClusterState.start (.ofChar 'x')).joins (.ofChar 'x') = false := by decide +kernel
  refine ⟨Nat.le_of_eq (length_replicate hjoins 4096), by decide, ?_⟩
  rw [textOf_middle_of_limit _ _ (by decide) (by decide), slice_replicate hjoins]
  rfl

/-! ### Ranges of positions -/

/-- The part consists of consecutive characters of the text, all of them at positions from `a` to
`b`, counted from one, and it leaves out no such character among the first `limit`. -/
def Text.CoversRange (s : String) (a b : Int) (limit : Nat) (part : String) : Prop :=
  ∃ before shown behind, clusters s.toList = before ++ shown ++ behind
    ∧ part = String.ofList shown.flatten
    ∧ (∀ i : Nat, before.length < i → i ≤ before.length + shown.length → a ≤ i ∧ i ≤ b)
    ∧ ∀ i : Nat, 1 ≤ i → i ≤ Text.length s → i ≤ limit → a ≤ i → i ≤ b →
      before.length < i ∧ i ≤ before.length + shown.length

/-- **The characters within a range of positions**, as far as positions count. A range that begins
at the limit or before it, or ends before it, or lies in a text that does not reach it, is covered,
and nothing is there if it begins behind the end of the text. For every other range the character
at the limit is there instead, which is in front of the range. -/
theorem middle_covers_range (ctx : Context) (s : String) (a b : Int) :
    let result := Builtin.middle.textOf ctx [s, writeInteger a, writeInteger b]
    (a ≤ 4096 ∨ b < 4096 ∨ Text.length s < 4096 →
        Text.CoversRange s a b 4096 result ∧ (Text.length s < a → result = ""))
      ∧ (4096 < a → 4096 ≤ b → 4096 ≤ Text.length s →
        result = slice s 4095 4096 ∧ result ≠ "") := by
  intro result
  have hresult : result = slice s (max (min a.toNat 4096) 1 - 1) (min b.toNat 4096) :=
    textOf_middle ctx s a b
  refine ⟨fun h => ⟨?_, ?_⟩, ?_⟩
  · obtain ⟨before, shown, behind, hsplit, hshown, hbefore, hend⟩ :=
      exists_slice_eq s (max (min a.toNat 4096) 1 - 1) (min b.toNat 4096)
    refine ⟨before, shown, behind, hsplit, hresult.trans hshown, ?_, ?_⟩
    · intro i hi hi'
      omega
    · intro i hpos hi hlimit ha hb
      omega
  · intro ha
    rw [hresult]
    obtain hbehind | hempty : Text.length s ≤ max (min a.toNat 4096) 1 - 1
        ∨ min b.toNat 4096 ≤ max (min a.toNat 4096) 1 - 1 := by omega
    · exact slice_eq_empty_of_length_le s hbehind _
    · exact slice_eq_empty s hempty
  · intro ha hb hs
    have hlimit : result = slice s 4095 4096 := textOf_middle_of_limit ctx s ha hb
    exact ⟨hlimit, hlimit ▸ slice_ne_empty s (by decide) (by omega)⟩

/-- A range at the end of a text, and one behind the limit of a text that reaches it. -/
theorem middle_covers_range_both :
    let ctx : Context := ⟨fun _ => .missing, .empty, {}⟩
    let long := String.ofList (List.replicate 4096 'x')
    Text.CoversRange "e\u0301xy" 2 9 4096
        (Builtin.middle.textOf ctx ["e\u0301xy", writeInteger 2, writeInteger 9])
      ∧ Builtin.middle.textOf ctx ["e\u0301xy", writeInteger 4, writeInteger 9] = ""
      ∧ 4096 ≤ Text.length long
      ∧ Builtin.middle.textOf ctx [long, writeInteger 5000, writeInteger 6000] ≠ "" := by
  intro ctx long
  have hjoins : (ClusterState.start (.ofChar 'x')).joins (.ofChar 'x') = false := by decide +kernel
  have hlong : 4096 ≤ Text.length long := Nat.le_of_eq (length_replicate hjoins 4096).symm
  have hcovers := (middle_covers_range ctx "e\u0301xy" 2 9).1 (.inl (by decide))
  have hbehind := (middle_covers_range ctx "e\u0301xy" 4 9).1 (.inl (by decide))
  have hlimit := (middle_covers_range ctx long 5000 6000).2 (by decide) (by decide) hlong
  exact ⟨hcovers.1, hbehind.2 (by decide +kernel), hlong, hlimit.2⟩

/-- A range behind the end of a text, with a character in it. -/
theorem middle_behind_end :
    let ctx : Context := ⟨fun _ => .missing, .empty, {}⟩
    let s := String.ofList (List.replicate 4096 'x')
    Text.length s < 5000
      ∧ Builtin.middle.textOf ctx [s, writeInteger 5000, writeInteger 6000] = "x" := by
  have hjoins : (ClusterState.start (.ofChar 'x')).joins (.ofChar 'x') = false := by decide +kernel
  refine ⟨(length_replicate hjoins 4096).trans_lt (by decide), ?_⟩
  rw [textOf_middle_of_limit _ _ (by decide) (by decide), slice_replicate hjoins]
  rfl

end TitleScript
