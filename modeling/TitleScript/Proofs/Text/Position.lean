import TitleScript.Text.Bytes

/-!
# Byte positions in a text

A position counts the bytes before it. It is a boundary between characters exactly when the text
can be parted there into characters before and characters behind, so to say that some text stands
at a position also says that both of its ends are boundaries.

What stands in a source still stands there when the source goes on. This is why statements about
positions can be made while a source is being read.

## Main definitions

* `Text.StandsAt` — a text stands in a source at a position

## Main results

* `Text.utf8ByteSize_eq` — the two ways of counting bytes agree
* `Text.StandsAt.append`, `Text.standsAt_byteLength` — what stands in a longer source
* `Text.StandsAt.add_le`, `Text.StandsAt.lt` — it stands within the source
-/

namespace TitleScript

namespace Text

theorem byteLength_pos {cs : List Char} (h : cs ≠ []) : 0 < byteLength cs := by
  obtain ⟨c, cs, rfl⟩ := List.exists_cons_of_ne_nil h
  have := c.utf8Size_pos
  rw [byteLength_cons]
  omega

/-- No character has more than four bytes. -/
theorem byteLength_le (cs : List Char) : byteLength cs ≤ 4 * cs.length := by
  induction cs with
  | nil => exact Nat.le_refl 0
  | cons c cs ih =>
    have hc := c.utf8Size_le_four
    rw [byteLength_cons, List.length_cons]
    omega

theorem utf8ByteSize_ofList (cs : List Char) :
    (String.ofList cs).utf8ByteSize = byteLength cs := by
  induction cs with
  | nil => rfl
  | cons c cs ih =>
    rw [String.ofList_cons, String.utf8ByteSize_append, String.utf8ByteSize_singleton, ih,
      byteLength_cons]

/-- The bytes of a string are those of its characters. -/
theorem utf8ByteSize_eq (s : String) : s.utf8ByteSize = byteLength s.toList := by
  rw [← utf8ByteSize_ofList, String.ofList_toList]

/-- What is left of a string that is cut has the bytes that there is room for. -/
theorem utf8ByteSize_cut_le (room : Nat) (s : String) : (cut room s).utf8ByteSize ≤ room := by
  rw [cut]
  split
  · assumption
  · rw [utf8ByteSize_ofList]
    exact byteLength_takeBytes_le room s.toList

/-- What fits is not touched. -/
theorem cut_of_le {room : Nat} {s : String} (h : s.utf8ByteSize ≤ room) : cut room s = s :=
  if_pos h

/-- A text with room for the longest characters at every place fits. -/
theorem cut_of_length_le {room : Nat} {s : String} (h : 4 * s.length ≤ room) : cut room s = s := by
  refine cut_of_le ?_
  rw [utf8ByteSize_eq]
  exact Nat.le_trans (byteLength_le s.toList) (s.length_toList ▸ h)

/-- What has been cut fits. -/
theorem cut_cut (room : Nat) (s : String) : cut room (cut room s) = cut room s :=
  cut_of_le (utf8ByteSize_cut_le room s)

/-- With room for one character, of any length, something is left of every text but the empty
one. -/
theorem cut_eq_empty_iff {room : Nat} (hroom : 4 ≤ room) {s : String} :
    cut room s = "" ↔ s = "" := by
  rw [cut]
  split
  · rfl
  · next hlong =>
    have hne : s ≠ "" := by
      rintro rfl
      exact hlong (Nat.zero_le room)
    obtain ⟨c, cs, hcs⟩ := List.exists_cons_of_ne_nil (mt String.toList_eq_nil_iff.1 hne)
    have hfits : c.utf8Size ≤ room := Nat.le_trans c.utf8Size_le_four hroom
    rw [hcs, takeBytes_cons, if_pos hfits]
    exact iff_of_false (mt String.ofList_eq_empty_iff.1 (List.cons_ne_nil _ _)) hne

/-- The text stands in the source, behind `position` bytes. -/
def StandsAt (source : List Char) (position : Nat) (text : List Char) : Prop :=
  ∃ before rest, source = before ++ text ++ rest ∧ byteLength before = position

variable {source text more : List Char} {position : Nat}

/-- What comes last in a source stands behind the bytes of what comes before. -/
theorem standsAt_byteLength (past text : List Char) :
    StandsAt (past ++ text) (byteLength past) text :=
  ⟨past, [], (List.append_nil _).symm, rfl⟩

namespace StandsAt

theorem append (h : StandsAt source position text) (more : List Char) :
    StandsAt (source ++ more) position text := by
  obtain ⟨before, rest, rfl, hbefore⟩ := h
  exact ⟨before, rest ++ more, List.append_assoc .., hbefore⟩

/-- The beginning of a text stands where the text stands. -/
theorem left (h : StandsAt source position (text ++ more)) : StandsAt source position text := by
  obtain ⟨before, rest, rfl, hbefore⟩ := h
  exact ⟨before, more ++ rest, by simp, hbefore⟩

theorem add_le (h : StandsAt source position text) :
    position + byteLength text ≤ byteLength source := by
  obtain ⟨before, rest, rfl, rfl⟩ := h
  rw [byteLength_append, byteLength_append]
  omega

theorem lt (h : StandsAt source position text) (hne : text ≠ []) :
    position < byteLength source := by
  have hle := h.add_le
  have hpos := byteLength_pos hne
  omega

end StandsAt

end Text

end TitleScript
