import TitleScript.Proofs.Text.Position
import TitleScript.Text.Replacement

/-!
# What is replaced

A pass over a text looks for the pattern at every character and goes on behind it where it is
found. Said without the pass: the pattern is replaced where it occurs first, then where it occurs
first in what is behind, and so on, as often as it is allowed and as it occurs. What is found in
this way does not depend on what is put in, so the number of bytes of the result is known from the
number of occurrences replaced.

## Main definitions

* `Text.OccursFirst` — the leftmost occurrence of a pattern
* `Text.Replaces` — a text with so many of its leftmost occurrences replaced
* `Text.ReplacesAll`, `Text.replaceAll` — a text with all of its occurrences replaced

## Main results

* `Text.Replaces.byteLength_add` — the number of bytes of the result
* `Text.exists_replaces_replaceFirst` — the pass replaces the leftmost occurrences, as many as
  there are within the limit
* `Text.replacesAll_replaceAll` — with a large limit it replaces all of them
-/

namespace TitleScript

namespace Text

variable {pattern replacement gap rest text result : List Char} {c : Char} {k limit : Nat}

/-! ### The leftmost occurrence -/

/-- The pattern occurs in the text between `gap` and `rest`, and nowhere further to the left. -/
def OccursFirst (pattern gap rest text : List Char) : Prop :=
  text = gap ++ pattern ++ rest
    ∧ ∀ before behind, text = before ++ pattern ++ behind → gap.length ≤ before.length

namespace OccursFirst

/-- There is only one leftmost occurrence. -/
theorem unique {gap' rest' : List Char} (h : OccursFirst pattern gap rest text)
    (h' : OccursFirst pattern gap' rest' text) : gap = gap' ∧ rest = rest' := by
  have hlength : gap.length = gap'.length :=
    Nat.le_antisymm (h.2 _ _ h'.1) (h'.2 _ _ h.1)
  have htext : gap ++ (pattern ++ rest) = gap' ++ (pattern ++ rest') := by
    rw [← List.append_assoc, ← List.append_assoc, ← h.1, ← h'.1]
  obtain ⟨hgap, hbehind⟩ := List.append_inj htext hlength
  exact ⟨hgap, List.append_cancel_left hbehind⟩

/-- An occurrence at the beginning is the leftmost one. -/
theorem of_append (pattern rest : List Char) : OccursFirst pattern [] rest (pattern ++ rest) :=
  ⟨rfl, fun _ _ _ => Nat.zero_le _⟩

/-- Where the pattern is not at the beginning, its leftmost occurrence is that in the rest. -/
theorem cons_iff (hbegin : ¬ pattern <+: c :: text) :
    OccursFirst pattern (c :: gap) rest (c :: text) ↔ OccursFirst pattern gap rest text := by
  constructor
  · rintro ⟨htext, hfirst⟩
    refine ⟨List.tail_eq_of_cons_eq htext, fun before behind hbefore => ?_⟩
    exact Nat.le_of_succ_le_succ (hfirst (c :: before) behind (congrArg (c :: ·) hbefore))
  · rintro ⟨htext, hfirst⟩
    refine ⟨congrArg (c :: ·) htext, fun before behind hbefore => ?_⟩
    cases before with
    | nil => exact absurd ⟨behind, hbefore.symm⟩ hbegin
    | cons d before =>
      exact Nat.succ_le_succ (hfirst before behind (List.tail_eq_of_cons_eq hbefore))

theorem not_prefix (h : OccursFirst pattern (c :: gap) rest (c :: text)) :
    ¬ pattern <+: c :: text := by
  rintro ⟨behind, hbehind⟩
  have hnil := h.2 [] behind hbehind.symm
  exact absurd hnil (Nat.not_succ_le_zero _)

/-- A pattern that occurs has a leftmost occurrence. -/
theorem exists_of_infix (h : pattern <:+: text) :
    ∃ gap rest, OccursFirst pattern gap rest text := by
  induction text with
  | nil =>
    obtain rfl := List.infix_nil.1 h
    exact ⟨[], [], of_append [] []⟩
  | cons c text ih =>
    by_cases hbegin : pattern <+: c :: text
    · obtain ⟨rest, hrest⟩ := hbegin
      exact ⟨[], rest, hrest ▸ of_append pattern rest⟩
    · have htail : pattern <:+: text := (List.infix_cons_iff.1 h).resolve_left hbegin
      obtain ⟨gap, rest, hfirst⟩ := ih htail
      exact ⟨c :: gap, rest, (cons_iff hbegin).2 hfirst⟩

theorem isInfix (h : OccursFirst pattern gap rest text) : pattern <:+: text :=
  ⟨gap, rest, h.1.symm⟩

end OccursFirst

/-! ### Occurrences from left to right -/

/-- The result is the text with its leftmost `k` occurrences of the pattern replaced, where each is
sought behind the one before it. -/
inductive Replaces (pattern replacement : List Char) : Nat → List Char → List Char → Prop
  | zero {text : List Char} : Replaces pattern replacement 0 text text
  | succ {k : Nat} {gap rest text result : List Char} : OccursFirst pattern gap rest text →
      Replaces pattern replacement k rest result →
      Replaces pattern replacement (k + 1) text (gap ++ replacement ++ result)

/-- The result is the text with all occurrences of the pattern replaced from left to right. -/
def ReplacesAll (pattern replacement text result : List Char) : Prop :=
  ∃ k, Replaces pattern replacement k text result
    ∧ ∀ j other, Replaces pattern replacement j text other → j ≤ k

namespace Replaces

/-- As many occurrences are replaced in one way only. -/
theorem unique {result' : List Char} (h : Replaces pattern replacement k text result)
    (h' : Replaces pattern replacement k text result') : result = result' := by
  induction h generalizing result' with
  | zero =>
    cases h' with
    | zero => rfl
  | succ hfirst _ ih =>
    cases h' with
    | succ hfirst' hrest' =>
      obtain ⟨rfl, rfl⟩ := hfirst.unique hfirst'
      rw [ih hrest']

theorem eq_zero_of_not_infix (h : Replaces pattern replacement k text result)
    (hnot : ¬ pattern <:+: text) : k = 0 := by
  cases h with
  | zero => rfl
  | succ hfirst _ => exact absurd hfirst.isInfix hnot

/-- Each replacement adds the bytes of what is put in and takes those of the pattern. -/
theorem byteLength_add (h : Replaces pattern replacement k text result) :
    byteLength result + k * byteLength pattern = byteLength text + k * byteLength replacement := by
  induction h with
  | zero => rw [Nat.zero_mul, Nat.zero_mul]
  | succ hfirst _ ih =>
    rw [hfirst.1]
    simp only [byteLength_append, Nat.succ_mul]
    omega

/-- There are no more occurrences than characters. -/
theorem le_length (hpattern : pattern ≠ []) (h : Replaces pattern replacement k text result) :
    k ≤ text.length := by
  induction h with
  | zero => exact Nat.zero_le _
  | succ hfirst _ ih =>
    have hpos := List.length_pos_iff.2 hpattern
    rw [hfirst.1, List.length_append, List.length_append]
    omega

end Replaces

/-! ### The pass -/

theorem replaceFirst_nil : replaceFirst limit pattern replacement [] = [] := by
  rw [replaceFirst, replaceFrom]
  rfl

theorem replaceFirst_zero (cs : List Char) : replaceFirst 0 pattern replacement cs = cs := by
  cases cs with
  | nil => exact replaceFirst_nil
  | cons c cs => rfl

/-- What has been put out stays in front, and characters that are skipped are left out. -/
theorem replaceFrom_eq (limit skip : Nat) (done cs : List Char) :
    replaceFrom pattern replacement limit skip done cs
      = done.reverse ++ replaceFirst limit pattern replacement (cs.drop skip) := by
  induction cs generalizing limit skip done with
  | nil => rw [List.drop_nil, replaceFirst_nil, replaceFrom, List.append_nil]
  | cons c cs ih =>
    cases skip with
    | succ skip => rw [replaceFrom, ih, List.drop_succ_cons]
    | zero =>
      cases limit with
      | zero => rfl
      | succ limit =>
        rw [List.drop_zero, replaceFirst, replaceFrom, replaceFrom]
        split
        · rw [ih, ih limit _ (replacement.reverseAux []), List.reverseAux_eq, List.reverseAux_eq,
            List.append_nil, List.reverse_append, List.reverse_reverse, List.append_assoc]
        · rw [ih, ih _ _ [c], List.reverse_cons, List.append_assoc]
          rfl

theorem replaceFirst_append (hpattern : pattern ≠ []) (rest : List Char) :
    replaceFirst (limit + 1) pattern replacement (pattern ++ rest)
      = replacement ++ replaceFirst limit pattern replacement rest := by
  obtain ⟨p, ps, rfl⟩ := List.exists_cons_of_ne_nil hpattern
  have hbegin : (p :: ps).isPrefixOf (p :: (ps ++ rest)) := by
    rw [List.isPrefixOf_iff_prefix]
    exact ⟨rest, rfl⟩
  rw [replaceFirst, List.cons_append, replaceFrom, if_pos hbegin, replaceFrom_eq,
    List.reverseAux_eq, List.append_nil, List.reverse_reverse, List.length_cons,
    Nat.add_sub_cancel, List.drop_left]

theorem replaceFirst_cons (h : ¬ pattern <+: c :: text) :
    replaceFirst limit pattern replacement (c :: text)
      = c :: replaceFirst limit pattern replacement text := by
  cases limit with
  | zero => rw [replaceFirst_zero, replaceFirst_zero]
  | succ limit =>
    rw [replaceFirst, replaceFrom, if_neg (mt List.isPrefixOf_iff_prefix.1 h), replaceFrom_eq]
    rfl

theorem replaceFirst_eq_self (h : ¬ pattern <:+: text) :
    replaceFirst limit pattern replacement text = text := by
  induction text with
  | nil => exact replaceFirst_nil
  | cons c text ih =>
    rw [List.infix_cons_iff, not_or] at h
    rw [replaceFirst_cons h.1, ih h.2]

theorem replaceFirst_of_occursFirst (hpattern : pattern ≠ [])
    (h : OccursFirst pattern gap rest text) :
    replaceFirst (limit + 1) pattern replacement text
      = gap ++ replacement ++ replaceFirst limit pattern replacement rest := by
  induction gap generalizing text with
  | nil => rw [h.1, List.nil_append, replaceFirst_append hpattern, List.nil_append]
  | cons c gap ih =>
    obtain ⟨text, rfl⟩ : ∃ behind, text = c :: behind := ⟨_, h.1⟩
    have hbegin := h.not_prefix
    rw [replaceFirst_cons hbegin, ih ((OccursFirst.cons_iff hbegin).1 h)]
    rfl

/-- **The pass replaces the leftmost occurrences**, as many as there are within the limit. -/
theorem exists_replaces_replaceFirst (hpattern : pattern ≠ []) (replacement : List Char)
    (limit : Nat) (text : List Char) :
    ∃ k ≤ limit, Replaces pattern replacement k text (replaceFirst limit pattern replacement text)
      ∧ ∀ j ≤ limit, ∀ other, Replaces pattern replacement j text other → j ≤ k := by
  induction limit generalizing text with
  | zero =>
    rw [replaceFirst_zero]
    exact ⟨0, Nat.le_refl 0, .zero, fun j hj _ _ => hj⟩
  | succ limit ih =>
    by_cases hoccurs : pattern <:+: text
    · obtain ⟨gap, rest, hfirst⟩ := OccursFirst.exists_of_infix hoccurs
      obtain ⟨k, hk, hrest, hmost⟩ := ih rest
      rw [replaceFirst_of_occursFirst hpattern hfirst]
      refine ⟨k + 1, Nat.succ_le_succ hk, .succ hfirst hrest, ?_⟩
      intro j hj other hother
      cases hother with
      | zero => exact Nat.zero_le _
      | succ hfirst' hrest' =>
        obtain ⟨rfl, rfl⟩ := hfirst.unique hfirst'
        exact Nat.succ_le_succ (hmost _ (Nat.le_of_succ_le_succ hj) _ hrest')
    · rw [replaceFirst_eq_self hoccurs]
      refine ⟨0, Nat.zero_le _, .zero, ?_⟩
      intro j _ other hother
      exact Nat.le_of_eq (hother.eq_zero_of_not_infix hoccurs)

/-- The text with all occurrences of a pattern replaced from left to right. An empty pattern occurs
nowhere. -/
def replaceAll (pattern replacement text : List Char) : List Char :=
  if pattern = [] then text else replaceFirst text.length pattern replacement text

/-- There are not so many occurrences that the limit would matter. -/
theorem replacesAll_replaceAll (hpattern : pattern ≠ []) (replacement text : List Char) :
    ReplacesAll pattern replacement text (replaceAll pattern replacement text) := by
  obtain ⟨k, -, hreplaces, hmost⟩ :=
    exists_replaces_replaceFirst hpattern replacement text.length text
  rw [replaceAll, if_neg hpattern]
  refine ⟨k, hreplaces, ?_⟩
  intro j other hother
  exact hmost j (hother.le_length hpattern) other hother

end Text

end TitleScript
