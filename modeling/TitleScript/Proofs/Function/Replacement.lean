import TitleScript.Function
import TitleScript.Proofs.Text.Replacement

/-!
# Replacing within the bound

A replacement that is no longer than its pattern cannot make a text too long, so it is put in
wherever the pattern occurs. A longer one makes the text grow by the same number of bytes each
time, so the number of times that fit is a quotient: that of the room there is by the growth. A text
that has no room left stays as it is.

Pairs of patterns and replacements are gone through in turn, and each finds the room that those
before it left. A text that is within the bound stays within it; one that is not does not grow.
Where the bound is never in the way, every pair is replaced everywhere.

## Main definitions

* `Text.ReplacesWithin` — the leftmost occurrences are replaced as far as there is room
* `Textual.pairs` — the pairs among the arguments

## Main results

* `Textual.exists_replacesWithin` — what one pair does
* `Textual.byteLength_replacePattern_le` — one pair keeps to the bound
* `replace_pairs` — what all pairs do
-/

namespace TitleScript

open Text

/-- The result is the text with its leftmost `k` occurrences of the pattern replaced, where `k` is
the number for which there is room. -/
structure Text.ReplacesWithin (room : Nat) (pattern replacement text : List Char) (k : Nat)
    (result : List Char) : Prop where
  replaces : Replaces pattern replacement k text result
  /-- All of them are replaced if the text does not become too long or does not grow at all. -/
  all : (∃ full, ReplacesAll pattern replacement text full ∧ byteLength full ≤ room)
      ∨ byteLength replacement ≤ byteLength pattern →
    ∀ j other, Replaces pattern replacement j text other → j ≤ k
  /-- A text that is too long already does not grow. -/
  none : byteLength pattern < byteLength replacement → room < byteLength text → k = 0
  /-- Of a text that grows, as many as fit are replaced. -/
  most : byteLength pattern < byteLength replacement → byteLength text ≤ room →
    byteLength result ≤ room
      ∧ ∀ j other, Replaces pattern replacement j text other → byteLength other ≤ room → j ≤ k

namespace Textual

variable {pattern replacement text result : List Char} {k : Nat}

/-! ### One pair -/

theorem byteLength_of_replaces (h : Replaces pattern replacement k text result)
    (hle : byteLength pattern ≤ byteLength replacement) :
    byteLength result
      = byteLength text + k * (byteLength replacement - byteLength pattern) := by
  have hadd := h.byteLength_add
  have hmul : k * byteLength pattern ≤ k * byteLength replacement := Nat.mul_le_mul_left k hle
  rw [Nat.mul_sub]
  omega

/-- With a longer replacement, what fits is what is within the limit. -/
theorem le_replacementLimit_iff (hlt : byteLength pattern < byteLength replacement)
    (htext : byteLength text ≤ maxResultBytes) (h : Replaces pattern replacement k text result) :
    k ≤ replacementLimit pattern replacement text ↔ byteLength result ≤ maxResultBytes := by
  have hgrowth : 0 < byteLength replacement - byteLength pattern := Nat.sub_pos_of_lt hlt
  rw [replacementLimit, if_neg (Nat.ne_of_gt hgrowth), Nat.le_div_iff_mul_le hgrowth,
    byteLength_of_replaces h (Nat.le_of_lt hlt)]
  omega

theorem replacementLimit_of_le (hle : byteLength replacement ≤ byteLength pattern) :
    replacementLimit pattern replacement text = text.length :=
  if_pos (Nat.sub_eq_zero_of_le hle)

theorem replacementLimit_of_lt (hlt : byteLength pattern < byteLength replacement)
    (htext : maxResultBytes < byteLength text) :
    replacementLimit pattern replacement text = 0 := by
  have hgrowth : 0 < byteLength replacement - byteLength pattern := Nat.sub_pos_of_lt hlt
  rw [replacementLimit, if_neg (Nat.ne_of_gt hgrowth), Nat.sub_eq_zero_of_le (Nat.le_of_lt htext),
    Nat.zero_div]

/-- **A pair replaces the leftmost occurrences for which there is room.** -/
theorem exists_replacesWithin (hpattern : pattern ≠ []) (replacement text : List Char) :
    ∃ k, ReplacesWithin maxResultBytes pattern replacement text k
      (replacePattern pattern replacement text) := by
  obtain ⟨k, hk, hreplaces, hmost⟩ := exists_replaces_replaceFirst hpattern replacement
    (replacementLimit pattern replacement text) text
  rw [replacePattern, if_neg hpattern]
  refine ⟨k, hreplaces, ?_, ?_, ?_⟩
  · intro h j other hj
    by_cases hle : byteLength replacement ≤ byteLength pattern
    · exact hmost j (replacementLimit_of_le hle ▸ hj.le_length hpattern) other hj
    · obtain ⟨full, ⟨n, hn, hmax⟩, hfits⟩ := h.resolve_right hle
      have hlt := Nat.lt_of_not_le hle
      have htext : byteLength text ≤ maxResultBytes := by
        have hfull := byteLength_of_replaces hn (Nat.le_of_lt hlt)
        omega
      have hnk := hmost n ((le_replacementLimit_iff hlt htext hn).2 hfits) full hn
      exact Nat.le_trans (hmax j other hj) hnk
  · intro hlt htext
    exact Nat.le_zero.1 (replacementLimit_of_lt hlt htext ▸ hk)
  · intro hlt htext
    refine ⟨(le_replacementLimit_iff hlt htext hreplaces).1 hk, ?_⟩
    intro j other hj hfits
    exact hmost j ((le_replacementLimit_iff hlt htext hj).2 hfits) other hj

/-- **A pair keeps to the bound**: a text that is too long already does not grow. -/
theorem byteLength_replacePattern_le (pattern replacement text : List Char) :
    byteLength (replacePattern pattern replacement text)
      ≤ max (byteLength text) maxResultBytes := by
  by_cases hpattern : pattern = []
  · rw [replacePattern, if_pos hpattern]
    exact Nat.le_max_left ..
  · obtain ⟨k, h⟩ := exists_replacesWithin hpattern replacement text
    have hadd := h.replaces.byteLength_add
    rcases Nat.lt_or_ge (byteLength pattern) (byteLength replacement) with hlt | hle
    · rcases Nat.lt_or_ge maxResultBytes (byteLength text) with hlong | htext
      · obtain rfl := h.none hlt hlong
        omega
      · exact Nat.le_trans (h.most hlt htext).1 (Nat.le_max_right ..)
    · have hmul : k * byteLength replacement ≤ k * byteLength pattern := Nat.mul_le_mul_left k hle
      omega

/-- A pair that does not make the text too long replaces its pattern everywhere. -/
theorem replacePattern_eq_replaceAll {pattern : List Char} (replacement text : List Char)
    (h : pattern ≠ [] → byteLength (replaceAll pattern replacement text) ≤ maxResultBytes) :
    replacePattern pattern replacement text = replaceAll pattern replacement text := by
  by_cases hpattern : pattern = []
  · rw [replacePattern, replaceAll, if_pos hpattern, if_pos hpattern]
  · have hfull := replacesAll_replaceAll hpattern replacement text
    obtain ⟨k, hk⟩ := exists_replacesWithin hpattern replacement text
    obtain ⟨n, hn, hmax⟩ := hfull
    have hnk : n ≤ k := hk.all (.inl ⟨_, ⟨n, hn, hmax⟩, h hpattern⟩) n _ hn
    obtain rfl := Nat.le_antisymm hnk (hmax k _ hk.replaces)
    exact hk.replaces.unique hn

/-! ### All pairs -/

/-- The patterns and replacements among the arguments; a pattern without a replacement is left
out. -/
def pairs : List Outcome → List (List Char × List Char)
  | pattern :: replacement :: rest =>
    (pattern.text.toList, replacement.text.toList) :: pairs rest
  | _ => []

example : pairs [.literal "a", .literal "", .literal "b"] = [(['a'], [])] := rfl

/-- The text after one pair, as far as there is room. -/
def replaceStep (text : List Char) (pair : List Char × List Char) : List Char :=
  replacePattern pair.1 pair.2 text

/-- The text after one pair, whatever its length. -/
def replaceFully (text : List Char) (pair : List Char × List Char) : List Char :=
  replaceAll pair.1 pair.2 text

theorem replacePairs_eq (args : List Outcome) (text : List Char) :
    replacePairs args text = (pairs args).foldl replaceStep text := by
  induction args using pairs.induct generalizing text with
  | case1 pattern replacement rest ih => exact ih _
  | case2 args h =>
    match args, h with
    | [], _ | [_], _ => rfl
    | pattern :: replacement :: rest, h => exact absurd rfl (h pattern replacement rest)

/-- Pairs that never make the text too long are replaced everywhere. -/
theorem foldl_replaceStep_eq {pairs : List (List Char × List Char)} {text : List Char}
    (h : ∀ before pair after, pairs = before ++ pair :: after → pair.1 ≠ [] →
      byteLength (replaceFully (before.foldl replaceFully text) pair) ≤ maxResultBytes) :
    pairs.foldl replaceStep text = pairs.foldl replaceFully text := by
  induction pairs generalizing text with
  | nil => rfl
  | cons pair pairs ih =>
    have hpair : replaceStep text pair = replaceFully text pair :=
      replacePattern_eq_replaceAll pair.2 text (h [] pair pairs rfl)
    rw [List.foldl_cons, List.foldl_cons, hpair]
    exact ih fun before next after heq =>
      h (pair :: before) next after (congrArg (pair :: ·) heq)

end Textual

open Textual

/-- **Pairs are replaced in turn, each as far as there is room.** A pair with a pattern replaces its
leftmost occurrences: all of them if the text does not become too long or the replacement is not
longer, and otherwise as many as fit. No pair makes a text longer than it was or than the bound.
If no pair that is replaced everywhere leads beyond the bound, then every pair is replaced
everywhere. -/
theorem replace_pairs (ctx : Context) (args : List Outcome) :
    let text := (argumentText args 0).toList
    let all := pairs args.tail
    Builtin.replace.run ctx args = .literal (String.ofList (all.foldl replaceStep text))
      ∧ (∀ pattern replacement text,
        (pattern = [] → replaceStep text (pattern, replacement) = text
            ∧ replaceFully text (pattern, replacement) = text)
          ∧ (pattern ≠ [] →
            (∃ k, ReplacesWithin 65536 pattern replacement text k
              (replaceStep text (pattern, replacement)))
            ∧ ReplacesAll pattern replacement text (replaceFully text (pattern, replacement)))
          ∧ byteLength (replaceStep text (pattern, replacement)) ≤ max (byteLength text) 65536)
      ∧ ((∀ before pair after, all = before ++ pair :: after → pair.1 ≠ [] →
          byteLength (replaceFully (before.foldl replaceFully text) pair) ≤ 65536) →
        Builtin.replace.run ctx args
          = .literal (String.ofList (all.foldl replaceFully text))) := by
  intro text all
  have hrun : Builtin.replace.run ctx args
      = .literal (String.ofList (all.foldl replaceStep text)) := by
    rw [Builtin.run, replace, replacePairs_eq]
  refine ⟨hrun, ?_, ?_⟩
  · intro pattern replacement text
    refine ⟨?_, ?_, byteLength_replacePattern_le pattern replacement text⟩
    · intro hnone
      exact ⟨if_pos hnone, if_pos hnone⟩
    · intro hpattern
      exact ⟨exists_replacesWithin hpattern replacement text,
        replacesAll_replaceAll hpattern replacement text⟩
  · intro hfits
    rw [hrun, foldl_replaceStep_eq hfits]

/-- A pattern that occurs twice, an empty pattern and a pattern without a replacement; and a text
without room for anything more. -/
theorem replace_pairs_banana :
    let ctx : Context := ⟨fun _ => .missing, .empty, {}⟩
    let args : List Outcome := ["banana", "an", "oo!", "", "z", "x"].map .literal
    let long := List.replicate 65536 'a'
    (∀ before pair after, pairs args.tail = before ++ pair :: after → pair.1 ≠ [] →
        byteLength (replaceFully (before.foldl replaceFully "banana".toList) pair) ≤ 65536)
      ∧ Builtin.replace.run ctx args = .literal "boo!oo!a"
      ∧ ['a'] ≠ [] ∧ ∃ k, ReplacesWithin 65536 ['a'] ['b', 'c'] long k
        (replaceStep long (['a'], ['b', 'c'])) := by
  intro ctx args long
  have hpairs : pairs args.tail = [(['a', 'n'], ['o', 'o', '!']), ([], ['z'])] := by
    decide +kernel
  have hfits : ∀ before pair after, pairs args.tail = before ++ pair :: after → pair.1 ≠ [] →
      byteLength (replaceFully (before.foldl replaceFully "banana".toList) pair) ≤ 65536 := by
    intro before pair after heq hpattern
    rw [hpairs] at heq
    rcases before with _ | ⟨first, _ | ⟨second, before⟩⟩
    · obtain ⟨rfl, -⟩ := List.cons_eq_cons.1 heq
      decide +kernel
    · obtain ⟨rfl, -⟩ := List.cons_eq_cons.1 (List.cons_eq_cons.1 heq).2
      contradiction
    · simp at heq
  obtain ⟨-, hpair, hfull⟩ := replace_pairs ctx args
  have hresult : Outcome.literal (String.ofList ((pairs args.tail).foldl replaceFully
      "banana".toList)) = .literal "boo!oo!a" := by
    rw [hpairs]
    decide +kernel
  have hne : ['a'] ≠ [] := List.cons_ne_nil _ _
  exact ⟨hfits, (hfull hfits).trans hresult, hne, ((hpair ['a'] ['b', 'c'] long).2.1 hne).1⟩

end TitleScript
