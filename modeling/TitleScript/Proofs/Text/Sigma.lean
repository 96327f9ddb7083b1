import Mathlib.Data.List.DropRight
import TitleScript.Proofs.Text.CodePoints
import TitleScript.Text.Case.Mapping
import TitleScript.Text.Cluster

/-!
# What the final sigma depends on

Of all letters only the capital sigma has a lower case that depends on its neighbours. So a text
that is cut in two can be put into lower case part by part, but for a sigma near the cut: the first
part leaves behind whether it ends in a cased letter, and that matters to the second part only if it
begins with a sigma that would be final, where characters without case of their own are passed over
on both sides. What the second part begins with matters to the first one as well, unless no sigma of
the first part comes behind a cased letter.

The first user-perceived character of a word is such a part. A sigma stays in it only behind
characters that are always joined to the next one, such as the Arabic number sign, and none of those
is a cased letter.

## Main definitions

* `LowerCase.endsCased` — the text ends in a cased letter
* `LowerCase.startsFinal` — the text begins with a sigma that is final behind a cased letter
* `LowerCase.NoFinal` — no sigma of the text comes behind a cased letter
* `LowerCase.SigmaCased` — what a table must say about the sigma
* `Text.SigmaApart` — what is kept while a cluster is read

## Main results

* `LowerCase.charsFrom_append` — a text in lower case part by part
* `LowerCase.charsFrom_eq_iff`, `LowerCase.exists_charsFrom_of_startsFinal` — what the letters
  before a text matter
* `Text.noFinal_of_mem_clusters` — no sigma of a cluster comes behind a cased letter of it
-/

namespace TitleScript

open Text

namespace LowerCase

/-- Whether the last character that is not case-ignorable is a cased letter. -/
def endsCased (l : LowerCase) (cs : List Char) : Bool :=
  l.startsCased cs.reverse

/-- Whether the first character that is not case-ignorable is a capital sigma with no cased letter
behind it. -/
def startsFinal (l : LowerCase) (cs : List Char) : Bool :=
  match cs.dropWhile l.isIgnorable with
  | [] => false
  | c :: rest => c == 'Σ' && !l.startsCased rest

/-- No capital sigma of the text comes behind a cased letter, where `cased` tells of the letters
before the text. -/
def NoFinal (l : LowerCase) (cased : Bool) (cs : List Char) : Prop :=
  ∀ before behind, cs = before ++ 'Σ' :: behind → before.foldl l.casedAfter cased = false

/-- The capital sigma is a cased letter with a lower case of its own. -/
structure SigmaCased (l : LowerCase) : Prop where
  image_sigma : l.image 'Σ' = ['σ']
  isCased_sigma : l.isCased 'Σ' = true
  isIgnorable_sigma : l.isIgnorable 'Σ' = false

theorem sigmaCased_ofTexts : ofTexts.SigmaCased where
  image_sigma := by decide +kernel
  isCased_sigma := by decide +kernel
  isIgnorable_sigma := by decide +kernel

variable {l : LowerCase} {cased : Bool} {c : Char} {cs : List Char}

/-! ### Texts put together -/

/-- What is left behind when a text has been read is whether it ends in a cased letter. -/
theorem foldl_casedAfter (l : LowerCase) (cs : List Char) :
    cs.foldl l.casedAfter false = l.endsCased cs := by
  induction cs using List.reverseRecOn with
  | nil => rfl
  | append_singleton cs c ih =>
    rw [endsCased, startsCased] at ih ⊢
    rw [List.foldl_append, List.foldl_cons, List.foldl_nil, ih, casedAfter, List.reverse_append,
      List.reverse_singleton, List.singleton_append, List.dropWhile_cons]
    cases l.isIgnorable c <;> rfl

theorem noFinal_of_not_mem (l : LowerCase) (cased : Bool) (h : 'Σ' ∉ cs) : l.NoFinal cased cs := by
  rintro before behind rfl
  exact absurd (List.mem_append_right before List.mem_cons_self) h

theorem NoFinal.tail (h : l.NoFinal cased (c :: cs)) : l.NoFinal (l.casedAfter cased c) cs := by
  rintro before behind rfl
  exact h (c :: before) behind rfl

theorem NoFinal.concat (h : l.NoFinal cased cs)
    (hc : c = 'Σ' → cs.foldl l.casedAfter cased = false) : l.NoFinal cased (cs ++ [c]) := by
  intro before behind heq
  obtain rfl | ⟨behind, d, rfl⟩ := behind.eq_nil_or_concat'
  · obtain ⟨rfl, hlast⟩ := List.append_inj' heq rfl
    exact hc (List.head_eq_of_cons_eq hlast)
  · rw [← List.cons_append, ← List.append_assoc] at heq
    exact h before behind (List.append_inj' heq rfl).1

/-- **A text in lower case part by part**, if no sigma of the first part can become final. -/
theorem charsFrom_append (h : l.NoFinal cased cs) (ds : List Char) :
    l.charsFrom cased [] (cs ++ ds)
      = l.charsFrom cased [] cs ++ l.charsFrom (cs.foldl l.casedAfter cased) [] ds := by
  induction cs generalizing cased with
  | nil => rfl
  | cons c cs ih =>
    have himage : l.imageAt cased c (cs ++ ds) = l.imageAt cased c cs := by
      by_cases hc : c = 'Σ'
      · -- the first sigma comes behind no cased letter, so what is behind it does not matter
        have hcased : cased = false := h [] cs (by rw [hc, List.nil_append])
        simp [imageAt, hcased]
      · simp [imageAt, hc]
    rw [List.cons_append, charsFrom_cons, charsFrom_cons, himage, ih h.tail, List.append_assoc,
      List.foldl_cons]

/-! ### What the letters before a text matter -/

/-- Characters that are passed over change nothing. -/
theorem foldl_casedAfter_of_ignorable (h : ∀ c ∈ cs, l.isIgnorable c) :
    cs.foldl l.casedAfter cased = cased := by
  induction cs with
  | nil => rfl
  | cons c cs ih =>
    obtain ⟨hc, hcs⟩ := List.forall_mem_cons.1 h
    rw [List.foldl_cons, casedAfter, if_pos hc, ih hcs]

theorem charsFrom_of_not_mem (h : 'Σ' ∉ cs) : l.charsFrom cased [] cs = cs.flatMap l.image := by
  induction cs generalizing cased with
  | nil => rfl
  | cons c cs ih =>
    rw [List.mem_cons, not_or] at h
    have himage : l.imageAt cased c cs = l.image c := by simp [imageAt, Ne.symm h.1]
    rw [charsFrom_cons, himage, ih h.2, List.flatMap_cons]

/-- The characters at the beginning of a text that are passed over are no sigmas, and what is behind
them follows the same letters as the text. -/
theorem charsFrom_split (hl : l.SigmaCased) (cased : Bool) (cs : List Char) :
    l.charsFrom cased [] cs = (cs.takeWhile l.isIgnorable).flatMap l.image
      ++ l.charsFrom cased [] (cs.dropWhile l.isIgnorable) := by
  have hignorable : ∀ c ∈ cs.takeWhile l.isIgnorable, l.isIgnorable c :=
    fun _ hc => List.mem_takeWhile_imp hc
  have hsigma : 'Σ' ∉ cs.takeWhile l.isIgnorable := by
    intro hmem
    have htrue := hignorable _ hmem
    rw [hl.isIgnorable_sigma] at htrue
    contradiction
  have happend := charsFrom_append (noFinal_of_not_mem l cased hsigma) (cs.dropWhile l.isIgnorable)
  rwa [List.takeWhile_append_dropWhile, charsFrom_of_not_mem hsigma,
    foldl_casedAfter_of_ignorable hignorable] at happend

/-- A text that does not begin with a final sigma has the same lower case behind all letters. -/
theorem charsFrom_eq_of_startsFinal_eq_false (hl : l.SigmaCased) (h : l.startsFinal cs = false)
    (cased : Bool) : l.charsFrom cased [] cs = l.charsFrom false [] cs := by
  rw [charsFrom_split hl, charsFrom_split hl false]
  rw [startsFinal] at h
  cases hrest : cs.dropWhile l.isIgnorable with
  | nil => rfl
  | cons c rest =>
    have hc : l.isIgnorable c = false := by
      have hhead := List.head?_dropWhile_not l.isIgnorable cs
      rw [hrest] at hhead
      simpa using hhead
    have himage : l.imageAt cased c rest = l.imageAt false c rest := by
      rw [hrest] at h
      simp only [Bool.and_eq_false_iff, Bool.not_eq_false'] at h
      rcases h with hne | hstarts
      · simp [imageAt, hne]
      · simp [imageAt, hstarts]
    rw [charsFrom_cons, charsFrom_cons, himage, casedAfter, casedAfter, hc]
    rfl

/-- Behind a cased letter, a text that begins with a final sigma differs in this sigma. -/
theorem exists_charsFrom_of_startsFinal (hl : l.SigmaCased) (h : l.startsFinal cs) :
    ∃ before behind, l.charsFrom false [] cs = before ++ 'σ' :: behind
      ∧ l.charsFrom true [] cs = before ++ 'ς' :: behind := by
  rw [charsFrom_split hl, charsFrom_split hl true]
  rw [startsFinal] at h
  cases hrest : cs.dropWhile l.isIgnorable with
  | nil =>
    rw [hrest] at h
    contradiction
  | cons c rest =>
    rw [hrest] at h
    simp only [Bool.and_eq_true, beq_iff_eq, Bool.not_eq_true'] at h
    obtain ⟨rfl, hstarts⟩ := h
    refine ⟨_, l.charsFrom true [] rest, congrArg _ ?_, congrArg _ ?_⟩
    · simp [charsFrom_cons, imageAt, casedAfter, hl.image_sigma, hl.isIgnorable_sigma,
        hl.isCased_sigma]
    · simp [charsFrom_cons, imageAt, casedAfter, hstarts, hl.isIgnorable_sigma, hl.isCased_sigma]

/-- **What the letters before a text matter**: a final sigma at its beginning, and nothing else. -/
theorem charsFrom_eq_iff (hl : l.SigmaCased) (cased : Bool) (cs : List Char) :
    l.charsFrom cased [] cs = l.charsFrom false [] cs ↔ ¬(cased ∧ l.startsFinal cs) := by
  cases hfinal : l.startsFinal cs with
  | false => simp [charsFrom_eq_of_startsFinal_eq_false hl hfinal cased]
  | true =>
    obtain ⟨before, behind, hmedial, hend⟩ := exists_charsFrom_of_startsFinal hl hfinal
    cases cased with
    | false => simp
    | true =>
      rw [hmedial, hend]
      simp

end LowerCase

/-! ### Inside a cluster -/

/-- A letter without further properties, and a character that is joined to the next one, stay only
behind one of the latter kind. -/
theorem ClusterState.last_of_joins {state : ClusterState} {k : ClusterClass}
    (hk : k = .other ∨ k = .prepended) (h : state.joins k) : state.last = .prepended := by
  obtain ⟨last, unpaired, pictograph, conjunct⟩ := state
  rcases hk with rfl | rfl <;> cases last <;> first | rfl | contradiction

namespace ClusterClass

variable {c : Char} (h : ofChar c = .prepended)

include h

theorem contains_of_prepended : prependeds.contains c := by
  by_contra hc
  simp only [ofChar, ofSyllable, hc, ite_eq_iff, reduceCtorEq, and_false, or_false, if_false] at h

/-- A character that is joined to the next one is no cased letter. -/
theorem isCased_of_prepended : LowerCase.ofTexts.isCased c = false := by
  have hsettled : casedLetters.contains c = false :=
    ScalarSet.contains_eq_false_of_apart (by decide +kernel) (by decide +kernel) (by decide +kernel)
      (contains_of_prepended h)
  have hadded : casedSupplement.contains c = false :=
    ScalarSet.contains_eq_false_of_apart (by decide +kernel) (by decide +kernel) (by decide +kernel)
      (contains_of_prepended h)
  exact Bool.or_eq_false_iff.2 ⟨hadded, hsettled⟩

end ClusterClass

namespace Text

theorem ofChar_sigma : ClusterClass.ofChar 'Σ' = .other := by
  decide +kernel

/-- What is kept while a cluster is read: no sigma comes behind a cased letter, and no cased letter
is in a cluster that a sigma may join. -/
structure SigmaApart (state : ClusterState) (cs : List Char) : Prop where
  noFinal : LowerCase.ofTexts.NoFinal false cs
  not_cased : state.last = .prepended → cs.foldl LowerCase.ofTexts.casedAfter false = false

namespace SigmaApart

variable {state next : ClusterState} {cs rest : List Char} {c : Char}

/-- One more character, which comes behind a cased letter only if it is neither a sigma nor joined
to the next one. -/
theorem concat (h : LowerCase.ofTexts.NoFinal false cs) (hlast : state.last = .ofChar c)
    (hcased : state.last = .other ∨ state.last = .prepended →
      cs.foldl LowerCase.ofTexts.casedAfter false = false) : SigmaApart state (cs ++ [c]) where
  noFinal := by
    refine h.concat ?_
    rintro rfl
    exact hcased (.inl (hlast.trans ofChar_sigma))
  not_cased hprepended := by
    have hc := ClusterClass.isCased_of_prepended (hlast.symm.trans hprepended)
    rw [List.foldl_append, hcased (.inr hprepended), List.foldl_cons, List.foldl_nil,
      LowerCase.casedAfter, hc, ite_self]

theorem start (c : Char) : SigmaApart (clusterSegmenter.start c) [c] := by
  have hempty : LowerCase.ofTexts.NoFinal false [] :=
    LowerCase.noFinal_of_not_mem _ _ List.not_mem_nil
  exact concat hempty rfl fun _ => rfl

theorem advance (h : SigmaApart state cs)
    (hnext : clusterSegmenter.advance state c rest = some next) :
    SigmaApart next (cs ++ [c]) := by
  obtain ⟨hjoins, hstate⟩ := Option.ite_none_right_eq_some.1 hnext
  obtain rfl := Option.some_inj.1 hstate
  exact concat h.noFinal rfl fun hlast => h.not_cased (ClusterState.last_of_joins hlast hjoins)

end SigmaApart

/-- **No sigma of a cluster comes behind a cased letter of the cluster.** -/
theorem noFinal_of_mem_clusters {cs p : List Char} (hp : p ∈ clusters cs) :
    LowerCase.ofTexts.NoFinal false p := by
  obtain ⟨state, h⟩ := Segmenter.exists_of_mem_pieces SigmaApart.start SigmaApart.advance hp
  exact h.noFinal

end Text

end TitleScript
