import TitleScript.Proofs.Function
import TitleScript.Proofs.Function.Slicing
import TitleScript.Proofs.Text.Sigma

/-!
# Capitalized words

A capitalized word has its first character in upper case and what is behind it in lower case. Put
into lower case as a whole it has its first character in lower case instead, and should have the
same behind it. The two differ in what they know of the first character: what is behind it is put
into lower case alone by the one and in its place by the other. Only a sigma can tell, and only one
that would be final behind a cased letter, with nothing but case-ignorable characters between it and
the first character.

## Main definitions

* `Text.lowerBehind` — a text in lower case behind other letters

## Main results

* `Text.lower_eq_append` — a text in lower case, the first character and what is behind it
* `Text.lowerBehind_eq_iff`, `Text.exists_lowerBehind` — what other letters before a text matter
* `capitalize_lowers_rest` — a capitalized word against the word in lower case
-/

namespace TitleScript

open Text

namespace Text

/-- A text in lower case, where `cased` tells whether a cased letter comes before it. -/
def lowerBehind (cased : Bool) (s : String) : String :=
  String.ofList (LowerCase.ofTexts.charsFrom cased [] s.toList)

theorem lowerBehind_false (s : String) : lowerBehind false s = Text.lower s := rfl

theorem lowerBehind_eq_iff (cased : Bool) (s : String) :
    lowerBehind cased s = Text.lower s ↔ ¬(cased ∧ LowerCase.ofTexts.startsFinal s.toList) := by
  rw [← lowerBehind_false, lowerBehind, lowerBehind, String.ofList_inj]
  exact LowerCase.charsFrom_eq_iff LowerCase.sigmaCased_ofTexts cased s.toList

variable {s : String}

/-- Behind a cased letter, the sigma at the beginning is final. -/
theorem exists_lowerBehind (h : LowerCase.ofTexts.startsFinal s.toList) :
    ∃ before behind, Text.lower s = before ++ "σ" ++ behind
      ∧ lowerBehind true s = before ++ "ς" ++ behind := by
  obtain ⟨before, behind, hmedial, hfinal⟩ :=
    LowerCase.exists_charsFrom_of_startsFinal LowerCase.sigmaCased_ofTexts h
  refine ⟨String.ofList before, String.ofList behind, ?_, ?_⟩
  · rw [← lowerBehind_false, lowerBehind, hmedial, List.append_cons, String.ofList_append,
      String.ofList_append]
  · rw [lowerBehind, hfinal, List.append_cons, String.ofList_append, String.ofList_append]

variable (hs : s ≠ "")

include hs

/-- The first character of a text that is not empty, and what is behind it. -/
theorem clusters_eq_cons : ∃ others, clusters s.toList = (slice s 0 1).toList :: others
    ∧ (slice s 1 (Text.length s)).toList = others.flatten := by
  cases hclusters : clusters s.toList with
  | nil =>
    have hflatten := flatten_clusters s.toList
    rw [hclusters, List.flatten_nil, eq_comm, String.toList_eq_nil_iff] at hflatten
    exact absurd hflatten hs
  | cons first others =>
    refine ⟨others, ?_, ?_⟩
    · rw [slice, hclusters, String.toList_ofList]
      simp
    · rw [slice_to_end, hclusters, String.toList_ofList]
      rfl

/-- **The first character of a text is put into lower case as it is alone**, and what is behind it
in view of the letters of the first. -/
theorem lower_eq_append : Text.lower s = Text.lower (slice s 0 1)
    ++ lowerBehind (LowerCase.ofTexts.endsCased (slice s 0 1).toList)
      (slice s 1 (Text.length s)) := by
  obtain ⟨others, hclusters, hrest⟩ := clusters_eq_cons hs
  have hfirst : (slice s 0 1).toList ∈ clusters s.toList := hclusters ▸ List.mem_cons_self
  have hchars : s.toList = (slice s 0 1).toList ++ others.flatten := by
    rw [← List.flatten_cons, ← hclusters, flatten_clusters]
  have happend := LowerCase.charsFrom_append (noFinal_of_mem_clusters hfirst) others.flatten
  rw [← hchars, LowerCase.foldl_casedAfter, ← hrest] at happend
  exact (congrArg String.ofList happend).trans String.ofList_append

/-- A piece of a text is capitalized in its first character. -/
theorem capitalizePiece_eq : String.ofList (Textual.capitalizePiece s.toList)
    = Text.upper (slice s 0 1) ++ Text.lower (slice s 1 (Text.length s)) := by
  obtain ⟨others, hclusters, hrest⟩ := clusters_eq_cons hs
  rw [Textual.capitalizePiece, hclusters, Text.upper, Text.lower, LowerCase.text, hrest,
    ← String.ofList_append]
  rfl

end Text

/-- **A capitalized word against the word in lower case.** Behind the first character of the one, in
upper case, and of the other, in lower case, there is the same text, unless the first character ends
in a cased letter and what is behind it begins with a sigma that is final behind one. Then the two
differ in this sigma. -/
theorem capitalize_lowers_rest {f g : Function} (hcapital : f.body = .builtin .capitalize)
    (hlower : g.body = .builtin .lower) (ctx : Context) (args : List Outcome)
    (hword : wordPieces (argumentText args 0).toList = [(argumentText args 0).toList]) :
    let word := argumentText args 0
    let first := slice word 0 1
    let rest := slice word 1 (Text.length word)
    let misread := LowerCase.ofTexts.endsCased first.toList
      ∧ LowerCase.ofTexts.startsFinal rest.toList
    (f.apply ctx args).text = Text.cut 65536 (Text.upper first ++ Text.lower rest)
      ∧ (g.apply ctx args).text = Text.cut 65536 (Text.lower word)
      ∧ (Text.lower word = Text.lower first ++ Text.lower rest ↔ ¬misread)
      ∧ (misread → ∃ before behind, Text.lower rest = before ++ "σ" ++ behind
        ∧ Text.lower word = Text.lower first ++ (before ++ "ς" ++ behind)) := by
  intro word first rest misread
  have hne : word ≠ "" := by
    intro hempty
    have hnil : wordPieces word.toList = [word.toList] := hword
    rw [hempty] at hnil
    contradiction
  have hsplit : Text.lower word
      = Text.lower first ++ lowerBehind (LowerCase.ofTexts.endsCased first.toList) rest :=
    lower_eq_append hne
  refine ⟨?_, ?_, ?_, ?_⟩
  · rw [f.text_apply, f.run_of_body ctx args hcapital, Builtin.run, Textual.capitalize, hword,
      List.flatMap_singleton, ← capitalizePiece_eq hne]
    rfl
  · rw [g.text_apply, g.run_of_body ctx args hlower]
    rfl
  · rw [hsplit, String.append_right_inj]
    exact lowerBehind_eq_iff _ rest
  · rintro ⟨hcased, hfinal⟩
    obtain ⟨before, behind, halone, hplace⟩ := exists_lowerBehind hfinal
    exact ⟨before, behind, halone, by rw [hsplit, hcased, hplace]⟩

/-- A sigma at the end of a word, but not directly behind the first letter. -/
theorem capitalize_lowers_rest_name :
    let ctx : Context := ⟨fun _ => .missing, .empty, {}⟩
    let f := Function.ofBuiltin .capitalize
    let g := Function.ofBuiltin .lower
    let args := [.literal "ΟΔΟΣ"]
    f.body = .builtin .capitalize ∧ g.body = .builtin .lower
      ∧ wordPieces "ΟΔΟΣ".toList = ["ΟΔΟΣ".toList]
      ∧ (f.apply ctx args).text = "Οδος" ∧ (g.apply ctx args).text = "οδος" := by
  intro ctx f g args
  have hword : wordPieces "ΟΔΟΣ".toList = ["ΟΔΟΣ".toList] := by decide +kernel
  obtain ⟨hcapital, hlower, hsame, -⟩ :=
    capitalize_lowers_rest (f := f) (g := g) rfl rfl ctx args hword
  refine ⟨rfl, rfl, hword, hcapital.trans ?_, hlower.trans ?_⟩
  · decide +kernel
  · -- the same text as behind the capital
    have hrest := hsame.2 (by decide +kernel)
    exact (congrArg (Text.cut 65536) hrest).trans (by decide +kernel)

/-- **A final sigma is lost directly behind the capital.** -/
theorem capitalize_loses_final_sigma :
    let ctx : Context := ⟨fun _ => .missing, .empty, {}⟩
    let capitalized := ((Function.ofBuiltin .capitalize).apply ctx [.literal "ΑΣ"]).text
    let lowered := ((Function.ofBuiltin .lower).apply ctx [.literal "ΑΣ"]).text
    wordPieces "ΑΣ".toList = ["ΑΣ".toList] ∧ slice "ΑΣ" 0 1 = "Α"
      ∧ capitalized = "Ασ" ∧ lowered = "ας"
      ∧ ¬∃ rest, capitalized = Text.upper "Α" ++ rest ∧ lowered = Text.lower "Α" ++ rest := by
  intro ctx capitalized lowered
  have hcapitalized : capitalized = Text.upper "Α" ++ "σ" := by decide +kernel
  have hlowered : lowered = Text.lower "Α" ++ "ς" := by decide +kernel
  refine ⟨by decide +kernel, by decide +kernel, by decide +kernel, by decide +kernel, ?_⟩
  rintro ⟨rest, hcapital, hlower⟩
  rw [hcapitalized, String.append_right_inj] at hcapital
  rw [hlowered, String.append_right_inj, ← hcapital] at hlower
  contradiction

end TitleScript
