import TitleScript.Evaluation
import TitleScript.Proofs.Distinct

/-!
# The texts of the branches

The outcomes of the branches become texts, one by one or joined. The flags are left behind, and so
are repeated texts if the settings say so. Then each text stands where it occurs first, which the
positions in the list of all texts tell.

Joining loses nothing as long as the separator is a character of none of the texts: the joined text
is cut wherever the separator stands, and the pieces are the texts, the empty ones at the ends and
between two separators among them. Only a list without texts cannot be told from one empty text.

## Main definitions

* `Text.split` — a text cut wherever a character stands

## Main results

* `Text.split_intercalate` — cutting undoes joining
* `collect_of_distinct` — the texts when repeats are left out
* `results_kept` — what becomes of the outcomes
-/

namespace TitleScript

namespace Text

/-- The pieces of a text between the occurrences of a character. -/
def split (c : Char) (s : String) : List String :=
  (s.toList.splitOn c).map String.ofList

/-- **Cutting undoes joining**, if the separator stands in none of the texts. -/
theorem split_intercalate {c : Char} {texts : List String} (hne : texts ≠ [])
    (h : ∀ text ∈ texts, c ∉ text.toList) :
    split c ((String.singleton c).intercalate texts) = texts := by
  have hpieces : ∀ piece ∈ texts.map String.toList, c ∉ piece := by
    simpa using h
  have hsplit := List.splitOn_intercalate c hpieces (by simpa using hne)
  rw [split, String.toList_intercalate, String.toList_singleton, hsplit, List.map_map]
  have hid : String.ofList ∘ String.toList = id := funext fun s => String.ofList_toList
  rw [hid, List.map_id]

example : split '|' "|a||" = ["", "a", "", ""] ∧ split '|' "" = [""] := by decide +kernel

end Text

variable {settings : Settings} {results : List Outcome}

/-! ### One by one -/

theorem collect_of_not_distinct (h : settings.distinct = false) (results : List Outcome) :
    collect settings results = results.map Outcome.text := by
  rw [collect, h]
  rfl

theorem collect_of_distinct (h : settings.distinct = true) (results : List Outcome) :
    collect settings results = (results.map Outcome.text).eraseDups :=
  if_pos h

/-- No text is added and none is lost altogether. -/
theorem mem_collect {text : String} :
    text ∈ collect settings results ↔ text ∈ results.map Outcome.text := by
  cases h : settings.distinct with
  | true => rw [collect_of_distinct h, List.mem_eraseDups]
  | false => rw [collect_of_not_distinct h]

theorem collect_ne_nil (h : results ≠ []) : collect settings results ≠ [] := by
  obtain ⟨o, others, rfl⟩ := List.exists_cons_of_ne_nil h
  have hmem : o.text ∈ collect settings (o :: others) :=
    mem_collect.2 (List.mem_map_of_mem List.mem_cons_self)
  exact List.ne_nil_of_mem hmem

/-! ### Joined -/

/-- **Nothing is lost and nothing is made up.** Unless repeats are to be left out, the texts are
those of the outcomes in their order. Otherwise no text stands twice, the texts are those that
occur, and they stand in the order in which they occur first. If the separator is a character that
occurs in none of the texts, the joined text of at least one outcome can be taken apart again. -/
theorem results_kept (settings : Settings) (results : List Outcome) :
    let values := results.map Outcome.text
    let collected := collect settings results
    (settings.distinct = false → collected = values)
      ∧ (settings.distinct = true → collected.Nodup
        ∧ (∀ value, value ∈ collected ↔ value ∈ values)
        ∧ collected.Pairwise fun a b => values.idxOf a < values.idxOf b)
      ∧ ∀ c : Char, settings.resultSeparator = String.singleton c →
        (∀ value ∈ values, c ∉ value.toList) → results ≠ [] →
          Text.split c (joinResults settings results) = collected := by
  intro values collected
  refine ⟨fun h => collect_of_not_distinct h results, ?_, ?_⟩
  · intro h
    have hcollected : collected = values.eraseDups := collect_of_distinct h results
    rw [hcollected]
    exact ⟨nodup_eraseDups values, fun value => List.mem_eraseDups,
      pairwise_idxOf_eraseDups values⟩
  · intro c hseparator hvalues hne
    rw [joinResults, hseparator]
    exact Text.split_intercalate (collect_ne_nil hne) fun value hvalue =>
      hvalues value (mem_collect.1 hvalue)

/-- Outcomes with empty texts at both ends and next to each other, with and without repeats. -/
theorem results_kept_bars :
    let results : List Outcome :=
      [.missing, .literal "b", .literal "a", .literal "b", .neutral, .unresolved]
    let all : Settings := { resultSeparator := "|" }
    let once : Settings := { all with distinct := true }
    all.distinct = false ∧ once.distinct = true
      ∧ collect all results = ["", "b", "a", "b", "", ""]
      ∧ joinResults all results = "|b|a|b||"
      ∧ Text.split '|' "|b|a|b||" = collect all results
      ∧ collect once results = ["", "b", "a"] ∧ (collect once results).Nodup
      ∧ Text.split '|' (joinResults once results) = collect once results := by
  intro results all once
  have hvalues : ∀ value ∈ results.map Outcome.text, '|' ∉ value.toList := by decide +kernel
  obtain ⟨hall, -, hsplitAll⟩ := results_kept all results
  obtain ⟨-, honce, hsplitOnce⟩ := results_kept once results
  have hjoined : joinResults all results = "|b|a|b||" := by decide +kernel
  have hpieces := hsplitAll '|' rfl hvalues (List.cons_ne_nil _ _)
  rw [hjoined] at hpieces
  exact ⟨rfl, rfl, hall rfl, hjoined, hpieces, by decide +kernel, (honce rfl).1,
    hsplitOnce '|' rfl hvalues (List.cons_ne_nil _ _)⟩

end TitleScript
