import Mathlib.Data.List.Induction
import Mathlib.Data.String.Basic
import TitleScript.CommandLine
import TitleScript.Proofs.Track

/-!
# Values assigned to fields

A request to evaluate a script can assign values to fields of the track, and a field that is
assigned several values is to have all of them, in place of those that the file has for it.
Assignments are collected by names as written, and the track knows names by their normalized form.
So this works as long as a field is always written in one way. Of a field that is written in several
ways it is the last spelling, in the order of texts, whose values count, and the values assigned to
the others are lost.

## Main definitions

* `spellingsUnder` — the ways in which a name is written
* `valuesWritten` — the values assigned to one of them
* `EvaluateRequest.ownTrack?` — the track before the assignments

## Main results

* `Track.values?_assign` — the values of a field that is assigned some
* `valuesWritten_eq_valuesUnder_iff` — whether any are lost
* `assigned_values` — what a request to evaluate a script has for a field
* `assigned_value_lost` — a request whose values are not all there
-/

namespace TitleScript

variable {key written : String} {assignments : List (String × String)}

/-! ### Spellings of a name -/

/-- The names as written that have the normalized form `key`. -/
def spellingsUnder (key : String) (assignments : List (String × String)) : List String :=
  (assignments.map (·.1)).filter (normalizeName · == key)

/-- The spelling is the last, in the order of texts, in which a name is written. -/
def LastSpelling (key : String) (assignments : List (String × String)) (written : String) : Prop :=
  written ∈ spellingsUnder key assignments
    ∧ ∀ other ∈ spellingsUnder key assignments, other ≤ written

/-- A name is always written in one way. -/
def SpelledAlike (key : String) (assignments : List (String × String)) : Prop :=
  ∀ written ∈ spellingsUnder key assignments,
    ∀ other ∈ spellingsUnder key assignments, other = written

instance (key : String) (assignments : List (String × String)) :
    Decidable (SpelledAlike key assignments) :=
  inferInstanceAs (Decidable (∀ written ∈ spellingsUnder key assignments,
    ∀ other ∈ spellingsUnder key assignments, other = written))

/-- The values assigned to a name as written, in the order of the assignments. -/
def valuesWritten (written : String) (assignments : List (String × String)) : List String :=
  (assignments.filter (·.1 == written)).map (·.2)

theorem mem_spellingsUnder : written ∈ spellingsUnder key assignments
    ↔ (∃ a ∈ assignments, a.1 = written) ∧ normalizeName written = key := by
  rw [spellingsUnder, List.mem_filter, List.mem_map, beq_iff_eq]

theorem spellingsUnder_eq_nil_iff :
    spellingsUnder key assignments = [] ↔ valuesUnder key assignments = [] := by
  rw [spellingsUnder, valuesUnder, List.filter_map, List.map_eq_nil_iff, List.map_eq_nil_iff]
  rfl

theorem spelledAlike_iff (h : written ∈ spellingsUnder key assignments) :
    SpelledAlike key assignments ↔ ∀ other ∈ spellingsUnder key assignments, other = written := by
  constructor
  · intro halike
    exact halike written h
  · intro hall a ha b hb
    rw [hall a ha, hall b hb]

theorem valuesWritten_eq_nil_iff :
    valuesWritten written assignments = [] ↔ ∀ a ∈ assignments, a.1 ≠ written := by
  rw [valuesWritten, List.map_eq_nil_iff, List.filter_eq_nil_iff]
  simp only [beq_iff_eq, ne_eq]

theorem valuesWritten_concat (written : String) (assignments : List (String × String))
    (a : String × String) :
    valuesWritten written (assignments ++ [a])
      = valuesWritten written assignments ++ if a.1 = written then [a.2] else [] := by
  rw [valuesWritten, List.filter_append, List.map_append, ← valuesWritten]
  by_cases h : a.1 = written
  · simp [h]
  · simp [h]

/-- **No value is lost** exactly if the name is written in one way. -/
theorem valuesWritten_eq_valuesUnder_iff (hkey : normalizeName written = key) :
    valuesWritten written assignments = valuesUnder key assignments
      ↔ ∀ other ∈ spellingsUnder key assignments, other = written := by
  -- the values assigned to a spelling are some of those assigned to the name
  have hsome : assignments.filter (·.1 == written)
      = (assignments.filter fun a => normalizeName a.1 == key).filter (·.1 == written) := by
    rw [List.filter_filter]
    refine List.filter_congr fun a _ => ?_
    by_cases h : a.1 = written
    · simp [h, hkey]
    · simp [h]
  constructor
  · intro h other hother
    have hlength := congrArg List.length h
    rw [valuesWritten, valuesUnder, hsome, List.length_map, List.length_map,
      List.length_filter_eq_length_iff] at hlength
    obtain ⟨⟨a, ha, rfl⟩, hname⟩ := mem_spellingsUnder.1 hother
    exact beq_iff_eq.1 (hlength a (List.mem_filter.2 ⟨ha, beq_iff_eq.2 hname⟩))
  · intro h
    rw [valuesWritten, valuesUnder, hsome, List.filter_eq_self.2]
    intro a ha
    obtain ⟨hmem, hname⟩ := List.mem_filter.1 ha
    exact beq_iff_eq.2 (h a.1 (mem_spellingsUnder.2 ⟨⟨a, hmem, rfl⟩, beq_iff_eq.1 hname⟩))

/-! ### Assigning -/

namespace Track

/-- Assignments are collected by names as written. -/
theorem getElem?_collectAssignments (assignments : List (String × String)) (written : String) :
    (collectAssignments assignments)[written]?
      = if valuesWritten written assignments = [] then none
        else some (valuesWritten written assignments) := by
  induction assignments using List.reverseRecOn with
  | nil => exact Std.ExtTreeMap.getElem?_empty
  | append_singleton assignments a ih =>
    have hstep : collectAssignments (assignments ++ [a])
        = (collectAssignments assignments).alter a.1 fun values =>
          some (values.getD [] ++ [a.2]) := by
      rw [collectAssignments, List.foldl_append]
      rfl
    rw [hstep, Std.ExtTreeMap.getElem?_alter, valuesWritten_concat]
    by_cases h : a.1 = written
    · have hgetD : ((collectAssignments assignments)[a.1]?).getD []
          = valuesWritten written assignments := by
        rw [h, ih]
        split
        · next hnil => exact hnil.symm
        · rfl
      rw [if_pos (Std.LawfulEqCmp.compare_eq_iff_eq.2 h), hgetD, if_pos h, if_neg (by simp)]
    · rw [if_neg (by rwa [Std.LawfulEqCmp.compare_eq_iff_eq]), ih, if_neg h, List.append_nil]

theorem mem_toList_collectAssignments {values : List String} :
    (written, values) ∈ (collectAssignments assignments).toList
      ↔ (∃ a ∈ assignments, a.1 = written) ∧ valuesWritten written assignments = values := by
  rw [Std.ExtTreeMap.mem_toList_iff_getElem?_eq_some, getElem?_collectAssignments]
  split
  · next hnil =>
    have hnone := valuesWritten_eq_nil_iff.1 hnil
    constructor
    · intro hsome
      contradiction
    · rintro ⟨⟨a, ha, hname⟩, -⟩
      exact absurd hname (hnone a ha)
  · next hne =>
    have hsome : ∃ a ∈ assignments, a.1 = written := by
      by_contra hnone
      push Not at hnone
      exact hne (valuesWritten_eq_nil_iff.2 hnone)
    rw [Option.some_inj, and_iff_right hsome]

/-- **The values of a field that is assigned some** are those of the last way in which it is
written. -/
theorem values?_assign (t : Track) {name : String}
    (h : spellingsUnder (normalizeName name) assignments ≠ []) :
    ∃ written, LastSpelling (normalizeName name) assignments written
      ∧ (t.assign assignments).values? name = some (valuesWritten written assignments) := by
  -- the entries that have a say, in the order of the texts
  let entries := (collectAssignments assignments).toList.filter
    fun entry => normalizeName entry.1 == normalizeName name
  have hmem (entry : String × List String) : entry ∈ entries
      ↔ entry.1 ∈ spellingsUnder (normalizeName name) assignments
        ∧ valuesWritten entry.1 assignments = entry.2 := by
    rw [List.mem_filter, beq_iff_eq, mem_toList_collectAssignments, mem_spellingsUnder,
      and_right_comm]
  have hsorted : entries.Pairwise fun a b => compare a.1 b.1 = .lt :=
    Std.ExtTreeMap.ordered_keys_toList.filter _
  have hne : entries ≠ [] := by
    obtain ⟨other, hother⟩ := List.exists_mem_of_ne_nil _ h
    exact List.ne_nil_of_mem ((hmem (other, valuesWritten other assignments)).2 ⟨hother, rfl⟩)
  obtain ⟨before, last, hlast⟩ := entries.eq_nil_or_concat.resolve_left hne
  rw [List.concat_eq_append] at hlast
  rw [hlast] at hmem hsorted
  obtain ⟨hspelling, hvalues⟩ := (hmem last).1 (List.mem_append_right before List.mem_cons_self)
  refine ⟨last.1, ⟨hspelling, fun other hother => ?_⟩, ?_⟩
  · have hentry := (hmem (other, valuesWritten other assignments)).2 ⟨hother, rfl⟩
    rcases List.mem_append.1 hentry with hbefore | hself
    · have hlt := (List.pairwise_append.1 hsorted).2.2 _ hbefore last List.mem_cons_self
      exact (compare_lt_iff_lt.1 hlt).le
    · rw [← List.mem_singleton.1 hself]
  · have hunder : valuesUnder (normalizeName name) (collectAssignments assignments).toList
        = (before ++ [last]).map (·.2) :=
      congrArg (List.map Prod.snd) hlast
    rw [assign, values?_setTable, hunder, List.map_append, List.map_singleton, List.getLast?_concat,
      Option.some_or, hvalues]

/-- A field that is assigned nothing keeps its values. -/
theorem values?_assign_of_eq_nil (t : Track) {name : String}
    (h : valuesUnder (normalizeName name) assignments = []) :
    (t.assign assignments).values? name = t.values? name := by
  have hnone : valuesUnder (normalizeName name) (collectAssignments assignments).toList = [] := by
    rw [valuesUnder_eq_nil_iff]
    rintro ⟨written, values⟩ hentry
    obtain ⟨⟨a, ha, rfl⟩, -⟩ := mem_toList_collectAssignments.1 hentry
    exact valuesUnder_eq_nil_iff.1 h a ha
  rw [assign, values?_setTable, hnone, List.getLast?_nil, Option.none_or]

end Track

/-! ### Requests to evaluate a script -/

namespace CommandLine

/-- The track that the assignments of a request are made to: the one of its file, or one without
fields. -/
def EvaluateRequest.ownTrack? (request : EvaluateRequest) (files : Files) : Option Track :=
  match request.track with
  | some path => (files.text? path).bind Track.ofJson?
  | none => some .empty

theorem EvaluateRequest.track?_eq (request : EvaluateRequest) (files : Files) :
    request.track? files
      = (request.ownTrack? files).map (·.assign request.assignments) := by
  rw [track?, ownTrack?, Option.map_eq_bind]
  cases request.track with
  | none => rfl
  | some path => rfl

/-- **The values that a request to evaluate a script has for a field.** A field that is assigned
nothing has the values of the file. Otherwise it has the values assigned to the last of its
spellings, and these are all that were assigned to the field, in the order of the assignments,
exactly if the field is always written in one way. -/
theorem assigned_values {request : EvaluateRequest} {files : Files} {own : Track}
    (hown : request.ownTrack? files = some own) :
    ∃ t, request.track? files = some t ∧ ∀ name : String,
      let key := normalizeName name
      let assigned := valuesUnder key request.assignments
      (assigned = [] → t.values name = own.values name)
        ∧ (assigned ≠ [] →
          (t.values name = assigned ↔ SpelledAlike key request.assignments)
            ∧ ∃ written, LastSpelling key request.assignments written
              ∧ t.values name = valuesWritten written request.assignments) := by
  refine ⟨own.assign request.assignments, ?_, fun name => ?_⟩
  · rw [request.track?_eq, hown, Option.map_some]
  · intro key assigned
    refine ⟨fun hnil => ?_, fun hne => ?_⟩
    · rw [Track.values, Track.values?_assign_of_eq_nil own hnil, Track.values]
    · obtain ⟨written, hlast, hsome⟩ :=
        own.values?_assign (mt spellingsUnder_eq_nil_iff.1 hne)
      have hvalues : (own.assign request.assignments).values name
          = valuesWritten written request.assignments := by
        rw [Track.values, hsome, Option.getD_some]
      have hkey := (mem_spellingsUnder.1 hlast.1).2
      refine ⟨?_, written, hlast, hvalues⟩
      rw [hvalues, valuesWritten_eq_valuesUnder_iff hkey, spelledAlike_iff hlast.1]

/-- A file with a field that is assigned two values and one that is assigned none. -/
theorem assigned_values_file :
    let files : Files := fun path =>
      if path = "song.json" then
        some "\x7b\"Title\": \"Dawn\", \"genre\": [\"Jazz\"]\x7d".toUTF8
      else none
    let request : EvaluateRequest := {
      source := .text "%genre%"
      track := some "song.json"
      assignments := [("Genre", "Rock"), ("mood", "calm"), ("Genre", "Pop")]
      separator := none
      maxBranches := 64
      distinct := false
      asJson := false }
    ∃ t, request.track? files = some t
      ∧ t.values "GENRE " = ["Rock", "Pop"] ∧ t.values "title" = ["Dawn"] := by
  intro files request
  have htitle : (request.ownTrack? files).map (·.values "title") = some ["Dawn"] := by
    decide +kernel
  have hgenre : valuesUnder (normalizeName "GENRE ") request.assignments = ["Rock", "Pop"] := by
    decide +kernel
  obtain ⟨own, hown, hfile⟩ := Option.map_eq_some_iff.1 htitle
  obtain ⟨t, ht, hvalues⟩ := assigned_values hown
  refine ⟨t, ht, ?_, ?_⟩
  · rw [((hvalues "GENRE ").2 (by decide +kernel)).1.2 (by decide +kernel), hgenre]
  · rw [(hvalues "title").1 (by decide +kernel), hfile]

/-- One of two values is lost: they are assigned to one field, which is written in two ways. -/
theorem assigned_value_lost :
    let assignments := [("Genre", "Rock"), ("genre", "Pop")]
    valuesUnder (normalizeName "genre") assignments = ["Rock", "Pop"]
      ∧ (Track.empty.assign assignments).values "genre" = ["Pop"]
      ∧ run ["eval", "%genre%", "-f", "Genre=Rock", "-f", "genre=Pop"] none (fun _ => none)
        = .success "Pop\n" := by
  refine ⟨?_, ?_, ?_⟩
  · decide +kernel
  · decide +kernel
  · decide +kernel

end CommandLine

end TitleScript
