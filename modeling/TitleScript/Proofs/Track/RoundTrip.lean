import Mathlib.Data.String.Basic
import TitleScript.Proofs.Name
import TitleScript.Proofs.Track
import TitleScript.Track.Document

/-!
# Reading a track back

A track is written down as the table of its fields, and when it is read the names of the table are
put into their normalized form again. That could change a name, or bring two names together and lose
the values of one of them. It does neither, since the names of a track are normalized from the
start: every change puts a field in under its normalized form, which stays as it is when it is
normalized once more.

## Main definitions

* `Track.Change`, `Track.run` — what can be done to a track, and the track after some changes
* `Track.Normalized` — all names of a track are in normalized form

## Main results

* `Track.normalized_run` — the tracks that can be made are normalized
* `Track.Normalized.setTable_fields`, `Track.Normalized.ofEntries_entries` — a normalized track is
  read back as it was
* `ofEntries_entries_run` — every track that can be made is read back as it was
-/

namespace TitleScript

namespace Track

/-! ### Tracks that can be made -/

/-- What can be done to a track. -/
inductive Change
  | set (name value : String)
  | setValues (name : String) (values : List String)
  | push (name value : String)
  | erase (name : String)
  /-- Take the track that a text describes in place of this one. -/
  | load (text : String)

/-- The track after a change. A text that describes no track leaves it as it is. -/
def changed (t : Track) : Change → Track
  | .set name value => t.set name value
  | .setValues name values => t.setValues name values
  | .push name value => t.push name value
  | .erase name => t.erase name
  | .load text => (ofJson? text).getD t

/-- The track after some changes, one after another. -/
def run (t : Track) (changes : List Change) : Track :=
  changes.foldl changed t

/-! ### Normalized names -/

/-- All names of the track are in normalized form. -/
def Normalized (t : Track) : Prop :=
  ∀ key ∈ t.fields, normalizeName key = key

theorem normalized_empty : Normalized .empty :=
  fun _ h => absurd h Std.ExtTreeMap.not_mem_empty

variable {t : Track}

namespace Normalized

theorem setValues (h : t.Normalized) (name : String) (values : List String) :
    (t.setValues name values).Normalized :=
  forall_mem_insert (normalizeName_normalizeName name) h

theorem push (h : t.Normalized) (name value : String) : (t.push name value).Normalized := by
  intro key hkey
  rw [Track.push, Std.ExtTreeMap.mem_alter] at hkey
  split at hkey
  · next heq =>
    rw [← Std.LawfulEqCmp.eq_of_compare heq, normalizeName_normalizeName]
  · exact h key hkey

theorem erase (h : t.Normalized) (name : String) : (t.erase name).Normalized := by
  intro key hkey
  exact h key (Std.ExtTreeMap.mem_of_mem_erase hkey)

theorem setTable (h : t.Normalized) (table : Std.ExtTreeMap String (List String)) :
    (t.setTable table).Normalized := by
  rw [Normalized, fields_setTable]
  exact forall_mem_enter normalizeName_normalizeName h table.toList

/-- **One change keeps the names normalized.** -/
theorem changed (h : t.Normalized) (c : Change) : (t.changed c).Normalized := by
  cases c with
  | set name value => exact h.setValues name [value]
  | setValues name values => exact h.setValues name values
  | push name value => exact h.push name value
  | erase name => exact h.erase name
  | load text =>
    rw [Track.changed]
    cases hread : ofJson? text with
    | none => exact h
    | some read =>
      simp only [ofJson?, Option.bind_eq_bind, Option.bind_eq_some_iff, Option.pure_def] at hread
      obtain ⟨tokens, -, entries, -, hread⟩ := hread
      obtain rfl := Option.some_inj.1 hread
      exact normalized_empty.setTable _

theorem run (h : t.Normalized) (changes : List Change) : (t.run changes).Normalized := by
  induction changes generalizing t with
  | nil => exact h
  | cons c changes ih => exact ih (h.changed c)

/-! ### Reading back -/

/-- **A normalized track is read back from its table of fields as it was.** -/
theorem setTable_fields (h : t.Normalized) : Track.empty.setTable t.fields = t := by
  have hfields : (Track.empty.setTable t.fields).fields = t.fields := by
    rw [fields_setTable]
    exact enter_toList h
  exact congrArg Track.mk hfields

/-- **A normalized track is read back from the list of its fields as it was.** -/
theorem ofEntries_entries (h : t.Normalized) : ofEntries t.entries = t := by
  rw [ofEntries, entries, ofList_toList, h.setTable_fields]

end Normalized

/-- **The tracks that can be made are normalized.** -/
theorem normalized_run (changes : List Change) : (empty.run changes).Normalized :=
  normalized_empty.run changes

theorem pairwise_names (t : Track) : t.names.Pairwise (· < ·) :=
  Std.ExtTreeMap.ordered_keys.imp compare_lt_iff_lt.1

end Track

/-- **Every track that can be made is read back as it was.** Its names are in order and none occurs
twice, and each is normalized, without blanks at its ends and in lower case. The track is read back
from its table of fields and from the list of its fields as the same track, so it has the same for
every name: nothing, one value or several. -/
theorem ofEntries_entries_run (changes : List Track.Change) :
    let t := Track.empty.run changes
    t.names.Pairwise (· < ·)
      ∧ (∀ name ∈ t.names,
        normalizeName name = name ∧ Text.trim name = name ∧ lowerName name = name)
      ∧ Track.empty.setTable t.fields = t
      ∧ Track.ofEntries t.entries = t
      ∧ ∀ name, (Track.ofEntries t.entries).field name = t.field name := by
  intro t
  have hnormalized : t.Normalized := Track.normalized_run changes
  refine ⟨t.pairwise_names, fun name hname => ?_, hnormalized.setTable_fields,
    hnormalized.ofEntries_entries, fun name => by rw [hnormalized.ofEntries_entries]⟩
  have hself : normalizeName name = name := hnormalized name (Std.ExtTreeMap.mem_keys.1 hname)
  refine ⟨hself, ?_, ?_⟩
  · rw [← hself, trim_normalizeName]
  · rw [← hself, lowerName_normalizeName]

/-- A name in several spellings, a letter that becomes two when it is put in lower case, and a field
without a value. -/
theorem ofEntries_entries_run_spellings :
    let t := Track.empty.run
      [.push " Genre" "Rock", .setValues "İD" [], .push "GENRE\t" "Pop", .set "Title" "One"]
    t.entries = [("genre", ["Rock", "Pop"]), ("i\u0307d", []), ("title", ["One"])]
      ∧ normalizeName "i\u0307d" = "i\u0307d"
      ∧ Track.ofEntries t.entries = t := by
  intro t
  obtain ⟨-, hnames, -, hback, -⟩ := ofEntries_entries_run
    [.push " Genre" "Rock", .setValues "İD" [], .push "GENRE\t" "Pop", .set "Title" "One"]
  refine ⟨?_, (hnames "i\u0307d" ?_).1, hback⟩
  · decide +kernel
  · decide +kernel

end TitleScript
