import TitleScript.Proofs.Name.Entries
import TitleScript.Track

/-!
# Tables of a track

A table of fields has their names as written, and a track has them normalized. The names of the
table are taken in their order, so of several spellings of one field the last has the say.

## Main results

* `Track.fields_setTable` — what a table does to a track
* `Track.values?_setTable` — the last spelling of a field counts
-/

namespace TitleScript

namespace Track

theorem fields_setTable (t : Track) (table : Std.ExtTreeMap String (List String)) :
    (t.setTable table).fields = enter t.fields table.toList :=
  (List.foldl_hom Track.fields fun _ _ => rfl).symm

theorem values?_setTable (t : Track) (table : Std.ExtTreeMap String (List String)) (name : String) :
    (t.setTable table).values? name
      = (valuesUnder (normalizeName name) table.toList).getLast?.or (t.values? name) := by
  rw [values?, fields_setTable, getElem?_enter, values?]

end Track

end TitleScript
