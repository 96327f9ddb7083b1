import Std.Data.ExtTreeMap
import TitleScript.Name
import TitleScript.Record

/-!
# Tracks

A track holds a list of values for each of its fields, under the normalized name of the field. It
is a record that takes every spelling of a name for the same field.

A field whose values were all taken away is still a field of the track, though as a record the
track has nothing for it.

## Main definitions

* `Track` — a track
* `Track.set`, `Track.setValues`, `Track.push`, `Track.erase` — changing a field
* `Track.values`, `Track.field`, `Track.names`, `Track.entries` — reading the track
* `Track.ofEntries` — the track of a list of fields
* `Track.assign` — a track with some fields given other values
-/

namespace TitleScript

/-- A track: the values of each field by its normalized name. -/
structure Track where
  fields : Std.ExtTreeMap String (List String)

namespace Track

/-- The track without fields. -/
def empty : Track := ⟨∅⟩

instance : Inhabited Track := ⟨empty⟩

/-! ### Changing a field -/

/-- Give a field a list of values. -/
def setValues (t : Track) (name : String) (values : List String) : Track :=
  ⟨t.fields.insert (normalizeName name) values⟩

/-- Give a field one value. -/
def set (t : Track) (name value : String) : Track :=
  t.setValues name [value]

/-- Add a value to those of a field. -/
def push (t : Track) (name value : String) : Track :=
  ⟨t.fields.alter (normalizeName name) fun values => some (values.getD [] ++ [value])⟩

/-- Remove a field. -/
def erase (t : Track) (name : String) : Track :=
  ⟨t.fields.erase (normalizeName name)⟩

/-! ### Reading -/

/-- The values of a field that the track holds. -/
def values? (t : Track) (name : String) : Option (List String) :=
  t.fields[normalizeName name]?

/-- The values of a field, none if the track does not hold it. -/
def values (t : Track) (name : String) : List String :=
  (t.values? name).getD []

/-- The track as a record. -/
def field (t : Track) : Record := fun name =>
  .ofList (t.values name)

/-- The names of the fields, in order. -/
def names (t : Track) : List String :=
  t.fields.keys

/-- The fields with their values, in the order of the names. -/
def entries (t : Track) : List (String × List String) :=
  t.fields.toList

/-- Whether the track holds no field. -/
def isEmpty (t : Track) : Bool :=
  t.fields.isEmpty

/-! ### Tables of fields -/

/-- Set the fields of a table from names as written to values. The names are taken in order, and
of several spellings of one field the last one counts. -/
def setTable (t : Track) (table : Std.ExtTreeMap String (List String)) : Track :=
  table.toList.foldl (fun t entry => t.setValues entry.1 entry.2) t

/-- The track of a list of fields, of which the last with a given spelling counts. -/
def ofEntries (entries : List (String × List String)) : Track :=
  empty.setTable (.ofList entries)

/-- The values that assignments give to every name as written, in the order given. -/
def collectAssignments (assignments : List (String × String)) :
    Std.ExtTreeMap String (List String) :=
  assignments.foldl (fun table (name, value) =>
    table.alter name fun values => some (values.getD [] ++ [value])) ∅

/-- The track with the values of assignments instead of those it had for their fields. -/
def assign (t : Track) (assignments : List (String × String)) : Track :=
  t.setTable (collectAssignments assignments)

@[simp]
theorem values?_setValues (t : Track) (name other : String) (vs : List String) :
    (t.setValues name vs).values? other
      = if normalizeName name = normalizeName other then some vs else t.values? other := by
  simp [setValues, values?, Std.ExtTreeMap.getElem?_insert]

end Track

end TitleScript
