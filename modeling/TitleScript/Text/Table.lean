/-!
# Tables drawn with box characters

A table has a line around it and a double line below its head. Every column is as wide as its
widest cell, and three blanks separate the columns.

## Main definitions

* `Text.Table` — a head and rows of cells
* `Text.Table.draw` — the table as text
-/

namespace TitleScript

namespace Text

/-- A head and rows of cells. -/
structure Table where
  head : List String
  rows : List (List String)
deriving DecidableEq, Repr

namespace Table

/-- The width of every column: that of its widest cell. -/
def widths (t : Table) : List Nat :=
  t.rows.foldl (fun widths row => List.zipWith max widths (row.map String.length))
    (t.head.map String.length)

/-- A text with blanks behind it up to a width. -/
def padCell (width : Nat) (cell : String) : String :=
  cell ++ String.ofList (List.replicate (width - cell.length) ' ')

/-- A row between the sides of the table. -/
def drawRow (widths : List Nat) (row : List String) : String :=
  "│ " ++ "   ".intercalate (List.zipWith padCell widths row) ++ " │"

/-- A line across the table between its corners. -/
def drawLine (left line right : Char) (widths : List Nat) : String :=
  String.ofList
    (left :: List.replicate (widths.foldr (· + ·) 0 + 3 * widths.length - 1) line ++ [right])

/-- The table as text, one line for the head, each row and each line across. -/
def draw (t : Table) : String :=
  "\n".intercalate <|
    [drawLine '┌' '─' '┐' t.widths, drawRow t.widths t.head, drawLine '╞' '═' '╡' t.widths]
      ++ t.rows.map (drawRow t.widths) ++ [drawLine '└' '─' '┘' t.widths]

example : draw ⟨["a", "bb"], [["ccc", ""]]⟩ = "┌──────────┐
│ a     bb │
╞══════════╡
│ ccc      │
└──────────┘" := by decide +kernel

end Table

end Text

end TitleScript
