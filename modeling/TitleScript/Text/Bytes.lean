/-!
# Lengths in bytes

Positions in a script and the limits on generated text are counts of UTF-8 bytes, while everything
that looks at a text does so character by character. A cut at a byte count that falls inside a
character moves back to the character's beginning.

## Main definitions

* `Text.byteLength` — the number of bytes of a list of characters
* `Text.takeBytes` — the longest beginning of a text within a number of bytes
* `Text.cut` — the same for a string
-/

namespace TitleScript

namespace Text

/-- The number of bytes of a list of characters. -/
def byteLength (cs : List Char) : Nat :=
  cs.foldr (fun c n => c.utf8Size + n) 0

@[simp]
theorem byteLength_nil : byteLength [] = 0 := rfl

@[simp]
theorem byteLength_cons (c : Char) (cs : List Char) :
    byteLength (c :: cs) = c.utf8Size + byteLength cs := rfl

@[simp]
theorem byteLength_append (cs ds : List Char) :
    byteLength (cs ++ ds) = byteLength cs + byteLength ds := by
  induction cs with
  | nil => simp
  | cons c cs ih => rw [List.cons_append, byteLength_cons, ih, byteLength_cons, Nat.add_assoc]

/-- Take characters while they fit into `room` bytes; `done` holds those taken, last first. -/
def takeBytesFrom : (room : Nat) → (done cs : List Char) → List Char
  | _, done, [] => done.reverse
  | room, done, c :: cs =>
    if c.utf8Size ≤ room then takeBytesFrom (room - c.utf8Size) (c :: done) cs else done.reverse

/-- The longest beginning of a text that has at most `room` bytes. -/
def takeBytes (room : Nat) (cs : List Char) : List Char :=
  takeBytesFrom room [] cs

theorem takeBytesFrom_eq (room : Nat) (done cs : List Char) :
    takeBytesFrom room done cs = done.reverse ++ takeBytes room cs := by
  suffices h : ∀ kept, takeBytesFrom room (kept ++ done) cs
      = done.reverse ++ takeBytesFrom room kept cs from h []
  intro kept
  induction cs generalizing room kept with
  | nil => simp [takeBytesFrom]
  | cons c cs ih =>
    simp only [takeBytesFrom]
    split
    · exact ih (room - c.utf8Size) (c :: kept)
    · simp

@[simp]
theorem takeBytes_nil (room : Nat) : takeBytes room [] = [] := rfl

theorem takeBytes_cons (room : Nat) (c : Char) (cs : List Char) :
    takeBytes room (c :: cs)
      = if c.utf8Size ≤ room then c :: takeBytes (room - c.utf8Size) cs else [] := by
  rw [takeBytes, takeBytesFrom, takeBytesFrom_eq]
  rfl

theorem byteLength_takeBytes_le (room : Nat) (cs : List Char) :
    byteLength (takeBytes room cs) ≤ room := by
  induction cs generalizing room with
  | nil => simp
  | cons c cs ih =>
    rw [takeBytes_cons]
    split
    · have := ih (room - c.utf8Size)
      rw [byteLength_cons]
      omega
    · simp

/-- A string cut to at most `room` bytes; one that fits is not touched. -/
def cut (room : Nat) (s : String) : String :=
  if s.utf8ByteSize ≤ room then s else String.ofList (takeBytes room s.toList)

-- A cut inside a character moves back to its beginning.
example : cut 4 "a☃b" = "a☃" ∧ cut 3 "a☃b" = "a" ∧ cut 5 "a☃b" = "a☃b" := by decide +kernel

end Text

end TitleScript
