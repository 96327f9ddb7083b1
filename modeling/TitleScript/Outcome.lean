import TitleScript.Text.Bytes

/-!
# Outcomes of evaluation

Every part of a script evaluates to text and two flags, and groups and conditions look at the
flags: whether every name inside was known, and whether some known field inside had no value.

A sequence concatenates the texts of its parts and lets the flags of each stick. `neutral` is the
outcome of the empty sequence, and with it outcomes form a monoid.

## Main definitions

* `Outcome` — text with its flags
* `Outcome.literal`, `ofField`, `missing`, `unresolved`, `ofBool` — the outcomes that arise
* `Outcome.append`, `Outcome.absorb` — one outcome after another, with or without its text
* `Outcome.truthy` — what counts as true
-/

namespace TitleScript

/-- The outcome of evaluating a part of a script. -/
structure Outcome where
  text : String
  /-- Every name inside was known. -/
  success : Bool
  /-- Some known field inside had no value. -/
  isEmpty : Bool
deriving DecidableEq, Repr

namespace Outcome

/-! ### The outcomes that arise -/

/-- What an empty script evaluates to. -/
def neutral : Outcome := ⟨"", true, false⟩

instance : Inhabited Outcome := ⟨neutral⟩

/-- Text of its own. -/
def literal (text : String) : Outcome := ⟨text, true, false⟩

/-- The value of a field, which is no value when it is the empty text. -/
def ofField (value : String) : Outcome := ⟨value, true, value.isEmpty⟩

/-- A known field without a value. -/
def missing : Outcome := ⟨"", true, true⟩

/-- A name that is not known. -/
def unresolved : Outcome := ⟨"", false, true⟩

/-- The outcome of a test: one, or the empty text. -/
def ofBool (b : Bool) : Outcome := if b then literal "1" else neutral

/-- Whether the outcome counts as true. -/
def truthy (o : Outcome) : Bool :=
  o.success && !o.isEmpty && !o.text.isEmpty

/-! ### Combining outcomes -/

/-- The outcome with the flags of another one as well. -/
def absorb (o p : Outcome) : Outcome :=
  ⟨o.text, o.success && p.success, o.isEmpty || p.isEmpty⟩

/-- One outcome followed by another. -/
def append (o p : Outcome) : Outcome :=
  ⟨o.text ++ p.text, o.success && p.success, o.isEmpty || p.isEmpty⟩

/-- The outcome with its text cut to at most `room` bytes. -/
def truncate (o : Outcome) (room : Nat) : Outcome :=
  { o with text := Text.cut room o.text }

@[simp]
theorem neutral_append (o : Outcome) : neutral.append o = o := by
  simp [append, neutral]

@[simp]
theorem append_neutral (o : Outcome) : o.append neutral = o := by
  simp [append, neutral]

theorem append_assoc (o p q : Outcome) : (o.append p).append q = o.append (p.append q) := by
  simp [append, String.append_assoc, Bool.and_assoc, Bool.or_assoc]

end Outcome

end TitleScript
