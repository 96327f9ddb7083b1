/-!
# Cutting a text into pieces

User-perceived characters and words are both found by one pass from left to right that decides
before each character whether it still belongs to the piece. A `Segmenter` is such a rule: what it
remembers of the piece is its state, and the characters still to come are at hand for the rules
that look ahead.

Whatever the rule, no character is lost and no piece is empty. Those two laws are all that the
text functions built on pieces need.

## Main definitions

* `Segmenter` — the rule
* `Segmenter.pieces` — the pieces of a text

## Main results

* `Segmenter.flatten_pieces` — the pieces put together are the text
* `Segmenter.exists_of_mem_pieces` — what every step keeps holds of every piece
* `Segmenter.ne_nil_of_mem_pieces` — no piece is empty
-/

namespace TitleScript

/-- A rule for cutting a text into pieces, with states in `σ`. -/
structure Segmenter (σ : Type) where
  /-- The state after the first character of a piece. -/
  start : Char → σ
  /-- The state after one more character of the piece, in view of those behind it, or `none` when
  the character begins the next piece. -/
  advance : σ → Char → List Char → Option σ

namespace Segmenter

variable {σ : Type} (seg : Segmenter σ)

/-- The pieces of a text whose first piece has begun. Both the piece and the list of finished
pieces are kept last element first. -/
def piecesFrom : (state : σ) → (piece : List Char) → (done : List (List Char)) → List Char →
    List (List Char)
  | _, piece, done, [] => (piece.reverse :: done).reverse
  | state, piece, done, c :: cs =>
    match seg.advance state c cs with
    | some next => piecesFrom next (c :: piece) done cs
    | none => piecesFrom (seg.start c) [c] (piece.reverse :: done) cs

/-- The pieces of a text, in order. -/
def pieces : List Char → List (List Char)
  | [] => []
  | c :: cs => seg.piecesFrom (seg.start c) [c] [] cs

@[simp]
theorem pieces_nil : seg.pieces [] = [] := rfl

/-! ### The two laws -/

theorem flatten_piecesFrom (state : σ) (piece : List Char) (done : List (List Char))
    (cs : List Char) :
    (seg.piecesFrom state piece done cs).flatten = done.reverse.flatten ++ piece.reverse ++ cs := by
  induction cs generalizing state piece done with
  | nil => simp [piecesFrom]
  | cons c cs ih =>
    rw [piecesFrom]
    cases seg.advance state c cs with
    | some next => simp [ih]
    | none => simp [ih]

/-- The pieces put together are the text. -/
theorem flatten_pieces (cs : List Char) : (seg.pieces cs).flatten = cs := by
  cases cs with
  | nil => rfl
  | cons c cs => simp [pieces, flatten_piecesFrom]

/-! ### Every piece -/

section Pieces

variable {seg} {motive : σ → List Char → Prop} (hstart : ∀ c, motive (seg.start c) [c])
  (hadvance : ∀ {state piece c cs next}, motive state piece →
    seg.advance state c cs = some next → motive next (piece ++ [c]))

include hstart hadvance

theorem exists_of_mem_piecesFrom {state : σ} {piece : List Char} {done : List (List Char)}
    {cs p : List Char} (hpiece : motive state piece.reverse)
    (hdone : ∀ q ∈ done, ∃ state, motive state q) (hp : p ∈ seg.piecesFrom state piece done cs) :
    ∃ state, motive state p := by
  induction cs generalizing state piece done with
  | nil =>
    rw [piecesFrom, List.mem_reverse, List.mem_cons] at hp
    rcases hp with rfl | hp
    · exact ⟨state, hpiece⟩
    · exact hdone p hp
  | cons c cs ih =>
    rw [piecesFrom] at hp
    cases hadv : seg.advance state c cs with
    | some next =>
      rw [hadv] at hp
      refine ih ?_ hdone hp
      rw [List.reverse_cons]
      exact hadvance hpiece hadv
    | none =>
      rw [hadv] at hp
      refine ih (hstart c) ?_ hp
      intro q hq
      rcases List.mem_cons.1 hq with rfl | hq
      · exact ⟨state, hpiece⟩
      · exact hdone q hq

/-- What holds of the first character of a piece and is kept by every step holds of every piece. -/
theorem exists_of_mem_pieces {cs p : List Char} (hp : p ∈ seg.pieces cs) :
    ∃ state, motive state p := by
  cases cs with
  | nil => simp at hp
  | cons c cs => exact exists_of_mem_piecesFrom hstart hadvance (hstart c) (by simp) hp

end Pieces

/-- No piece is empty. -/
theorem ne_nil_of_mem_pieces {cs p : List Char} (hp : p ∈ seg.pieces cs) : p ≠ [] := by
  have hstart (c : Char) : [c] ≠ [] := List.cons_ne_nil c []
  obtain ⟨-, hne⟩ := exists_of_mem_pieces (motive := fun _ piece => piece ≠ []) hstart
    (fun _ _ => List.concat_ne_nil _ _) hp
  exact hne

end Segmenter

end TitleScript
