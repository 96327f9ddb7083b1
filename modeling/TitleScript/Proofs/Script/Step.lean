import TitleScript.Proofs.Script.Sequence
import TitleScript.Proofs.Script.Token
import TitleScript.Script

/-!
# What a token can do

Every invariant of the assembly is an argument about one step. The step is taken apart here once:
`Assembly.Effect` lists what a token can do, with the conditions under which it does that, and
`Assembly.effect_step` says that the list is complete. Nothing else needs to look into the
definition of a step.

A token that goes wrong, for whatever reason, always ends the same way: its whole spelling becomes
text, and a fault is recorded.

## Main definitions

* `Place`, `Place.inside`, `Place.admits` — where a sequence stands, and what is plain text there
* `Token.node?` — the node that a token makes on its own
* `Assembly.Effect` — the possible effects of a token

## Main results

* `Assembly.effect_step` — a step has one of these effects
* `Assembly.ofTokens_scan_induction` — what every effect keeps holds of every source
* `Script.faults_parse_perm` — sorting the faults neither adds nor drops one
-/

namespace TitleScript

/-! ### Places -/

/-- Where a sequence stands, which decides what commas and parentheses in it mean. -/
inductive Place
  /-- Outside of all calls and groups. -/
  | top
  /-- Directly in a group. -/
  | group
  /-- Directly in an argument of a call. -/
  | argument
  /-- In an argument, between parentheses that belong to no call. -/
  | parentheses
deriving DecidableEq, Repr

namespace Place

/-- Whether the character stands for itself at the place. -/
def admits : Place → Char → Bool
  | top, c | group, c => !isStructural c
  | argument, c => !isStructural c && !isArgumentMark c
  | parentheses, c => !isStructural c && c != '(' && c != ')'

/-- The place in an argument in which so many parentheses are open. -/
def inArgument : Nat → Place
  | 0 => argument
  | _ + 1 => parentheses

/-- The place of the sequence inside the frames, which are given innermost first. -/
def inside : List Frame → Place
  | [] => top
  | ⟨.group, _, _⟩ :: _ => group
  | ⟨.call _ _ n, _, _⟩ :: _ => inArgument n

theorem inArgument_cases (n : Nat) : inArgument n = argument ∨ inArgument n = parentheses := by
  cases n with
  | zero => exact .inl rfl
  | succ n => exact .inr rfl

theorem isStructural_of_admits {place : Place} {c : Char} (h : place.admits c) :
    isStructural c = false := by
  cases place <;> simp_all [admits]

theorem eq_of_not_admits_argument {c : Char} (h : isStructural c = false)
    (hc : ¬argument.admits c) : c = ',' ∨ c = '(' ∨ c = ')' := by
  simp only [admits, h, isArgumentMark] at hc
  grind

theorem eq_of_not_admits_parentheses {c : Char} (h : isStructural c = false)
    (hc : ¬parentheses.admits c) : c = '(' ∨ c = ')' := by
  simp only [admits, h] at hc
  grind

end Place

/-! ### Tokens that make a node on their own -/

namespace Token

/-- The node made by a token that needs no other, plain characters apart. -/
def node? (position : Nat) : Token → Option Node
  | escaped c => some (.literal position (String.ofList [c]))
  | quoted text => some (.quoted position (String.ofList text))
  | field name => some (.field position (String.ofList name))
  | fieldList name => some (.fieldList position (String.ofList name))
  | _ => none

theorem spelling_ne_nil {t : Token} (h : t.WellFormed) : t.spelling ≠ [] := by
  cases t with
  | quoted text => simp only [spelling]; split <;> simp
  | faulty cause source => exact h.1
  | _ => simp [spelling]

end Token

namespace Assembly

/-! ### Effects -/

open Token

/-- What a token at `position` can make of an assembly. -/
inductive Effect (a : Assembly) (position : Nat) : Token → Assembly → Prop
  | node {t : Token} {node : Node} : t.node? position = some node →
      Effect a position t (a.push node)
  | text {c : Char} : (Place.inside a.frames).admits c →
      Effect a position (plain c) (a.pushText position [c])
  | openParenthesis {name args n start outer frames} :
      a.frames = ⟨.call name args n, start, outer⟩ :: frames →
      Effect a position (plain '(')
        { a.pushText position ['('] with
          frames := ⟨.call name args (n + 1), start, outer⟩ :: frames }
  | closeParenthesis {name args n start outer frames} :
      a.frames = ⟨.call name args (n + 1), start, outer⟩ :: frames →
      Effect a position (plain ')')
        { a.pushText position [')'] with
          frames := ⟨.call name args n, start, outer⟩ :: frames }
  | nextArgument {name args start outer frames} :
      a.frames = ⟨.call name args 0, start, outer⟩ :: frames →
      Effect a position (plain ',')
        { a with
          nodes := []
          frames := ⟨.call name (a.nodes.reverse :: args) 0, start, outer⟩ :: frames }
  | closeCall {name args start outer frames} :
      a.frames = ⟨.call name args 0, start, outer⟩ :: frames →
      Effect a position (plain ')')
        { a with
          nodes := pushNode outer (.call start name (finishArgs (a.nodes.reverse :: args)))
          frames := frames }
  | openCall {name : List Char} : isCallable (String.ofList name) → a.frames.length < maxDepth →
      Effect a position (callStart name)
        { a with
          nodes := []
          frames := ⟨.call (String.ofList name) [] 0, position, a.nodes⟩ :: a.frames }
  | openGroup : a.frames.length < maxDepth →
      Effect a position groupStart
        { a with nodes := [], frames := ⟨.group, position, a.nodes⟩ :: a.frames }
  | closeGroup {start outer frames} : a.frames = ⟨.group, start, outer⟩ :: frames →
      Effect a position groupEnd
        { a with nodes := pushNode outer (.group start a.nodes.reverse), frames := frames }
  | fault {t : Token} {cause : Fault.Cause} : t.WellFormed → cause ≠ .unterminatedCall →
      excerpt cause t.spelling <+: t.spelling →
      Effect a position t (a.fault position cause t.spelling)

variable {a : Assembly} {position : Nat}

/-- A character that stands for itself where the assembly is. -/
theorem step_text {c : Char} (h : (Place.inside a.frames).admits c) :
    a.step (position, plain c) = a.pushText position [c] := by
  obtain ⟨nodes, frames, faults⟩ := a
  match frames with
  | [] | ⟨.group, _, _⟩ :: _ => rfl
  | ⟨.call name args 0, start, outer⟩ :: frames =>
    simp only [step, plainChar, argumentChar]
    split <;> simp_all [Place.inside, Place.inArgument, Place.admits, isArgumentMark]
  | ⟨.call name args (n + 1), start, outer⟩ :: frames =>
    simp only [step, plainChar, argumentChar]
    split <;> simp_all [Place.inside, Place.inArgument, Place.admits]

theorem effect_plain {c : Char} (h : isStructural c = false) :
    Effect a position (plain c) (a.step (position, plain c)) := by
  by_cases hc : (Place.inside a.frames).admits c
  · rw [step_text hc]
    exact .text hc
  · -- only in a call does a character without structure not stand for itself
    obtain ⟨nodes, frames, faults⟩ := a
    match frames with
    | [] | ⟨.group, _, _⟩ :: _ => simp [Place.inside, Place.admits, h] at hc
    | ⟨.call name args 0, start, outer⟩ :: frames =>
      rcases Place.eq_of_not_admits_argument h hc with rfl | rfl | rfl
      · exact .nextArgument rfl
      · exact .openParenthesis rfl
      · exact .closeCall rfl
    | ⟨.call name args (n + 1), start, outer⟩ :: frames =>
      rcases Place.eq_of_not_admits_parentheses h hc with rfl | rfl
      · exact .openParenthesis rfl
      · exact .closeParenthesis rfl

theorem effect_openFrame {t : Token} {opening : Opening} (ht : t.WellFormed)
    (hopen : a.frames.length < maxDepth → Effect a position t
      { a with nodes := [], frames := ⟨opening, position, a.nodes⟩ :: a.frames }) :
    Effect a position t (a.openFrame position opening t.spelling) := by
  rw [openFrame]
  split
  · next h => exact hopen h
  · exact .fault ht (by decide) List.prefix_rfl

theorem effect_closeGroup : Effect a position groupEnd (a.closeGroup position) := by
  rw [Assembly.closeGroup]
  split
  · next h => exact .closeGroup h
  · exact .fault trivial (by decide) List.prefix_rfl

/-- **A step has one of the effects.** -/
theorem effect_step {t : Token} (h : t.WellFormed) :
    Effect a position t (a.step (position, t)) := by
  cases t with
  | plain c => exact effect_plain h
  | escaped c => exact .node rfl
  | quoted text => exact .node rfl
  | field name => exact .node rfl
  | fieldList name => exact .node rfl
  | callStart name => exact effect_openFrame h fun hlt => .openCall h hlt
  | groupStart => exact effect_openFrame h fun hlt => .openGroup hlt
  | groupEnd => exact effect_closeGroup
  | faulty cause source => exact .fault h h.2.1 h.2.2

/-! ### Runs

The position of a token is the number of bytes read before it, so an invariant that relates the
assembly to the source read so far says everything about positions, too. -/

theorem foldl_step_induction {motive : List Char → Assembly → Prop}
    (hstep : ∀ {past a t a'}, motive past a → t.WellFormed →
      Effect a (Text.byteLength past) t a' → motive (past ++ t.spelling) a') {ts : List Token} :
    ∀ {past a}, (∀ t ∈ ts, t.WellFormed) → motive past a →
      motive (past ++ ts.flatMap spelling)
        ((withPositions (Text.byteLength past) ts).foldl step a) := by
  induction ts with
  | nil => simp [withPositions]
  | cons t ts ih =>
    intro past a hts h
    have hnext := hstep h (hts t List.mem_cons_self) (effect_step (hts t List.mem_cons_self))
    have hrest := ih (fun u hu => hts u (List.mem_cons_of_mem _ hu)) hnext
    simpa [withPositions] using hrest

/-- **What holds before any source and is kept by every effect holds of every source.** -/
theorem ofTokens_scan_induction {motive : List Char → Assembly → Prop} (hempty : motive [] empty)
    (hstep : ∀ {past a t a'}, motive past a → t.WellFormed →
      Effect a (Text.byteLength past) t a' → motive (past ++ t.spelling) a') (source : List Char) :
    motive source (ofTokens (scan source)) := by
  have hwf : ∀ t ∈ tokens source, t.WellFormed := fun _ => wellFormed_of_mem_tokens
  have hrun := foldl_step_induction hstep hwf hempty
  rw [flatMap_spelling_tokens] at hrun
  rw [ofTokens, scan_eq]
  exact hrun

end Assembly

namespace Script

theorem nodes_parse (source : String) :
    (parse source).nodes = (Assembly.ofTokens (Token.scan source.toList)).finish.1 := rfl

/-- The script of a source that leaves nothing open and has no fault. -/
theorem parse_of_ofTokens {source : String} {nodes : List Node}
    (h : Assembly.ofTokens (Token.scan source.toList) = ⟨nodes, [], []⟩) :
    (parse source).faults = [] ∧ (parse source).nodes = nodes.reverse := by
  rw [parse, h]
  simp [Assembly.finish, Assembly.unwind]

theorem faults_parse_perm (source : String) :
    (parse source).faults.Perm (Assembly.ofTokens (Token.scan source.toList)).finish.2 :=
  List.mergeSort_perm ..

/-- The script of a source with a single fault. -/
theorem parse_of_finish {source : String} {nodes : List Node} {fault : Fault}
    (h : (Assembly.ofTokens (Token.scan source.toList)).finish = (nodes, [fault])) :
    (parse source).faults = [fault] ∧ (parse source).nodes = nodes := by
  have hperm := faults_parse_perm source
  rw [h] at hperm
  exact ⟨List.perm_singleton.1 hperm, by rw [nodes_parse, h]⟩

end Script

end TitleScript
