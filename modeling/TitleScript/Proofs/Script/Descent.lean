import TitleScript.Proofs.Partial
import TitleScript.Proofs.Script.Sequence

/-!
# Reading by descent

The tree of a script can be read without a stack of frames. A sequence is read turn by turn until
it comes to its end, and a turn that begins a call or a group reads the sequences inside it in the
same way, one level deeper. Whoever asked for a sequence looks at what is behind it: the bracket or
the parenthesis that closes the construct, the comma before the next argument, or nothing.

Two things could go wrong, and each of them makes reading fail here. A turn could leave the source
as it is, so that it would be repeated for ever, and a closing parenthesis could be counted when
none is open. Neither happens, wherever reading begins: a turn always takes a character, and a
closing parenthesis that has no partner is the end of its sequence. So there are no more turns than
characters, those of all levels taken together. And as no construct is opened on the deepest level,
no sequence is read below it.

## Main definitions

* `Surroundings`, `Surroundings.ends` — what a sequence is part of, and where it ends
* `Progress` — what has been read, and what is left
* `sequence`, `turn` — reading a sequence and one construct of it
* `Progress.Advances` — reading that has gone on

## Main results

* `turn_advances` — a turn takes at least one character
* `sequence_advances` — reading a sequence comes to an end
-/

namespace TitleScript

open Text (byteLength)

namespace Descent

/-! ### Where sequences end -/

/-- What a sequence is a part of. -/
inductive Surroundings
  /-- Nothing: it is the script. -/
  | top
  /-- A group. -/
  | group
  /-- A call, of which it is an argument. -/
  | argument
deriving DecidableEq, Repr

namespace Surroundings

/-- Whether a sequence ends before the source, with so many parentheses open in it. -/
def ends (s : Surroundings) (parentheses : Nat) : List Char → Bool
  | [] => true
  | c :: _ =>
    match s with
    | top => false
    | group => c == ']'
    | argument => (c == ',' || c == ')') && parentheses == 0

/-- Whether a run of text ends before the character. -/
def stops (s : Surroundings) (c : Char) : Bool :=
  isStructural c || s == argument && isArgumentMark c

end Surroundings

/-- How many parentheses are open behind one of the characters with a meaning in arguments. -/
def parenthesesBehind? (c : Char) (parentheses : Nat) : Option Nat :=
  match c with
  | '(' => some (parentheses + 1)
  | ')' => sub? parentheses 1
  | _ => some parentheses

/-! ### Progress -/

/-- How far reading has come. -/
structure Progress where
  /-- The sequence that is being read, last node first. -/
  nodes : List Node
  /-- The faults so far, last one first. -/
  faults : List Fault
  /-- The byte position of what is left. -/
  position : Nat
  /-- The source that is left. -/
  rest : List Char
  /-- How many turns have been taken, in all sequences. -/
  turns : Nat
  /-- The deepest level on which a sequence has been read. -/
  deepest : Nat

namespace Progress

/-- Nothing read yet. -/
def start (source : String) : Progress := ⟨[], [], 0, source.toList, 0, 0⟩

/-- Go on behind source that makes a node. -/
def add (p : Progress) (node : Node) (source rest : List Char) : Progress :=
  { p with
    nodes := pushNode p.nodes node
    position := p.position + byteLength source
    rest := rest }

/-- Go on behind source that stands for itself. -/
def addText (p : Progress) (source rest : List Char) : Progress :=
  p.add (.literal p.position (String.ofList source)) source rest

/-- Go on behind a run of text that is as long as it can be, or behind one character. -/
def run (p : Progress) (s : Surroundings) (c : Char) (cs : List Char) : Progress :=
  match (c :: cs).takeWhile fun d => !s.stops d with
  | [] => p.addText [c] cs
  | text => p.addText text ((c :: cs).dropWhile fun d => !s.stops d)

/-- Go on behind source that stands for itself because something is wrong with it. -/
def fault (p : Progress) (cause : Fault.Cause) (source rest : List Char) : Progress :=
  { p.addText source rest with
    faults := ⟨p.position, String.ofList (Token.excerpt cause source), cause⟩ :: p.faults }

/-- Go on behind source with a sequence of its own. -/
def enter (p : Progress) (source rest : List Char) : Progress :=
  { p with nodes := [], position := p.position + byteLength source, rest := rest }

/-- Go on with the sequence of `outer` behind a construct that begins there and whose last sequence
has been read. If it is closed it is a node, and if not then a fault with `nodes` in its place. -/
def close (p outer : Progress) (closing : Char) (node : Node) (nodes : List Node)
    (fault : Fault) : Progress :=
  match p.rest with
  | [] => { p with nodes := nodes, faults := fault :: p.faults }
  | c :: rest =>
    if c = closing then { p with nodes := outer.nodes }.add node [closing] rest
    else { p with nodes := nodes, faults := fault :: p.faults }

/-- A group without a bracket behind its content leaves its content in the sequence. -/
def closeGroup (p outer : Progress) : Progress :=
  p.close outer ']' (.group outer.position p.nodes.reverse)
    (resume (pushNode outer.nodes (.literal outer.position "[")) p.nodes)
    ⟨outer.position, "[", .unterminatedGroup⟩

/-- A call without a parenthesis behind its arguments keeps them. Those before the last one are
given last one first. -/
def closeCall (p outer : Progress) (name : String) (args : List (List Node)) : Progress :=
  let node := Node.call outer.position name (Assembly.finishArgs (p.nodes.reverse :: args))
  p.close outer ')' node (pushNode outer.nodes node)
    ⟨outer.position, "$" ++ name ++ "(", .unterminatedCall⟩

end Progress

/-! ### Reading -/

mutual

/-- Read a sequence up to its end, which is left to the caller. -/
def sequence (s : Surroundings) (depth parentheses : Nat) (p : Progress) : Option Progress :=
  if s.ends parentheses p.rest then some { p with deepest := max p.deepest depth }
  else
    match turn s depth parentheses p with
    | none => none
    | some (n, q) =>
      -- a turn without effect would be repeated for ever
      if q.rest.length < p.rest.length then
        sequence s depth n { q with turns := q.turns + 1 }
      else none
termination_by (p.rest.length, 2)
decreasing_by
  · exact Prod.Lex.right _ (by omega)
  · exact Prod.Lex.left _ _ ‹_›

/-- Read one construct of a sequence. Parentheses and commas in an argument are text that is
counted. -/
def turn (s : Surroundings) (depth parentheses : Nat) (p : Progress) : Option (Nat × Progress) :=
  match _h : p.rest with
  | [] => none
  | c :: cs =>
    if s = .argument ∧ isArgumentMark c then do
      let n ← parenthesesBehind? c parentheses
      some (n, p.addText [c] cs)
    else do
      let q ← construct s depth p c cs
      some (parentheses, q)
termination_by (p.rest.length, 1)
decreasing_by
  rw [‹p.rest = c :: cs›, List.length_cons]
  exact Prod.Lex.right _ (by omega)

/-- Read the construct that begins with `c`. -/
def construct (s : Surroundings) (depth : Nat) (p : Progress) (c : Char) (cs : List Char) :
    Option Progress :=
  let rest := (Token.read c cs).2
  match (Token.read c cs).1 with
  | .plain _ => some (p.run s c cs)
  | .escaped d => some (p.add (.literal p.position (String.ofList [d])) ['\\', d] rest)
  | .quoted text =>
    some (p.add (.quoted p.position (String.ofList text)) (Token.quoted text).spelling rest)
  | .field name =>
    some (p.add (.field p.position (String.ofList name)) (Token.field name).spelling rest)
  | .fieldList name =>
    some (p.add (.fieldList p.position (String.ofList name)) (Token.fieldList name).spelling rest)
  | .callStart name =>
    if depth < maxDepth then do
      let (args, q) ← arguments (depth + 1) [] (p.enter (Token.callStart name).spelling rest)
      some (q.closeCall p (String.ofList name) args)
    else some (p.fault .tooDeep (Token.callStart name).spelling rest)
  | .groupStart =>
    if depth < maxDepth then do
      let q ← sequence .group (depth + 1) 0 (p.enter ['['] rest)
      some (q.closeGroup p)
    else some (p.fault .tooDeep ['['] rest)
  | .groupEnd => some (p.fault .unexpectedBracket [']'] rest)
  | .faulty cause source => some (p.fault cause source rest)
termination_by (cs.length + 1, 0)
decreasing_by
  all_goals exact Prod.Lex.left _ _ (Token.length_read_lt c cs)

/-- Read the arguments of a call, with those in `args` before them. The last one is left as the
sequence that has been read. -/
def arguments (depth : Nat) (args : List (List Node)) (p : Progress) :
    Option (List (List Node) × Progress) :=
  match sequence .argument depth 0 p with
  | none => none
  | some q =>
    match q.rest with
    | ',' :: rest =>
      if rest.length < p.rest.length then
        arguments depth (q.nodes.reverse :: args) (q.enter [','] rest)
      else none
    | _ => some (args, q)
termination_by (p.rest.length, 3)
decreasing_by
  · exact Prod.Lex.right _ (by omega)
  · exact Prod.Lex.left _ _ ‹_›

end

/-! ### Reading goes on -/

/-- Reading has gone on from `p` to `q`, from the level `depth` on, and at least `spare` of the
characters in between have not been needed for turns. -/
structure Progress.Advances (spare depth : Nat) (p q : Progress) : Prop where
  suffix : q.rest <:+ p.rest
  turns_le : p.turns ≤ q.turns
  budget : q.turns + q.rest.length + spare ≤ p.turns + p.rest.length
  deepest_le : q.deepest ≤ max p.deepest (max depth maxDepth)

namespace Progress.Advances

variable {spare spare' depth : Nat} {p q r : Progress}

theorem refl (p : Progress) : p.Advances 0 depth p :=
  ⟨List.suffix_rfl, Nat.le_refl _, Nat.le_refl _, Nat.le_max_left _ _⟩

theorem trans (h : p.Advances spare depth q) (h' : q.Advances spare' depth r) :
    p.Advances (spare + spare') depth r := by
  refine ⟨h'.suffix.trans h.suffix, h.turns_le.trans h'.turns_le, ?_, ?_⟩
  · have := h.budget
    have := h'.budget
    omega
  · have := h.deepest_le
    have := h'.deepest_le
    omega

theorem forget (h : p.Advances spare depth q) : p.Advances 0 depth q :=
  ⟨h.suffix, h.turns_le, Nat.le_of_add_right_le h.budget, h.deepest_le⟩

theorem length_lt (h : p.Advances 1 depth q) : q.rest.length < p.rest.length := by
  have := h.turns_le
  have := h.budget
  omega

/-- Going on behind source, in whatever way, spares a character. -/
theorem of_append {source : List Char} (depth : Nat) (hne : source ≠ [])
    (hrest : p.rest = source ++ q.rest) (hturns : q.turns = p.turns)
    (hdeepest : q.deepest = p.deepest) : p.Advances 1 depth q := by
  refine ⟨⟨source, hrest.symm⟩, hturns.ge, ?_, ?_⟩
  · have := List.length_pos_iff.2 hne
    rw [hturns, hrest, List.length_append]
    omega
  · rw [hdeepest]
    exact Nat.le_max_left _ _

/-- The character that was spared in a turn pays for it. -/
theorem countTurn (h : p.Advances 1 depth q) :
    p.Advances 0 depth { q with turns := q.turns + 1 } := by
  refine ⟨h.suffix, Nat.le_succ_of_le h.turns_le, ?_, h.deepest_le⟩
  have := h.budget
  simp only
  omega

theorem noteLevel (h : p.Advances spare depth q) :
    p.Advances spare depth { q with deepest := max q.deepest depth } := by
  refine ⟨h.suffix, h.turns_le, h.budget, ?_⟩
  have := h.deepest_le
  simp only
  omega

/-- A construct is opened only above the deepest level. -/
theorem of_succ (h : p.Advances spare (depth + 1) q) (hdepth : depth < maxDepth) :
    p.Advances spare depth q := by
  refine ⟨h.suffix, h.turns_le, h.budget, ?_⟩
  have := h.deepest_le
  omega

theorem run (depth : Nat) {c : Char} {cs : List Char} (hrest : p.rest = c :: cs)
    (s : Surroundings) : p.Advances 1 depth (p.run s c cs) := by
  rw [Progress.run]
  split
  · exact of_append depth (List.cons_ne_nil c []) hrest rfl rfl
  · next hne =>
    refine of_append depth hne ?_ rfl rfl
    exact hrest.trans List.takeWhile_append_dropWhile.symm

/-- Closing a construct takes a character, if it is there. -/
theorem close (depth : Nat) (p outer : Progress) (closing : Char) (node : Node)
    (nodes : List Node) (fault : Fault) :
    p.Advances 0 depth (p.close outer closing node nodes fault) := by
  have hopen : p.Advances 0 depth { p with nodes := nodes, faults := fault :: p.faults } :=
    ⟨List.suffix_rfl, Nat.le_refl _, Nat.le_refl _, Nat.le_max_left _ _⟩
  rw [Progress.close]
  split
  · exact hopen
  · next c rest hrest =>
    split
    · have htaken : p.Advances 1 depth
          ({ p with nodes := outer.nodes }.add node [closing] rest) :=
        of_append depth (List.cons_ne_nil c []) hrest rfl rfl
      exact htaken.forget
    · exact hopen

end Progress.Advances

/-! ### Reading comes to an end -/

theorem Surroundings.exists_cons_of_not_ends {s : Surroundings} {parentheses : Nat}
    {cs : List Char} (h : ¬s.ends parentheses cs) : ∃ d ds, cs = d :: ds := by
  cases cs with
  | nil => exact absurd rfl h
  | cons d ds => exact ⟨d, ds, rfl⟩

theorem turn_cons {p : Progress} {c : Char} {cs : List Char} (hrest : p.rest = c :: cs)
    (s : Surroundings) (depth parentheses : Nat) :
    turn s depth parentheses p
      = if s = .argument ∧ isArgumentMark c then
          (parenthesesBehind? c parentheses).bind fun n => some (n, p.addText [c] cs)
        else (construct s depth p c cs).bind fun q => some (parentheses, q) := by
  rw [turn]
  split
  · next hnil => cases hnil.symm.trans hrest
  · next d ds hcons =>
    obtain ⟨rfl, rfl⟩ := List.cons.inj (hcons.symm.trans hrest)
    rfl

/-- A turn that takes a closing parenthesis leaves one less open than there were. -/
theorem eq_add_one_of_turn {p q : Progress} {cs : List Char} {depth parentheses n : Nat}
    (hrest : p.rest = ')' :: cs) (h : turn .argument depth parentheses p = some (n, q)) :
    parentheses = n + 1 := by
  rw [turn_cons hrest, if_pos ⟨rfl, rfl⟩] at h
  obtain ⟨m, hm, heq⟩ := Option.bind_eq_some_iff.1 h
  obtain ⟨rfl, -⟩ := Prod.mk.inj (Option.some.inj heq)
  exact eq_add_of_sub? hm

/-- A closing parenthesis is counted only if one is open: without any it ends the argument. -/
theorem exists_parenthesesBehind? {parentheses : Nat} {c : Char} {cs : List Char}
    (h : ¬Surroundings.argument.ends parentheses (c :: cs)) :
    ∃ n, parenthesesBehind? c parentheses = some n := by
  fun_cases parenthesesBehind? c parentheses with
  | case1 => exact ⟨_, rfl⟩
  | case2 =>
    have hpos : parentheses ≠ 0 := by
      rintro rfl
      exact h rfl
    exact ⟨_, sub?_eq (Nat.one_le_iff_ne_zero.2 hpos)⟩
  | case3 => exact ⟨_, rfl⟩

mutual

/-- **Reading a sequence comes to its end**, wherever it begins. -/
theorem sequence_advances (s : Surroundings) (depth parentheses : Nat) (p : Progress) :
    ∃ q n, sequence s depth parentheses p = some q ∧ p.Advances 0 depth q ∧ s.ends n q.rest := by
  rw [sequence]
  by_cases hend : s.ends parentheses p.rest
  · rw [if_pos hend]
    exact ⟨_, parentheses, rfl, (Progress.Advances.refl p).noteLevel, hend⟩
  · obtain ⟨n, q, hturn, hq⟩ := turn_advances s depth parentheses p hend
    have hlt := hq.length_lt
    obtain ⟨r, m, hr, hadvances, hrest⟩ :=
      sequence_advances s depth n { q with turns := q.turns + 1 }
    refine ⟨r, m, ?_, hq.countTurn.trans hadvances, hrest⟩
    rw [if_neg hend, hturn]
    exact (if_pos hlt).trans hr
termination_by (p.rest.length, 2)
decreasing_by
  · exact Prod.Lex.right _ (by omega)
  · exact Prod.Lex.left _ _ hlt

/-- **A turn takes at least one character.** -/
theorem turn_advances (s : Surroundings) (depth parentheses : Nat) (p : Progress)
    (hend : ¬s.ends parentheses p.rest) :
    ∃ n q, turn s depth parentheses p = some (n, q) ∧ p.Advances 1 depth q := by
  obtain ⟨c, cs, hrest⟩ := Surroundings.exists_cons_of_not_ends hend
  have hlength : p.rest.length = cs.length + 1 := by rw [hrest, List.length_cons]
  rw [turn_cons hrest]
  split
  · next hmark =>
    rw [hmark.1, hrest] at hend
    obtain ⟨n, hn⟩ := exists_parenthesesBehind? hend
    refine ⟨n, p.addText [c] cs, by rw [hn]; rfl, ?_⟩
    exact .of_append depth (List.cons_ne_nil c []) hrest rfl rfl
  · obtain ⟨q, hq, hadvances⟩ := construct_advances s depth p c cs hrest
    exact ⟨parentheses, q, by rw [hq]; rfl, hadvances⟩
termination_by (p.rest.length, 1)
decreasing_by
  rw [hlength]
  exact Prod.Lex.right _ (by omega)

/-- A construct takes at least one character. -/
theorem construct_advances (s : Surroundings) (depth : Nat) (p : Progress) (c : Char)
    (cs : List Char) (hrest : p.rest = c :: cs) :
    ∃ q, construct s depth p c cs = some q ∧ p.Advances 1 depth q := by
  have hlt := Token.length_read_lt c cs
  have hread {q : Progress} (hq : q.rest = (Token.read c cs).2) (hturns : q.turns = p.turns)
      (hdeepest : q.deepest = p.deepest) : p.Advances 1 depth q := by
    refine .of_append depth (Token.spelling_read_ne_nil c cs) ?_ hturns hdeepest
    rw [hq, Token.spelling_read, hrest]
  rw [construct]
  split
  case h_1 => exact ⟨_, rfl, .run depth hrest s⟩
  case h_2 | h_3 | h_4 | h_5 | h_8 | h_9 => exact ⟨_, rfl, hread rfl rfl rfl⟩
  case h_6 name _ =>
    split
    · next hdepth =>
      have henter : p.Advances 1 depth
          (p.enter (Token.callStart name).spelling (Token.read c cs).2) := hread rfl rfl rfl
      obtain ⟨args, q, hq, hadvances⟩ := arguments_advances (depth + 1) []
        (p.enter (Token.callStart name).spelling (Token.read c cs).2)
      refine ⟨_, by rw [hq]; rfl, ?_⟩
      exact henter.trans ((hadvances.of_succ hdepth).trans (.close depth q p _ _ _ _))
    · exact ⟨_, rfl, hread rfl rfl rfl⟩
  case h_7 =>
    split
    · next hdepth =>
      have henter : p.Advances 1 depth (p.enter ['['] (Token.read c cs).2) := hread rfl rfl rfl
      obtain ⟨q, n, hq, hadvances, -⟩ :=
        sequence_advances .group (depth + 1) 0 (p.enter ['['] (Token.read c cs).2)
      refine ⟨_, by rw [hq]; rfl, ?_⟩
      exact henter.trans ((hadvances.of_succ hdepth).trans (.close depth q p _ _ _ _))
    · exact ⟨_, rfl, hread rfl rfl rfl⟩
termination_by (cs.length + 1, 0)
decreasing_by
  all_goals exact Prod.Lex.left _ _ hlt

/-- Reading arguments comes to the end of the last one. -/
theorem arguments_advances (depth : Nat) (args : List (List Node)) (p : Progress) :
    ∃ args' q, arguments depth args p = some (args', q) ∧ p.Advances 0 depth q := by
  obtain ⟨q, n, hq, hadvances, -⟩ := sequence_advances .argument depth 0 p
  rw [arguments, hq]
  simp only
  split
  · next rest hrest =>
    have hcomma : q.Advances 1 depth (q.enter [','] rest) :=
      .of_append depth (List.cons_ne_nil ',' []) hrest rfl rfl
    have hlt : rest.length < p.rest.length := (hadvances.trans hcomma).length_lt
    obtain ⟨args', r, hr, hmore⟩ :=
      arguments_advances depth (q.nodes.reverse :: args) (q.enter [','] rest)
    refine ⟨args', r, (if_pos hlt).trans hr, ?_⟩
    exact ((hadvances.trans hcomma).trans hmore).forget
  · exact ⟨args, q, rfl, hadvances⟩
termination_by (p.rest.length, 3)
decreasing_by
  · exact Prod.Lex.right _ (by omega)
  · exact Prod.Lex.left _ _ hlt

end

end Descent

end TitleScript
