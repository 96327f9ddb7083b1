import TitleScript.Proofs.Script.Descent
import TitleScript.Proofs.Script.Step

/-!
# Descent and frames read the same

A script is assembled from tokens with a stack of frames, and it can be read by descent, where the
calls and groups that are open are those whose sequences are being read. The two agree from any
point of a source on. What the frames make of everything that is left when a sequence begins, they
also make of what is left when it has been read, with what was read in place of the part in between.
So whatever is known of reading by descent holds of scripts.

## Main definitions

* `Enclosure` — what is open around a sequence, with all that was read before it
* `Progress.outcome` — what the frames make of the source that is left

## Main results

* `outcome_sequence`, `outcome_turn` — reading by descent does not change the outcome
* `parse_by_descent` — a script is read by descent, which always advances and comes to an end
-/

namespace TitleScript

open Text (byteLength)
open Token (tokens withPositions)

namespace Descent

/-! ### Enclosures -/

/-- What is open around a sequence. -/
inductive Enclosure
  /-- Nothing. -/
  | top
  /-- A group, where it began, the sequence before it and the frames around it. -/
  | group (start : Nat) (outer : List Node) (frames : List Frame)
  /-- A call, with the arguments so far, last one first, and then the same. -/
  | argument (name : String) (args : List (List Node)) (start : Nat) (outer : List Node)
      (frames : List Frame)

namespace Enclosure

/-- What surrounds the sequence. -/
def surroundings : Enclosure → Surroundings
  | top => .top
  | group _ _ _ => .group
  | argument _ _ _ _ _ => .argument

/-- The frames, innermost first, with so many parentheses open in the sequence. -/
def frames (parentheses : Nat) : Enclosure → List Frame
  | top => []
  | group start outer frames => ⟨.group, start, outer⟩ :: frames
  | argument name args start outer frames => ⟨.call name args parentheses, start, outer⟩ :: frames

/-- The number of groups and calls around the sequence. -/
def depth : Enclosure → Nat
  | top => 0
  | group _ _ frames | argument _ _ _ _ frames => frames.length + 1

@[simp] theorem length_frames (e : Enclosure) (parentheses : Nat) :
    (e.frames parentheses).length = e.depth := by
  cases e <;> rfl

/-- A run of text consists of characters that stand for themselves. -/
theorem admits_of_not_stops {e : Enclosure} {c : Char} (h : ¬e.surroundings.stops c)
    (parentheses : Nat) : (Place.inside (e.frames parentheses)).admits c := by
  cases e with
  | top | group _ _ _ =>
    have hc : isStructural c = false := by simpa [surroundings, Surroundings.stops] using h
    simp [Enclosure.frames, Place.inside, Place.admits, hc]
  | argument name args start outer frames =>
    have hc : isStructural c = false ∧ isArgumentMark c = false := by
      simpa [surroundings, Surroundings.stops] using h
    cases parentheses with
    | zero => simp [Enclosure.frames, Place.inside, Place.inArgument, Place.admits, hc]
    | succ n =>
      obtain ⟨hstructural, hmark⟩ := hc
      simp only [isArgumentMark, Bool.or_eq_false_iff, beq_eq_false_iff_ne] at hmark
      simp [Enclosure.frames, Place.inside, Place.inArgument, Place.admits, hstructural, hmark]

end Enclosure

namespace Surroundings

variable {n : Nat} {cs : List Char}

theorem eq_nil_of_ends_top (h : top.ends n cs) : cs = [] := by
  cases cs with
  | nil => rfl
  | cons c cs => cases h

theorem eq_of_ends_group (h : group.ends n cs) : ∀ c ∈ cs.head?, c = ']' := by
  cases cs with
  | nil => simp
  | cons c cs => simpa [ends] using h

theorem eq_of_ends_argument (h : argument.ends n cs) :
    ∀ c ∈ cs.head?, (c = ',' ∨ c = ')') ∧ n = 0 := by
  cases cs with
  | nil => simp
  | cons c cs => simpa [ends] using h

end Surroundings

/-! ### Outcomes -/

/-- The nodes and the faults that are assembled in the end if what is left is read with the
frames. -/
def Progress.outcome (p : Progress) (frames : List Frame) : List Node × List Fault :=
  ((withPositions p.position (tokens p.rest)).foldl Assembly.step
    ⟨p.nodes, frames, p.faults⟩).finish

section Outcome

variable {p q : Progress} {frames frames' : List Frame}

theorem outcome_of_nil (h : p.rest = []) (frames : List Frame) :
    p.outcome frames = (Assembly.mk p.nodes frames p.faults).finish := by
  rw [Progress.outcome, h, Token.tokens_nil]
  rfl

/-- Going on behind a token that has the same effect on the assembly. -/
theorem outcome_of_step {c : Char} {cs : List Char} {t : Token} (hrest : p.rest = c :: cs)
    (ht : (Token.read c cs).1 = t) (hq : q.rest = (Token.read c cs).2)
    (hposition : q.position = p.position + byteLength t.spelling)
    (hstep : Assembly.step ⟨p.nodes, frames, p.faults⟩ (p.position, t)
      = ⟨q.nodes, frames', q.faults⟩) :
    p.outcome frames = q.outcome frames' := by
  rw [Progress.outcome, Progress.outcome, hrest, Token.tokens_cons, withPositions, ht,
    List.foldl_cons, hstep, hq, hposition]

theorem addText_addText (p : Progress) (text text' rest rest' : List Char) :
    (p.addText text rest).addText text' rest' = p.addText (text ++ text') rest' := by
  simp only [Progress.addText, Progress.add, pushNode_literal_literal, Text.byteLength_append,
    String.ofList_append, Nat.add_assoc]

/-- A run of text makes one node, as its characters do one by one. -/
theorem outcome_addText {text rest : List Char} (hne : text ≠ []) (hrest : p.rest = text ++ rest)
    (hadmits : ∀ c ∈ text, (Place.inside frames).admits c) :
    p.outcome frames = (p.addText text rest).outcome frames := by
  induction text generalizing p with
  | nil => exact absurd rfl hne
  | cons c text ih =>
    obtain ⟨hc, htext⟩ := List.forall_mem_cons.1 hadmits
    have hread := Token.read_of_not_isStructural (Place.isStructural_of_admits hc) (text ++ rest)
    have hfirst : p.outcome frames = (p.addText [c] (text ++ rest)).outcome frames :=
      outcome_of_step hrest (congrArg Prod.fst hread) (congrArg Prod.snd hread).symm rfl
        (Assembly.step_text hc)
    cases text with
    | nil => exact hfirst
    | cons d text =>
      rw [hfirst, ih (List.cons_ne_nil d text) rfl htext, addText_addText, List.singleton_append]

/-- A run of text that begins with a character that does not end it. -/
theorem outcome_run (e : Enclosure) (parentheses : Nat) {c : Char} {cs : List Char}
    (hrest : p.rest = c :: cs) (hc : ¬e.surroundings.stops c) :
    p.outcome (e.frames parentheses)
      = (p.run e.surroundings c cs).outcome (e.frames parentheses) := by
  rw [Progress.run]
  split
  · refine outcome_addText (List.cons_ne_nil c []) hrest (List.forall_mem_singleton.2 ?_)
    exact Enclosure.admits_of_not_stops hc parentheses
  · next hne =>
    refine outcome_addText hne (hrest.trans List.takeWhile_append_dropWhile.symm) ?_
    intro d hd
    exact Enclosure.admits_of_not_stops (by simpa using List.mem_takeWhile_imp hd) parentheses

/-- With no source left the innermost frame is closed as it is. -/
theorem outcome_unwind {frame : Frame} (hp : p.rest = []) (hq : q.rest = [])
    (h : Assembly.unwind p.nodes p.faults (frame :: frames)
      = Assembly.unwind q.nodes q.faults frames) :
    p.outcome (frame :: frames) = q.outcome frames := by
  rw [outcome_of_nil hp, outcome_of_nil hq, Assembly.finish, Assembly.finish, h]

theorem close_of_nil (h : p.rest = []) (outer : Progress) (closing : Char) (node : Node)
    (nodes : List Node) (fault : Fault) :
    p.close outer closing node nodes fault
      = { p with nodes := nodes, faults := fault :: p.faults } := by
  rw [Progress.close, h]

theorem close_of_cons {closing : Char} {rest : List Char} (h : p.rest = closing :: rest)
    (outer : Progress) (node : Node) (nodes : List Node) (fault : Fault) :
    p.close outer closing node nodes fault
      = { p with nodes := outer.nodes }.add node [closing] rest := by
  rw [Progress.close, h]
  exact if_pos rfl

/-- The bracket behind a group closes its frame, and so does the end of the source. -/
theorem outcome_closeGroup (outer : Progress) (h : ∀ c ∈ p.rest.head?, c = ']') :
    p.outcome (⟨.group, outer.position, outer.nodes⟩ :: frames)
      = (p.closeGroup outer).outcome frames := by
  cases hrest : p.rest with
  | nil =>
    rw [Progress.closeGroup, close_of_nil hrest]
    exact outcome_unwind hrest hrest rfl
  | cons c rest =>
    obtain rfl : c = ']' := h c (by rw [hrest]; rfl)
    rw [Progress.closeGroup, close_of_cons hrest]
    exact outcome_of_step hrest rfl rfl rfl rfl

/-- The parenthesis behind a call closes its frame, and so does the end of the source. -/
theorem outcome_closeCall (outer : Progress) (name : String) (args : List (List Node))
    {parentheses : Nat} (h : ∀ c ∈ p.rest.head?, c = ')' ∧ parentheses = 0) :
    p.outcome (⟨.call name args parentheses, outer.position, outer.nodes⟩ :: frames)
      = (p.closeCall outer name args).outcome frames := by
  cases hrest : p.rest with
  | nil =>
    rw [Progress.closeCall, close_of_nil hrest]
    exact outcome_unwind hrest hrest rfl
  | cons c rest =>
    obtain ⟨rfl, rfl⟩ := h c (by rw [hrest]; rfl)
    rw [Progress.closeCall, close_of_cons hrest]
    exact outcome_of_step hrest rfl rfl rfl rfl

end Outcome

/-! ### Reading keeps the outcome -/

theorem eq_of_read_eq {c d : Char} {cs : List Char} {t : Token} {source : List Char}
    (ht : (Token.read c cs).1 = t) (hspelling : t.spelling = d :: source) : c = d := by
  have hread := Token.spelling_read c cs
  rw [ht, hspelling] at hread
  exact (List.cons.inj hread).1.symm

/-- A character that the scanner leaves as it is begins a run of text, if it has no meaning where it
stands. -/
theorem not_stops_of_read_eq {s : Surroundings} {c d : Char} {cs : List Char}
    (ht : (Token.read c cs).1 = .plain d) (hmark : ¬(s = .argument ∧ isArgumentMark c)) :
    ¬s.stops c := by
  obtain rfl := eq_of_read_eq ht rfl
  have hstructural : isStructural c = false := by
    have hwf := Token.wellFormed_read c cs
    rwa [ht] at hwf
  simpa [Surroundings.stops, hstructural] using hmark

/-- Characters with a meaning in arguments only. -/
theorem outcome_mark {name : String} {args : List (List Node)} {start : Nat} {outer : List Node}
    {frames : List Frame} {parentheses n : Nat} {p : Progress} {c : Char} {cs : List Char}
    (hrest : p.rest = c :: cs) (hmark : isArgumentMark c)
    (hend : ¬Surroundings.argument.ends parentheses p.rest)
    (hn : parenthesesBehind? c parentheses = some n) :
    p.outcome (⟨.call name args parentheses, start, outer⟩ :: frames)
      = (p.addText [c] cs).outcome (⟨.call name args n, start, outer⟩ :: frames) := by
  rw [hrest] at hend
  obtain rfl | rfl | rfl : c = ',' ∨ c = '(' ∨ c = ')' := by
    simpa [isArgumentMark, or_assoc] using hmark
  · obtain rfl := Option.some.inj hn
    cases parentheses with
    | zero => exact absurd rfl hend
    | succ n => exact outcome_of_step hrest rfl rfl rfl rfl
  · obtain rfl := Option.some.inj hn
    exact outcome_of_step hrest rfl rfl rfl rfl
  · cases parentheses with
    | zero => exact absurd rfl hend
    | succ m =>
      obtain rfl := Option.some.inj hn
      exact outcome_of_step hrest rfl rfl rfl rfl

mutual

/-- **Reading a sequence keeps the outcome.** -/
theorem outcome_sequence (e : Enclosure) {parentheses : Nat} {p q : Progress}
    (h : sequence e.surroundings e.depth parentheses p = some q) :
    ∃ n, e.surroundings.ends n q.rest
      ∧ p.outcome (e.frames parentheses) = q.outcome (e.frames n) := by
  rw [sequence] at h
  split at h
  · next hend =>
    obtain rfl := Option.some.inj h
    exact ⟨parentheses, hend, rfl⟩
  · next hend =>
    split at h
    · cases h
    · next m r hturn =>
      split at h
      · next hlt =>
        obtain ⟨n, hn, houtcome⟩ := outcome_sequence e h
        exact ⟨n, hn, (outcome_turn e hend hturn).trans houtcome⟩
      · cases h
termination_by (p.rest.length, 2)
decreasing_by
  · exact Prod.Lex.left _ _ (by assumption)
  · exact Prod.Lex.right _ (by omega)

/-- **A turn keeps the outcome.** -/
theorem outcome_turn (e : Enclosure) {parentheses n : Nat} {p q : Progress}
    (hend : ¬e.surroundings.ends parentheses p.rest)
    (h : turn e.surroundings e.depth parentheses p = some (n, q)) :
    p.outcome (e.frames parentheses) = q.outcome (e.frames n) := by
  obtain ⟨c, cs, hrest⟩ := Surroundings.exists_cons_of_not_ends hend
  have hlength : p.rest.length = cs.length + 1 := by rw [hrest, List.length_cons]
  rw [turn_cons hrest] at h
  split at h
  · next hmark =>
    obtain ⟨m, hm, heq⟩ := Option.bind_eq_some_iff.1 h
    obtain ⟨rfl, rfl⟩ := Prod.mk.inj (Option.some.inj heq)
    cases e with
    | top | group _ _ _ => cases hmark.1
    | argument name args start outer frames => exact outcome_mark hrest hmark.2 hend hm
  · next hmark =>
    obtain ⟨r, hr, heq⟩ := Option.bind_eq_some_iff.1 h
    obtain ⟨rfl, rfl⟩ := Prod.mk.inj (Option.some.inj heq)
    rw [hrest] at hend
    exact outcome_construct e hrest hend hmark hr
termination_by (p.rest.length, 1)
decreasing_by
  rw [hlength]
  exact Prod.Lex.right _ (by omega)

/-- A construct keeps the outcome. -/
theorem outcome_construct (e : Enclosure) {parentheses : Nat} {p q : Progress} {c : Char}
    {cs : List Char} (hrest : p.rest = c :: cs)
    (hend : ¬e.surroundings.ends parentheses (c :: cs))
    (hmark : ¬(e.surroundings = .argument ∧ isArgumentMark c))
    (h : construct e.surroundings e.depth p c cs = some q) :
    p.outcome (e.frames parentheses) = q.outcome (e.frames parentheses) := by
  have hlt := Token.length_read_lt c cs
  rw [construct] at h
  split at h
  case h_1 ht =>
    obtain rfl := Option.some.inj h
    exact outcome_run e parentheses hrest (not_stops_of_read_eq ht hmark)
  case h_2 ht | h_3 ht | h_4 ht | h_5 ht | h_9 ht =>
    obtain rfl := Option.some.inj h
    exact outcome_of_step hrest ht rfl rfl rfl
  case h_6 name ht =>
    split at h
    · next hdepth =>
      obtain ⟨⟨args, r⟩, hr, heq⟩ := Option.bind_eq_some_iff.1 h
      obtain rfl := Option.some.inj heq
      rw [← e.length_frames parentheses] at hr hdepth
      obtain ⟨n, hn, houtcome⟩ := outcome_arguments (String.ofList name) p.position p.nodes hr
      calc p.outcome (e.frames parentheses)
          = (p.enter (Token.callStart name).spelling (Token.read c cs).2).outcome
              (⟨.call (String.ofList name) [] 0, p.position, p.nodes⟩ :: e.frames parentheses) :=
            outcome_of_step hrest ht rfl rfl (if_pos hdepth)
        _ = r.outcome
              (⟨.call (String.ofList name) args n, p.position, p.nodes⟩ :: e.frames parentheses) :=
            houtcome
        _ = _ := outcome_closeCall p (String.ofList name) args hn
    · next hdepth =>
      obtain rfl := Option.some.inj h
      rw [← e.length_frames parentheses] at hdepth
      exact outcome_of_step hrest ht rfl rfl (if_neg hdepth)
  case h_7 ht =>
    split at h
    · next hdepth =>
      obtain ⟨r, hr, heq⟩ := Option.bind_eq_some_iff.1 h
      obtain rfl := Option.some.inj heq
      rw [← e.length_frames parentheses] at hr hdepth
      obtain ⟨n, hn, houtcome⟩ :=
        outcome_sequence (.group p.position p.nodes (e.frames parentheses)) hr
      calc p.outcome (e.frames parentheses)
          = (p.enter ['['] (Token.read c cs).2).outcome
              (⟨.group, p.position, p.nodes⟩ :: e.frames parentheses) :=
            outcome_of_step hrest ht rfl rfl (if_pos hdepth)
        _ = r.outcome (⟨.group, p.position, p.nodes⟩ :: e.frames parentheses) := houtcome
        _ = _ := outcome_closeGroup p (Surroundings.eq_of_ends_group hn)
    · next hdepth =>
      obtain rfl := Option.some.inj h
      rw [← e.length_frames parentheses] at hdepth
      exact outcome_of_step hrest ht rfl rfl (if_neg hdepth)
  case h_8 ht =>
    obtain rfl := Option.some.inj h
    obtain rfl := eq_of_read_eq ht rfl
    cases e with
    | top | argument _ _ _ _ _ => exact outcome_of_step hrest rfl rfl rfl rfl
    | group start outer frames => exact absurd rfl hend
termination_by (cs.length + 1, 0)
decreasing_by
  all_goals exact Prod.Lex.left _ _ hlt

/-- Reading arguments keeps the outcome, and leaves a parenthesis or no source. -/
theorem outcome_arguments (name : String) (start : Nat) (outer : List Node)
    {frames : List Frame} {args args' : List (List Node)} {p q : Progress}
    (h : arguments (frames.length + 1) args p = some (args', q)) :
    ∃ n, (∀ c ∈ q.rest.head?, c = ')' ∧ n = 0)
      ∧ p.outcome (⟨.call name args 0, start, outer⟩ :: frames)
        = q.outcome (⟨.call name args' n, start, outer⟩ :: frames) := by
  rw [arguments] at h
  split at h
  · cases h
  · next r hr =>
    obtain ⟨n, hn, houtcome⟩ := outcome_sequence (.argument name args start outer frames) hr
    have hend := Surroundings.eq_of_ends_argument hn
    split at h
    · next rest hrest =>
      split at h
      · next hlt =>
        obtain ⟨m, hm, hmore⟩ := outcome_arguments name start outer h
        obtain ⟨-, rfl⟩ := hend ',' (by rw [hrest]; rfl)
        refine ⟨m, hm, houtcome.trans (Eq.trans ?_ hmore)⟩
        exact outcome_of_step hrest rfl rfl rfl rfl
      · cases h
    · next hcomma =>
      obtain ⟨rfl, rfl⟩ := Prod.mk.inj (Option.some.inj h)
      refine ⟨n, fun c hc => ?_, houtcome⟩
      obtain ⟨rfl | rfl, rfl⟩ := hend c hc
      · obtain ⟨rest, hrest⟩ := List.head?_eq_some_iff.1 hc
        exact absurd hrest (hcomma rest)
      · exact ⟨rfl, rfl⟩
termination_by (p.rest.length, 3)
decreasing_by
  · exact Prod.Lex.right _ (by omega)
  · exact Prod.Lex.left _ _ (by assumption)

end

/-! ### Scripts -/

theorem outcome_start (source : String) :
    (Progress.start source).outcome []
      = (Assembly.ofTokens (Token.scan source.toList)).finish := by
  rw [Token.scan_eq]
  rfl

end Descent

open Descent

/-- **A script is read by descent, which always advances and comes to an end.** Wherever a turn
begins that is not the end of its sequence, it takes at least one character, and if that is a
closing parenthesis in an argument then one was open. Wherever a sequence begins, it is read up to
its end, with as many turns at most as characters, and never further than 64 levels down. For a
whole script this leaves nothing unread, and makes its tree and its faults. -/
theorem parse_by_descent :
    (∀ s depth parentheses p, ¬s.ends parentheses p.rest →
      ∃ n q, turn s depth parentheses p = some (n, q)
        ∧ q.rest <:+ p.rest ∧ q.rest.length < p.rest.length
        ∧ (s = .argument → p.rest.head? = some ')' → parentheses = n + 1))
      ∧ (∀ s depth parentheses p, ∃ q n, sequence s depth parentheses p = some q
        ∧ s.ends n q.rest ∧ q.rest <:+ p.rest
        ∧ q.turns + q.rest.length ≤ p.turns + p.rest.length
        ∧ q.deepest ≤ max p.deepest (max depth 64))
      ∧ ∀ source, ∃ q, sequence .top 0 0 (Progress.start source) = some q
        ∧ q.rest = [] ∧ q.turns ≤ source.length ∧ q.deepest ≤ 64
        ∧ Script.parse source = ⟨source, q.nodes.reverse,
            q.faults.reverse.mergeSort fun a b => a.position ≤ b.position⟩ := by
  refine ⟨?_, ?_, ?_⟩
  · intro s depth parentheses p hend
    obtain ⟨n, q, hq, hadvances⟩ := turn_advances s depth parentheses p hend
    refine ⟨n, q, hq, hadvances.suffix, hadvances.length_lt, ?_⟩
    rintro rfl hfirst
    obtain ⟨cs, hrest⟩ := List.head?_eq_some_iff.1 hfirst
    exact eq_add_one_of_turn hrest hq
  · intro s depth parentheses p
    obtain ⟨q, n, hq, hadvances, hend⟩ := sequence_advances s depth parentheses p
    exact ⟨q, n, hq, hend, hadvances.suffix, hadvances.budget, hadvances.deepest_le⟩
  · intro source
    obtain ⟨q, n, hq, hadvances, hend⟩ := sequence_advances .top 0 0 (Progress.start source)
    have houtcome : (Progress.start source).outcome [] = q.outcome [] := by
      obtain ⟨m, -, houtcome⟩ := outcome_sequence .top hq
      exact houtcome
    have hrest : q.rest = [] := Surroundings.eq_nil_of_ends_top hend
    refine ⟨q, hq, hrest, ?_, ?_, ?_⟩
    · simpa [hrest, Progress.start, String.length_toList] using hadvances.budget
    · simpa [Progress.start, maxDepth] using hadvances.deepest_le
    · rw [Script.parse, ← outcome_start, houtcome, outcome_of_nil hrest]
      rfl

end TitleScript
