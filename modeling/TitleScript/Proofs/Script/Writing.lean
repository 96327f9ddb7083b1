import TitleScript.Proofs.Script.Step

/-!
# Writing a tree

A tree is written as a source by writing its parts in order. The one choice is how to write
literal text, which is therefore a parameter: as it is, or so that it is read back as text.

Written as it is, the tree of a source shows what reading did to the source, and that is nearly
nothing. No text is lost, repeated or moved, whatever is wrong with the source. Only backslashes
are dropped, and only parentheses are added: one for each call that was not closed, all of them at
the end, since such a call reaches to the end.

## Main definitions

* `Node.write`, `Node.writeAll` — writing a node and a sequence
* `Node.raw` — writing a sequence with its literal text as it is
* `Assembly.written` — what a tree under assembly has been read from

## Main results

* `Assembly.written_of_effect` — a step adds the spelling of its token
* `raw_nodes_parse` — the tree of a source without backslashes, written as it is
-/

namespace TitleScript

/-! ### Writing -/

namespace Node

section Write

variable (text : Place → List Char → List Char)

mutual

/-- The source of a node at a place, its literal text written by `text`. -/
def write (place : Place) : Node → List Char
  | literal _ t => text place t.toList
  | quoted _ t => (Token.quoted t.toList).spelling
  | field _ name => '%' :: name.toList ++ ['%']
  | fieldList _ name => '%' :: '<' :: name.toList ++ ['>', '%']
  | call _ name args => '$' :: name.toList ++ '(' :: [','].intercalate (writeEach args) ++ [')']
  | group _ content => '[' :: writeAll .group content ++ [']']

/-- The source of a sequence at a place. -/
def writeAll (place : Place) : List Node → List Char
  | [] => []
  | node :: nodes => write place node ++ writeAll place nodes

/-- The sources of the arguments of a call. -/
def writeEach : List (List Node) → List (List Char)
  | [] => []
  | arg :: args => writeAll .argument arg :: writeEach args

end

theorem writeAll_eq (place : Place) (nodes : List Node) :
    writeAll text place nodes = nodes.flatMap (write text place) := by
  induction nodes with
  | nil => rfl
  | cons node nodes ih => rw [writeAll, ih, List.flatMap_cons]

theorem writeEach_eq (args : List (List Node)) :
    writeEach text args = args.map (writeAll text .argument) := by
  induction args with
  | nil => rfl
  | cons arg args ih => rw [writeEach, ih, List.map_cons]

end Write

/-- The source of a sequence with its literal text as it is. -/
def raw (nodes : List Node) : List Char := writeAll (fun _ t => t) .top nodes

theorem write_verbatim (place place' : Place) :
    write (fun _ t => t) place = write (fun _ t => t) place' := by
  funext node
  cases node <;> simp only [write]

theorem writeAll_verbatim (place : Place) : writeAll (fun _ t => t) place = raw := by
  funext nodes
  rw [raw, writeAll_eq, writeAll_eq, write_verbatim place .top]

@[simp] theorem raw_nil : raw [] = [] := rfl

@[simp] theorem raw_append (nodes more : List Node) :
    raw (nodes ++ more) = raw nodes ++ raw more := by
  simp [raw, writeAll_eq]

theorem raw_cons (node : Node) (nodes : List Node) :
    raw (node :: nodes) = raw [node] ++ raw nodes :=
  raw_append [node] nodes

@[simp] theorem raw_literal (position : Nat) (t : String) :
    raw [literal position t] = t.toList := by
  simp [raw, writeAll, write]

theorem raw_group (position : Nat) (content : List Node) :
    raw [group position content] = '[' :: raw content ++ [']'] := by
  rw [raw, writeAll, write, writeAll_verbatim, writeAll, List.append_nil]

theorem raw_call (position : Nat) (name : String) (args : List (List Node)) :
    raw [call position name args]
      = '$' :: name.toList ++ '(' :: [','].intercalate (args.map raw) ++ [')'] := by
  rw [raw, writeAll, write, writeEach_eq, writeAll_verbatim, writeAll, List.append_nil]

/-- Merging literal text changes nothing about what is written. -/
theorem raw_reverse_pushNode (nodes : List Node) (node : Node) :
    raw (pushNode nodes node).reverse = raw nodes.reverse ++ raw [node] := by
  obtain ⟨position, text, rest, position', more, rfl, rfl, heq⟩ | ⟨-, heq⟩ :=
    pushNode_cases nodes node
  · simp [heq]
  · simp [heq]

theorem raw_reverse_foldl_pushNode (nodes more : List Node) :
    raw (more.foldl pushNode nodes).reverse = raw nodes.reverse ++ raw more := by
  induction more generalizing nodes with
  | nil => simp
  | cons node more ih =>
    rw [List.foldl_cons, ih, raw_reverse_pushNode, List.append_assoc, ← raw_cons]

end Node

/-! ### What has been read -/

/-- A token that makes a node on its own is written as it was spelled, unless it is escaped. -/
theorem Token.raw_of_node? {t : Token} {position : Nat} {node : Node}
    (hnode : t.node? position = some node) (hbackslash : '\\' ∉ t.spelling) :
    Node.raw [node] = t.spelling := by
  cases t with
  | escaped c => simp [spelling] at hbackslash
  | quoted text | field name | fieldList name =>
    obtain rfl := Option.some.inj hnode
    simp [Node.raw, Node.writeAll, Node.write, spelling]
  | _ => simp [node?] at hnode

namespace Assembly

/-- The source in front of the sequence inside the frames, which are given innermost first. -/
def sourceBefore : List Frame → List Char
  | [] => []
  | ⟨.group, _, outer⟩ :: frames => sourceBefore frames ++ Node.raw outer.reverse ++ ['[']
  | ⟨.call name args _, _, outer⟩ :: frames =>
    sourceBefore frames ++ Node.raw outer.reverse
      ++ ('$' :: name.toList ++ '(' :: args.reverse.flatMap fun arg => Node.raw arg ++ [','])

/-- The source that has been read. -/
def written (a : Assembly) : List Char := sourceBefore a.frames ++ Node.raw a.nodes.reverse

theorem written_push (a : Assembly) (node : Node) :
    (a.push node).written = a.written ++ Node.raw [node] := by
  rw [written, push, Node.raw_reverse_pushNode, ← List.append_assoc, written]

theorem written_pushText (a : Assembly) (position : Nat) (text : List Char) :
    (a.pushText position text).written = a.written ++ text := by
  rw [pushText, written_push, Node.raw_literal, String.toList_ofList]

theorem raw_finishArgs (start : Nat) (name : String) (arg : List Node) (args : List (List Node)) :
    Node.raw [.call start name (finishArgs (arg :: args))]
      = '$' :: name.toList ++ '(' :: args.reverse.flatMap (fun arg => Node.raw arg ++ [','])
        ++ Node.raw arg ++ [')'] := by
  rw [Node.raw_call, intercalate_map_finishArgs Node.raw_nil]
  simp

/-- **A step adds the spelling of its token**, except for a backslash. -/
theorem written_of_effect {a a' : Assembly} {position : Nat} {t : Token}
    (heffect : Effect a position t a') (hbackslash : '\\' ∉ t.spelling) :
    a'.written = a.written ++ t.spelling := by
  cases heffect with
  | node hnode => rw [written_push, Token.raw_of_node? hnode hbackslash]
  | text hc => exact written_pushText ..
  | openParenthesis heq | closeParenthesis heq =>
    rw [Token.spelling, ← written_pushText a position]
    simp [written, pushText, push, heq, sourceBefore]
  | nextArgument heq => simp [written, heq, sourceBefore, Token.spelling]
  | closeCall heq =>
    simp [written, heq, sourceBefore, Token.spelling, Node.raw_reverse_pushNode, raw_finishArgs]
  | openCall hname hlt => simp [written, sourceBefore, Token.spelling]
  | openGroup hlt => simp [written, sourceBefore, Token.spelling]
  | closeGroup heq =>
    simp [written, heq, sourceBefore, Token.spelling, Node.raw_reverse_pushNode, Node.raw_group]
  | fault _ _ _ => exact written_pushText a position t.spelling

/-- The number of calls that were reported not to be closed. -/
def unclosedCalls (faults : List Fault) : Nat :=
  faults.countP (·.cause = .unterminatedCall)

theorem unclosedCalls_of_effect {a a' : Assembly} {position : Nat} {t : Token}
    (heffect : Effect a position t a') : unclosedCalls a'.faults = unclosedCalls a.faults := by
  cases heffect with
  | fault _ hcause _ => simp [unclosedCalls, fault, report, pushText, push, hcause]
  | _ => rfl

/-- What has been read of a source without backslashes is what was written down, and no call has
been given up as long as there may be more to read. -/
theorem written_ofTokens_scan {source : List Char} (h : '\\' ∉ source) :
    (ofTokens (Token.scan source)).written = source
      ∧ unclosedCalls (ofTokens (Token.scan source)).faults = 0 := by
  refine ofTokens_scan_induction (motive := fun past a =>
    '\\' ∉ past → a.written = past ∧ unclosedCalls a.faults = 0) (fun _ => ⟨rfl, rfl⟩) ?_ source h
  intro past a t a' ih _ heffect hbackslash
  rw [List.mem_append, not_or] at hbackslash
  obtain ⟨hwritten, hcalls⟩ := ih hbackslash.1
  exact ⟨by rw [written_of_effect heffect hbackslash.2, hwritten],
    by rw [unclosedCalls_of_effect heffect, hcalls]⟩

/-- At the end every open call adds a parenthesis and a fault, and open groups add neither. -/
theorem raw_unwind (nodes : List Node) (faults : List Fault) (frames : List Frame) :
    ∃ k, unclosedCalls (unwind nodes faults frames).2 = unclosedCalls faults + k
      ∧ Node.raw (unwind nodes faults frames).1.reverse
        = sourceBefore frames ++ Node.raw nodes.reverse ++ List.replicate k ')' := by
  induction frames generalizing nodes faults with
  | nil => exact ⟨0, by simp [unwind, sourceBefore]⟩
  | cons frame frames ih =>
    obtain ⟨opening, start, outer⟩ := frame
    cases opening with
    | group =>
      obtain ⟨k, hcalls, hraw⟩ := ih (nodes.reverse.foldl pushNode
        (pushNode outer (.literal start "["))) (⟨start, "[", .unterminatedGroup⟩ :: faults)
      refine ⟨k, by rw [unwind, hcalls]; rfl, ?_⟩
      rw [unwind, hraw, Node.raw_reverse_foldl_pushNode, Node.raw_reverse_pushNode,
        Node.raw_literal]
      simp [sourceBefore]
    | call name args n =>
      obtain ⟨k, hcalls, hraw⟩ := ih
        (pushNode outer (.call start name (finishArgs (nodes.reverse :: args))))
        (⟨start, "$" ++ name ++ "(", .unterminatedCall⟩ :: faults)
      refine ⟨k + 1, ?_, ?_⟩
      · rw [unwind, hcalls]
        simp [unclosedCalls]
        omega
      · rw [unwind, hraw, Node.raw_reverse_pushNode, raw_finishArgs]
        simp [sourceBefore, List.replicate_succ]

end Assembly

/-- **Reading loses, repeats and moves no text.** The tree of a source without backslashes,
written with its literal text as it is, is the source and a parenthesis for each call that was not
closed. -/
theorem raw_nodes_parse (source : String) (h : '\\' ∉ source.toList) :
    Node.raw (Script.parse source).nodes = source.toList
      ++ List.replicate (Assembly.unclosedCalls (Script.parse source).faults) ')' := by
  obtain ⟨hwritten, hcalls⟩ := Assembly.written_ofTokens_scan h
  generalize hfinal : Assembly.ofTokens (Token.scan source.toList) = a at hwritten hcalls
  obtain ⟨k, hunclosed, hraw⟩ := Assembly.raw_unwind a.nodes a.faults a.frames
  have hk : Assembly.unclosedCalls (Script.parse source).faults = k := by
    rw [Assembly.unclosedCalls, (Script.faults_parse_perm source).countP_eq, hfinal,
      Assembly.finish, List.countP_reverse, ← Assembly.unclosedCalls, hunclosed, hcalls,
      Nat.zero_add]
  rw [Script.nodes_parse, hfinal, Assembly.finish, hraw, hk, ← hwritten, Assembly.written]

/-- A field, a group and two calls that are not closed. -/
theorem raw_nodes_parse_unclosed :
    '\\' ∉ "$f([%x,)$g(".toList
      ∧ Node.raw (Script.parse "$f([%x,)$g(").nodes = "$f([%x,)$g())".toList := by
  have h : '\\' ∉ "$f([%x,)$g(".toList := by decide
  have hf : isNameChar 'f' = true := by decide +kernel
  have hg : isNameChar 'g' = true := by decide +kernel
  have hopen : isNameChar '(' = false := by decide +kernel
  have hx : isFieldChar 'x' = true := by decide
  have hcomma : isFieldChar ',' = false := by decide
  have hscan : Token.scan "$f([%x,)$g(".toList
      = [(0, .callStart ['f']), (3, .groupStart), (4, .faulty .unterminatedField ['%', 'x']),
        (6, .plain ','), (7, .plain ')'), (8, .callStart ['g'])] := by
    simp [Token.scan_eq, Token.tokens_cons, Token.read, Token.readCallStart, Token.readField,
      hf, hg, hopen, hx, hcomma, Token.withPositions, Token.spelling]
    decide
  have hcalls : Assembly.unclosedCalls (Script.parse "$f([%x,)$g(").faults = 2 := by
    rw [Assembly.unclosedCalls, (Script.faults_parse_perm _).countP_eq, hscan]
    decide
  rw [raw_nodes_parse _ h, hcalls]
  exact ⟨h, rfl⟩

end TitleScript
