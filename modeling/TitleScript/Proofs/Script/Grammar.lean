import Mathlib.Data.List.TakeWhile
import Mathlib.Tactic.Choose
import TitleScript.Proofs.Script.Reading

/-!
# The grammar of scripts

A script is read without a fault exactly if the grammar derives it. The grammar speaks of
characters only and knows neither tokens nor frames. It says how calls and groups nest and how
deep they may, and what commas and parentheses mean where: in a group and at the top they are
text, directly in an argument they must be balanced, and between parentheses that belong to no
call commas are text again.

Soundness follows the assembly. Its frames say which constructs are open, and `Consumed` says that
what has been read is a beginning which the grammar can complete: what is open at the end is
exactly what the grammar still asks for. Completeness goes by induction on the derivation, with
`Reads` for the statement that has to be proved of each part.

## Main definitions

* `IsName`, `Item`, `Derives` — the grammar
* `Consumed` — beginnings that the grammar can complete

## Main results

* `Consumed.of_effect` — a step without a fault keeps such a beginning
* `faults_parse_eq_nil_iff` — a script has no fault exactly if the grammar derives it
-/

namespace TitleScript

open Token

/-! ### The grammar -/

/-- The name of a field. It has no character that carries a meaning, no line feed and no angle
bracket, and it is not blank. -/
def IsName (name : List Char) : Prop :=
  (∀ c ∈ name, isFieldChar c ∧ c ≠ '<' ∧ c ≠ '>') ∧ Text.trimChars name ≠ []

/-- The constructs without parts, plain characters apart. -/
inductive Item : List Char → Prop
  | escaped (c : Char) : Item ['\\', c]
  | quote : Item ['"', '"']
  | quoted {text : List Char} : text ≠ [] → '"' ∉ text → Item ('"' :: text ++ ['"'])
  | field {name : List Char} : IsName name → Item ('%' :: name ++ ['%'])
  | fieldList {name : List Char} : IsName name → Item ('%' :: '<' :: name ++ ['>', '%'])

/-- The sequences that are well formed at a place with `depth` calls and groups around them. A
sequence is empty, or a construct and a sequence. -/
inductive Derives : Place → Nat → List Char → Prop
  | nil {place depth} : Derives place depth []
  | text {place depth c rest} : place.admits c → Derives place depth rest →
      Derives place depth (c :: rest)
  | item {place depth source rest} : Item source → Derives place depth rest →
      Derives place depth (source ++ rest)
  | call {place depth name args rest} : name ≠ [] → (∀ c ∈ name, isNameChar c) →
      depth < maxDepth → (∀ arg ∈ args, Derives .argument (depth + 1) arg) →
      Derives place depth rest →
      Derives place depth ('$' :: name ++ '(' :: [','].intercalate args ++ [')'] ++ rest)
  | group {place depth source rest} : depth < maxDepth → Derives .group (depth + 1) source →
      Derives place depth rest → Derives place depth ('[' :: source ++ [']'] ++ rest)
  | parentheses {place depth source rest} : place = .argument ∨ place = .parentheses →
      Derives .parentheses depth source → Derives place depth rest →
      Derives place depth ('(' :: source ++ [')'] ++ rest)

namespace Derives

variable {place : Place} {depth : Nat}

theorem append {source source' : List Char} (h : Derives place depth source)
    (h' : Derives place depth source') : Derives place depth (source ++ source') := by
  induction h with
  | nil => exact h'
  | text hc _ ih => exact .text hc (ih h')
  | item hi _ ih => rw [List.append_assoc]; exact .item hi (ih h')
  | call hne hname hdepth hargs _ _ ih =>
    rw [List.append_assoc]; exact .call hne hname hdepth hargs (ih h')
  | group hdepth hsource _ _ ih => rw [List.append_assoc]; exact .group hdepth hsource (ih h')
  | parentheses hplace hsource _ _ ih =>
    rw [List.append_assoc]; exact .parentheses hplace hsource (ih h')

theorem of_item {source : List Char} (h : Item source) : Derives place depth source := by
  simpa using Derives.item h .nil

theorem of_call {name : List Char} {args : List (List Char)}
    (hname : isCallable (String.ofList name)) (hdepth : depth < maxDepth)
    (hargs : ∀ arg ∈ args, Derives .argument (depth + 1) arg) :
    Derives place depth ('$' :: name ++ '(' :: [','].intercalate args ++ [')']) := by
  obtain ⟨hne, hchars⟩ := isCallable_ofList_iff.1 hname
  simpa using Derives.call hne hchars hdepth hargs .nil

theorem of_group {source : List Char} (hdepth : depth < maxDepth)
    (h : Derives .group (depth + 1) source) :
    Derives place depth ('[' :: source ++ [']']) := by
  simpa using Derives.group hdepth h .nil

theorem of_parentheses {source : List Char} (hplace : place = .argument ∨ place = .parentheses)
    (h : Derives .parentheses depth source) : Derives place depth ('(' :: source ++ [')']) := by
  simpa using Derives.parentheses hplace h .nil

end Derives

/-! ### Names -/

theorem trimChars_eq_nil_iff {cs : List Char} :
    Text.trimChars cs = [] ↔ ∀ c ∈ cs, Text.isBlank c := by
  have hdrop : cs.dropWhile Text.isBlank = []
      ↔ ∀ c ∈ cs.dropWhile Text.isBlank, Text.isBlank c := by
    refine ⟨fun h => by simp [h], fun h => ?_⟩
    by_contra hne
    have := List.head_dropWhile_not Text.isBlank hne
    simp [h _ (List.head_mem hne)] at this
  rw [Text.trimChars, List.reverse_eq_nil_iff, List.dropWhile_eq_nil_iff]
  simp only [List.mem_reverse]
  rw [← hdrop, List.dropWhile_eq_nil_iff]

/-- The names of the grammar are the names that a script can refer to. -/
theorem isName_iff {name : List Char} : IsName name ↔ isReferenceable (String.ofList name) := by
  rw [isReferenceable_ofList_iff, IsName, Ne, trimChars_eq_nil_iff]
  simp only [isFieldName, Bool.and_eq_true, Bool.not_eq_true', List.contains_eq_mem,
    decide_eq_false_iff_not, List.all_eq_false, not_forall]
  constructor
  · rintro ⟨hchars, c, hc, hblank⟩
    exact ⟨⟨⟨⟨c, hc, hblank⟩, fun h => (hchars _ h).2.1 rfl⟩, fun h => (hchars _ h).2.2 rfl⟩,
      fun c hc => (hchars c hc).1⟩
  · rintro ⟨⟨⟨⟨c, hc, hblank⟩, hlt⟩, hgt⟩, hchars⟩
    exact ⟨fun c hc => ⟨hchars c hc, fun h => hlt (h ▸ hc), fun h => hgt (h ▸ hc)⟩, c, hc, hblank⟩

/-- A token that makes a node on its own is spelled as a construct without parts. -/
theorem item_spelling {t : Token} {position : Nat} {node : Node} (h : t.WellFormed)
    (hnode : t.node? position = some node) : Item t.spelling := by
  cases t with
  | escaped c => exact .escaped c
  | quoted text =>
    rcases h with rfl | ⟨hne, hfree⟩
    · exact .quote
    · rw [spelling_quoted hfree]
      exact .quoted hne hfree
  | field name => exact .field (isName_iff.2 h)
  | fieldList name => exact .fieldList (isName_iff.2 h)
  | _ => simp [node?] at hnode

/-! ### Beginnings that the grammar can complete -/

/-- The source of an argument in which `n` parentheses are open. -/
inductive Inside (depth : Nat) : Nat → List Char → Prop
  | zero {source : List Char} : Derives .argument depth source → Inside depth 0 source
  | succ {n : Nat} {before source : List Char} : Inside depth n before →
      Derives .parentheses depth source → Inside depth (n + 1) (before ++ '(' :: source)

/-- The source read so far when these frames are open. Behind what opened the innermost one
stands a sequence, and around it, frame by frame, what the grammar can complete. -/
inductive Consumed : List Frame → List Char → Prop
  | nil {source : List Char} : Derives .top 0 source → Consumed [] source
  | group {frames start outer} {before source : List Char} : Consumed frames before →
      frames.length < maxDepth → Derives .group (frames.length + 1) source →
      Consumed (⟨.group, start, outer⟩ :: frames) (before ++ '[' :: source)
  | call {frames start outer args n} {name before source : List Char} {done : List (List Char)} :
      Consumed frames before → frames.length < maxDepth → isCallable (String.ofList name) →
      (∀ arg ∈ done, Derives .argument (frames.length + 1) arg) →
      Inside (frames.length + 1) n source →
      Consumed (⟨.call (String.ofList name) args n, start, outer⟩ :: frames)
        (before ++ ('$' :: name ++ '(' :: done.flatMap (· ++ [',']) ++ source))

namespace Inside

variable {depth n : Nat} {source source' : List Char}

theorem append (h : Inside depth n source) (h' : Derives (Place.inArgument n) depth source') :
    Inside depth n (source ++ source') := by
  cases h with
  | zero h => exact .zero (h.append h')
  | succ hbefore h =>
    rw [List.append_assoc]
    exact .succ hbefore (h.append h')

/-- Closing a parenthesis leaves balanced parentheses in the text around them. -/
theorem close (h : Inside depth (n + 1) source) : Inside depth n (source ++ [')']) := by
  cases h with
  | succ hbefore h =>
    rw [List.append_assoc]
    exact hbefore.append (.of_parentheses (Place.inArgument_cases n) h)

end Inside

namespace Consumed

variable {frames : List Frame} {before source : List Char}

theorem of_eq {source' : List Char} (h : Consumed frames source) (heq : source = source') :
    Consumed frames source' := heq ▸ h

/-- A sequence for the place inside the frames can come next. -/
theorem append (h : Consumed frames before)
    (hsource : Derives (Place.inside frames) frames.length source) :
    Consumed frames (before ++ source) := by
  cases h with
  | nil h => exact .nil (h.append hsource)
  | group hbefore hdepth h =>
    rw [List.append_assoc]
    exact .group hbefore hdepth (h.append hsource)
  | call hbefore hdepth hname hdone h =>
    rw [List.append_assoc, List.append_assoc]
    exact .call hbefore hdepth hname hdone (h.append hsource)

/-- **A step that finds no fault keeps a beginning that the grammar can complete.** -/
theorem of_effect {a a' : Assembly} {position : Nat} {t : Token} (h : Consumed a.frames before)
    (ht : t.WellFormed) (heffect : Assembly.Effect a position t a') (hfaults : a'.faults = []) :
    Consumed a'.frames (before ++ t.spelling) := by
  cases heffect with
  | node hnode => exact h.append (.of_item (item_spelling ht hnode))
  | text hc => exact h.append (.text hc .nil)
  | openParenthesis hframes =>
    rw [hframes] at h
    cases h with
    | call hbefore hdepth hname hdone h =>
      exact (call hbefore hdepth hname hdone (h.succ .nil)).of_eq (by simp [spelling])
  | closeParenthesis hframes =>
    rw [hframes] at h
    cases h with
    | call hbefore hdepth hname hdone h =>
      exact (call hbefore hdepth hname hdone h.close).of_eq (by simp [spelling])
  | nextArgument hframes =>
    rw [hframes] at h
    cases h with
    | call hbefore hdepth hname hdone h =>
      obtain ⟨hsource⟩ := h
      have hdone' := List.forall_mem_append.2 ⟨hdone, List.forall_mem_singleton.2 hsource⟩
      exact (call hbefore hdepth hname hdone' (.zero .nil)).of_eq (by simp [spelling])
  | closeCall hframes =>
    rw [hframes] at h
    cases h with
    | call hbefore hdepth hname hdone h =>
      obtain ⟨hsource⟩ := h
      have hargs := List.forall_mem_append.2 ⟨hdone, List.forall_mem_singleton.2 hsource⟩
      refine (hbefore.append (.of_call hname hdepth hargs)).of_eq ?_
      simp [spelling, intercalate_append_singleton]
  | openCall hname hdepth =>
    have hdone : ∀ arg ∈ [], Derives .argument (a.frames.length + 1) arg := by simp
    exact (call h hdepth hname hdone (.zero .nil)).of_eq (by simp [spelling])
  | openGroup hdepth => exact .group h hdepth .nil
  | closeGroup hframes =>
    rw [hframes] at h
    cases h with
    | group hbefore hdepth h =>
      exact (hbefore.append (.of_group hdepth h)).of_eq (by simp [spelling])
  | fault _ _ _ => simp [Assembly.fault, Assembly.report] at hfaults

end Consumed

/-! ### Sources without a fault are derived -/

namespace Assembly

theorem Effect.faults_eq_nil {a a' : Assembly} {position : Nat} {t : Token}
    (h : Effect a position t a') (hfaults : a'.faults = []) : a.faults = [] := by
  cases h with
  | fault _ _ _ => simp [Assembly.fault, Assembly.report] at hfaults
  | _ => exact hfaults

theorem consumed_ofTokens_scan (source : List Char) : (ofTokens (scan source)).faults = [] →
    Consumed (ofTokens (scan source)).frames source :=
  ofTokens_scan_induction (motive := fun past a => a.faults = [] → Consumed a.frames past)
    (fun _ => .nil .nil)
    (fun h ht heffect hfaults => (h (heffect.faults_eq_nil hfaults)).of_effect ht heffect hfaults)
    source

/-- Every frame left open at the end is a fault. -/
theorem length_faults_unwind (nodes : List Node) (faults : List Fault) (frames : List Frame) :
    (unwind nodes faults frames).2.length = faults.length + frames.length := by
  induction frames generalizing nodes faults with
  | nil => rfl
  | cons frame frames ih =>
    obtain ⟨opening, start, outer⟩ := frame
    cases opening <;> simp [unwind, ih] <;> omega

theorem eq_nil_of_finish_eq_nil {a : Assembly} (h : a.finish.2 = []) :
    a.frames = [] ∧ a.faults = [] := by
  have hlength := length_faults_unwind a.nodes a.faults a.frames
  rw [List.reverse_eq_nil_iff.1 h, List.length_nil] at hlength
  exact ⟨List.eq_nil_of_length_eq_zero (by omega), List.eq_nil_of_length_eq_zero (by omega)⟩

end Assembly

/-! ### Derived sources are read without a fault -/

theorem Item.exists_reads {place : Place} {depth : Nat} {source : List Char} (h : Item source) :
    ∃ nodes, Reads place depth source nodes := by
  cases h with
  | escaped c => exact ⟨_, .escaped c⟩
  | quote => exact ⟨_, .quoted (.inl rfl)⟩
  | @quoted text hne hfree =>
    rw [← spelling_quoted hfree]
    exact ⟨_, .quoted (.inr ⟨hne, hfree⟩)⟩
  | field hname => exact ⟨_, .field (isName_iff.1 hname)⟩
  | fieldList hname => exact ⟨_, .fieldList (isName_iff.1 hname)⟩

theorem Derives.exists_reads {place : Place} {depth : Nat} {source : List Char}
    (h : Derives place depth source) : ∃ nodes, Reads place depth source nodes := by
  induction h with
  | nil => exact ⟨[], .nil⟩
  | text hc _ ih =>
    obtain ⟨nodes, h⟩ := ih
    exact ⟨_, (Reads.text hc).append h⟩
  | item hitem _ ih =>
    obtain ⟨nodes, h⟩ := ih
    obtain ⟨nodes', h'⟩ := hitem.exists_reads
    exact ⟨_, h'.append h⟩
  | @call place depth _ _ _ hne hname hdepth _ _ ihargs ih =>
    obtain ⟨nodes, h⟩ := ih
    choose! argNodes hargs using ihargs
    have hcall : Reads place depth _ _ :=
      .call (isCallable_ofList_iff.2 ⟨hne, hname⟩) hdepth hargs
    rw [List.map_id'] at hcall
    exact ⟨_, hcall.append h⟩
  | group hdepth _ _ ihsource ih =>
    obtain ⟨nodes, h⟩ := ih
    obtain ⟨inner, hinner⟩ := ihsource
    exact ⟨_, (Reads.group hdepth hinner).append h⟩
  | parentheses hplace _ _ ihsource ih =>
    obtain ⟨nodes, h⟩ := ih
    obtain ⟨inner, hinner⟩ := ihsource
    exact ⟨_, (Reads.parentheses hplace hinner).append h⟩

/-- **A script is read without a fault exactly if the grammar derives its source.** -/
theorem faults_parse_eq_nil_iff (source : String) :
    (Script.parse source).faults = [] ↔ Derives .top 0 source.toList := by
  constructor
  · intro h
    have hfinish := List.nil_perm.1 (h ▸ Script.faults_parse_perm source)
    obtain ⟨hframes, hfaults⟩ := Assembly.eq_nil_of_finish_eq_nil hfinish
    have hconsumed := Assembly.consumed_ofTokens_scan source.toList hfaults
    rw [hframes] at hconsumed
    obtain ⟨hderives⟩ := hconsumed
    exact hderives
  · intro h
    obtain ⟨nodes, hreads⟩ := h.exists_reads
    exact (Script.parse_of_reads hreads).1

end TitleScript
