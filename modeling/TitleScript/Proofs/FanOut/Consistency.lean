import TitleScript.Proofs.FanOut.Plan
import TitleScript.Proofs.Name
import TitleScript.Proofs.Script.Step
import TitleScript.Proofs.Text.Position

/-!
# One value for each list field

In one branch all uses of a list field have one value, wherever in the script they are. A fan-out
tells the fields of a script apart by their names in lower case, while registries and tracks drop
blanks at the ends of a name as well. So this holds where no two list fields of a script differ in
such blanks alone, and where two do, the values of the field are combined with themselves.

## Main results

* `list_fields_agree` — uses of one list field agree in every branch, and are counted once
* `list_fields_disagree` — a script that uses a field with and without blanks around its name
-/

namespace TitleScript

variable {nodes : List Node} {registry : Registry} {track : Track}

/-- Spellings that do not differ in blanks are bound together. -/
theorem evalFieldList_congr {name other : String} (hcase : lowerName name = lowerName other)
    (ctx : Context) : evalFieldList registry ctx name = evalFieldList registry ctx other := by
  have hnorm : normalizeName name = normalizeName other := by
    rw [← normalizeName_lowerName, hcase, normalizeName_lowerName]
  have hget : ctx.bindings.get? name = ctx.bindings.get? other := by
    rw [Bindings.get?, Bindings.get?, hcase]
  rw [evalFieldList, evalFieldList, registry.resolvesField_congr hnorm, hget]

theorem Node.eval_of_mem_listName? {node : Node} {name : String} (h : name ∈ node.listName?)
    (ctx : Context) : node.eval registry ctx = evalFieldList registry ctx name := by
  cases node with
  | fieldList p written =>
    obtain rfl : written = name := Option.some_inj.1 h
    rfl
  | literal p text | quoted p text | field p written | call p written args | group p content =>
    contradiction

/-- What a list field yields in a branch for a track is one of its values. -/
theorem evalFieldList_of_mem_branches {settings : Settings} {limit : Nat} {bindings : Bindings}
    (h : bindings ∈ (FanOut.plan nodes registry track.field).branches limit) {name : String}
    (hname : name ∈ (Node.preorderOf nodes).filterMap Node.listName?)
    (hresolves : registry.resolvesField name) :
    evalFieldList registry ⟨track.field, bindings, settings⟩ name = .missing
        ∧ track.values name = []
      ∨ ∃ value ∈ track.values name,
        evalFieldList registry ⟨track.field, bindings, settings⟩ name = .ofField value := by
  have hnorm := normalizeName_lowerName name
  have hvalues : (track.field (lowerName name)).toList = track.values name := by
    rw [Track.field, FieldValue.toList_ofList, track.values_congr hnorm]
  rw [← registry.resolvesField_congr hnorm] at hresolves
  obtain ⟨i, hi, hget⟩ := FanOut.get?_of_mem_branches h hname hresolves
  rw [registry.resolvesField_congr hnorm] at hresolves
  rw [hvalues] at hi hget
  rw [evalFieldList, if_pos hresolves, hget]
  by_cases hempty : track.values name = []
  · rw [hempty]
    exact .inl ⟨rfl, rfl⟩
  · have hlength : i < (track.values name).length := by
      have := List.length_pos_iff.2 hempty
      omega
    rw [List.getElem?_eq_getElem hlength]
    exact .inr ⟨_, List.getElem_mem hlength, rfl⟩

namespace FanOut

theorem prod_map_filter (p : String → Bool) (count : String → Nat) (names : List String) :
    ((names.filter p).map count).prod
      = (names.map fun name => if p name then count name else 1).prod := by
  induction names with
  | nil => rfl
  | cons name names ih =>
    rw [List.map_cons, List.prod_cons, ← ih]
    by_cases hp : p name
    · rw [List.filter_cons_of_pos hp, List.map_cons, List.prod_cons, if_pos hp]
    · rw [List.filter_cons_of_neg hp, if_neg hp, Nat.one_mul]

/-- The number of values a script can choose from for a name: those of the track, if the registry
knows the field. -/
def valueCount (registry : Registry) (track : Track) (name : String) : Nat :=
  if registry.resolvesField name then (track.values name).length else 0

theorem valueCount_normalizeName (name : String) :
    valueCount registry track (normalizeName name) = valueCount registry track name := by
  have hnorm := normalizeName_normalizeName name
  rw [valueCount, valueCount, registry.resolvesField_congr hnorm, track.values_congr hnorm]

/-- Every name counts for a plan, one without values once. -/
theorem total_plan_track (nodes : List Node) (registry : Registry) (track : Track) :
    total (plan nodes registry track.field).fields
      = ((fieldNames nodes).map fun name => max 1 (valueCount registry track name)).prod := by
  rw [total_plan, prod_map_filter]
  refine congrArg List.prod (List.map_congr_left fun name _ => ?_)
  rw [valueCount]
  split
  · rw [Track.field, FieldValue.toList_ofList]
  · rfl

/-- Where list fields do not differ in blanks alone, names in lower case are told apart as
normalized names are. -/
theorem eraseDups_map_normalizeName {names : List String}
    (h : ∀ a ∈ names, ∀ b ∈ names, normalizeName a = normalizeName b → lowerName a = lowerName b) :
    (names.map normalizeName).eraseDups = (names.map lowerName).eraseDups.map normalizeName := by
  have hmap : names.map normalizeName = (names.map lowerName).map normalizeName := by
    rw [List.map_map]
    exact List.map_congr_left fun name _ => (normalizeName_lowerName name).symm
  rw [hmap]
  refine eraseDups_map normalizeName _ fun x hx y hy heq => ?_
  obtain ⟨a, ha, rfl⟩ := List.mem_map.1 hx
  obtain ⟨b, hb, rfl⟩ := List.mem_map.1 hy
  rw [normalizeName_lowerName, normalizeName_lowerName] at heq
  exact h a ha b hb heq

end FanOut

/-- **Uses of one list field agree in every branch**, if no two of them differ in blanks at the ends
of the name alone. They all have one of the values of the field, and the combinations are counted
with each field once. -/
theorem list_fields_agree (nodes : List Node) (registry : Registry) (track : Track)
    (settings : Settings)
    (hblanks : ∀ a ∈ (Node.preorderOf nodes).filterMap Node.listName?,
      ∀ b ∈ (Node.preorderOf nodes).filterMap Node.listName?,
        normalizeName a = normalizeName b → lowerName a = lowerName b) :
    (∀ bindings ∈ (FanOut.plan nodes registry track.field).branches settings.maxBranches,
      ∀ node ∈ Node.preorderOf nodes, ∀ a ∈ node.listName?,
        (registry.resolvesField a →
          node.eval registry ⟨track.field, bindings, settings⟩ = .missing ∧ track.values a = []
            ∨ ∃ value ∈ track.values a,
              node.eval registry ⟨track.field, bindings, settings⟩ = .ofField value)
        ∧ ∀ other ∈ Node.preorderOf nodes, ∀ b ∈ other.listName?,
          normalizeName a = normalizeName b →
            node.eval registry ⟨track.field, bindings, settings⟩
              = other.eval registry ⟨track.field, bindings, settings⟩)
      ∧ (FanOut.plan nodes registry track.field).branchCount
        = min (2 ^ 64 - 1)
          ((((Node.preorderOf nodes).filterMap Node.listName?).map normalizeName).eraseDups.map
            fun name => max 1 (FanOut.valueCount registry track name)).prod := by
  refine ⟨?_, ?_⟩
  · intro bindings hbindings node hnode a ha
    have hname := List.mem_filterMap.2 ⟨node, hnode, ha⟩
    rw [Node.eval_of_mem_listName? ha]
    refine ⟨evalFieldList_of_mem_branches hbindings hname, fun other hother b hb heq => ?_⟩
    have hcase : lowerName a = lowerName b :=
      hblanks a hname b (List.mem_filterMap.2 ⟨other, hother, hb⟩) heq
    rw [Node.eval_of_mem_listName? hb, evalFieldList_congr hcase]
  · have hmax : maxBranchCount = 2 ^ 64 - 1 := rfl
    rw [FanOut.branchCount_eq, FanOut.total_plan_track, FanOut.fieldNames_eq, hmax,
      FanOut.eraseDups_map_normalizeName hblanks, List.map_map]
    refine congrArg (fun names => min (2 ^ 64 - 1) (List.prod names)) ?_
    refine List.map_congr_left fun name _ => ?_
    rw [Function.comp_apply, FanOut.valueCount_normalizeName]

/-- A script of two list fields. -/
theorem nodes_parse_pair (name other : String) (hname : isReferenceable name)
    (hother : isReferenceable other) :
    (Script.parse ("%<" ++ name ++ ">%%<" ++ other ++ ">%")).nodes
      = [.fieldList 0 name, .fieldList (name.utf8ByteSize + 4) other] := by
  have hsource : ("%<" ++ name ++ ">%%<" ++ other ++ ">%").toList
      = (Token.fieldList name.toList).spelling
        ++ ((Token.fieldList other.toList).spelling ++ []) := by
    simp [Token.spelling]
  have hlength : Text.byteLength (Token.fieldList name.toList).spelling
      = name.utf8ByteSize + 4 := by
    have hends : Text.byteLength ['%', '<'] = 2 ∧ Text.byteLength ['>', '%'] = 2 := by decide
    have hspelling : (Token.fieldList name.toList).spelling
        = ['%', '<'] ++ name.toList ++ ['>', '%'] := rfl
    rw [hspelling, Text.byteLength_append, Text.byteLength_append, hends.1, hends.2,
      Text.utf8ByteSize_eq]
    omega
  have hscan : Token.scan ("%<" ++ name ++ ">%%<" ++ other ++ ">%").toList
      = [(0, .fieldList name.toList), (name.utf8ByteSize + 4, .fieldList other.toList)] := by
    rw [hsource, Token.scan_eq, Token.tokens_spelling_append (by simpa [Token.WellFormed]) id,
      Token.tokens_spelling_append (by simpa [Token.WellFormed]) id, Token.tokens_nil,
      Token.withPositions, Token.withPositions, Token.withPositions, hlength, Nat.zero_add]
  have hnodes : (Script.parse ("%<" ++ name ++ ">%%<" ++ other ++ ">%")).nodes
      = [.fieldList 0 (String.ofList name.toList),
        .fieldList (name.utf8ByteSize + 4) (String.ofList other.toList)] := by
    rw [Script.nodes_parse, hscan]
    rfl
  rw [hnodes, String.ofList_toList, String.ofList_toList]

/-- A field used in two spellings that differ in case has one value in both branches. -/
theorem list_fields_agree_cases :
    let nodes := (Script.parse "%<a>%%<A>%").nodes
    let track := Track.empty.setValues "a" ["1", "2"]
    let plan := FanOut.plan nodes .standard track.field
    plan.branchCount = 2
      ∧ ∀ bindings ∈ plan.branches 64,
        (Node.fieldList 0 "a").eval .standard ⟨track.field, bindings, {}⟩
          = (Node.fieldList 5 "A").eval .standard ⟨track.field, bindings, {}⟩ := by
  intro nodes track plan
  have hnodes : nodes = [.fieldList 0 "a", .fieldList 5 "A"] :=
    nodes_parse_pair "a" "A" (by decide +kernel) (by decide +kernel)
  have hpreorder : Node.preorderOf nodes = [.fieldList 0 "a", .fieldList 5 "A"] := by
    rw [hnodes]
    rfl
  have hnames : (Node.preorderOf nodes).filterMap Node.listName? = ["a", "A"] := by
    rw [hpreorder]
    rfl
  have hblanks : ∀ a ∈ ["a", "A"], ∀ b ∈ ["a", "A"],
      normalizeName a = normalizeName b → lowerName a = lowerName b := by decide +kernel
  obtain ⟨heval, hcount⟩ := list_fields_agree nodes .standard track {} (hnames ▸ hblanks)
  have hproduct : ((["a", "A"].map normalizeName).eraseDups.map fun name =>
      max 1 (FanOut.valueCount .standard track name)).prod = 2 := by decide +kernel
  rw [hnames, hproduct] at hcount
  refine ⟨hcount, fun bindings hbindings => ?_⟩
  have hsame := (heval bindings hbindings (.fieldList 0 "a") (by simp [hpreorder]) "a" rfl).2
  exact hsame (.fieldList 5 "A") (by simp [hpreorder]) "A" rfl (by decide +kernel)

/-- A field used with and without blanks around its name has two values in some branch, and its
values are combined with themselves. -/
theorem list_fields_disagree :
    let nodes := (Script.parse "%<a>%%< a >%").nodes
    let track := Track.empty.setValues "a" ["1", "2"]
    let plan := FanOut.plan nodes .standard track.field
    nodes = [.fieldList 0 "a", .fieldList 5 " a "]
      ∧ normalizeName "a" = normalizeName " a "
      ∧ (∃ bindings ∈ plan.branches 64,
        (Node.fieldList 0 "a").eval .standard ⟨track.field, bindings, {}⟩
          ≠ (Node.fieldList 5 " a ").eval .standard ⟨track.field, bindings, {}⟩)
      ∧ plan.branchCount = 4
      ∧ (((["a", " a "].map normalizeName).eraseDups).map fun name =>
        max 1 (FanOut.valueCount .standard track name)).prod = 2 := by
  intro nodes track plan
  have hnodes : nodes = [.fieldList 0 "a", .fieldList 5 " a "] :=
    nodes_parse_pair "a" " a " (by decide +kernel) (by decide +kernel)
  have hplan : plan = ⟨[("a", ["1", "2"]), (" a ", ["1", "2"])]⟩ := by
    show FanOut.plan nodes .standard track.field = _
    rw [hnodes]
    decide +kernel
  have hbranch : ⟨[("a", "1"), (" a ", "2")]⟩ ∈ plan.branches 64 := by
    rw [hplan]
    decide +kernel
  have hcount : plan.branchCount = 4 := by
    rw [hplan]
    decide
  exact ⟨hnodes, by decide +kernel, ⟨_, hbranch, by decide +kernel⟩, hcount, by decide +kernel⟩

end TitleScript
