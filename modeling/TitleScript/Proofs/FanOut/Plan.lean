import TitleScript.Proofs.Distinct
import TitleScript.Proofs.FanOut.Enumeration
import TitleScript.Proofs.Registry

/-!
# The branches of a script

A fan-out is planned from the script, the registry and the record: each known list field of the
script once, by its name in lower case, in the order of the first uses. The branches go through the
product of the choices for these fields, in lexicographic order, as far as the limit allows.

A smaller limit keeps a beginning of the branches. Their outcomes may differ all the same, since a
function supplied by the host finds the limit among the settings. Where no function looks at it, as
in a registry of built-in functions, a beginning of the outcomes is kept too.

## Main results

* `FanOut.map_fst_plan`, `FanOut.nodup_plan` — the fields of a plan
* `FanOut.get?_of_mem_branches` — the value of a list field in a branch
* `evaluate_prefix_iff`, `evaluate_prefix` — when a smaller limit keeps a beginning of the outcomes
* `branches_plan` — the branches of a script, and how many outcomes it has
* `limit_shown_in_outcomes` — a smaller limit need not keep a beginning of the outcomes
-/

namespace TitleScript

variable {nodes : List Node} {registry : Registry} {record : Record}

namespace FanOut

theorem fieldNames_eq (nodes : List Node) :
    fieldNames nodes
      = (((Node.preorderOf nodes).filterMap Node.listName?).map lowerName).eraseDups := by
  rw [fieldNames, Node.listFieldsOf_eq]

theorem nodup_fieldNames (nodes : List Node) : (fieldNames nodes).Nodup :=
  nodup_eraseDups _

theorem map_fst_plan (nodes : List Node) (registry : Registry) (record : Record) :
    (plan nodes registry record).fields.map (·.1)
      = (fieldNames nodes).filter registry.resolvesField := by
  rw [plan, List.map_map]
  exact List.map_id _

/-- No field is planned twice. -/
theorem nodup_plan (nodes : List Node) (registry : Registry) (record : Record) :
    ((plan nodes registry record).fields.map (·.1)).Nodup := by
  rw [map_fst_plan]
  exact (nodup_fieldNames nodes).filter _

/-- A plan has as many combinations as its fields have choices. -/
theorem total_plan (nodes : List Node) (registry : Registry) (record : Record) :
    total (plan nodes registry record).fields
      = (((fieldNames nodes).filter registry.resolvesField).map fun name =>
          max 1 (record name).toList.length).prod := by
  rw [total, plan, List.map_map]
  rfl

theorem map_fst_filter_plan (nodes : List Node) (registry : Registry) (record : Record) :
    ((plan nodes registry record).fields.filter (·.2 ≠ [])).map (·.1)
      = ((fieldNames nodes).filter registry.resolvesField).filter
          fun name => (record name).toList ≠ [] := by
  rw [plan, List.filter_map, List.map_map]
  exact List.map_id _

/-- In a branch a known list field of the script has one of its values, if it has values. -/
theorem get?_of_mem_branches {limit : Nat} {bindings : Bindings}
    (h : bindings ∈ (plan nodes registry record).branches limit) {name : String}
    (hname : name ∈ (Node.preorderOf nodes).filterMap Node.listName?)
    (hresolves : registry.resolvesField (lowerName name)) :
    ∃ i < max 1 (record (lowerName name)).toList.length,
      bindings.get? name = (record (lowerName name)).toList[i]? := by
  rw [branches_eq] at h
  obtain ⟨indices, hindices, rfl⟩ := List.mem_map.1 h
  have hcombination := List.mem_of_mem_take hindices
  have hplanned : lowerName name ∈ fieldNames nodes := by
    rw [fieldNames_eq, List.mem_eraseDups]
    exact List.mem_map_of_mem hname
  have hfield : (lowerName name, (record (lowerName name)).toList)
      ∈ (plan nodes registry record).fields :=
    List.mem_map.2 ⟨lowerName name, List.mem_filter.2 ⟨hplanned, hresolves⟩, rfl⟩
  obtain ⟨i, hi, hmem⟩ := exists_mem_zip hcombination hfield
  exact ⟨i, hi, lookup_entries_bind (nodup_plan nodes registry record) _ hmem⟩

end FanOut

theorem length_evaluate (settings : Settings) :
    (evaluate nodes registry record settings).length
      = min (FanOut.plan nodes registry record).branchCount (max 1 settings.maxBranches) := by
  rw [evaluate, List.length_map, FanOut.length_branches]

/-- There is always a branch. -/
theorem length_evaluate_pos (settings : Settings) :
    0 < (evaluate nodes registry record settings).length := by
  rw [length_evaluate]
  exact Nat.lt_min.2 ⟨FanOut.branchCount_pos _, Nat.le_max_left 1 _⟩

/-- A smaller limit keeps a beginning of the outcomes if and only if the branches it keeps have the
same outcome under both limits. -/
theorem evaluate_prefix_iff (settings : Settings) {limit larger : Nat} (hle : limit ≤ larger) :
    evaluate nodes registry record { settings with maxBranches := limit }
        <+: evaluate nodes registry record { settings with maxBranches := larger }
      ↔ ∀ bindings ∈ (FanOut.plan nodes registry record).branches limit,
        Node.evalSequence registry
            ⟨record, bindings, { settings with maxBranches := limit }⟩ nodes
          = Node.evalSequence registry
            ⟨record, bindings, { settings with maxBranches := larger }⟩ nodes := by
  obtain ⟨rest, hrest⟩ := FanOut.branches_prefix (FanOut.plan nodes registry record) hle
  rw [evaluate, evaluate, ← hrest, List.map_append]
  constructor
  · intro h
    -- both maps of the branches kept begin the outcomes under the larger limit
    have hbegins := List.prefix_of_prefix_length_le h (List.prefix_append ..) (by simp)
    exact List.map_inj_left.1 (hbegins.eq_of_length (by simp))
  · intro h
    rw [List.map_congr_left h]
    exact List.prefix_append ..

/-- Where no function looks at the limit, a smaller limit keeps a beginning of the outcomes. -/
theorem evaluate_prefix
    (h : ∀ (name : String) (f : Function), registry.function? name = some f → f.IgnoresLimit)
    (settings : Settings) {limit larger : Nat} (hle : limit ≤ larger) :
    evaluate nodes registry record { settings with maxBranches := limit }
      <+: evaluate nodes registry record { settings with maxBranches := larger } := by
  refine (evaluate_prefix_iff settings hle).2 fun bindings _ => ?_
  have heval := Node.evalSequence_limit h ⟨record, bindings, settings⟩
  exact (heval limit nodes).trans (heval larger nodes).symm

/-- **The branches of a script go through the product of the choices for its list fields.** Each
branch has one outcome. A smaller limit keeps a beginning of the branches, and a beginning of the
outcomes as long as these do not show the limit. -/
theorem branches_plan (nodes : List Node) (registry : Registry) (record : Record)
    (settings : Settings) :
    let names := (((Node.preorderOf nodes).filterMap Node.listName?).map lowerName).eraseDups.filter
      registry.resolvesField
    let plan := FanOut.plan nodes registry record
    let combinations := FanOut.combinations plan.fields
    let total := (names.map fun name => max 1 (record name).toList.length).prod
    -- the fields are the names with their values, none twice
    (names.Nodup ∧ plan.fields = names.map fun name => (name, (record name).toList))
      -- the combinations are all choices of one number for each field, in order and none twice
      ∧ (∀ indices : List Nat, indices ∈ combinations
        ↔ List.Forall₂ (fun i field => i < max 1 field.2.length) indices plan.fields)
      ∧ combinations.Pairwise (· < ·)
      -- a combination binds each field that has values to the one that was chosen
      ∧ (∀ indices ∈ combinations,
        (FanOut.bind plan.fields indices).entries.map (·.1)
            = names.filter (fun name => (record name).toList ≠ [])
          ∧ ∀ p ∈ plan.fields.zip indices,
            (FanOut.bind plan.fields indices).entries.lookup p.1.1 = p.1.2[p.2]?)
      -- the branches are the first combinations, and each branch has one outcome, in this order
      ∧ plan.branchCount = min (2 ^ 64 - 1) total
      ∧ (∀ limit, plan.branches limit
        = (combinations.take (min plan.branchCount (max 1 limit))).map (FanOut.bind plan.fields))
      ∧ (evaluate nodes registry record settings
        = (plan.branches settings.maxBranches).map fun bindings =>
          Node.evalSequence registry ⟨record, bindings, settings⟩ nodes)
      ∧ (evaluate nodes registry record settings).length
        = min plan.branchCount (max 1 settings.maxBranches)
      ∧ 1 ≤ (evaluate nodes registry record settings).length
      -- a limit keeps a beginning, and all combinations if it is not exceeded
      ∧ (∀ limit larger, limit ≤ larger → plan.branches limit <+: plan.branches larger)
      ∧ (∀ limit larger, limit ≤ larger →
        (evaluate nodes registry record { settings with maxBranches := limit }
            <+: evaluate nodes registry record { settings with maxBranches := larger }
          ↔ ∀ bindings ∈ plan.branches limit,
            Node.evalSequence registry
                ⟨record, bindings, { settings with maxBranches := limit }⟩ nodes
              = Node.evalSequence registry
                ⟨record, bindings, { settings with maxBranches := larger }⟩ nodes))
      ∧ ((∀ (name : String) (f : Function), registry.function? name = some f → f.IgnoresLimit) →
        ∀ limit larger, limit ≤ larger →
          evaluate nodes registry record { settings with maxBranches := limit }
            <+: evaluate nodes registry record { settings with maxBranches := larger })
      ∧ (∀ limit, total ≤ min (2 ^ 64 - 1) (max 1 limit) →
        plan.branches limit = combinations.map (FanOut.bind plan.fields)) := by
  intro names plan combinations total
  have hnames : names = (FanOut.fieldNames nodes).filter registry.resolvesField := by
    rw [FanOut.fieldNames_eq]
  have htotal : FanOut.total plan.fields = total := by
    rw [FanOut.total_plan, ← hnames]
  have hmax : maxBranchCount = 2 ^ 64 - 1 := rfl
  have hcount : plan.branchCount = min (2 ^ 64 - 1) total := by
    rw [FanOut.branchCount_eq, htotal, hmax]
  refine ⟨⟨?_, ?_⟩, fun indices => FanOut.mem_combinations_iff,
    FanOut.pairwise_combinations plan.fields, fun indices hindices => ⟨?_, ?_⟩, hcount,
    FanOut.branches_eq plan, rfl, length_evaluate settings, length_evaluate_pos settings,
    fun limit larger => FanOut.branches_prefix plan,
    fun limit larger => evaluate_prefix_iff settings,
    fun h limit larger => evaluate_prefix h settings, fun limit hle => ?_⟩
  · rw [hnames]
    exact (FanOut.nodup_fieldNames nodes).filter _
  · rw [hnames]
    rfl
  · rw [FanOut.map_fst_entries_bind hindices, FanOut.map_fst_filter_plan, hnames]
  · exact FanOut.lookup_entries_bind (FanOut.nodup_plan nodes registry record)
  · refine FanOut.branches_of_total_le plan ?_
    rw [htotal, hmax]
    exact hle

/-- Two list fields, one of them without values, and a limit that leaves all combinations. -/
theorem branches_plan_pair :
    let nodes : List Node := [.fieldList 0 "A", .group 5 [.fieldList 6 "b"], .fieldList 12 "a"]
    let record : Record := fun name => if name = "a" then .multi ["1", "2"] else .missing
    let plan := FanOut.plan nodes .standard record
    plan.branches 2 = [⟨[("a", "1")]⟩, ⟨[("a", "2")]⟩]
      ∧ plan.branches 1 <+: plan.branches 2
      ∧ evaluate nodes .standard record { maxBranches := 1 }
        <+: evaluate nodes .standard record { maxBranches := 2 } := by
  intro nodes record plan
  obtain ⟨-, -, -, -, -, -, -, -, -, hbranches, -, houtcomes, hall⟩ :=
    branches_plan nodes .standard record {}
  refine ⟨?_, hbranches 1 2 (by decide), ?_⟩
  · rw [hall 2 (by decide +kernel)]
    decide +kernel
  · exact houtcomes Registry.onlyBuiltins_standard.ignoresLimit 1 2 (by decide)

/-- A function of the host that yields the limit. The branch kept by the smaller limit is the first
one under the larger limit too, and the outcomes differ. -/
theorem limit_shown_in_outcomes :
    let nodes : List Node := [.fieldList 0 "a", .call 3 "limit" []]
    let limit : Function :=
      ⟨.exactly 0, .custom .eager fun ctx _ => .literal (toString ctx.settings.maxBranches)⟩
    let registry : Registry := ⟨∅, .ofList [("limit", limit)], true⟩
    let record : Record := fun name => if name = "a" then .multi ["x", "y"] else .missing
    (evaluate nodes registry record { maxBranches := 1 }).map (·.text) = ["x1"]
      ∧ (evaluate nodes registry record { maxBranches := 2 }).map (·.text) = ["x2", "y2"]
      ∧ ¬ evaluate nodes registry record { maxBranches := 1 }
        <+: evaluate nodes registry record { maxBranches := 2 } := by
  decide +kernel

end TitleScript
