import TitleScript.Proofs.Name.Characters
import TitleScript.Proofs.Registry.Change
import TitleScript.Proofs.Script.NormalForm

/-!
# Names that can be written in a script

A registry refuses names that no script could use. It decides this by the characters of a name,
and the reading of scripts decides by tokens and frames, so the two could differ over a name that
reads well as something else: as several nodes, or as a list field in place of a field. They do
not. The names that are accepted are those that can be spelled, and what is registered under a name
is found under the name as it is read.

## Main definitions

* `Script.Spells` — a source is read as one node and nothing else

## Main results

* `Script.spells_call_iff`, `Script.spells_field_iff`, `Script.spells_fieldList_iff` — which names
  can be spelled
* `Registry.function?_of_addFunction`, `Registry.fieldKind?_of_addField` — what was registered is
  found
* `registers_iff_spells` — a registry accepts the names that can be spelled
-/

namespace TitleScript

namespace Script

/-- Reading the source finds no fault, and a single node, wherever it begins. -/
def Spells (source : String) (node : Nat → Node) : Prop :=
  (parse source).faults = [] ∧ ∃ position, (parse source).nodes = [node position]

variable {source name : String}

/-! ### Names that are spelled are names -/

theorem normal_of_mem_nodes {node : Node} (h : node ∈ (parse source).nodes) :
    node.Normal maxDepth := by
  obtain ⟨room, hframes, hnodes⟩ := Assembly.normal_ofTokens_scan source.toList
  have hread := Assembly.normalSequence_unwind hframes hnodes
    (Assembly.ofTokens (Token.scan source.toList)).faults
  rw [nodes_parse] at h
  exact hread.reverse.normal node h

theorem Spells.exists_normal {node : Nat → Node} (h : Spells source node) :
    ∃ position, (node position).Normal maxDepth := by
  obtain ⟨-, position, hnodes⟩ := h
  exact ⟨position, normal_of_mem_nodes (by rw [hnodes]; exact List.mem_cons_self)⟩

/-! ### Names are spelled -/

/-- A source that is read as one node up to its position. -/
theorem spells_of_reads {node : Nat → Node} (h : Reads .top 0 source.toList [node 0])
    (hshape : ∀ n : Node, n.shape = node 0 → ∃ position, n = node position) :
    Spells source node := by
  obtain ⟨hfaults, hshapes⟩ := parse_of_reads h
  have hgather : gather [node 0] = [node 0] := by
    rw [gather, List.foldl_cons, List.foldl_nil]
    cases node 0 <;> rfl
  rw [hgather, Node.shapesOf_eq, List.map_eq_singleton_iff] at hshapes
  obtain ⟨n, hnodes, hn⟩ := hshapes
  obtain ⟨position, rfl⟩ := hshape n hn
  exact ⟨hfaults, position, hnodes⟩

/-- **The name of a function can be spelled**, and nothing else that is called is one. -/
theorem spells_call_iff : Spells ("$" ++ name ++ "()") (.call · name []) ↔ isCallable name := by
  constructor
  · intro h
    obtain ⟨position, hnormal⟩ := h.exists_normal
    cases hnormal with
    | call hname _ _ _ => exact hname
  · intro h
    rw [← String.ofList_toList (s := name)] at h
    have hnone : ∀ i ∈ ([] : List Unit), Reads .argument 1 [] [] := by simp
    have hreads : Reads .top 0
        ('$' :: name.toList ++ '(' :: [','].intercalate (([] : List Unit).map fun _ => []) ++ [')'])
        [.call 0 (String.ofList name.toList) []] := .call h (by decide) hnone
    rw [String.ofList_toList] at hreads
    refine spells_of_reads (by simpa using hreads) fun n hn => ?_
    cases n with
    | call position other args =>
      obtain ⟨-, rfl, hargs⟩ := Node.call.inj hn
      rw [Node.shapesOfArgs_eq, List.map_eq_nil_iff] at hargs
      exact ⟨position, by rw [hargs]⟩
    | literal | quoted | field | fieldList | group => contradiction

/-- **The name of a field can be spelled**, and nothing else between percent signs is one. -/
theorem spells_field_iff : Spells ("%" ++ name ++ "%") (.field · name) ↔ isReferenceable name := by
  constructor
  · intro h
    obtain ⟨position, hnormal⟩ := h.exists_normal
    cases hnormal with
    | field hname => exact hname
  · intro h
    rw [← String.ofList_toList (s := name)] at h
    have hreads : Reads .top 0 ('%' :: name.toList ++ ['%']) _ := .field h
    rw [String.ofList_toList] at hreads
    refine spells_of_reads (by simpa using hreads) fun n hn => ?_
    cases n with
    | field position other =>
      obtain ⟨-, rfl⟩ := Node.field.inj hn
      exact ⟨position, rfl⟩
    | literal | quoted | fieldList | call | group => contradiction

/-- **The name of a field can be spelled as that of a list field**, and no other name can. -/
theorem spells_fieldList_iff :
    Spells ("%<" ++ name ++ ">%") (.fieldList · name) ↔ isReferenceable name := by
  constructor
  · intro h
    obtain ⟨position, hnormal⟩ := h.exists_normal
    cases hnormal with
    | fieldList hname => exact hname
  · intro h
    rw [← String.ofList_toList (s := name)] at h
    have hreads : Reads .top 0 ('%' :: '<' :: name.toList ++ ['>', '%']) _ := .fieldList h
    rw [String.ofList_toList] at hreads
    refine spells_of_reads (by simpa using hreads) fun n hn => ?_
    cases n with
    | fieldList position other =>
      obtain ⟨-, rfl⟩ := Node.fieldList.inj hn
      exact ⟨position, rfl⟩
    | literal | quoted | field | call | group => contradiction

end Script

/-! ### Registering a name -/

namespace Registry

variable {r r' : Registry} {name : String}

/-- The function of a name is the one that was registered last. -/
theorem function?_of_addFunction {f : Function} (h : r.addFunction name f = .ok r') :
    r'.function? name = some f := by
  obtain ⟨hname, rfl⟩ := addFunction_eq_ok_iff.1 h
  rw [function?, normalizeName_of_isCallable hname, Std.ExtTreeMap.getElem?_insert_self]

/-- The kind of a field is the one that was registered last, and blanks at the ends of the name have
no part in it. -/
theorem fieldKind?_of_addField {kind : FieldKind} (h : r.addField name kind = .ok r') :
    r'.fieldKind? (Text.trim name) = some kind := by
  obtain ⟨-, rfl⟩ := addField_eq_ok_iff.1 h
  rw [fieldKind?, normalizeName_trim, Std.ExtTreeMap.getElem?_insert_self]

end Registry

/-- **A registry accepts the names that can be spelled.** A function is registered under a name
exactly if the name can be called in a script, and a field exactly if the name, without blanks at
its ends, can stand both for a field and for a list field. What was registered is found under the
name as it is read. -/
theorem registers_iff_spells (r : Registry) (name : String) :
    (∀ f : Function,
      ((∃ r', r.addFunction name f = .ok r')
          ↔ Script.Spells ("$" ++ name ++ "()") (.call · name []))
        ∧ ∀ r', r.addFunction name f = .ok r' → r'.function? name = some f)
      ∧ ∀ kind : FieldKind,
        ((∃ r', r.addField name kind = .ok r')
            ↔ Script.Spells ("%" ++ Text.trim name ++ "%") (.field · (Text.trim name))
              ∧ Script.Spells ("%<" ++ Text.trim name ++ ">%") (.fieldList · (Text.trim name)))
          ∧ ∀ r', r.addField name kind = .ok r' → r'.fieldKind? (Text.trim name) = some kind := by
  constructor
  · intro f
    refine ⟨?_, fun r' => Registry.function?_of_addFunction⟩
    simp only [Registry.addFunction_eq_ok_iff, exists_and_left, exists_eq', and_true]
    exact Script.spells_call_iff.symm
  · intro kind
    refine ⟨?_, fun r' => Registry.fieldKind?_of_addField⟩
    simp only [Registry.addField_eq_ok_iff, exists_and_left, exists_eq', and_true]
    rw [Script.spells_field_iff, Script.spells_fieldList_iff, and_self]

/-- Names with letters outside of ASCII and with blanks around them, and a text that is read without
a fault as three nodes. -/
theorem registers_iff_spells_letters :
    Script.Spells "$ÉLAN_2()" (.call · "ÉLAN_2" [])
      ∧ (∃ r', Registry.standard.addFunction "ÉLAN_2" (.ofBuiltin .upper) = .ok r'
        ∧ r'.function? "ÉLAN_2" = some (.ofBuiltin .upper))
      ∧ Script.Spells "%<Œuvre d'art>%" (.fieldList · "Œuvre d'art")
      ∧ (∃ r', Registry.empty.addField " Œuvre d'art\t" .multi = .ok r'
        ∧ r'.fieldKind? "Œuvre d'art" = some .multi)
      ∧ (¬ ∃ r', Registry.standard.addField "a%%b" .single = .ok r')
      ∧ (Script.parse "%a%%b%").faults = [] := by
  have hcall : isCallable "ÉLAN_2" := by decide +kernel
  have hfield : isReferenceable (Text.trim " Œuvre d'art\t") := by decide +kernel
  have htrim : Text.trim " Œuvre d'art\t" = "Œuvre d'art" := by decide +kernel
  have hfunctions := (registers_iff_spells .standard "ÉLAN_2").1 (.ofBuiltin .upper)
  have hfields := (registers_iff_spells .empty " Œuvre d'art\t").2 .multi
  rw [htrim] at hfields
  refine ⟨hfunctions.1.1 ⟨_, if_pos hcall⟩, ⟨_, if_pos hcall, hfunctions.2 _ (if_pos hcall)⟩,
    (hfields.1.1 ⟨_, if_pos hfield⟩).2, ⟨_, if_pos hfield, hfields.2 _ (if_pos hfield)⟩, ?_, ?_⟩
  · rintro ⟨r', h⟩
    exact absurd (Registry.addField_eq_ok_iff.1 h).1 (by decide +kernel)
  · decide +kernel

end TitleScript
