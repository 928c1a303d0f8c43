import HiveDdl.Proofs.Identifiers
import HiveDdl.Proofs.PointerPaths
/-!
# The names of struct fields

Type inference names the fields of every object it inspects by their keys, except a `content`
key, which holds the text of an XML element and takes the name of that element. Said without
the inference: a `content` key takes the key under which the nearest enclosing object field
stores the object, array levels being transparent, or the hint when the object is reached from
the root through array items only (`enclosingKey`). The objects inference inspects are the value
itself, every field of an inspected object and the first item of an inspected array, in
pre-order (`inspectedObjects`, each with the steps that reach it). So a successful rendering
writes, struct after struct, the identifiers of exactly these names, and the hint stands as a
field name nowhere else.

Proof. Inference passes a hint down: an array passes its own, an object field passes its key. The
hint an inspected object is typed under is therefore the `enclosingKey` of its steps
(`objectFieldNames_eq_inspected`); the names of the structs were read off the objects already
(`structNames_of_inferAt`).

* `inspectedObjects`, `enclosingKey`, `nodeNames`.
* `renderFields_eq_map`: a struct writes each field as its identifier, a colon and its type.
* `struct_names_follow_enclosing_keys`.
-/

namespace HiveDdl.Schema

/-! ## The inspected objects and their names -/

mutual

/-- The objects type inference inspects below a value reached by `path`, in pre-order, each with
the steps that reach it and its fields: the value itself when it is an object, then those below
each of its fields, or those below the first item of an array. -/
def inspectedObjects (path : List PathStep) :
    Value → List (List PathStep × List (String × Value))
  | .object fields => (path, fields) :: fieldsInspectedObjects path fields
  | .array (first :: _) => inspectedObjects (path ++ [.index 0]) first
  | _ => []

def fieldsInspectedObjects (path : List PathStep) :
    List (String × Value) → List (List PathStep × List (String × Value))
  | [] => []
  | (key, child) :: rest =>
    inspectedObjects (path ++ [.key key]) child ++ fieldsInspectedObjects path rest
end

def PathStep.keyName? : PathStep → Option String
  | .key name => some name
  | .index _ => none

/-- The key of the nearest enclosing object field on a path, or the hint when the path goes
through array items only. -/
def enclosingKey (hint : String) (path : List PathStep) : String :=
  (path.filterMap PathStep.keyName?).getLastD hint

/-- The names of the fields of an inspected object: its keys, a `content` key taking the
enclosing key of the object. -/
def nodeNames (hint : String) (node : List PathStep × List (String × Value)) : List String :=
  node.2.map fun c => if c.1 = "content" then enclosingKey hint node.1 else c.1

@[simp] theorem enclosingKey_nil (hint : String) : enclosingKey hint [] = hint := rfl

@[simp] theorem enclosingKey_append_key (hint : String) (path : List PathStep) (key : String) :
    enclosingKey hint (path ++ [.key key]) = key := by
  simp [enclosingKey, PathStep.keyName?]

@[simp] theorem enclosingKey_append_index (hint : String) (path : List PathStep) (i : Nat) :
    enclosingKey hint (path ++ [.index i]) = enclosingKey hint path := by
  simp [enclosingKey, PathStep.keyName?]

theorem enclosingKey_of_key_mem {path : List PathStep} {key : String}
    (h : PathStep.key key ∈ path) (hint hint' : String) :
    enclosingKey hint path = enclosingKey hint' path := by
  have hne : path.filterMap PathStep.keyName? ≠ [] := by
    intro hnil
    have hmem : key ∈ path.filterMap PathStep.keyName? :=
      List.mem_filterMap.mpr ⟨_, h, rfl⟩
    rw [hnil] at hmem
    cases hmem
  simp only [enclosingKey, List.getLastD_eq_getLast?, List.getLast?_eq_some_getLast hne,
    Option.getD_some]

/-! ## Hints are enclosing keys -/

mutual

/-- The names inference gives the fields of the objects below a value reached by `path`, typed
under the enclosing key of `path`, are the names of its inspected objects. -/
theorem objectFieldNames_eq_inspected (hint : String) :
    ∀ (path : List PathStep) (v : Value),
      objectFieldNames (enclosingKey hint path) v = (inspectedObjects path v).map (nodeNames hint)
  | path, .object fields => by
    rw [objectFieldNames, inspectedObjects, List.map_cons,
      fieldsObjectFieldNames_eq_inspected hint path fields]
    rfl
  | path, .array [] => rfl
  | path, .array (first :: _) => by
    rw [objectFieldNames, inspectedObjects, ← objectFieldNames_eq_inspected hint _ first,
      enclosingKey_append_index]
  | _, .null => rfl
  | _, .bool _ => rfl
  | _, .number _ => rfl
  | _, .string _ => rfl

theorem fieldsObjectFieldNames_eq_inspected (hint : String) :
    ∀ (path : List PathStep) (fields : List (String × Value)),
      fieldsObjectFieldNames fields = (fieldsInspectedObjects path fields).map (nodeNames hint)
  | _, [] => rfl
  | path, (key, child) :: rest => by
    have hchild := objectFieldNames_eq_inspected hint (path ++ [.key key]) child
    rw [enclosingKey_append_key] at hchild
    rw [fieldsObjectFieldNames, fieldsInspectedObjects, List.map_append, hchild,
      fieldsObjectFieldNames_eq_inspected hint path rest]

end

/-! ## The rendered structs -/

/-- A struct writes each field as the field's identifier, a colon and the field's type. -/
theorem renderFields_eq_map (fields : List (String × HiveType)) :
    renderFields fields = fields.map fun f => escapeIdentifier f.1 false ++ ":" ++ f.2.render := by
  induction fields with
  | nil => rfl
  | cons f rest ih =>
    obtain ⟨name, t⟩ := f
    rw [renderFields, ih, List.map_cons]

theorem nodeNames_of_key_mem {node : List PathStep × List (String × Value)} {key : String}
    (h : PathStep.key key ∈ node.1) (hint hint' : String) :
    nodeNames hint' node = nodeNames hint node := by
  simp only [nodeNames, enclosingKey_of_key_mem h hint' hint]

/-- A rendering that succeeds renders the inferred type, whose structs, in pre-order, carry the
names of the inspected objects: their keys, a `content` key named by the nearest enclosing object
field or, through array items only, by the hint; each struct writes its names as identifiers.
The hint names nothing in an object reached through a field: there the names are the same under
every hint. -/
theorem struct_names_follow_enclosing_keys (v : Value) (hint s : String)
    (h : renderType v hint = .ok s) :
    ∃ ty, HiveType.infer v hint = .ok ty ∧ s = ty.render ∧
      ty.structNames = (inspectedObjects [] v).map (nodeNames hint) ∧
      (∀ fields : List (String × HiveType), (HiveType.struct fields).render =
        "struct<" ++ ", ".intercalate
          (fields.map fun f => escapeIdentifier f.1 false ++ ":" ++ f.2.render) ++ ">") ∧
      ∀ node ∈ inspectedObjects [] v, (∃ key, PathStep.key key ∈ node.1) →
        ∀ hint', nodeNames hint' node = nodeNames hint node := by
  obtain ⟨ty, hty, rfl⟩ := map_eq_ok.mp h
  refine ⟨ty, hty, rfl, ?_, fun fields => by rw [HiveType.render, renderFields_eq_map],
    fun node _ ⟨key, hkey⟩ hint' => nodeNames_of_key_mem hkey hint hint'⟩
  rw [structNames_of_inferAt hint hint v ty hty, ← objectFieldNames_eq_inspected hint [] v,
    enclosingKey_nil]

/-- A `content` key directly under the root array takes the hint; one below the field `b`, through
an array, takes `b`. -/
theorem struct_names_follow_enclosing_keys_nested :
    let v := Value.array [.object [("content", .string "x"),
      ("b", .array [.object [("content", .number "1")]])]]
    let s := "array<struct<f:string, b:array<struct<b:int>>>>"
    renderType v "f" = .ok s ∧ ∃ ty, HiveType.infer v "f" = .ok ty ∧ s = ty.render ∧
      ty.structNames = [["f", "b"], ["b"]] := by
  intro v s
  have hs : renderType v "f" = .ok s := by
    rw [eq_ok_iff_toOption]
    decide +kernel
  have hnames : (inspectedObjects [] v).map (nodeNames "f") = [["f", "b"], ["b"]] := by
    decide +kernel
  obtain ⟨ty, hty, hrender, hstructs, -⟩ := struct_names_follow_enclosing_keys v "f" s hs
  exact ⟨hs, ty, hty, hrender, hstructs.trans hnames⟩

end HiveDdl.Schema
