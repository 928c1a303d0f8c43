import HiveDdl.Schema.Type
import HiveDdl.Proofs.Sequencing

/-!
# Where type inference fails

Type inference looks at a value, at every field of an object it looks at, and at the first
element of an array it looks at; it never looks at the elements after the first. It fails at the
first empty object or empty array it looks at, in pre-order with the fields of an object in
document order, and names it by its location: the hint, then `.key` for each field and `[0]` for
each first element on the way down.

* `inspectedNodes location v`: the nodes inference looks at, in pre-order, with their locations.
* `emptyFailure`: the failure a node causes by itself, if it is an empty object or array.
* `inferAt_eq_error_iff`: inference fails with exactly the failure of the first inspected node
  that has one.
* `inferAt_firstItems`: cutting every array down to its first element changes nothing.
* `renderType_fails_at_first_empty`: the three together, for the rendered type.
-/

namespace HiveDdl

mutual

def Value.firstItems : Value → Value
  | .object fields => .object (Value.fieldsFirstItems fields)
  | .array [] => .array []
  | .array (first :: _) => .array [first.firstItems]
  | v => v

def Value.fieldsFirstItems : List (String × Value) → List (String × Value)
  | [] => []
  | (key, child) :: rest => (key, child.firstItems) :: Value.fieldsFirstItems rest

end

namespace Schema

/-! ## The inspected nodes -/

mutual

/-- The nodes type inference looks at, in pre-order, each with its location: the value itself,
then the nodes of each field of an object in order, or those of the first element of an array. -/
def inspectedNodes (location : String) : Value → List (String × Value)
  | .object fields => (location, .object fields) :: fieldNodes location fields
  | .array [] => [(location, .array [])]
  | .array (first :: rest) =>
    (location, .array (first :: rest)) :: inspectedNodes (location ++ "[0]") first
  | v => [(location, v)]

/-- The inspected nodes below the fields of an object at `location`, field after field. -/
def fieldNodes (location : String) : List (String × Value) → List (String × Value)
  | [] => []
  | (key, child) :: rest =>
    inspectedNodes (location ++ "." ++ key) child ++ fieldNodes location rest

end

/-- The failure a node causes by itself: an empty object or an empty array, at its location. -/
def emptyFailure : String × Value → Option TypeError
  | (location, .object []) => some (.emptyObject location)
  | (location, .array []) => some (.emptyArray location)
  | _ => none

@[simp] theorem emptyFailure_object_cons {location : String} {c : String × Value}
    {cs : List (String × Value)} : emptyFailure (location, .object (c :: cs)) = none := rfl

@[simp] theorem emptyFailure_array_cons {location : String} {first : Value} {rest : List Value} :
    emptyFailure (location, .array (first :: rest)) = none := rfl

/-! ## Failures -/

mutual

/-- Inference fails with exactly the failure of the first inspected node that has one. -/
theorem inferAt_eq_error_iff (hint location : String) : ∀ (v : Value) (e : TypeError),
    inferAt hint location v = .error e ↔
      (inspectedNodes location v).findSome? emptyFailure = some e
  | .object [], e => by simp [inferAt, inspectedNodes, emptyFailure, fieldNodes]
  | .object (c :: cs), e => by
    rw [inferAt, if_neg (by simp), map_eq_error, inferFields_eq_error_iff hint location (c :: cs) e]
    simp [inspectedNodes, List.findSome?_cons]
  | .array [], e => by simp [inferAt, inspectedNodes, emptyFailure]
  | .array (first :: rest), e => by
    rw [inferAt, map_eq_error, inferAt_eq_error_iff hint (location ++ "[0]") first e]
    simp [inspectedNodes, List.findSome?_cons]
  | .null, e => by simp [inferAt, inspectedNodes, emptyFailure]
  | .bool _, e => by simp [inferAt, inspectedNodes, emptyFailure]
  | .number _, e => by simp [inferAt, inspectedNodes, emptyFailure]
  | .string _, e => by simp [inferAt, inspectedNodes, emptyFailure]

theorem inferFields_eq_error_iff (hint location : String) :
    ∀ (fields : List (String × Value)) (e : TypeError),
      inferFields hint location fields = .error e ↔
        (fieldNodes location fields).findSome? emptyFailure = some e
  | [], e => by simp [inferFields, fieldNodes]
  | (key, child) :: rest, e => by
    rw [inferFields, fieldNodes, List.findSome?_append]
    cases hchild : inferAt key (location ++ "." ++ key) child with
    | error e' =>
      -- the field's own failure comes first, and the fields after it are not looked at
      rw [(inferAt_eq_error_iff key _ child e').mp hchild]
      simp [bind, Except.bind]
    | ok t =>
      have hnone : (inspectedNodes (location ++ "." ++ key) child).findSome? emptyFailure =
          none := by
        refine Option.eq_none_iff_forall_ne_some.mpr fun e' he' => ?_
        rw [← inferAt_eq_error_iff key _ child e', hchild] at he'
        cases he'
      rw [hnone, Option.none_or, ← inferFields_eq_error_iff hint location rest e]
      simp [bind_eq_error, map_eq_error]

end

theorem inferAt_ok_iff {hint location : String} {v : Value} :
    (∃ t, inferAt hint location v = .ok t) ↔
      ∀ node ∈ inspectedNodes location v, emptyFailure node = none := by
  rw [← List.findSome?_eq_none_iff]
  constructor
  · rintro ⟨t, ht⟩
    refine Option.eq_none_iff_forall_ne_some.mpr fun e he => ?_
    rw [← inferAt_eq_error_iff, ht] at he
    cases he
  · intro hnone
    cases h : inferAt hint location v with
    | ok t => exact ⟨t, rfl⟩
    | error e =>
      rw [inferAt_eq_error_iff, hnone] at h
      cases h

/-! ## Later array elements -/

mutual

/-- Inference reads no array element after the first. -/
theorem inferAt_firstItems (hint location : String) :
    ∀ v : Value, inferAt hint location v.firstItems = inferAt hint location v
  | .object [] => rfl
  | .object (c :: cs) => by
    have hfields := inferFields_firstItems hint location (c :: cs)
    simp only [Value.firstItems, Value.fieldsFirstItems] at hfields ⊢
    rw [inferAt, inferAt, hfields]
    simp
  | .array [] => rfl
  | .array (first :: rest) => by
    rw [Value.firstItems, inferAt, inferAt, inferAt_firstItems hint (location ++ "[0]") first]
  | .null => rfl
  | .bool _ => rfl
  | .number _ => rfl
  | .string _ => rfl

theorem inferFields_firstItems (hint location : String) :
    ∀ fields : List (String × Value),
      inferFields hint location (Value.fieldsFirstItems fields) = inferFields hint location fields
  | [] => rfl
  | (key, child) :: rest => by
    rw [Value.fieldsFirstItems, inferFields, inferFields,
      inferAt_firstItems key (location ++ "." ++ key) child,
      inferFields_firstItems hint location rest]

end

/-! ## The rendered type -/

/-- Rendering a value's type fails exactly at the first empty object or empty array that
inference inspects, in pre-order with fields in document order, with the failure of that kind
at that node's location; with none it gives a type expression; and no array element after the
first changes the outcome. -/
theorem renderType_fails_at_first_empty (v : Value) (hint : String) :
    (∀ e, renderType v hint = .error e ↔
      (inspectedNodes hint v).findSome? emptyFailure = some e) ∧
    ((∃ text, renderType v hint = .ok text) ↔
      ∀ node ∈ inspectedNodes hint v, emptyFailure node = none) ∧
    renderType v.firstItems hint = renderType v hint := by
  refine ⟨fun e => ?_, ?_, ?_⟩
  · rw [renderType, map_eq_error, HiveType.infer, inferAt_eq_error_iff]
  · rw [← @inferAt_ok_iff hint hint v]
    simp [renderType, HiveType.infer, map_eq_ok]
  · rw [renderType, renderType, HiveType.infer, HiveType.infer, inferAt_firstItems]

example : renderType (.object [("outer", .object [("list", .array [])])]) "doc" =
    .error (.emptyArray "doc.outer.list") := by rfl

end Schema

end HiveDdl
