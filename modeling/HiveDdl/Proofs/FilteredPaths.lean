import HiveDdl.Projection
import HiveDdl.Proofs.TypeFailures
import HiveDdl.Proofs.ViewColumns

/-!
# Filtered type paths

A type path `a/b@key:value` resolves its segments to an array and keeps the first element that
qualifies for its filter: an object whose field `key` holds a scalar reading `value`. A path
that resolves to anything but an array is refused, and an array where no element qualifies is
refused as a failed match. The kept element becomes the path's column, with an XPath property
of struct form under the XML SerDe. Only an object with a field qualifies, so the column is a
struct with at least one field: typing it never fails at the column itself.

* `ElementFilter.Qualifies`: when an element qualifies, said without the filter's test.
* `find?_matches_eq_some_iff`: the kept element is the qualifying one of least index;
  `find?_matches_eq_none_iff`: none is kept when none qualifies.
* `inferAt_ne_emptyObject_self`: a non-empty object never fails as an empty object at its own
  location, whatever lies below it.
* `filtered_path_selects_first_match`: the outcome of a filtered path, for every response and
  every column and property written before it.
-/

namespace HiveDdl

open Schema

/-! ## Qualifying elements -/

/-- An element qualifies for a filter when it is an object whose field `key` holds a scalar
whose text is `value`. -/
def ElementFilter.Qualifies (f : ElementFilter) (e : Value) : Prop :=
  ∃ fields v, e = .object fields ∧ lookupField fields f.key = some v ∧ v.isScalar = true ∧
    v.scalarText = some f.value

theorem Value.isScalar_of_scalarText {v : Value} {t : String} (h : v.scalarText = some t) :
    v.isScalar = true := by
  cases v <;> simp_all [Value.scalarText, Value.isScalar]

theorem ElementFilter.matches_eq_true_iff {f : ElementFilter} {e : Value} :
    f.matches e = true ↔ f.Qualifies e := by
  cases e with
  | object fields =>
    cases hkey : lookupField fields f.key with
    | none => simp [ElementFilter.matches, ElementFilter.Qualifies, hkey]
    | some v =>
      simp only [ElementFilter.matches, ElementFilter.Qualifies, hkey, beq_iff_eq]
      constructor
      · intro htext
        exact ⟨fields, v, rfl, hkey, Value.isScalar_of_scalarText htext, htext⟩
      · rintro ⟨fields', v', hfields, hkey', -, htext⟩
        cases hfields
        rw [hkey, Option.some.injEq] at hkey'
        rw [hkey', htext]
  | _ => simp [ElementFilter.matches, ElementFilter.Qualifies]

theorem ElementFilter.Qualifies.object_ne_nil {f : ElementFilter} {e : Value}
    (h : f.Qualifies e) : ∃ fields, e = .object fields ∧ fields ≠ [] := by
  obtain ⟨fields, v, rfl, hkey, -⟩ := h
  refine ⟨fields, rfl, ?_⟩
  rintro rfl
  simp [lookupField] at hkey

/-- The filter keeps the qualifying element of least index. -/
theorem find?_matches_eq_some_iff {f : ElementFilter} {items : List Value} {e : Value} :
    items.find? f.matches = some e ↔
      ∃ (i : Nat) (hi : i < items.length), items[i] = e ∧ f.Qualifies e ∧
        ∀ (j : Nat) (hj : j < i), ¬ f.Qualifies items[j] := by
  rw [List.find?_eq_some_iff_getElem, ElementFilter.matches_eq_true_iff]
  constructor
  · rintro ⟨he, i, hi, rfl, hbefore⟩
    refine ⟨i, hi, rfl, he, fun j hj => ?_⟩
    rw [← ElementFilter.matches_eq_true_iff]
    simpa using hbefore j hj
  · rintro ⟨i, hi, rfl, he, hbefore⟩
    refine ⟨he, i, hi, rfl, fun j hj => ?_⟩
    have hnot := hbefore j hj
    rw [← ElementFilter.matches_eq_true_iff] at hnot
    simpa using hnot

/-- The filter keeps nothing exactly when no element qualifies. -/
theorem find?_matches_eq_none_iff {f : ElementFilter} {items : List Value} :
    items.find? f.matches = none ↔ ∀ e ∈ items, ¬ f.Qualifies e := by
  simp only [List.find?_eq_none, ← ElementFilter.matches_eq_true_iff, Bool.not_eq_true]

/-! ## Failure locations below an object -/

namespace Schema

def TypeError.location : TypeError → String
  | .emptyArray location => location
  | .emptyObject location => location

theorem emptyFailure_location {node : String × Value} {e : TypeError}
    (h : emptyFailure node = some e) : e.location = node.1 := by
  unfold emptyFailure at h
  split at h <;> cases h <;> rfl

mutual

theorem length_le_of_mem_inspectedNodes (location : String) :
    ∀ (v : Value) (node : String × Value), node ∈ inspectedNodes location v →
      location.length ≤ node.1.length
  | .object fields, node, h => by
    rcases List.mem_cons.mp h with rfl | h
    · exact le_rfl
    · exact (length_lt_of_mem_fieldNodes location fields node h).le
  | .array [], node, h => by
    rw [inspectedNodes, List.mem_singleton] at h
    rw [h]
  | .array (first :: rest), node, h => by
    rcases List.mem_cons.mp h with rfl | h
    · exact le_rfl
    · have hbelow := length_le_of_mem_inspectedNodes (location ++ "[0]") first node h
      rw [String.length_append] at hbelow
      omega
  | .null, node, h | .bool _, node, h | .number _, node, h | .string _, node, h => by
    simp only [inspectedNodes, List.mem_singleton] at h
    rw [h]

theorem length_lt_of_mem_fieldNodes (location : String) :
    ∀ (fields : List (String × Value)) (node : String × Value),
      node ∈ fieldNodes location fields → location.length < node.1.length
  | [], node, h => by simp [fieldNodes] at h
  | (key, child) :: rest, node, h => by
    rw [fieldNodes, List.mem_append] at h
    rcases h with h | h
    · have hbelow := length_le_of_mem_inspectedNodes (location ++ "." ++ key) child node h
      simp only [String.length_append] at hbelow
      have hpoint : ".".length = 1 := rfl
      omega
    · exact length_lt_of_mem_fieldNodes location rest node h

end

/-- A non-empty object never fails as an empty object at its own location: a failure below it
is named by a longer location. -/
theorem inferAt_ne_emptyObject_self {hint location : String} {fields : List (String × Value)}
    (hfields : fields ≠ []) :
    inferAt hint location (.object fields) ≠ .error (.emptyObject location) := by
  intro h
  rw [inferAt_eq_error_iff] at h
  obtain ⟨node, hnode, hfailure⟩ := List.exists_of_findSome?_eq_some h
  have hlocation : location = node.1 := emptyFailure_location hfailure
  rcases List.mem_cons.mp hnode with rfl | hbelow
  · obtain ⟨c, cs, rfl⟩ := List.exists_cons_of_ne_nil hfields
    simp at hfailure
  · have hlt := length_lt_of_mem_fieldNodes location fields node hbelow
    rw [← hlocation] at hlt
    exact lt_irrefl _ hlt

theorem renderType_object_of_ne_nil {fields : List (String × Value)} (hfields : fields ≠ [])
    (hint : String) :
    (∀ text, renderType (.object fields) hint = .ok text →
      ∃ body, text = "struct<" ++ body ++ ">") ∧
    renderType (.object fields) hint ≠ .error (.emptyObject hint) := by
  refine ⟨fun text htext => ?_, fun h => ?_⟩
  · obtain ⟨ty, hty, rfl⟩ := map_eq_ok.mp htext
    obtain ⟨typed, rfl, -⟩ := inferAt_object hty
    exact ⟨", ".intercalate (renderFields typed), by simp [HiveType.render]⟩
  · rw [renderType, map_eq_error, HiveType.infer] at h
    exact inferAt_ne_emptyObject_self hfields h

end Schema

/-! ## The column of a filtered path -/

/-- The XPath property a filtered path records: its property is named by its column, lowered,
and reads the element carrying `@key='value'` below the path, in struct form. -/
def filteredProperty (p : TypePath) (f : ElementFilter) (skipEnvelope : Bool) : XPathProperty :=
  ⟨Text.lower p.columnName, (if skipEnvelope then "/" else "/KeyedResponse/") ++ "Response/" ++
    p.queryPath ++ "[@" ++ f.key ++ "='" ++ f.value ++ "']"⟩

section filtered

variable {response v : Value} {p : TypePath} {f : ElementFilter} {xml skipEnvelope : Bool}
  {acc : Projection}

theorem addPath_of_segments (hsegments : p.segments ≠ []) :
    addPath response xml skipEnvelope acc p =
      (fun (selected : Value × String) =>
        acc.add xml skipEnvelope selected.2 p.columnName selected.1 selected.1.shape) <$>
        selectPath response p := by
  have hwhole : p.isWholeResponse = false := by
    simpa [TypePath.isWholeResponse] using hsegments
  unfold addPath
  rw [hwhole]
  cases selectPath response p <;> rfl

theorem selectPath_of_find?_eq_some {items : List Value} {e : Value}
    (hfilter : p.filter = some f)
    (hresolve : resolve response p.segments p.expression = .ok (.array items))
    (hfind : items.find? f.matches = some e) :
    selectPath response p =
      .ok (e, "Response/" ++ p.queryPath ++ "[@" ++ f.key ++ "='" ++ f.value ++ "']") := by
  simp [selectPath, hresolve, hfilter, hfind, Except.mapError, bind, Except.bind, pure,
    Except.pure]

theorem selectPath_of_find?_eq_none {items : List Value} (hfilter : p.filter = some f)
    (hresolve : resolve response p.segments p.expression = .ok (.array items))
    (hfind : items.find? f.matches = none) :
    selectPath response p = .error (.noMatch p.expression f) := by
  simp [selectPath, hresolve, hfilter, hfind, Except.mapError, bind, Except.bind, throw,
    throwThe, MonadExceptOf.throw]

theorem selectPath_of_not_array (hfilter : p.filter = some f)
    (hresolve : resolve response p.segments p.expression = .ok v)
    (hv : ∀ items, v ≠ .array items) :
    selectPath response p = .error (.path ⟨p.expression, .notAnArray⟩) := by
  -- the match on `v` takes its last branch, `hv` ruling out an array
  simp only [selectPath, hresolve, hfilter, Except.mapError, bind, Except.bind]
  rfl

/-- A filtered path's outcome, whatever columns and properties were written before it. A value
at the path that is no array is refused. In an array, the path fails to match exactly when no
element qualifies; otherwise the qualifying element of least index becomes the path's column,
recorded under the XML SerDe with an XPath property in struct form. That element is an object
with at least one field, so its type is a struct and never fails as an empty object at the
column itself. -/
theorem filtered_path_selects_first_match (hsegments : p.segments ≠ [])
    (hfilter : p.filter = some f) (hresolve : resolve response p.segments p.expression = .ok v) :
    ((∀ items, v ≠ .array items) →
      addPath response xml skipEnvelope acc p = .error (.path ⟨p.expression, .notAnArray⟩)) ∧
    ∀ items, v = .array items →
      (addPath response xml skipEnvelope acc p = .error (.noMatch p.expression f) ↔
        ∀ e ∈ items, ¬ f.Qualifies e) ∧
      ∀ (i : Nat) (hi : i < items.length), f.Qualifies items[i] →
        (∀ (j : Nat) (hj : j < i), ¬ f.Qualifies items[j]) →
        addPath response xml skipEnvelope acc p =
          .ok ⟨setField acc.columns p.columnName items[i],
            if xml then acc.properties ++ [filteredProperty p f skipEnvelope]
            else acc.properties⟩ ∧
        (∃ fields, items[i] = .object fields ∧ fields ≠ []) ∧
        ∀ hint, (∀ text, renderType items[i] hint = .ok text →
            ∃ body, text = "struct<" ++ body ++ ">") ∧
          renderType items[i] hint ≠ .error (.emptyObject hint) := by
  rw [addPath_of_segments hsegments]
  refine ⟨fun hv => by rw [selectPath_of_not_array hfilter hresolve hv]; rfl,
    fun items hitems => ⟨?_, fun i hi hqualifies hfirst => ?_⟩⟩
  all_goals subst hitems
  · cases hfind : items.find? f.matches with
    | none =>
      rw [selectPath_of_find?_eq_none hfilter hresolve hfind]
      exact ⟨fun _ => find?_matches_eq_none_iff.mp hfind, fun _ => rfl⟩
    | some e =>
      rw [selectPath_of_find?_eq_some hfilter hresolve hfind]
      obtain ⟨k, hk, rfl, hqualifies, -⟩ := find?_matches_eq_some_iff.mp hfind
      exact ⟨(fun h => by cases h), fun hnone => absurd hqualifies (hnone _ (List.getElem_mem hk))⟩
  · have hfind : items.find? f.matches = some items[i] :=
      find?_matches_eq_some_iff.mpr ⟨i, hi, rfl, hqualifies, hfirst⟩
    obtain ⟨fields, hfields, hne⟩ := hqualifies.object_ne_nil
    refine ⟨?_, ⟨fields, hfields, hne⟩, fun hint => hfields ▸ renderType_object_of_ne_nil hne hint⟩
    rw [selectPath_of_find?_eq_some hfilter hresolve hfind]
    simp [Functor.map, Except.map, Projection.add, xpathProperty, filteredProperty, hfields,
      Value.shape, String.append_assoc]

end filtered

/-- The path `a/b@k:v` over an array whose second element qualifies, in an XML run that keeps
the envelope, with nothing written before it. -/
theorem filtered_path_selects_first_match_second :
    let items : List Value := [.object [("k", .string "u"), ("n", .number "1")],
      .object [("k", .string "v"), ("n", .number "2")]]
    let response : Value := .object [("a", .object [("b", .array items)])]
    let p : TypePath := ⟨"a/b@k:v", ["a", "b"], some ⟨"k", "v"⟩⟩
    (p.segments ≠ [] ∧ p.filter = some ⟨"k", "v"⟩ ∧
      resolve response p.segments p.expression = .ok (.array items)) ∧
    (((∀ items', Value.array items ≠ .array items') →
      addPath response true false ⟨[], []⟩ p = .error (.path ⟨p.expression, .notAnArray⟩)) ∧
    ∀ items', Value.array items = .array items' →
      (addPath response true false ⟨[], []⟩ p = .error (.noMatch p.expression ⟨"k", "v"⟩) ↔
        ∀ e ∈ items', ¬ ElementFilter.Qualifies ⟨"k", "v"⟩ e) ∧
      ∀ (i : Nat) (hi : i < items'.length), ElementFilter.Qualifies ⟨"k", "v"⟩ items'[i] →
        (∀ (j : Nat) (hj : j < i), ¬ ElementFilter.Qualifies ⟨"k", "v"⟩ items'[j]) →
        addPath response true false ⟨[], []⟩ p =
          .ok ⟨setField [] p.columnName items'[i],
            if true then [] ++ [filteredProperty p ⟨"k", "v"⟩ false] else []⟩ ∧
        (∃ fields, items'[i] = .object fields ∧ fields ≠ []) ∧
        ∀ hint, (∀ text, renderType items'[i] hint = .ok text →
            ∃ body, text = "struct<" ++ body ++ ">") ∧
          renderType items'[i] hint ≠ .error (.emptyObject hint)) := by
  intro items response p
  have hresolve : resolve response p.segments p.expression = .ok (.array items) := rfl
  exact ⟨⟨by simp [p], rfl, hresolve⟩,
    filtered_path_selects_first_match (by simp [p]) rfl hresolve⟩

end HiveDdl
