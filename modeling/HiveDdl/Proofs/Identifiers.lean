import HiveDdl.Proofs.ViewColumns
/-!
# The identifiers of a table

Every name the table statement writes is an identifier made by `escapeIdentifier`: each column
from a top-level key, lowered, and each struct field, at any depth, from the key of an object
type inference inspects (the hint for a `content` key), not lowered.

`escapeIdentifier` decides whether to quote on the name as given, and the text it writes has its
colons turned to underscores and may be lowered. So a name that is not reserved can still be
written as a reserved word: `CURRENT:DATE` becomes the column `current_date`. Where the name
has no colon and, for a column, lowering keeps its uppercase form, the identifier is quoted or
not reserved (`escapeIdentifier_quotedOrUnreserved`).

Nothing keeps two identifiers apart either. Hive compares identifiers without their backticks
and ignoring case (`identifierKey`); two keys clash exactly when their unquoted identifiers do,
so `A` and `a`, or `a:b` and `a_b`, give one column name, and a `content` field takes the name
of a sibling that shares the hint.

* `HiveType.structNames`, `objectFieldNames`: the field names of every struct of a type, and
  the names the inspected objects of a value give their fields; `structNames_of_inferAt` equates
  them.
* `QuotedOrUnreserved`, `escapeIdentifier_quotedOrUnreserved`: when an identifier is safe.
* `identifierKey_escapeIdentifier`: quoting never changes how an identifier compares.
-/

namespace HiveDdl.Schema

/-! ## Struct field names -/

mutual

/-- The field names of every struct of a type, in pre-order: a struct's own names, then those
inside each field's type. -/
def HiveType.structNames : HiveType → List (List String)
  | .scalar _ => []
  | .array element => element.structNames
  | .struct fields => fields.map (·.1) :: HiveType.fieldsStructNames fields

def HiveType.fieldsStructNames : List (String × HiveType) → List (List String)
  | [] => []
  | (_, t) :: rest => t.structNames ++ HiveType.fieldsStructNames rest

end

mutual

/-- The names the objects type inference inspects give their fields, in pre-order: an object's
keys, `content` named after the hint, then the objects below each field, or below the first
element of an array. -/
def objectFieldNames (hint : String) : Value → List (List String)
  | .object fields => fields.map (fun c => fieldName hint c.1) :: fieldsObjectFieldNames fields
  | .array (first :: _) => objectFieldNames hint first
  | _ => []

/-- The field names of the objects below the fields of an object, each field its own hint. -/
def fieldsObjectFieldNames : List (String × Value) → List (List String)
  | [] => []
  | (key, child) :: rest => objectFieldNames key child ++ fieldsObjectFieldNames rest

end

mutual

/-- A type's structs carry the field names of the objects inference inspected. -/
theorem structNames_of_inferAt (hint location : String) :
    ∀ (v : Value) (ty : HiveType), inferAt hint location v = .ok ty →
      ty.structNames = objectFieldNames hint v
  | .object fields, ty, h => by
    rw [inferAt] at h
    split at h
    · cases h
    · obtain ⟨typed, htyped, rfl⟩ := map_eq_ok.mp h
      rw [HiveType.structNames, objectFieldNames, inferFields_names htyped,
        fieldsStructNames_of_inferFields hint location fields typed htyped]
  | .array [], ty, h => by simp [inferAt] at h
  | .array (first :: rest), ty, h => by
    rw [inferAt] at h
    obtain ⟨t, ht, rfl⟩ := map_eq_ok.mp h
    rw [HiveType.structNames, objectFieldNames, structNames_of_inferAt hint _ first t ht]
  | .null, ty, h => by
    cases h
    rfl
  | .bool _, ty, h => by
    cases h
    rfl
  | .number _, ty, h => by
    cases h
    rfl
  | .string _, ty, h => by
    cases h
    rfl

theorem fieldsStructNames_of_inferFields (hint location : String) :
    ∀ (fields : List (String × Value)) (typed : List (String × HiveType)),
      inferFields hint location fields = .ok typed →
        HiveType.fieldsStructNames typed = fieldsObjectFieldNames fields
  | [], typed, h => by
    rw [inferFields] at h
    cases h
    rfl
  | (key, child) :: rest, typed, h => by
    rw [inferFields] at h
    simp only [bind_eq_ok, pure_eq_ok] at h
    obtain ⟨t, ht, ts, hts, rfl⟩ := h
    rw [HiveType.fieldsStructNames, fieldsObjectFieldNames, structNames_of_inferAt key _ child t ht,
      fieldsStructNames_of_inferFields hint location rest ts hts]

end

/-! ## Quoting -/

/-- An identifier Hive reads as a name and not as a keyword: quoted in backticks, or not a
reserved word. -/
def QuotedOrUnreserved (id : String) : Prop :=
  (∃ u, id = "`" ++ u ++ "`") ∨ isReserved id = false

theorem isReserved_lower {name : String} (h : Text.upper (Text.lower name) = Text.upper name) :
    isReserved (Text.lower name) = isReserved name := by
  rw [isReserved, isReserved, h]

/-- A name without a colon, lowered only where lowering keeps its uppercase form, is written
quoted or as a word that is not reserved: reservedness is decided on the name, and the text
written is the name or its lowered form. -/
theorem escapeIdentifier_quotedOrUnreserved {name : String} (lowercase : Bool)
    (hcolon : ':' ∉ name.toList)
    (hcase : lowercase = true → Text.upper (Text.lower name) = Text.upper name) :
    QuotedOrUnreserved (escapeIdentifier name lowercase) := by
  cases hreserved : isReserved name
  · right
    rw [escapeIdentifier_of_not_reserved lowercase hreserved,
      unquotedIdentifier_of_colon_free lowercase hcolon]
    cases lowercase with
    | false => exact hreserved
    | true => rw [if_pos rfl, isReserved_lower (hcase rfl), hreserved]
  · exact .inl ⟨_, escapeIdentifier_of_reserved lowercase hreserved⟩

theorem head_quoted (u : String) : ("`" ++ u ++ "`").toList.head? = some '`' := by
  simp [String.toList_append]

theorem not_quotedOrUnreserved {id : String} (hhead : id.toList.head? ≠ some '`')
    (hreserved : isReserved id = true) : ¬ QuotedOrUnreserved id := by
  rintro (⟨u, rfl⟩ | hnot)
  · exact hhead (head_quoted u)
  · rw [hreserved] at hnot
    cases hnot

/-! ## Comparing identifiers -/

/-- The text Hive compares an identifier by: without backticks, lowered. -/
def identifierKey (id : String) : String :=
  Text.lower (String.ofList (id.toList.filter (· ≠ '`')))

/-- Quoting never changes how an identifier compares. -/
@[simp] theorem identifierKey_escapeIdentifier (name : String) (lowercase : Bool) :
    identifierKey (escapeIdentifier name lowercase) =
      identifierKey (unquotedIdentifier name lowercase) := by
  cases hreserved : isReserved name
  · rw [escapeIdentifier_of_not_reserved lowercase hreserved]
  · rw [escapeIdentifier_of_reserved lowercase hreserved]
    simp [identifierKey, String.toList_append]

/-! ## The table -/

theorem columnDefinitions_eq_ok_iff {fields : List (String × Value)} {lines : List String} :
    columnDefinitions fields = .ok lines ↔ ∃ unsorted, lines = sortTexts unsorted ∧
      List.Forall₂ (fun c line => ∃ ty, HiveType.infer c.2 c.1 = .ok ty ∧
        line = escapeIdentifier c.1 true ++ " " ++ ty.render) fields unsorted := by
  simp only [columnDefinitions, map_eq_ok, mapM_eq_ok_iff_forall₂, columnDefinition_eq_ok]
  exact ⟨fun ⟨unsorted, h, hsorted⟩ => ⟨unsorted, hsorted.symm, h⟩,
    fun ⟨unsorted, hsorted, h⟩ => ⟨unsorted, h, hsorted.symm⟩⟩

theorem columnDefinitions_singleton {key : String} {v : Value} {ty : HiveType}
    (h : HiveType.infer v key = .ok ty) :
    columnDefinitions [(key, v)] = .ok [escapeIdentifier key true ++ " " ++ ty.render] :=
  columnDefinitions_eq_ok_iff.mpr ⟨_, by simp [sortTexts], .cons ⟨ty, h, rfl⟩ .nil⟩

/-- Every identifier the table writes is quoted or not reserved, where its name has no colon and,
for a column, lowering keeps the name's uppercase form. The identifiers are each key's column,
lowered, and the field names of every struct of its type, not lowered; those are the names the
objects inference inspected give their fields. -/
theorem emitted_identifiers_quoted_or_unreserved :
    (∀ (name : String) (lowercase : Bool), ':' ∉ name.toList →
      (lowercase = true → Text.upper (Text.lower name) = Text.upper name) →
        QuotedOrUnreserved (escapeIdentifier name lowercase)) ∧
    ∀ (fields : List (String × Value)) (lines : List String),
      columnDefinitions fields = .ok lines → ∀ c ∈ fields, ∃ ty,
        HiveType.infer c.2 c.1 = .ok ty ∧ escapeIdentifier c.1 true ++ " " ++ ty.render ∈ lines ∧
        ty.structNames = objectFieldNames c.1 c.2 ∧
        (':' ∉ c.1.toList → Text.upper (Text.lower c.1) = Text.upper c.1 →
          QuotedOrUnreserved (escapeIdentifier c.1 true)) ∧
        ∀ s ∈ ty.structNames, ∀ n ∈ s, ':' ∉ n.toList →
          QuotedOrUnreserved (escapeIdentifier n false) := by
  refine ⟨fun name lowercase hcolon hcase =>
    escapeIdentifier_quotedOrUnreserved lowercase hcolon hcase, ?_⟩
  intro fields lines h c hc
  obtain ⟨ty, hty, hline⟩ := columnDefinitions_mem h hc
  refine ⟨ty, hty, hline, structNames_of_inferAt c.1 c.1 c.2 ty hty,
    fun hcolon hcase => escapeIdentifier_quotedOrUnreserved true hcolon fun _ => hcase, ?_⟩
  intro s _ n _ hcolon
  exact escapeIdentifier_quotedOrUnreserved false hcolon nofun

/-- A reserved key holding a reserved field: both are quoted. -/
theorem emitted_identifiers_quoted_or_unreserved_order :
    let fields := [("Order", Value.object [("Date", .number "1")])]
    let lines := ["`order` struct<`Date`:int>"]
    (':' ∉ "Order".toList ∧ Text.upper (Text.lower "Order") = Text.upper "Order" ∧
      QuotedOrUnreserved (escapeIdentifier "Order" true)) ∧
    columnDefinitions fields = .ok lines ∧
    ∀ c ∈ fields, ∃ ty,
      HiveType.infer c.2 c.1 = .ok ty ∧ escapeIdentifier c.1 true ++ " " ++ ty.render ∈ lines ∧
      ty.structNames = objectFieldNames c.1 c.2 ∧
      (':' ∉ c.1.toList → Text.upper (Text.lower c.1) = Text.upper c.1 →
        QuotedOrUnreserved (escapeIdentifier c.1 true)) ∧
      ∀ s ∈ ty.structNames, ∀ n ∈ s, ':' ∉ n.toList →
        QuotedOrUnreserved (escapeIdentifier n false) := by
  intro fields lines
  have hcolon : ':' ∉ "Order".toList := by decide +kernel
  have hcase : Text.upper (Text.lower "Order") = Text.upper "Order" := by decide +kernel
  have hlines : columnDefinitions fields = .ok lines := by
    rw [eq_ok_iff_toOption]
    decide +kernel
  exact ⟨⟨hcolon, hcase, emitted_identifiers_quoted_or_unreserved.1 "Order" true hcolon
      fun _ => hcase⟩,
    hlines, emitted_identifiers_quoted_or_unreserved.2 fields lines hlines⟩

/-- A name can be written as a reserved word it is not: a colon becomes an underscore
(`CURRENT:DATE`), or lowering changes the uppercase form (a Kelvin sign lowers to `k`). Both
columns are written unquoted. -/
theorem unquoted_reserved_columns :
    columnDefinitions [("CURRENT:DATE", .number "1")] = .ok ["current_date int"] ∧
      ¬ QuotedOrUnreserved (escapeIdentifier "CURRENT:DATE" true) ∧
    columnDefinitions [("LI\u212AE", .number "1")] = .ok ["like int"] ∧
      ¬ QuotedOrUnreserved (escapeIdentifier "LI\u212AE" true) := by
  have hdate : escapeIdentifier "CURRENT:DATE" true = "current_date" := by decide +kernel
  have hlike : escapeIdentifier "LI\u212AE" true = "like" := by decide +kernel
  refine ⟨?_, ?_, ?_, ?_⟩
  · rw [columnDefinitions_singleton rfl, hdate]
    rfl
  · rw [hdate]
    exact not_quotedOrUnreserved (by decide +kernel) (by decide +kernel)
  · rw [columnDefinitions_singleton rfl, hlike]
    rfl
  · rw [hlike]
    exact not_quotedOrUnreserved (by decide +kernel) (by decide +kernel)

/-- The table has one column per key, of the key's identifier lowered and the type of its value,
and each struct of a type the field names of an object inference inspected. Hive compares names
without backticks and ignoring case, and there two names clash exactly when their unquoted
identifiers do: the columns are distinct exactly when the keys' lowered identifiers are, and a
struct's fields exactly when its names' identifiers are. -/
theorem names_clash_as_unquoted_identifiers {fields : List (String × Value)} {lines : List String}
    (h : columnDefinitions fields = .ok lines) :
    (∃ unsorted, lines = sortTexts unsorted ∧
      List.Forall₂ (fun c line => ∃ ty, HiveType.infer c.2 c.1 = .ok ty ∧
        line = escapeIdentifier c.1 true ++ " " ++ ty.render) fields unsorted) ∧
    ((fields.map fun c => identifierKey (escapeIdentifier c.1 true)).Nodup ↔
      (fields.map fun c => identifierKey (unquotedIdentifier c.1 true)).Nodup) ∧
    ∀ c ∈ fields, ∀ ty, HiveType.infer c.2 c.1 = .ok ty →
      ty.structNames = objectFieldNames c.1 c.2 ∧
      ∀ s ∈ ty.structNames, ((s.map fun n => identifierKey (escapeIdentifier n false)).Nodup ↔
        (s.map fun n => identifierKey (unquotedIdentifier n false)).Nodup) := by
  refine ⟨columnDefinitions_eq_ok_iff.mp h, by simp only [identifierKey_escapeIdentifier], ?_⟩
  intro c _ ty hty
  refine ⟨structNames_of_inferAt c.1 c.1 c.2 ty hty, fun s _ => ?_⟩
  simp only [identifierKey_escapeIdentifier]

/-- An object whose `content` field is named after its key, beside a field of another name. -/
theorem names_clash_as_unquoted_identifiers_content :
    let fields := [("a", Value.object [("content", .string "x"), ("b", .bool true)])]
    let lines := ["a struct<a:string, b:boolean>"]
    columnDefinitions fields = .ok lines ∧
    ((∃ unsorted, lines = sortTexts unsorted ∧
      List.Forall₂ (fun c line => ∃ ty, HiveType.infer c.2 c.1 = .ok ty ∧
        line = escapeIdentifier c.1 true ++ " " ++ ty.render) fields unsorted) ∧
    ((fields.map fun c => identifierKey (escapeIdentifier c.1 true)).Nodup ↔
      (fields.map fun c => identifierKey (unquotedIdentifier c.1 true)).Nodup) ∧
    ∀ c ∈ fields, ∀ ty, HiveType.infer c.2 c.1 = .ok ty →
      ty.structNames = objectFieldNames c.1 c.2 ∧
      ∀ s ∈ ty.structNames, ((s.map fun n => identifierKey (escapeIdentifier n false)).Nodup ↔
        (s.map fun n => identifierKey (unquotedIdentifier n false)).Nodup)) := by
  intro fields lines
  have hlines : columnDefinitions fields = .ok lines := by
    rw [eq_ok_iff_toOption]
    decide +kernel
  exact ⟨hlines, names_clash_as_unquoted_identifiers hlines⟩

/-- Keys that differ in case only give one column name twice, and so do a `content` field and a
sibling named like the object's key, inside a struct. -/
theorem duplicate_names :
    columnDefinitions [("A", .number "1"), ("a", .number "2")] = .ok ["a int", "a int"] ∧
    columnDefinitions [("t", .object [("content", .number "1"), ("t", .number "2")])] =
      .ok ["t struct<t:int, t:int>"] ∧
    ¬ (["A", "a"].map fun n => identifierKey (escapeIdentifier n true)).Nodup := by
  refine ⟨?_, ?_, ?_⟩
  · rw [columnDefinitions, map_eq_ok]
    refine ⟨["a int", "a int"], ?_, sortTexts_eq_iff.mpr (by decide +kernel)⟩
    rw [eq_ok_iff_toOption]
    decide +kernel
  · rw [eq_ok_iff_toOption]
    decide +kernel
  · decide +kernel

end HiveDdl.Schema
