import HiveDdl.Schema.View
import HiveDdl.Proofs.Sequencing
import HiveDdl.Proofs.Sorting

/-!
# The view reads the table's columns

The table and the view walk the same top-level object apart: a column line escapes its key
(colons to underscores, lowered, quoted when reserved) and types its value, naming struct fields
by escaped keys; a view line only lowers the key and the field it reads. The two agree, key by
key, on the names they share when the key and its object's fields hold no colon and no field is
named `content` (which the struct names after its holder): the key's view lines are then the lines
that its table column yields, read off the column's name and its struct fields
(`columnSelectLines`).

* `inferAt_object`: an object is typed as a struct whose fields carry its keys, `content` renamed.
* `keySelectLines_eq_columnSelectLines`: one key's view lines, from its column.
* `view_agrees_with_table`: every key has its column line, and its view lines come from it.
-/

namespace HiveDdl.Schema

/-! ### Names without colons -/

def ColonFree (key : String) : Value → Prop
  | .object fields => ':' ∉ key.toList ∧ ∀ c ∈ fields, ':' ∉ c.1.toList
  | _ => ':' ∉ key.toList

def NoContentField : Value → Prop
  | .object fields => ∀ c ∈ fields, c.1 ≠ "content"
  | _ => True

theorem colonsToUnderscores_of_colon_free {name : String} (h : ':' ∉ name.toList) :
    colonsToUnderscores name = name := by
  have hmap : name.toList.map (fun c => if c = ':' then '_' else c) = name.toList := by
    refine (List.map_congr_left fun c hc => ?_).trans (List.map_id _)
    have hne : c ≠ ':' := fun hcolon => h (hcolon ▸ hc)
    simp [hne]
  rw [colonsToUnderscores, hmap, String.ofList_toList]

theorem unquotedIdentifier_of_colon_free {name : String} (lowercase : Bool)
    (h : ':' ∉ name.toList) :
    unquotedIdentifier name lowercase = if lowercase then Text.lower name else name := by
  simp [unquotedIdentifier, colonsToUnderscores_of_colon_free h]

/-! ### Struct fields -/

theorem fieldName_of_ne {hint key : String} (h : key ≠ "content") : fieldName hint key = key := by
  simp [fieldName, h]

theorem inferFields_names {hint location : String} {fields : List (String × Value)}
    {typed : List (String × HiveType)} (h : inferFields hint location fields = .ok typed) :
    typed.map (·.1) = fields.map fun c => fieldName hint c.1 := by
  induction fields generalizing typed with
  | nil =>
    rw [inferFields] at h
    cases h
    rfl
  | cons c rest ih =>
    obtain ⟨key, child⟩ := c
    rw [inferFields] at h
    simp only [bind_eq_ok, pure_eq_ok] at h
    obtain ⟨t, -, ts, hts, rfl⟩ := h
    simp [ih hts]

/-- An object is typed as a struct of its keys. -/
theorem inferAt_object {hint location : String} {fields : List (String × Value)} {ty : HiveType}
    (h : inferAt hint location (.object fields) = .ok ty) :
    ∃ typed, ty = .struct typed ∧ typed.map (·.1) = fields.map fun c => fieldName hint c.1 := by
  rw [inferAt] at h
  split at h
  · cases h
  · obtain ⟨typed, htyped, rfl⟩ := map_eq_ok.mp h
    exact ⟨typed, rfl, inferFields_names htyped⟩

theorem object_of_inferAt_struct {hint location : String} {v : Value}
    {typed : List (String × HiveType)} (h : inferAt hint location v = .ok (.struct typed)) :
    ∃ fields, v = .object fields := by
  cases v with
  | object fields => exact ⟨fields, rfl⟩
  | array items =>
    cases items with
    | nil => simp [inferAt] at h
    | cons first rest =>
      rw [inferAt] at h
      obtain ⟨_, -, hty⟩ := map_eq_ok.mp h
      cases hty
  | _ => simp [inferAt] at h

/-! ### One key -/

/-- The view lines a table column yields, from its name and type: a struct column is flattened
one level, reading each field by its lowered unquoted name; any other column is read whole,
aliased with its points turned to underscores. -/
def columnSelectLines (column : String) : HiveType → List String
  | .struct fields =>
    fields.map fun c =>
      let field := Text.lower (unquotedIdentifier c.1 false)
      column ++ "." ++ field ++ " AS " ++ column ++ "_" ++ field
  | _ => [column ++ " AS " ++ pointsToUnderscores column]

theorem keySelectLines_of_not_object {key : String} {v : Value}
    (h : ∀ fields, v ≠ .object fields) :
    keySelectLines key v = [Text.lower key ++ " AS " ++ pointsToUnderscores (Text.lower key)] := by
  cases v <;> simp_all [keySelectLines]

/-- A key's view lines are the lines its table column yields, when no name holds a colon and its
object stores no `content` field. -/
theorem keySelectLines_eq_columnSelectLines {key : String} {v : Value} {ty : HiveType}
    (hty : HiveType.infer v key = .ok ty) (hcontent : NoContentField v)
    (hcolon : ColonFree key v) :
    keySelectLines key v = columnSelectLines (unquotedIdentifier key true) ty := by
  by_cases hobject : ∃ fields, v = .object fields
  · obtain ⟨fields, rfl⟩ := hobject
    obtain ⟨typed, rfl, hnames⟩ := inferAt_object hty
    have hkeys : typed.map (·.1) = fields.map (·.1) :=
      hnames.trans (List.map_congr_left fun c hc => fieldName_of_ne (hcontent c hc))
    have hfield : ∀ n ∈ typed.map (·.1), Text.lower (unquotedIdentifier n false) = Text.lower n := by
      rw [hkeys]
      intro n hn
      obtain ⟨c, hc, rfl⟩ := List.mem_map.mp hn
      simp [unquotedIdentifier_of_colon_free false (hcolon.2 c hc)]
    let line (n : String) : String :=
      Text.lower key ++ "." ++ n ++ " AS " ++ Text.lower key ++ "_" ++ n
    calc keySelectLines key (.object fields)
        = (fields.map (·.1)).map fun n => line (Text.lower n) := by
          simp [keySelectLines, line, List.map_map, Function.comp_def]
      _ = (typed.map (·.1)).map fun n => line (Text.lower (unquotedIdentifier n false)) := by
          rw [← hkeys]
          exact List.map_congr_left fun n hn => by rw [hfield n hn]
      _ = columnSelectLines (unquotedIdentifier key true) (.struct typed) := by
          simp [columnSelectLines, line, List.map_map, Function.comp_def,
            unquotedIdentifier_of_colon_free true hcolon.1]
  · have hnot : ∀ fields, v ≠ .object fields := fun fields h => hobject ⟨fields, h⟩
    have hstruct : ∀ typed, ty ≠ .struct typed := fun typed h =>
      hobject (object_of_inferAt_struct (h ▸ hty))
    have hkey : ':' ∉ key.toList := by
      cases v <;> simp_all [ColonFree]
    rw [keySelectLines_of_not_object hnot, unquotedIdentifier_of_colon_free true hkey]
    cases ty <;> simp_all [columnSelectLines]

/-! ### The whole object -/

theorem columnDefinition_eq_ok {key : String} {v : Value} {line : String} :
    columnDefinition key v = .ok line ↔
      ∃ ty, HiveType.infer v key = .ok ty ∧ line = escapeIdentifier key true ++ " " ++ ty.render := by
  simp only [columnDefinition, renderType, bind_eq_ok, map_eq_ok, pure_eq_ok]
  constructor
  · rintro ⟨t, ⟨ty, hty, rfl⟩, rfl⟩
    exact ⟨ty, hty, rfl⟩
  · rintro ⟨ty, hty, rfl⟩
    exact ⟨_, ⟨ty, hty, rfl⟩, rfl⟩

theorem columnDefinitions_mem {fields : List (String × Value)} {lines : List String}
    (h : columnDefinitions fields = .ok lines) {c : String × Value} (hc : c ∈ fields) :
    ∃ ty, HiveType.infer c.2 c.1 = .ok ty ∧ escapeIdentifier c.1 true ++ " " ++ ty.render ∈ lines := by
  obtain ⟨unsorted, hunsorted, rfl⟩ := map_eq_ok.mp h
  obtain ⟨line, hline, hdefinition⟩ := mapM_ok_mem hunsorted hc
  obtain ⟨ty, hty, rfl⟩ := columnDefinition_eq_ok.mp hdefinition
  exact ⟨ty, hty, (sortTexts_perm unsorted).mem_iff.mpr hline⟩

/-- The view agrees with the table. Up to order the view holds each key's lines; every key has
its column line; and where a key and the fields of its object hold no colon and no field is named
`content`, the key's view lines are those its column yields, so the view reads the column by its
unquoted name and each struct field by its lowered unquoted name. -/
theorem view_agrees_with_table {fields : List (String × Value)} {lines : List String}
    (hlines : columnDefinitions fields = .ok lines) :
    (selectLines fields).Perm (fields.flatMap fun c => keySelectLines c.1 c.2) ∧
    ∀ c ∈ fields, ∃ ty, HiveType.infer c.2 c.1 = .ok ty ∧
      escapeIdentifier c.1 true ++ " " ++ ty.render ∈ lines ∧
      (NoContentField c.2 → ColonFree c.1 c.2 →
        keySelectLines c.1 c.2 = columnSelectLines (unquotedIdentifier c.1 true) ty) := by
  refine ⟨sortTexts_perm _, fun c hc => ?_⟩
  obtain ⟨ty, hty, hmem⟩ := columnDefinitions_mem hlines hc
  exact ⟨ty, hty, hmem, keySelectLines_eq_columnSelectLines hty⟩

/-- A reserved key: its column is quoted, and the view reads it by its unquoted name. -/
theorem view_agrees_with_table_order :
    let fields := [("Order", Value.object [("Id", .number "7"), ("Total", .number "2.5")])]
    let lines := ["`order` struct<Id:int, Total:double>"]
    columnDefinitions fields = .ok lines ∧
    (selectLines fields).Perm (fields.flatMap fun c => keySelectLines c.1 c.2) ∧
    ∀ c ∈ fields, ∃ ty, HiveType.infer c.2 c.1 = .ok ty ∧
      escapeIdentifier c.1 true ++ " " ++ ty.render ∈ lines ∧
      NoContentField c.2 ∧ ColonFree c.1 c.2 ∧
      keySelectLines c.1 c.2 = columnSelectLines (unquotedIdentifier c.1 true) ty := by
  intro fields lines
  have hlines : columnDefinitions fields = .ok lines := by
    rw [eq_ok_iff_toOption]
    decide +kernel
  obtain ⟨hperm, hkeys⟩ := view_agrees_with_table hlines
  refine ⟨hlines, hperm, fun c hc => ?_⟩
  obtain ⟨ty, hty, hmem, hagree⟩ := hkeys c hc
  rw [List.mem_singleton] at hc
  have hcontent : NoContentField c.2 := by
    rw [hc]
    simp only [NoContentField]
    decide +kernel
  have hcolon : ColonFree c.1 c.2 := by
    rw [hc]
    simp only [ColonFree]
    decide +kernel
  exact ⟨ty, hty, hmem, hcontent, hcolon, hagree hcontent hcolon⟩

/-- A key with a colon and a point, holding two fields that differ in case only: the view reads
the column and the fields by names the table does not have, keeps the key's point in the alias,
and gives both lines one alias. -/
theorem view_lines_keep_colons_and_points :
    let fields := [("A:b.c", Value.object [("d:e", .number "1"), ("D:e", .number "2")])]
    columnDefinitions fields = .ok ["a_b.c struct<d_e:int, D_e:int>"] ∧
      selectLines fields = ["a:b.c.d:e AS a:b.c_d:e", "a:b.c.d:e AS a:b.c_d:e"] := by
  intro fields
  constructor
  · rw [eq_ok_iff_toOption]
    decide +kernel
  · rw [selectLines, sortTexts_eq_iff]
    decide +kernel

end HiveDdl.Schema
