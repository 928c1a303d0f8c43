import HiveDdl.Proofs.Stages
import HiveDdl.Proofs.Sorting

/-!
# The order of the type paths

A run reads its type path entries one by one: an entry that is not blank names a path, and each
path writes one column below the response (`entryWrite`). Reordering the entries reorders these
writes and nothing else. When any two writes of one column name write the same value, the
projected columns are only reordered as well, and the table and the view, which sort their
lines, do not see the order: the runs succeed or fail alike, their views and column lines are
the same, the XPath properties of the paths come in the order of the entries, and so do the
column names the paths add. When two paths write one name with different values the later one
wins, and the order shows.

* `entryWrite`, `Stages.writes_eq`: the writes of a run, entry by entry.
* `Stages.entryNames`, `Stages.entryProperties`: the column names and XPath properties those
  writes give, in entry order.
* `Settings.Reorders`, `Stages.Of.reorder`: reordered entries pass the same stages.
* `Stages.columns_perm`: agreeing writes project reordered columns.
* `generate_ignores_path_order`: runs over reordered entries.
-/

namespace HiveDdl

open Schema

variable {text : String} {s s' : Settings} {depth : Nat} {t t' : Stages}

/-! ### A run, entry by entry -/

/-- The column an entry writes below a response; none for a blank entry. -/
def entryWrite (response x : Value) : Option ColumnWrite :=
  match TypePath.parseEntry x with
  | .ok (some p) => (p.write response).toOption
  | _ => none

/-- The column names a run writes over `entries`: the keyed data present, then the name of each
entry's column, in entry order. -/
def Stages.entryNames (t : Stages) (entries : List Value) : List String :=
  t.keyed.map (·.name) ++ entries.filterMap fun x => (entryWrite t.response x).map (·.name)

/-- The XPath properties a run records over `entries` under the XML SerDe: those of the keyed
data present, then that of each entry's column, in entry order. -/
def Stages.entryProperties (t : Stages) (skipEnvelope : Bool) (entries : List Value) :
    List XPathProperty :=
  t.keyed.filterMap (·.property skipEnvelope) ++
    entries.filterMap fun x => (entryWrite t.response x).bind (·.property skipEnvelope)

theorem requireSomePath_eq_ok {paths paths' : List TypePath} :
    requireSomePath paths = .ok paths' ↔ paths ≠ [] ∧ paths' = paths := by
  unfold requireSomePath
  by_cases hempty : paths.isEmpty
  · simp [List.isEmpty_iff.mp hempty, throw, throwThe, MonadExceptOf.throw]
  · have hne : paths ≠ [] := fun h => hempty (List.isEmpty_iff.mpr h)
    simp [hempty, hne, pure, Except.pure, eq_comm]

theorem PathSpec.parse_eq_filterMap {spec : PathSpec} {paths : List TypePath}
    (h : spec.parse = .ok paths) :
    paths = spec.entryList.filterMap fun x => (TypePath.parseEntry x).toOption.join := by
  rw [PathSpec.parse_eq] at h
  obtain ⟨kept, hkept, hrequire⟩ := bind_eq_ok.mp h
  rw [(requireSomePath_eq_ok.mp hrequire).2]
  exact filterMapM_eq_ok_filterMap hkept

/-- A run writes the keyed data present, then the column of each entry, in entry order. -/
theorem Stages.writes_eq (hstages : t.Of text s depth) :
    t.writes = t.keyed ++ s.typePaths.entryList.filterMap (entryWrite t.response) := by
  obtain ⟨hpaths, -, -, hselected⟩ := hstages
  have hentry : ∀ x, ((TypePath.parseEntry x).toOption.join).bind
      (fun p => (p.write t.response).toOption) = entryWrite t.response x := by
    intro x
    unfold entryWrite
    cases TypePath.parseEntry x with
    | error e => rfl
    | ok path => cases path <;> rfl
  rw [Stages.writes, mapM_eq_ok_filterMap hselected, PathSpec.parse_eq_filterMap hpaths,
    List.filterMap_filterMap]
  simp only [hentry]

/-! ### Reordered entries -/

/-- Settings that differ at most in the order of their type path entries. -/
def Settings.Reorders (s' s : Settings) : Prop :=
  s'.format = s.format ∧ s'.tableName = s.tableName ∧ s'.skipEnvelope = s.skipEnvelope ∧
    s'.typePaths.entryList.Perm s.typePaths.entryList

theorem Settings.Reorders.symm (h : s'.Reorders s) : s.Reorders s' :=
  ⟨h.1.symm, h.2.1.symm, h.2.2.1.symm, h.2.2.2.symm⟩

theorem Settings.reorders_typePaths {spec : PathSpec}
    (h : spec.entryList.Perm s.typePaths.entryList) :
    ({ s with typePaths := spec } : Settings).Reorders s :=
  ⟨rfl, rfl, rfl, h⟩

theorem PathSpec.parse_perm {spec spec' : PathSpec} {paths : List TypePath}
    (hperm : spec'.entryList.Perm spec.entryList) (h : spec.parse = .ok paths) :
    ∃ paths', spec'.parse = .ok paths' ∧ paths'.Perm paths := by
  rw [PathSpec.parse_eq] at h ⊢
  obtain ⟨kept, hkept, hrequire⟩ := bind_eq_ok.mp h
  obtain ⟨hne, rfl⟩ := requireSomePath_eq_ok.mp hrequire
  rw [filterMapM_eq_map_mapM] at hkept ⊢
  obtain ⟨results, hresults, rfl⟩ := map_eq_ok.mp hkept
  obtain ⟨results', hresults', hperm'⟩ := mapM_ok_of_perm hperm.symm hresults
  have hkeptPerm : (results'.filterMap id).Perm (results.filterMap id) := hperm'.filterMap id
  have hne' : results'.filterMap id ≠ [] := fun h => hne (List.Perm.nil_eq (h ▸ hkeptPerm)).symm
  refine ⟨results'.filterMap id, bind_eq_ok.mpr ⟨_, map_eq_ok.mpr ⟨results', hresults', rfl⟩, ?_⟩,
    hkeptPerm⟩
  exact requireSomePath_eq_ok.mpr ⟨hne', rfl⟩

/-- Reordered entries pass the same stages, over the same document, response and keyed data. -/
theorem Stages.Of.reorder (hstages : t.Of text s depth) (hre : s'.Reorders s) :
    ∃ t' : Stages, t'.Of text s' depth ∧ t'.response = t.response ∧ t'.keyed = t.keyed := by
  obtain ⟨hformat, -, hskip, hperm⟩ := hre
  obtain ⟨hpaths, hdocument, henvelope, hselected⟩ := hstages
  obtain ⟨paths', hpaths', hpathsPerm⟩ := PathSpec.parse_perm hperm hpaths
  obtain ⟨selected', hselected', -⟩ := mapM_ok_of_perm hpathsPerm.symm hselected
  refine ⟨⟨paths', t.document, t.response, t.keyed, selected'⟩, ⟨hpaths', ?_, ?_, hselected'⟩,
    rfl, rfl⟩
  · rw [hformat]
    exact hdocument
  · rw [hskip]
    exact henvelope

theorem Stages.Of.envelope_eq (hstages : t.Of text s depth) (hstages' : t'.Of text s' depth)
    (hre : s'.Reorders s) : t'.response = t.response ∧ t'.keyed = t.keyed := by
  obtain ⟨hformat, -, hskip, -⟩ := hre
  obtain ⟨-, hdocument, henvelope, -⟩ := hstages
  obtain ⟨-, hdocument', henvelope', -⟩ := hstages'
  rw [hformat, hdocument] at hdocument'
  rw [hskip, ← Except.ok.inj hdocument', henvelope] at henvelope'
  obtain ⟨hresponse, hkeyed⟩ := Prod.mk.inj (Except.ok.inj henvelope')
  exact ⟨hresponse.symm, hkeyed.symm⟩

theorem Stages.writes_perm (hstages : t.Of text s depth) (hstages' : t'.Of text s' depth)
    (hre : s'.Reorders s) : t'.writes.Perm t.writes := by
  obtain ⟨hresponse, hkeyed⟩ := hstages.envelope_eq hstages' hre
  rw [Stages.writes_eq hstages, Stages.writes_eq hstages', hresponse, hkeyed]
  exact (hre.2.2.2.filterMap _).append_left t.keyed

/-! ### Agreeing writes -/

theorem WritesAgree.perm {ws ws' : List ColumnWrite} (hperm : ws.Perm ws') (hagree : WritesAgree ws) :
    WritesAgree ws' :=
  fun w hw w' hw' => hagree w (hperm.mem_iff.mpr hw) w' (hperm.mem_iff.mpr hw')

theorem WritesAgree.of_nodup {ws : List ColumnWrite} (h : (ws.map (·.name)).Nodup) :
    WritesAgree ws := by
  intro w hw w' hw' hname
  have hsame : w = w' := List.inj_on_of_nodup_map h hw hw' hname
  rw [hsame]

theorem Stages.writesAgree_of_nodup (hstages : t.Of text s depth) (h : t.names.Nodup) :
    WritesAgree t.writes := by
  rw [← Stages.write_names hstages] at h
  exact WritesAgree.of_nodup h

theorem writesAgree_reorder (hre : s'.Reorders s)
    (hagree : ∀ t : Stages, t.Of text s depth → WritesAgree t.writes) :
    ∀ t' : Stages, t'.Of text s' depth → WritesAgree t'.writes := by
  intro t' hstages'
  obtain ⟨t, hstages, -⟩ := hstages'.reorder hre.symm
  exact (hagree t hstages).perm (Stages.writes_perm hstages' hstages hre.symm)

/-- Agreeing writes over reordered entries project reordered columns. -/
theorem Stages.columns_perm (hstages : t.Of text s depth) (hstages' : t'.Of text s' depth)
    (hre : s'.Reorders s) (hagree : WritesAgree t.writes) :
    (t.projection s).columns.Perm (t'.projection s').columns := by
  rw [Stages.projection, Stages.projection, columns_foldl_record, columns_foldl_record]
  exact setColumns_perm (Stages.writes_perm hstages hstages' hre).symm hagree List.nodup_nil

/-! ### The table and the view over reordered columns -/

theorem columnDefinitions_ok_of_perm {fields fields' : List (String × Value)} {lines : List String}
    (hperm : fields.Perm fields') (h : columnDefinitions fields = .ok lines) :
    columnDefinitions fields' = .ok lines := by
  obtain ⟨unsorted, hunsorted, rfl⟩ := map_eq_ok.mp h
  obtain ⟨unsorted', hunsorted', hperm'⟩ := mapM_ok_of_perm hperm hunsorted
  exact map_eq_ok.mpr ⟨unsorted', hunsorted', sortTexts_eq_of_perm hperm'⟩

theorem selectLines_eq_of_perm {fields fields' : List (String × Value)} (hperm : fields.Perm fields') :
    selectLines fields = selectLines fields' :=
  sortTexts_eq_of_perm (hperm.flatMap_right _)

theorem columnDefinitions_of_tableStatement {fields : List (String × Value)} {table : String}
    {format : RowFormat} {schema : String} (h : tableStatement fields table format = .ok schema) :
    ∃ lines, columnDefinitions fields = .ok lines := by
  unfold tableStatement at h
  obtain ⟨lines, hlines, -⟩ := bind_eq_ok.mp h
  exact ⟨lines, hlines⟩

theorem tableStatement_of_columnDefinitions {fields : List (String × Value)} {lines : List String}
    (table : String) (format : RowFormat) (h : columnDefinitions fields = .ok lines) :
    ∃ schema, tableStatement fields table format = .ok schema := by
  unfold tableStatement
  rw [h]
  exact ⟨_, rfl⟩

theorem rowFormat_reorder {properties : List XPathProperty} (hre : s'.Reorders s) :
    rowFormat s' properties = rowFormat s properties := by
  obtain ⟨hformat, -, hskip, -⟩ := hre
  unfold rowFormat
  rw [hformat, hskip]

/-! ### Runs over reordered entries -/

theorem Stages.properties_eq (hstages : t.Of text s depth) (hxml : s.format = .xml) :
    (t.projection s).properties = t.entryProperties s.skipEnvelope s.typePaths.entryList := by
  rw [Stages.properties_of_xml hxml, Stages.writes_eq hstages, List.filterMap_append,
    List.filterMap_filterMap]
  rfl

theorem Stages.names_eq (hstages : t.Of text s depth) :
    t.names = t.entryNames s.typePaths.entryList := by
  rw [← Stages.write_names hstages, Stages.writes_eq hstages, List.map_append, List.map_filterMap]
  rfl

theorem generate_ok_reorder (hre : s'.Reorders s)
    (hagree : ∀ t : Stages, t.Of text s depth → WritesAgree t.writes) {d : Ddl}
    (hrun : generate text s depth = .ok d) : ∃ d', generate text s' depth = .ok d' := by
  obtain ⟨t, hstages, hschema, -, -⟩ := generate_eq_ok_iff.mp hrun
  obtain ⟨t', hstages', -⟩ := hstages.reorder hre
  obtain ⟨lines, hlines⟩ := columnDefinitions_of_tableStatement hschema
  have hlines' : columnDefinitions (t'.projection s').columns = .ok lines :=
    columnDefinitions_ok_of_perm (Stages.columns_perm hstages hstages' hre (hagree t hstages)) hlines
  obtain ⟨schema', hschema'⟩ :=
    tableStatement_of_columnDefinitions s'.tableName (rowFormat s' (t'.projection s').properties)
      hlines'
  exact ⟨_, generate_eq_ok_of_tableStatement hstages' hschema'⟩

theorem generate_reorder_statements (hre : s'.Reorders s) (hstages : t.Of text s depth)
    (hagree : WritesAgree t.writes) {d d' : Ddl}
    (hrun : generate text s depth = .ok d) (hrun' : generate text s' depth = .ok d') :
    d'.query = d.query ∧
    (s.format = .json → d'.schema = d.schema) ∧
    (s.format = .xml →
      tableStatement (t.projection s).columns s.tableName
        (rowFormat s (t.entryProperties s.skipEnvelope s.typePaths.entryList)) = .ok d.schema ∧
      tableStatement (t.projection s).columns s.tableName
        (rowFormat s (t.entryProperties s.skipEnvelope s'.typePaths.entryList)) =
          .ok d'.schema) ∧
    d.columns = (t.entryNames s.typePaths.entryList).eraseDups ∧
    d'.columns = (t.entryNames s'.typePaths.entryList).eraseDups := by
  obtain ⟨hformat, htable, hskip, -⟩ := id hre
  obtain ⟨t₀, hstages₀, hschema, hquery, hcolumns⟩ := generate_eq_ok_iff.mp hrun
  obtain rfl := hstages.eq hstages₀
  obtain ⟨t', hstages', hschema', hquery', hcolumns'⟩ := generate_eq_ok_iff.mp hrun'
  obtain ⟨hresponse, hkeyed⟩ := hstages.envelope_eq hstages' hre
  have hcolumnsPerm := Stages.columns_perm hstages hstages' hre hagree
  -- the reordered columns have the same lines, so both tables are written over `t`'s columns
  obtain ⟨lines, hlines⟩ := columnDefinitions_of_tableStatement hschema
  have hsame : columnDefinitions (t'.projection s').columns =
      columnDefinitions (t.projection s).columns := by
    rw [hlines]
    exact columnDefinitions_ok_of_perm hcolumnsPerm hlines
  rw [tableStatement_congr hsame, htable, rowFormat_reorder hre] at hschema'
  have hnames : t'.entryNames = t.entryNames := by
    unfold Stages.entryNames
    rw [hresponse, hkeyed]
  have hproperties : t'.entryProperties = t.entryProperties := by
    unfold Stages.entryProperties
    rw [hresponse, hkeyed]
  refine ⟨?_, ?_, ?_, ?_, ?_⟩
  · rw [hquery', hquery, htable]
    exact viewQuery_congr (selectLines_eq_of_perm hcolumnsPerm).symm
  · intro hjson
    have hrow : ∀ properties, rowFormat s properties = .json := by
      simp [rowFormat, hjson]
    rw [hrow] at hschema hschema'
    exact Except.ok.inj (hschema'.symm.trans hschema)
  · intro hxml
    rw [Stages.properties_eq hstages hxml] at hschema
    rw [Stages.properties_eq hstages' (hformat.trans hxml), hproperties, hskip] at hschema'
    exact ⟨hschema, hschema'⟩
  · rw [hcolumns, Stages.column_names hstages, Stages.names_eq hstages]
  · rw [hcolumns', Stages.column_names hstages', Stages.names_eq hstages', hnames]

/-- The statements of a run do not depend on the order of its type path entries, as long as no
column name is written twice with different values: over reordered entries a run succeeds or
fails alike; when both succeed the views are the same, the tables are the same but for the XPath
properties of the entries, which follow the entries' order, and the column names the entries add
follow the entries' order. -/
theorem generate_ignores_path_order {spec : PathSpec}
    (hperm : spec.entryList.Perm s.typePaths.entryList)
    (hagree : ∀ t : Stages, t.Of text s depth → WritesAgree t.writes) :
    ((∃ d, generate text s depth = .ok d) ↔
      ∃ d', generate text { s with typePaths := spec } depth = .ok d') ∧
    ∀ d d', generate text s depth = .ok d →
      generate text { s with typePaths := spec } depth = .ok d' →
      ∀ t : Stages, t.Of text s depth →
      d'.query = d.query ∧
      (s.format = .json → d'.schema = d.schema) ∧
      (s.format = .xml →
        tableStatement (t.projection s).columns s.tableName
          (rowFormat s (t.entryProperties s.skipEnvelope s.typePaths.entryList)) = .ok d.schema ∧
        tableStatement (t.projection s).columns s.tableName
          (rowFormat s (t.entryProperties s.skipEnvelope spec.entryList)) = .ok d'.schema) ∧
      d.columns = (t.entryNames s.typePaths.entryList).eraseDups ∧
      d'.columns = (t.entryNames spec.entryList).eraseDups := by
  have hre : ({ s with typePaths := spec } : Settings).Reorders s :=
    Settings.reorders_typePaths hperm
  refine ⟨⟨?_, ?_⟩, fun d d' hrun hrun' t hstages =>
    generate_reorder_statements hre hstages (hagree t hstages) hrun hrun'⟩
  · rintro ⟨d, hrun⟩
    exact generate_ok_reorder hre hagree hrun
  · rintro ⟨d', hrun'⟩
    exact generate_ok_reorder hre.symm (writesAgree_reorder hre hagree) hrun'

/-- Two paths of different names, swapped. -/
theorem generate_ignores_path_order_swap :
    let text := "\x7b\"Response\": \x7b\"a\": 1, \"b\": \"x\"\x7d\x7d"
    let s : Settings := ⟨.json, "hive_table", true, .entries [.string "/a", .string "/b"]⟩
    let spec : PathSpec := .entries [.string "/b", .string "/a"]
    spec.entryList.Perm s.typePaths.entryList ∧
    (∀ t : Stages, t.Of text s 0 → WritesAgree t.writes) ∧
    (((∃ d, generate text s 0 = .ok d) ↔
      ∃ d', generate text { s with typePaths := spec } 0 = .ok d') ∧
    ∀ d d', generate text s 0 = .ok d →
      generate text { s with typePaths := spec } 0 = .ok d' →
      ∀ t : Stages, t.Of text s 0 →
      d'.query = d.query ∧
      (s.format = .json → d'.schema = d.schema) ∧
      (s.format = .xml →
        tableStatement (t.projection s).columns s.tableName
          (rowFormat s (t.entryProperties s.skipEnvelope s.typePaths.entryList)) = .ok d.schema ∧
        tableStatement (t.projection s).columns s.tableName
          (rowFormat s (t.entryProperties s.skipEnvelope spec.entryList)) = .ok d'.schema) ∧
      d.columns = (t.entryNames s.typePaths.entryList).eraseDups ∧
      d'.columns = (t.entryNames spec.entryList).eraseDups) := by
  intro text s spec
  have hperm : spec.entryList.Perm s.typePaths.entryList := List.Perm.swap _ _ _
  have hagree : ∀ t : Stages, t.Of text s 0 → WritesAgree t.writes := by
    intro t hstages
    apply Stages.writesAgree_of_nodup hstages
    obtain ⟨hpaths, -, henvelope, -⟩ := hstages
    have hkeyed : t.keyed = [] := by
      obtain ⟨_, -, hpair⟩ := map_eq_ok.mp henvelope
      exact (Prod.mk.inj hpair).2.symm
    have hparsed : s.typePaths.parse = .ok [⟨"/a", ["a"], none⟩, ⟨"/b", ["b"], none⟩] := by
      rw [eq_ok_iff_toOption]
      decide +kernel
    rw [hparsed] at hpaths
    rw [Stages.names, hkeyed, ← Except.ok.inj hpaths]
    decide +kernel
  exact ⟨hperm, hagree, generate_ignores_path_order hperm hagree⟩

/-- Two paths that write one column with different values: the later one wins, so the table
depends on their order. -/
theorem generate_depends_on_path_order :
    generate "\x7b\"KeyedResponse\": \x7b\"Response\": \x7b\"a\": \x7b\"b\": 1\x7d, \"a_b\": \"x\"\x7d\x7d\x7d"
        ⟨.json, "hive_table", false, .entries [.string "/a/b", .string "/a_b"]⟩ 0 =
      .ok ⟨"CREATE EXTERNAL TABLE hive_table (\n\ta_b string\n)\n" ++
          "COMMENT 'Auto Generated Schema, Put Table description here'\n" ++
          "PARTITIONED BY (CYCLE_NUMBER INT)\n" ++
          "ROW FORMAT SERDE 'org.apache.hive.hcatalog.data.JsonSerDe';",
        "CREATE VIEW view_name AS SELECT\n\ta_b AS a_b\nFROM hive_table\n", ["a_b"]⟩ ∧
    generate "\x7b\"KeyedResponse\": \x7b\"Response\": \x7b\"a\": \x7b\"b\": 1\x7d, \"a_b\": \"x\"\x7d\x7d\x7d"
        ⟨.json, "hive_table", false, .entries [.string "/a_b", .string "/a/b"]⟩ 0 =
      .ok ⟨"CREATE EXTERNAL TABLE hive_table (\n\ta_b int\n)\n" ++
          "COMMENT 'Auto Generated Schema, Put Table description here'\n" ++
          "PARTITIONED BY (CYCLE_NUMBER INT)\n" ++
          "ROW FORMAT SERDE 'org.apache.hive.hcatalog.data.JsonSerDe';",
        "CREATE VIEW view_name AS SELECT\n\ta_b AS a_b\nFROM hive_table\n", ["a_b"]⟩ := by
  constructor
  · rw [eq_ok_iff_toOption]
    decide +kernel
  · rw [eq_ok_iff_toOption]
    decide +kernel

end HiveDdl
