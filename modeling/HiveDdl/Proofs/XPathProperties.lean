import HiveDdl.Proofs.Stages
import HiveDdl.Proofs.ViewColumns

/-!
# The XPath properties of an XML run

Under the XML SerDe every column write records one XPath property, named by the written name
lowered, while the table keeps one column per name, at its first write. The properties follow
the writes, not the columns: a name written twice has two properties, and a name with a colon
keeps it in its property while its column identifier turns it into an underscore. When no name
is written twice and none holds a colon, there is exactly one property per column, in column
order, named by the column's unquoted identifier.

* `Stages.property_names`: one property per write, in write order, named by the lowered name.
* `xpathProperties_follow_writes`: the SerDe properties of a successful XML run.
-/

namespace HiveDdl

open Schema

variable {text : String} {s : Settings} {depth : Nat} {t : Stages}

theorem rowFormat_of_xml {properties : List XPathProperty} (hxml : s.format = .xml) :
    rowFormat s properties =
      .xml properties (if s.skipEnvelope then "Response" else "KeyedResponse") := by
  simp [rowFormat, hxml]

/-- Under the XML SerDe a run records one property per write, named by the lowered name. -/
theorem Stages.property_names (hstages : t.Of text s depth) (hxml : s.format = .xml) :
    (t.projection s).properties.map (·.name) = t.names.map Text.lower := by
  rw [Stages.properties_of_xml hxml, names_filterMap_property (Stages.writes_shape hstages),
    ← Stages.write_names hstages, List.map_map]
  rfl

/-- The SerDe block of a successful XML run holds one property per column write, in write
order, named by the written name lowered; the columns are the written names, each at its first
write. When no name is written twice and none holds a colon, the properties name the columns
one for one, in order, by their unquoted identifiers. -/
theorem xpathProperties_follow_writes {d : Ddl} (hxml : s.format = .xml)
    (hrun : generate text s depth = .ok d) :
    ∃ t : Stages, t.Of text s depth ∧
      tableStatement (t.projection s).columns s.tableName
        (.xml (t.projection s).properties
          (if s.skipEnvelope then "Response" else "KeyedResponse")) = .ok d.schema ∧
      (t.projection s).properties.map (·.name) = t.names.map Text.lower ∧
      d.columns = t.names.eraseDups ∧
      (t.names.Nodup → (∀ k ∈ d.columns, ':' ∉ k.toList) →
        (t.projection s).properties.map (·.name) = d.columns.map (unquotedIdentifier · true)) := by
  obtain ⟨t, hstages, hschema, -, hcolumns⟩ := generate_eq_ok_iff.mp hrun
  rw [rowFormat_of_xml hxml] at hschema
  have hnames : d.columns = t.names.eraseDups := hcolumns.trans (Stages.column_names hstages)
  refine ⟨t, hstages, hschema, Stages.property_names hstages hxml, hnames, ?_⟩
  intro hnodup hcolon
  -- with no repeated name the columns are the written names themselves
  rw [hnames, eraseDups_of_nodup hnodup] at hcolon ⊢
  rw [Stages.property_names hstages hxml]
  refine List.map_congr_left fun k hk => ?_
  simp [unquotedIdentifier_of_colon_free true (hcolon k hk)]

/-- The whole response under the keyed envelope: one column, one property. -/
theorem xpathProperties_follow_writes_response :
    let text := "<KeyedResponse><Response><a>1</a></Response></KeyedResponse>"
    let s : Settings := ⟨.xml, "hive_table", false, .entries [.string "Response"]⟩
    s.format = .xml ∧ ∃ d, generate text s 0 = .ok d ∧
    ∃ t : Stages, t.Of text s 0 ∧
      tableStatement (t.projection s).columns s.tableName
        (.xml (t.projection s).properties
          (if s.skipEnvelope then "Response" else "KeyedResponse")) = .ok d.schema ∧
      (t.projection s).properties.map (·.name) = t.names.map Text.lower ∧
      d.columns = t.names.eraseDups ∧
      (t.names.Nodup → (∀ k ∈ d.columns, ':' ∉ k.toList) →
        (t.projection s).properties.map (·.name) = d.columns.map (unquotedIdentifier · true)) := by
  intro text s
  have hok : (generate text s 0).isOk = true := by decide +kernel
  obtain ⟨d, hrun⟩ := exists_eq_ok_of_isOk hok
  exact ⟨rfl, d, hrun, xpathProperties_follow_writes rfl hrun⟩

/-- A path with a colon, listed twice: one column, with its colon turned to an underscore, and
two properties that keep the colon. -/
theorem xpathProperties_repeat_and_keep_colons :
    generate "<KeyedResponse><Response><n:b>1</n:b></Response></KeyedResponse>"
      ⟨.xml, "hive_table", false, .entries [.string "/n:b", .string "/n:b"]⟩ 0 =
    .ok ⟨"CREATE EXTERNAL TABLE hive_table (\n\tn_b int\n)\n" ++
        "COMMENT 'Auto Generated Schema, Put Table description here'\n" ++
        "PARTITIONED BY (CYCLE_NUMBER INT)\n" ++
        "ROW FORMAT SERDE 'com.ibm.spss.hive.serde2.xml.XmlSerDe'\n" ++
        "WITH SERDEPROPERTIES (\n" ++
        "\t\"column.xpath.n:b\"=\"/KeyedResponse/Response/n:b/text()\"\n" ++
        "\t,\"column.xpath.n:b\"=\"/KeyedResponse/Response/n:b/text()\"\n)\n" ++
        "STORED AS\nINPUTFORMAT 'com.ibm.spss.hive.serde2.xml.XmlInputFormat'\n" ++
        "OUTPUTFORMAT 'org.apache.hadoop.hive.ql.io.IgnoreKeyTextOutputFormat'\n" ++
        "TBLPROPERTIES (\n\t\"xmlinput.start\"=\"<KeyedResponse\",\n" ++
        "\t\"xmlinput.end\"=\"</KeyedResponse>\"\n);",
      "CREATE VIEW view_name AS SELECT\n\tn:b AS n:b\nFROM hive_table\n", ["n:b"]⟩ := by
  rw [eq_ok_iff_toOption]
  decide +kernel

end HiveDdl
