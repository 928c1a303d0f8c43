import HiveDdl.Generation
import HiveDdl.Proofs.ColumnWrites

/-!
# The stages of a run

A run goes through its stages in a fixed order: the type paths are parsed, the document is read,
the envelope is opened, each type path writes its column, and the table statement is written
over the projected columns; the view query cannot fail. `generate_eq_ok_iff` says once what a
successful run went through (`Stages.Of`), so that later proofs never unfold `generate`.

* `PathSpec.entryList`, `PathSpec.parse_eq`: type paths are parsed entry by entry
  (`TypePath.parseEntry`), a comma-separated text as the list of its pieces.
* `Stages`, `Stages.Of`, `Stages.projection`: what a successful run read and wrote.
* `generate_eq_ok_iff`: the statements of a successful run, from its stages;
  `generate_eq_ok_of_tableStatement`: once the table is written the run succeeds.
* `Stages.names`, `Stages.column_names`: a run writes the keyed data present, then one column per
  type path; its columns are these names, each at its first write.
* `Stages.properties_of_xml`: under the XML SerDe, one property per write.
* `columnDefinitions_eq_error_iff`, `tableStatement_eq_error_iff`: the table fails at the first
  column, in the order of the projected columns, whose value has no type.
-/

namespace HiveDdl

open Schema

/-! ### Type paths, entry by entry -/

/-- The entries of a specification: the pieces of a comma-separated text, or the listed
entries. -/
def PathSpec.entryList : PathSpec → List Value
  | .text s => (s.splitOn ",").map .string
  | .entries xs => xs

def requireSomePath (paths : List TypePath) : Except PathListError (List TypePath) :=
  if paths.isEmpty then throw (.path ⟨"", .noPaths⟩) else pure paths

theorem mapError_mapM_parse (texts : List String) :
    ((texts.filter (!TypePath.isBlankEntry ·)).mapM TypePath.parse).mapError .path =
      (fun ps => ps.filterMap id) <$> (texts.map .string).mapM TypePath.parseEntry := by
  induction texts with
  | nil => rfl
  | cons t rest ih =>
    by_cases hblank : TypePath.isBlankEntry t
    · simp only [List.filter_cons, hblank, Bool.not_true, Bool.false_eq_true, if_false, ih,
        List.map_cons, List.mapM_cons, TypePath.parseEntry, if_true]
      cases (rest.map Value.string).mapM TypePath.parseEntry <;> rfl
    · simp only [List.filter_cons, hblank, Bool.not_false, if_true, List.map_cons, List.mapM_cons,
        TypePath.parseEntry, Bool.false_eq_true, if_false]
      cases hp : TypePath.parse t with
      | error e => rfl
      | ok p =>
        revert ih
        cases ((rest.filter (!TypePath.isBlankEntry ·)).mapM TypePath.parse) <;>
          cases (rest.map Value.string).mapM TypePath.parseEntry <;>
          simp [Except.mapError, bind, Except.bind, pure, Except.pure, Functor.map, Except.map]


/-- Type paths are parsed entry by entry; a text is read as the list of its comma-separated
pieces. -/
theorem PathSpec.parse_eq (spec : PathSpec) :
    spec.parse = spec.entryList.filterMapM TypePath.parseEntry >>= requireSomePath := by
  cases spec with
  | entries xs => rfl
  | text s =>
    simp only [PathSpec.parse, TypePath.parseText, TypePath.parseAll, PathSpec.entryList,
      filterMapM_eq_map_mapM]
    rw [← mapError_mapM_parse]
    cases ((s.splitOn ",").filter (!TypePath.isBlankEntry ·)).mapM TypePath.parse with
    | error e => rfl
    | ok ps =>
      by_cases h : ps.isEmpty <;>
        simp [h, requireSomePath, Except.mapError, bind, Except.bind, pure, Except.pure, throw,
          throwThe, MonadExceptOf.throw]

/-! ### The table over the projected columns -/

theorem columnDefinitions_eq_error_iff {fields : List (String × Value)} {e : TypeError} :
    columnDefinitions fields = .error e ↔
      FirstFailure (fun c : String × Value => columnDefinition c.1 c.2) fields e := by
  rw [columnDefinitions, map_eq_error, mapM_eq_error_iff]

theorem tableStatement_eq_error_iff {fields : List (String × Value)} {table : String}
    {format : RowFormat} {e : TypeError} :
    tableStatement fields table format = .error e ↔ columnDefinitions fields = .error e := by
  unfold tableStatement
  cases columnDefinitions fields <;> simp [bind, Except.bind, pure, Except.pure]

theorem tableStatement_congr {fields fields' : List (String × Value)} {table : String}
    {format : RowFormat} (h : columnDefinitions fields = columnDefinitions fields') :
    tableStatement fields table format = tableStatement fields' table format := by
  unfold tableStatement
  rw [h]

theorem viewQuery_congr {fields fields' : List (String × Value)} {table : String}
    (h : selectLines fields = selectLines fields') :
    viewQuery fields table = viewQuery fields' table := by
  unfold viewQuery
  rw [h]

/-! ### A successful run -/

/-- What a run reads on its way to the statements: its type paths, the document, the response,
and the columns written by the envelope's keyed data and by the type paths. -/
structure Stages where
  paths : List TypePath
  document : List (String × Value)
  response : Value
  keyed : List ColumnWrite
  selected : List ColumnWrite

/-- The stages of a run over `text` with settings `s`, each of them passing. -/
def Stages.Of (text : String) (s : Settings) (depth : Nat) (t : Stages) : Prop :=
  s.typePaths.parse = .ok t.paths ∧ readDocument s.format text (depth + 1) = .ok t.document ∧
    envelopeWrites t.document s.skipEnvelope defaultKeyedData = .ok (t.response, t.keyed) ∧
    t.paths.mapM (TypePath.write t.response) = .ok t.selected

def Stages.writes (t : Stages) : List ColumnWrite := t.keyed ++ t.selected

/-- The column names a run writes, in write order: the keyed data present, then one name per
type path. -/
def Stages.names (t : Stages) : List String :=
  t.keyed.map (·.name) ++ t.paths.map TypePath.columnName

/-- The projection a run builds from its writes. -/
def Stages.projection (t : Stages) (s : Settings) : Projection :=
  t.writes.foldl (Projection.record (s.format == .xml) s.skipEnvelope) ⟨[], []⟩

/-- A run succeeds exactly when its stages pass and the table is written over the projected
columns; the view and the column names follow from the columns. -/
theorem generate_eq_ok_iff {text : String} {s : Settings} {depth : Nat} {d : Ddl} :
    generate text s depth = .ok d ↔ ∃ t : Stages, t.Of text s depth ∧
      tableStatement (t.projection s).columns s.tableName
        (rowFormat s (t.projection s).properties) = .ok d.schema ∧
      d.query = viewQuery (t.projection s).columns s.tableName ∧
      d.columns = (t.projection s).columns.map (·.1) := by
  unfold generate
  simp only [bind_eq_ok, mapError_eq_ok, project_eq, map_eq_ok, pure_eq_ok]
  constructor
  · rintro ⟨paths, hpaths, document, hdocument, _, ⟨⟨response, keyed⟩, henvelope, selected,
      hselected, rfl⟩, schema, hschema, rfl⟩
    exact ⟨⟨paths, document, response, keyed, selected⟩, ⟨hpaths, hdocument, henvelope, hselected⟩,
      hschema, rfl, rfl⟩
  · rintro ⟨⟨paths, document, response, keyed, selected⟩,
      ⟨hpaths, hdocument, henvelope, hselected⟩, hschema, hquery, hcolumns⟩
    refine ⟨paths, hpaths, document, hdocument, _, ⟨(response, keyed), henvelope, selected,
      hselected, rfl⟩, d.schema, hschema, ?_⟩
    cases d
    simp_all [Stages.projection, Stages.writes]

variable {text : String} {s : Settings} {depth : Nat} {t : Stages}

theorem Stages.Of.eq {t₀ : Stages} (h : t.Of text s depth) (h₀ : t₀.Of text s depth) :
    t = t₀ := by
  obtain ⟨hpaths, hdocument, henvelope, hselected⟩ := h
  obtain ⟨hpaths₀, hdocument₀, henvelope₀, hselected₀⟩ := h₀
  have hp := Except.ok.inj (hpaths.symm.trans hpaths₀)
  have hd := Except.ok.inj (hdocument.symm.trans hdocument₀)
  rw [hd] at henvelope
  obtain ⟨hr, hk⟩ := Prod.mk.inj (Except.ok.inj (henvelope.symm.trans henvelope₀))
  rw [hp, hr] at hselected
  have hs := Except.ok.inj (hselected.symm.trans hselected₀)
  cases t
  cases t₀
  simp only [Stages.mk.injEq]
  exact ⟨hp, hd, hr, hk, hs⟩

/-- Once the table is written the run succeeds: the view query cannot fail. -/
theorem generate_eq_ok_of_tableStatement (hstages : t.Of text s depth)
    {schema : String}
    (htable : tableStatement (t.projection s).columns s.tableName
      (rowFormat s (t.projection s).properties) = .ok schema) :
    generate text s depth = .ok ⟨schema, viewQuery (t.projection s).columns s.tableName,
      (t.projection s).columns.map (·.1)⟩ :=
  generate_eq_ok_iff.mpr ⟨t, hstages, htable, rfl, rfl⟩

/-! ### What a run writes -/

theorem envelopeWrites_shape {document : List (String × Value)} {skipEnvelope : Bool}
    {keyedData : List String} {response : Value} {keyed : List ColumnWrite}
    (h : envelopeWrites document skipEnvelope keyedData = .ok (response, keyed)) :
    ∀ w ∈ keyed, w.shape ≠ .map := by
  unfold envelopeWrites at h
  split at h
  · obtain ⟨_, -, hpair⟩ := map_eq_ok.mp h
    cases hpair
    simp
  · obtain ⟨envelope, -, h⟩ := bind_eq_ok.mp h
    obtain ⟨_, -, hpair⟩ := bind_eq_ok.mp h
    cases pure_eq_ok.mp hpair
    exact fun w hw => shape_ne_map_of_mem_keyedWrites hw

theorem Stages.write_names (hstages : t.Of text s depth) : t.writes.map (·.name) = t.names := by
  obtain ⟨-, -, -, hselected⟩ := hstages
  have hselectedNames : t.selected.map (·.name) = t.paths.map TypePath.columnName :=
    map_of_mapM_eq_ok (fun _ _ hw => (TypePath.write_eq_ok hw).1) hselected
  rw [Stages.writes, List.map_append, hselectedNames, Stages.names]

theorem Stages.writes_shape (hstages : t.Of text s depth) : ∀ w ∈ t.writes, w.shape ≠ .map := by
  obtain ⟨-, -, henvelope, hselected⟩ := hstages
  intro w hw
  rcases List.mem_append.mp hw with hkeyed | hpath
  · exact envelopeWrites_shape henvelope w hkeyed
  · obtain ⟨p, -, hp⟩ := exists_of_mem_mapM_ok hselected hpath
    exact (TypePath.write_eq_ok hp).2

/-- Under the XML SerDe a run records the property of each write, in write order. -/
theorem Stages.properties_of_xml (hxml : s.format = .xml) :
    (t.projection s).properties = t.writes.filterMap (·.property s.skipEnvelope) := by
  have hkeep : (s.format == .xml) = true := by simp [hxml]
  rw [Stages.projection, properties_foldl_record, hkeep, if_pos rfl, List.nil_append]

/-- The columns of a run are the names it writes, each at its first write: the keyed data
present, then one name per type path. -/
theorem Stages.column_names (hstages : t.Of text s depth) :
    (t.projection s).columns.map (·.1) = t.names.eraseDups := by
  have hkeys : (setColumns [] t.writes).map (·.1) =
      (([] : List (String × Value)).map (·.1) ++ t.writes.map (·.name)).eraseDups :=
    keys_setColumns List.nodup_nil
  rw [Stages.projection, columns_foldl_record]
  change (setColumns [] t.writes).map (·.1) = _
  rw [hkeys, List.map_nil, List.nil_append, Stages.write_names hstages]

end HiveDdl
