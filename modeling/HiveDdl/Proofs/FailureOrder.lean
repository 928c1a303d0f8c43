import HiveDdl.Proofs.Stages
import HiveDdl.Proofs.PointerPaths
import HiveDdl.Proofs.PathText

/-!
# Which failure a run reports

A run that fails reports the failure of its earliest failing stage, and inside a stage the
failure of its first failing item:

1. the type path entries, in list order; a list with no path at all fails last;
2. the document;
3. the envelope: `KeyedResponse`, then `KeyedResponse/Response` (or `Response` alone when the
   envelope is skipped);
4. the type paths' columns, in list order: a segment that leads nowhere, a filtered path that
   is no array or has no match, or an array index too long to be read as an integer, which is
   not a path error (`overlong_index_fails_as_integer`);
5. the column lines, in the order the columns were projected (not the sorted order of the
   table).

The view query never fails, so a run whose table is written succeeds; and the column names of a
successful run are the projected names, each at its first write.

* `PathSpec.Refuses`, `MissingEnvelope`, `RunFailure`: the failures, stage by stage.
* `generate_eq_error_iff`: a run fails with `e` exactly when `RunFailure` says so.
* `generate_reports_earliest_failure`: the failure order, the view and the column names.
* `overlong_index_fails_as_integer`: an index of 4301 digits fails as an integer.
-/

namespace HiveDdl

open Schema

/-! ### Type paths -/

/-- How type path entries are refused: at the first entry that is no path, or, when every entry
is blank, for want of any path. -/
def PathSpec.Refuses (spec : PathSpec) (e : PathListError) : Prop :=
  FirstFailure TypePath.parseEntry spec.entryList e ∨
    (∀ x ∈ spec.entryList, TypePath.parseEntry x = .ok none) ∧ e = .path ⟨"", .noPaths⟩

theorem filterMapM_eq_ok_nil_iff {α β ε : Type} {f : α → Except ε (Option β)} {xs : List α} :
    xs.filterMapM f = .ok [] ↔ ∀ x ∈ xs, f x = .ok none := by
  rw [filterMapM_eq_map_mapM, map_eq_ok]
  constructor
  · rintro ⟨zs, hzs, hnone⟩ x hx
    obtain ⟨z, hz, hfz⟩ := mapM_ok_mem hzs hx
    have : z = none := by
      cases z with
      | none => rfl
      | some b =>
        have hmem : b ∈ zs.filterMap id := List.mem_filterMap.mpr ⟨some b, hz, rfl⟩
        rw [hnone] at hmem
        cases hmem
    rw [hfz, this]
  · intro hall
    refine ⟨xs.map fun _ => none, mapM_eq_ok_map hall, ?_⟩
    simp

theorem PathSpec.parse_eq_error_iff {spec : PathSpec} {e : PathListError} :
    spec.parse = .error e ↔ spec.Refuses e := by
  rw [PathSpec.parse_eq, bind_eq_error, filterMapM_eq_map_mapM, map_eq_error, mapM_eq_error_iff,
    PathSpec.Refuses]
  apply or_congr_right
  constructor
  · rintro ⟨paths, hpaths, hrequire⟩
    by_cases hempty : paths.isEmpty
    · have hnil : paths = [] := List.isEmpty_iff.mp hempty
      subst hnil
      refine ⟨filterMapM_eq_ok_nil_iff.mp (by rw [filterMapM_eq_map_mapM]; exact hpaths), ?_⟩
      simpa [requireSomePath, throw, throwThe, MonadExceptOf.throw] using hrequire.symm
    · simp [requireSomePath, hempty, pure, Except.pure] at hrequire
  · rintro ⟨hall, rfl⟩
    refine ⟨[], ?_, by simp [requireSomePath, throw, throwThe, MonadExceptOf.throw]⟩
    rw [← filterMapM_eq_map_mapM]
    exact filterMapM_eq_ok_nil_iff.mpr hall

/-! ### The envelope -/

def ObjectAt (fields : List (String × Value)) (key : String) : Prop :=
  ∃ inner, lookupField fields key = some (.object inner)

/-- The envelope object named by `path` is missing: `Response` alone when the envelope is
skipped, else `KeyedResponse`, or `KeyedResponse/Response` below a present `KeyedResponse`. -/
def MissingEnvelope (document : List (String × Value)) (skipEnvelope : Bool) (path : String) :
    Prop :=
  if skipEnvelope then path = "Response" ∧ ¬ ObjectAt document "Response"
  else (path = "KeyedResponse" ∧ ¬ ObjectAt document "KeyedResponse") ∨
    path = "KeyedResponse/Response" ∧ ∃ envelope,
      lookupField document "KeyedResponse" = some (.object envelope) ∧
      ¬ ObjectAt envelope "Response"

theorem requireObject_eq_ok_iff {fields : List (String × Value)} {key path : String}
    {inner : List (String × Value)} :
    requireObject fields key path = .ok inner ↔ lookupField fields key = some (.object inner) := by
  unfold requireObject
  split <;> simp_all

theorem requireObject_eq_error_iff {fields : List (String × Value)} {key path : String}
    {e : ProjectionError} :
    requireObject fields key path = .error e ↔
      e = .missingEnvelope path ∧ ¬ ObjectAt fields key := by
  unfold requireObject ObjectAt
  split
  · simp_all
  · constructor
    · rintro ⟨⟩
      exact ⟨rfl, fun ⟨inner, h⟩ => by simp_all⟩
    · rintro ⟨rfl, -⟩
      rfl

theorem envelopeWrites_eq_error_iff {document : List (String × Value)} {skipEnvelope : Bool}
    {keyedData : List String} {e : ProjectionError} :
    envelopeWrites document skipEnvelope keyedData = .error e ↔
      ∃ path, e = .missingEnvelope path ∧ MissingEnvelope document skipEnvelope path := by
  unfold envelopeWrites MissingEnvelope
  cases skipEnvelope with
  | true =>
    simp only [if_true, map_eq_error, requireObject_eq_error_iff]
    constructor
    · rintro ⟨rfl, hmissing⟩
      exact ⟨_, rfl, rfl, hmissing⟩
    · rintro ⟨path, rfl, rfl, hmissing⟩
      exact ⟨rfl, hmissing⟩
  | false =>
    simp only [Bool.false_eq_true, if_false, bind_eq_error, requireObject_eq_error_iff,
      requireObject_eq_ok_iff, pure_ne_error, and_false, exists_false, or_false]
    constructor
    · rintro (⟨rfl, hmissing⟩ | ⟨envelope, henvelope, rfl, hmissing⟩)
      · exact ⟨_, rfl, .inl ⟨rfl, hmissing⟩⟩
      · exact ⟨_, rfl, .inr ⟨rfl, envelope, henvelope, hmissing⟩⟩
    · rintro ⟨path, rfl, ⟨rfl, hmissing⟩ | ⟨rfl, envelope, henvelope, hmissing⟩⟩
      · exact .inl ⟨rfl, hmissing⟩
      · exact .inr ⟨envelope, henvelope, rfl, hmissing⟩

theorem project_eq_error_iff {document : List (String × Value)} {paths : List TypePath}
    {xml skipEnvelope : Bool} {e : ProjectionError} :
    project document paths xml skipEnvelope defaultKeyedData = .error e ↔
      (∃ path, e = .missingEnvelope path ∧ MissingEnvelope document skipEnvelope path) ∨
      ∃ response keyed, envelopeWrites document skipEnvelope defaultKeyedData = .ok (response, keyed) ∧
        FirstFailure (TypePath.write response) paths e := by
  rw [project_eq, bind_eq_error, envelopeWrites_eq_error_iff]
  apply or_congr_right
  simp only [map_eq_error, mapM_eq_error_iff]
  constructor
  · rintro ⟨⟨response, keyed⟩, henvelope, hfail⟩
    exact ⟨response, keyed, henvelope, hfail⟩
  · rintro ⟨response, keyed, henvelope, hfail⟩
    exact ⟨(response, keyed), henvelope, hfail⟩

/-! ### The failure of a run -/

/-- The failure a run reports, stage by stage: each case says which stages passed before it and
how its own stage failed. -/
inductive RunFailure (text : String) (s : Settings) (depth : Nat) : GenerationError → Prop where
  /-- The type path entries are refused. -/
  | paths {e : PathListError} : s.typePaths.Refuses e → RunFailure text s depth (.paths e)
  /-- The type paths parse; the document does not. -/
  | document {paths : List TypePath} {e : DocumentError} :
      s.typePaths.parse = .ok paths → readDocument s.format text (depth + 1) = .error e →
      RunFailure text s depth (.document e)
  /-- The document reads; an envelope object is missing. -/
  | envelope {paths : List TypePath} {document : List (String × Value)} {path : String} :
      s.typePaths.parse = .ok paths → readDocument s.format text (depth + 1) = .ok document →
      MissingEnvelope document s.skipEnvelope path →
      RunFailure text s depth (.projection (.missingEnvelope path))
  /-- The envelope opens; the first type path, in list order, that writes no column. -/
  | path {paths : List TypePath} {document : List (String × Value)} {response : Value}
      {keyed : List ColumnWrite} {e : ProjectionError} :
      s.typePaths.parse = .ok paths → readDocument s.format text (depth + 1) = .ok document →
      envelopeWrites document s.skipEnvelope defaultKeyedData = .ok (response, keyed) →
      FirstFailure (TypePath.write response) paths e →
      RunFailure text s depth (.projection e)
  /-- Every column is written; the first column, in projection order, whose value has no
  type. -/
  | column {t : Stages} {e : TypeError} :
      t.Of text s depth →
      FirstFailure (fun c : String × Value => columnDefinition c.1 c.2) (t.projection s).columns
        e →
      RunFailure text s depth (.type e)

variable {text : String} {s : Settings} {depth : Nat}

theorem generate_of_read {paths : List TypePath} {document : List (String × Value)}
    (hparse : s.typePaths.parse = .ok paths)
    (hdocument : readDocument s.format text (depth + 1) = .ok document) :
    generate text s depth = (do
      let projection ← (project document paths (s.format == .xml) s.skipEnvelope
        defaultKeyedData).mapError .projection
      let schema ← (tableStatement projection.columns s.tableName
        (rowFormat s projection.properties)).mapError .type
      pure ⟨schema, viewQuery projection.columns s.tableName, projection.columns.map (·.1)⟩) := by
  unfold generate
  rw [hparse, hdocument]
  rfl

theorem runFailure_of_generate_eq_error {e : GenerationError}
    (h : generate text s depth = .error e) : RunFailure text s depth e := by
  -- peel the run stage by stage: a stage either fails, giving its case, or passes its value on
  unfold generate at h
  rw [bind_eq_error, mapError_eq_error] at h
  rcases h with ⟨e₀, hparse, rfl⟩ | ⟨paths, hparse, h⟩
  · exact .paths (PathSpec.parse_eq_error_iff.mp hparse)
  rw [mapError_eq_ok] at hparse
  rw [bind_eq_error, mapError_eq_error] at h
  rcases h with ⟨e₀, hdocument, rfl⟩ | ⟨document, hdocument, h⟩
  · exact .document hparse hdocument
  rw [mapError_eq_ok] at hdocument
  rw [bind_eq_error, mapError_eq_error] at h
  rcases h with ⟨e₀, hproject, rfl⟩ | ⟨projection, hproject, h⟩
  · rcases project_eq_error_iff.mp hproject with
      ⟨path, rfl, hmissing⟩ | ⟨response, keyed, henvelope, hfail⟩
    · exact .envelope hparse hdocument hmissing
    · exact .path hparse hdocument henvelope hfail
  rw [mapError_eq_ok, project_eq, bind_eq_ok] at hproject
  obtain ⟨⟨response, keyed⟩, henvelope, hselected⟩ := hproject
  obtain ⟨selected, hmapM, rfl⟩ := map_eq_ok.mp hselected
  rw [bind_eq_error, mapError_eq_error] at h
  rcases h with ⟨e₀, htable, rfl⟩ | ⟨schema, -, h⟩
  · exact .column (show (⟨paths, document, response, keyed, selected⟩ : Stages).Of text s depth
      from ⟨hparse, hdocument, henvelope, hmapM⟩)
      (columnDefinitions_eq_error_iff.mp (tableStatement_eq_error_iff.mp htable))
  · exact absurd h pure_ne_error

theorem generate_eq_error_of_runFailure {e : GenerationError} (h : RunFailure text s depth e) :
    generate text s depth = .error e := by
  cases h with
  | paths hrefuses =>
    unfold generate
    rw [bind_eq_error, mapError_eq_error]
    exact .inl ⟨_, PathSpec.parse_eq_error_iff.mpr hrefuses, rfl⟩
  | document hparse hdocument =>
    unfold generate
    rw [bind_eq_error]
    refine .inr ⟨_, mapError_eq_ok.mpr hparse, ?_⟩
    rw [bind_eq_error, mapError_eq_error]
    exact .inl ⟨_, hdocument, rfl⟩
  | envelope hparse hdocument hmissing =>
    rw [generate_of_read hparse hdocument, bind_eq_error, mapError_eq_error]
    exact .inl ⟨_, project_eq_error_iff.mpr (.inl ⟨_, rfl, hmissing⟩), rfl⟩
  | path hparse hdocument henvelope hfail =>
    rw [generate_of_read hparse hdocument, bind_eq_error, mapError_eq_error]
    exact .inl ⟨_, project_eq_error_iff.mpr (.inr ⟨_, _, henvelope, hfail⟩), rfl⟩
  | @column t e₀ hstages hfail =>
    obtain ⟨hparse, hdocument, henvelope, hselected⟩ := hstages
    rw [generate_of_read hparse hdocument, bind_eq_error]
    refine .inr ⟨t.projection s, mapError_eq_ok.mpr ?_, ?_⟩
    · rw [project_eq, henvelope]
      exact map_eq_ok.mpr ⟨t.selected, hselected, rfl⟩
    · rw [bind_eq_error, mapError_eq_error]
      exact .inl ⟨_, tableStatement_eq_error_iff.mpr
        (columnDefinitions_eq_error_iff.mpr hfail), rfl⟩

theorem generate_eq_error_iff {e : GenerationError} :
    generate text s depth = .error e ↔ RunFailure text s depth e :=
  ⟨runFailure_of_generate_eq_error, generate_eq_error_of_runFailure⟩

/-- A run reports the failure of its earliest failing stage and, inside a stage, of the first
failing item in the order the stage takes them (type path entries and type paths in list order,
columns in projection order); once the table is written the view cannot fail; and a successful
run names its columns in the order they were first written. -/
theorem generate_reports_earliest_failure (text : String) (s : Settings) (depth : Nat) :
    (∀ e, generate text s depth = .error e ↔ RunFailure text s depth e) ∧
    (∀ t : Stages, t.Of text s depth → ∀ schema,
      tableStatement (t.projection s).columns s.tableName
        (rowFormat s (t.projection s).properties) = .ok schema →
      ∃ d, generate text s depth = .ok d ∧ d.schema = schema) ∧
    (∀ d, generate text s depth = .ok d → ∃ t : Stages, t.Of text s depth ∧
      d.columns = (t.keyed.map (·.name) ++ t.paths.map TypePath.columnName).eraseDups) := by
  refine ⟨fun e => generate_eq_error_iff, fun t hstages schema htable =>
    ⟨_, generate_eq_ok_of_tableStatement hstages htable, rfl⟩, fun d hd => ?_⟩
  obtain ⟨t, hstages, -, -, hcolumns⟩ := generate_eq_ok_iff.mp hd
  exact ⟨t, hstages, hcolumns.trans (Stages.column_names hstages)⟩

/-- The type path `/a/` and the 4301 digits of `10 ^ 4300`, over an array of one item: the
index has more digits than an integer is read from, so the run fails with the integer error, not
with a path that does not resolve. -/
theorem overlong_index_fails_as_integer :
    generate "\x7b\"KeyedResponse\": \x7b\"Response\": \x7b\"a\": [1]\x7d\x7d\x7d"
      ⟨.json, "hive_table", false, .text ("/a/" ++ Nat.repr (10 ^ integerDigitLimit))⟩ 0 =
      .error (.projection (.index (.integerTooLong 4301))) := by
  -- what the run needs of the index text, before it is treated as any text
  have hindex : asciiIndex? (Nat.repr (10 ^ integerDigitLimit)) =
      .error (.integerTooLong 4301) := by
    rw [asciiIndex?_repr, length_repr_ten_pow, if_pos (by decide)]
    rfl
  have hunescape := unescapeSegment_repr (10 ^ integerDigitLimit)
  have hdigits := @isDigit_of_mem_repr (10 ^ integerDigitLimit)
  have hne := @Nat.repr_ne_empty (10 ^ integerDigitLimit)
  generalize Nat.repr (10 ^ integerDigitLimit) = r at hindex hunescape hdigits hne ⊢
  let p : TypePath := ⟨"/a/" ++ r, ["a", r], none⟩
  have hprint : p.print = "/a/" ++ r := by
    simp only [p, TypePath.print, TypePath.queryPath, TypePath.filterText]
    simp [← String.append_assoc]
  have hchars : ∀ c ∈ p.print.toList, c = '/' ∨ c = 'a' ∨ c.isDigit := by
    intro c hc
    rw [hprint, String.toList_append, List.mem_append,
      show "/a/".toList = ['/', 'a', '/'] by decide +kernel] at hc
    rcases hc with hc | hc
    · simp only [List.mem_cons, List.not_mem_nil, or_false] at hc
      rcases hc with rfl | rfl | rfl <;> simp
    · exact .inr (.inr (hdigits hc))
  have hwf : p.WellFormed := by
    refine ⟨⟨by simp [p], fun seg hseg => ?_, by simp [p]⟩, fun c hc => ?_⟩
    · simp only [p, List.mem_cons, List.not_mem_nil, or_false] at hseg
      rcases hseg with rfl | rfl
      · decide
      · refine ⟨hne, fun h => ?_, fun h => ?_⟩
        · cases hdigits h
        · cases hdigits h
    · rcases hchars c (List.mem_of_getLast? hc) with rfl | rfl | hdigit
      · decide
      · decide
      · exact Text.isBlank_of_isDigit hdigit
  have hcomma : ',' ∉ p.print.toList := fun h => by
    rcases hchars ',' h with h | h | h <;> cases h
  have hparse : (PathSpec.text ("/a/" ++ r)).parse = .ok [p] := by
    have h := @TypePath.parseText_print [p] (List.cons_ne_nil _ _) (by simpa using hwf)
      (by simpa using hcomma)
    simp only [List.map_cons, List.map_nil, String.intercalate_singleton, hprint] at h
    simp [PathSpec.parse, h, p, Except.mapError]
  let response := Value.object [("a", .array [.number "1"])]
  have hdocument : readDocument .json
      "\x7b\"KeyedResponse\": \x7b\"Response\": \x7b\"a\": [1]\x7d\x7d\x7d" (0 + 1) =
      .ok [("KeyedResponse", .object [("Response", response)])] := by
    decide +kernel
  have henvelope : envelopeWrites [("KeyedResponse", .object [("Response", response)])] false
      defaultKeyedData = .ok (response, []) := by
    rfl
  have hresolve : resolve response p.segments p.expression =
      .error (.index (.integerTooLong 4301)) := by
    have hfirst : step response (unescapeSegment "a") = .ok (some (.array [.number "1"])) := by
      decide +kernel
    have hsecond : step (.array [.number "1"]) (unescapeSegment r) =
        .error (.integerTooLong 4301) := by
      rw [hunescape, step, hindex]
      rfl
    rw [resolve_cons_of_step hfirst, resolve_cons_of_step_error hsecond]
  have hselect : selectPath response p = .error (.index (.integerTooLong 4301)) := by
    simp only [selectPath, hresolve]
    rfl
  have hwrite : TypePath.write response p = .error (.index (.integerTooLong 4301)) := by
    rw [TypePath.write, if_neg (by simp [p, TypePath.isWholeResponse]), hselect]
    rfl
  exact generate_eq_error_iff.mpr
    (.path hparse hdocument henvelope ⟨[], p, [], rfl, by simp, hwrite⟩)

end HiveDdl
