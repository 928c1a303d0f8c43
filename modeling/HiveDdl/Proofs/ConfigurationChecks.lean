import HiveDdl.Proofs.PathText
import HiveDdl.Configuration
/-!
# Which check a configuration file fails

Loading a configuration file makes its checks in a fixed order: the file exists, it is UTF-8, it
is YAML of at most one document, that document is a mapping (no document, or a null one, counts
as an empty mapping), the mapping has no keys but the four, and then the fields `input_type`,
`table_name`, `skip_keyed_response` and `type_paths` read, in that order. A file that fails a
check is refused with the message of the first check it fails; a file that passes them all loads
as its fields read, each absent field taking its default.

Three failures are no check, and no message is made of them: a path that names a directory,
whose reading fails; a value YAML cannot build (a date that is no date, a tag its text does not
fit, nesting past the call limit); and an unknown key whose text cannot be written (an integer
past 4300 digits).

* `TextRead`, `FormatRead`, `PathsRead`: what a field's value reads as; `TextRefusal`,
  `FormatRefusal`, `BoolRefusal`, `PathsRefusal`: the messages it is refused with.
* `FieldFailure`, `KeyFailure`, `TextFailure`, `LoadFailure`: the failures, check by check.
* `FieldsRead`, `LoadsAs`: what a file that passes every check loads as.
* `load_reports_first_failing_check`: a load fails exactly as `LoadFailure` says and succeeds
  exactly as `LoadsAs` says.
* `directory_configuration_fails_outside_checks`: a load that fails with no message.
-/

namespace HiveDdl.Text

theorem blank_head?_dropWhile {cs : List Char} :
    ∀ c ∈ (cs.dropWhile isBlank).head?, isBlank c = false := by
  intro c hc
  have hne : cs.dropWhile isBlank ≠ [] := by
    rintro h
    simp [h] at hc
  rw [List.head?_eq_some_head hne, Option.mem_some_iff] at hc
  exact hc ▸ List.head_dropWhile_not isBlank hne

theorem trimList_trimList (cs : List Char) : trimList (trimList cs) = trimList cs := by
  -- the first pass keeps a list whose first character is not blank; the second keeps a suffix
  -- of its reverse, which then ends with that character
  set kept := cs.dropWhile isBlank
  set last := kept.reverse.dropWhile isBlank
  have hlast : ∀ c ∈ last.getLast?, isBlank c = false := by
    intro c hc
    have hne : last ≠ [] := by
      rintro h
      simp [h] at hc
    have hkept : kept.reverse ≠ [] := fun h => hne (by simp [last, h])
    rw [List.getLast?_eq_some_getLast hne, Option.mem_some_iff,
      (List.dropWhile_suffix isBlank).getLast hne, List.getLast_reverse] at hc
    exact hc ▸ List.head_dropWhile_not isBlank (List.reverse_ne_nil_iff.mp hkept)
  apply trimList_of_ends
  · simpa [trimList, List.head?_reverse] using hlast
  · simpa [trimList, List.getLast?_reverse] using @blank_head?_dropWhile kept.reverse

theorem trim_trim (s : String) : trim (trim s) = trim s := by
  simp [trim, trimList_trimList]

theorem upper_empty : upper "" = "" := by
  simp [upper]

end HiveDdl.Text

namespace HiveDdl

open Yaml

/-! ### What the checks of the fields read and refuse -/

/-- A text field's value reads as `t`: it is a text, and `t` is that text trimmed, not empty. -/
def TextRead (d : Datum) (t : String) : Prop :=
  ∃ s, d = .str s ∧ t = Text.trim s ∧ t ≠ ""

/-- The message a text field's value is refused with: it is no text, or only blanks. -/
def TextRefusal (field : String) (d : Datum) (m : String) : Prop :=
  (∀ s, d ≠ .str s) ∧ m = field ++ " must be a string." ∨
    ∃ s, d = .str s ∧ Text.trim s = "" ∧ m = field ++ " must not be empty."

/-- The value of `input_type` reads as a format: a text whose trimmed, upper-cased form is the
format's name. -/
def FormatRead (d : Datum) (f : InputFormat) : Prop :=
  ∃ s, d = .str s ∧ Text.upper (Text.trim s) = f.name

/-- The message the value of `input_type` is refused with: that of a text field, or, for a text
that is not blank, that it names no format. -/
def FormatRefusal (d : Datum) (m : String) : Prop :=
  TextRefusal "input_type" d m ∨
    ∃ s, d = .str s ∧ Text.trim s ≠ "" ∧
      (∀ f : InputFormat, Text.upper (Text.trim s) ≠ f.name) ∧
      m = "input_type must be JSON or XML."

/-- The message a boolean field's value is refused with: it is no boolean. -/
def BoolRefusal (field : String) (d : Datum) (m : String) : Prop :=
  (∀ b, d ≠ .bool b) ∧ m = field ++ " must be true or false."

/-- The type paths the value of `type_paths` gives, at least one: the trimmed, non-blank pieces
of a text split at commas, or the trimmed, non-blank items of a list of texts. -/
def PathsRead (heap : Array Datum) (d : Datum) (paths : List String) : Prop :=
  paths ≠ [] ∧ match d with
    | .str s => paths = ((s.splitOn ",").map Text.trim).filter (!·.isEmpty)
    | .list items =>
      ∃ texts, List.Forall₂ (fun i t => heap.getD i default = .str t) items.toList texts ∧
        paths = (texts.map Text.trim).filter (!·.isEmpty)
    | _ => False

/-- The message the value of `type_paths` is refused with: it is neither a text nor a list; an
item of a list is no text (the items of a byte string are numbers); or nothing is left once the
blank entries are dropped. -/
def PathsRefusal (heap : Array Datum) (d : Datum) (m : String) : Prop :=
  match d with
  | .str s => ((s.splitOn ",").map Text.trim).filter (!·.isEmpty) = [] ∧
      m = "type_paths must contain at least one path."
  | .list items =>
    (∃ i ∈ items.toList, ∀ s, heap.getD i default ≠ .str s) ∧
        m = "type_paths entries must be strings." ∨
      ∃ texts, List.Forall₂ (fun i t => heap.getD i default = .str t) items.toList texts ∧
        (texts.map Text.trim).filter (!·.isEmpty) = [] ∧
        m = "type_paths must contain at least one path."
  | .bytes bs => bs = [] ∧ m = "type_paths must contain at least one path." ∨
      bs ≠ [] ∧ m = "type_paths entries must be strings."
  | _ => m = "type_paths must be a string or list of strings."

/-! ### The checks of the fields -/

variable {field : String} {d : Datum} {e : ConfigError}

theorem requireText_eq_ok_iff {t : String} : requireText field d = .ok t ↔ TextRead d t := by
  unfold TextRead
  cases d with
  | str s =>
    by_cases hblank : Text.trim s = ""
    · simp [requireText, hblank, invalid]
    · simp only [requireText, String.isEmpty_iff, hblank, if_false, Except.ok.injEq,
        Datum.str.injEq, exists_eq_left']
      constructor
      · rintro rfl
        exact ⟨rfl, hblank⟩
      · rintro ⟨rfl, -⟩
        rfl
  | _ => simp [requireText, invalid]

theorem requireText_eq_error_iff :
    requireText field d = .error e ↔ ∃ m, e = .invalid m ∧ TextRefusal field d m := by
  unfold TextRefusal
  cases d with
  | str s =>
    by_cases hblank : Text.trim s = ""
    · simp [requireText, hblank, invalid, eq_comm (a := e)]
    · simp [requireText, hblank]
  | _ => simp [requireText, invalid, eq_comm (a := e)]

theorem InputFormat.ofName?_eq_some_iff {name : String} {f : InputFormat} :
    InputFormat.ofName? name = some f ↔ Text.upper (Text.trim name) = f.name := by
  unfold InputFormat.ofName?
  by_cases hjson : Text.upper (Text.trim name) = "JSON" <;>
    by_cases hxml : Text.upper (Text.trim name) = "XML" <;>
    cases f <;> simp_all [InputFormat.name]

theorem ofName?_trim_eq_some_iff {s : String} {f : InputFormat} :
    InputFormat.ofName? (Text.trim s) = some f ↔ Text.upper (Text.trim s) = f.name := by
  rw [InputFormat.ofName?_eq_some_iff, Text.trim_trim]

theorem ofName?_trim_eq_none_iff {s : String} :
    InputFormat.ofName? (Text.trim s) = none ↔
      ∀ f : InputFormat, Text.upper (Text.trim s) ≠ f.name := by
  simp only [Option.eq_none_iff_forall_ne_some, ne_eq, ofName?_trim_eq_some_iff]

theorem parseInputType_eq_ok_iff {f : InputFormat} :
    parseInputType d = .ok f ↔ FormatRead d f := by
  unfold parseInputType
  rw [bind_eq_ok]
  constructor
  · rintro ⟨name, hname, hformat⟩
    obtain ⟨s, rfl, rfl, -⟩ := requireText_eq_ok_iff.mp hname
    cases hof : InputFormat.ofName? (Text.trim s) with
    | none => simp [hof, invalid] at hformat
    | some g =>
      simp only [hof, pure_eq_ok] at hformat
      exact ⟨s, rfl, hformat ▸ ofName?_trim_eq_some_iff.mp hof⟩
  · rintro ⟨s, rfl, hname⟩
    have hne : Text.trim s ≠ "" := by
      intro hblank
      rw [hblank, Text.upper_empty] at hname
      cases f <;> simp [InputFormat.name] at hname
    refine ⟨Text.trim s, requireText_eq_ok_iff.mpr ⟨s, rfl, rfl, hne⟩, ?_⟩
    rw [ofName?_trim_eq_some_iff.mpr hname]
    rfl

theorem parseInputType_eq_error_iff :
    parseInputType d = .error e ↔ ∃ m, e = .invalid m ∧ FormatRefusal d m := by
  unfold parseInputType
  rw [bind_eq_error, requireText_eq_error_iff]
  constructor
  · rintro (⟨m, rfl, hm⟩ | ⟨name, hname, hformat⟩)
    · exact ⟨m, rfl, .inl hm⟩
    · obtain ⟨s, rfl, rfl, hne⟩ := requireText_eq_ok_iff.mp hname
      cases hof : InputFormat.ofName? (Text.trim s) with
      | some g => simp [hof, pure, Except.pure] at hformat
      | none =>
        simp only [hof, invalid, Except.error.injEq] at hformat
        exact ⟨_, hformat.symm, .inr ⟨s, rfl, hne, ofName?_trim_eq_none_iff.mp hof, rfl⟩⟩
  · rintro ⟨m, rfl, hm | ⟨s, rfl, hne, hnone, rfl⟩⟩
    · exact .inl ⟨m, rfl, hm⟩
    · refine .inr ⟨Text.trim s, requireText_eq_ok_iff.mpr ⟨s, rfl, rfl, hne⟩, ?_⟩
      rw [ofName?_trim_eq_none_iff.mpr hnone]
      rfl

theorem requireBool_eq_ok_iff {b : Bool} : requireBool field d = .ok b ↔ d = .bool b := by
  cases d <;> simp [requireBool, invalid]

theorem requireBool_eq_error_iff :
    requireBool field d = .error e ↔ ∃ m, e = .invalid m ∧ BoolRefusal field d m := by
  cases d <;> simp [requireBool, invalid, BoolRefusal, eq_comm (a := e)]

section Paths

variable {heap : Array Datum}

theorem nonEmpty_eq_ok_iff {ps qs : List String} :
    requirePaths.nonEmpty ps = .ok qs ↔ qs = ps ∧ ps ≠ [] := by
  unfold requirePaths.nonEmpty
  by_cases h : ps = []
  · simp [h, invalid]
  · simp only [List.isEmpty_iff, h, if_false, Except.ok.injEq, ne_eq, not_false_eq_true, and_true]
    exact eq_comm

theorem nonEmpty_eq_error_iff {ps : List String} :
    requirePaths.nonEmpty ps = .error e ↔
      ps = [] ∧ e = .invalid "type_paths must contain at least one path." := by
  by_cases h : ps = [] <;> simp [requirePaths.nonEmpty, h, invalid, eq_comm (a := e)]

theorem pathEntry_eq_ok_iff {i : Nat} {t : String} :
    pathEntry heap i = .ok t ↔ ∃ s, heap.getD i default = .str s ∧ t = Text.trim s := by
  cases h : heap.getD i default <;> simp [pathEntry, h, invalid, eq_comm (a := t)]

theorem pathEntry_eq_error_iff {i : Nat} :
    pathEntry heap i = .error e ↔
      (∀ s, heap.getD i default ≠ .str s) ∧
        e = .invalid "type_paths entries must be strings." := by
  cases h : heap.getD i default <;> simp [pathEntry, h, invalid, eq_comm (a := e)]

theorem mapM_pathEntry_eq_ok_iff {items : List Nat} {ys : List String} :
    items.mapM (pathEntry heap) = .ok ys ↔
      ∃ texts, List.Forall₂ (fun i t => heap.getD i default = .str t) items texts ∧
        ys = texts.map Text.trim := by
  induction items generalizing ys with
  | nil => simp [pure, Except.pure, eq_comm]
  | cons i items ih =>
    rw [mapM_cons_eq_ok]
    constructor
    · rintro ⟨y, ys, hy, hys, rfl⟩
      obtain ⟨s, hs, rfl⟩ := pathEntry_eq_ok_iff.mp hy
      obtain ⟨texts, htexts, rfl⟩ := ih.mp hys
      exact ⟨s :: texts, .cons hs htexts, rfl⟩
    · rintro ⟨texts, htexts, rfl⟩
      cases htexts with
      | @cons _ s _ texts hs htexts =>
        exact ⟨_, _, pathEntry_eq_ok_iff.mpr ⟨s, hs, rfl⟩, ih.mpr ⟨texts, htexts, rfl⟩,
          rfl⟩

theorem mapM_pathEntry_eq_error_iff {items : List Nat} :
    items.mapM (pathEntry heap) = .error e ↔
      (∃ i ∈ items, ∀ s, heap.getD i default ≠ .str s) ∧
        e = .invalid "type_paths entries must be strings." := by
  constructor
  · intro h
    obtain ⟨pre, i, post, rfl, -, hi⟩ := mapM_eq_error_iff.mp h
    obtain ⟨hnot, rfl⟩ := pathEntry_eq_error_iff.mp hi
    exact ⟨⟨i, by simp, hnot⟩, rfl⟩
  · rintro ⟨⟨i, hi, hnot⟩, rfl⟩
    cases h : items.mapM (pathEntry heap) with
    | ok ys =>
      obtain ⟨y, -, hy⟩ := mapM_ok_mem h hi
      obtain ⟨s, hs, -⟩ := pathEntry_eq_ok_iff.mp hy
      exact absurd hs (hnot s)
    | error e' =>
      obtain ⟨pre, j, post, -, -, hj⟩ := mapM_eq_error_iff.mp h
      rw [(pathEntry_eq_error_iff.mp hj).2]

theorem requirePaths_eq_ok_iff {ps : List String} :
    requirePaths heap d = .ok ps ↔ PathsRead heap d ps := by
  cases d with
  | str s =>
    simp only [requirePaths, nonEmpty_eq_ok_iff, PathsRead]
    constructor
    · rintro ⟨rfl, hne⟩
      exact ⟨hne, rfl⟩
    · rintro ⟨hne, rfl⟩
      exact ⟨rfl, hne⟩
  | list items =>
    simp only [requirePaths, bind_eq_ok, mapM_pathEntry_eq_ok_iff, nonEmpty_eq_ok_iff, PathsRead]
    constructor
    · rintro ⟨_, ⟨texts, htexts, rfl⟩, rfl, hne⟩
      exact ⟨hne, texts, htexts, rfl⟩
    · rintro ⟨hne, texts, htexts, rfl⟩
      exact ⟨_, ⟨texts, htexts, rfl⟩, rfl, hne⟩
  | bytes bs =>
    by_cases h : bs = [] <;> simp [requirePaths, h, requirePaths.nonEmpty, invalid, PathsRead]
  | _ => simp [requirePaths, invalid, PathsRead]

theorem requirePaths_eq_error_iff :
    requirePaths heap d = .error e ↔ ∃ m, e = .invalid m ∧ PathsRefusal heap d m := by
  cases d with
  | str s => simp [requirePaths, nonEmpty_eq_error_iff, PathsRefusal, and_comm]
  | list items =>
    simp only [requirePaths, bind_eq_error, mapM_pathEntry_eq_error_iff, mapM_pathEntry_eq_ok_iff,
      nonEmpty_eq_error_iff, PathsRefusal]
    constructor
    · rintro (⟨hbad, rfl⟩ | ⟨_, ⟨texts, htexts, rfl⟩, hnone, rfl⟩)
      · exact ⟨_, rfl, .inl ⟨hbad, rfl⟩⟩
      · exact ⟨_, rfl, .inr ⟨texts, htexts, hnone, rfl⟩⟩
    · rintro ⟨m, rfl, ⟨hbad, rfl⟩ | ⟨texts, htexts, hnone, rfl⟩⟩
      · exact .inl ⟨hbad, rfl⟩
      · exact .inr ⟨_, ⟨texts, htexts, rfl⟩, hnone, rfl⟩
  | bytes bs =>
    by_cases h : bs = [] <;>
      simp [requirePaths, h, requirePaths.nonEmpty, invalid, PathsRefusal, eq_comm (a := e)]
  | _ => simp [requirePaths, invalid, PathsRefusal, eq_comm (a := e)]

end Paths

/-! ### The fields of a mapping -/

section Fields

variable {heap : Array Datum} {entries : Array (Nat × Nat)}

def fieldOr (heap : Array Datum) (entries : Array (Nat × Nat)) (key : String) (fallback : Datum) :
    Datum :=
  (fieldOf heap entries key).getD fallback

/-- The configuration the fields of a mapping give: each field's value, or its default when the
mapping gives none, read as its check reads it; `Response` alone when there is no
`type_paths`. -/
structure FieldsRead (heap : Array Datum) (entries : Array (Nat × Nat)) (c : Configuration) :
    Prop where
  format : FormatRead (fieldOr heap entries "input_type" (.str "JSON")) c.format
  tableName : TextRead (fieldOr heap entries "table_name" (.str "hive_table")) c.tableName
  skipEnvelope : fieldOr heap entries "skip_keyed_response" (.bool false) = .bool c.skipEnvelope
  typePaths : match fieldOf heap entries "type_paths" with
    | some d => PathsRead heap d c.typePaths
    | none => c.typePaths = ["Response"]

/-- How the fields of a mapping are refused: with the message of the first field, in the order
`input_type`, `table_name`, `skip_keyed_response`, `type_paths`, whose value is refused; each
field before it reads as its check reads it. -/
inductive FieldFailure (heap : Array Datum) (entries : Array (Nat × Nat)) : String → Prop where
  | format {m : String} :
      FormatRefusal (fieldOr heap entries "input_type" (.str "JSON")) m →
      FieldFailure heap entries m
  | tableName {f : InputFormat} {m : String} :
      FormatRead (fieldOr heap entries "input_type" (.str "JSON")) f →
      TextRefusal "table_name" (fieldOr heap entries "table_name" (.str "hive_table")) m →
      FieldFailure heap entries m
  | skipEnvelope {f : InputFormat} {t m : String} :
      FormatRead (fieldOr heap entries "input_type" (.str "JSON")) f →
      TextRead (fieldOr heap entries "table_name" (.str "hive_table")) t →
      BoolRefusal "skip_keyed_response"
        (fieldOr heap entries "skip_keyed_response" (.bool false)) m →
      FieldFailure heap entries m
  | typePaths {f : InputFormat} {t m : String} {b : Bool} {d : Datum} :
      FormatRead (fieldOr heap entries "input_type" (.str "JSON")) f →
      TextRead (fieldOr heap entries "table_name" (.str "hive_table")) t →
      fieldOr heap entries "skip_keyed_response" (.bool false) = .bool b →
      fieldOf heap entries "type_paths" = some d → PathsRefusal heap d m →
      FieldFailure heap entries m

theorem readFields_eq_ok_iff {c : Configuration} :
    Configuration.readFields heap entries = .ok c ↔ FieldsRead heap entries c := by
  unfold Configuration.readFields
  cases hpaths : fieldOf heap entries "type_paths" with
  | none =>
    simp only [bind_eq_ok, parseInputType_eq_ok_iff, requireText_eq_ok_iff, requireBool_eq_ok_iff,
      pure_eq_ok]
    constructor
    · rintro ⟨f, hf, t, ht, b, hb, _, rfl, rfl⟩
      exact ⟨hf, ht, hb, by simp [hpaths]⟩
    · rintro ⟨hf, ht, hb, hp⟩
      simp only [hpaths] at hp
      exact ⟨_, hf, _, ht, _, hb, _, hp.symm, rfl⟩
  | some d =>
    simp only [bind_eq_ok, parseInputType_eq_ok_iff, requireText_eq_ok_iff, requireBool_eq_ok_iff,
      requirePaths_eq_ok_iff, pure_eq_ok]
    constructor
    · rintro ⟨f, hf, t, ht, b, hb, ps, hps, rfl⟩
      exact ⟨hf, ht, hb, by simpa [hpaths] using hps⟩
    · rintro ⟨hf, ht, hb, hp⟩
      simp only [hpaths] at hp
      exact ⟨_, hf, _, ht, _, hb, _, hp, rfl⟩

theorem readFields_eq_error_iff :
    Configuration.readFields heap entries = .error e ↔
      ∃ m, e = .invalid m ∧ FieldFailure heap entries m := by
  unfold Configuration.readFields
  simp only [bind_eq_error]
  constructor
  · rintro (hf | ⟨f, hf, ht | ⟨t, ht, hb | ⟨b, hb, hp⟩⟩⟩)
    · obtain ⟨m, rfl, hm⟩ := parseInputType_eq_error_iff.mp hf
      exact ⟨m, rfl, .format hm⟩
    · obtain ⟨m, rfl, hm⟩ := requireText_eq_error_iff.mp ht
      exact ⟨m, rfl, .tableName (parseInputType_eq_ok_iff.mp hf) hm⟩
    · obtain ⟨m, rfl, hm⟩ := requireBool_eq_error_iff.mp hb
      exact ⟨m, rfl,
        .skipEnvelope (parseInputType_eq_ok_iff.mp hf) (requireText_eq_ok_iff.mp ht) hm⟩
    · -- only a `type_paths` value can fail here; the default passes
      cases hpaths : fieldOf heap entries "type_paths" with
      | none => simp [hpaths, pure, Except.pure, bind, Except.bind] at hp
      | some d =>
        simp only [hpaths, bind_eq_error, pure_ne_error, and_false, exists_false, or_false] at hp
        obtain ⟨m, rfl, hm⟩ := requirePaths_eq_error_iff.mp hp
        exact ⟨m, rfl, .typePaths (parseInputType_eq_ok_iff.mp hf) (requireText_eq_ok_iff.mp ht)
          (requireBool_eq_ok_iff.mp hb) hpaths hm⟩
  · rintro ⟨m, rfl, hfail⟩
    cases hfail with
    | format hm => exact .inl (parseInputType_eq_error_iff.mpr ⟨m, rfl, hm⟩)
    | tableName hf hm =>
      exact .inr ⟨_, parseInputType_eq_ok_iff.mpr hf,
        .inl (requireText_eq_error_iff.mpr ⟨m, rfl, hm⟩)⟩
    | skipEnvelope hf ht hm =>
      exact .inr ⟨_, parseInputType_eq_ok_iff.mpr hf, .inr ⟨_, requireText_eq_ok_iff.mpr ht,
        .inl (requireBool_eq_error_iff.mpr ⟨m, rfl, hm⟩)⟩⟩
    | typePaths hf ht hb hpaths hm =>
      refine .inr ⟨_, parseInputType_eq_ok_iff.mpr hf, .inr ⟨_, requireText_eq_ok_iff.mpr ht,
        .inr ⟨_, requireBool_eq_ok_iff.mpr hb, ?_⟩⟩⟩
      simp only [hpaths, bind_eq_error]
      exact .inl (requirePaths_eq_error_iff.mpr ⟨m, rfl, hm⟩)

end Fields

/-! ### The keys of a mapping -/

theorem mapM_mapError {α β ε ε' : Type} {f : α → Except ε β} {g : ε → ε'}
    (xs : List α) :
    xs.mapM (fun x => (f x).mapError g) = (xs.mapM f).mapError g := by
  induction xs with
  | nil => rfl
  | cons x xs ih =>
    simp only [List.mapM_cons, ih]
    cases f x <;> cases xs.mapM f <;> rfl

theorem keyTexts_eq (heap : Array Datum) (keys : List Nat) :
    keyTexts heap keys =
      (keys.mapM fun k => (heap.getD k default).text).mapError (.failure "ValueError") := by
  rw [← mapM_mapError]
  unfold keyTexts
  congr
  funext k
  cases (heap.getD k default).text <;> rfl

section Keys

variable {heap : Array Datum} {entries : Array (Nat × Nat)}

/-- How the keys of a mapping are refused. An unknown key with no text, the first in the
mapping's order, fails with no message; else the unknown keys, if there are any, are all listed
by their texts, sorted. -/
inductive KeyFailure (heap : Array Datum) (entries : Array (Nat × Nat)) :
    ConfigError → Prop where
  | keyText {m : String} :
      FirstFailure (fun k => (heap.getD k default).text) (unknownKeys heap entries) m →
      KeyFailure heap entries (.failure "ValueError" m)
  | unknown {texts : List String} :
      (unknownKeys heap entries).mapM (fun k => (heap.getD k default).text) = .ok texts →
      texts ≠ [] →
      KeyFailure heap entries (.invalid
        ("Unknown configuration keys: " ++ ", ".intercalate (texts.mergeSort Text.codeLE)))

theorem checkKeys_eq_ok_iff :
    Configuration.checkKeys heap entries = .ok () ↔ unknownKeys heap entries = [] := by
  unfold Configuration.checkKeys
  rw [bind_eq_ok, keyTexts_eq]
  constructor
  · rintro ⟨texts, htexts, hlisted⟩
    have hnil : texts = [] := by
      cases texts with
      | nil => rfl
      | cons t ts => simp [invalid] at hlisted
    subst hnil
    rw [mapError_eq_ok, mapM_eq_ok_iff_forall₂] at htexts
    exact List.forall₂_nil_right_iff.mp htexts
  · intro hkeys
    rw [hkeys]
    exact ⟨[], rfl, rfl⟩

theorem checkKeys_eq_error_iff :
    Configuration.checkKeys heap entries = .error e ↔ KeyFailure heap entries e := by
  unfold Configuration.checkKeys
  rw [bind_eq_error, keyTexts_eq, mapError_eq_error]
  constructor
  · rintro (⟨m, hm, rfl⟩ | ⟨texts, htexts, hlisted⟩)
    · exact .keyText (mapM_eq_error_iff.mp hm)
    · rw [mapError_eq_ok] at htexts
      cases texts with
      | nil => simp [pure, Except.pure] at hlisted
      | cons t ts =>
        simp only [List.isEmpty_cons, Bool.not_false, if_true, invalid,
          Except.error.injEq] at hlisted
        rw [← hlisted]
        exact .unknown htexts (List.cons_ne_nil t ts)
  · intro h
    cases h with
    | keyText hfirst => exact .inl ⟨_, mapM_eq_error_iff.mpr hfirst, rfl⟩
    | unknown htexts hne =>
      refine .inr ⟨_, mapError_eq_ok.mpr htexts, ?_⟩
      simp [hne, invalid]

end Keys

/-! ### The document of a configuration text -/

/-- The heap and root entries of a loaded document that is a mapping; no document and a null
document hold an empty mapping. -/
def RootEntries (loaded : Option Loaded) (heap : Array Datum) (entries : Array (Nat × Nat)) :
    Prop :=
  match loaded with
  | none => heap = #[] ∧ entries = #[]
  | some l => heap = l.heap ∧ (l.heap.getD l.root default = .dict entries ∨
      l.heap.getD l.root default = .none ∧ entries = #[])

def NotMapping : Option Loaded → Prop
  | none => False
  | some l => (∀ entries, l.heap.getD l.root default ≠ .dict entries) ∧
      l.heap.getD l.root default ≠ .none

section Document

variable {text : String} {depth : Nat}

theorem loadDocument_eq_ok_iff {loaded : Option Loaded} :
    Configuration.loadDocument text depth = .ok loaded ↔
      Loaded.ofText text depth = .ok loaded := by
  unfold Configuration.loadDocument
  cases Loaded.ofText text depth with
  | ok l => simp [pure, Except.pure]
  | error le => cases le <;> simp [throw, throwThe, MonadExceptOf.throw, invalid]

theorem loadDocument_eq_error_iff :
    Configuration.loadDocument text depth = .error e ↔
      (∃ le, Loaded.ofText text depth = .error le ∧
        (∀ kind message, le ≠ .failure kind message) ∧
        e = .invalid ("Failed to parse configuration file: " ++ le.show text)) ∨
      ∃ kind message, Loaded.ofText text depth = .error (.failure kind message) ∧
        e = .failure kind message := by
  unfold Configuration.loadDocument
  cases Loaded.ofText text depth with
  | ok l => simp [pure, Except.pure]
  | error le =>
    cases le <;> simp [throw, throwThe, MonadExceptOf.throw, invalid, eq_comm (a := e)]

theorem rootEntries_eq_ok_iff {loaded : Option Loaded} {heap : Array Datum}
    {entries : Array (Nat × Nat)} :
    Configuration.rootEntries loaded = .ok (heap, entries) ↔ RootEntries loaded heap entries := by
  cases loaded with
  | none =>
    simp only [Configuration.rootEntries, RootEntries, pure, Except.pure, Except.ok.injEq,
      Prod.mk.injEq]
    constructor <;> rintro ⟨rfl, rfl⟩ <;> exact ⟨rfl, rfl⟩
  | some l =>
    simp only [Configuration.rootEntries, RootEntries]
    cases l.heap.getD l.root default <;>
      simp [pure, Except.pure, invalid, and_comm, eq_comm (a := l.heap)]

theorem rootEntries_eq_error_iff {loaded : Option Loaded} :
    Configuration.rootEntries loaded = .error e ↔
      e = .invalid "Configuration root must be a mapping." ∧ NotMapping loaded := by
  cases loaded with
  | none => simp [Configuration.rootEntries, NotMapping, pure, Except.pure]
  | some l =>
    simp only [Configuration.rootEntries, NotMapping]
    cases l.heap.getD l.root default <;> simp [pure, Except.pure, invalid, eq_comm (a := e)]

/-- How a configuration text is refused, check by check: each case says which checks passed
before it and how its own check failed. -/
inductive TextFailure (text : String) (depth : Nat) : ConfigError → Prop where
  /-- The text is not YAML of at most one document. -/
  | unparsable {e : LoadError} :
      Loaded.ofText text depth = .error e → (∀ kind message, e ≠ .failure kind message) →
      TextFailure text depth (.invalid ("Failed to parse configuration file: " ++ e.show text))
  /-- A value of the document cannot be built: this fails with no message. -/
  | unbuildable {kind message : String} :
      Loaded.ofText text depth = .error (.failure kind message) →
      TextFailure text depth (.failure kind message)
  /-- The document is neither a mapping nor null. -/
  | notMapping {loaded : Option Loaded} :
      Loaded.ofText text depth = .ok loaded → NotMapping loaded →
      TextFailure text depth (.invalid "Configuration root must be a mapping.")
  /-- The keys of the mapping are refused. -/
  | keys {loaded : Option Loaded} {heap : Array Datum} {entries : Array (Nat × Nat)}
      {e : ConfigError} :
      Loaded.ofText text depth = .ok loaded → RootEntries loaded heap entries →
      KeyFailure heap entries e → TextFailure text depth e
  /-- Every key is known; the fields are refused. -/
  | fields {loaded : Option Loaded} {heap : Array Datum} {entries : Array (Nat × Nat)}
      {m : String} :
      Loaded.ofText text depth = .ok loaded → RootEntries loaded heap entries →
      unknownKeys heap entries = [] → FieldFailure heap entries m →
      TextFailure text depth (.invalid m)

theorem ofText_eq_error_iff :
    Configuration.ofText text depth = .error e ↔ TextFailure text depth e := by
  unfold Configuration.ofText
  constructor
  · intro h
    rcases bind_eq_error.mp h with hload | ⟨loaded, hload, h⟩
    · rcases loadDocument_eq_error_iff.mp hload with
        ⟨le, hle, hnot, rfl⟩ | ⟨kind, message, hle, rfl⟩
      · exact .unparsable hle hnot
      · exact .unbuildable hle
    rw [loadDocument_eq_ok_iff] at hload
    rcases bind_eq_error.mp h with hroot | ⟨⟨heap, entries⟩, hroot, h⟩
    · obtain ⟨rfl, hnot⟩ := rootEntries_eq_error_iff.mp hroot
      exact .notMapping hload hnot
    rw [rootEntries_eq_ok_iff] at hroot
    rcases bind_eq_error.mp h with hkeys | ⟨_, hkeys, hfields⟩
    · exact .keys hload hroot (checkKeys_eq_error_iff.mp hkeys)
    · obtain ⟨m, rfl, hm⟩ := readFields_eq_error_iff.mp hfields
      exact .fields hload hroot (checkKeys_eq_ok_iff.mp hkeys) hm
  · intro h
    cases h with
    | unparsable hle hnot =>
      exact bind_eq_error.mpr (.inl (loadDocument_eq_error_iff.mpr (.inl ⟨_, hle, hnot, rfl⟩)))
    | unbuildable hle =>
      exact bind_eq_error.mpr (.inl (loadDocument_eq_error_iff.mpr (.inr ⟨_, _, hle, rfl⟩)))
    | notMapping hload hnot =>
      refine bind_eq_error.mpr (.inr ⟨_, loadDocument_eq_ok_iff.mpr hload, ?_⟩)
      exact bind_eq_error.mpr (.inl (rootEntries_eq_error_iff.mpr ⟨rfl, hnot⟩))
    | keys hload hroot hkeys =>
      refine bind_eq_error.mpr (.inr ⟨_, loadDocument_eq_ok_iff.mpr hload, ?_⟩)
      refine bind_eq_error.mpr (.inr ⟨_, rootEntries_eq_ok_iff.mpr hroot, ?_⟩)
      exact bind_eq_error.mpr (.inl (checkKeys_eq_error_iff.mpr hkeys))
    | fields hload hroot hkeys hfields =>
      refine bind_eq_error.mpr (.inr ⟨_, loadDocument_eq_ok_iff.mpr hload, ?_⟩)
      refine bind_eq_error.mpr (.inr ⟨_, rootEntries_eq_ok_iff.mpr hroot, ?_⟩)
      exact bind_eq_error.mpr (.inr ⟨(), checkKeys_eq_ok_iff.mpr hkeys,
        readFields_eq_error_iff.mpr ⟨_, rfl, hfields⟩⟩)

theorem ofText_eq_ok_iff {c : Configuration} :
    Configuration.ofText text depth = .ok c ↔
      ∃ loaded heap entries, Loaded.ofText text depth = .ok loaded ∧
        RootEntries loaded heap entries ∧ unknownKeys heap entries = [] ∧
        FieldsRead heap entries c := by
  unfold Configuration.ofText
  simp only [bind_eq_ok, loadDocument_eq_ok_iff, Prod.exists, rootEntries_eq_ok_iff,
    readFields_eq_ok_iff]
  constructor
  · rintro ⟨loaded, hload, heap, entries, hroot, ⟨⟩, hkeys, hfields⟩
    exact ⟨loaded, heap, entries, hload, hroot, checkKeys_eq_ok_iff.mp hkeys, hfields⟩
  · rintro ⟨loaded, heap, entries, hload, hroot, hkeys, hfields⟩
    exact ⟨loaded, hload, heap, entries, hroot, (), checkKeys_eq_ok_iff.mpr hkeys, hfields⟩

end Document

/-! ### Loading a file -/

/-- How a configuration file is refused, check by check: each case says which checks passed
before it and how its own check failed. -/
inductive LoadFailure (ws : Workspace) (path : String) (depth : Nat) : ConfigError → Prop where
  /-- Nothing is at the path. -/
  | missing {why : FileError} :
      ws.lookup (PathName.parse path) = .absent why →
      LoadFailure ws path depth
        (.invalid ("Configuration file not found: " ++ (PathName.parse path).text))
  /-- The path names a directory, which cannot be read: this fails with no message. -/
  | directory :
      ws.lookup (PathName.parse path) = .directory →
      LoadFailure ws path depth
        (.failure "IsADirectoryError" (FileError.isDirectory.message (PathName.parse path).text))
  /-- The file's bytes are not UTF-8. -/
  | undecodable {bytes : ByteArray} {e : Text.Utf8Error} :
      ws.lookup (PathName.parse path) = .file bytes → Text.decodeUtf8 bytes.data = .error e →
      LoadFailure ws path depth (.invalid ("Configuration file is not valid UTF-8: " ++ e.message))
  /-- The file's text, its line ends read as line feeds, is refused. -/
  | text {bytes : ByteArray} {text : String} {e : ConfigError} :
      ws.lookup (PathName.parse path) = .file bytes → Text.decodeUtf8 bytes.data = .ok text →
      TextFailure (String.ofList (universalNewlines text.toList)) depth e →
      LoadFailure ws path depth e

/-- A configuration file loads as `c`: it is a file of UTF-8 text holding YAML of a mapping (or
of no document, or of null) that has no keys but the four, and whose fields read as `c`. -/
def LoadsAs (ws : Workspace) (path : String) (depth : Nat) (c : Configuration) : Prop :=
  ∃ bytes text loaded heap entries,
    ws.lookup (PathName.parse path) = .file bytes ∧ Text.decodeUtf8 bytes.data = .ok text ∧
    Loaded.ofText (String.ofList (universalNewlines text.toList)) depth = .ok loaded ∧
    RootEntries loaded heap entries ∧ unknownKeys heap entries = [] ∧ FieldsRead heap entries c

section Load

variable {ws : Workspace} {path : String} {depth : Nat}

theorem load_eq_error_iff :
    Configuration.load ws path depth = .error e ↔ LoadFailure ws path depth e := by
  unfold Configuration.load
  dsimp only
  constructor
  · intro h
    cases hlookup : ws.lookup (PathName.parse path) with
    | absent why =>
      simp only [hlookup, invalid, Except.error.injEq] at h
      exact h ▸ .missing hlookup
    | directory =>
      simp only [hlookup, throw, throwThe, MonadExceptOf.throw, Except.error.injEq] at h
      exact h ▸ .directory hlookup
    | file bytes =>
      simp only [hlookup] at h
      cases hdecode : Text.decodeUtf8 bytes.data with
      | error err =>
        simp only [hdecode, invalid, Except.error.injEq] at h
        exact h ▸ .undecodable hlookup hdecode
      | ok text =>
        simp only [hdecode] at h
        exact .text hlookup hdecode (ofText_eq_error_iff.mp h)
  · intro h
    cases h with
    | missing hlookup => simp [hlookup, invalid]
    | directory hlookup => simp [hlookup, throw, throwThe, MonadExceptOf.throw, FileError.kind]
    | undecodable hlookup hdecode => simp [hlookup, hdecode, invalid]
    | text hlookup hdecode htext => simpa [hlookup, hdecode] using ofText_eq_error_iff.mpr htext

theorem load_eq_ok_iff {c : Configuration} :
    Configuration.load ws path depth = .ok c ↔ LoadsAs ws path depth c := by
  constructor
  · intro h
    unfold Configuration.load at h
    dsimp only at h
    cases hlookup : ws.lookup (PathName.parse path) with
    | absent why => simp [hlookup, invalid] at h
    | directory => simp [hlookup, throw, throwThe, MonadExceptOf.throw] at h
    | file bytes =>
      simp only [hlookup] at h
      cases hdecode : Text.decodeUtf8 bytes.data with
      | error err => simp [hdecode, invalid] at h
      | ok text =>
        simp only [hdecode] at h
        obtain ⟨loaded, heap, entries, hload, hroot, hkeys, hfields⟩ := ofText_eq_ok_iff.mp h
        exact ⟨bytes, text, loaded, heap, entries, hlookup, hdecode, hload, hroot, hkeys,
          hfields⟩
  · rintro ⟨bytes, text, loaded, heap, entries, hlookup, hdecode, hload, hroot, hkeys, hfields⟩
    unfold Configuration.load
    simp only [hlookup, hdecode]
    exact ofText_eq_ok_iff.mpr ⟨loaded, heap, entries, hload, hroot, hkeys, hfields⟩

/-- Loading a configuration file refuses it with the message of the first check it fails, in the
order: the file exists, is UTF-8, is YAML of a mapping, has no keys but the four, and its fields
`input_type`, `table_name`, `skip_keyed_response` and `type_paths` read. It fails with no
message only for a directory, a value YAML cannot build, or an unknown key with no text. A file
that passes every check loads as its fields read, each absent field taking its default. -/
theorem load_reports_first_failing_check (ws : Workspace) (path : String) (depth : Nat) :
    (∀ e, Configuration.load ws path depth = .error e ↔ LoadFailure ws path depth e) ∧
      ∀ c, Configuration.load ws path depth = .ok c ↔ LoadsAs ws path depth c :=
  ⟨fun _ => load_eq_error_iff, fun _ => load_eq_ok_iff⟩

/-- A configuration path that names a directory, here one holding a file, fails with no message
rather than with a configuration problem. -/
theorem directory_configuration_fails_outside_checks :
    Configuration.load ⟨[(["conf", "x"], ByteArray.empty)], []⟩ "conf" 0 =
      .error (.failure "IsADirectoryError" "[Errno 21] Is a directory: 'conf'") := by
  decide +kernel

end Load

end HiveDdl
