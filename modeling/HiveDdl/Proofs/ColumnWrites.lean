import HiveDdl.Projection
import HiveDdl.Proofs.Sequencing

/-!
# Projection as a sequence of column writes

Projection writes columns one after another: first the keyed data present in the envelope, then
one column per type path. Each write sets its column (`setField`: a column written again keeps
its first position and takes the new value) and, under the XML SerDe, appends an XPath property.
A type path's write depends on the path and the response only, never on the columns written
before it, so projection is a list of checks (`TypePath.write`) followed by a plain fold
(`project_eq`).

* `ColumnWrite`, `keyedWrites`, `TypePath.write`, `envelopeWrites`: the writes of a projection.
* `project_eq`: projection is the fold of `Projection.record` over the writes.
* `keys_setColumns`: the columns are the written names, each at its first write
  (`List.eraseDups`); `properties_foldl_record`: one property per write, in write order.
* `setColumns_perm`: writes made in another order give a permutation of the columns, as long as
  two writes of one name carry one value.
-/

namespace HiveDdl

open Schema

/-! ### Setting one field -/

section setField

variable {α : Type} {fields fields' : List (String × α)} {key key' : String} {v v' : α}

theorem setField_of_not_mem (h : key ∉ fields.map (·.1)) :
    setField fields key v = fields ++ [(key, v)] := by
  induction fields with
  | nil => rfl
  | cons p rest ih =>
    have hp : p.1 ≠ key := fun hp => h (by simp [← hp])
    have hrest : key ∉ rest.map (·.1) := fun hr => h (by simp at hr ⊢; exact .inr hr)
    simp [setField, hp, ih hrest]

theorem setField_of_mem (hnodup : (fields.map (·.1)).Nodup) (h : key ∈ fields.map (·.1)) :
    setField fields key v = fields.map fun p => if p.1 = key then (key, v) else p := by
  induction fields with
  | nil => simp at h
  | cons p rest ih =>
    simp only [List.map_cons, List.nodup_cons] at hnodup
    by_cases hp : p.1 = key
    · have hrest : key ∉ rest.map (·.1) := hp ▸ hnodup.1
      have hkeep : rest.map (fun q => if q.1 = key then (key, v) else q) = rest := by
        refine (List.map_congr_left fun q hq => ?_).trans (List.map_id rest)
        have hq' : q.1 ≠ key := fun hq' => hrest (List.mem_map.mpr ⟨q, hq, hq'⟩)
        simp [hq']
      simp [setField, hp, hkeep]
    · have hr : key ∈ rest.map (·.1) := by
        simp only [List.map_cons, List.mem_cons] at h
        exact h.resolve_left (Ne.symm hp)
      simp [setField, hp, ih hnodup.2 hr]

theorem keys_setField :
    (setField fields key v).map (·.1) =
      if key ∈ fields.map (·.1) then fields.map (·.1) else fields.map (·.1) ++ [key] := by
  split
  · exact keys_setField_of_mem fields key v ‹_›
  · simp [setField_of_not_mem ‹_›]

theorem mem_keys_setField {k : String} :
    k ∈ (setField fields key v).map (·.1) ↔ k = key ∨ k ∈ fields.map (·.1) := by
  rw [keys_setField]
  split
  · exact ⟨.inr, fun h => h.elim (fun hk => hk ▸ ‹_›) id⟩
  · simp [or_comm]

theorem nodup_keys_setField (hnodup : (fields.map (·.1)).Nodup) :
    ((setField fields key v).map (·.1)).Nodup := by
  rw [keys_setField]
  split
  · exact hnodup
  · refine List.nodup_append.mpr ⟨hnodup, by simp, fun a ha b hb hab => ?_⟩
    rw [List.mem_singleton] at hb
    exact ‹key ∉ _› (hb ▸ hab ▸ ha)

theorem setField_perm (hperm : fields.Perm fields') (hnodup : (fields.map (·.1)).Nodup) :
    (setField fields key v).Perm (setField fields' key v) := by
  have hnodup' : (fields'.map (·.1)).Nodup := (hperm.map _).nodup_iff.mp hnodup
  by_cases h : key ∈ fields.map (·.1)
  · have h' : key ∈ fields'.map (·.1) := (hperm.map _).mem_iff.mp h
    rw [setField_of_mem hnodup h, setField_of_mem hnodup' h']
    exact hperm.map _
  · have h' : key ∉ fields'.map (·.1) := fun h' => h ((hperm.map _).mem_iff.mpr h')
    rw [setField_of_not_mem h, setField_of_not_mem h']
    exact hperm.append_right _

theorem setField_swap (hnodup : (fields.map (·.1)).Nodup) (hne : key ≠ key') :
    (setField (setField fields key v) key' v').Perm (setField (setField fields key' v') key v) := by
  have hne' : key' ≠ key := Ne.symm hne
  have hnodupK : ((setField fields key v).map (·.1)).Nodup := nodup_keys_setField hnodup
  have hnodupK' : ((setField fields key' v').map (·.1)).Nodup := nodup_keys_setField hnodup
  by_cases hk : key ∈ fields.map (·.1) <;> by_cases hk' : key' ∈ fields.map (·.1)
  · have hk₁ : key' ∈ (setField fields key v).map (·.1) := mem_keys_setField.mpr (.inr hk')
    have hk₂ : key ∈ (setField fields key' v').map (·.1) := mem_keys_setField.mpr (.inr hk)
    rw [setField_of_mem hnodupK hk₁, setField_of_mem hnodupK' hk₂, setField_of_mem hnodup hk,
      setField_of_mem hnodup hk', List.map_map, List.map_map]
    refine List.Perm.of_eq (List.map_congr_left fun p _ => ?_)
    by_cases hp : p.1 = key <;> by_cases hp' : p.1 = key' <;> simp_all
  · have hk₁ : key' ∉ (setField fields key v).map (·.1) := fun h =>
      (mem_keys_setField.mp h).elim hne' hk'
    have hk₂ : key ∈ (setField fields key' v').map (·.1) := mem_keys_setField.mpr (.inr hk)
    rw [setField_of_not_mem hk₁, setField_of_mem hnodupK' hk₂, setField_of_mem hnodup hk,
      setField_of_not_mem hk']
    simp [hne']
  · have hk₁ : key' ∈ (setField fields key v).map (·.1) := mem_keys_setField.mpr (.inr hk')
    have hk₂ : key ∉ (setField fields key' v').map (·.1) := fun h =>
      (mem_keys_setField.mp h).elim hne hk
    rw [setField_of_mem hnodupK hk₁, setField_of_not_mem hk₂, setField_of_not_mem hk,
      setField_of_mem hnodup hk']
    simp [hne]
  · have hk₁ : key' ∉ (setField fields key v).map (·.1) := fun h =>
      (mem_keys_setField.mp h).elim hne' hk'
    have hk₂ : key ∉ (setField fields key' v').map (·.1) := fun h =>
      (mem_keys_setField.mp h).elim hne hk
    rw [setField_of_not_mem hk₁, setField_of_not_mem hk₂, setField_of_not_mem hk,
      setField_of_not_mem hk']
    simpa using (List.Perm.swap (key', v') (key, v) []).append_left fields

end setField

/-! ### The writes of a projection -/

/-- One column the projection writes: its name and value, the XPath of its element, and the
shape its XPath property is recorded with. -/
structure ColumnWrite where
  name : String
  value : Value
  xpath : String
  shape : Shape

def ColumnWrite.property (skipEnvelope : Bool) (w : ColumnWrite) : Option XPathProperty :=
  xpathProperty w.xpath w.name w.shape skipEnvelope

/-- Records a write: its column is set, and its property kept when properties are. -/
def Projection.record (xml skipEnvelope : Bool) (acc : Projection) (w : ColumnWrite) :
    Projection :=
  acc.add xml skipEnvelope w.xpath w.name w.value w.shape

/-- The columns the keyed data of an envelope write, in the order of the names. -/
def keyedWrites (envelope : List (String × Value)) (keyedData : List String) :
    List ColumnWrite :=
  keyedData.filterMap fun name => (lookupField envelope name).map fun v => ⟨name, v, name, .struct⟩

/-- The column a type path writes below a response. -/
def TypePath.write (response : Value) (p : TypePath) : Except ProjectionError ColumnWrite :=
  if p.isWholeResponse then .ok ⟨"Response", response, "Response", .struct⟩
  else (fun (selected : Value × String) => ⟨p.columnName, selected.1, selected.2,
    selected.1.shape⟩) <$> selectPath response p

/-- The response of a document and the columns its envelope writes. -/
def envelopeWrites (document : List (String × Value)) (skipEnvelope : Bool)
    (keyedData : List String) : Except ProjectionError (Value × List ColumnWrite) :=
  if skipEnvelope then
    (fun response => (.object response, [])) <$> requireObject document "Response" "Response"
  else do
    let envelope ← requireObject document "KeyedResponse" "KeyedResponse"
    let response ← requireObject envelope "Response" "KeyedResponse/Response"
    pure (.object response, keyedWrites envelope keyedData)

variable {xml skipEnvelope : Bool} {acc : Projection} {w : ColumnWrite} {ws : List ColumnWrite}

@[simp] theorem Projection.record_columns :
    (acc.record xml skipEnvelope w).columns = setField acc.columns w.name w.value := rfl

@[simp] theorem Projection.record_properties :
    (acc.record xml skipEnvelope w).properties =
      if xml then acc.properties ++ (w.property skipEnvelope).toList else acc.properties := rfl

theorem keyedColumns_eq (envelope : List (String × Value)) (keyedData : List String) :
    keyedColumns envelope xml skipEnvelope keyedData =
      (keyedWrites envelope keyedData).foldl (Projection.record xml skipEnvelope) ⟨[], []⟩ := by
  unfold keyedColumns keyedWrites
  generalize (⟨[], []⟩ : Projection) = acc
  induction keyedData generalizing acc with
  | nil => rfl
  | cons name rest ih =>
    cases h : lookupField envelope name <;> simp [h, ih, Projection.record]

theorem openEnvelope_eq (document : List (String × Value)) (keyedData : List String) :
    openEnvelope document skipEnvelope xml keyedData =
      (fun e => (e.1, e.2.foldl (Projection.record xml skipEnvelope) ⟨[], []⟩)) <$>
        envelopeWrites document skipEnvelope keyedData := by
  unfold openEnvelope envelopeWrites
  cases skipEnvelope with
  | true =>
    simp only [if_true]
    cases requireObject document "Response" "Response" <;> rfl
  | false =>
    simp only [Bool.false_eq_true, if_false]
    cases requireObject document "KeyedResponse" "KeyedResponse" with
    | error e => rfl
    | ok envelope =>
      simp only [bind, Except.bind]
      cases requireObject envelope "Response" "KeyedResponse/Response" with
      | error e => rfl
      | ok response => simp [pure, Except.pure, Functor.map, Except.map, keyedColumns_eq]

theorem addPath_eq (response : Value) (p : TypePath) :
    addPath response xml skipEnvelope acc p =
      Projection.record xml skipEnvelope acc <$> p.write response := by
  unfold addPath TypePath.write
  split
  · rfl
  · cases selectPath response p <;> rfl

/-- Projection checks the envelope, then every type path's write in order, and records the
writes: the keyed data first, then the type paths. -/
theorem project_eq (document : List (String × Value)) (paths : List TypePath)
    (keyedData : List String) :
    project document paths xml skipEnvelope keyedData =
      envelopeWrites document skipEnvelope keyedData >>= fun e =>
        (fun pws => (e.2 ++ pws).foldl (Projection.record xml skipEnvelope) ⟨[], []⟩) <$>
          paths.mapM (TypePath.write e.1) := by
  unfold project
  rw [openEnvelope_eq]
  cases envelopeWrites document skipEnvelope keyedData with
  | error e => rfl
  | ok e =>
    obtain ⟨response, kws⟩ := e
    show paths.foldlM (addPath response xml skipEnvelope)
      (kws.foldl (Projection.record xml skipEnvelope) ⟨[], []⟩) = _
    rw [foldlM_eq_map_mapM (addPath response xml skipEnvelope) (TypePath.write response)
      (Projection.record xml skipEnvelope) (fun acc p => addPath_eq response p)]
    cases h : paths.mapM (TypePath.write response) <;>
      simp [h, Functor.map, Except.map, bind, Except.bind]

/-! ### What the writes leave -/

def setColumns (columns : List (String × Value)) (ws : List ColumnWrite) :
    List (String × Value) :=
  ws.foldl (fun cols w => setField cols w.name w.value) columns

theorem columns_foldl_record :
    (ws.foldl (Projection.record xml skipEnvelope) acc).columns = setColumns acc.columns ws := by
  induction ws generalizing acc with
  | nil => rfl
  | cons w ws ih => exact ih

/-- One property per write, in write order, when properties are kept. -/
theorem properties_foldl_record :
    (ws.foldl (Projection.record xml skipEnvelope) acc).properties =
      acc.properties ++ if xml then ws.filterMap (·.property skipEnvelope) else [] := by
  induction ws generalizing acc with
  | nil => cases xml <;> simp
  | cons w ws ih =>
    rw [List.foldl_cons, ih, Projection.record_properties]
    cases xml <;> cases h : w.property skipEnvelope <;> simp [h]

/-! ### Column order: each name at its first write -/

theorem eraseDups_of_nodup {xs : List String} (h : xs.Nodup) : xs.eraseDups = xs := by
  induction xs with
  | nil => rfl
  | cons x xs ih =>
    rw [List.nodup_cons] at h
    have hkeep : xs.filter (fun y => !y == x) = xs := by
      refine List.filter_eq_self.mpr fun y hy => ?_
      have hne : y ≠ x := fun hyx => h.1 (hyx ▸ hy)
      simp [hne]
    rw [List.eraseDups_cons, hkeep, ih h.2]

theorem eraseDups_append_cons_of_mem {ks rest : List String} {k : String} (hk : k ∈ ks) :
    (ks ++ k :: rest).eraseDups = (ks ++ rest).eraseDups := by
  have hdrop : (k :: rest).removeAll ks = rest.removeAll ks := by
    simp [List.removeAll, hk]
  rw [List.eraseDups_append, hdrop, ← List.eraseDups_append]

/-- The columns are the written names in the order of their first write, after the columns
that were there. -/
theorem keys_setColumns {columns : List (String × Value)} (hnodup : (columns.map (·.1)).Nodup) :
    (setColumns columns ws).map (·.1) = (columns.map (·.1) ++ ws.map (·.name)).eraseDups := by
  induction ws generalizing columns with
  | nil => simp [setColumns, eraseDups_of_nodup hnodup]
  | cons w ws ih =>
    change (setColumns (setField columns w.name w.value) ws).map (·.1) = _
    rw [ih (nodup_keys_setField hnodup), keys_setField, List.map_cons]
    split
    · exact (eraseDups_append_cons_of_mem ‹_›).symm
    · rw [List.append_assoc, List.singleton_append]

/-! ### Writes in another order -/

def WritesAgree (ws : List ColumnWrite) : Prop :=
  ∀ w ∈ ws, ∀ w' ∈ ws, w.name = w'.name → w.value = w'.value

theorem setColumns_perm_of_perm_start {columns columns' : List (String × Value)}
    (hperm : columns.Perm columns') (hnodup : (columns.map (·.1)).Nodup) :
    (setColumns columns ws).Perm (setColumns columns' ws) := by
  induction ws generalizing columns columns' with
  | nil => exact hperm
  | cons w ws ih => exact ih (setField_perm hperm hnodup) (nodup_keys_setField hnodup)

/-- Writes that agree give the same columns in any order, up to the order of the columns they
add. -/
theorem setColumns_perm {ws' : List ColumnWrite} {columns : List (String × Value)}
    (hperm : ws.Perm ws') (hagree : WritesAgree ws) (hnodup : (columns.map (·.1)).Nodup) :
    (setColumns columns ws).Perm (setColumns columns ws') := by
  induction hperm generalizing columns with
  | nil => exact .refl _
  | cons w _ ih =>
    exact ih (fun a ha b hb => hagree a (by simp [ha]) b (by simp [hb]))
      (nodup_keys_setField hnodup)
  | swap a b l =>
    change (setColumns (setField (setField columns b.name b.value) a.name a.value) l).Perm
      (setColumns (setField (setField columns a.name a.value) b.name b.value) l)
    by_cases hname : b.name = a.name
    · have hvalue : b.value = a.value := hagree b (by simp) a (by simp) hname
      rw [hname, hvalue]
    · exact setColumns_perm_of_perm_start (setField_swap hnodup hname)
        (nodup_keys_setField (nodup_keys_setField hnodup))
  | trans h₁ _ ih₁ ih₂ =>
    have hagree' : WritesAgree _ := fun a ha b hb =>
      hagree a (h₁.mem_iff.mpr ha) b (h₁.mem_iff.mpr hb)
    exact (ih₁ hagree hnodup).trans (ih₂ hagree' hnodup)

/-! ### Names and shapes of the writes -/

theorem Value.shape_ne_map (v : Value) : v.shape ≠ .map := by
  cases v <;> simp [Value.shape]

theorem ColumnWrite.property_name (hshape : w.shape ≠ .map) :
    ∃ prop, w.property skipEnvelope = some prop ∧ prop.name = Text.lower w.name := by
  unfold ColumnWrite.property xpathProperty
  cases h : w.shape <;> simp_all

theorem names_filterMap_property (hshape : ∀ w ∈ ws, w.shape ≠ .map) :
    (ws.filterMap (·.property skipEnvelope)).map (·.name) = ws.map (Text.lower ·.name) := by
  induction ws with
  | nil => rfl
  | cons w ws ih =>
    obtain ⟨prop, hprop, hname⟩ :
        ∃ prop, w.property skipEnvelope = some prop ∧ prop.name = Text.lower w.name :=
      ColumnWrite.property_name (hshape w (by simp))
    rw [List.filterMap_cons, hprop]
    simp [hname, ih fun w' hw' => hshape w' (by simp [hw'])]

theorem shape_ne_map_of_mem_keyedWrites {envelope : List (String × Value)} {keyedData : List String}
    (hw : w ∈ keyedWrites envelope keyedData) : w.shape ≠ .map := by
  simp only [keyedWrites, List.mem_filterMap, Option.map_eq_some_iff] at hw
  obtain ⟨_, _, _, _, rfl⟩ := hw
  simp

theorem TypePath.write_eq_ok {response : Value} {p : TypePath} (h : p.write response = .ok w) :
    w.name = p.columnName ∧ w.shape ≠ .map := by
  unfold TypePath.write at h
  split at h
  · cases h
    have hsegments : p.segments = [] := by
      simpa [TypePath.isWholeResponse] using ‹p.isWholeResponse = true›
    exact ⟨by simp [TypePath.columnName, hsegments], by simp⟩
  · obtain ⟨⟨v, xpath⟩, -, rfl⟩ := map_eq_ok.mp h
    exact ⟨rfl, Value.shape_ne_map v⟩

end HiveDdl
