import HiveDdl.Proofs.FailureOrder
import HiveDdl.Proofs.TypeFailures
/-!
# XML documents have no empty objects or arrays

An XML element becomes an object only when it has an attribute, a child element or text, and a
key becomes an array only when it is met a second time in one element; an element with nothing
in it becomes the empty string. So the document value of every XML text that reads has no empty
object and no empty array at any depth (`Value.Dense`), and since projection only takes subtrees
of the document, type inference never meets an empty object or array in an XML run: a run in XML
mode never fails for want of a type.

Proof. The reader keeps a stack of open elements, each with the fields gathered so far or none.
Every gathered field list is non-empty and dense, and every value added to one is dense: a scalar,
an object closed from a non-empty field list, or an array merged from a value already there and
a new one. That invariant of the stack (`Xml.StackDense`) holds at the start, is kept by every
step of the content reader, and gives a dense document when the root closes.

* `Value.Dense`: no empty object and no empty array at any depth; `Value.isDense` decides it.
* `Xml.readContent_dense`: the content reader keeps the stack dense.
* `Xml.read_dense`, `readXmlDocument_dense`: the document of an XML text is dense.
* `Value.Dense.resolve`, `Value.Dense.selectPath`, `Stages.columns_dense`: subtrees of dense
  values are dense, and so are the columns projected from a dense document.
* `Value.Dense.inferAt_ok`: inference succeeds on a dense value.
* `generate_ne_type_error_of_xml`, `xml_documents_have_no_empty_values`.
-/

namespace HiveDdl

/-! ## Dense values -/

/-- A value with no empty object and no empty array at any depth. -/
inductive Value.Dense : Value → Prop
  | null : Value.Dense .null
  | bool (b : Bool) : Value.Dense (.bool b)
  | number (text : String) : Value.Dense (.number text)
  | string (s : String) : Value.Dense (.string s)
  | object {fields : List (String × Value)} :
      fields ≠ [] → (∀ p ∈ fields, Value.Dense p.2) → Value.Dense (.object fields)
  | array {items : List Value} :
      items ≠ [] → (∀ v ∈ items, Value.Dense v) → Value.Dense (.array items)

namespace Value.Dense

theorem fields_ne_nil {fields : List (String × Value)} (h : (Value.object fields).Dense) :
    fields ≠ [] := by
  cases h with
  | object hne _ => exact hne

theorem of_mem_fields {fields : List (String × Value)} (h : (Value.object fields).Dense)
    {p : String × Value} (hp : p ∈ fields) : p.2.Dense := by
  cases h with
  | object _ hall => exact hall p hp

theorem of_mem_items {items : List Value} (h : (Value.array items).Dense) {v : Value}
    (hv : v ∈ items) : v.Dense := by
  cases h with
  | array _ hall => exact hall v hv

end Value.Dense

namespace Value

mutual

def isDense : Value → Bool
  | .object fields => !fields.isEmpty && fieldsDense fields
  | .array items => !items.isEmpty && itemsDense items
  | _ => true

def fieldsDense : List (String × Value) → Bool
  | [] => true
  | (_, v) :: rest => v.isDense && fieldsDense rest

def itemsDense : List Value → Bool
  | [] => true
  | v :: rest => v.isDense && itemsDense rest

end

mutual

theorem isDense_iff : ∀ v : Value, v.isDense = true ↔ v.Dense
  | .object fields => by
    rw [isDense, Bool.and_eq_true, fieldsDense_iff fields, Bool.not_eq_true',
      List.isEmpty_eq_false_iff]
    exact ⟨fun ⟨hne, hall⟩ => .object hne hall,
      fun h => ⟨h.fields_ne_nil, fun _ => h.of_mem_fields⟩⟩
  | .array items => by
    rw [isDense, Bool.and_eq_true, itemsDense_iff items, Bool.not_eq_true',
      List.isEmpty_eq_false_iff]
    refine ⟨fun ⟨hne, hall⟩ => .array hne hall, fun h => ?_⟩
    cases h with
    | array hne hall => exact ⟨hne, hall⟩
  | .null => ⟨fun _ => .null, fun _ => rfl⟩
  | .bool b => ⟨fun _ => .bool b, fun _ => rfl⟩
  | .number text => ⟨fun _ => .number text, fun _ => rfl⟩
  | .string s => ⟨fun _ => .string s, fun _ => rfl⟩

theorem fieldsDense_iff : ∀ fields : List (String × Value),
    fieldsDense fields = true ↔ ∀ p ∈ fields, p.2.Dense
  | [] => by simp [fieldsDense]
  | (_, v) :: rest => by
    rw [fieldsDense, Bool.and_eq_true, isDense_iff v, fieldsDense_iff rest, List.forall_mem_cons]

theorem itemsDense_iff : ∀ items : List Value,
    itemsDense items = true ↔ ∀ v ∈ items, v.Dense
  | [] => by simp [itemsDense]
  | v :: rest => by
    rw [itemsDense, Bool.and_eq_true, isDense_iff v, itemsDense_iff rest, List.forall_mem_cons]

end

instance (v : Value) : Decidable v.Dense :=
  decidable_of_iff _ (isDense_iff v)

example : ¬ (Value.object [("a", .object [("b", .array [])])]).Dense := by decide

end Value

theorem mem_of_lookupField {α : Type} {fields : List (String × α)} {key : String} {v : α}
    (h : lookupField fields key = some v) : (key, v) ∈ fields := by
  induction fields with
  | nil => cases h
  | cons p rest ih =>
    rw [lookupField] at h
    split at h
    · cases h
      rename_i hkey
      obtain ⟨k, w⟩ := p
      cases hkey
      exact List.mem_cons_self
    · exact List.mem_cons_of_mem p (ih h)

theorem mem_setField {α : Type} {fields : List (String × α)} {key : String} {v : α}
    {p : String × α} (h : p ∈ setField fields key v) : p ∈ fields ∨ p = (key, v) := by
  induction fields with
  | nil =>
    rw [setField, List.mem_singleton] at h
    exact .inr h
  | cons q rest ih =>
    rw [setField] at h
    split at h
    · rcases List.mem_cons.mp h with rfl | h
      · exact .inr rfl
      · exact .inl (List.mem_cons_of_mem q h)
    · rcases List.mem_cons.mp h with rfl | h
      · exact .inl List.mem_cons_self
      · exact (ih h).imp_left (List.mem_cons_of_mem q)

theorem setField_ne_nil {α : Type} (fields : List (String × α)) (key : String) (v : α) :
    setField fields key v ≠ [] := by
  cases fields with
  | nil => simp [setField]
  | cons q rest =>
    rw [setField]
    split <;> simp

/-! ## Building elements -/

namespace Xml

def ItemDense : Item → Prop
  | none => True
  | some fields => (Value.object fields).Dense

def StackDense (stack : List Frame) : Prop :=
  ∀ f ∈ stack, ItemDense f.item

theorem Scalar.toValue_dense (sc : Scalar) : sc.toValue.Dense := by
  cases sc <;> constructor

theorem scalarValue_dense {s : String} {v : Value} (h : scalarValue s = .ok v) : v.Dense := by
  unfold scalarValue at h
  split at h
  · cases h
    exact Scalar.toValue_dense _
  · cases h

theorem ItemDense.fields {item : Item} (h : ItemDense item) :
    ∀ p ∈ item.getD [], p.2.Dense := by
  cases item with
  | none => simp
  | some fields => exact fun p hp => Value.Dense.of_mem_fields h hp

theorem pushValue_dense {item : Item} (hitem : ItemDense item) (key : String) {v : Value}
    (hv : v.Dense) : (Value.object (pushValue item key v)).Dense := by
  have hfields := hitem.fields
  unfold pushValue
  dsimp only
  split
  · rename_i xs hxs
    have hold : (Value.array xs).Dense := hfields _ (mem_of_lookupField hxs)
    refine .object (setField_ne_nil _ _ _) fun p hp => ?_
    rcases mem_setField hp with hp | rfl
    · exact hfields p hp
    · refine .array (by simp) fun w hw => ?_
      rcases List.mem_append.mp hw with hw | hw
      · exact hold.of_mem_items hw
      · rw [List.mem_singleton.mp hw]
        exact hv
  · rename_i old _ hold
    have hold : old.Dense := hfields _ (mem_of_lookupField hold)
    refine .object (setField_ne_nil _ _ _) fun p hp => ?_
    rcases mem_setField hp with hp | rfl
    · exact hfields p hp
    · refine .array (by simp) fun w hw => ?_
      rcases List.mem_pair.mp hw with rfl | rfl
      · exact hold
      · exact hv
  · refine .object (by simp) fun p hp => ?_
    rcases List.mem_append.mp hp with hp | hp
    · exact hfields p hp
    · rw [List.mem_singleton.mp hp]
      exact hv

theorem openElement_dense {name : String} {attrs : List (String × String)} {f : Frame}
    (h : openElement name attrs = .ok f) : ItemDense f.item := by
  unfold openElement at h
  obtain ⟨fields, hfields, h⟩ := bind_eq_ok.mp h
  cases pure_eq_ok.mp h
  split
  · trivial
  · rename_i hne
    refine .object (by simpa using hne) fun p hp => ?_
    obtain ⟨a, -, ha⟩ := exists_of_mem_mapM_ok hfields hp
    obtain ⟨v, hv, hpair⟩ := bind_eq_ok.mp ha
    cases pure_eq_ok.mp hpair
    exact scalarValue_dense hv

theorem closeElement_dense {f : Frame} {parent : Item} {fields : List (String × Value)}
    (hf : ItemDense f.item) (hparent : ItemDense parent) (h : closeElement f parent = .ok fields) :
    (Value.object fields).Dense := by
  unfold closeElement at h
  dsimp only at h
  split at h
  · rename_i own hown
    rw [hown] at hf
    split at h
    · obtain ⟨v, hv, h⟩ := bind_eq_ok.mp h
      obtain ⟨closed, hclosed, h⟩ := bind_eq_ok.mp h
      cases pure_eq_ok.mp hclosed
      cases pure_eq_ok.mp h
      exact pushValue_dense hparent _ (pushValue_dense hf _ (scalarValue_dense hv))
    · obtain ⟨closed, hclosed, h⟩ := bind_eq_ok.mp h
      cases pure_eq_ok.mp hclosed
      cases pure_eq_ok.mp h
      exact pushValue_dense hparent _ hf
  · split at h
    · obtain ⟨v, hv, h⟩ := bind_eq_ok.mp h
      cases pure_eq_ok.mp h
      exact pushValue_dense hparent _ (scalarValue_dense hv)
    · obtain ⟨v, hv, h⟩ := bind_eq_ok.mp h
      cases pure_eq_ok.mp hv
      cases pure_eq_ok.mp h
      exact pushValue_dense hparent _ (.string "")

theorem StackDense.cons {f : Frame} {stack : List Frame} (hf : ItemDense f.item)
    (h : StackDense stack) : StackDense (f :: stack) :=
  List.forall_mem_cons.mpr ⟨hf, h⟩

theorem StackDense.head {f : Frame} {stack : List Frame} (h : StackDense (f :: stack)) :
    ItemDense f.item :=
  (List.forall_mem_cons.mp h).1

theorem StackDense.tail {f : Frame} {stack : List Frame} (h : StackDense (f :: stack)) :
    StackDense stack :=
  (List.forall_mem_cons.mp h).2

theorem addText_dense {stack : List Frame} (h : StackDense stack) (cs : List Char) :
    StackDense (addText stack cs) := by
  cases stack with
  | nil => exact h
  | cons f rest => exact StackDense.cons h.head h.tail

theorem closeTop_dense {f : Frame} {rest : List Frame} (h : StackDense (f :: rest))
    {r : List Frame ⊕ List (String × Value)} (hclose : closeTop (f :: rest) = .ok r) :
    (∀ stack', r = .inl stack' → StackDense stack') ∧
      ∀ doc, r = .inr doc → (Value.object doc).Dense := by
  cases rest with
  | nil =>
    obtain ⟨doc, hdoc, hr⟩ := bind_eq_ok.mp hclose
    cases pure_eq_ok.mp hr
    refine ⟨nofun, fun _ hdoc' => ?_⟩
    cases hdoc'
    exact closeElement_dense h.head (show ItemDense none from trivial) hdoc
  | cons parent rest =>
    obtain ⟨fields, hfields, hr⟩ := bind_eq_ok.mp hclose
    cases pure_eq_ok.mp hr
    refine ⟨fun stack' hstack' => ?_, nofun⟩
    cases hstack'
    exact StackDense.cons (closeElement_dense h.head h.tail.head hfields) h.tail.tail

/-! ## Reading the root element -/

section Reading

variable {dtd : Dtd} {fuel : Nat} {res : List (String × Value) × Nat × List Char}

theorem readAfterClose_dense {f : Frame} {rest : List Frame} {o : Nat} {cs : List Char}
    (hstack : StackDense (f :: rest)) {r : List Frame ⊕ List (String × Value)}
    (hr : closeTop (f :: rest) = .ok r)
    (ih : ∀ {stack}, StackDense stack → readContent dtd fuel o cs stack = .ok res →
      (Value.object res.1).Dense)
    (h : (match r with
      | .inl stack' => readContent dtd fuel o cs stack'
      | .inr doc => pure (doc, o, cs)) = .ok res) :
    (Value.object res.1).Dense := by
  obtain ⟨hkeep, hdoc⟩ := closeTop_dense hstack hr
  cases r with
  | inl stack' => exact ih (hkeep stack' rfl) h
  | inr doc =>
    cases pure_eq_ok.mp h
    exact hdoc doc rfl

theorem readContent_dense {o : Nat} {cs : List Char} {stack : List Frame}
    (hstack : StackDense stack) (h : readContent dtd fuel o cs stack = .ok res) :
    (Value.object res.1).Dense := by
  -- induction on the fuel, the stack invariant carried through every step
  induction fuel generalizing o cs stack with
  | zero => simp [readContent, stopAt] at h
  | succ fuel ih =>
    simp only [readContent] at h
    repeat' split at h
    all_goals try (simp only [stopAt, stopScan, reduceCtorEq] at h)
    all_goals try (exact ih hstack h)
    all_goals try (exact ih (addText_dense hstack _) h)
    · obtain ⟨r, hr, h⟩ := bind_eq_ok.mp h
      exact readAfterClose_dense hstack hr ih h
    · obtain ⟨attrs, -, h⟩ := bind_eq_ok.mp h
      obtain ⟨frame, hframe, h⟩ := bind_eq_ok.mp h
      obtain ⟨r, hr, h⟩ := bind_eq_ok.mp h
      exact readAfterClose_dense (StackDense.cons (openElement_dense hframe) hstack) hr ih h
    · obtain ⟨attrs, -, h⟩ := bind_eq_ok.mp h
      obtain ⟨frame, hframe, h⟩ := bind_eq_ok.mp h
      exact ih (StackDense.cons (openElement_dense hframe) hstack) h
    · obtain ⟨text, -, h⟩ := bind_eq_ok.mp h
      exact ih (addText_dense hstack text) h

theorem unexpected_ne_ok {α : Type} (t : PrologToken) (o : Nat) (a : α) :
    unexpected t o ≠ .ok a := by
  unfold unexpected
  split <;> simp [stopAt]

theorem readProlog_dense {fuel : Nat} {stage : PrologStage} {dtd : Dtd} {o : Nat} {cs : List Char}
    {doc : List (String × Value)} (h : readProlog fuel stage dtd o cs = .ok doc) :
    (Value.object doc).Dense := by
  induction fuel generalizing stage dtd o cs with
  | zero => simp [readProlog, stopAt] at h
  | succ fuel ih =>
    simp only [readProlog] at h
    repeat' split at h
    all_goals try (simp only [stopAt, stopScan, reduceCtorEq] at h)
    all_goals try (exact ih h)
    · obtain ⟨⟨root, o', rest⟩, hroot, h⟩ := bind_eq_ok.mp h
      obtain ⟨_, -, h⟩ := bind_eq_ok.mp h
      cases pure_eq_ok.mp h
      exact readContent_dense (List.forall_mem_nil _) hroot
    · exact absurd h (unexpected_ne_ok _ _ _)

end Reading

theorem read_dense {text : String} {doc : List (String × Value)} (h : read text = .ok doc) :
    (Value.object doc).Dense :=
  readProlog_dense h

end Xml

/-! ## The document of an XML text -/

theorem checkConversion_eq_ok {depth : Nat} {v w : Value} (h : checkConversion depth v = .ok w) :
    w = v := by
  unfold checkConversion at h
  split at h
  · cases h
    rfl
  · split at h
    · cases h
    · cases h
      rfl

theorem readXmlDocument_dense {text : String} {depth : Nat} {fields : List (String × Value)}
    (h : readXmlDocument text depth = .ok fields) : (Value.object fields).Dense := by
  unfold readXmlDocument at h
  split at h
  · rename_i doc hdoc
    obtain ⟨v, hv, h⟩ := bind_eq_ok.mp h
    cases checkConversion_eq_ok hv
    cases h
    exact Xml.read_dense hdoc
  all_goals cases h

/-! ## Subtrees of dense values -/

namespace Value.Dense

variable {v : Value}

theorem step (hv : v.Dense) {segment : String} {next : Value}
    (h : step v segment = .ok (some next)) : next.Dense := by
  cases hv with
  | object _ hall => exact hall _ (mem_of_lookupField (Except.ok.inj h))
  | array _ hall =>
    cases hindex : asciiIndex? segment with
    | error e => simp [HiveDdl.step, hindex, Except.map] at h
    | ok i =>
      simp only [HiveDdl.step, hindex, Except.map, Except.ok.injEq] at h
      obtain ⟨i, -, hi⟩ := Option.bind_eq_some_iff.mp h
      exact hall next (List.mem_of_getElem? hi)
  | _ => cases h

theorem resolve (hv : v.Dense) {segments : List String} {expression : String} {w : Value}
    (h : HiveDdl.resolve v segments expression = .ok w) : w.Dense := by
  induction segments generalizing v with
  | nil =>
    cases h
    exact hv
  | cons raw rest ih =>
    rw [HiveDdl.resolve] at h
    split at h
    · exact ih (hv.step ‹_›) h
    · cases h
    · cases h

theorem selectPath (hv : v.Dense) {p : TypePath} {w : Value} {xpath : String}
    (h : HiveDdl.selectPath v p = .ok (w, xpath)) : w.Dense := by
  unfold HiveDdl.selectPath at h
  obtain ⟨found, hfound, h⟩ := bind_eq_ok.mp h
  have hdense := hv.resolve (mapError_eq_ok.mp hfound)
  split at h
  · cases pure_eq_ok.mp h
    exact hdense
  · split at h
    · split at h
      · cases pure_eq_ok.mp h
        exact hdense.of_mem_items (List.mem_of_find?_eq_some ‹_›)
      · cases h
    · cases h

theorem requireObject {fields inner : List (String × Value)} {key path : String}
    (hv : (Value.object fields).Dense) (h : HiveDdl.requireObject fields key path = .ok inner) :
    (Value.object inner).Dense := by
  unfold HiveDdl.requireObject at h
  split at h
  · cases h
    exact hv.of_mem_fields (mem_of_lookupField ‹_›)
  · cases h

end Value.Dense

theorem envelopeWrites_dense {document : List (String × Value)} {skipEnvelope : Bool}
    {keyedData : List String} {response : Value} {keyed : List ColumnWrite}
    (hdoc : (Value.object document).Dense)
    (h : envelopeWrites document skipEnvelope keyedData = .ok (response, keyed)) :
    response.Dense ∧ ∀ w ∈ keyed, w.value.Dense := by
  unfold envelopeWrites at h
  split at h
  · obtain ⟨inner, hinner, hpair⟩ := map_eq_ok.mp h
    cases hpair
    exact ⟨hdoc.requireObject hinner, by simp⟩
  · obtain ⟨envelope, henvelope, h⟩ := bind_eq_ok.mp h
    obtain ⟨inner, hinner, hpair⟩ := bind_eq_ok.mp h
    cases pure_eq_ok.mp hpair
    have hdense := hdoc.requireObject henvelope
    refine ⟨hdense.requireObject hinner, fun w hw => ?_⟩
    obtain ⟨name, -, hname⟩ := List.mem_filterMap.mp hw
    obtain ⟨v, hv, rfl⟩ := Option.map_eq_some_iff.mp hname
    exact hdense.of_mem_fields (mem_of_lookupField hv)

theorem TypePath.write_dense {response : Value} {p : TypePath} {w : ColumnWrite}
    (hresponse : response.Dense) (h : p.write response = .ok w) : w.value.Dense := by
  unfold TypePath.write at h
  split at h
  · cases h
    exact hresponse
  · obtain ⟨⟨v, xpath⟩, hselect, rfl⟩ := map_eq_ok.mp h
    exact hresponse.selectPath hselect

theorem setColumns_dense {columns : List (String × Value)} {ws : List ColumnWrite}
    (hcolumns : ∀ c ∈ columns, c.2.Dense) (hws : ∀ w ∈ ws, w.value.Dense) :
    ∀ c ∈ setColumns columns ws, c.2.Dense := by
  induction ws generalizing columns with
  | nil => exact hcolumns
  | cons w ws ih =>
    refine ih (fun c hc => ?_) fun w' hw' => hws w' (List.mem_cons_of_mem w hw')
    rcases mem_setField hc with hc | rfl
    · exact hcolumns c hc
    · exact hws w List.mem_cons_self

/-- Every column a run over a dense document projects holds a dense value. -/
theorem Stages.columns_dense {text : String} {s : Settings} {depth : Nat} {t : Stages}
    (hstages : t.Of text s depth) (hdoc : (Value.object t.document).Dense) :
    ∀ c ∈ (t.projection s).columns, c.2.Dense := by
  obtain ⟨-, -, henvelope, hselected⟩ := hstages
  obtain ⟨hresponse, hkeyed⟩ := envelopeWrites_dense hdoc henvelope
  rw [Stages.projection, columns_foldl_record]
  refine setColumns_dense (by simp) fun w hw => ?_
  rcases List.mem_append.mp hw with hw | hw
  · exact hkeyed w hw
  · obtain ⟨p, -, hp⟩ := exists_of_mem_mapM_ok hselected hw
    exact TypePath.write_dense hresponse hp

/-! ## Inference on dense values -/

namespace Schema

theorem mem_fieldNodes {location : String} {fields : List (String × Value)}
    {node : String × Value} (h : node ∈ fieldNodes location fields) :
    ∃ c ∈ fields, ∃ at_, node ∈ inspectedNodes at_ c.2 := by
  induction fields with
  | nil => simp [fieldNodes] at h
  | cons c rest ih =>
    obtain ⟨key, child⟩ := c
    rw [fieldNodes, List.mem_append] at h
    rcases h with h | h
    · exact ⟨_, List.mem_cons_self, _, h⟩
    · obtain ⟨c', hc', at_, hnode⟩ := ih h
      exact ⟨c', List.mem_cons_of_mem _ hc', at_, hnode⟩

end Schema

open Schema

theorem Value.Dense.of_mem_inspectedNodes {v : Value} (hv : v.Dense) :
    ∀ {location : String} {node : String × Value}, node ∈ inspectedNodes location v →
      node.2.Dense := by
  induction hv with
  | object hne hall ih =>
    intro location node h
    rw [inspectedNodes, List.mem_cons] at h
    rcases h with rfl | h
    · exact .object hne hall
    · obtain ⟨c, hc, at_, hnode⟩ := mem_fieldNodes h
      exact ih c hc hnode
  | @array items hne hall ih =>
    intro location node h
    cases items with
    | nil => exact absurd rfl hne
    | cons first rest =>
      rw [inspectedNodes, List.mem_cons] at h
      rcases h with rfl | h
      · exact .array hne hall
      · exact ih first List.mem_cons_self h
  | _ =>
    intro location node h
    simp only [inspectedNodes, List.mem_singleton] at h
    subst h
    constructor

theorem Value.Dense.emptyFailure {v : Value} (hv : v.Dense) (location : String) :
    emptyFailure (location, v) = none := by
  cases hv with
  | object hne _ =>
    obtain ⟨c, cs, rfl⟩ := List.exists_cons_of_ne_nil hne
    rfl
  | array hne _ =>
    obtain ⟨first, rest, rfl⟩ := List.exists_cons_of_ne_nil hne
    rfl
  | _ => rfl

theorem Value.Dense.inferAt_ok {v : Value} (hv : v.Dense) (hint location : String) :
    ∃ ty, inferAt hint location v = .ok ty :=
  inferAt_ok_iff.mpr fun node hnode => (hv.of_mem_inspectedNodes hnode).emptyFailure node.1

/-! ## Runs in XML mode -/

theorem readDocument_xml_dense {text : String} {depth : Nat} {fields : List (String × Value)}
    (h : readDocument .xml text depth = .ok fields) : (Value.object fields).Dense :=
  readXmlDocument_dense h

theorem columnDefinition_ne_error_of_dense {key : String} {v : Value} (hv : v.Dense)
    (e : TypeError) : columnDefinition key v ≠ .error e := by
  obtain ⟨ty, hty⟩ := hv.inferAt_ok key key
  rw [columnDefinition, renderType, HiveType.infer, hty]
  intro h
  cases h

/-- A run in XML mode never fails for want of a type: the document is dense, its columns are
subtrees of it, and inference succeeds on dense values. -/
theorem generate_ne_type_error_of_xml {text : String} {s : Settings} {depth : Nat}
    (hxml : s.format = .xml) (e : TypeError) : generate text s depth ≠ .error (.type e) := by
  intro h
  -- a type failure is a failure of the first column without a definition
  cases runFailure_of_generate_eq_error h with
  | @column t _ hstages hfail =>
    obtain ⟨pre, c, post, hcolumns, -, hc⟩ := hfail
    have hread := hstages.2.1
    rw [hxml] at hread
    have hcolumn : c.2.Dense :=
      Stages.columns_dense hstages (readDocument_xml_dense hread) c (by simp [hcolumns])
    exact columnDefinition_ne_error_of_dense hcolumn e hc

/-- Every XML document that reads has no empty object and no empty array at any depth, so a run
over XML never fails with an empty object or an empty array. -/
theorem xml_documents_have_no_empty_values :
    (∀ (text : String) (depth : Nat) (fields : List (String × Value)),
      readDocument .xml text depth = .ok fields → (Value.object fields).Dense) ∧
    ∀ (text : String) (s : Settings) (depth : Nat) (e : TypeError),
      s.format = .xml → generate text s depth ≠ .error (.type e) :=
  ⟨fun _ _ _ h => readDocument_xml_dense h,
    fun _ _ _ e hxml => generate_ne_type_error_of_xml hxml e⟩

/-- An envelope whose response repeats an empty element and has an element of one attribute. -/
theorem xml_documents_have_no_empty_values_envelope :
    let text := "<KeyedResponse><Response><a/><a>1</a><b x=\"2\"/></Response></KeyedResponse>"
    let s : Settings := ⟨.xml, "hive_table", false, .entries [.string "Response"]⟩
    (∃ fields, readDocument .xml text 0 = .ok fields ∧ (Value.object fields).Dense) ∧
      s.format = .xml ∧ ∀ e, generate text s 0 ≠ .error (.type e) := by
  intro text s
  obtain ⟨fields, hfields⟩ :=
    exists_eq_ok_of_isOk (show (readDocument .xml text 0).isOk = true by decide +kernel)
  exact ⟨⟨fields, hfields, xml_documents_have_no_empty_values.1 text 0 fields hfields⟩, rfl,
    fun e => xml_documents_have_no_empty_values.2 text s 0 e rfl⟩

end HiveDdl
