/-!
# Document values

A document, whichever format it was read from, is a tree of values: null, booleans, numbers
kept as their canonical text, strings, objects and arrays. An object keeps its fields in
document order with one field per key; setting a key that is present replaces its value in
place (`setField`), so a repeated key keeps its first position and its last value.

* `Value.lookup`: the value of a key of an object.
* `Value.scalarText`: the text of a scalar as the document wrote it.
* `Value.nesting`: how many objects and arrays nest at the deepest point.
* `Value.beq`: equality of values, decided, so facts about documents evaluate.
* `lookupField_setField_self`, `keys_setField_of_mem`: what `setField` does to the view
  `lookup` and to the key order.
-/

namespace HiveDdl

/-- A document value. -/
inductive Value where
  | null
  | bool (b : Bool)
  | number (text : String)
  | string (s : String)
  | object (fields : List (String × Value))
  | array (items : List Value)
deriving Repr, Inhabited

/-- Sets a key of a field list: a present key keeps its place and takes the new value, a new
key goes last. -/
def setField {α : Type} : List (String × α) → String → α → List (String × α)
  | [], key, v => [(key, v)]
  | p :: rest, key, v => if p.1 = key then (key, v) :: rest else p :: setField rest key v

def lookupField {α : Type} : List (String × α) → String → Option α
  | [], _ => none
  | p :: rest, key => if p.1 = key then some p.2 else lookupField rest key

namespace Value

/-- The field of an object under a key; nothing for other values. -/
def lookup : Value → String → Option Value
  | .object fields, key => lookupField fields key
  | _, _ => none

def isScalar : Value → Bool
  | .object _ | .array _ => false
  | _ => true

/-- The text of a scalar as it appeared in the document: the string itself, the number's
text, `true`, `false` or `null`. Objects and arrays have none. -/
def scalarText : Value → Option String
  | .string s => some s
  | .number t => some t
  | .bool true => some "true"
  | .bool false => some "false"
  | .null => some "null"
  | _ => none

mutual

/-- How many objects and arrays nest at the deepest point of a value: none in a scalar, one in
an object or array that holds only scalars. -/
def nesting : Value → Nat
  | .object fields => fieldsNesting fields + 1
  | .array items => itemsNesting items + 1
  | _ => 0

def fieldsNesting : List (String × Value) → Nat
  | [] => 0
  | (_, v) :: rest => max v.nesting (fieldsNesting rest)

def itemsNesting : List Value → Nat
  | [] => 0
  | v :: rest => max v.nesting (itemsNesting rest)

end

mutual

/-- Whether two values are equal: the same kind, the same scalar, the same fields in the same
order, the same items. -/
def beq : Value → Value → Bool
  | .null, .null => true
  | .bool a, .bool b => a == b
  | .number a, .number b => a == b
  | .string a, .string b => a == b
  | .object as, .object bs => fieldsBeq as bs
  | .array as, .array bs => itemsBeq as bs
  | _, _ => false
termination_by structural a => a

def fieldsBeq : List (String × Value) → List (String × Value) → Bool
  | [], [] => true
  | (k, a) :: as, (l, b) :: bs => k == l && a.beq b && fieldsBeq as bs
  | _, _ => false
termination_by structural as => as

def itemsBeq : List Value → List Value → Bool
  | [], [] => true
  | a :: as, b :: bs => a.beq b && itemsBeq as bs
  | _, _ => false
termination_by structural as => as

end

mutual

theorem beq_iff_eq : ∀ a b : Value, a.beq b = true ↔ a = b
  | .null, .null => by simp [beq]
  | .bool a, .bool b => by simp [beq]
  | .number a, .number b => by simp [beq]
  | .string a, .string b => by simp [beq]
  | .object as, .object bs => by simp [beq, fieldsBeq_iff_eq as bs]
  | .array as, .array bs => by simp [beq, itemsBeq_iff_eq as bs]
  | .null, .bool _ | .null, .number _ | .null, .string _ | .null, .object _
  | .null, .array _ | .bool _, .null | .bool _, .number _ | .bool _, .string _
  | .bool _, .object _ | .bool _, .array _ | .number _, .null | .number _, .bool _
  | .number _, .string _ | .number _, .object _ | .number _, .array _ | .string _, .null
  | .string _, .bool _ | .string _, .number _ | .string _, .object _ | .string _, .array _
  | .object _, .null | .object _, .bool _ | .object _, .number _ | .object _, .string _
  | .object _, .array _ | .array _, .null | .array _, .bool _ | .array _, .number _
  | .array _, .string _ | .array _, .object _ => by simp [beq]

theorem fieldsBeq_iff_eq : ∀ as bs : List (String × Value), fieldsBeq as bs = true ↔ as = bs
  | [], [] => by simp [fieldsBeq]
  | (k, a) :: as, (l, b) :: bs => by
    simp [fieldsBeq, beq_iff_eq a b, fieldsBeq_iff_eq as bs, and_assoc]
  | [], _ :: _ | _ :: _, [] => by simp [fieldsBeq]

theorem itemsBeq_iff_eq : ∀ as bs : List Value, itemsBeq as bs = true ↔ as = bs
  | [], [] => by simp [itemsBeq]
  | a :: as, b :: bs => by simp [itemsBeq, beq_iff_eq a b, itemsBeq_iff_eq as bs]
  | [], _ :: _ | _ :: _, [] => by simp [itemsBeq]

end

instance : DecidableEq Value := fun a b => decidable_of_iff _ (beq_iff_eq a b)

end Value

theorem lookupField_setField_self {α : Type} (fields : List (String × α)) (key : String)
    (v : α) : lookupField (setField fields key v) key = some v := by
  induction fields with
  | nil => simp [setField, lookupField]
  | cons p rest ih =>
    by_cases hp : p.1 = key
    · simp [setField, lookupField, hp]
    · simp [setField, lookupField, hp, ih]

theorem lookupField_setField_ne {α : Type} (fields : List (String × α)) {key other : String}
    (v : α) (ne : other ≠ key) : lookupField (setField fields key v) other = lookupField fields other := by
  induction fields with
  | nil => simp [setField, lookupField, Ne.symm ne]
  | cons p rest ih =>
    by_cases hp : p.1 = key
    · subst hp
      simp [setField, lookupField, Ne.symm ne]
    · by_cases ho : p.1 = other
      · subst ho
        simp [setField, lookupField, hp]
      · simp [setField, lookupField, hp, ho, ih]

/-- Setting a present key leaves the key order as it was. -/
theorem keys_setField_of_mem {α : Type} (fields : List (String × α)) (key : String) (v : α)
    (h : key ∈ fields.map (·.1)) : (setField fields key v).map (·.1) = fields.map (·.1) := by
  induction fields with
  | nil => simp at h
  | cons p rest ih =>
    by_cases hp : p.1 = key
    · simp [setField, hp]
    · have hr : key ∈ rest.map (·.1) := by
        simp only [List.map_cons, List.mem_cons] at h
        exact h.resolve_left (Ne.symm hp)
      simp [setField, hp, ih hr]

end HiveDdl
