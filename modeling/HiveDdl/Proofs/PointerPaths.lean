import HiveDdl.Path.Resolve
import HiveDdl.Proofs.Sequencing
/-!
# Following escaped pointer paths

A place in a document is reached by steps: the field of an object under a key, or the item of an
array at an index (`PathStep`, `Value.follow`). Written as a pointer path, a key is escaped, `~` to
`~0` and then `/` to `~1` (`escapeSegment`), and an index is written in decimal
(`PathStep.encode`). Resolving the written path reaches the same place: unescaping, `~1` to `/`
and then `~0` to `~`, gives every key back, keys that look like indexes included, and an index
written in decimal is read back as that index. An index is read as an integer, so one of
`10 ^ integerDigitLimit` or more, written in too many digits (`PathStep.overlong`), stops the
resolution with the integer error instead; no array of fewer items has such an index.

Each escaping pass replaces one character, and a pass that replaces one character rewrites the
characters one by one; so escaping is a map over the characters of the key (`escapeSegment_eq`),
and unescaping undoes it a character at a time (`unescapeSlashes_escapeChars`,
`unescapeTildes_tildeChars`).

* `unescapeSegment_escapeSegment`: unescaping undoes escaping.
* `PathStep.step_encode`: one written step leads where the step leads, or fails if overlong.
* `resolve_encode`: a written path leads where its steps lead, or stops at the first overlong
  index.
-/

namespace HiveDdl

/-! ## Escaping -/

/-- Replaces every occurrence of a character by a text, as replacing a one-character pattern in a
text does. -/
def replaceChar (c : Char) (r : List Char) (cs : List Char) : List Char :=
  cs.flatMap fun d => if d = c then r else [d]

/-- The JSON pointer escape of a key: every `~` becomes `~0`, then every `/` becomes `~1`. -/
def escapeSegment (key : String) : String :=
  String.ofList (replaceChar '/' ['~', '1'] (replaceChar '~' ['~', '0'] key.toList))

def escapeChar (d : Char) : List Char :=
  if d = '~' then ['~', '0'] else if d = '/' then ['~', '1'] else [d]

def tildeChar (d : Char) : List Char :=
  if d = '~' then ['~', '0'] else [d]

/-- The two passes of escaping write each character on its own. -/
theorem escapeSegment_eq (key : String) :
    (escapeSegment key).toList = key.toList.flatMap escapeChar := by
  rw [escapeSegment, String.toList_ofList, replaceChar, replaceChar, List.flatMap_assoc]
  congr 1
  funext d
  by_cases htilde : d = '~'
  · simp [escapeChar, htilde]
  · by_cases hslash : d = '/' <;> simp [escapeChar, htilde, hslash]

theorem unescapeSlashes_escapeChar (d : Char) (rest : List Char) :
    unescapeSlashes (escapeChar d ++ rest) = tildeChar d ++ unescapeSlashes rest := by
  by_cases htilde : d = '~'
  · subst htilde
    simp [escapeChar, tildeChar, unescapeSlashes]
  · by_cases hslash : d = '/'
    · subst hslash
      simp [escapeChar, tildeChar, unescapeSlashes]
    · simp only [escapeChar, tildeChar, htilde, hslash, if_false, List.singleton_append]
      simp [unescapeSlashes, htilde]

theorem unescapeTildes_tildeChar (d : Char) (rest : List Char) :
    unescapeTildes (tildeChar d ++ rest) = d :: unescapeTildes rest := by
  by_cases htilde : d = '~'
  · subst htilde
    simp [tildeChar, unescapeTildes]
  · simp only [tildeChar, htilde, if_false, List.singleton_append]
    simp [unescapeTildes, htilde]

theorem unescapeSlashes_escapeChars (cs : List Char) :
    unescapeSlashes (cs.flatMap escapeChar) = cs.flatMap tildeChar := by
  induction cs with
  | nil => rfl
  | cons d rest ih => rw [List.flatMap_cons, unescapeSlashes_escapeChar, ih, List.flatMap_cons]

theorem unescapeTildes_tildeChars (cs : List Char) :
    unescapeTildes (cs.flatMap tildeChar) = cs := by
  induction cs with
  | nil => rfl
  | cons d rest ih => rw [List.flatMap_cons, unescapeTildes_tildeChar, ih]

/-- Unescaping undoes escaping, for every key. -/
theorem unescapeSegment_escapeSegment (key : String) :
    unescapeSegment (escapeSegment key) = key := by
  rw [unescapeSegment, escapeSegment_eq, unescapeSlashes_escapeChars, unescapeTildes_tildeChars,
    String.ofList_toList]

/-! ## Indexes in decimal -/

theorem escapeChars_of_forall {cs : List Char} (h : ∀ d ∈ cs, d ≠ '~' ∧ d ≠ '/') :
    cs.flatMap escapeChar = cs := by
  induction cs with
  | nil => rfl
  | cons d rest ih =>
    obtain ⟨htilde, hslash⟩ := h d List.mem_cons_self
    rw [List.flatMap_cons, ih fun e he => h e (List.mem_cons_of_mem d he)]
    simp [escapeChar, htilde, hslash]

theorem isDigit_of_mem_repr {i : Nat} {d : Char} (h : d ∈ (Nat.repr i).toList) : d.isDigit :=
  Nat.isDigit_of_mem_toDigits (by decide) (by decide) (Nat.toList_repr ▸ h)

theorem length_repr_ten_pow (n : Nat) : (Nat.repr (10 ^ n)).length = n + 1 := by
  have hle : (Nat.repr (10 ^ n)).length ≤ n + 1 :=
    (Nat.length_repr_le_iff (Nat.succ_pos n)).mpr
      (Nat.pow_lt_pow_right (by decide) (Nat.lt_succ_self n))
  have hgt : n < (Nat.repr (10 ^ n)).length := by
    rcases Nat.eq_zero_or_pos n with rfl | hn
    · exact Nat.length_repr_pos
    · exact Nat.lt_of_not_le fun h => Nat.lt_irrefl _ ((Nat.length_repr_le_iff hn).mp h)
  omega

theorem escapeSegment_repr (i : Nat) : escapeSegment (Nat.repr i) = Nat.repr i := by
  rw [← String.toList_inj, escapeSegment_eq]
  refine escapeChars_of_forall fun d hd => ?_
  have hdigit := isDigit_of_mem_repr hd
  constructor
  · rintro rfl
    cases hdigit
  · rintro rfl
    cases hdigit

theorem unescapeSegment_repr (i : Nat) : unescapeSegment (Nat.repr i) = Nat.repr i := by
  conv => lhs; rw [← escapeSegment_repr i]
  exact unescapeSegment_escapeSegment _

theorem asciiIndex?_repr (i : Nat) :
    asciiIndex? (Nat.repr i) = if integerDigitLimit < (Nat.repr i).length
      then .error (.integerTooLong (Nat.repr i).length) else .ok (some i) := by
  have hdigits : (Nat.repr i).toList.all (fun c => '0' ≤ c && c ≤ '9') = true := by
    refine List.all_eq_true.mpr fun d hd => ?_
    simpa [Char.isDigit, Char.le_def] using isDigit_of_mem_repr hd
  have hne : (Nat.repr i).isEmpty = false := by
    simp
  have hvalue : (Nat.toDigits 10 i).foldl (fun n c => n * 10 + (c.toNat - '0'.toNat)) 0 = i := by
    have h : Nat.ofDigitChars 10 (Nat.toDigits 10 i) 0 = i := Nat.ofDigitChars_ten_toDigits
    rw [Nat.ofDigitChars_eq_foldl] at h
    simpa only [Nat.mul_comm] using h
  have hcond : (!(Nat.repr i).isEmpty && (Nat.repr i).toList.all fun c => '0' ≤ c && c ≤ '9') =
      true := by
    rw [hne, hdigits]
    rfl
  rw [asciiIndex?, if_pos hcond, Nat.toList_repr, hvalue]

/-! ## Steps -/

/-- One step into a document: the field of an object under a key, or the item of an array at an
index. -/
inductive PathStep where
  | key (name : String)
  | index (i : Nat)
deriving Repr, DecidableEq

def PathStep.follow : PathStep → Value → Option Value
  | .key name, v => v.lookup name
  | .index i, .array items => items[i]?
  | .index _, _ => none

/-- How a step is written in a pointer path: the key escaped, or the index in decimal. -/
def PathStep.encode : PathStep → String
  | .key name => escapeSegment name
  | .index i => Nat.repr i

/-- Where a list of steps leads from a value, if anywhere. -/
def Value.follow (v : Value) (steps : List PathStep) : Option Value :=
  steps.foldlM (fun current s => s.follow current) v

@[simp] theorem Value.follow_nil (v : Value) : v.follow [] = some v := rfl

theorem Value.follow_cons (v : Value) (s : PathStep) (steps : List PathStep) :
    v.follow (s :: steps) = (s.follow v).bind fun next => next.follow steps := rfl

theorem resolve_cons_of_step {v next : Value} {segment : String} {rest : List String}
    {expression : String} (h : step v (unescapeSegment segment) = .ok (some next)) :
    resolve v (segment :: rest) expression = resolve next rest expression := by
  simp only [resolve, h]

theorem resolve_cons_of_step_error {v : Value} {segment : String} {rest : List String}
    {expression : String} {e : NumeralError} (h : step v (unescapeSegment segment) = .error e) :
    resolve v (segment :: rest) expression = .error (.index e) := by
  simp only [resolve, h]

/-- Whether a step is an index written with more digits than an integer is read from. -/
def PathStep.overlong : PathStep → Bool
  | .key _ => false
  | .index i => integerDigitLimit < (Nat.repr i).length

theorem PathStep.overlong_index_iff {i : Nat} :
    (PathStep.index i).overlong = true ↔ 10 ^ integerDigitLimit ≤ i := by
  rw [overlong, decide_eq_true_iff, ← Nat.not_le, Nat.length_repr_le_iff (by decide), Nat.not_lt]

/-- A written step, once unescaped, leads where the step leads, unless it is an overlong
index. -/
theorem PathStep.step_encode {s : PathStep} {v next : Value} (h : s.follow v = some next) :
    step v (unescapeSegment s.encode) =
      if s.overlong then .error (.integerTooLong s.encode.length) else .ok (some next) := by
  cases s with
  | key name =>
    rw [encode, unescapeSegment_escapeSegment]
    cases v with
    | object fields => simpa [step, overlong, follow, Value.lookup] using h
    | _ => cases h
  | index i =>
    rw [encode, unescapeSegment_repr]
    cases v with
    | array items =>
      rw [step, asciiIndex?_repr]
      by_cases hlong : integerDigitLimit < (Nat.repr i).length
      · simp [hlong, overlong, Except.map]
      · simpa [hlong, overlong, Except.map, follow] using h
    | _ => cases h

/-- A written path leads where its steps lead, or stops at its first overlong index. -/
theorem resolve_encode (expression : String) :
    ∀ (steps : List PathStep) (v w : Value), v.follow steps = some w →
      resolve v (steps.map PathStep.encode) expression =
        match steps.find? PathStep.overlong with
        | none => .ok w
        | some s => .error (.index (.integerTooLong s.encode.length))
  | [], v, w, h => by
    cases h
    rfl
  | s :: steps, v, w, h => by
    rw [Value.follow_cons, Option.bind_eq_some_iff] at h
    obtain ⟨next, hnext, hrest⟩ := h
    have hstep := PathStep.step_encode hnext
    rw [List.map_cons, List.find?_cons]
    cases hlong : s.overlong with
    | true =>
      simp only [hlong, if_true] at hstep
      exact resolve_cons_of_step_error hstep
    | false =>
      simp only [hlong, Bool.false_eq_true, if_false] at hstep
      rw [resolve_cons_of_step hstep]
      exact resolve_encode expression steps next w hrest

/-- Unescaping undoes pointer escaping on every key. A path written from steps that lead from a
document to a value resolves to that value, whatever the keys look like, when every index is
below `10 ^ integerDigitLimit` (as it is below the length of its array, for any array with
fewer items); an index written with more digits stops the resolution with the integer error,
at the first such index. -/
theorem resolve_follows_escaped_steps :
    (∀ key : String, unescapeSegment (escapeSegment key) = key) ∧
    ∀ (root v : Value) (steps : List PathStep) (expression : String),
      root.follow steps = some v →
        ((∀ i, PathStep.index i ∈ steps → i < 10 ^ integerDigitLimit) →
          resolve root (steps.map PathStep.encode) expression = .ok v) ∧
        ∀ s, steps.find? PathStep.overlong = some s →
          resolve root (steps.map PathStep.encode) expression =
            .error (.index (.integerTooLong s.encode.length)) := by
  refine ⟨unescapeSegment_escapeSegment, fun root v steps expression h => ⟨fun hsmall => ?_,
    fun s hfound => ?_⟩⟩
  · have hnone : steps.find? PathStep.overlong = none := by
      refine List.find?_eq_none.mpr fun s hs => ?_
      cases s with
      | key name => simp [PathStep.overlong]
      | index i => rw [PathStep.overlong_index_iff, Nat.not_le]; exact hsmall i hs
    rw [resolve_encode expression steps root v h, hnone]
  · rw [resolve_encode expression steps root v h, hfound]

/-- A key holding both escaped characters, an index, and a key that looks like an index; and an
array of `10 ^ integerDigitLimit + 1` items, whose last index is written in one digit too
many. -/
theorem resolve_follows_escaped_steps_mixed :
    (let root := Value.object [("a/~b", .array [.null, .object [("0", .string "x")]])]
    let steps := [PathStep.key "a/~b", .index 1, .key "0"]
    root.follow steps = some (.string "x") ∧
      resolve root (steps.map PathStep.encode) "/a~1~0b/1/0" = .ok (.string "x")) ∧
    (let root := Value.array (List.replicate (10 ^ integerDigitLimit + 1) .null)
    let steps := [PathStep.index (10 ^ integerDigitLimit)]
    root.follow steps = some .null ∧
      resolve root (steps.map PathStep.encode) "" = .error (.index (.integerTooLong 4301))) := by
  constructor
  · intro root steps
    have hfollow : root.follow steps = some (.string "x") := by rfl
    have hsmall : ∀ i, PathStep.index i ∈ steps → i < 10 ^ integerDigitLimit := by
      intro i hi
      simp only [steps, List.mem_cons, reduceCtorEq, PathStep.index.injEq, List.not_mem_nil,
        or_false, false_or] at hi
      subst hi
      exact Nat.one_lt_pow (by decide) (by decide)
    exact ⟨hfollow, (resolve_follows_escaped_steps.2 root _ steps _ hfollow).1 hsmall⟩
  · intro root steps
    have hfollow : root.follow steps = some .null := by
      simp [root, steps, Value.follow, PathStep.follow]
    have hlong : (PathStep.index (10 ^ integerDigitLimit)).overlong = true :=
      PathStep.overlong_index_iff.mpr le_rfl
    have hlength : (Nat.repr (10 ^ integerDigitLimit)).length = 4301 :=
      length_repr_ten_pow integerDigitLimit
    have hfound : steps.find? PathStep.overlong = some (.index (10 ^ integerDigitLimit)) := by
      simp [steps, hlong]
    have hresolve := (resolve_follows_escaped_steps.2 root _ steps "" hfollow).2 _ hfound
    rw [PathStep.encode, hlength] at hresolve
    exact ⟨hfollow, hresolve⟩

end HiveDdl
