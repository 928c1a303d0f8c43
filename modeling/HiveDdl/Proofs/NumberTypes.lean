import HiveDdl.Schema.Type
import HiveDdl.Xml.Scalar
import HiveDdl.Document
import HiveDdl.Proofs.Sequencing

/-!
# How numbers are typed

A number is typed by its canonical text: `double` when the text has a point, `int` otherwise.
The canonical text of a numeral with a fraction or an exponent is the exact decimal's text,
which is laid out with an exponent when the exponent of its last digit is positive or its
leading digit lies more than six places after the point. A point then shows only between the
first significant digit and the others: `0.0000001` is written `1E-7` and typed `int`, and
`10e5` is written `1.0E+6` and typed `double`. So the type follows the point of the canonical
text, not the point of the numeral as the document wrote it.

* `Numeral.PointShown`: where the canonical text of a numeral has a point.
* `Numeral.point_mem_text_iff`: the canonical text has a point exactly there.
* `scalarTypeOf_numeral`: a number read from a numeral is `double` exactly there.
* `Xml.Scalar.ofText_number`: an XML text read as a number holds the text of its numeral.
* `document_point_not_followed`: a document where the written point and the type disagree.
-/

namespace HiveDdl

/-! ## Texts without a point -/

theorem point_not_mem_digitText (ds : List Nat) : '.' ∉ (digitText ds).toList := by
  simp only [digitText, String.toList_ofList, List.mem_map, not_exists, not_and]
  intro d _ h
  have hval := congrArg Char.toNat h
  rw [Char.toNat_ofNat] at hval
  split at hval
  · simp at hval
    omega
  · simp at hval

theorem point_not_mem_signText (negative : Bool) : '.' ∉ (signText negative).toList := by
  cases negative <;> simp [signText]

theorem significant_ne_nil (ds : List Nat) : significant ds ≠ [] := by
  unfold significant
  split <;> simp

/-! ## The layout of a decimal -/

theorem point_mem_layoutDecimal {coefficient : List Nat} (exponent : Int)
    (h : coefficient ≠ []) :
    '.' ∈ (layoutDecimal coefficient exponent).toList ↔
      if exponent ≤ 0 ∧ exponent + coefficient.length > -6 then exponent < 0
      else 1 < coefficient.length := by
  have hlen : 0 < coefficient.length := List.length_pos_of_ne_nil h
  unfold layoutDecimal
  dsimp only
  by_cases hplain : exponent ≤ 0 ∧ exponent + coefficient.length > -6
  · rw [if_pos hplain, if_pos hplain]
    split_ifs with hfront hback
    · simp [point_not_mem_digitText]
      omega
    · simp only [point_not_mem_digitText, false_iff, not_lt]
      omega
    · simp [point_not_mem_digitText]
      omega
  · rw [if_neg hplain, if_neg hplain]
    match coefficient with
    | [] => simp at h
    | [d] =>
      simp only [String.toList_append, List.mem_append, point_not_mem_digitText,
        List.length_singleton]
      split <;> simp
    | d :: d' :: rest => simp [point_not_mem_digitText]

/-! ## Numerals -/

/-- The significant digits of a numeral's decimal: its whole and fraction digits, without
leading zeros. -/
def Numeral.coefficient (n : Numeral) : List Nat := significant (n.whole ++ n.fraction)

theorem Numeral.coefficient_ne_nil (n : Numeral) : n.coefficient ≠ [] := significant_ne_nil _

def Numeral.lastExponent (n : Numeral) : Int := n.exponent.getD 0 - n.fraction.length

/-- Where the canonical text of a numeral has a point: it is a decimal, laid out positionally
with its last digit after the point, or laid out with an exponent and more than one
significant digit. -/
def Numeral.PointShown (n : Numeral) : Prop :=
  n.isDecimal ∧
    if n.lastExponent ≤ 0 ∧ n.lastExponent + n.coefficient.length > -6 then n.lastExponent < 0
    else 1 < n.coefficient.length

instance : DecidablePred Numeral.PointShown := fun _ =>
  inferInstanceAs (Decidable (_ ∧ _))

theorem Numeral.decimalText_eq_ok {n : Numeral} {t : String} (h : n.decimalText = .ok t) :
    t = signText n.negative ++ layoutDecimal n.coefficient n.lastExponent := by
  unfold Numeral.decimalText at h
  dsimp only at h
  split at h
  · cases h
  · cases h
    rfl

theorem Numeral.point_not_mem_integerText {n : Numeral} {t : String}
    (h : n.integerText = .ok t) : '.' ∉ t.toList := by
  unfold Numeral.integerText at h
  split at h
  · cases h
  · split at h <;> cases h
    · simp
    · simp [point_not_mem_signText, point_not_mem_digitText]

/-- The canonical text of a numeral has a point exactly where `PointShown` says. -/
theorem Numeral.point_mem_text_iff {n : Numeral} {t : String} (h : n.text = .ok t) :
    '.' ∈ t.toList ↔ n.PointShown := by
  unfold Numeral.text at h
  unfold Numeral.PointShown
  split at h
  · rename_i hdecimal
    rw [Numeral.decimalText_eq_ok h, String.toList_append, List.mem_append,
      point_mem_layoutDecimal _ n.coefficient_ne_nil]
    simp [point_not_mem_signText, hdecimal]
  · rename_i hinteger
    simp [Numeral.point_not_mem_integerText h, hinteger]

/-- A number read from a numeral is typed `double` exactly when the numeral's canonical text
shows a point: a decimal whose last digit lies after the point when it is laid out
positionally, or that has two significant digits or more when it is laid out with an
exponent; any other number is typed `int`. -/
theorem scalarTypeOf_numeral (n : Numeral) {t : String} (h : n.text = .ok t) :
    (Schema.scalarTypeOf (.number t) = .double ↔ n.PointShown) ∧
    (Schema.scalarTypeOf (.number t) = .int ↔ ¬ n.PointShown) := by
  rw [← Numeral.point_mem_text_iff h]
  by_cases hpoint : '.' ∈ t.toList <;> simp [Schema.scalarTypeOf, hpoint]

/-- A numeral written with a point, `0.0000001`, has a canonical text without one. -/
theorem scalarTypeOf_numeral_small_fraction :
    Numeral.text ⟨false, [0], [0, 0, 0, 0, 0, 0, 1], none⟩ = .ok "1E-7" ∧
    (Schema.scalarTypeOf (.number "1E-7") = .double ↔
      Numeral.PointShown ⟨false, [0], [0, 0, 0, 0, 0, 0, 1], none⟩) ∧
    (Schema.scalarTypeOf (.number "1E-7") = .int ↔
      ¬ Numeral.PointShown ⟨false, [0], [0, 0, 0, 0, 0, 0, 1], none⟩) :=
  ⟨by rfl, scalarTypeOf_numeral _ (by rfl)⟩

/-! ## Numbers read from XML text -/

/-- An XML text read as a number holds the canonical text of the numeral it spells, blanks
around it trimmed. -/
theorem Xml.Scalar.ofText_number {s t : String} {sc : Xml.Scalar}
    (h : Xml.Scalar.ofText s = .ok sc) (hnumber : sc.toValue = .number t) :
    ∃ n, Xml.numeralOf? (Text.trimList s.toList) = some n ∧ n.text = .ok t := by
  unfold Xml.Scalar.ofText at h
  dsimp only at h
  split_ifs at h
  · cases h; cases hnumber
  · cases h; cases hnumber
  · cases h; cases hnumber
  · cases h; cases hnumber
  cases hn : Xml.numeralOf? (Text.trimList s.toList) with
  | none =>
    simp only [hn] at h
    cases h
    cases hnumber
  | some n =>
    simp only [hn] at h
    refine ⟨n, rfl, ?_⟩
    unfold Numeral.text
    split at h
    · rename_i hdecimal
      obtain ⟨t', ht', rfl⟩ := map_eq_ok.mp h
      cases hnumber
      rw [if_pos hdecimal, ht']
    · rename_i hinteger
      obtain ⟨t', ht', rfl⟩ := map_eq_ok.mp h
      cases hnumber
      rw [if_neg hinteger, ht']

/-! ## Read from a document -/

/-- In the JSON document `{"a": 0.0000001, "b": 10e5}` the number written with a point is typed
`int` and the one written without a point is typed `double`. -/
theorem document_point_not_followed :
    ((readDocument .json "\x7b\"a\": 0.0000001, \"b\": 10e5\x7d" 0).toOption.map fun fields =>
      fields.map fun field => (field.1, field.2.scalarText, Schema.scalarTypeOf field.2)) =
    some [("a", some "1E-7", .int), ("b", some "1.0E+6", .double)] := by
  decide +kernel

end HiveDdl
