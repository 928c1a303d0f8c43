import HiveDdl.Xml.Scalar
import HiveDdl.Json.Reader
import HiveDdl.Projection
import HiveDdl.Proofs.Sequencing

/-!
# Scalars read back as written

A filter `@key:value` compares `value` with the text of a scalar (`Value.scalarText`), so a
filter written with the text of a field matches when reading the field and taking its text
gives the text back. By design that holds for most texts, but not all:

* an XML text that spells `true`, `false` or `null` in any case is read as a boolean or null
  and gives back its lower case form, so `True` gives `true`;
* any other XML text that spells no number is kept as written;
* the JSON words `true`, `false` and `null` are read back as written, wherever they stand;
* a number, from either format, gives back the canonical text of its numeral, which is the
  text as written when that text is canonical (`2`, `1.50`).

* `readBack t`: what an XML text without blank ends gives back; `Xml.Scalar.ofText_readBack`.
* `NumberLiteral`: a number as JSON writes it. `NumberLiteral.readNumber_chars`: the reader reads
  a literal whole, as the canonical text of its numeral, when what follows may follow a value.
* `Json.readValue_word`: the JSON words.
* `filters_match_scalars_read_back`: the filter written with a field's text, format by format;
  `capitalized_word_not_read_back`: `True` is not read back.
-/

namespace HiveDdl

def literalWords : List String := ["true", "false", "null"]

/-- The text a scalar read from `t` gives back: a word of `literalWords` in any case gives its
lower case form, any other text itself. -/
def readBack (t : String) : String :=
  if Text.lower t ∈ literalWords then Text.lower t else t

theorem readBack_eq_self_iff (t : String) :
    readBack t = t ↔ (Text.lower t ∈ literalWords → Text.lower t = t) := by
  unfold readBack
  split <;> simp_all

namespace Xml

theorem Scalar.ofText_readBack {t : String} (htrim : Text.trimList t.toList = t.toList)
    (hcanonical : ∀ n, numeralOf? t.toList = some n → n.text = .ok t) :
    ∃ sc, Scalar.ofText t = .ok sc ∧ sc.toValue.scalarText = some (readBack t) := by
  unfold Scalar.ofText
  simp only [htrim, String.ofList_toList]
  by_cases hempty : t.toList.isEmpty
  · have ht : t = "" := by simpa using hempty
    subst ht
    exact ⟨.text "", by simp, by decide⟩
  rw [if_neg hempty]
  by_cases htrue : Text.lower t = "true"
  · exact ⟨.bool true, by simp [htrue], by simp [readBack, htrue, literalWords, Scalar.toValue,
      Value.scalarText]⟩
  by_cases hfalse : Text.lower t = "false"
  · exact ⟨.bool false, by simp [hfalse], by simp [readBack, hfalse, literalWords,
      Scalar.toValue, Value.scalarText]⟩
  by_cases hnull : Text.lower t = "null"
  · exact ⟨.null, by simp [hnull], by simp [readBack, hnull, literalWords, Scalar.toValue,
      Value.scalarText]⟩
  have hword : readBack t = t := by
    simp [readBack, literalWords, htrue, hfalse, hnull]
  simp only [htrue, hfalse, hnull, if_false, hword]
  cases hn : numeralOf? t.toList with
  | none => exact ⟨.text t, by simp, rfl⟩
  | some n =>
    have htext := hcanonical n hn
    unfold Numeral.text at htext
    by_cases hdecimal : n.isDecimal
    · rw [if_pos hdecimal] at htext
      exact ⟨.decimal t, by simp [hdecimal, htext, Functor.map, Except.map], rfl⟩
    · rw [if_neg hdecimal] at htext
      exact ⟨.integer t, by simp [hdecimal, htext, Functor.map, Except.map], rfl⟩

end Xml

/-! ## JSON number literals -/

/-- A number as JSON writes it: a minus or none, the whole digits (`0` alone, or digits that do
not start with `0`), the fraction digits after a point (none for no point), and an exponent
with its mark, its sign and its digits. -/
structure NumberLiteral where
  negative : Bool
  whole : List Char
  fraction : List Char
  exponent : Option (Char × List Char × List Char)
  whole_digits : ∀ c ∈ whole, Json.isAsciiDigit c = true
  whole_lead : whole = ['0'] ∨ ∃ d rest, whole = d :: rest ∧ '1' ≤ d ∧ d ≤ '9'
  fraction_digits : ∀ c ∈ fraction, Json.isAsciiDigit c = true
  exponent_form : ∀ mark sign digits, exponent = some (mark, sign, digits) →
    (mark = 'e' ∨ mark = 'E') ∧ (sign = [] ∨ sign = ['+'] ∨ sign = ['-']) ∧ digits ≠ [] ∧
      ∀ c ∈ digits, Json.isAsciiDigit c = true

namespace NumberLiteral

def exponentChars : Option (Char × List Char × List Char) → List Char
  | none => []
  | some (mark, sign, digits) => mark :: (sign ++ digits)

def chars (l : NumberLiteral) : List Char :=
  (if l.negative then ['-'] else []) ++ (l.whole ++
    ((if l.fraction = [] then [] else '.' :: l.fraction) ++ exponentChars l.exponent))

def digitsValue (digits : List Char) : Int :=
  (Json.digitValues digits).foldl (fun (n : Int) (d : Nat) => n * 10 + d) 0

def exponentValue : Option (Char × List Char × List Char) → Option Int
  | none => none
  | some (_, sign, digits) =>
    some (if sign = ['-'] then -digitsValue digits else digitsValue digits)

def numeral (l : NumberLiteral) : Numeral :=
  ⟨l.negative, Json.digitValues l.whole, Json.digitValues l.fraction, exponentValue l.exponent⟩

end NumberLiteral

/-! ### Digits -/

theorem takeWhile_isAsciiDigit_append {ds r : List Char}
    (hds : ∀ c ∈ ds, Json.isAsciiDigit c = true)
    (hr : ∀ c ∈ r.head?, Json.isAsciiDigit c = false) :
    (ds ++ r).takeWhile Json.isAsciiDigit = ds := by
  induction ds with
  | nil =>
    cases r with
    | nil => rfl
    | cons c r => simp [hr c rfl]
  | cons d ds ih =>
    rw [List.cons_append, List.takeWhile_cons_of_pos (hds d (by simp)),
      ih fun c hc => hds c (by simp [hc])]

/-! ### Reading a number, part by part -/

namespace Json

def signPart : List Char → Bool × List Char
  | '-' :: r => (true, r)
  | r => (false, r)

def wholePart : List Char → List Char
  | '0' :: _ => ['0']
  | r => r.takeWhile isAsciiDigit

/-- The fraction digits after the whole digits, and what follows them: a point counts only when
a digit follows it. -/
def fractionPart (r1 : List Char) : List Char × List Char :=
  match r1 with
  | '.' :: d :: r =>
    if isAsciiDigit d then
      let ds := (d :: r).takeWhile isAsciiDigit
      (ds, (d :: r).drop ds.length)
    else ([], r1)
  | _ => ([], r1)

/-- The exponent after the fraction, the number of its characters, and what follows it. -/
def exponentPart (r2 : List Char) : Option Int × Nat × List Char :=
  match r2 with
  | e :: r =>
    if e = 'e' || e = 'E' then
      match readExponent r with
      | some (x, n, r') => (some x, n + 1, r')
      | none => (none, 0, r2)
    else (none, 0, r2)
  | [] => (none, 0, r2)

theorem readNumber_eq (c : Cursor) :
    readNumber c =
      let (negative, afterSign) := signPart c.rest
      let whole := wholePart afterSign
      if whole.isEmpty then stop .expectingValue c.pos else
      let (fraction, r2) := fractionPart (afterSign.drop whole.length)
      let (exponent, expLen, r3) := exponentPart r2
      match (⟨negative, digitValues whole, digitValues fraction, exponent⟩ : Numeral).text with
      | .ok t => .ok (.number t, ⟨c.pos + (if negative then 1 else 0) + whole.length +
          (if fraction.isEmpty then 0 else fraction.length + 1) + expLen, r3⟩)
      | .error e => .error (.numeral e) := rfl

theorem word_lengths : "null".length = 4 ∧ "true".length = 4 ∧ "false".length = 5 ∧
    "NaN".length = 3 ∧ "Infinity".length = 8 ∧ "-Infinity".length = 9 := by
  decide

def FollowsValue (rest : List Char) : Prop :=
  ∀ c ∈ rest.head?, c ∈ [' ', '\t', '\n', '\r', ',', ']', '}']

theorem FollowsValue.head {rest : List Char} (h : FollowsValue rest) :
    ∀ c ∈ rest.head?, isAsciiDigit c = false ∧ c ≠ '.' ∧ c ≠ 'e' ∧ c ≠ 'E' := by
  intro c hc
  have hmem := h c hc
  simp only [List.mem_cons, List.not_mem_nil, or_false] at hmem
  rcases hmem with rfl | rfl | rfl | rfl | rfl | rfl | rfl <;> decide

theorem readExponent_append {sign digits rest : List Char}
    (hsign : sign = [] ∨ sign = ['+'] ∨ sign = ['-']) (hdigits : digits ≠ [])
    (hdigit : ∀ c ∈ digits, isAsciiDigit c = true)
    (hrest : ∀ c ∈ rest.head?, isAsciiDigit c = false) :
    readExponent (sign ++ (digits ++ rest)) =
      some (if sign = ['-'] then -NumberLiteral.digitsValue digits
        else NumberLiteral.digitsValue digits, sign.length + digits.length, rest) := by
  obtain ⟨d, ds, rfl⟩ := List.exists_cons_of_ne_nil hdigits
  have htake : (d :: (ds ++ rest)).takeWhile isAsciiDigit = d :: ds :=
    takeWhile_isAsciiDigit_append hdigit hrest
  have hd : d ≠ '-' ∧ d ≠ '+' := by
    have := hdigit d (by simp)
    constructor <;> (rintro rfl; revert this; decide)
  rcases hsign with rfl | rfl | rfl <;>
    simp [readExponent, htake, hd.1, hd.2, NumberLiteral.digitsValue]

end Json

/-! ### A literal, read part by part -/

namespace NumberLiteral

variable (l : NumberLiteral)

theorem whole_ne_nil : l.whole ≠ [] := by
  rcases l.whole_lead with h | ⟨d, rest, h, -⟩ <;> simp [h]

theorem signPart_chars (tail : List Char) :
    Json.signPart ((if l.negative then ['-'] else []) ++ (l.whole ++ tail)) =
      (l.negative, l.whole ++ tail) := by
  cases hneg : l.negative
  · rcases l.whole_lead with h | ⟨d, rest, h, hlo, -⟩
    · simp [h, Json.signPart]
    · have hd : d ≠ '-' := by rintro rfl; revert hlo; decide
      simp [h, Json.signPart, hd]
  · simp [Json.signPart]

theorem wholePart_chars {tail : List Char}
    (htail : ∀ c ∈ tail.head?, Json.isAsciiDigit c = false) :
    Json.wholePart (l.whole ++ tail) = l.whole := by
  rcases l.whole_lead with h | ⟨d, rest, h, hlo, -⟩
  · simp [h, Json.wholePart]
  · have hd : d ≠ '0' := by rintro rfl; revert hlo; decide
    have hdigits := l.whole_digits
    rw [h] at hdigits ⊢
    have htake := takeWhile_isAsciiDigit_append hdigits htail
    simp only [List.cons_append] at htake ⊢
    simp [Json.wholePart, hd, htake]

theorem fractionPart_chars {after : List Char}
    (hafter : ∀ c ∈ after.head?, c ≠ '.' ∧ Json.isAsciiDigit c = false) :
    Json.fractionPart ((if l.fraction = [] then [] else '.' :: l.fraction) ++ after) =
      (l.fraction, after) := by
  cases hfraction : l.fraction with
  | nil =>
    unfold Json.fractionPart
    split
    · rename_i d r hafter'
      simp only [if_true, List.nil_append] at hafter'
      exact absurd rfl (hafter '.' (by simp [hafter'])).1
    · simp
  | cons f fs =>
    have hdigits := l.fraction_digits
    rw [hfraction] at hdigits
    have htake := takeWhile_isAsciiDigit_append hdigits fun c hc => (hafter c hc).2
    simp only [List.cons_append] at htake
    simp [Json.fractionPart, hdigits f (by simp), htake]

theorem exponentPart_chars {rest : List Char} (hrest : Json.FollowsValue rest) :
    Json.exponentPart (exponentChars l.exponent ++ rest) =
      (exponentValue l.exponent, (exponentChars l.exponent).length, rest) := by
  have hhead := hrest.head
  cases hexponent : l.exponent with
  | none =>
    unfold Json.exponentPart
    split
    · rename_i e r hr
      simp only [exponentChars, List.nil_append] at hr
      obtain ⟨-, -, he, hE⟩ := hhead e (by simp [hr])
      simp [he, hE, exponentValue, exponentChars]
    · simp [exponentValue, exponentChars]
  | some x =>
    obtain ⟨mark, sign, digits⟩ := x
    obtain ⟨hmark, hsign, hdigits, hdigit⟩ := l.exponent_form mark sign digits hexponent
    have hread := Json.readExponent_append hsign hdigits hdigit fun c hc => (hhead c hc).1
    have hm : (mark = 'e' || mark = 'E') = true := by rcases hmark with rfl | rfl <;> rfl
    simp [Json.exponentPart, exponentChars, hm, hread, exponentValue]

theorem length_chars :
    l.chars.length = (if l.negative then 1 else 0) + l.whole.length +
      (if l.fraction.isEmpty then 0 else l.fraction.length + 1) +
      (exponentChars l.exponent).length := by
  unfold chars
  cases l.negative <;> cases l.fraction <;> simp <;> omega

theorem head_after_fraction {rest : List Char} (hrest : Json.FollowsValue rest) :
    ∀ c ∈ (exponentChars l.exponent ++ rest).head?, c ≠ '.' ∧ Json.isAsciiDigit c = false := by
  cases hexponent : l.exponent with
  | none =>
    intro c hc
    obtain ⟨hdigit, hpoint, -⟩ := hrest.head c (by simpa [exponentChars] using hc)
    exact ⟨hpoint, hdigit⟩
  | some x =>
    obtain ⟨mark, sign, digits⟩ := x
    obtain ⟨hmark, -⟩ := l.exponent_form mark sign digits hexponent
    intro c hc
    simp only [exponentChars, List.cons_append, List.head?_cons, Option.mem_def,
      Option.some.injEq] at hc
    subst hc
    rcases hmark with rfl | rfl <;> decide

theorem head_after_whole {after : List Char}
    (hafter : ∀ c ∈ after.head?, c ≠ '.' ∧ Json.isAsciiDigit c = false) :
    ∀ c ∈ ((if l.fraction = [] then [] else '.' :: l.fraction) ++ after).head?,
      Json.isAsciiDigit c = false := by
  intro c hc
  cases hfraction : l.fraction with
  | nil => exact (hafter c (by simpa [hfraction] using hc)).2
  | cons f fs =>
    simp only [hfraction, reduceCtorEq, if_false, List.cons_append, List.head?_cons,
      Option.mem_def, Option.some.injEq] at hc
    subst hc
    decide

theorem readNumber_chars {rest : List Char} (hrest : Json.FollowsValue rest) (pos : Nat) :
    Json.readNumber ⟨pos, l.chars ++ rest⟩ =
      match l.numeral.text with
      | .ok t => .ok (.number t, ⟨pos + l.chars.length, rest⟩)
      | .error e => .error (.numeral e) := by
  have hafter := l.head_after_fraction hrest
  have htail := l.head_after_whole hafter
  have hwhole : l.whole.isEmpty = false := by simpa using l.whole_ne_nil
  rw [Json.readNumber_eq]
  simp only [chars, List.append_assoc, signPart_chars, wholePart_chars _ htail, List.drop_left,
    fractionPart_chars _ hafter, exponentPart_chars _ hrest, hwhole]
  have hnumeral : (⟨l.negative, Json.digitValues l.whole, Json.digitValues l.fraction,
      exponentValue l.exponent⟩ : Numeral) = l.numeral := rfl
  rw [← chars, length_chars, if_neg Bool.false_ne_true, hnumeral]
  cases l.numeral.text with
  | ok t => simp only [Except.ok.injEq, Prod.mk.injEq, Json.Cursor.mk.injEq, true_and, and_true]; omega
  | error e => rfl

theorem chars_append_eq (rest : List Char) :
    ∃ d more, Json.isAsciiDigit d = true ∧
      l.chars ++ rest = (if l.negative then ['-'] else []) ++ d :: more := by
  obtain ⟨d, ds, hwhole⟩ := List.exists_cons_of_ne_nil l.whole_ne_nil
  have hd := l.whole_digits d (by simp [hwhole])
  exact ⟨d, ds ++ ((if l.fraction = [] then [] else '.' :: l.fraction) ++
    exponentChars l.exponent ++ rest), hd, by simp [chars, hwhole]⟩

theorem ne_of_isAsciiDigit {d x : Char} (hd : Json.isAsciiDigit d = true)
    (hx : Json.isAsciiDigit x = false) : d ≠ x := by
  rintro rfl
  rw [hd] at hx
  cases hx

theorem readValue_eq_readNumber {fuel depth : Nat} {c : Json.Cursor} {rest : List Char}
    (hc : c.rest = l.chars ++ rest) :
    Json.readValue (fuel + 1) depth c = Json.readNumber c := by
  obtain ⟨d, more, hd, hcons⟩ := l.chars_append_eq rest
  have hne : ∀ x, Json.isAsciiDigit x = false → d ≠ x := fun x hx => ne_of_isAsciiDigit hd hx
  unfold Json.readValue
  rw [hc, hcons]
  cases l.negative <;>
    simp [Json.startsWith, Json.word_lengths, hne '"' rfl, hne '{' rfl, hne '[' rfl, hne 'n' rfl,
      hne 't' rfl, hne 'f' rfl, hne 'N' rfl, hne 'I' rfl, hne '-' rfl]

theorem readValue_of_canonical {fuel depth : Nat} {c : Json.Cursor} {rest : List Char}
    (hc : c.rest = l.chars ++ rest) (hrest : Json.FollowsValue rest)
    (hcanonical : l.numeral.text = .ok (String.ofList l.chars)) :
    Json.readValue (fuel + 1) depth c =
      .ok (.number (String.ofList l.chars), ⟨c.pos + l.chars.length, rest⟩) := by
  obtain ⟨pos, cs⟩ := c
  simp only at hc
  subst hc
  rw [l.readValue_eq_readNumber rfl, l.readNumber_chars hrest, hcanonical]

end NumberLiteral

/-- The words `true`, `false` and `null` are read as themselves wherever they stand. -/
theorem Json.readValue_word {w : String} (hw : w ∈ literalWords) {fuel depth : Nat}
    {c : Json.Cursor} {rest : List Char} (hc : c.rest = w.toList ++ rest) :
    ∃ v, Json.readValue (fuel + 1) depth c = .ok (v, ⟨c.pos + w.length, rest⟩) ∧
      v.scalarText = some w := by
  simp only [literalWords, List.mem_cons, List.not_mem_nil, or_false] at hw
  unfold Json.readValue
  rw [hc]
  rcases hw with rfl | rfl | rfl
  · exact ⟨.bool true, by simp [Json.startsWith, Json.word_lengths], rfl⟩
  · exact ⟨.bool false, by simp [Json.startsWith, Json.word_lengths], rfl⟩
  · exact ⟨.null, by simp [Json.startsWith, Json.word_lengths], rfl⟩

theorem matches_of_lookupField {fields : List (String × Value)} {key t t' : String} {v : Value}
    (hfield : lookupField fields key = some v) (htext : v.scalarText = some t') :
    ElementFilter.matches ⟨key, t⟩ (.object fields) = true ↔ t' = t := by
  simp [ElementFilter.matches, hfield, htext]

/-! ## Filters on scalars as written -/

/-- What a filter written with a field's text finds, by the format the field was read from. An
XML text without blank ends that spells no number, or one whose canonical text it is, gives back
`readBack t`: the filter matches exactly when the text is no word of `literalWords` written in
another case. The JSON words are read as themselves wherever they stand, and a JSON number
literal that is the canonical text of its numeral is read as written wherever what follows it may
follow a value; the filter written with them matches. -/
theorem filters_match_scalars_read_back :
    (∀ t : String, Text.trimList t.toList = t.toList →
      (∀ n, Xml.numeralOf? t.toList = some n → n.text = .ok t) →
      ∃ sc, Xml.Scalar.ofText t = .ok sc ∧ sc.toValue.scalarText = some (readBack t) ∧
        ∀ fields key, lookupField fields key = some sc.toValue →
          (ElementFilter.matches ⟨key, t⟩ (.object fields) = true ↔
            (Text.lower t ∈ literalWords → Text.lower t = t))) ∧
    (∀ w ∈ literalWords, ∀ (fuel depth : Nat) (c : Json.Cursor) (rest : List Char),
      c.rest = w.toList ++ rest →
      ∃ v, Json.readValue (fuel + 1) depth c = .ok (v, ⟨c.pos + w.length, rest⟩) ∧
        ∀ fields key, lookupField fields key = some v →
          ElementFilter.matches ⟨key, w⟩ (.object fields) = true) ∧
    (∀ (l : NumberLiteral) (fuel depth : Nat) (c : Json.Cursor) (rest : List Char),
      c.rest = l.chars ++ rest → Json.FollowsValue rest →
      l.numeral.text = .ok (String.ofList l.chars) →
      Json.readValue (fuel + 1) depth c =
        .ok (.number (String.ofList l.chars), ⟨c.pos + l.chars.length, rest⟩) ∧
      ∀ fields key, lookupField fields key = some (.number (String.ofList l.chars)) →
        ElementFilter.matches ⟨key, String.ofList l.chars⟩ (.object fields) = true) := by
  refine ⟨fun t htrim hcanonical => ?_, fun w hw fuel depth c rest hc => ?_,
    fun l fuel depth c rest hc hrest hcanonical => ?_⟩
  · obtain ⟨sc, hsc, htext⟩ := Xml.Scalar.ofText_readBack htrim hcanonical
    refine ⟨sc, hsc, htext, fun fields key hfield => ?_⟩
    rw [matches_of_lookupField hfield htext, readBack_eq_self_iff]
  · obtain ⟨v, hread, htext⟩ := Json.readValue_word hw hc
    exact ⟨v, hread, fun fields key hfield => (matches_of_lookupField hfield htext).mpr rfl⟩
  · exact ⟨l.readValue_of_canonical hc hrest hcanonical,
      fun fields key hfield => (matches_of_lookupField hfield rfl).mpr rfl⟩

/-- An XML text `2`, the JSON word `true` before a comma, and the JSON literal `1.50` before a
closing bracket. -/
theorem filters_match_scalars_read_back_two :
    let l : NumberLiteral := ⟨false, ['1'], ['5', '0'], none, by simp [Json.isAsciiDigit],
      .inr ⟨'1', [], rfl, by simp, by simp⟩, by simp [Json.isAsciiDigit], by simp⟩
    (Text.trimList "2".toList = "2".toList ∧
      (∀ n, Xml.numeralOf? "2".toList = some n → n.text = .ok "2")) ∧
    (∃ sc, Xml.Scalar.ofText "2" = .ok sc ∧ sc.toValue.scalarText = some (readBack "2") ∧
      ∀ fields key, lookupField fields key = some sc.toValue →
        (ElementFilter.matches ⟨key, "2"⟩ (.object fields) = true ↔
          (Text.lower "2" ∈ literalWords → Text.lower "2" = "2"))) ∧
    ("true" ∈ literalWords ∧ (⟨0, "true".toList ++ [',']⟩ : Json.Cursor).rest = "true".toList ++ [',']) ∧
    (∃ v, Json.readValue 1 0 ⟨0, "true".toList ++ [',']⟩ = .ok (v, ⟨0 + "true".length, [',']⟩) ∧
      ∀ fields key, lookupField fields key = some v →
        ElementFilter.matches ⟨key, "true"⟩ (.object fields) = true) ∧
    ((⟨0, l.chars ++ [']']⟩ : Json.Cursor).rest = l.chars ++ [']'] ∧ Json.FollowsValue [']'] ∧
      l.numeral.text = .ok (String.ofList l.chars)) ∧
    (Json.readValue 1 0 ⟨0, l.chars ++ [']']⟩ =
        .ok (.number (String.ofList l.chars), ⟨0 + l.chars.length, [']']⟩) ∧
      ∀ fields key, lookupField fields key = some (.number (String.ofList l.chars)) →
        ElementFilter.matches ⟨key, String.ofList l.chars⟩ (.object fields) = true) := by
  intro l
  have htrim : Text.trimList "2".toList = "2".toList := by decide
  have hcanonical : ∀ n, Xml.numeralOf? "2".toList = some n → n.text = .ok "2" := by
    intro n hn
    rw [show Xml.numeralOf? "2".toList = some ⟨false, [2], [], none⟩ from rfl] at hn
    cases hn
    rfl
  have hword : "true" ∈ literalWords := by decide
  have hfollows : Json.FollowsValue [']'] := by simp [Json.FollowsValue]
  have hliteral : l.numeral.text = .ok (String.ofList l.chars) := rfl
  exact ⟨⟨htrim, hcanonical⟩, filters_match_scalars_read_back.1 "2" htrim hcanonical,
    ⟨hword, rfl⟩, filters_match_scalars_read_back.2.1 "true" hword 0 0 _ [','] rfl,
    ⟨rfl, hfollows, hliteral⟩,
    filters_match_scalars_read_back.2.2 l 0 0 _ [']'] rfl hfollows hliteral⟩

/-- The XML text `True` is read as a boolean and gives back `true`, so the filter `@k:True`
matches no field holding it. -/
theorem capitalized_word_not_read_back :
    Xml.Scalar.ofText "True" = .ok (.bool true) ∧
      (Xml.Scalar.bool true).toValue.scalarText = some "true" ∧
      ElementFilter.matches ⟨"k", "True"⟩ (.object [("k", (Xml.Scalar.bool true).toValue)]) =
        false := by
  refine ⟨?_, rfl, by simp [ElementFilter.matches, lookupField, Xml.Scalar.toValue,
    Value.scalarText]⟩
  rw [eq_ok_iff_toOption]
  decide +kernel

end HiveDdl
