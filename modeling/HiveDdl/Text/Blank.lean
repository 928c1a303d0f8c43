/-!
# Blank characters

The characters that trimming removes: the Unicode white space characters together with the
four information separators `U+001C`–`U+001F`, which the data of Unicode 14 counts as
paragraph and segment separators.

* `isBlank c` decides the class; `trim` removes blank characters at both ends of a text.
* `trim_toList` says what trimming leaves: the text without its blank ends.
-/

namespace HiveDdl.Text

/-- The blank characters: tab to carriage return, the four information separators, space,
next line, no-break space, ogham space, the spaces `U+2000`–`U+200A`, the line and paragraph
separators, narrow no-break space, medium mathematical space and ideographic space. -/
def isBlank (c : Char) : Bool :=
  let n := c.toNat
  (0x09 ≤ n && n ≤ 0x0D) || (0x1C ≤ n && n ≤ 0x20) || n == 0x85 || n == 0xA0 ||
    n == 0x1680 || (0x2000 ≤ n && n ≤ 0x200A) || n == 0x2028 || n == 0x2029 ||
    n == 0x202F || n == 0x205F || n == 0x3000

def trimList (cs : List Char) : List Char :=
  ((cs.dropWhile isBlank).reverse.dropWhile isBlank).reverse

/-- Removes blank characters from both ends of a text. -/
def trim (s : String) : String :=
  String.ofList (trimList s.toList)

theorem trim_toList (s : String) : (trim s).toList = trimList s.toList := by
  simp [trim]

theorem isBlank_of_isWhitespace {c : Char} (h : c.isWhitespace = true) : isBlank c = true := by
  simp only [Char.isWhitespace, Bool.or_eq_true, decide_eq_true_eq] at h
  rcases h with ((h | h) | h) | h <;> subst h <;> decide

theorem isBlank_of_isDigit {c : Char} (h : c.isDigit = true) : isBlank c = false := by
  simp only [Char.isDigit, Bool.and_eq_true, decide_eq_true_eq] at h
  have hlo : 48 ≤ c.toNat := h.1
  have hhi : c.toNat ≤ 57 := h.2
  simp only [isBlank, Bool.or_eq_false_iff, Bool.and_eq_false_iff, decide_eq_false_iff_not,
    beq_eq_false_iff_ne]
  omega

end HiveDdl.Text
