/-!
# Tags of plain scalars

A plain scalar without a tag gets one from its text, by the YAML 1.1 rules:

* `bool`: `yes`, `no`, `true`, `false`, `on`, `off` in lower, capitalised or upper case;
* `float`: decimals with a point (`1.5`, `1.`, `.5`, `1.0e+3` — an exponent needs its sign),
  base-60 decimals (`1:30.5`), `.inf` with a sign and `.nan`;
* `int`: binary `0b...`, octal `0...`, decimal, hex `0x...`, base-60 (`1:30`); digits may be
  separated by `_`;
* `null`: `~`, `null` (three cases) or nothing;
* `timestamp`: a date `2001-12-14`, or a date and time with optional fraction and zone;
* `merge` (`<<`), `value` (`=`) and `yaml` (`!`, `&`, `*`).

Anything else is a `str`. The rules are tried in that order for the text's first character;
a text ending in one line feed also matches when the text before it does.

* `resolveScalar text`: the tag of a plain scalar.
-/

namespace HiveDdl.Yaml

def strTag : String := "tag:yaml.org,2002:str"
def seqTag : String := "tag:yaml.org,2002:seq"
def mapTag : String := "tag:yaml.org,2002:map"

def isDigitChar (c : Char) : Bool := '0' ≤ c && c ≤ '9'

def dropSign : List Char → List Char
  | c :: rest => if c = '-' ∨ c = '+' then rest else c :: rest
  | [] => []

def isBoolText (s : String) : Bool :=
  ["yes", "Yes", "YES", "no", "No", "NO", "true", "True", "TRUE", "false", "False", "FALSE",
    "on", "On", "ON", "off", "Off", "OFF"].contains s

def isNullText (s : String) : Bool :=
  ["~", "null", "Null", "NULL", ""].contains s

def isExponent : List Char → Bool
  | e :: sign :: ds =>
    (e = 'e' || e = 'E') && (sign = '-' || sign = '+') && !ds.isEmpty && ds.all isDigitChar
  | _ => false

def isFractionTail (cs : List Char) : Bool :=
  let rest := cs.dropWhile fun c => isDigitChar c || c = '_'
  rest.isEmpty || isExponent rest

/-- Groups of base 60: one or more `:` followed by one or two digits, the first of two at most
`5`. Returns what follows the groups, if there is at least one. -/
def sexagesimalGroups : Nat → List Char → Option (List Char)
  | 0, _ => none
  | fuel + 1, ':' :: a :: b :: rest =>
    if isDigitChar a && '0' ≤ a && a ≤ '5' && isDigitChar b then
      some ((sexagesimalGroups fuel rest).getD rest)
    else if isDigitChar a then some ((sexagesimalGroups fuel (b :: rest)).getD (b :: rest))
    else none
  | _ + 1, [':', a] => if isDigitChar a then some [] else none
  | _, _ => none

def digitRun : List Char → Option (List Char)
  | c :: rest => if isDigitChar c then some (rest.dropWhile fun d => isDigitChar d || d = '_') else none
  | [] => none

def isFloatText (s : String) : Bool :=
  let cs := s.toList
  let unsigned := dropSign cs
  -- [-+]?[0-9][0-9_]*\.[0-9_]*(exp)?
  let decimal := match digitRun unsigned with
    | some ('.' :: tail) => isFractionTail tail
    | _ => false
  -- \.[0-9][0-9_]*(exp)?
  let pointFirst := match cs with
    | '.' :: d :: tail => isDigitChar d && isFractionTail tail
    | _ => false
  -- [-+]?[0-9][0-9_]*(:[0-5]?[0-9])+\.[0-9_]*
  let base60 := match digitRun unsigned with
    | some rest => match sexagesimalGroups (rest.length + 1) rest with
      | some ('.' :: tail) => tail.all fun c => isDigitChar c || c = '_'
      | _ => false
    | none => false
  let infinity := ["inf", "Inf", "INF"].contains (String.ofList (unsigned.drop 1)) &&
    unsigned.head? = some '.'
  let notANumber := ["nan", "NaN", "NAN"].contains (String.ofList (cs.drop 1)) && cs.head? = some '.'
  decimal || pointFirst || base60 || infinity || notANumber

def isIntText (s : String) : Bool :=
  let unsigned := dropSign s.toList
  let binary := match unsigned with
    | '0' :: 'b' :: ds => !ds.isEmpty && ds.all fun c => c = '0' || c = '1' || c = '_'
    | _ => false
  let octal := match unsigned with
    | '0' :: ds => !ds.isEmpty && ds.all fun c => ('0' ≤ c && c ≤ '7') || c = '_'
    | _ => false
  let decimal := match unsigned with
    | ['0'] => true
    | c :: ds => '1' ≤ c && c ≤ '9' && ds.all fun d => isDigitChar d || d = '_'
    | [] => false
  let hex := match unsigned with
    | '0' :: 'x' :: ds => !ds.isEmpty && ds.all fun c =>
        isDigitChar c || ('a' ≤ c && c ≤ 'f') || ('A' ≤ c && c ≤ 'F') || c = '_'
    | _ => false
  let base60 := match unsigned with
    | c :: _ =>
      '1' ≤ c && c ≤ '9' && (match digitRun unsigned with
        | some rest => sexagesimalGroups (rest.length + 1) rest = some []
        | none => false)
    | [] => false
  binary || octal || decimal || hex || base60

def takeDigits (n : Nat) (cs : List Char) : Option (List Char) :=
  if (cs.take n).length = n && (cs.take n).all isDigitChar then some (cs.drop n) else none

def takeOneOrTwoDigits (cs : List Char) : Option (List Char) :=
  match cs with
  | a :: b :: rest => if isDigitChar a then (if isDigitChar b then some rest else some (b :: rest)) else none
  | [a] => if isDigitChar a then some [] else none
  | [] => none

/-- Whether characters are a time zone: `Z`, or a sign, one or two digits, optionally `:` and
two digits. -/
def isZone : List Char → Bool
  | ['Z'] => true
  | sign :: rest =>
    (sign = '-' || sign = '+') && (match takeOneOrTwoDigits rest with
      | some [] => true
      | some (':' :: more) => takeDigits 2 more = some []
      | _ => false)
  | [] => false

/-- Whether characters are the time part of a timestamp, after the date: `T`, `t` or blanks,
hour, minutes, seconds, an optional fraction, and an optional zone after optional blanks. -/
def isTimeTail (cs : List Char) : Bool :=
  let afterSep := match cs with
    | c :: rest => if c = 'T' || c = 't' then some rest
      else if c = ' ' || c = '\t' then some (rest.dropWhile fun d => d = ' ' || d = '\t') else none
    | [] => none
  match afterSep.bind takeOneOrTwoDigits with
  | some (':' :: r1) =>
    match takeDigits 2 r1 with
    | some (':' :: r2) =>
      match takeDigits 2 r2 with
      | some r3 =>
        let r4 := match r3 with
          | '.' :: more => more.dropWhile isDigitChar
          | _ => r3
        r4.isEmpty || isZone (r4.dropWhile fun d => d = ' ' || d = '\t')
      | none => false
    | _ => false
  | _ => false

def isTimestampText (s : String) : Bool :=
  let cs := s.toList
  let dateOnly := match takeDigits 4 cs with
    | some ('-' :: r) => match takeDigits 2 r with
      | some ('-' :: r') => takeDigits 2 r' = some []
      | _ => false
    | _ => false
  let dateTime := match takeDigits 4 cs with
    | some ('-' :: r) => match takeOneOrTwoDigits r with
      | some ('-' :: r') => match takeOneOrTwoDigits r' with
        | some tail => isTimeTail tail
        | none => false
      | _ => false
    | _ => false
  dateOnly || dateTime

def implicitRules (first : Option Char) : List (String × (String → Bool)) :=
  let boolRule := ("tag:yaml.org,2002:bool", isBoolText)
  let floatRule := ("tag:yaml.org,2002:float", isFloatText)
  let intRule := ("tag:yaml.org,2002:int", isIntText)
  let nullRule := ("tag:yaml.org,2002:null", isNullText)
  let timestampRule := ("tag:yaml.org,2002:timestamp", isTimestampText)
  match first with
  | none => [nullRule]
  | some c =>
    if "yYtTfFoO".contains c then [boolRule]
    else if c = 'n' ∨ c = 'N' then [boolRule, nullRule]
    else if isDigitChar c then [floatRule, intRule, timestampRule]
    else if c = '-' ∨ c = '+' then [floatRule, intRule]
    else if c = '.' then [floatRule]
    else if c = '~' then [nullRule]
    else if c = '<' then [("tag:yaml.org,2002:merge", (· = "<<"))]
    else if c = '=' then [("tag:yaml.org,2002:value", (· = "="))]
    else if c = '!' ∨ c = '&' ∨ c = '*' then
      [("tag:yaml.org,2002:yaml", fun t => t = "!" || t = "&" || t = "*")]
    else []

def ruleAccepts (test : String → Bool) (s : String) : Bool :=
  test s || (s.endsWith "\n" && test (String.ofList s.toList.dropLast))

def resolveScalar (s : String) : String :=
  match (implicitRules s.toList.head?).find? (fun (_, test) => ruleAccepts test s) with
  | some (tag, _) => tag
  | none => strTag

end HiveDdl.Yaml
