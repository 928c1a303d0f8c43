import HiveDdl.Cli.Help
import HiveDdl.Text.Case
import HiveDdl.Text.Quote
import HiveDdl.Text.Similarity
/-!
# Command line arguments

A command declares options: flags, options taking a text, and options choosing among names.
Arguments are read from the left:

* `--` ends the options; what follows is left over;
* an argument starting with `-` (and longer than that) is an option: `--name`, `--name=value`,
  or one or more single-letter options after one dash (`-h`);
* an option taking a value takes the rest of `--name=value` or the next argument, whatever it
  looks like;
* any other argument is left over; a command group stops reading options there.

Then each option is checked, eager ones (help, version) first, then in the order they were
first given, then the rest in declaration order: a choice must name one of its choices up to
case, and a required option must be given. Of an option given twice the last value counts.

* `readArguments`: what the arguments give, or the first problem.
* `UsageProblem.message`: the problem as the error line shows it.
-/

namespace HiveDdl.Cli

/-- How an option takes its value. -/
inductive OptionKind where
  | flag
  /-- A text, shown in help as the metavariable. -/
  | text (metavar : String)
  /-- One of the choices, compared up to case. -/
  | choice (choices : List String)
deriving Repr, DecidableEq

/-- An option of a command. -/
structure OptionSpec where
  /-- The names, such as `-h` and `--help`. -/
  names : List String
  /-- The key its value is kept under. -/
  key : String
  kind : OptionKind
  help : String
  required : Bool
  /-- Eager options are handled before the others. -/
  eager : Bool
  /-- A default shown in help, if any. -/
  shownDefault : Option String
deriving Repr

def isLongName (name : String) : Bool :=
  name.startsWith "--" || name.length > 2

def OptionSpec.takesValue (o : OptionSpec) : Bool := o.kind != .flag

/-- Folds case as choices compare: lower case, with the letters whose folding differs from
their lower case (sharp s, long s, and the Latin ligatures) spelled out. -/
def caseFold (s : String) : String :=
  String.join ((Text.lower s).toList.map fun c =>
    if c = 'ß' then "ss" else if c = 'ſ' then "s"
    else if c = 'ﬀ' then "ff" else if c = 'ﬁ' then "fi" else if c = 'ﬂ' then "fl"
    else if c = 'ﬃ' then "ffi" else if c = 'ﬄ' then "ffl"
    else if c = 'ﬅ' ∨ c = 'ﬆ' then "st" else c.toString)

/-- Why arguments are refused. -/
inductive UsageProblem where
  | noSuchOption (name : String) (suggestions : List String)
  | requiresArgument (name : String)
  | takesNoValue (name : String)
  | missingOption (names : List String)
  | invalidChoice (names : List String) (value : String) (choices : List String)
  | extraArguments (args : List String)
  | noSuchCommand (name : String) (suggestions : List String)
  | missingCommand
deriving Repr, DecidableEq

def quotedNames (names : List String) : String :=
  " / ".intercalate (names.map fun n => "'" ++ n ++ "'")

/-- What a problem suggests instead of an unknown name: nothing, the one close name, or the
close names in order. -/
def suggestionText : List String → String
  | [] => ""
  | [s] => " Did you mean " ++ Text.quoted s ++ "?"
  | ss => " (Did you mean one of: " ++ ", ".intercalate (ss.map Text.quoted) ++ "?)"

/-- The message of a usage problem. -/
def UsageProblem.message : UsageProblem → String
  | .noSuchOption name suggestions =>
    "No such option " ++ Text.quoted name ++ "." ++ suggestionText suggestions
  | .requiresArgument name => "Option " ++ Text.quoted name ++ " requires an argument."
  | .takesNoValue name => "Option " ++ Text.quoted name ++ " does not take a value."
  | .missingOption names => "Missing option " ++ quotedNames names ++ "."
  | .invalidChoice names value choices =>
    "Invalid value for " ++ quotedNames names ++ ": " ++ Text.quoted value ++
      (match choices with
        | [c] => " is not " ++ Text.quoted c ++ "."
        | cs => " is not one of " ++ ", ".intercalate (cs.map Text.quoted) ++ ".")
  | .extraArguments args =>
    "Got unexpected extra argument" ++ (if args.length = 1 then "" else "s") ++ " (" ++
      " ".intercalate args ++ ")"
  | .noSuchCommand name suggestions =>
    "No such command " ++ Text.quoted name ++ "." ++ suggestionText suggestions
  | .missingCommand => "Missing command."

/-- Whether the problem is shown under the usage line: all are but the misuse of an option,
which is shown alone. -/
def UsageProblem.showsUsage : UsageProblem → Bool
  | .requiresArgument _ => false
  | .takesNoValue _ => false
  | _ => true

/-- What reading arguments gives: the value of each option given (flags read `true`), the keys
in the order options were first given, and the arguments left over. -/
structure Reading where
  values : List (String × String)
  order : List String
  rest : List String
deriving Repr

def Reading.give (r : Reading) (key value : String) : Reading :=
  { r with values := (r.values.filter (·.1 != key)) ++ [(key, value)],
           order := if r.order.contains key then r.order else r.order ++ [key] }

def findOption (options : List OptionSpec) (name : String) : Option OptionSpec :=
  options.find? fun o => o.names.contains name

def longNames (options : List OptionSpec) : List String :=
  options.flatMap fun o => o.names.filter isLongName

/-- Reads single-letter options after one dash; a letter option taking a value takes the rest
of the argument, or the next argument. -/
def readLetters (options : List OptionSpec) (r : Reading) :
    List Char → List String → Except UsageProblem (Reading × List String)
  | [], rargs => .ok (r, rargs)
  | c :: more, rargs =>
    let name := "-" ++ c.toString
    match findOption options name with
    | none => .error (.noSuchOption name [])
    | some o =>
      if o.takesValue then
        if !more.isEmpty then .ok (r.give o.key (String.ofList more), rargs)
        else match rargs with
          | v :: rest => .ok (r.give o.key v, rest)
          | [] => .error (.requiresArgument name)
      else readLetters options (r.give o.key "true") more rargs

def readOption (options : List OptionSpec) (r : Reading) (arg : String) (rargs : List String) :
    Except UsageProblem (Reading × List String) :=
  let (name, explicit) := match (arg.toList.splitOn '=').map String.ofList with
    | n :: v :: more => (n, some ("=".intercalate (v :: more)))
    | _ => (arg, none)
  match (findOption options name).filter (fun _ => isLongName name) with
  | some o =>
    if o.takesValue then
      match explicit with
      | some v => .ok (r.give o.key v, rargs)
      | none => match rargs with
        | v :: rest => .ok (r.give o.key v, rest)
        | [] => .error (.requiresArgument name)
    else if explicit.isSome then .error (.takesNoValue name)
    else .ok (r.give o.key "true", rargs)
  | none =>
    if arg.startsWith "--" then
      .error (.noSuchOption name (Text.closeMatches name (longNames options)).mergeSort)
    else readLetters options r (arg.toList.drop 1) rargs

def readFrom (options : List OptionSpec) (interspersed : Bool) :
    Nat → Reading → List String → Except UsageProblem Reading
  | 0, r, rargs => .ok { r with rest := r.rest ++ rargs }
  | fuel + 1, r, rargs =>
    match rargs with
    | [] => .ok r
    | arg :: more =>
      if arg = "--" then .ok { r with rest := r.rest ++ more }
      else if arg.startsWith "-" ∧ arg.length > 1 then do
        let (r', left) ← readOption options r arg more
        readFrom options interspersed fuel r' left
      else if interspersed then readFrom options interspersed fuel { r with rest := r.rest ++ [arg] } more
      else .ok { r with rest := r.rest ++ rargs }

/-- Reads arguments against the options of a command. -/
def readArguments (options : List OptionSpec) (interspersed : Bool) (args : List String) :
    Except UsageProblem Reading :=
  readFrom options interspersed (args.length + 1) ⟨[], [], []⟩ args

/-- Inserts an item into a list sorted by `before`, ahead of the first item it comes before or
ties with: sorting by insertion keeps tied items in their order. -/
def insertSorted {α : Type} (before : α → α → Bool) (a : α) : List α → List α
  | [] => [a]
  | b :: rest => if before a b then a :: b :: rest else b :: insertSorted before a rest

/-- The options in the order they are checked: eager ones first, then those given in the order
first given, then the rest in declaration order. -/
def checkOrder (options : List OptionSpec) (order : List String) : List OptionSpec :=
  let rank (o : OptionSpec) : Nat := (order.idxOf? o.key).getD order.length
  options.foldr (insertSorted fun a b =>
    (a.eager && !b.eager) || (a.eager == b.eager && rank a ≤ rank b)) []

def checkValue (o : OptionSpec) (value : String) : Except UsageProblem String :=
  match o.kind with
  | .choice choices =>
    match choices.find? fun c => caseFold c == caseFold value with
    | some c => .ok c
    | none => .error (.invalidChoice o.names value (choices.map caseFold))
  | _ => .ok value

end HiveDdl.Cli
