import Panorama.Decimal.Reading

/-!
# Options

Reading the options of a command: words such as `--name value` or `--name=value`. Words are read
from left to right, and the first one that is not understood, or that asks for help, ends it.
-/

namespace Panorama.CommandLine

/-- An option of a command. -/
structure OptionRule where
  /-- The name, with its dashes. -/
  name : String
  /-- Which values are allowed. -/
  accepts : String → Bool
  /-- Whether it must be given. -/
  required : Bool
  /-- Whether it may be given several times. -/
  repeatable : Bool

/-- Why options give no command. -/
inductive Interruption where
  /-- Help is asked for. -/
  | help
  /-- The options are not understood. -/
  | misuse (reason : String)
  deriving DecidableEq, Repr

/-- Options with their values, in the order in which they are given. -/
abbrev Given := List (String × String)

/-- The name and the value in a word with an equals sign. -/
def splitWord (word : String) : String × Option String :=
  match word.splitOn "=" with
  | name :: first :: rest => (name, some ("=".intercalate (first :: rest)))
  | _ => (word, none)

/-- Whether a word cannot be the value of the option in front of it. -/
def isOptionLike (word : String) : Bool :=
  word.startsWith "-" && word != "-"

/-- Take an option with its value. -/
def takeValue (rules : List OptionRule) (given : Given) (name value : String) :
    Except Interruption Given :=
  match rules.find? (·.name = name) with
  | none => .error (.misuse s!"unexpected argument '{name}'")
  | some rule =>
    if !rule.repeatable && given.any (·.1 = name) then
      .error (.misuse s!"the argument '{name}' cannot be used multiple times")
    else if rule.accepts value then .ok (given ++ [(name, value)])
    else .error (.misuse s!"invalid value '{value}' for '{name}'")

/-- Refuse options of which a required one is missing. -/
def checkRequired (rules : List OptionRule) (given : Given) : Except Interruption Given :=
  match rules.find? fun rule ↦ rule.required && !given.any (·.1 = rule.name) with
  | some rule => .error (.misuse s!"the argument '{rule.name}' is required")
  | none => .ok given

/-- Read options, of which some are given already. -/
def readOptions (rules : List OptionRule) (given : Given) :
    List String → Except Interruption Given
  | [] => checkRequired rules given
  | ["--"] => checkRequired rules given
  | word :: rest =>
    if word = "--help" ∨ word.startsWith "-h" then .error .help
    else if !word.startsWith "--" then .error (.misuse s!"unexpected argument '{word}'")
    else
      match splitWord word, rest with
      | (name, some value), rest => do readOptions rules (← takeValue rules given name value) rest
      | (name, none), value :: rest => do
        if !rules.any (·.name = name) then throw (.misuse s!"unexpected argument '{name}'")
        if isOptionLike value then throw (.misuse s!"a value is required for '{name}'")
        readOptions rules (← takeValue rules given name value) rest
      | (name, none), [] => .error (.misuse s!"a value is required for '{name}'")

/-- The value of an option that was given at most once. -/
def Given.value? (given : Given) (name : String) : Option String := List.lookup name given

/-- The values of an option in order. -/
def Given.values (given : Given) (name : String) : List String :=
  (given.filter (·.1 = name)).map Prod.snd

/-- A count of at most 64 bits. -/
def count? (value : String) : Option Nat :=
  (Decimal.readCount? value.toList).toOption

/-- A width of at most 32 bits. Zero may have a minus sign. -/
def width? (value : String) : Option UInt32 := do
  let (negative, digits) : Bool × List Char := match value.toList with
    | '-' :: digits => (true, digits)
    | digits => (false, digits)
  if negative && digits.head? == some '+' then none
  else
    let width ← (Decimal.readCount? digits).toOption
    if width < UInt32.size ∧ (negative → width = 0) then some (.ofNat width) else none

/-- An option that takes a path, which is not empty. -/
def pathRule (name : String) (required repeatable : Bool) : OptionRule where
  name := name
  accepts value := !value.isEmpty
  required := required
  repeatable := repeatable

end Panorama.CommandLine
