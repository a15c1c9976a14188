/-!
Options of a command. Each takes one value, which is read as soon as it is
settled, may be given once, and falls back on a variable of the environment and
then on a text of its own. The options of a command make up a record.
-/

namespace ObliviousTransfer.Command

inductive UsageFault where
  | missingCommand
  | unknownCommand (name : String)
  | unexpectedArgument (argument : String)
  | unexpectedValue (flag value : String)
  | missingValue (option : String)
  | repeatedOption (option : String)
  | badValue (option value : String)
  | missingOption (option : String)
  deriving DecidableEq

def UsageFault.message : UsageFault → String
  | .missingCommand => "a subcommand is required but one was not provided"
  | .unknownCommand name => "unrecognized subcommand '" ++ name ++ "'"
  | .unexpectedArgument argument => "unexpected argument '" ++ argument ++ "' found"
  | .unexpectedValue flag value =>
      "unexpected value '" ++ value ++ "' for '--" ++ flag ++ "' found; no more were expected"
  | .missingValue option => "a value is required for '--" ++ option ++ "' but none was supplied"
  | .repeatedOption option => "the argument '--" ++ option ++ "' cannot be used multiple times"
  | .badValue option value => "invalid value '" ++ value ++ "' for '--" ++ option ++ "'"
  | .missingOption option => "the required argument '--" ++ option ++ "' was not provided"

/-- A decimal number below `2 ^ 64`, with a plus sign or without. -/
def count? (text : String) : Option Nat :=
  let digits := match text.toList with
    | '+' :: rest => rest
    | digits => digits
  if digits ≠ [] ∧ digits.all Char.isDigit then
    let value := digits.foldl (fun value digit => 10 * value + (digit.toNat - '0'.toNat)) 0
    if value < 0x10000000000000000 then some value else none
  else none

/-- The texts that an option takes, and what they mean. -/
structure ValueKind (Value : Type) where
  read : String → Option Value
  /-- The only texts that it takes, if they are few. -/
  choices : List String

namespace ValueKind

def text : ValueKind String := ⟨some, []⟩

def path : ValueKind String := ⟨fun text => if text = "" then none else some text, []⟩

def count : ValueKind Nat := ⟨count?, []⟩

def oneOf {Value : Type} (choices : List (String × Value)) : ValueKind Value :=
  ⟨fun text => choices.lookup text, choices.map Prod.fst⟩

end ValueKind

structure OptionRule where
  name : String
  short : Char
  about : String
  /-- The variable of the environment that stands in for the option. -/
  environment : Option String
  fallback : Option String

inductive Options : Type → Type → Type 1 where
  | nil : Options Unit Unit
  | option {Value Rest RestSlots : Type} (rule : OptionRule) (kind : ValueKind Value)
      (rest : Options Rest RestSlots) : Options (Value × Rest) (Option Value × RestSlots)

abbrev Environment := List (String × String)

namespace Options

def rules : {Record Slots : Type} → Options Record Slots → List (OptionRule × List String)
  | _, _, .nil => []
  | _, _, .option rule kind rest => (rule, kind.choices) :: rest.rules

def empty : {Record Slots : Type} → Options Record Slots → Slots
  | _, _, .nil => ()
  | _, _, .option _ _ rest => (none, rest.empty)

def readValue {Value : Type} (rule : OptionRule) (kind : ValueKind Value) (text : String) :
    Except UsageFault Value :=
  match kind.read text with
  | some value => .ok value
  | none => .error (.badValue rule.name text)

def put (name text : String) : {Record Slots : Type} → Options Record Slots → Slots →
    Except UsageFault Slots
  | _, _, .nil, _ => .error (.unexpectedArgument name)
  | _, _, .option rule kind rest, (slot, slots) =>
      if rule.name = name then
        match slot with
        | some _ => .error (.repeatedOption name)
        | none => (readValue rule kind text).map fun value => (some value, slots)
      else (put name text rest slots).map fun slots => (slot, slots)

def substitute? (environment : Environment) (rule : OptionRule) : Option String :=
  (rule.environment.bind fun name => environment.lookup name).or rule.fallback

def complete (environment : Environment) : {Record Slots : Type} → Options Record Slots → Slots →
    Except UsageFault Record
  | _, _, .nil, _ => .ok ()
  | _, _, .option rule kind rest, (slot, slots) => do
      let value ← match slot, substitute? environment rule with
        | some value, _ => .ok value
        | none, some text => readValue rule kind text
        | none, none => .error (.missingOption rule.name)
      let values ← rest.complete environment slots
      .ok (value, values)

end Options

end ObliviousTransfer.Command
