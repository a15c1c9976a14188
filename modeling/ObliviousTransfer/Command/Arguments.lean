import ObliviousTransfer.Command.Options

/-!
Reading arguments from left to right. The value of an option that stands in an
argument of its own is settled only when the next option or flag is met, or at
the end; a value attached to its option is settled at once.
-/

namespace ObliviousTransfer.Command

inductive Argument where
  /-- Two hyphens: what follows is no option. -/
  | divider
  | long (name : String) (value : Option String)
  /-- What comes after a single hyphen. -/
  | cluster (letter : Char) (rest : List Char)
  | word (text : String)
  deriving DecidableEq

def Argument.attached : List Char → Option String
  | '=' :: value => some (String.ofList value)
  | _ => none

def Argument.ofString (text : String) : Argument :=
  match text.toList with
  | ['-', '-'] => .divider
  | '-' :: '-' :: rest =>
      .long (String.ofList (rest.takeWhile (· ≠ '='))) (attached (rest.dropWhile (· ≠ '=')))
  | '-' :: letter :: rest => .cluster letter rest
  | _ => .word text

inductive Reaction where
  | give (option : String) (value : Option String)
  | help
  | version
  deriving DecidableEq

/-- What an argument with hyphens asks of a command with the given options. -/
def react (rules : List OptionRule) (versioned : Bool) : Argument → Except UsageFault Reaction
  | .long name value =>
      let flag (reaction : Reaction) : Except UsageFault Reaction :=
        match value with
        | none => .ok reaction
        | some value => .error (.unexpectedValue name value)
      if name = "help" then flag .help
      else if versioned && name == "version" then flag .version
      else
        match rules.find? fun rule => rule.name = name with
        | some rule => .ok (.give rule.name value)
        | none => .error (.unexpectedArgument ("--" ++ name))
  | .cluster letter rest =>
      if letter = 'h' then .ok .help
      else if versioned && letter == 'V' then .ok .version
      else
        match rules.find? fun rule => rule.short = letter with
        | none => .error (.unexpectedArgument (String.ofList ['-', letter]))
        | some rule =>
            if rest = [] then .ok (.give rule.name none)
            else .ok (.give rule.name ((Argument.attached rest).or (some (String.ofList rest))))
  | .divider => .error (.unexpectedArgument "--")
  | .word text => .error (.unexpectedArgument text)

/-- The values that are settled, and the option that was met last if its value is not. -/
structure Progress (Slots : Type) where
  slots : Slots
  pending : Option (String × Option String)

inductive Scanned (Slots : Type) where
  | finished (progress : Progress Slots)
  | word (text : String) (rest : List String) (progress : Progress Slots)
  | help
  | version

variable {Record Slots : Type}

def Progress.settle (options : Options Record Slots) (progress : Progress Slots) :
    Except UsageFault Slots :=
  match progress.pending with
  | none => .ok progress.slots
  | some (name, none) => .error (.missingValue name)
  | some (name, some value) => options.put name value progress.slots

/-- Reads arguments up to the first word that is no value of an option. -/
def scan (options : Options Record Slots) (versioned : Bool) :
    List String → Progress Slots → Except UsageFault (Scanned Slots)
  | [], progress => .ok (.finished progress)
  | text :: rest, progress =>
      match progress.pending, Argument.ofString text with
      | some (name, none), .word value =>
          scan options versioned rest { progress with pending := some (name, some value) }
      | _, .word word => .ok (.word word rest progress)
      | _, .divider =>
          match rest with
          | [] => .ok (.finished progress)
          | extra :: _ => .error (.unexpectedArgument extra)
      | _, argument => do
          let reaction ← react (options.rules.map Prod.fst) versioned argument
          let slots ← progress.settle options
          match reaction with
          | .help => .ok .help
          | .version => .ok .version
          | .give name none => scan options versioned rest ⟨slots, some (name, none)⟩
          | .give name (some value) =>
              let slots ← options.put name value slots
              scan options versioned rest ⟨slots, none⟩

end ObliviousTransfer.Command
