import ObliviousTransfer.Command.Arguments

/-!
Programs with options of their own and subcommands with theirs. The arguments
of a subcommand are read and checked before anything that the program's own
options still have pending.
-/

namespace ObliviousTransfer.Command

structure Subcommand (Result : Type) : Type 1 where
  name : String
  about : String
  {Record Slots : Type}
  options : Options Record Slots
  build : Record → Result

structure Program (Shared Result : Type) : Type 1 where
  name : String
  version : String
  about : String
  {Slots : Type}
  options : Options Shared Slots
  subcommands : List (Subcommand Result)

inductive Request (Result : Type) where
  | run (result : Result)
  | help (lines : List String)
  | version

/-- A table in two columns, the second of which starts two places after the longest first. -/
def columns (rows : List (String × String)) : List String :=
  let width := rows.foldl (fun width row => max width row.1.length) 0
  rows.map fun (left, right) =>
    "  " ++ left ++ String.ofList (List.replicate (width - left.length) ' ') ++ "  " ++ right

namespace OptionRule

def placeholder (rule : OptionRule) : String :=
  "<" ++ String.ofList (rule.name.toList.map fun letter =>
    if letter = '-' then '_' else letter.toUpper) ++ ">"

def isRequired (rule : OptionRule) : Bool := rule.fallback.isNone

def explanation (environment : Environment) (rule : OptionRule) (choices : List String) : String :=
  let source := match rule.environment with
    | some name => " [env: " ++ name ++ "=" ++ (environment.lookup name).getD "" ++ "]"
    | none => ""
  let fallback := match rule.fallback with
    | some text => " [default: " ++ text ++ "]"
    | none => ""
  let possible :=
    if choices = [] then "" else " [possible values: " ++ ", ".intercalate choices ++ "]"
  rule.about ++ source ++ fallback ++ possible

def row (environment : Environment) (rule : OptionRule) (choices : List String) : String × String :=
  (String.ofList ['-', rule.short] ++ ", --" ++ rule.name ++ " " ++ rule.placeholder,
    rule.explanation environment choices)

end OptionRule

variable {Shared Result Record Slots : Type}

def usage (path : String) (rules : List OptionRule) (closing : List String) : String :=
  let optional := if rules.all OptionRule.isRequired then [] else ["[OPTIONS]"]
  let required := (rules.filter OptionRule.isRequired).map fun rule =>
    "--" ++ rule.name ++ " " ++ rule.placeholder
  " ".intercalate ("Usage:" :: path :: optional ++ required ++ closing)

def helpRow : String × String := ("-h, --help", "Print help")

def versionRow : String × String := ("-V, --version", "Print version")

def Subcommand.help (program : String) (environment : Environment)
    (subcommand : Subcommand Result) : List String :=
  let rules := subcommand.options.rules
  [subcommand.about, "", usage (program ++ " " ++ subcommand.name) (rules.map Prod.fst) [], "",
    "Options:"] ++
    columns (rules.map (fun (rule, choices) => rule.row environment choices) ++ [helpRow])

namespace Program

def helpName : String := "help"

def helpAbout : String := "Print this message or the help of the given subcommand(s)"

def usageLine (program : Program Shared Result) : String :=
  usage program.name (program.options.rules.map Prod.fst) ["<COMMAND>"]

def help (program : Program Shared Result) (environment : Environment) : List String :=
  let rules := program.options.rules
  let commands := program.subcommands.map fun subcommand => (subcommand.name, subcommand.about)
  [program.about, "", program.usageLine, "", "Commands:"] ++
    columns (commands ++ [(helpName, helpAbout)]) ++ ["", "Options:"] ++
    columns (rules.map (fun (rule, choices) => rule.row environment choices) ++
      [helpRow, versionRow])

def subcommand? (program : Program Shared Result) (name : String) : Option (Subcommand Result) :=
  program.subcommands.find? fun subcommand => subcommand.name = name

def rules (program : Program Shared Result) : List OptionRule :=
  let inner := program.subcommands.flatMap fun subcommand => subcommand.options.rules
  (program.options.rules ++ inner).map Prod.fst

def helpOn (program : Program Shared Result) (environment : Environment) :
    List String → Except UsageFault (List String)
  | [] => .ok (program.help environment)
  | name :: rest => do
      let lines ←
        if name = helpName then
          .ok [helpAbout, "", "Usage: " ++ program.name ++ " help [COMMAND]..."]
        else
          match program.subcommand? name with
          | some subcommand => .ok (subcommand.help program.name environment)
          | none => .error (.unknownCommand name)
      match rest with
      | [] => .ok lines
      | extra :: _ => .error (.unknownCommand extra)

/-- Reads the arguments of a subcommand, none of which is a word. -/
def parseSubcommand (program : Program Shared Result) (environment : Environment)
    (subcommand : Subcommand Result) (arguments : List String) :
    Except UsageFault (Request Result) := do
  match ← scan subcommand.options false arguments ⟨subcommand.options.empty, none⟩ with
  | .help => .ok (.help (subcommand.help program.name environment))
  | .version => .ok .version
  | .word text _ _ => .error (.unexpectedArgument text)
  | .finished progress =>
      let slots ← progress.settle subcommand.options
      let record ← subcommand.options.complete environment slots
      .ok (.run (subcommand.build record))

def parse (program : Program Shared Result) (environment : Environment)
    (arguments : List String) : Except UsageFault (Request (Shared × Result)) := do
  match ← scan program.options true arguments ⟨program.options.empty, none⟩ with
  | .help => .ok (.help (program.help environment))
  | .version => .ok .version
  | .finished progress =>
      let _ ← progress.settle program.options
      .error .missingCommand
  | .word name rest progress =>
      if name = helpName then
        let lines ← program.helpOn environment rest
        .ok (.help lines)
      else
        match program.subcommand? name with
        | none => .error (.unknownCommand name)
        | some subcommand =>
            match ← program.parseSubcommand environment subcommand rest with
            | .help lines => .ok (.help lines)
            | .version => .ok .version
            | .run result =>
                let slots ← progress.settle program.options
                let shared ← program.options.complete environment slots
                .ok (.run (shared, result))

end Program

end ObliviousTransfer.Command
