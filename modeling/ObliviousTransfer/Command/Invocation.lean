import ObliviousTransfer.Command.Program

/-!
The commands of the program, and the texts of its options.
-/

namespace ObliviousTransfer

def version : String := "0.1.0"

inductive ChoiceRule where
  | fixed (choice : Bool)
  | random
  deriving DecidableEq

inductive Command where
  | setup (context : String)
  | transfer (count : Nat) (choice : ChoiceRule)
  | compact (signature : String)
  | verify (publicKey hash signature : String)
  deriving DecidableEq

namespace Command

def contextRule : OptionRule :=
  ⟨"context", 'c', "Context bound into the setup proof", some "ROT_CONTEXT", some "rot-party"⟩

def countRule : OptionRule := ⟨"count", 'n', "Number of executions", none, some "1"⟩

def choiceRule : OptionRule := ⟨"choice", 'c', "Receiver choice bit", none, some "random"⟩

def signatureRule : OptionRule :=
  ⟨"signature", 's', "Signature as hex encoded R (compressed) || S", none, none⟩

def publicKeyRule : OptionRule :=
  ⟨"public-key", 'p', "Compressed public key (hex)", none, none⟩

def hashRule : OptionRule := ⟨"hash", 'm', "Message hash (hex)", none, none⟩

def destinationRule : OptionRule :=
  ⟨"dest", 'd', "Data directory for persisted setups", some "ROT_DEST", some "./data"⟩

def choiceKind : ValueKind ChoiceRule :=
  .oneOf [("0", .fixed false), ("1", .fixed true), ("random", .random)]

def setupCommand : Subcommand Command where
  name := "setup"
  about := "Run both sides of the OT setup and save the results"
  options := .option contextRule .text .nil
  build := fun (context, _) => .setup context

def transferCommand : Subcommand Command where
  name := "transfer"
  about := "Run random OT executions with the saved setup"
  options := .option countRule .count (.option choiceRule choiceKind .nil)
  build := fun (count, choice, _) => .transfer count choice

def compactCommand : Subcommand Command where
  name := "compact"
  about := "Print the Ethereum compact encoding of a signature"
  options := .option signatureRule .text .nil
  build := fun (signature, _) => .compact signature

def verifyCommand : Subcommand Command where
  name := "verify"
  about := "Verify a signature"
  options := .option publicKeyRule .text (.option hashRule .text (.option signatureRule .text .nil))
  build := fun (publicKey, hash, signature, _) => .verify publicKey hash signature

def program : Program (String × Unit) Command where
  name := "rot-party"
  version := version
  about := "Random oblivious transfer and signature tooling"
  options := .option destinationRule .path .nil
  subcommands := [setupCommand, transferCommand, compactCommand, verifyCommand]

end Command

end ObliviousTransfer
