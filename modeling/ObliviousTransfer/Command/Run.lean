import ObliviousTransfer.Command.Invocation
import ObliviousTransfer.Command.Plan
import ObliviousTransfer.Ecdsa.Signature
import ObliviousTransfer.Protocol.Execution

/-!
What each command does. A command that fails prints nothing but the reason, so
a transfer prints all of its executions or none.
-/

namespace ObliviousTransfer

/-- A random choice is the lowest bit of a byte of the tape. -/
def ChoiceRule.draw (rule : ChoiceRule) (tape : Tape) : Bool × Tape :=
  match rule with
  | .fixed choice => (choice, tape)
  | .random => ((tape.next 1).any fun byte => byte &&& 1 == 1, tape.advance 1)

namespace Command

inductive CommandFault where
  | file (fault : FileFault)
  | unreadableFile (path : String) (fault : FileFault)
  | unreadableText (fault : Json.Fault FieldFault)
  | hex (fault : Hex.Fault)
  | publicKey (fault : EncodingFault)
  | protocol (failure : Failure)
  | unrelatedSetups
  | padMismatch
  deriving DecidableEq

def CommandFault.message : CommandFault → String
  | .file fault => fault.message
  | .unreadableFile path _ => "Failed to read " ++ path
  | .unreadableText fault => readingMessage fault
  | .hex fault => fault.message
  | .publicKey _ => "Invalid public key"
  | .protocol failure => failure.message
  | .unrelatedSetups => "Sender and receiver setups do not belong together"
  | .padMismatch => "Receiver pad does not match sender pad"

/-- What lies behind a fault, where its message does not say it. -/
def CommandFault.cause? : CommandFault → Option String
  | .unreadableFile _ fault => some fault.message
  | .publicKey fault => some (encodingMessage fault)
  | _ => none

structure Report where
  exit : UInt32
  output : List String
  complaints : List String
  deriving DecidableEq

/-- The lines that a command prints, or why it failed. -/
abbrev Lines := Except CommandFault (List String)

def Report.ofLines : Lines → Report
  | .ok lines => ⟨0, lines, []⟩
  | .error fault =>
      let cause := match fault.cause? with
        | some cause => ["", "Caused by:", "    " ++ cause]
        | none => []
      ⟨1, [], ("Error: " ++ fault.message) :: cause⟩

def Report.ofUsageFault (environment : Environment) : UsageFault → Report
  | .missingCommand => ⟨2, [], program.help environment⟩
  | fault =>
      ⟨2, [], ["error: " ++ fault.message, "", program.usageLine, "",
        "For more information, try '--help'."]⟩

def senderFile (destination : String) : String := Path.join destination "sender_setup.json"

def receiverFile (destination : String) : String := Path.join destination "receiver_setup.json"

/-- Both sides of a setup: the message, and what each side keeps. -/
def agree (context : List Byte) (tape : Tape) :
    Except Failure (SetupMessage × SenderSetup × ReceiverSetup) := do
  let (message, sender) ← (Setup.create context tape).result
  let receiver ← (Setup.accept context message).value
  .ok (message, sender, receiver)

def setupPlan (destination context : String) : Plan Lines :=
  (Plan.makeDirectories destination).andThen fun
    | .error fault => .done (.error (.file fault))
    | .ok _ => .freshTape fun tape =>
        match agree (utf8 context) tape with
        | .error failure => .done (.error (.protocol failure))
        | .ok (message, sender, receiver) =>
            let senderText := Json.save SenderSetup.format .pretty sender
            let receiverText := Json.save ReceiverSetup.format .pretty receiver
            .writeFile (senderFile destination) senderText fun
              | .error fault => .done (.error (.file fault))
              | .ok _ => .writeFile (receiverFile destination) receiverText fun
                  | .error fault => .done (.error (.file fault))
                  | .ok _ => .done (.ok
                      ["Setup message: " ++ Hex.encodeString message.encode.bytes,
                        "Public Key: " ++ Hex.encodeString message.publicKey.bytes])

def loadThen {Value : Type} (format : Json.Format FieldFault Value) (path : String)
    (next : Value → Plan Lines) : Plan Lines :=
  .readFile path fun
    | .error fault => .done (.error (.unreadableFile path fault))
    | .ok text =>
        match format.decode text.toList with
        | .error fault => .done (.error (.unreadableText fault))
        | .ok value => next value

structure Execution where
  nonce : Octets nonceBytes
  choice : Bool
  received : Pad
  pads : PadPair
  deriving DecidableEq

/-- One execution under a random nonce, whose pad has to be the chosen one. -/
def runOne [KeyedHash] (sender : SenderSetup) (receiver : ReceiverSetup) (rule : ChoiceRule)
    (tape : Tape) : Except CommandFault Execution :=
  let (nonce, tape) := tape.octets nonceBytes
  let (choice, tape) := rule.draw tape
  match (execute nonce.bytes sender receiver choice tape).result with
  | .error failure => .error (.protocol failure)
  | .ok (pads, received) =>
      if received = pads.pick choice then .ok ⟨nonce, choice, received, pads⟩
      else .error .padMismatch

def Execution.lines (execution : Execution) (index : Nat) : List String :=
  ["Execution " ++ toString index ++ ":",
    "  nonce: " ++ Hex.encodeString execution.nonce.bytes,
    "  choice: " ++ (if execution.choice then "1" else "0"),
    "  received: " ++ Hex.encodeString execution.received.bytes,
    "  rand0: " ++ Hex.encodeString execution.pads.rand0.bytes,
    "  rand1: " ++ Hex.encodeString execution.pads.rand1.bytes]

/-- Executions up to the first that fails, each on a tape of its own. The lines of those that are
done are handed on. -/
def repeatExecution (run : Tape → Except CommandFault Execution) :
    Nat → Nat → List String → Plan Lines
  | 0, _, lines => .done (.ok lines)
  | count + 1, index, lines => .freshTape fun tape =>
      match run tape with
      | .error fault => .done (.error fault)
      | .ok execution => repeatExecution run count (index + 1) (lines ++ execution.lines index)

def transferPlan [KeyedHash] (destination : String) (count : Nat) (rule : ChoiceRule) :
    Plan Lines :=
  loadThen SenderSetup.format (senderFile destination) fun sender =>
    loadThen ReceiverSetup.format (receiverFile destination) fun receiver =>
      if sender.publicKey = receiver.publicKey then
        repeatExecution (runOne sender receiver rule) count 0 []
      else .done (.error .unrelatedSetups)

def readHex (text : String) : Except CommandFault (List Byte) :=
  (Hex.decode text.toList).mapError .hex

def readSignature (text : String) : Except CommandFault Signature := do
  (Signature.decode (← readHex text)).mapError .protocol

def compactLines (signature : String) : Lines := do
  let signature ← readSignature signature
  .ok ["Compact: " ++ Hex.encodeString signature.compact.bytes]

def verifyLines (publicKey hash signature : String) : Lines := do
  let publicKey ← (decodePoint (← readHex publicKey)).mapError .publicKey
  let hash ← readHex hash
  let signature ← readSignature signature
  .ok [if signature.verify publicKey hash then "valid" else "invalid"]

def plan [KeyedHash] (destination : String) : Command → Plan Lines
  | .setup context => setupPlan destination context
  | .transfer count rule => transferPlan destination count rule
  | .compact signature => .done (compactLines signature)
  | .verify publicKey hash signature => .done (verifyLines publicKey hash signature)

def planArguments [KeyedHash] (environment : Environment) (arguments : List String) :
    Plan Report :=
  match program.parse environment arguments with
  | .error fault => .done (.ofUsageFault environment fault)
  | .ok (.help lines) => .done ⟨0, lines, []⟩
  | .ok .version => .done ⟨0, [program.name ++ " " ++ program.version], []⟩
  | .ok (.run ((destination, _), command)) => (plan destination command).map .ofLines

end Command

end ObliviousTransfer
