import ObliviousTransfer.Protocol.Receiver
import ObliviousTransfer.Protocol.Sender

/-!
One whole execution with both parties at hand: five messages, each handed to
the other side as soon as it is there.
-/

namespace ObliviousTransfer

def Receiver.send [KeyedHash] (receiver : Receiver) : Action (Receiver × PointMessage) :=
  fun tape =>
    let (step, rest) := receiver.round1 tape
    Action.ofStep step rest

def execute [KeyedHash] (nonce : List Byte) (senderSetup : SenderSetup)
    (receiverSetup : ReceiverSetup) (choice : Bool) : Action (PadPair × Pad) :=
  Action.within (.execute nonce) do
    let sender ← Action.ofResult (Sender.start nonce senderSetup)
    let receiver ← Action.ofResult (Receiver.start nonce receiverSetup choice)
    let (receiver, point) ← receiver.send
    let (sender, challenge) ← Action.ofStep (sender.round1 point)
    let (receiver, response) ← Action.ofStep (receiver.round2 challenge)
    let (_, opening, pads) ← Action.ofStep (sender.round2 response)
    let (_, pad) ← Action.ofStep (receiver.round3 opening)
    Action.record .executionCompleted
    return (pads, pad)

end ObliviousTransfer
