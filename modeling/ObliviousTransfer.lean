import ObliviousTransfer.Main
import ObliviousTransfer.Proofs.Command.Lifecycle
import ObliviousTransfer.Proofs.Command.Refusal
import ObliviousTransfer.Proofs.Curve.Spelling
import ObliviousTransfer.Proofs.Ecdsa.Compact
import ObliviousTransfer.Proofs.Ecdsa.Encoding
import ObliviousTransfer.Proofs.Ecdsa.Pair
import ObliviousTransfer.Proofs.Ecdsa.Recovery
import ObliviousTransfer.Proofs.Ecdsa.Verification
import ObliviousTransfer.Proofs.Knowledge.Soundness
import ObliviousTransfer.Proofs.Knowledge.Transcripts
import ObliviousTransfer.Proofs.Message.Codec
import ObliviousTransfer.Proofs.Oracle.Streaming
import ObliviousTransfer.Proofs.Session.Log
import ObliviousTransfer.Proofs.Session.Privacy
import ObliviousTransfer.Proofs.Session.Refinement
import ObliviousTransfer.Proofs.Session.Reuse
import ObliviousTransfer.Proofs.Session.Tampering
