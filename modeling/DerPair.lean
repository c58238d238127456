import DerPair.Octets
import DerPair.Octets.Value
import DerPair.Tag
import DerPair.ShortLength
import DerPair.Fault
import DerPair.Trace
import DerPair.Integer.Encoding
import DerPair.Integer.Decoding
import DerPair.Integer.Grammar
import DerPair.Integer.Stream
import DerPair.Pair.Encoding
import DerPair.Pair.Decoding
import DerPair.Curve
import DerPair.Signature
import DerPair.Named
import DerPair.Signature.Shelf
import DerPair.Arena
import DerPair.Boundary.Call
import DerPair.Boundary.Session
import DerPair.Bounded.Access
import DerPair.Bounded.Integer
import DerPair.Bounded.Pair
import DerPair.Proofs.Octets.Size
import DerPair.Proofs.Integer.Content
import DerPair.Proofs.Integer.Spelling
import DerPair.Proofs.Integer.Encoding
import DerPair.Proofs.Integer.Sizing
import DerPair.Proofs.Integer.Shortest
import DerPair.Proofs.Integer.Decoding
import DerPair.Proofs.Integer.Stream
import DerPair.Proofs.Integer.Normalization
import DerPair.Proofs.Integer.Denotation
import DerPair.Proofs.Integer.Truncation
import DerPair.Proofs.Integer.Destination
import DerPair.Proofs.Integer.Reader
import DerPair.Proofs.Pair.Encoding
import DerPair.Proofs.Pair.Growth
import DerPair.Proofs.Pair.Atomicity
import DerPair.Proofs.Pair.Room
import DerPair.Proofs.Pair.Decoding
import DerPair.Proofs.Pair.RoundTrip
import DerPair.Proofs.Pair.Faults
import DerPair.Proofs.Pair.Truncation
import DerPair.Proofs.Fault.Message
import DerPair.Proofs.Signature.Encoding
import DerPair.Proofs.Signature.Prefix
import DerPair.Proofs.Signature.Decoding
import DerPair.Proofs.Signature.Language
import DerPair.Proofs.Fault.Nesting
import DerPair.Proofs.Signature.Malleability
import DerPair.Proofs.Signature.Recoding
import DerPair.Proofs.Signature.Shelf
import DerPair.Proofs.Boundary.Admission
import DerPair.Proofs.Boundary.Refinement
import DerPair.Proofs.Boundary.Halves
import DerPair.Proofs.Boundary.History
import DerPair.Proofs.Boundary.Readback
import DerPair.Proofs.Boundary.Repetition
import DerPair.Proofs.Trace.Explanation
import DerPair.Proofs.Trace.Commitment
import DerPair.Proofs.Bounded.Encoding
import DerPair.Proofs.Bounded.Decoding
import DerPair.Proofs.Bounded.Totality
import DerPair.Proofs.Pair.Bound
import DerPair.Proofs.Arena.Writing
import DerPair.Proofs.Arena.Framing
import DerPair.Proofs.Arena.Commutation
import DerPair.Proofs.Arena.Runs
