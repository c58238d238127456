import DerPair.Boundary.Call

namespace DerPair.Boundary
open Octets

-- The slot that ffi_helpers keeps for the last error of a thread, with the behaviour that
-- library documents: the most recent failure stays until it is cleared or replaced, and its
-- message is measured and copied together with a closing zero octet.
abbrev LastFault := Option CallFault

def utf8 (text : String) : Octets := text.toList.flatMap String.utf8EncodeChar

namespace LastFault

-- Success does not clear it.
def record (last : LastFault) (failure : Option CallFault) : LastFault := failure <|> last

-- Readers see the message with a closing zero octet.
def terminated (fault : CallFault) : Octets := utf8 fault.message ++ [0]

def messageSize (last : LastFault) : Nat :=
  match last with
  | none => 0
  | some fault => (terminated fault).length

-- All of the message or nothing; the answer -1 means that it does not fit.
def copyMessage (last : LastFault) (buffer : Octets) : Int × Octets :=
  match last with
  | none => (0, buffer)
  | some fault =>
    let message := terminated fault
    if buffer.length < message.length then (-1, buffer)
    else (message.length, overwrite buffer message)

end LastFault

inductive Request where
  | encodePair (call : EncodePair)
  | decodeSeparate (call : DecodeSeparate)
  | decodeFixed (call : DecodeFixed)
  | messageSize
  | readMessage (buffer : Pointer)
  | clear

inductive Reply where
  | encodedPair (result : Finished EncodePair)
  | decodedSeparate (result : Finished DecodeSeparate)
  | decodedFixed (result : Finished DecodeFixed)
  | messageSize (size : Nat)
  | message (returned : Int) (buffer : Pointer)
  | cleared

def Reply.trace : Reply → List Line
  | .encodedPair result => result.trace
  | .decodedSeparate result => result.trace
  | .decodedFixed result => result.trace
  | _ => []

-- Reading into a null pointer is itself a fault, although it answers 0.
def step (last : LastFault) : Request → LastFault × Reply
  | .encodePair call =>
    let result := call.run
    (last.record result.failure, .encodedPair result)
  | .decodeSeparate call =>
    let result := call.run
    (last.record result.failure, .decodedSeparate result)
  | .decodeFixed call =>
    let result := call.run
    (last.record result.failure, .decodedFixed result)
  | .messageSize => (last, .messageSize last.messageSize)
  | .readMessage none => (some .nullPointer, .message 0 none)
  | .readMessage (some buffer) =>
    let (returned, after) := last.copyMessage buffer
    (last, .message returned (some after))
  | .clear => (none, .cleared)

def run (last : LastFault) : List Request → LastFault × List (LastFault × Reply)
  | [] => (last, [])
  | request :: rest =>
    let (next, reply) := step last request
    let (final, replies) := run next rest
    (final, (next, reply) :: replies)

structure Exchange where
  request : Request
  reply : Reply

def Request.clears : Request → Bool
  | .clear => true
  | _ => false

-- The failing exchanges: codec calls that report a failure, and a read into a
-- null pointer, whatever it answers.
def Exchange.failure (exchange : Exchange) : Option CallFault :=
  match exchange.request, exchange.reply with
  | _, .encodedPair result => result.failure
  | _, .decodedSeparate result => result.failure
  | _, .decodedFixed result => result.failure
  | .readMessage none, _ => some .nullPointer
  | _, _ => none

-- The most recent failure since the last clear, read off the history alone.
def latest (history : List Exchange) : LastFault :=
  (history.reverse.takeWhile fun exchange => !exchange.request.clears).findSome? Exchange.failure

def exchanges (requests : List Request) (replies : List (LastFault × Reply)) : List Exchange :=
  requests.zipWith (fun request reply => ⟨request, reply.2⟩) replies

end DerPair.Boundary
