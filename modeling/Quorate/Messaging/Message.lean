import Quorate.Hash.Blake3
import Quorate.Peer

/-!
Messages between peers, the replies to them, and the keys of recipients.
-/

namespace Quorate.Messaging

/-- Messages with the same serial number and label are copies of one message. The label is what the
identity is shown as. -/
structure MessageId where
  serial : Nat
  label : String
deriving DecidableEq, Repr

inductive Route where
  | direct (peer : Peer)
  | routed (key : String)
deriving DecidableEq, Repr

def Route.text : Route → String
  | .direct peer => "direct:" ++ peer.name
  | .routed key => "routed:" ++ key

structure Message where
  id : MessageId
  sender : Peer
  route : Route
  expectsResponse : Bool := false
  payload : List UInt8 := []
deriving DecidableEq, Repr

structure Reply where
  request : MessageId
  sender : Peer
  payload : List UInt8
deriving DecidableEq, Repr

def Message.isDirect (message : Message) : Bool :=
  match message.route with
  | .direct _ => true
  | .routed _ => false

def Message.reply (message : Message) (sender : Peer) (payload : List UInt8) : Reply :=
  ⟨message.id, sender, payload⟩

inductive Handler where
  | recording
  | ignoring
deriving DecidableEq, Repr

/-- A request waiting for its reply. Every registration has a number of its own. -/
structure Registration where
  number : Nat
  handler : Handler
deriving DecidableEq, Repr

structure RecipientKey where
  bytes : List UInt8
deriving DecidableEq, Repr

def RecipientKey.fingerprint (key : RecipientKey) : String := Hash.shortDigest key.bytes

end Quorate.Messaging
