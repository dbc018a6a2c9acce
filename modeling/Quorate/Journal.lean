import Quorate.Messaging.Message
import Quorate.Store.Response

/-!
The journal: what writes and exchanges report, and the line that each report is shown as.
-/

namespace Quorate

open Messaging Store

namespace Journal

inductive Level where
  | error
  | warn
  | info
  | debug
  | trace
deriving DecidableEq, Repr

def Level.name : Level → String
  | .error => "ERROR"
  | .warn => "WARN"
  | .info => "INFO"
  | .debug => "DEBUG"
  | .trace => "TRACE"

inductive Span where
  | put (request : Request)
  | correlator (name : Option String)
deriving DecidableEq, Repr

inductive Event where
  | putUnsuccessful (failure : Failure)
  | responseEmpty
  | statusMissing (peer : Peer)
  | putDenied (peer : Peer) (key : VersionKey) (status : Status)
  | statusUnexpected (peer : Peer) (status : Status)
  | contactsFailed (failed answered : Nat)
  | quorumReached (failed answered : Nat) (retries : UInt32)
  | triesExhausted (tries : UInt32)
  | putRetried (retry : UInt32)
  | contentNotDeleted (failure : Failure)
  | waitAbandoned (key : VersionKey) (reason : String)
  | versionNotRemoved (request : Request) (failure : Failure)
  | rollbackIncomplete (request : Request)
  | messageRefused (message : MessageId) (route : Route)
  | messageSent (message : MessageId) (route : Route)
  | responseReceived (message : MessageId) (route : Route)
  | responseMissing (waited : Duration) (message : MessageId) (route : Route)
      (recipient : RecipientKey)
  | responseDropped (message : MessageId) (route : Route)
  | replyUnrequested (request : MessageId) (sender : Peer)
  | peerUnknown (peer : Peer)
deriving DecidableEq, Repr

namespace Event

def level : Event → Level
  | .triesExhausted _ => .error
  | .waitAbandoned _ _ => .error
  | .quorumReached _ _ _ => .debug
  | .messageSent _ _ => .debug
  | .responseReceived _ _ => .debug
  | .replyUnrequested _ _ => .debug
  | .peerUnknown _ => .debug
  | _ => .warn

def text : Event → String
  | .putUnsuccessful _ => "Put future was not successful"
  | .responseEmpty => "Returned raw results are empty"
  | .statusMissing _ => "A node gave no status back"
  | .putDenied _ _ _ => "A node denied putting data"
  | .statusUnexpected _ _ => "Got an unexpected status"
  | .contactsFailed failed answered =>
      Text.decimalText failed ++ " of " ++ Text.decimalText answered ++ " contacted nodes failed"
  | .quorumReached _ _ _ => "Put reached quorum"
  | .triesExhausted tries => "Could not put data after " ++ Text.decimalText tries.toNat ++ " tries"
  | .putRetried retry => "Put retry #" ++ Text.decimalText retry.toNat
  | .contentNotDeleted _ => "Could not delete the newly put content"
  | .waitAbandoned _ _ => "Could not wait until put has finished"
  | .versionNotRemoved _ _ => "Could not remove version"
  | .rollbackIncomplete _ => "Rollback could not remove the put version"
  | .messageRefused _ _ => "Transport refused the message"
  | .messageSent _ _ => "Message sent"
  | .responseReceived _ _ => "Response received"
  | .responseMissing waited _ _ _ =>
      "Response did not arrive within " ++ Text.decimalText waited.millis ++ "ms"
  | .responseDropped _ _ => "Pending response was dropped"
  | .replyUnrequested _ _ => "Dropping response without pending request"
  | .peerUnknown _ => "No such peer"

private def messageFields (message : MessageId) (route : Route) : List (String × String) :=
  [("message", message.label), ("route", route.text)]

def fields : Event → List (String × String)
  | .putUnsuccessful failure => [("error", failure.message)]
  | .statusMissing peer => [("peer", peer.name)]
  | .putDenied peer key status =>
      [("peer", peer.name), ("version", key.text), ("reason", status.text)]
  | .statusUnexpected peer status => [("peer", peer.name), ("status", status.text)]
  | .quorumReached failed answered retries =>
      [("failed", Text.decimalText failed), ("answered", Text.decimalText answered),
       ("retries", Text.decimalText retries.toNat)]
  | .contentNotDeleted failure => [("error", failure.message)]
  | .waitAbandoned key reason => [("version", key.text), ("error", reason)]
  | .versionNotRemoved request failure => [("request", request.text), ("error", failure.message)]
  | .rollbackIncomplete request => [("request", request.text)]
  | .messageRefused message route => messageFields message route
  | .messageSent message route => messageFields message route
  | .responseReceived message route => messageFields message route
  | .responseMissing _ message route recipient =>
      messageFields message route ++ [("recipient", recipient.fingerprint)]
  | .responseDropped message route => messageFields message route
  | .replyUnrequested request sender => [("request", request.label), ("from", sender.name)]
  | .peerUnknown peer => [("peer", peer.name)]
  | .responseEmpty => []
  | .contactsFailed _ _ => []
  | .triesExhausted _ => []
  | .putRetried _ => []

end Event

def fieldsText (fields : List (String × String)) : String :=
  " ".intercalate (fields.map fun field => field.1 ++ "=" ++ field.2)

def Span.text : Span → String
  | .put request => "put" ++ Text.braced (fieldsText [("request", request.text)])
  | .correlator none => "correlator" ++ Text.braced ""
  | .correlator (some name) => "correlator" ++ Text.braced (fieldsText [("name", name)])

structure Entry where
  span : Option Span
  event : Event
deriving DecidableEq, Repr

/-- The level, the span in brackets, the text and the fields. -/
def Entry.line (entry : Entry) : String :=
  let span := match entry.span with
    | none => ""
    | some span => " [" ++ span.text ++ "]"
  let fields := String.join (entry.event.fields.map fun field => " " ++ field.1 ++ "=" ++ field.2)
  entry.event.level.name ++ span ++ " " ++ entry.event.text ++ fields

end Journal
end Quorate
