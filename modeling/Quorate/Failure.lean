import Quorate.Store.Key
import Quorate.Time.Duration

/-!
Everything that can go wrong in a store call, a message exchange or a configuration, and its text.
-/

namespace Quorate

inductive SendFailure where
  | rejected
  | timeout (waited : Duration)
  | interrupted
deriving DecidableEq, Repr

def SendFailure.message : SendFailure → String
  | .rejected => "No success sending the message."
  | .timeout waited =>
      "Response did not arrive within the configured wait time of "
        ++ Text.decimalText waited.millis ++ "ms"
  | .interrupted => "Cannot wait for the response because interrupted"

inductive Failure where
  | io (reason : String)
  | submissionRejected (reason : String)
  | futureFailed (reason : String)
  | putFailed (request : String)
  | invalidRequest (reason : String)
  | sendFailed (reason : SendFailure)
  | invalidConfig (reason : String)
  | configuration (reason : String)
  | other (reason : String)
deriving DecidableEq, Repr

namespace Failure

def message : Failure → String
  | .io reason => "I/O error: " ++ reason
  | .submissionRejected reason => "Submission rejected: " ++ reason
  | .futureFailed reason => "Storage future failed: " ++ reason
  | .putFailed request => "Put failed: " ++ request
  | .invalidRequest reason => "Invalid request: " ++ reason
  | .sendFailed reason => "Send failed: " ++ reason.message
  | .invalidConfig reason => "Invalid configuration: " ++ reason
  | .configuration reason => "Configuration error: " ++ reason
  | .other reason => reason

def retryable : Failure → Bool
  | .submissionRejected _ => true
  | .futureFailed _ => true
  | .sendFailed _ => true
  | _ => false

def ofKeyFault (fault : Store.Key.Fault) : Failure := .invalidRequest fault.message

def ofDurationFault (fault : Duration.Fault) : Failure := .invalidConfig fault.message

end Failure
end Quorate
