import Quorate.Metrics.Histogram
import Quorate.Time.Duration

/-!
The counters of writes and exchanges, and the histogram of the times that writes take.
-/

namespace Quorate.Metrics

inductive Counter where
  | putsAttempted
  | putsAccepted
  | putsExhausted
  | compensations
  | compensationsFailed
  | messagesSent
  | messagesRejected
  | responsesReceived
  | responseTimeouts
deriving DecidableEq, Repr

namespace Counter

/-- All counters in the order in which they are shown. -/
def all : List Counter :=
  [.putsAttempted, .putsAccepted, .putsExhausted, .compensations, .compensationsFailed,
   .messagesSent, .messagesRejected, .responsesReceived, .responseTimeouts]

theorem mem_all (counter : Counter) : counter ∈ all := by cases counter <;> decide

def name : Counter → String
  | .putsAttempted => "puts_attempted"
  | .putsAccepted => "puts_accepted"
  | .putsExhausted => "puts_exhausted"
  | .compensations => "compensations"
  | .compensationsFailed => "compensations_failed"
  | .messagesSent => "messages_sent"
  | .messagesRejected => "messages_rejected"
  | .responsesReceived => "responses_received"
  | .responseTimeouts => "response_timeouts"

def help : Counter → String
  | .putsAttempted => "Put attempts issued"
  | .putsAccepted => "Puts that reached quorum"
  | .putsExhausted => "Puts that ran out of retries"
  | .compensations => "Compensating removals issued"
  | .compensationsFailed => "Compensating removals that failed"
  | .messagesSent => "Messages accepted by the transport"
  | .messagesRejected => "Messages refused by the transport"
  | .responsesReceived => "Responses matched to a request"
  | .responseTimeouts => "Requests that timed out"

def ofName? (name : String) : Option Counter := all.find? fun counter => counter.name = name

end Counter

structure Board where
  counts : Counter → UInt64 := fun _ => 0
  writeTimes : Histogram := .empty

/-- The milliseconds of a span as a floating-point number, seconds and nanoseconds apart. -/
def floatMillis (duration : Duration) : Float :=
  let seconds := (UInt64.ofNat (duration.nanos / 1000000000)).toFloat
  let nanos := (UInt64.ofNat (duration.nanos % 1000000000)).toFloat
  (seconds + nanos / 1000000000.0) * 1000.0

namespace Board

def increment (board : Board) (counter : Counter) : Board :=
  { board with
    counts := fun other => if other = counter then board.counts other + 1 else board.counts other }

def incrementBy (board : Board) (counter : Counter) (times : Nat) : Board :=
  { board with
    counts := fun other =>
      if other = counter then board.counts other + UInt64.ofNat times else board.counts other }

theorem incrementBy_zero (board : Board) (counter : Counter) :
    board.incrementBy counter 0 = board := by
  simp [incrementBy]

theorem incrementBy_succ (board : Board) (counter : Counter) (times : Nat) :
    board.incrementBy counter (times + 1) =
      (board.increment counter).incrementBy counter times := by
  simp only [incrementBy, increment, Board.mk.injEq, and_true]
  funext other
  by_cases same : other = counter
  · simp only [same, if_true, UInt64.ofNat_add, UInt64.add_assoc]
    rw [UInt64.add_comm (UInt64.ofNat times)]
    rfl
  · simp [same]

def observe (board : Board) (duration : Duration) : Board :=
  { board with writeTimes := board.writeTimes.observe (floatMillis duration) }

def recordVerdict (board : Board) (accepted : Bool) (elapsed : Duration) : Board :=
  (board.increment (if accepted then .putsAccepted else .putsExhausted)).observe elapsed

/-- All counts in order, then the number of observed write times. -/
def tally (board : Board) : List UInt64 :=
  Counter.all.map board.counts ++ [board.writeTimes.count]

end Board
end Quorate.Metrics
