import Quorate.Journal
import Quorate.Metrics.Basic

/-!
What a step of a write or an exchange tells the world besides changing its own state.
-/

namespace Quorate

inductive Notice where
  | reported (event : Journal.Event)
  | counted (counter : Metrics.Counter)
  | settled (accepted : Bool)
  /-- The handler of a registration has run on a reply. -/
  | handled (registration : Messaging.Registration) (reply : Messaging.Reply)
deriving DecidableEq, Repr

namespace Notice

/-- What a notice does to the metrics; `elapsed` is the age of the write it comes from. -/
def record (elapsed : Duration) (board : Metrics.Board) : Notice → Metrics.Board
  | .counted counter => board.increment counter
  | .settled accepted => board.recordVerdict accepted elapsed
  | .reported _ => board
  | .handled _ _ => board

def recordAll (elapsed : Duration) (notices : List Notice) (board : Metrics.Board) :
    Metrics.Board :=
  notices.foldl (record elapsed) board

/-- The replies that recording handlers have run on. -/
def recorded (notices : List Notice) : List Messaging.Reply :=
  notices.filterMap fun notice =>
    match notice with
    | .handled registration reply =>
        if registration.handler = .recording then some reply else none
    | _ => none

/-- What the callback of a registration has run on: its handler, and the reply. -/
def deliveries (number : Nat) (notices : List Notice) :
    List (Messaging.Handler × Messaging.Reply) :=
  notices.filterMap fun notice =>
    match notice with
    | .handled registration reply =>
        if registration.number = number then some (registration.handler, reply) else none
    | _ => none

@[simp]
theorem deliveries_append (number : Nat) (notices later : List Notice) :
    deliveries number (notices ++ later) =
      deliveries number notices ++ deliveries number later :=
  List.filterMap_append

def entries (span : Option Journal.Span) (notices : List Notice) : List Journal.Entry :=
  notices.filterMap fun notice =>
    match notice with
    | .reported event => some ⟨span, event⟩
    | _ => none

end Notice
end Quorate
