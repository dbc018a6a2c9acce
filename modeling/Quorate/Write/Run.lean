import Quorate.Write.Basic

/-!
A write driven to its verdict. What a store is does not matter here: it takes a call and tells how
the call ends and how the store is afterwards.
-/

namespace Quorate.Write

open Store

/-- A store as a write meets it: how a call with a request ends, and the store afterwards. A call
without an end takes the task that made it down with it. -/
abbrev Service (σ : Type) := Call → Request → σ → Option Completion × σ

variable {σ : Type}

def perform (service : Service σ) (write : Write) (call : Call) (store : σ) :
    (Write × List Notice) × σ :=
  match service call write.request store with
  | (some completion, store) => (write.receive completion, store)
  | (none, store) => ((write.lose, []), store)

/-- Makes calls while the write wants any; the first argument bounds their number. -/
def run (service : Service σ) : Nat → Write → σ → (Write × List Notice) × σ
  | 0, write, store => ((write, []), store)
  | left + 1, write, store =>
      match write.call? with
      | none => ((write, []), store)
      | some call =>
          let ((write, notices), store) := write.perform service call store
          let ((write, later), store) := run service left write store
          ((write, .counted (counterOf call) :: notices ++ later), store)

/-- The write and the store after a run, without what the run tells. -/
def drive (service : Service σ) (left : Nat) (write : Write) (store : σ) : Write × σ :=
  ((run service left write store).1.1, (run service left write store).2)

end Quorate.Write
