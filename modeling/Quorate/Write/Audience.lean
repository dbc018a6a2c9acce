import Quorate.Write.Basic

/-!
A submitted write and those who want to know its verdict, one step at a time and in any order. The
write hears how its calls end, or its task goes away; meanwhile waits begin and are looked at, each
again and again until it has come to its end. Clones of the handle on a write share its verdict and
have no state of their own, so whoever asks for it looks at the write.
-/

namespace Quorate.Write

open Store

structure Audience where
  write : Write
  /-- How the puts ended, as far as the task heard of it. -/
  ends : List Completion := []
  waits : List (Option Bool) := []
deriving Repr

namespace Audience

inductive Move where
  | hear (completion : Completion)
  /-- The task goes away while a call is under way, or after it heard how that call ended, but
  before it published anything. -/
  | die (heard : Option Completion)
  | wait
  | look (wait : Nat)
deriving Repr

def of (request : Request) (budget : UInt32) : Audience :=
  { write := { request := request, budget := budget } }

/-- The ends of puts, with one more if it is a put that ended. -/
def noted (write : Write) (ends : List Completion) (completion : Completion) : List Completion :=
  match write.call? with
  | some .put => ends ++ [completion]
  | _ => ends

variable (audience : Audience)

def hear (completion : Completion) : Audience :=
  { audience with
    write := (audience.write.receive completion).1
    ends := noted audience.write audience.ends completion }

/-- A task that has ended cannot go away any more. -/
def die (heard : Option Completion) : Audience :=
  match audience.write.call? with
  | none => audience
  | some _ =>
      { audience with
        write := audience.write.lose
        ends := heard.elim audience.ends (noted audience.write audience.ends) }

/-- What a wait comes to when it is looked at. -/
def look (write : Write) : Option Bool → Option Bool
  | none => write.awaited?.map Prod.fst
  | some ended => some ended

def step (audience : Audience) : Move → Audience
  | .hear completion => audience.hear completion
  | .die heard => audience.die heard
  | .wait => { audience with waits := audience.waits ++ [none] }
  | .look wait => { audience with waits := audience.waits.modify wait (look audience.write) }

def run (moves : List Move) (audience : Audience) : Audience := moves.foldl step audience

end Audience
end Quorate.Write
