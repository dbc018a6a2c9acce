import Quorate.Simulation.Task

/-!
Who runs when. In a phase every task that can go on has a turn, and so has every task that is woken
meanwhile; a task that gives way waits for the next phase. The one who waits in the foreground is
looked at between phases. Only when nobody can go on does the clock move, to the next time at which
something is due, and then the foreground comes first.
-/

namespace Quorate.Simulation

namespace World

/-- Gives the task with a number a turn if it can use one and satisfies the condition. -/
def turnAt (chosen : Task → Bool) (world : World) (number : Nat) : World :=
  match world.tasks[number]? with
  | none => world
  | some task =>
      if chosen task && task.wakeable world then
        let (task, world) := task.turn world
        { world with tasks := world.tasks.set number task }
      else world

/-- One turn for every such task, in the order in which they were started. -/
def pass (world : World) (chosen : Task → Bool) : World :=
  (List.range world.tasks.length).foldl (turnAt chosen) world

def busy (world : World) (chosen : Task → Bool) : Bool :=
  world.tasks.any fun task => chosen task && task.wakeable world

def effort (world : World) : Nat := (world.tasks.map Task.effort).foldl (· + ·) 0

/-- Passes over the tasks that do not give way, until none of them can go on. -/
def settleWithin : Nat → World → World
  | 0, world => world
  | passes + 1, world =>
      if world.busy fun task => !task.yielding then
        settleWithin passes (world.pass fun task => !task.yielding)
      else world

/-- All tasks run as far as they can without waiting or giving way twice. -/
def phase (world : World) : World :=
  let world := world.pass fun _ => true
  world.settleWithin (world.effort + 1)

/-- The next time at which a task is due, the one in the foreground included. -/
def nextDue? (world : World) (task : Task) : Option Nat :=
  ((task :: world.tasks).filterMap Task.due?).min?

/-- The world in which the foreground is looked at next; none if nothing can ever happen. -/
def next? (world : World) (task : Task) : Option World :=
  if world.busy fun _ => true then some world.phase
  else if task.wakeable world then some world
  else (world.nextDue? task).map fun due => { world with clock := max world.clock due }

/-- Waits for the end of a task in the foreground. The first argument bounds the phases, turns and
moves of the clock. -/
def awaitWithin : Nat → Task → World → Task × World
  | 0, task, world => (task, world)
  | left + 1, task, world =>
      if task.ended then (task, world)
      else
        match world.next? task with
        | none => (task, world)
        | some world =>
            if task.wakeable world then
              let (task, world) := task.turn world
              awaitWithin left task world
            else awaitWithin left task world

/-- Runs a task in the foreground. If it need not wait, nothing else runs meanwhile. -/
def await (world : World) (task : Task) : Task × World :=
  let bound := 2 * (world.effort + task.effort) + 4
  if task.wakeable world then
    let (task, world) := task.turn world
    awaitWithin bound task world
  else awaitWithin bound task world

end World
end Quorate.Simulation
