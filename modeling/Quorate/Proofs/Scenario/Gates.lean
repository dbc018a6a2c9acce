import Quorate.Gate.Crowd
import Quorate.Scenario.Gates

/-!
The named gates of a scenario are gates with a crowd: a step of the scenario that uses a handle is
a step of the crowd, and the tasks that wait for a gate or hold a handle of it do what somebody in
the crowd would do at that time.
-/

namespace Quorate

open Simulation Gate

private theorem Simulation.World.gate?_changeGate (world : World) (number : Nat)
    (change : Gate String → Gate String) :
    (world.changeGate number change).gate? number = (world.gate? number).map change := by
  unfold changeGate gate?
  rw [List.getElem?_modify]
  simp only [if_true]
  rfl

namespace Scenario.State

variable {state : State} {name : String} {number : Nat} {crowd : Crowd String}

/-- The scenario knows the gate by this name, and it is as the crowd has it. -/
structure Shows (state : State) (name : String) (number : Nat) (crowd : Crowd String) : Prop where
  named : state.gates.lookup name = some ⟨number, crowd.handles⟩
  shown : state.world.gate? number = some crowd.gate
  clock : state.world.clock = crowd.clock

namespace Shows

theorem gateSignal (shows : Shows state name number crowd) (handle : Nat) (value : String) :
    Shows (state.gateSignal name handle value).1 name number (crowd.signal handle value) ∧
      (state.gateSignal name handle value).2 =
        .signalled (if crowd.holds handle then some (crowd.gate.signal value).2 else none) := by
  unfold State.gateSignal withGate
  rw [shows.named]
  dsimp only
  rw [shows.shown]
  cases held : crowd.holds handle with
  | true =>
      have has : hasHandle ⟨number, crowd.handles⟩ handle = true := held
      rw [has, crowd.signal_of_holds held]
      refine ⟨⟨shows.named, ?_, shows.clock⟩, rfl⟩
      dsimp only
      rw [World.gate?_changeGate, shows.shown]
      rfl
  | false =>
      have has : hasHandle ⟨number, crowd.handles⟩ handle = false := held
      have still : crowd.signal handle value = crowd := by
        unfold Crowd.signal
        rw [held]
        rfl
      rw [has, still]
      exact ⟨shows, rfl⟩

theorem gateClone (shows : Shows state name number crowd) (held : crowd.holds handle = true) :
    Shows (state.gateClone name handle).1 name number (crowd.clone handle) ∧
      (state.gateClone name handle).2 = .handle crowd.handles.length := by
  have has : hasHandle ⟨number, crowd.handles⟩ handle = true := held
  unfold State.gateClone withGate
  rw [shows.named]
  dsimp only
  rw [has, if_pos rfl, crowd.clone_of_holds held]
  refine ⟨⟨List.lookup_cons_self, ?_, shows.clock⟩, rfl⟩
  change (state.world.changeGate number Gate.clone).gate? number = _
  rw [World.gate?_changeGate, shows.shown]
  rfl

theorem gateDrop (shows : Shows state name number crowd) (handle : Nat) :
    Shows (state.gateDrop name handle).1 name number (crowd.drop handle) ∧
      (state.gateDrop name handle).2 = .flag (crowd.holds handle) := by
  unfold State.gateDrop withGate
  rw [shows.named]
  dsimp only
  cases held : crowd.holds handle with
  | true =>
      have has : hasHandle ⟨number, crowd.handles⟩ handle = true := held
      rw [has, if_pos rfl, crowd.drop_of_holds held]
      refine ⟨⟨List.lookup_cons_self, ?_, shows.clock⟩, rfl⟩
      change (state.world.changeGate number Gate.drop).gate? number = _
      rw [World.gate?_changeGate, shows.shown]
      rfl
  | false =>
      have has : hasHandle ⟨number, crowd.handles⟩ handle = false := held
      have still : crowd.drop handle = crowd := by
        unfold Crowd.drop
        rw [held]
        rfl
      rw [has, still]
      exact ⟨shows, rfl⟩

theorem gateLook (shows : Shows state name number crowd) :
    (state.gateLook name).2 =
      .gateView (crowd.handles.map fun kept => if kept then some crowd.gate.isOpen else none)
        crowd.gate.isOpen crowd.gate.peek := by
  unfold State.gateLook withGate
  rw [shows.named]
  dsimp only
  rw [shows.shown]

/-- A task that waits ends, at any later time, just as a wait of the crowd that began with it. -/
theorem poll_waiterFor (shows : Shows state name number crowd) (timeout : Option Duration)
    {later : State} {after : Crowd String} (showsLater : Shows later name number after) :
    (state.waiterFor ⟨number, crowd.handles⟩ timeout).poll later.world =
      Wait.poll { timeout := timeout, started := crowd.clock } after.gate after.clock := by
  unfold WaiterRun.poll
  have found : later.world.gate? (state.waiterFor ⟨number, crowd.handles⟩ timeout).gate =
      some after.gate := showsLater.shown
  rw [found]
  cases timeout with
  | none => exact after.gate.pollUntil_false _
  | some timeout =>
      unfold State.waiterFor WaiterRun.expired Wait.poll
      dsimp only [Option.map_some, Option.getD_some]
      rw [shows.clock, showsLater.clock]

end Shows
end Scenario.State

/-- A task that was given a handle signals with it, if it is to, and drops it. -/
theorem Simulation.HolderRun.gate?_turn (run : HolderRun) {world : World} {crowd : Crowd String}
    {handle : Nat} (shown : world.gate? run.gate = some crowd.gate)
    (held : crowd.holds handle = true) :
    (run.turn world).2.gate? run.gate =
      some (match run.value with
        | none => crowd.drop handle
        | some value => (crowd.signal handle value).drop handle).gate := by
  unfold turn
  rw [World.gate?_changeGate, shown]
  cases run.value with
  | none => exact congrArg (fun crowd => some crowd.gate) (crowd.drop_of_holds held).symm
  | some value =>
      have signalled := crowd.signal_of_holds held value
      have still : (crowd.signal handle value).holds handle = true := by
        rw [signalled]
        exact held
      dsimp only [Option.map_some]
      rw [Crowd.drop_of_holds still, signalled]

end Quorate
