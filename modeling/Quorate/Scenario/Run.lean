import Quorate.Scenario.Gates
import Quorate.Scenario.Process

/-!
Runs scenarios step by step in a simulated world.
-/

namespace Quorate.Scenario

open Store Messaging Simulation

namespace State

def perform (state : State) : Step → State × Answer
  | .sleep millis =>
      let (_, state) := state.await (.sleep (state.world.clock + millis) false)
      (state, .done)
  | .behave peer behavior =>
      (state.changeCluster fun cluster => cluster.setBehavior peer behavior, .done)
  | .rejectSubmissions on =>
      (state.changeCluster fun cluster => { cluster with rejecting := on }, .done)
  | .failNextPuts count =>
      (state.changeCluster fun cluster => { cluster with failingPuts := count }, .done)
  | .failRemovals on =>
      (state.changeCluster fun cluster => { cluster with failingRemovals := on }, .done)
  | .peers => state.say (.names (state.world.cluster.peers.map Peer.name))
  | .responsible location =>
      state.say (.names ((state.world.cluster.responsible location).map Peer.name))
  | .storeCall call request => state.storeCall call request
  | .look key =>
      state.say (.holding (state.world.cluster.replicaCount key) (state.world.cluster.get? key))
  | .put spec =>
      match state.put spec with
      | (.error failure, state) => (state, .failed failure)
      | (.ok verdict, state) => (state, flagOrStuck verdict)
  | .remove request =>
      let (removed, state) := state.remove request
      (state, flagOrStuck removed)
  | .submit write spec checked => state.submit write spec checked
  | .verdict write => state.say (state.progress write)
  | .wait write =>
      match state.writes.lookup write with
      | none => state.say (.unknownName write)
      | some number =>
          let (verdict, state) := state.waitFor number
          (state, flagOrStuck verdict)
  | .addEndpoint peer endpoint =>
      (state.changeNetwork fun network => network.setEndpoint peer endpoint, .done)
  | .rejectSends on => (state.changeNetwork fun network => { network with rejecting := on }, .done)
  | .route key => state.say (.chosen ((state.world.network.route key).map Peer.name))
  | .delivered => state.say (.names (state.world.network.delivered.map MessageId.label))
  | .send spec mode => state.send spec mode
  | .join task => state.join task
  | .abort task => state.abort task
  | .transportSend message direct => state.transportSend message direct
  | .register message gate onNetwork => state.register message gate onNetwork
  | .forget message onNetwork => state.forget message onNetwork
  | .dispatch message sender payload => state.dispatch message sender payload
  | .registered gate => state.say (state.registered gate)
  | .putStep step spec =>
      let process : Process.PutStep :=
        { request := spec.request
          budget := spec.retries.getD state.setup.retries
          metered := spec.metered }
      ({ state with steps := (step, .put process) :: state.steps }, .done)
  | .messageStep step spec =>
      state.withMessage spec.message fun message state =>
        let process : Process.MessageStep :=
          { exchange := state.exchangeOf spec message, metered := spec.metered }
        ({ state with steps := (step, .message process) :: state.steps }, .done)
  | .execute step => state.execute step
  | .rollback step => state.rollback step
  | .gate gate => state.newGate gate
  | .gateClone gate handle => state.gateClone gate handle
  | .gateSignal gate handle value => state.gateSignal gate handle value
  | .gateDrop gate handle => state.gateDrop gate handle
  | .gateHold gate handle millis value => state.gateHold gate handle millis value
  | .gateLook gate => state.gateLook gate
  | .gateWait gate timeout => state.gateWait gate timeout
  | .gateWaitTask gate task timeout => state.gateWaitTask gate task timeout
  | .gateJoin task => state.gateJoin task

/-- What is seen after a step with the given answer. Reading empties the journal and the inbox. -/
def observe (state : State) (answer : Answer) : State × Observation :=
  let world := state.world
  ({ state with world := { world with journal := [], inbox := [] } },
    { answer := answer
      puts := world.cluster.puts
      removals := world.cluster.removals
      pending := world.network.registry.size
      delivered := world.network.delivered.length
      tally := world.board.tally
      clock := world.clock
      received := world.inbox
      journal := world.journal })

def run (state : State) : List Step → List Observation
  | [] => []
  | step :: rest =>
      let (state, answer) := state.perform step
      let (state, observation) := state.observe answer
      observation :: state.run rest

end State

def run (setup : Setup) (steps : List Step) : List Observation := (State.initial setup).run steps

end Quorate.Scenario
