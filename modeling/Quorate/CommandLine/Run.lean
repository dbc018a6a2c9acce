import Quorate.CommandLine.Command
import Quorate.Json.Printer
import Quorate.Settings.Document
import Quorate.Settings.Load
import Quorate.Simulation.Schedule
import Quorate.Write.Alone

/-!
What the commands do. A run is a function of what surrounds it: the command line, the environment,
the files, the time and the choice that scatters faults. It ends with an exit code and with what
it has written to its two streams, without the lines of its log: the faults that are dealt out, the
warnings and other events on the way, and the metrics at the end are logged, and left out here.
-/

namespace Quorate.CommandLine

open Store Messaging Simulation

structure Surroundings where
  words : List String
  environment : List (String × String) := []
  file? : String → Option String := fun _ => none
  /-- The time, which becomes the version of what is put. -/
  now : UInt64 := 0
  /-- The order of all peers in which scattered faults befall them. -/
  scatter : List Peer → List Peer := id

/-- The streams are those of a run that logs nothing. Of what a failed run writes to the second one
the first line is settled. The causes that may follow it are in no settled form. -/
structure Outcome where
  code : Nat
  output : String := ""
  errors : String := ""
deriving DecidableEq, Repr

def Outcome.failed (reason : String) : Outcome :=
  { code := 1, errors := "Error: " ++ reason ++ "\n" }

/-! ### Settings -/

/-- The settings file with a path. The path may leave out the suffix. -/
def settingsFile (file? : String → Option String) (path : String) : Settings.File :=
  match file? path with
  | some content => ⟨path, some content⟩
  | none => ⟨path ++ ".toml", file? (path ++ ".toml")⟩

def loadSettings (surroundings : Surroundings) (path : Option String) : Except Failure Settings :=
  Settings.load (path.map (settingsFile surroundings.file?)) surroundings.environment

/-! ### A write -/

structure PutReport where
  stored : Bool
  puts : UInt32
  removals : UInt32
  replicas : Nat
deriving DecidableEq, Repr

def PutReport.text (report : PutReport) : String :=
  "verdict:  " ++ (if report.stored then "stored" else "failed") ++ "\n"
    ++ "puts:     " ++ Text.decimalText report.puts.toNat ++ "\n"
    ++ "removes:  " ++ Text.decimalText report.removals.toNat ++ "\n"
    ++ "replicas: " ++ Text.decimalText report.replicas ++ "\n"

/-- The faults in the order in which peers get them. There are no more of a kind than peers. -/
def PutOptions.faults (options : PutOptions) (peers : Nat) : List Behavior :=
  List.replicate (min options.denying peers) .deny
    ++ List.replicate (min options.flaky peers) (.denyTimes 1)
    ++ List.replicate (min options.silent peers) .silent

def PutOptions.afflict (options : PutOptions) (targets : List Peer) (cluster : Cluster) : Cluster :=
  (targets.zip (options.faults targets.length)).foldl
    (fun cluster fault => cluster.setBehavior fault.1 fault.2) cluster

def clusterOf (settings : StoreSettings) : Cluster :=
  .create settings.peers.toNat settings.replicationFactor.toNat
    (Duration.ofMillis settings.latencyMillis.toNat)

def PutOptions.request (options : PutOptions) (version : UInt64) : Store.Request :=
  { location := options.location
    content := options.content
    version := version
    value := Text.utf8 options.value }

def PutOptions.run (options : PutOptions) (settings : Settings) (now : UInt64)
    (scatter : List Peer → List Peer) : Except Failure PutReport :=
  let cluster := clusterOf settings.store
  let targets :=
    if options.scattered then scatter cluster.peers else cluster.responsible options.location
  let request := options.request now
  match (options.afflict targets cluster).put request
      (options.retries.getD settings.write.maxPutRetries) with
  | .error failure => .error failure
  | .ok (stored, cluster) =>
      .ok ⟨stored, cluster.puts, cluster.removals, cluster.replicaCount request.versionKey⟩

/-! ### An exchange -/

def echoPeer : Peer := ⟨"peer-2"⟩

def echoNetwork (delay : Duration) : Network :=
  ({} : Network).setEndpoint echoPeer
    { responder := some fun message => some message.payload, delay := delay }

def RequestOptions.exchange (options : RequestOptions) (sender : Peer) (timeout : Duration) :
    Exchange :=
  { message :=
      { id := ⟨0, ""⟩
        sender := sender
        route := if options.routed then .routed "user-b" else .direct echoPeer
        expectsResponse := true
        payload := Text.utf8 "ping" }
    recipient := ⟨Text.utf8 "peer-2-key"⟩
    timeout := timeout
    handler := .ignoring
    name := some "sim" }

def exchangeAlone (exchange : Exchange) (network : Network) : Except SendFailure Unit :=
  let world : World := { cluster := .create 0 0 ⟨0⟩, network := network }
  match (world.await (.exchange { exchange := exchange })).1 with
  | .exchange { stage := .active (.ended result), .. } => result
  | _ => .error .interrupted

inductive RequestFault where
  | duration (fault : Duration.Fault)
  /-- The timeout has too many milliseconds for a word of 64 bits. -/
  | timeoutRange
deriving DecidableEq, Repr

/-- The fault without its cause. -/
def RequestFault.message : RequestFault → String
  | .duration fault => (Failure.ofDurationFault fault).message
  | .timeoutRange => "response timeout out of range"

def RequestOptions.timeoutOf (options : RequestOptions) (settings : MessagingSettings) :
    Except RequestFault Duration :=
  match options.timeout with
  | none => .ok (Duration.ofMillis settings.responseTimeoutMillis.toNat)
  | some text =>
      match Duration.parse text with
      | .error fault => .error (.duration fault)
      | .ok timeout =>
          if timeout.millis < UInt64.size then .ok (Duration.ofMillis timeout.millis)
          else .error .timeoutRange

/-- Runs one exchange. The timeout is judged before the delay. -/
def RequestOptions.run (options : RequestOptions) (settings : Settings) :
    Except RequestFault (Except SendFailure Unit) :=
  match options.timeoutOf settings.messaging with
  | .error fault => .error fault
  | .ok timeout =>
      match Duration.parse options.delay with
      | .error fault => .error (.duration fault)
      | .ok delay =>
          .ok (exchangeAlone (options.exchange ⟨settings.nodeId⟩ timeout) (echoNetwork delay))

def exchangeText : Except SendFailure Unit → String
  | .ok _ => "response received\n"
  | .error failure => "exchange failed: " ++ (Failure.sendFailed failure).message ++ "\n"

/-! ### Commands -/

def Command.run (command : Command) (settings : Settings) (surroundings : Surroundings) :
    Outcome :=
  match command with
  | .put options =>
      match options.run settings surroundings.now surroundings.scatter with
      | .error failure => .failed failure.message
      | .ok report => { code := 0, output := report.text }
  | .request options =>
      match options.run settings with
      | .error fault => .failed fault.message
      | .ok result => { code := 0, output := exchangeText result }
  | .config => { code := 0, output := settings.toJson.printIndented ++ "\n" }

def usage : String := "usage: quorate [--config FILE] (put | request | config) [OPTION]...\n"

/-- Runs a command line. Misuse is found before any settings are loaded. -/
def run (surroundings : Surroundings) : Outcome :=
  match Arguments.parse surroundings.words with
  | .error .help => { code := 0, output := usage }
  | .error .misuse => { code := 2, errors := usage }
  | .ok arguments =>
      match loadSettings surroundings arguments.settingsPath with
      | .error failure =>
          .failed ("loading configuration\n\nCaused by:\n    " ++ failure.message)
      | .ok settings => arguments.command.run settings surroundings

end Quorate.CommandLine
