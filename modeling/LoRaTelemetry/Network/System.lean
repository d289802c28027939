import LoRaTelemetry.Library.Broadcast
import LoRaTelemetry.Master.Steps
import LoRaTelemetry.Slave.Sketch

/-
  The closed system of one master and any number of slaves.

  Every node runs its own sketch, one statement at a time,
  against its own clock. The only frames on the air are the
  ones that the nodes transmit.

  Time passes between the steps, as much as it likes; a
  statement, a send or a GET takes none of its own. Results
  about all runs hold for any spacing of the steps, but how
  long a step of the real nodes takes is not modelled.

  Each transmission carries, beside its packet, a record of
  where it came from: the server response that a command
  carries out, and the moment and the lag of its time stamp.
  No node reads these.

  Main declarations:
    * `Deployment`
    * `Transmission`
    * `Net`
    * `Network.Event`
    * `Network.step`
    * `network`
-/

------------------------------------------------------------
-- Deployments
------------------------------------------------------------

namespace LoRaTelemetry

/-
  A master and a slave for each index, with node ids of
  their own. The offsets are what the clocks show at the
  start of a run, with their wraps undone; the master's has
  counted up from zero since its reset.
-/
structure Deployment (ι : Type) where
  config : Master.Config
  board : ι → Slave.Board
  masterOffset : Nat
  slaveOffset : ι → Int
  distinct :
    Function.Injective fun index => (board index).node
  notMaster :
    ∀ index, (board index).node ≠ Master.node

/- The slaves that the sketch has been compiled for. -/
inductive TwoSlaves where
| slave8
| slave9
deriving DecidableEq

/- The master's own table, on tracks that stand still. -/
def twoSlaves : Deployment TwoSlaves :=
  { config := Master.deployed
    board := fun index =>
      match index with
      | .slave8 => Slave.board8
      | .slave9 => { Slave.board8 with node := 9 }
    masterOffset := 100
    slaveOffset := fun _ => 0
    distinct := by
      intro first second hNodes
      cases first <;> cases second <;>
        first
          | rfl
          | cases hNodes
    notMaster := by
      intro index
      cases index <;> decide }

inductive Node (ι : Type) where
| master
| slave (index : ι)
deriving DecidableEq

namespace Deployment

variable {ι : Type} (deployment : Deployment ι)

/- The master's clock with its wraps undone. -/
def masterTime (now : Int) : Int :=
  deployment.masterOffset + now

/- `millis()` on the master. -/
def masterClock (now : Nat) : ULong :=
  BitVec.ofInt 32 (deployment.masterTime now)

/- `millis()` on a slave. -/
def slaveClock
    (index : ι)
    (now : Nat) : ULong :=
  BitVec.ofInt 32 (deployment.slaveOffset index + now)

end Deployment

------------------------------------------------------------
-- Transmissions
------------------------------------------------------------

/-
  When a packet was stamped, and how far the clock it was
  stamped with lagged behind the master's.
-/
structure Stamp where
  time : Int
  lag : Int
deriving DecidableEq

/-
  A packet on the air. The order of a master's packet is the
  server response it carries out, if it is a command.
-/
inductive Transmission (ι : Type) where
| master
    (packet : Master.StructMessage)
    (order : Option Master.Body)
    (stamp : Stamp)
| slave
    (index : ι)
    (packet : Slave.StructMessage)
    (stamp : Stamp)
deriving DecidableEq

namespace Transmission

variable {ι : Type}

def sender : Transmission ι → Node ι
| .master _ _ _ => .master
| .slave index _ _ => .slave index

def frame : Transmission ι → Frame
| .master packet _ _ => packet.frame
| .slave _ packet _ => packet.frame

def stamp : Transmission ι → Stamp
| .master _ _ stamp => stamp
| .slave _ _ stamp => stamp

def timeStamp : Transmission ι → ULong
| .master packet _ _ => packet.timeStamp
| .slave _ packet _ => packet.timeStamp

end Transmission

------------------------------------------------------------
-- The State of the System
------------------------------------------------------------

/- The next statement of the master's `loop`. -/
inductive Master.Pc where
| getDataFromServer
| send
| lastSendTime
| onreceive
deriving DecidableEq, Repr

/-
  The time since the start, every node with its next
  statement, the medium, and the records posted. The last
  three fields say where the packets under construction come
  from.
-/
structure Net (ι : Type) [DecidableEq ι] where
  now : Nat
  master : Master.State
  masterPc : Master.Pc
  slave : ι → Slave.State
  air : Medium Nat (@Transmission.sender ι)
  posts : List Master.Record
  order : Option Master.Body
  masterStamp : Stamp
  slaveStamp : ι → Stamp

namespace Net

variable {ι : Type} [DecidableEq ι] (net : Net ι)

/- The transmissions that a slave received, with the time. -/
def heard (index : ι) : List (Transmission ι × Nat) :=
  net.air.heard (.slave index)

/-
  How far a slave lags after a reception: as far as the
  packet did when it was stamped, and the time since then.
-/
def lagAfter (delivery : Transmission ι × Nat) : Int :=
  delivery.1.stamp.lag +
    ((delivery.2 : Int) - delivery.1.stamp.time)

/- The lag that the last frame received left behind. -/
def lag (index : ι) : Option Int :=
  (net.heard index).getLast?.map lagAfter

end Net

/-
  Every node has returned from `setup`. The zero-initialised
  packet of the master counts as stamped when the master's
  clock showed zero.
-/
def Net.init
    {ι : Type} [DecidableEq ι]
    (deployment : Deployment ι) : Net ι :=
  { now := 0
    master := Master.State.init
    masterPc := .getDataFromServer
    slave := fun _ => Slave.State.init
    air := Medium.silent
    posts := []
    order := none
    masterStamp := ⟨-deployment.masterOffset, 0⟩
    slaveStamp := fun _ => ⟨0, 0⟩ }

------------------------------------------------------------
-- Steps
------------------------------------------------------------

namespace Network

variable {ι : Type} [DecidableEq ι]
variable (deployment : Deployment ι) (net : Net ι)

/-
  Time passes; the master runs its next statement, with the
  outcome of a GET and the position of a frame to receive,
  should it make or receive one; a slave runs its next
  statement; or a slave is interrupted by a frame.
-/
inductive Event (ι : Type) where
| tick (elapsed : Nat)
| master (got : Master.GetOutcome) (position : Nat)
| slave (index : ι) (draw : Fin 4)
| interrupt (index : ι) (position : Nat)

/- The master's call of `getDataFromServer`. -/
def fetch (got : Master.GetOutcome) : Net ι :=
  let fetched :=
    Master.getDataFromServer deployment.config net.master
      got (deployment.masterClock net.now)
  let net :=
    { net with
      master := fetched.1
      masterPc := .send }
  match fetched.2 with
  | none => net
  | some build =>
      { net with
        order := build.order
        masterStamp := ⟨net.now, 0⟩ }

/- The master's call of `send`. -/
def transmit : Net ι :=
  { net with
    masterPc := .lastSendTime
    air :=
      net.air.transmit
        (.master (Master.send net.master) net.order
          net.masterStamp) }

/- The master's assignment to `lastSendTime`. -/
def mark : Net ι :=
  { net with
    masterPc := .onreceive
    master :=
      Master.markSendTime net.master
        (deployment.masterClock net.now) }

/- One round of the listening loop, or its exit. -/
def listen (position : Nat) : Net ι :=
  if Master.listening net.master
      (deployment.masterClock net.now) then
    let received :=
      Master.onreceive net.master
        ((net.air.offered .master position).map
          Transmission.frame)
    { net with
      master := received.1
      air := net.air.hear .master position net.now
      posts := net.posts ++ received.2.toList }
  else
    { net with masterPc := .getDataFromServer }

/- The next statement of a slave. -/
def advance
    (index : ι)
    (draw : Fin 4) : Net ι :=
  let state := net.slave index
  { net with
    slave :=
      Function.update net.slave index
        (Slave.exec (deployment.board index) state
          (deployment.slaveClock index net.now) draw)
    air :=
      if state.pc = .endPacket then
        net.air.transmit
          (.slave index state.fifo (net.slaveStamp index))
      else
        net.air
    slaveStamp :=
      if state.pc = .timeStamp then
        Function.update net.slaveStamp index
          ⟨net.now, (net.lag index).getD 0⟩
      else
        net.slaveStamp }

/- A frame arrives at a slave. -/
def interrupt
    (index : ι)
    (position : Nat) : Net ι :=
  match net.air.offered (.slave index) position with
  | none => net
  | some transmission =>
      { net with
        slave :=
          Function.update net.slave index
            (Slave.onReceive (deployment.board index)
              (net.slave index)
              (deployment.slaveClock index net.now)
              transmission.frame).1
        air :=
          net.air.hear (.slave index) position net.now }

def step : Event ι → Net ι
| .tick elapsed => { net with now := net.now + elapsed }
| .master got position =>
    match net.masterPc with
    | .getDataFromServer => fetch deployment net got
    | .send => transmit net
    | .lastSendTime => mark deployment net
    | .onreceive => listen deployment net position
| .slave index draw => advance deployment net index draw
| .interrupt index position =>
    interrupt deployment net index position

end Network

/- The system from the start. -/
def network
    {ι : Type} [DecidableEq ι]
    (deployment : Deployment ι) :
    Machine (Net ι) (Network.Event ι) Empty :=
  { init := Net.init deployment
    step := Network.step deployment
    emit := fun _ _ => [] }

@[simp] theorem network_init
    {ι : Type} [DecidableEq ι]
    (deployment : Deployment ι) :
    (network deployment).init = Net.init deployment := by
  rfl

@[simp] theorem network_step
    {ι : Type} [DecidableEq ι]
    (deployment : Deployment ι)
    (net : Net ι)
    (event : Network.Event ι) :
    (network deployment).step net event =
      Network.step deployment net event := by
  rfl

end LoRaTelemetry
