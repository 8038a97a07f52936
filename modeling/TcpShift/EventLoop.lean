import Mathlib.Logic.Function.Basic
import TcpShift.L3TunQueue

set_option autoImplicit false

/- The event loop around epoll: the watches that callers own and may free from within a
callback, the interest of the TUN interface, and one cycle after the other. -/
namespace TcpShift

namespace EventLoop

open L3Tun (Port)

/-- The bits of an epoll event that are asked for. -/
structure Events where
  input : Bool := false
  output : Bool := false
  readHangup : Bool := false
deriving DecidableEq, Repr

inductive Callback where
  | tunReady
  | pacerReady
  | recoveryReady
  | backendReady
deriving DecidableEq, Repr

structure Watch where
  fd : Option Nat := none
  events : Events := {}
  callback : Option Callback := none
  registered : Bool := false
deriving DecidableEq, Repr

/-- The memory a watch lies in: a flow with its backend socket, or the loop with the
descriptor of one of its own watches. -/
structure Cell where
  fd : Nat
  watch : Watch := {}
deriving DecidableEq, Repr

/-- An entry of the kernel's list: `data` is the pointer it hands back. -/
structure Interest where
  events : Events
  data : Nat
deriving DecidableEq, Repr

/-- Where the loop is. `misdirected` is the error of a watch that is not registered,
`dangling` the use of one that was freed. -/
inductive Phase where
  | waiting
  | running
  | stopped
  | misdirected
  | dangling
deriving DecidableEq, Repr

structure Loop where
  phase : Phase := .waiting
  tunEvents : Events := {}
  port : Port
  /-- By pointer, the memory that is allocated. -/
  memory : Nat → Option Cell := fun _ => none
  /-- By descriptor, the memory that holds it open. -/
  holder : Nat → Option Nat := fun _ => none
  /-- By descriptor, the kernel's interest list. -/
  interest : Nat → Option Interest := fun _ => none

def tunWatch : Nat := 0
def pacerWatch : Nat := 1
def recoveryTimerWatch : Nat := 2
/-- The loop's own watches are never freed. -/
def firstFlow : Nat := 3

namespace Loop

/-- `tcp_shift_lwip_loop_tun_events`. -/
def wantedEvents (loop : Loop) : Events := { input := true, output := L3Tun.wantsWrite loop.port.l3 }

/-! ### Watches

`kernel` is that `epoll_ctl` fails for no reason but the state of its list; the first
result is whether the call succeeded. -/

def setWatch (loop : Loop) (ptr : Nat) (cell : Cell) (watch : Watch) (fd : Nat)
    (interest : Option Interest) : Loop :=
  { loop with
    memory := Function.update loop.memory ptr (some { cell with watch := watch })
    interest := Function.update loop.interest fd interest }

def watchAdd (loop : Loop) (ptr fd : Nat) (events : Events) (callback : Callback)
    (kernel : Bool) : Bool × Loop :=
  match loop.memory ptr with
  | none => (false, loop)
  | some cell =>
      if cell.watch.registered then (false, loop)
      else if !kernel || (loop.interest fd).isSome then (false, loop)
      else
        (true, loop.setWatch ptr cell
          { fd := some fd, events := events, callback := some callback, registered := true } fd
          (some { events := events, data := ptr }))

def watchMod (loop : Loop) (ptr : Nat) (events : Events) (kernel : Bool) : Bool × Loop :=
  match loop.memory ptr with
  | none => (false, loop)
  | some cell =>
      match cell.watch.fd with
      | none => (false, loop)
      | some fd =>
          if !cell.watch.registered || cell.watch.callback.isNone then (false, loop)
          else if cell.watch.events = events then (true, loop)
          else if !kernel || (loop.interest fd).isNone then (false, loop)
          else
            (true, loop.setWatch ptr cell { cell.watch with events := events } fd
              (some { events := events, data := ptr }))

def watchRemove (loop : Loop) (ptr : Nat) (kernel : Bool) : Bool × Loop :=
  match loop.memory ptr with
  | none => (false, loop)
  | some cell =>
      match cell.watch.fd with
      | none => (false, loop)
      | some fd =>
          if !cell.watch.registered then (false, loop)
          else if !kernel || (loop.interest fd).isNone then (false, loop)
          else (true, loop.setWatch ptr cell {} fd none)

/-! ### Flows of the bridge, as far as their watches go -/

/-- Memory is allocated for a descriptor that is opened. -/
def hold (loop : Loop) (ptr fd : Nat) : Loop :=
  { loop with
    memory := Function.update loop.memory ptr (some { fd := fd })
    holder := Function.update loop.holder fd (some ptr) }

/-- Closing a descriptor takes it off the kernel's list. -/
def free (loop : Loop) (ptr : Nat) (cell : Cell) : Loop :=
  { loop with
    memory := Function.update loop.memory ptr none
    holder := Function.update loop.holder cell.fd none
    interest := Function.update loop.interest cell.fd none }

/-- `tcp_shift_bridge_flow_release`: a watch that cannot be removed goes with its descriptor. -/
def flowRelease (loop : Loop) (ptr : Nat) (kernel : Bool) : Option Loop :=
  match loop.memory ptr with
  | none => none
  | some cell =>
      let removed := if cell.watch.registered then (loop.watchRemove ptr kernel).2 else loop
      some (removed.free ptr cell)

/-- The end of `tcp_shift_bridge_accept`: a flow whose watch cannot be added is given up. -/
def flowAccept (loop : Loop) (ptr fd : Nat) (events : Events) (kernel : Bool) : Option Loop :=
  if (loop.memory ptr).isSome || (loop.holder fd).isSome then none
  else
    let (added, watched) := (loop.hold ptr fd).watchAdd ptr fd events .backendReady kernel
    if added then some watched else watched.flowRelease ptr kernel

/-- `tcp_shift_bridge_sync_backend_watch`. -/
def syncBackendWatch (loop : Loop) (ptr : Nat) (events : Events) (kernel : Bool) :
    Option (Bool × Loop) :=
  match loop.memory ptr with
  | none => none
  | some cell =>
      some
        (if events = {} then
          if cell.watch.registered then loop.watchRemove ptr kernel else (true, loop)
        else if !cell.watch.registered then
          loop.watchAdd ptr cell.fd events .backendReady kernel
        else loop.watchMod ptr events kernel)

/-! ### The loop -/

def syncInterest (loop : Loop) (kernel : Bool) : Bool × Loop :=
  if loop.wantedEvents = loop.tunEvents then (true, loop)
  else
    let (changed, modified) := loop.watchMod tunWatch loop.wantedEvents kernel
    if changed then (true, { modified with tunEvents := loop.wantedEvents }) else (false, modified)

/-- The answer of `epoll_wait`. -/
inductive Wait where
  | failed
  | interrupted
  | timeout
  | ready (fd : Nat)
deriving DecidableEq, Repr

/-- The first half of `tcp_shift_lwip_loop_run_once`, up to the callback. -/
def wait (loop : Loop) : Wait → Option Loop
  | .failed => some { loop with phase := .stopped }
  | .interrupted => some loop
  | .timeout => some { loop with phase := .running }
  | .ready fd =>
      (loop.interest fd).map fun interest =>
        match loop.memory interest.data with
        | none => { loop with phase := .dangling }
        | some cell =>
            if !cell.watch.registered || cell.watch.callback.isNone then
              { loop with phase := .misdirected }
            else { loop with phase := .running }

/-- The second half, behind the callback and lwIP's timers. -/
def finish (loop : Loop) (failed kernel : Bool) : Loop :=
  if failed then { loop with phase := .stopped }
  else
    let (synced, next) := loop.syncInterest kernel
    { next with phase := if synced then .waiting else .stopped }

/-- The loop of a device and two timers, before any watch is added. -/
def blank (port : Port) (tunFd pacerFd recoveryFd : Nat) : Loop :=
  let loop : Loop := { port := port }
  let loop := { loop with tunEvents := loop.wantedEvents }
  ((loop.hold tunWatch tunFd).hold pacerWatch pacerFd).hold recoveryTimerWatch recoveryFd

/-- `tcp_shift_lwip_loop_init` with the recovery timer, on descriptors that differ; `none` is
its failure. -/
def init (port : Port) (tunFd pacerFd recoveryFd : Nat) (kernel : Bool) : Option Loop :=
  if tunFd = pacerFd ∨ tunFd = recoveryFd ∨ pacerFd = recoveryFd then none
  else
    let loop := blank port tunFd pacerFd recoveryFd
    let (tunAdded, loop) := loop.watchAdd tunWatch tunFd loop.tunEvents .tunReady kernel
    let (pacerAdded, loop) :=
      loop.watchAdd pacerWatch pacerFd { input := true } .pacerReady kernel
    let (recoveryAdded, loop) :=
      loop.watchAdd recoveryTimerWatch recoveryFd { input := true } .recoveryReady kernel
    if tunAdded && pacerAdded && recoveryAdded then some loop else none

/-! ### Runs -/

/-- What happens: the loop waits and comes back, and in between a callback or a timer of
lwIP opens, changes and frees flows and sends packets. -/
inductive Event where
  | wait (answer : Wait)
  | accept (ptr fd : Nat) (events : Events) (kernel : Bool)
  | sync (ptr : Nat) (events : Events) (kernel : Bool)
  | release (ptr : Nat) (kernel : Bool)
  | tun (event : L3Tun.Event)
  | finish (failed kernel : Bool)

/-- Flows live behind the loop's own watches. Once the loop has stopped, the bridge still
gives up its flows. -/
def step (loop : Loop) : Event → Option Loop
  | .wait answer => if loop.phase = .waiting then loop.wait answer else none
  | .accept ptr fd events kernel =>
      if loop.phase = .running ∧ firstFlow ≤ ptr then loop.flowAccept ptr fd events kernel
      else none
  | .sync ptr events kernel =>
      if loop.phase = .running ∧ firstFlow ≤ ptr then
        (loop.syncBackendWatch ptr events kernel).map (·.2)
      else none
  | .release ptr kernel =>
      if (loop.phase = .running ∨ loop.phase = .stopped) ∧ firstFlow ≤ ptr then
        loop.flowRelease ptr kernel
      else none
  | .tun event =>
      if loop.phase = .running ∨ loop.phase = .stopped then
        (L3Tun.step loop.port event).map fun port => { loop with port := port }
      else none
  | .finish failed kernel =>
      if loop.phase = .running then some (loop.finish failed kernel) else none

abbrev run : Loop → List Event → Option Loop := Run.run step

end Loop

end EventLoop

end TcpShift
