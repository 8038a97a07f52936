import Mathlib.Data.List.Basic
import TcpShift.Lib.Word

set_option autoImplicit false

/- The bridge carries the bytes of a public lwIP connection to a backend socket and
back. What lwIP and the kernel answer to each call is chosen by the environment; what
was done to either side is appended to the history of the connection. -/
namespace TcpShift.Bridge

open Word

def backendReadChunk : Nat := 4096
def backendReadBudget : Nat := 16
def backendWriteIov : Nat := 64

/-- `TCP_WND` of the lwIP profile. -/
def tcpWnd : Nat := 32 * 1024

/-- The payload of one pbuf; its `len` is the length of the list. -/
abbrev Pbuf := List UInt8

/-- A conversion to `u16_t`. -/
def u16 (value : Nat) : Nat := value % 2 ^ 16

def totLen (chain : List Pbuf) : Nat := u16 chain.flatten.length

/-- lwIP's `pbuf_free_header`: whole pbufs are freed while the count covers them, the
pbuf it ends in is trimmed, and an empty pbuf behind the count stays in the chain. -/
def pbufFreeHeader : List Pbuf → Nat → List Pbuf
  | [], _ => []
  | payload :: rest, left =>
      if left = 0 then payload :: rest
      else if payload.length ≤ left then pbufFreeHeader rest (left - payload.length)
      else payload.drop left :: rest

/-- The values of `err_t` that the bridge tells apart. -/
inductive Err where
  | ok
  | mem
  | abrt
  | other
deriving DecidableEq

/-- What passed between the bridge and the two sides of a connection. -/
inductive Interaction where
  | publicReceived (bytes : List UInt8)
  | publicEnded
  | publicErrored
  | backendWrote (bytes : List UInt8)
  | tcpRecved (length : Nat)
  | backendEnded
  | publicAccepted (bytes : List UInt8)
  | backendConsumed (bytes : List UInt8)
  | markedAppLimited
  | backendShutdown
  | publicShutdown
  | publicClosed
  | publicAborted
  | backendClosed
deriving DecidableEq

structure EpollEvents where
  epollin : Bool
  epollout : Bool
  epollrdhup : Bool
  epollhup : Bool
  epollerr : Bool
deriving DecidableEq

/-- The counters of `struct tcp_shift_bridge` and whether it still listens. -/
structure Counters where
  listener : Bool
  accepts : Nat
  backendConnects : Nat
  publicToBackendBytes : Nat
  backendToPublicBytes : Nat
  activeFlows : Nat
  peakActiveFlows : Nat
  pendingPublicBytes : Nat
  peakPendingPublicBytes : Nat
  backendWriteBlockedEvents : Nat
  backendReadBlockedEvents : Nat
  backendFailures : Nat
  publicErrors : Nat
deriving DecidableEq

structure Flow where
  pcb : Bool
  backendWatch : Option EpollEvents
  publicRx : List Pbuf
  backendConnecting : Bool
  backendConnected : Bool
  backendEof : Bool
  publicEof : Bool
  backendWriteShutdown : Bool
  publicWriteShutdown : Bool
  backendReadBlocked : Bool
deriving DecidableEq

/-- The outside of one connection: lwIP's receive window, all the bytes the backend
sends and those of them still in its socket or on their way, and the history. -/
structure Wire where
  rcvWnd : Nat
  backendStream : List UInt8
  backendUnread : List UInt8
  history : List Interaction
deriving DecidableEq

/-- What a callback of a live flow works on. -/
structure Frame where
  bridge : Counters
  flow : Flow
  wire : Wire
deriving DecidableEq

/-- A connection whose flow has been freed has none. -/
structure Connection where
  flow : Option Flow
  wire : Wire
deriving DecidableEq

def Wire.log (wire : Wire) (interaction : Interaction) : Wire :=
  { wire with history := wire.history ++ [interaction] }

def Frame.log (frame : Frame) (interaction : Interaction) : Frame :=
  { frame with wire := frame.wire.log interaction }

/-- lwIP opens the receive window again, at most to `TCP_WND`. -/
def tcpRecved (length : Nat) (wire : Wire) : Wire :=
  { wire with rcvWnd := min (wire.rcvWnd + length) tcpWnd }.log (.tcpRecved length)

/-- A system call that a signal may interrupt. -/
inductive Call (α : Type) where
  | interrupted
  | returned (answer : α)
deriving DecidableEq

/-- A call that is made again while it is interrupted. -/
def retrying {α : Type} : List (Call α) → Option α
  | [] => none
  | .interrupted :: rest => retrying rest
  | .returned answer :: _ => some answer

inductive WritevAnswer where
  | count (written : Nat)
  | again
  | failed
deriving DecidableEq

inductive RecvAnswer where
  | count (received : Nat)
  | again
  | failed
deriving DecidableEq

inductive ShutdownAnswer where
  | done
  | notConnected
  | failed
deriving DecidableEq

/-- A stream socket returns bytes it holds, and zero only at the end of the stream. -/
def Wire.recvCan (wire : Wire) (wanted count : Nat) : Bool :=
  if count = 0 then wire.backendUnread.isEmpty
  else decide (count ≤ wanted ∧ count ≤ wire.backendUnread.length)

/-- The result of a function that returns 0 or -1. -/
inductive Reply where
  | ok (frame : Frame)
  | failed (frame : Frame)
deriving DecidableEq

def discountPending (count : Nat) (bridge : Counters) : Counters :=
  { bridge with
    pendingPublicBytes :=
      if bridge.pendingPublicBytes ≥ count then bridge.pendingPublicBytes - count else 0 }

def releasePendingPublic (frame : Frame) : Frame :=
  if frame.flow.publicRx = [] then frame
  else
    { frame with
      bridge := discountPending (totLen frame.flow.publicRx) frame.bridge
      flow := { frame.flow with publicRx := [] } }

def unlinkFlow (bridge : Counters) : Counters :=
  if bridge.activeFlows ≠ 0 then { bridge with activeFlows := bridge.activeFlows - 1 }
  else bridge

def flowRelease (frame : Frame) : Counters × Connection :=
  let released := releasePendingPublic (frame.log .backendClosed)
  (unlinkFlow released.bridge, ⟨none, released.wire⟩)

/-- `flow->pcb = NULL`. -/
def Frame.detach (frame : Frame) : Frame :=
  { frame with flow := { frame.flow with pcb := false } }

def flowAbort (frame : Frame) : Counters × Connection :=
  flowRelease (if frame.flow.pcb then frame.log .publicAborted else frame).detach

def markBackendReadBlocked (frame : Frame) : Frame :=
  if frame.flow.backendReadBlocked then frame
  else
    { frame with
      flow := { frame.flow with backendReadBlocked := true }
      bridge := { frame.bridge with
        backendReadBlockedEvents := frame.bridge.backendReadBlockedEvents + 1 } }

def trackPublicRx (chain : List Pbuf) (bridge : Counters) : Counters :=
  let pending := bridge.pendingPublicBytes + totLen chain
  { bridge with
    pendingPublicBytes := pending
    peakPendingPublicBytes :=
      if pending > bridge.peakPendingPublicBytes then pending
      else bridge.peakPendingPublicBytes }

/-- The events the backend socket is watched for; `none` is the empty mask. -/
def backendEvents (flow : Flow) : Option EpollEvents :=
  if flow.backendConnecting then some ⟨false, true, false, false, false⟩
  else
    let reads := !flow.backendEof && !flow.backendReadBlocked
    let writes := !flow.publicRx.isEmpty
    if reads || writes then some ⟨reads, writes, reads, false, false⟩ else none

/-- `epollCtl` is whether the kernel takes the change; an unchanged mask needs none. -/
def syncBackendWatch (epollCtl : Bool) (frame : Frame) : Reply :=
  let events := backendEvents frame.flow
  if events = frame.flow.backendWatch then .ok frame
  else if epollCtl then .ok { frame with flow := { frame.flow with backendWatch := events } }
  else .failed frame

/-- The first pbufs with payload, as many as the vector has room for. -/
def gatherIov : Nat → List Pbuf → List Pbuf
  | _, [] => []
  | 0, _ :: _ => []
  | room + 1, payload :: rest =>
      if payload.length = 0 then gatherIov (room + 1) rest
      else payload :: gatherIov room rest

/-- The part of the flush loop behind a successful `writev`. -/
def wroteToBackend (bytes : List UInt8) (frame : Frame) : Frame :=
  let written := bytes.length
  { bridge := discountPending written { frame.bridge with
      publicToBackendBytes := frame.bridge.publicToBackendBytes + written }
    flow := { frame.flow with
      publicRx := pbufFreeHeader frame.flow.publicRx (u16 written) }
    wire := tcpRecved (u16 written) (frame.wire.log (.backendWrote bytes)) }

/-- Each pass of the loop takes the answer to one `writev`; an interrupted call is made
again with the same vector. -/
def flushPublicToBackend : List (Call WritevAnswer) → Frame → Option Reply
  | answers, frame =>
      if !frame.flow.backendConnected || frame.flow.publicRx.isEmpty then some (.ok frame)
      else
        let iov := gatherIov backendWriteIov frame.flow.publicRx
        if iov.isEmpty then some (.ok (releasePendingPublic frame))
        else
          match answers with
          | [] => none
          | .interrupted :: rest => flushPublicToBackend rest frame
          | .returned .failed :: _ => some (.failed frame)
          | .returned .again :: _ =>
              some (.ok { frame with bridge := { frame.bridge with
                backendWriteBlockedEvents := frame.bridge.backendWriteBlockedEvents + 1 } })
          | .returned (.count written) :: rest =>
              if iov.flatten.length < written then none
              else if written = 0 then some (.failed frame)
              else flushPublicToBackend rest
                (wroteToBackend (iov.flatten.take written) frame)

def Wire.consume (count : Nat) (wire : Wire) : Wire :=
  { wire with backendUnread := wire.backendUnread.drop count }.log
    (.backendConsumed (wire.backendUnread.take count))

def consumeBackend (length : Nat) :
    List (Call RecvAnswer) → Nat → Frame → Option Reply
  | answers, consumed, frame =>
      if length ≤ consumed then some (.ok frame)
      else
        match answers with
        | [] => none
        | .interrupted :: rest => consumeBackend length rest consumed frame
        | .returned .again :: _ => some (.failed frame)
        | .returned .failed :: _ => some (.failed frame)
        | .returned (.count result) :: rest =>
            if !frame.wire.recvCan (length - consumed) result then none
            else if result = 0 then some (.failed frame)
            else consumeBackend length rest (consumed + result)
              { frame with wire := frame.wire.consume result }

/-- The answers of lwIP and the kernel to one pass of the pump loop; `sndBuf` is the
32-bit send buffer of the pcb. -/
structure PumpAnswers where
  sndBuf : Nat
  peek : List (Call RecvAnswer)
  tcpWrite : Err
  consume : List (Call RecvAnswer)

/-- How one pass of the pump loop ends. -/
inductive Pass where
  | again (frame : Frame)
  | stop (frame : Frame)
  | failed (frame : Frame)

/-- lwIP's `tcp_sndbuf` clamps to what a `u16_t` can hold. -/
def tcpSndbuf (sndBuf : Nat) : Nat := min sndBuf u16Max

/-- `tcp_write` has taken the peeked bytes, which are now consumed. -/
def consumeWritten (available : Nat) (answers : List (Call RecvAnswer)) (frame : Frame) :
    Option Pass :=
  match consumeBackend available answers 0 frame with
  | none => none
  | some (.failed after) => some (.failed after)
  | some (.ok after) =>
      some (.again { after with bridge := { after.bridge with
        backendToPublicBytes := after.bridge.backendToPublicBytes + available } })

def writePeeked (available : Nat) (answers : PumpAnswers) (frame : Frame) : Option Pass :=
  let buffer := frame.wire.backendUnread.take available
  match answers.tcpWrite with
  | .mem => some (.stop (markBackendReadBlocked frame))
  | .ok => consumeWritten available answers.consume
      (frame.log (.publicAccepted (buffer.take (u16 available))))
  | _ => some (.failed frame)

/-- How many bytes a pass peeks for. -/
def peekLength (sndbuf : Nat) : Nat :=
  if backendReadChunk > sndbuf then sndbuf else backendReadChunk

def pumpPass (answers : PumpAnswers) (frame : Frame) : Option Pass :=
  let sndbuf := tcpSndbuf answers.sndBuf
  if sndbuf = 0 then some (.stop (markBackendReadBlocked frame))
  else
    match retrying answers.peek with
    | none => none
    | some .failed => some (.failed frame)
    | some .again => some (.stop (frame.log .markedAppLimited))
    | some (.count available) =>
        if !frame.wire.recvCan (peekLength sndbuf) available then none
        else if available = 0 then
          some (.stop { frame.log .backendEnded with
            flow := { frame.flow with backendEof := true } })
        else writePeeked available answers frame

def pumpLoop : Nat → List PumpAnswers → Frame → Option Reply
  | 0, _, frame => some (.ok frame)
  | _ + 1, [], _ => none
  | budget + 1, answers :: rest, frame =>
      match pumpPass answers frame with
      | none => none
      | some (.failed after) => some (.failed after)
      | some (.stop after) => some (.ok after)
      | some (.again after) => pumpLoop budget rest after

def pumpBackendToPublic (answers : List PumpAnswers) (frame : Frame) : Option Reply :=
  if !frame.flow.backendConnected || frame.flow.backendEof || !frame.flow.pcb then
    some (.ok frame)
  else pumpLoop backendReadBudget answers frame

def shutdownBackendWrite (answer : ShutdownAnswer) (frame : Frame) : Reply :=
  if !frame.flow.publicEof || !frame.flow.publicRx.isEmpty || !frame.flow.backendConnected ||
      frame.flow.backendWriteShutdown then .ok frame
  else
    let called := frame.log .backendShutdown
    if answer = .failed then .failed called
    else .ok { called with flow := { frame.flow with backendWriteShutdown := true } }

def shutdownPublicWrite (answer : Err) (frame : Frame) : Reply :=
  if !frame.flow.backendEof || frame.flow.publicWriteShutdown || !frame.flow.pcb then .ok frame
  else
    let called := frame.log .publicShutdown
    if answer = .mem then .ok called
    else if answer ≠ .ok then .failed called
    else .ok { called with flow := { frame.flow with publicWriteShutdown := true } }

/-- How a round of progress leaves the flow. -/
inductive Progress where
  | alive (frame : Frame)
  | released (bridge : Counters) (connection : Connection)
  | failed (frame : Frame)

structure ProgressAnswers where
  writev : List (Call WritevAnswer)
  pump : List PumpAnswers
  shutdown : ShutdownAnswer
  tcpShutdown : Err
  tcpClose : Err
  epollCtl : Bool

/-- The end of `finish_if_done`, with both shutdowns tried. -/
def closeIfDone (tcpClose : Err) (frame : Frame) : Progress :=
  if !frame.flow.publicEof || !frame.flow.backendEof || !frame.flow.publicRx.isEmpty ||
      !frame.flow.backendWriteShutdown || !frame.flow.publicWriteShutdown ||
      !frame.flow.pcb then .alive frame
  else
    let called := frame.log .publicClosed
    if tcpClose ≠ .ok then .alive called
    else
      let (bridge, connection) := flowRelease called.detach
      .released bridge connection

def finishIfDone (answers : ProgressAnswers) (frame : Frame) : Progress :=
  match shutdownBackendWrite answers.shutdown frame with
  | .failed after => .failed after
  | .ok half =>
      match shutdownPublicWrite answers.tcpShutdown half with
      | .failed after => .failed after
      | .ok both => closeIfDone answers.tcpClose both

def watchProgress (epollCtl : Bool) : Progress → Progress
  | .alive frame =>
      match syncBackendWatch epollCtl frame with
      | .ok watched => .alive watched
      | .failed after => .failed after
  | ended => ended

def progress (answers : ProgressAnswers) (frame : Frame) : Option Progress :=
  match flushPublicToBackend answers.writev frame with
  | none => none
  | some (.failed after) => some (.failed after)
  | some (.ok flushed) =>
      match pumpBackendToPublic answers.pump flushed with
      | none => none
      | some (.failed after) => some (.failed after)
      | some (.ok pumped) => some (watchProgress answers.epollCtl (finishIfDone answers pumped))

/-- What a callback returns to lwIP and leaves behind. -/
structure Returned where
  err : Err
  bridge : Counters
  connection : Connection
deriving DecidableEq

/-- The end of every callback: a flow whose progress failed is aborted. -/
def conclude : Progress → Returned
  | .alive frame => ⟨.ok, frame.bridge, ⟨some frame.flow, frame.wire⟩⟩
  | .released bridge connection => ⟨.ok, bridge, connection⟩
  | .failed frame =>
      let (bridge, connection) := flowAbort { frame with bridge := { frame.bridge with
        backendFailures := frame.bridge.backendFailures + 1 } }
      ⟨.abrt, bridge, connection⟩

def completeBackendConnect (frame : Frame) : Frame :=
  { frame with
    flow := { frame.flow with backendConnecting := false, backendConnected := true }
    bridge := { frame.bridge with backendConnects := frame.bridge.backendConnects + 1 } }

/-- `socketError` is whether `getsockopt(SO_ERROR)` fails or reports an error. The
callback returns 0 to the loop on every path, so only the connection matters. -/
def backendReady (events : EpollEvents) (socketError : Bool) (answers : ProgressAnswers)
    (frame : Frame) : Option Returned :=
  if (frame.flow.backendConnecting || events.epollerr) && socketError then
    some (conclude (.failed frame))
  else
    let ready := if frame.flow.backendConnecting then completeBackendConnect frame else frame
    if events.epollin || events.epollout || events.epollrdhup || events.epollhup then
      (progress answers ready).map conclude
    else some (conclude (.alive ready))

/-- `p` is the chain lwIP hands over, `none` the end of the public stream. -/
def publicRecv (p : Option (List Pbuf)) (err : Err) (answers : ProgressAnswers)
    (frame : Frame) : Option Returned :=
  if err ≠ .ok then
    let (bridge, connection) := flowAbort { frame with bridge := { frame.bridge with
      publicErrors := frame.bridge.publicErrors + 1 } }
    some ⟨.abrt, bridge, connection⟩
  else
    match p with
    | none =>
        (progress answers { frame with flow := { frame.flow with publicEof := true } }).map
          conclude
    | some chain =>
        (progress answers { frame with
          bridge := trackPublicRx chain frame.bridge
          flow := { frame.flow with publicRx := frame.flow.publicRx ++ chain } }).map conclude

/-- Both the sent and the poll callback open backend reads again. -/
def resumeBackendReads (answers : ProgressAnswers) (frame : Frame) : Option Returned :=
  (progress answers { frame with flow := { frame.flow with backendReadBlocked := false } }).map
    conclude

def publicSent (answers : ProgressAnswers) (frame : Frame) : Option Returned :=
  resumeBackendReads answers frame

def publicPoll (answers : ProgressAnswers) (frame : Frame) : Option Returned :=
  resumeBackendReads answers frame

def publicError (frame : Frame) : Counters × Connection :=
  flowRelease { frame with bridge := { frame.bridge with
    publicErrors := frame.bridge.publicErrors + 1 } }.detach

end TcpShift.Bridge
