import TcpShift.Lib.RingQueue
import TcpShift.Lib.Run
import TcpShift.Bridge

set_option autoImplicit false

/- The transmit side of the L3 TUN interface: packets of the IP layer are written to the
device at once while it takes them, and wait in a bounded ring while it does not. -/
namespace TcpShift.L3Tun

open Word
open Bridge (Call WritevAnswer)

def maxIov : Nat := 64
def txQueuePackets : Nat := 64
def txQueueBytesLimit : Nat := 96 * 1024

/-- The pbufs of one packet; lwIP keeps their total length in the first of them. -/
structure Packet where
  links : List Bridge.Pbuf
  totLen : Nat
  chained : totLen = links.flatten.length
  inU16 : totLen < 2 ^ 16
deriving DecidableEq

def Packet.bytes (p : Packet) : List UInt8 := p.links.flatten

/-- The links that carry bytes. -/
def Packet.nonempty (p : Packet) : List Bridge.Pbuf := p.links.filter (fun link => link.length ≠ 0)

inductive Err where
  | ok
  | mem
  | interface
deriving DecidableEq

inductive Errno where
  | msgsize
  | io
  | device
  | inval
deriving DecidableEq

/-- A `writev` that returned a count, with the bytes it was handed. -/
structure Write where
  packet : List UInt8
  taken : Nat
deriving DecidableEq

/-- The answers of the device to the calls still to come, and what it took so far. -/
structure Device where
  answers : List (Call WritevAnswer)
  wire : List Write
deriving DecidableEq

structure L3 where
  tunFd : Int
  attached : Bool
  txQueue : RingQueue Packet txQueuePackets
  txQueueBytes : Nat := 0
  txQueuePeakBytes : Nat := 0
  txPackets : Nat := 0
  txBytes : Nat := 0
  txWouldBlock : Nat := 0
  txQueueDrops : Nat := 0
  txErrors : Nat := 0
deriving DecidableEq

def attach (tunFd : Int) : L3 where
  tunFd := tunFd
  attached := true
  txQueue := RingQueue.empty txQueuePackets (by decide)

/-- The I/O vector behind the links before; `none` when it has no room for one more. -/
def gather : List Bridge.Pbuf → List Bridge.Pbuf → Option (List Bridge.Pbuf)
  | iov, [] => some iov
  | iov, link :: rest =>
      if link.length = 0 then gather iov rest
      else if iov.length = maxIov then none
      else gather (iov ++ [link]) rest

/-- An interrupted call is made again with the same vector. -/
def writev : List (Call WritevAnswer) → Option (WritevAnswer × List (Call WritevAnswer))
  | [] => none
  | .interrupted :: rest => writev rest
  | .returned answer :: rest => some (answer, rest)

/-- The return values -1, 0 and 1. -/
inductive WriteResult where
  | failed (errno : Errno)
  | blocked
  | written
deriving DecidableEq

def countError (l3 : L3) : L3 := { l3 with txErrors := add64 l3.txErrors 1 }

/-- `none` stands for answers that end before the call does. -/
def writePacket (l3 : L3) (p : Packet) (device : Device) : Option (WriteResult × L3 × Device) :=
  match gather [] p.links with
  | none => some (.failed .msgsize, countError l3, device)
  | some iov =>
      if iov.length = 0 then some (.written, l3, device)
      else
        match writev device.answers with
        | none => none
        | some (.again, rest) =>
            some (.blocked, { l3 with txWouldBlock := add64 l3.txWouldBlock 1 },
              { device with answers := rest })
        | some (.failed, rest) =>
            some (.failed .device, countError l3, { device with answers := rest })
        | some (.count written, rest) =>
            let after : Device :=
              { answers := rest, wire := device.wire ++ [⟨iov.flatten, written⟩] }
            if Bridge.u16 written ≠ p.totLen then some (.failed .io, countError l3, after)
            else
              some (.written,
                { l3 with
                  txPackets := add64 l3.txPackets 1
                  txBytes := add64 l3.txBytes written }, after)

/-- The queue has no room for one more packet, or not for its bytes. -/
def Full (l3 : L3) (p : Packet) : Prop :=
  l3.txQueue.count = txQueuePackets ∨ p.totLen > sub32 txQueueBytesLimit l3.txQueueBytes

instance (l3 : L3) (p : Packet) : Decidable (Full l3 p) := inferInstanceAs (Decidable (_ ∨ _))

def enqueue (l3 : L3) (p : Packet) : Err × L3 :=
  if full : Full l3 p then
    (.mem, { l3 with txQueueDrops := add64 l3.txQueueDrops 1 })
  else
    let queued := add32 l3.txQueueBytes p.totLen
    (.ok, { l3 with
      txQueue := l3.txQueue.push p
        (Nat.lt_of_le_of_ne l3.txQueue.countIn (fun same => full (.inl same)))
      txQueueBytes := queued
      txQueuePeakBytes :=
        if queued > l3.txQueuePeakBytes then queued else l3.txQueuePeakBytes })

/-- The head slot is filled whenever this is called. -/
def popTx (l3 : L3) : L3 :=
  match l3.txQueue.cell 0 with
  | none => l3
  | some p =>
      { l3 with
        txQueue := l3.txQueue.pop
        txQueueBytes := sub32 l3.txQueueBytes p.totLen }

def outputPacket (l3 : L3) (p : Option Packet) (device : Device) : Option (Err × L3 × Device) :=
  match p with
  | none => some (.interface, l3, device)
  | some p =>
      if l3.tunFd < 0 then some (.interface, l3, device)
      -- The order is kept once one packet waits.
      else if l3.txQueue.count ≠ 0 then
        some ((enqueue l3 p).1, (enqueue l3 p).2, device)
      else
        match writePacket l3 p device with
        | none => none
        | some (.written, next, after) => some (.ok, next, after)
        | some (.blocked, next, after) => some ((enqueue next p).1, (enqueue next p).2, after)
        | some (.failed _, next, after) => some (.interface, next, after)

/-- The loop of the flush: every pass takes one packet off the queue or is the last. -/
def flushLoop : Nat → L3 → Device → Nat → Option (Except Errno Nat × L3 × Device)
  | 0, l3, device, flushed => some (.ok flushed, l3, device)
  | passes + 1, l3, device, flushed =>
      if waiting : l3.txQueue.count ≠ 0 then
        match writePacket l3 (l3.txQueue.front waiting) device with
        | none => none
        | some (.failed errno, next, after) => some (.error errno, next, after)
        | some (.blocked, next, after) => some (.ok flushed, next, after)
        | some (.written, next, after) => flushLoop passes (popTx next) after (flushed + 1)
      else some (.ok flushed, l3, device)

/-- The queue holds no more packets than the loop has passes. -/
def flushTx (l3 : L3) (device : Device) : Option (Except Errno Nat × L3 × Device) :=
  if l3.attached = false ∨ l3.tunFd < 0 then some (.error .inval, l3, device)
  else flushLoop l3.txQueue.count l3 device 0

def wantsWrite (l3 : L3) : Bool := l3.txQueue.count ≠ 0

end TcpShift.L3Tun
