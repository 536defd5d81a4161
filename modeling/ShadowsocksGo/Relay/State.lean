import Mathlib.Data.List.AList

/-! # The UDP session relay: shared state

What the goroutines of `UDPSessionRelay` share, with a program counter for each goroutine.
Addresses are numbers, `0` the zero `netip.AddrPort`; ghost fields record what the code did and
nothing in it reads them. -/

namespace ShadowsocksGo
namespace Relay

/-- `sessionClientAddrInfo`. -/
structure ClientAddrInfo where
  addrPort : ℕ
  pktinfo : List UInt8
  deriving DecidableEq, Repr

/-- A `sessionQueuedPacket` as the ingress loop fills it; `csid` and `cmsg` are ghost. -/
structure QueuedPacket where
  length : ℕ
  clientAddrPort : ℕ
  csid : UInt64
  cmsg : List UInt8
  deriving DecidableEq, Repr

/-- A socket: how often `Close` was called on it and its read deadline. -/
structure Sock where
  closes : ℕ
  deadline : Option ℕ
  deriving DecidableEq, Repr

/-- The initializer goroutine of a new session, with its deferred calls: `wgDone` runs before the
teardown, and `drain` empties a channel no worker read. -/
inductive InitPc
  | router | newSession | newPacker | listen | setDeadline | swap | spawn | downlink
  | wgDone | teardown | drain | exited
  deriving DecidableEq, Repr

/-- The uplink worker `relayServerConnToNatConnGeneric` and its goroutine. -/
inductive UplinkPc
  | notStarted
  | recv
  | pack (p : ℕ)
  | put (p : ℕ)
  | account (p : ℕ)
  | exited
  deriving DecidableEq, Repr

/-- `Stop`; `swapping keys` is its loop over the table, under the lock, with the keys it has
still to visit. -/
inductive StopPc
  | idle
  | waitIngress
  | swapping (keys : List UInt64)
  | waitWorkers
  | returned
  deriving DecidableEq, Repr

/-- Who swapped a value into a session's `state`. -/
inductive Swapper
  | initializer
  | stop
  deriving DecidableEq, Repr

/-- A runtime panic of the relay. -/
inductive Crash
  | sendOnClosedChannel
  | closeOfClosedChannel
  | nilClientAddrInfo
  deriving DecidableEq, Repr

/-- A `session`, with its two goroutines. `swaps` is ghost: each `Swap` on `state` in order,
with the value it returned. -/
structure Session where
  csid : UInt64
  init : InitPc
  uplink : UplinkPc
  sendChClean : Bool
  natConn : Option ℕ
  state : Option ℕ
  swaps : List (Swapper × Option ℕ)
  natConnSendCh : List ℕ
  chCloses : ℕ
  clientAddrInfo : Option ClientAddrInfo
  clientAddrPortCache : ℕ
  clientPktinfoCache : List UInt8
  clientAddrInfop : Option ClientAddrInfo
  packetsSent : ℕ
  payloadBytesSent : ℕ
  deriving DecidableEq, Repr

def Session.fresh (csid : UInt64) : Session where
  csid := csid
  init := .exited
  uplink := .notStarted
  sendChClean := false
  natConn := none
  state := none
  swaps := []
  natConnSendCh := []
  chCloses := 0
  clientAddrInfo := none
  clientAddrPortCache := 0
  clientPktinfoCache := []
  clientAddrInfop := none
  packetsSent := 0
  payloadBytesSent := 0

instance : Inhabited Session := ⟨Session.fresh 0⟩

abbrev Table := AList (fun _ : UInt64 => ℕ)

def Table.find (t : Table) (c : UInt64) : Option ℕ := t.lookup c

namespace Table

variable {t : Table} {c c' : UInt64} {k : ℕ}

@[simp] theorem find_empty : Table.find ∅ c = none := rfl

@[simp] theorem find_insert : Table.find (t.insert c k) c = some k := AList.lookup_insert t

theorem find_insert_ne (h : c' ≠ c) : Table.find (t.insert c k) c' = t.find c' :=
  AList.lookup_insert_ne h

@[simp] theorem find_erase : Table.find (t.erase c) c = none := AList.lookup_erase c t

theorem find_erase_ne (h : c' ≠ c) : Table.find (t.erase c) c' = t.find c' :=
  AList.lookup_erase_ne h

theorem mem_keys : c ∈ t.keys ↔ (t.find c).isSome := AList.lookup_isSome.symm

end Table

/-- The parameters of a relay that the modelled code reads. -/
structure Config where
  natTimeout : ℕ
  natTimeout_pos : 0 < natTimeout
  sendChannelCapacity : ℕ

/-- The relay after `Start`: `serverConn` is socket `0`; `mwg` holds the ingress loop. -/
structure State where
  clock : ℕ
  socks : ℕ → Sock
  nextSock : ℕ
  table : Table
  sessions : ℕ → Session
  nSessions : ℕ
  heap : ℕ → QueuedPacket
  pool : List ℕ
  nextBuf : ℕ
  gets : ℕ
  puts : ℕ
  ingressRunning : Bool
  wg : ℕ
  stop : StopPc
  stopNow : ℕ
  crash : Option Crash

def serverConn : ℕ := 0

def init : State where
  clock := 0
  socks := fun _ => ⟨0, none⟩
  nextSock := serverConn + 1
  table := ∅
  sessions := fun _ => default
  nSessions := 0
  heap := fun _ => ⟨0, 0, 0, []⟩
  pool := []
  nextBuf := 0
  gets := 0
  puts := 0
  ingressRunning := true
  wg := 0
  stop := .idle
  stopNow := 0
  crash := none

namespace State

variable (s : State)

@[simp] def setSession (k : ℕ) (e : Session) : State :=
  { s with sessions := Function.update s.sessions k e }

/-- `s.getQueuedPacket()`. `sync.Pool.Get` returns any pooled buffer, or a new one from the pool's
`New`: `pick` is its choice, a buffer not in the pool standing for `New`. -/
def getQueuedPacket (pick : ℕ) : ℕ × State :=
  (if pick ∈ s.pool then pick else s.nextBuf,
    { s with pool := s.pool.erase pick, gets := s.gets + 1,
             nextBuf := if pick ∈ s.pool then s.nextBuf else s.nextBuf + 1 })

/-- `s.putQueuedPacket(p)`. -/
@[simp] def putQueuedPacket (p : ℕ) : State :=
  { s with pool := p :: s.pool, puts := s.puts + 1 }

@[simp] def close (n : ℕ) : State :=
  { s with socks := Function.update s.socks n { s.socks n with closes := (s.socks n).closes + 1 } }

@[simp] def setReadDeadline (n t : ℕ) : State :=
  let sock := if (s.socks n).closes = 0 then { s.socks n with deadline := some t } else s.socks n
  { s with socks := Function.update s.socks n sock }

def deadlineExceeded (n : ℕ) : Bool :=
  match (s.socks n).deadline with
  | some d => d ≤ s.clock
  | none => false

end State

end Relay
end ShadowsocksGo
