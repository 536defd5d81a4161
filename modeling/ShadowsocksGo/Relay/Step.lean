import ShadowsocksGo.Relay.State

/-! # The UDP session relay: goroutine steps

One atomic step of each goroutine of `UDPSessionRelay`, and the runs of the whole relay. The
outcome of each external call, and the buffer `sync.Pool.Get` returns, is an argument of the
step. -/

namespace ShadowsocksGo
namespace Relay

/-- What one `ReadMsgUDPAddrPort` on `serverConn` gives, with the outcomes of the calls made for
it; `error` is any error after which the loop puts the packet back. -/
inductive Recv
  | deadlineExceeded
  | error
  | datagram (csid : UInt64) (clientAddrPort : ℕ) (cmsg : List UInt8) (length : ℕ)
      (newUnpackerOk unpackOk parsePktinfoOk : Bool)
  deriving DecidableEq, Repr

def QueuedPacket.receive (q : QueuedPacket) (csid : UInt64) (addr : ℕ) (cmsg : List UInt8)
    (unpacked : Bool) (length : ℕ) : QueuedPacket :=
  { q with length := if unpacked then length else q.length, clientAddrPort := addr, csid := csid,
           cmsg := cmsg }

def StopPc.holdsLock : StopPc → Bool
  | .swapping _ => true
  | _ => false

/-- The address caches of an entry after a packet from `addr`, and the iteration's
`clientAddrInfop`; a failed `ParsePktinfoCmsg` is `.error e`, caches already updated. -/
def updateClientAddrInfo (e : Session) (addr : ℕ) (cmsg : List UInt8) (parsePktinfoOk : Bool) :
    Except Session (Session × Option ClientAddrInfo) :=
  let updateClientAddrPort := e.clientAddrPortCache != addr
  let updateClientPktinfo := e.clientPktinfoCache != cmsg
  let e := if updateClientAddrPort then { e with clientAddrPortCache := addr } else e
  let e := if updateClientPktinfo then { e with clientPktinfoCache := cmsg } else e
  if updateClientAddrPort || updateClientPktinfo then
    if parsePktinfoOk then
      let info : ClientAddrInfo := ⟨e.clientAddrPortCache, e.clientPktinfoCache⟩
      .ok ({ e with clientAddrInfo := some info }, some info)
    else .error e
  else .ok (e, none)

theorem updateClientAddrInfo_eq (e : Session) (addr : ℕ) (cmsg : List UInt8) (ok : Bool) :
    updateClientAddrInfo e addr cmsg ok =
      if e.clientAddrPortCache = addr ∧ e.clientPktinfoCache = cmsg then .ok (e, none)
      else if ok then
        .ok ({ e with clientAddrPortCache := addr, clientPktinfoCache := cmsg,
                      clientAddrInfo := some ⟨addr, cmsg⟩ }, some ⟨addr, cmsg⟩)
      else .error { e with clientAddrPortCache := addr, clientPktinfoCache := cmsg } := by
  unfold updateClientAddrInfo
  by_cases ha : e.clientAddrPortCache = addr <;> by_cases hc : e.clientPktinfoCache = cmsg <;>
    cases ok <;> simp [ha, hc]

namespace State

/-- `select { case entry.natConnSendCh <- p: default: s.putQueuedPacket(p) }`; a send on a
closed channel panics. -/
def send (cfg : Config) (s : State) (k p : ℕ) : State :=
  let e := s.sessions k
  if e.chCloses ≠ 0 then { s with crash := some .sendOnClosedChannel }
  else if e.natConnSendCh.length < cfg.sendChannelCapacity then
    s.setSession k { e with natConnSendCh := e.natConnSendCh ++ [p] }
  else s.putQueuedPacket p

/-- `s.table[csid] = entry` for a new entry, whose initializer goroutine starts with the
iteration's `clientAddrInfop`. -/
def insertSession (s : State) (e : Session) (info : Option ClientAddrInfo) : State :=
  { s.setSession s.nSessions { e with init := .router, clientAddrInfop := info } with
    table := s.table.insert e.csid s.nSessions, nSessions := s.nSessions + 1 }

/-- The initializer's deferred teardown, under the lock: `close(entry.natConnSendCh)` and
`delete(s.table, csid)`. -/
def teardown (s : State) (k : ℕ) : State :=
  let e := s.sessions k
  let pc : InitPc := if e.sendChClean then .exited else .drain
  { s.setSession k { e with chCloses := e.chCloses + 1, init := pc } with table := s.table.erase e.csid }

section Fields

variable {s : State} {e : Session} {info : Option ClientAddrInfo}

@[simp] theorem insertSession_table : (s.insertSession e info).table = s.table.insert e.csid s.nSessions :=
  rfl

@[simp] theorem insertSession_nSessions : (s.insertSession e info).nSessions = s.nSessions + 1 := rfl

@[simp] theorem insertSession_sessions : (s.insertSession e info).sessions =
    Function.update s.sessions s.nSessions { e with init := .router, clientAddrInfop := info } := rfl

@[simp] theorem insertSession_crash : (s.insertSession e info).crash = s.crash := rfl

end Fields

end State

/-- The part of an iteration under the lock, for a packet `p` unpacked for an entry: `k` is the
entry's index when the table had it, and `none` for the new `entry` of the iteration. -/
def dispatch (cfg : Config) (s : State) (p : ℕ) (k : Option ℕ) (e : Session) (addr : ℕ)
    (cmsg : List UInt8) (parsePktinfoOk : Bool) : State :=
  match updateClientAddrInfo e addr cmsg parsePktinfoOk, k with
  | .error e, some k => (s.setSession k e).putQueuedPacket p
  | .error _, none => s.putQueuedPacket p
  | .ok (e, _), some k => (s.setSession k e).send cfg k p
  | .ok (e, info), none => (s.insertSession e info).send cfg s.nSessions p

/-- The ingress loop's buffer `p` after the read of a datagram into it and, when `UnpackInPlace`
is called (a table hit or a successful `NewUnpacker`), its unpacking. -/
def State.readInto (s : State) (p : ℕ) (csid : UInt64) (addr : ℕ) (cmsg : List UInt8)
    (newUnpackerOk : Bool) (length : ℕ) : State :=
  let unpacked := (s.table.find csid).isSome || newUnpackerOk
  { s with heap := Function.update s.heap p ((s.heap p).receive csid addr cmsg unpacked length) }

/-- One iteration of `recvFromServerConnGeneric`, `pick` being the buffer `getQueuedPacket`
returns. A received source address is never the zero `netip.AddrPort`. -/
def recvFromServerConn (cfg : Config) (s : State) (pick : ℕ) : Recv → Option State
  | .deadlineExceeded =>
    let p := (s.getQueuedPacket pick).1
    let s := (s.getQueuedPacket pick).2
    if s.deadlineExceeded serverConn then some { s.putQueuedPacket p with ingressRunning := false }
    else none
  | .error => some ((s.getQueuedPacket pick).2.putQueuedPacket (s.getQueuedPacket pick).1)
  | .datagram csid addr cmsg length newUnpackerOk unpackOk parsePktinfoOk =>
    if addr = 0 ∨ s.stop.holdsLock then none else
    let p := (s.getQueuedPacket pick).1
    let s := (s.getQueuedPacket pick).2.readInto p csid addr cmsg newUnpackerOk length
    match s.table.find csid with
    | some k =>
      if unpackOk then some (dispatch cfg s p (some k) (s.sessions k) addr cmsg parsePktinfoOk)
      else some (s.putQueuedPacket p)
    | none =>
      if newUnpackerOk ∧ unpackOk then
        some (dispatch cfg s p none (Session.fresh csid) addr cmsg parsePktinfoOk)
      else some (s.putQueuedPacket p)

/-- One step of session `k`'s initializer goroutine, `ok` being the outcome of the call it
makes. -/
def initStep (cfg : Config) (s : State) (k : ℕ) (ok : Bool) : Option State :=
  let e := s.sessions k
  match e.init with
  | .router =>
    if ok then some { s.setSession k { e with init := .newSession } with wg := s.wg + 1 }
    else some (s.setSession k { e with init := .teardown })
  | .newSession => some (s.setSession k { e with init := if ok then .newPacker else .wgDone })
  | .newPacker => some (s.setSession k { e with init := if ok then .listen else .wgDone })
  | .listen =>
    if ok then
      some { s.setSession k { e with init := .setDeadline, natConn := some s.nextSock } with
        nextSock := s.nextSock + 1 }
    else some (s.setSession k { e with init := .wgDone })
  | .setDeadline =>
    match e.natConn with
    | some n =>
      if ok then some ((s.setReadDeadline n (s.clock + cfg.natTimeout)).setSession k
        { e with init := .swap })
      else some ((s.close n).setSession k { e with init := .wgDone })
    | none => none
  | .swap =>
    match e.natConn with
    | some n =>
      let e' := { e with state := some n, swaps := e.swaps ++ [(Swapper.initializer, e.state)] }
      if e.state = none then some (s.setSession k { e' with init := .spawn })
      else some ((s.close n).setSession k { e' with init := .wgDone })
    | none => none
  | .spawn =>
    match e.clientAddrInfop with
    | some _ =>
      some { s.setSession k { e with init := .downlink, sendChClean := true, uplink := .recv } with
        wg := s.wg + 1 }
    | none => some { s with crash := some .nilClientAddrInfo }
  | .downlink => none
  | .wgDone => some { s.setSession k { e with init := .teardown } with wg := s.wg - 1 }
  | .teardown =>
    if s.stop.holdsLock then none
    else if e.chCloses ≠ 0 then some { s with crash := some .closeOfClosedChannel }
    else some (s.teardown k)
  | .drain =>
    match e.natConnSendCh with
    | p :: rest => some ((s.setSession k { e with natConnSendCh := rest }).putQueuedPacket p)
    | [] => some (s.setSession k { e with init := .exited })
  | .exited => none

/-- One read of session `k`'s downlink worker on `natConn`: a datagram when `arrives`, otherwise
the read that fails at the deadline and ends the worker. -/
def downlinkStep (s : State) (k : ℕ) (arrives : Bool) : Option State :=
  let e := s.sessions k
  match e.init, e.natConn with
  | .downlink, some n =>
    if s.deadlineExceeded n then
      if arrives then none else some (s.setSession k { e with init := .wgDone })
    else if arrives then some s else none
  | _, _ => none

/-- One step of session `k`'s uplink worker `relayServerConnToNatConnGeneric` and its
goroutine, `ok` being the outcome of `PackInPlace`. -/
def uplinkStep (cfg : Config) (s : State) (k : ℕ) (ok : Bool) : Option State :=
  let e := s.sessions k
  match e.uplink, e.natConn with
  | .recv, some n =>
    match e.natConnSendCh with
    | p :: rest => some (s.setSession k { e with natConnSendCh := rest, uplink := .pack p })
    | [] =>
      if e.chCloses ≠ 0 then
        some { (s.close n).setSession k { e with uplink := .exited } with wg := s.wg - 1 }
      else none
  | .pack p, some n =>
    if ok then
      some ((s.setReadDeadline n (s.clock + cfg.natTimeout)).setSession k { e with uplink := .put p })
    else some ((s.setSession k { e with uplink := .recv }).putQueuedPacket p)
  | .put p, _ => some ((s.setSession k { e with uplink := .account p }).putQueuedPacket p)
  | .account p, _ =>
    some (s.setSession k { e with uplink := .recv, packetsSent := e.packetsSent + 1,
                                  payloadBytesSent := e.payloadBytesSent + (s.heap p).length })
  | _, _ => none

/-- `Stop`, outside its loop over the table. -/
def stopStep (s : State) : Option State :=
  match s.stop with
  | .idle => some { s.setReadDeadline serverConn s.clock with stop := .waitIngress, stopNow := s.clock }
  | .waitIngress => if s.ingressRunning then none else some { s with stop := .swapping s.table.keys }
  | .swapping [] => some { s with stop := .waitWorkers }
  | .swapping (_ :: _) => none
  | .waitWorkers => if s.wg = 0 then some { s.close serverConn with stop := .returned } else none
  | .returned => none

/-- The body of `Stop`'s loop for the table key `csid`. -/
def stopSwap (s : State) (csid : UInt64) : Option State :=
  match s.stop with
  | .swapping keys =>
    if csid ∈ keys then
      let s' := { s with stop := .swapping (keys.erase csid) }
      match s.table.find csid with
      | some k =>
        let e := s.sessions k
        let s' := s'.setSession k
          { e with state := some serverConn, swaps := e.swaps ++ [(Swapper.stop, e.state)] }
        match e.state with
        | some n => some (s'.setReadDeadline n s.stopNow)
        | none => some s'
      | none => some s'
    else none
  | _ => none

/-- A step of one goroutine of the relay, or of the clock. -/
inductive Action
  | tick
  | recv (pick : ℕ) (r : Recv)
  | init (k : ℕ) (ok : Bool)
  | uplink (k : ℕ) (ok : Bool)
  | downlink (k : ℕ) (arrives : Bool)
  | stop
  | stopSwap (csid : UInt64)
  deriving DecidableEq, Repr

def step (cfg : Config) (s : State) : Action → Option State
  | .tick => some { s with clock := s.clock + 1 }
  | .recv pick r => if s.ingressRunning then recvFromServerConn cfg s pick r else none
  | .init k ok => initStep cfg s k ok
  | .uplink k ok => uplinkStep cfg s k ok
  | .downlink k arrives => downlinkStep s k arrives
  | .stop => stopStep s
  | .stopSwap csid => stopSwap s csid

def run (cfg : Config) : State → List Action → Option State
  | s, [] => some s
  | s, a :: as => (step cfg s a).bind (run cfg · as)

theorem run_append (cfg : Config) (s : State) (as bs : List Action) :
    run cfg s (as ++ bs) = (run cfg s as).bind (run cfg · bs) := by
  induction as generalizing s with
  | nil => rfl
  | cons a as ih =>
    simp only [List.cons_append, Relay.run]
    cases step cfg s a with
    | none => rfl
    | some s₁ => exact ih s₁

/-- The states of every interleaving of the relay's goroutines after `Start`. -/
inductive Reachable (cfg : Config) : State → Prop
  | init : Reachable cfg init
  | step {s s' : State} (a : Action) : Reachable cfg s → step cfg s a = some s' → Reachable cfg s'

theorem Reachable.run {cfg : Config} {s s' : State} {as : List Action} (hs : Reachable cfg s)
    (h : run cfg s as = some s') : Reachable cfg s' := by
  induction as generalizing s with
  | nil => cases h; exact hs
  | cons a as ih =>
    simp only [Relay.run, Option.bind_eq_some] at h
    obtain ⟨s₁, h₁, h₂⟩ := h
    exact ih (hs.step a h₁) h₂

end Relay
end ShadowsocksGo
