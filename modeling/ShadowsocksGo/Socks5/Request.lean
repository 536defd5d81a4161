import ShadowsocksGo.Socks5.MethodSelection
import ShadowsocksGo.Socks5.PrefixedReader

/-! # The request

`serverHandleRequest` and `clientDoRequest`. The package's address code is not modelled:
`AddrFns` holds what the two call of it, and `AppendFromReader` is a `ReadProg` of `Read` calls. -/

namespace ShadowsocksGo
namespace Socks5

def cmdConnect : UInt8 := 1
def cmdUDPAssociate : UInt8 := 3
def replySucceeded : UInt8 := 0
def replyCommandNotSupported : UInt8 := 7

/-- A function that takes an `io.Reader` and does not keep it: it calls `Read` with buffers of
the lengths it chooses, each time on what the calls before returned, and then returns. -/
inductive ReadProg (α : Type)
  | done (a : α)
  | read (len : ℕ) (k : Bytes → Option Error → ReadProg α)

def ReadProg.run {σ α : Type} (R : Reader σ) : ReadProg α → σ → σ × α
  | .done a, s => (s, a)
  | .read len k, s => (k (R.read s len).2.1 (R.read s len).2.2).run R (R.read s len).1

/-- The errors of the request and of the client's checks, besides the handshake's `Error`s;
`ε` holds those of the address code. -/
inductive HandshakeError (ε : Type)
  | socks (e : Error)
  | unsupportedAuthMethod (m : UInt8)
  | reply (r : UInt8)
  | unsupportedCommand (c : UInt8)
  | udpAssociateDone
  | acceptRequiresTCPConn
  | addr (e : ε)
  deriving DecidableEq, Repr

/-- What a step after the authentication leaves behind: the peer and the Go return values. Its
callers drop the scratch buffer. -/
structure Outcome (ε α : Type) where
  rw : Conn
  val : α
  err : Option (HandshakeError ε)

/-- The functions of the package's address code that the request calls. -/
structure AddrFns (ε Addr AddrPort : Type) where
  /-- `MaxAddrLen`. -/
  maxAddrLen : ℕ
  /-- `IPv4UnspecifiedAddr`, an array of `IPv4AddrLen` bytes. -/
  ipv4UnspecifiedAddr : Bytes
  /-- `AppendFromReader(b[3:3], r)`: the bytes `sa` it appends, and its error. -/
  appendFromReader : ReadProg (Bytes × Option ε)
  /-- `ConnAddrFromSlice(sa)`, without the length it also returns. -/
  connAddrFromSlice : Bytes → Addr × Option ε
  /-- The bytes `WriteAddrFromConnAddr(b, addr)` puts at the front of `b`; their number is the
  `n` it returns. -/
  writeAddrFromConnAddr : Addr → Bytes
  /-- The bytes `AppendAddrFromAddrPort(b, addrPort)` appends to `b`. -/
  appendAddrFromAddrPort : AddrPort → Bytes

/-- What the address code does with the addresses it encodes: writes and reads back the same
bytes, within `MaxAddrLen`, and decodes them to the address. -/
structure AddrFns.Codec {ε Addr AddrPort : Type} (A : AddrFns ε Addr AddrPort) : Prop where
  two_le : ∀ a, 2 ≤ (A.writeAddrFromConnAddr a).length
  le_max : ∀ a, (A.writeAddrFromConnAddr a).length ≤ A.maxAddrLen
  read : ∀ a rest out w, A.appendFromReader.run (prefixedReader connReader)
      ⟨(A.writeAddrFromConnAddr a).take 2, ⟨(A.writeAddrFromConnAddr a).drop 2 ++ rest, out, w⟩⟩ =
    (⟨[], ⟨rest, out, w⟩⟩, A.writeAddrFromConnAddr a, none)
  decode : ∀ a, A.connAddrFromSlice (A.writeAddrFromConnAddr a) = (a, none)
  unspecified : ∃ a, A.writeAddrFromConnAddr a = A.ipv4UnspecifiedAddr
  localAddr : ∀ ap, ∃ a, A.writeAddrFromConnAddr a = A.appendAddrFromAddrPort ap

theorem AddrFns.Codec.take_two_length {ε Addr AddrPort : Type} {A : AddrFns ε Addr AddrPort}
    (hA : A.Codec) (a : Addr) : ((A.writeAddrFromConnAddr a).take 2).length = 2 := by
  simp [hA.two_le a]

theorem input_split_two {rw : Conn} {h e rest : Bytes} (hin : rw.input = h ++ e ++ rest) :
    rw.input = h ++ e.take 2 ++ (e.drop 2 ++ rest) := by
  rw [hin, List.append_assoc _ (List.take 2 _), ← List.append_assoc (List.take 2 _),
    List.take_append_drop, List.append_assoc]

def oneByteAddrFns (maxAddrLen : ℕ) : AddrFns Error UInt8 UInt8 where
  maxAddrLen := maxAddrLen
  ipv4UnspecifiedAddr := [1, 0]
  appendFromReader := .read 2 fun bs e => .done (bs, e)
  connAddrFromSlice
    | [1, a] => (a, none)
    | _ => (0, some .unexpectedEOF)
  writeAddrFromConnAddr a := [1, a]
  appendAddrFromAddrPort ap := [1, ap]

theorem oneByteAddrFns_codec {n : ℕ} (hn : 2 ≤ n) : (oneByteAddrFns n).Codec where
  two_le _ := le_rfl
  le_max _ := hn
  read _ _ _ _ := rfl
  decode _ := rfl
  unspecified := ⟨0, rfl⟩
  localAddr ap := ⟨ap, rfl⟩

def Conn.ReadTo (rw rw' : Conn) : Prop :=
  ∃ xs, rw.input = xs ++ rw'.input ∧ rw'.output = rw.output ∧ rw'.writeOk = rw.writeOk

theorem Conn.ReadTo.refl (rw : Conn) : rw.ReadTo rw := ⟨[], rfl, rfl, rfl⟩

theorem Conn.ReadTo.trans {rw₁ rw₂ rw₃ : Conn} (h₁ : rw₁.ReadTo rw₂) (h₂ : rw₂.ReadTo rw₃) :
    rw₁.ReadTo rw₃ := by
  obtain ⟨xs, hi, ho, hw⟩ := h₁
  obtain ⟨ys, hi', ho', hw'⟩ := h₂
  exact ⟨xs ++ ys, by rw [hi, hi', List.append_assoc], ho'.trans ho, hw'.trans hw⟩

theorem Conn.ReadTo.output {rw rw' : Conn} (h : rw.ReadTo rw') : rw'.output = rw.output :=
  let ⟨_, _, ho, _⟩ := h; ho

theorem Conn.ReadTo.writeOk {rw rw' : Conn} (h : rw.ReadTo rw') : rw'.writeOk = rw.writeOk :=
  let ⟨_, _, _, hw⟩ := h; hw

theorem connReader_read_readTo (rw : Conn) (len : ℕ) : rw.ReadTo (connReader.read rw len).1 := by
  simp only [connReader]
  split_ifs
  · exact Conn.ReadTo.refl rw
  · exact ⟨rw.input.take len, (List.take_append_drop len rw.input).symm, rfl, rfl⟩

theorem ReadProg.run_prefixed_readTo {α : Type} (prog : ReadProg α) (p : Bytes) (rw : Conn) :
    rw.ReadTo (prog.run (prefixedReader connReader) ⟨p, rw⟩).1.r := by
  induction prog generalizing p rw with
  | done a => exact Conn.ReadTo.refl rw
  | read len k ih =>
    simp only [ReadProg.run]
    by_cases hp : p = []
    · subst hp
      rw [prefixedReader_read_nil]
      exact (connReader_read_readTo rw len).trans (ih _ _ _ _)
    · rw [prefixedReader_read_of_ne_nil _ hp]
      exact ih _ _ _ _

section Request

variable {ε Addr AddrPort : Type} (A : AddrFns ε Addr AddrPort)

/-- `replyWithStatus(w, b, status)`: `VER`, `REP = status`, `RSV` and `IPv4UnspecifiedAddr` in
`b[:3+IPv4AddrLen]`, written. -/
def replyWithStatus (rw : Conn) (b : Bytes) (status : UInt8) :
    Except Panic (Conn × Option Error) := do
  let replyLen := 3 + A.ipv4UnspecifiedAddr.length
  let reply ← slice b 0 replyLen
  let reply ← setIndex reply 0 version
  let reply ← setIndex reply 1 status
  let reply ← setIndex reply 2 0
  write rw (overwrite reply 3 A.ipv4UnspecifiedAddr) 0 replyLen

/-- `AppendFromReader(b[3:3], newPrefixedReader(b[3:5], rw))`: the peer after it, `sa` and the
error. -/
def readSocksAddr (rw : Conn) (b : Bytes) : Except Panic (Conn × Bytes × Option ε) := do
  let pfx ← slice b 3 5
  let (pr, sa, e) := A.appendFromReader.run (prefixedReader connReader) (newPrefixedReader pfx rw)
  return (pr.r, sa, e)

/-- The `switch` of `serverHandleRequest` on `cmd = b[1]`; `localAddrPort` is `none` when `rw` is
not a `*net.TCPConn`. -/
def serverHandleCommand (localAddrPort : Option AddrPort) (rw : Conn) (b : Bytes) (cmd : UInt8)
    (enableTCP enableUDP : Bool) : Except Panic (Conn × Option (HandshakeError ε)) := do
  if cmd = cmdConnect ∧ enableTCP then
    let (rw, e) ← replyWithStatus A rw b replySucceeded
    return (rw, e.map .socks)
  else if cmd = cmdUDPAssociate ∧ enableUDP then
    match localAddrPort with
    | none => return (rw, some .acceptRequiresTCPConn)
    | some localAddrPort =>
      let b ← setIndex b 1 replySucceeded
      let reply := (← slice b 0 3) ++ A.appendAddrFromAddrPort localAddrPort
      let (rw, e) ← write rw reply 0 reply.length
      if let some e := e then return (rw, some (.socks e))
      -- Hold the connection open.
      let (rw, _, e) := connReader.read rw 1
      if let some e := e then
        if e ≠ .eof then return (rw, some (.socks e))
      return (rw, some .udpAssociateDone)
  else
    let (rw, _) ← replyWithStatus A rw b replyCommandNotSupported
    return (rw, some (.unsupportedCommand cmd))

section Answer

variable {rw : Conn} {b : Bytes}

theorem replyWithStatus_eq (rw : Conn) (st : UInt8)
    (hb : 3 + A.ipv4UnspecifiedAddr.length ≤ b.length) :
    replyWithStatus A rw b st = .ok (if rw.writeOk then
      ({ rw with output := rw.output ++ [version, st, 0] ++ A.ipv4UnspecifiedAddr }, none)
      else (rw, some .io)) := by
  obtain ⟨c₀, c₁, c₂, t, rfl⟩ : ∃ c₀ c₁ c₂ t, b = c₀ :: c₁ :: c₂ :: t := by
    match b, (by omega : 3 ≤ b.length) with
    | c₀ :: c₁ :: c₂ :: t, _ => exact ⟨c₀, c₁, c₂, t, rfl⟩
  simp only [List.length_cons] at hb
  have h₀ : slice (c₀ :: c₁ :: c₂ :: t) 0 (3 + A.ipv4UnspecifiedAddr.length) =
      .ok (c₀ :: c₁ :: c₂ :: t.take A.ipv4UnspecifiedAddr.length) := by
    rw [slice_of_le (Nat.zero_le _) (by simp only [List.length_cons]; omega), List.drop_zero,
      show 3 + A.ipv4UnspecifiedAddr.length - 0 = A.ipv4UnspecifiedAddr.length + 1 + 1 + 1 by omega]
    rfl
  have hw : overwrite (version :: st :: 0 :: t.take A.ipv4UnspecifiedAddr.length) 3
      A.ipv4UnspecifiedAddr = [version, st, 0] ++ A.ipv4UnspecifiedAddr := by
    simp [overwrite, show A.ipv4UnspecifiedAddr.length ≤ t.length by omega]; omega
  simp only [replyWithStatus, h₀, bind, Except.bind, setIndex_of_lt (show 0 < (c₀ :: c₁ :: c₂ ::
    t.take A.ipv4UnspecifiedAddr.length).length by simp), List.set_cons_zero, List.set_cons_succ,
    setIndex_of_lt (show 1 < (version :: c₁ :: c₂ :: t.take A.ipv4UnspecifiedAddr.length).length
      by simp), setIndex_of_lt
    (show 2 < (version :: st :: c₂ :: t.take A.ipv4UnspecifiedAddr.length).length by simp), hw]
  rw [write_of_le (Nat.zero_le _) (by simp; omega), List.drop_zero, Nat.sub_zero,
    List.take_of_length_le (by simp; omega), List.append_assoc]

theorem serverHandleCommand_eq (lap : Option AddrPort) (rw : Conn) {c rsv : UInt8} {t : Bytes}
    (cmd : UInt8) (tcp udp : Bool) (hb : A.ipv4UnspecifiedAddr.length ≤ t.length) :
    serverHandleCommand A lap rw (version :: c :: rsv :: t) cmd tcp udp = .ok
      (if cmd = cmdConnect ∧ tcp = true then
        if rw.writeOk then ({ rw with output := rw.output ++ [version, replySucceeded, 0] ++
          A.ipv4UnspecifiedAddr }, none) else (rw, some (.socks .io))
      else if cmd = cmdUDPAssociate ∧ udp = true then
        (match lap with
        | none => (rw, some .acceptRequiresTCPConn)
        | some ap => if rw.writeOk then
            ({ rw with
                input := rw.input.drop 1
                output := rw.output ++ [version, replySucceeded, rsv] ++
                  A.appendAddrFromAddrPort ap }, some .udpAssociateDone)
          else (rw, some (.socks .io)))
      else ((if rw.writeOk then { rw with output := rw.output ++
          [version, replyCommandNotSupported, 0] ++ A.ipv4UnspecifiedAddr } else rw),
        some (.unsupportedCommand cmd))) := by
  have hr := fun st => replyWithStatus_eq A rw (b := version :: c :: rsv :: t) st
    (by simp; omega)
  unfold serverHandleCommand
  by_cases h₁ : cmd = cmdConnect ∧ tcp = true
  · simp only [if_pos h₁, hr, bind, Except.bind, pure, Except.pure]
    cases rw.writeOk <;> rfl
  by_cases h₂ : cmd = cmdUDPAssociate ∧ udp = true
  · simp only [if_neg h₁, if_pos h₂]
    cases lap with
    | none => rfl
    | some ap =>
      cases hw : rw.writeOk
      · simp [setIndex, slice, write, hw, bind, Except.bind, pure, Except.pure]
      · cases hi : rw.input <;>
          simp [setIndex, slice, write, connReader, hw, hi, bind, Except.bind, pure, Except.pure]
  · simp only [if_neg h₁, if_neg h₂, hr, bind, Except.bind, pure, Except.pure]
    cases rw.writeOk <;> rfl

theorem serverHandleCommand_connect (lap : Option AddrPort) (rw : Conn) (hw : rw.writeOk = true)
    {c rsv : UInt8} {t : Bytes} (tcp udp : Bool) (hb : A.ipv4UnspecifiedAddr.length ≤ t.length) :
    serverHandleCommand A lap rw (version :: c :: rsv :: t) cmdConnect tcp udp = .ok
      ({ rw with output := rw.output ++
          [version, if tcp then replySucceeded else replyCommandNotSupported, 0] ++
          A.ipv4UnspecifiedAddr }, if tcp then none else some (.unsupportedCommand cmdConnect)) := by
  rw [serverHandleCommand_eq A lap rw cmdConnect tcp udp hb]
  cases tcp <;> simp [hw, show cmdConnect ≠ cmdUDPAssociate by decide]

theorem serverHandleCommand_isOk (lap : Option AddrPort) (rw : Conn) (cmd : UInt8) (tcp udp : Bool)
    (hb : 3 + A.ipv4UnspecifiedAddr.length ≤ b.length) :
    ∃ v, serverHandleCommand A lap rw b cmd tcp udp = .ok v := by
  have hr := fun st => replyWithStatus_eq A rw (b := b) st hb
  unfold serverHandleCommand
  by_cases h₁ : cmd = cmdConnect ∧ tcp = true
  · simp only [if_pos h₁, hr, bind, Except.bind]
    exact ⟨_, rfl⟩
  by_cases h₂ : cmd = cmdUDPAssociate ∧ udp = true
  · simp only [if_neg h₁, if_pos h₂]
    cases lap with
    | none => exact ⟨_, rfl⟩
    | some ap =>
      simp only [setIndex_of_lt (show 1 < b.length by omega), bind, Except.bind,
        slice_of_le (show 0 ≤ 3 by omega) (show 3 ≤ (b.set 1 replySucceeded).length by simp; omega),
        write_of_le (Nat.zero_le _) le_rfl]
      cases rw.writeOk
      · exact ⟨_, rfl⟩
      · simp only [if_true, pure, Except.pure]
        split
        · split_ifs <;> exact ⟨_, rfl⟩
        · exact ⟨_, rfl⟩
  · simp only [if_neg h₁, if_neg h₂, hr, bind, Except.bind]
    exact ⟨_, rfl⟩

end Answer

-- `conn.Addr{}`, returned with the errors, is `default`.
variable [Inhabited Addr]

/-- `serverHandleRequest`: `len(b)` must be at least `3+MaxAddrLen`. -/
def serverHandleRequest (localAddrPort : Option AddrPort) (rw : Conn) (b : Bytes)
    (enableTCP enableUDP : Bool) : Except Panic (Outcome ε Addr) := do
  if b.length < 3 + A.maxAddrLen then throw .bufferTooSmall
  let (rw, b, e) ← readFull rw b 0 5
  if let some e := e then return ⟨rw, default, some (.socks e)⟩
  let ver ← index b 0
  if ver ≠ version then return ⟨rw, default, some (.socks (.unsupportedVersion ver))⟩
  let (rw, sa, e) ← readSocksAddr A rw b
  if let some e := e then return ⟨rw, default, some (.addr e)⟩
  let (addr, e) := A.connAddrFromSlice sa
  if let some e := e then return ⟨rw, default, some (.addr e)⟩
  let cmd ← index b 1
  let (rw, e) ← serverHandleCommand A localAddrPort rw b cmd enableTCP enableUDP
  return ⟨rw, addr, e⟩

/-- The second half of `clientDoRequest`: read `VER`, `REP`, `RSV`, `ATYP` and one more byte into
`b`, check `VER` and `REP`, then read the bound address. -/
def clientReadReply (rw : Conn) (b : Bytes) : Except Panic (Outcome ε Addr) := do
  let (rw, b, e) ← readFull rw b 0 5
  if let some e := e then return ⟨rw, default, some (.socks e)⟩
  let ver ← index b 0
  if ver ≠ version then return ⟨rw, default, some (.socks (.unsupportedVersion ver))⟩
  let rep ← index b 1
  if rep ≠ replySucceeded then return ⟨rw, default, some (.reply rep)⟩
  let (rw, sa, e) ← readSocksAddr A rw b
  if let some e := e then return ⟨rw, default, some (.addr e)⟩
  let (addr, e) := A.connAddrFromSlice sa
  return ⟨rw, addr, e.map .addr⟩

/-- `clientDoRequest`: `len(b)` must be at least `3+MaxAddrLen`. An address longer than `b[3:]`
would be written past its end. -/
def clientDoRequest (rw : Conn) (b : Bytes) (command : UInt8) (targetAddr : Addr) :
    Except Panic (Outcome ε Addr) := do
  if b.length < 3 + A.maxAddrLen then throw .bufferTooSmall
  let b ← setIndex b 0 version
  let b ← setIndex b 1 command
  let b ← setIndex b 2 0
  let sa := A.writeAddrFromConnAddr targetAddr
  if b.length < 3 + sa.length then throw .outOfRange
  let b := overwrite b 3 sa
  let (rw, e) ← write rw b 0 (3 + sa.length)
  if let some e := e then return ⟨rw, default, some (.socks e)⟩
  clientReadReply A rw b

section Server

variable {lap : Option AddrPort} {rw : Conn} {b : Bytes} {tcp udp : Bool}

theorem serverHandleRequest_of_short (hb : 3 + A.maxAddrLen ≤ b.length) (h2 : 2 ≤ A.maxAddrLen)
    (hin : rw.input.length < 5) :
    serverHandleRequest A lap rw b tcp udp = .ok ⟨{ rw with input := [] }, default,
      some (.socks (if rw.input = [] then .eof else .unexpectedEOF))⟩ := by
  have h₁ : readFull rw b 0 5 = .ok ({ rw with input := [] }, overwrite b 0 rw.input,
      some (if rw.input = [] then .eof else .unexpectedEOF)) := by
    simp only [readFull, Nat.zero_le, show 5 ≤ b.length by omega, and_self, if_true, Nat.sub_zero,
      List.take_of_length_le hin.le, List.drop_eq_nil_of_le hin.le, hin.ne, if_false]
    split_ifs <;> rfl
  rw [serverHandleRequest, if_neg (by omega)]
  simp [h₁, bind, Except.bind, pure, Except.pure]

theorem serverHandleRequest_of_header {v cmd rsv : UInt8} {p more : Bytes}
    (hb : 3 + A.maxAddrLen ≤ b.length) (h2 : 2 ≤ A.maxAddrLen) (hp : p.length = 2)
    (hin : rw.input = [v, cmd, rsv] ++ p ++ more) :
    serverHandleRequest A lap rw b tcp udp =
      if v ≠ version then
        .ok ⟨{ rw with input := more }, default, some (.socks (.unsupportedVersion v))⟩
      else
        match A.appendFromReader.run (prefixedReader connReader) ⟨p, { rw with input := more }⟩ with
        | (pr, _, some e) => .ok ⟨pr.r, default, some (.addr e)⟩
        | (pr, sa, none) =>
          match A.connAddrFromSlice sa with
          | (_, some e) => .ok ⟨pr.r, default, some (.addr e)⟩
          | (addr, none) =>
            (serverHandleCommand A lap pr.r (version :: cmd :: rsv :: (p ++ b.drop 5)) cmd tcp
              udp).map fun q => ⟨q.1, addr, q.2⟩ := by
  have h₁ : readFull rw b 0 5 =
      .ok ({ rw with input := more }, v :: cmd :: rsv :: (p ++ b.drop 5), none) := by
    rw [readFull_of_eq (by omega) (Nat.zero_le _) (by simp; omega) hin, overwrite_zero]
    simp [hp]
  have hpfx : slice (version :: cmd :: rsv :: (p ++ b.drop 5)) 3 5 = .ok p := by
    rw [slice_of_le (by omega) (by simp; omega)]
    simp [hp]
  rw [serverHandleRequest, if_neg (by omega)]
  simp only [h₁, bind, Except.bind, pure, Except.pure,
    show index (v :: cmd :: rsv :: (p ++ b.drop 5)) 0 = .ok v from rfl]
  by_cases hv : v = version
  · subst hv
    simp only [ne_eq, not_true_eq_false, if_false, readSocksAddr, hpfx, newPrefixedReader, bind,
      Except.bind, pure, Except.pure,
      show index (version :: cmd :: rsv :: (p ++ b.drop 5)) 1 = .ok cmd from rfl]
    rcases A.appendFromReader.run (prefixedReader connReader) ⟨p, { rw with input := more }⟩ with
      ⟨pr, sa, _ | e⟩
    · rcases hc : A.connAddrFromSlice sa with ⟨addr, _ | e⟩
      · simp only [hc]
        rcases serverHandleCommand A lap pr.r (version :: cmd :: rsv :: (p ++ b.drop 5)) cmd tcp
          udp with _ | ⟨rw', e⟩ <;> rfl
      · simp only [hc]
    · rfl
  · simp [hv]

theorem serverHandleRequest_ne_error (hb : 3 + A.maxAddrLen ≤ b.length) (h2 : 2 ≤ A.maxAddrLen)
    (h4 : A.ipv4UnspecifiedAddr.length ≤ A.maxAddrLen) (p : Panic) :
    serverHandleRequest A lap rw b tcp udp ≠ .error p := by
  by_cases hs : rw.input.length < 5
  · rw [serverHandleRequest_of_short A hb h2 hs]
    exact Except.noConfusion
  obtain ⟨v, cmd, rsv, a₀, a₁, more, hin⟩ :
      ∃ v cmd rsv a₀ a₁ more, rw.input = [v, cmd, rsv] ++ [a₀, a₁] ++ more := by
    match rw.input, (by omega : 5 ≤ rw.input.length) with
    | v :: cmd :: rsv :: a₀ :: a₁ :: more, _ => exact ⟨v, cmd, rsv, a₀, a₁, more, rfl⟩
  rw [serverHandleRequest_of_header A hb h2 (show [a₀, a₁].length = 2 from rfl) hin]
  split_ifs
  · exact Except.noConfusion
  split
  · exact Except.noConfusion
  split
  · exact Except.noConfusion
  obtain ⟨q, hq⟩ := serverHandleCommand_isOk A lap _ (b := version :: cmd :: rsv ::
    ([a₀, a₁] ++ b.drop 5)) cmd tcp udp (by simp; omega)
  rw [hq]
  exact Except.noConfusion

theorem serverHandleRequest_switch (hb : 3 + A.maxAddrLen ≤ b.length) (h2 : 2 ≤ A.maxAddrLen)
    {r : Outcome ε Addr} (h : serverHandleRequest A lap rw b tcp udp = .ok r)
    (hr : r.rw.output ≠ rw.output ∨ r.err = none) :
    ∃ cmd rsv p more pr sa, rw.input = [version, cmd, rsv] ++ p ++ more ∧ p.length = 2 ∧
      A.appendFromReader.run (prefixedReader connReader) ⟨p, { rw with input := more }⟩ =
        (pr, sa, none) ∧ A.connAddrFromSlice sa = (r.val, none) ∧
      serverHandleCommand A lap pr.r (version :: cmd :: rsv :: (p ++ b.drop 5)) cmd tcp udp =
        .ok (r.rw, r.err) := by
  by_cases hs : rw.input.length < 5
  · rw [serverHandleRequest_of_short A hb h2 hs] at h
    cases h
    simp at hr
  obtain ⟨v, cmd, rsv, a₀, a₁, more, hin⟩ : ∃ v cmd rsv a₀ a₁ more,
      rw.input = [v, cmd, rsv] ++ [a₀, a₁] ++ more := by
    match rw.input, (by omega : 5 ≤ rw.input.length) with
    | v :: cmd :: rsv :: a₀ :: a₁ :: more, _ => exact ⟨v, cmd, rsv, a₀, a₁, more, rfl⟩
  rw [serverHandleRequest_of_header A hb h2 (show [a₀, a₁].length = 2 from rfl) hin] at h
  by_cases hv : v = version
  · subst hv
    have hf := A.appendFromReader.run_prefixed_readTo [a₀, a₁] { rw with input := more }
    rcases hrun : A.appendFromReader.run (prefixedReader connReader)
      ⟨[a₀, a₁], { rw with input := more }⟩ with ⟨pr, sa, _ | e⟩
    · rcases hc : A.connAddrFromSlice sa with ⟨addr, _ | e⟩
      · simp only [hrun, hc, ne_eq, not_true_eq_false, if_false] at h
        rcases hq : serverHandleCommand A lap pr.r (version :: cmd :: rsv :: ([a₀, a₁] ++
          b.drop 5)) cmd tcp udp with _ | ⟨rw', e⟩ <;> rw [hq] at h <;> cases h
        exact ⟨cmd, rsv, [a₀, a₁], more, pr, sa, hin, rfl, hrun, hc, hq⟩
      · simp only [hrun, hc, ne_eq, not_true_eq_false, if_false, Except.ok.injEq] at h
        subst h
        simp only [hrun] at hf
        simp [hf.output] at hr
    · simp only [hrun, ne_eq, not_true_eq_false, if_false, Except.ok.injEq] at h
      subst h
      simp only [hrun] at hf
      simp [hf.output] at hr
  · simp only [ne_eq, hv, not_false_eq_true, if_true, Except.ok.injEq] at h
    subst h
    simp at hr

theorem serverHandleRequest_gated (lap : Option AddrPort) (rw : Conn) (b : Bytes) (tcp udp : Bool)
    (hb : 3 + A.maxAddrLen ≤ b.length) (h2 : 2 ≤ A.maxAddrLen)
    (h4 : A.ipv4UnspecifiedAddr.length ≤ A.maxAddrLen) {r : Outcome ε Addr}
    (h : serverHandleRequest A lap rw b tcp udp = .ok r) :
    (r.err = none → tcp = true ∧ rw.writeOk = true ∧ ∃ rsv p more pr sa,
      rw.input = [version, cmdConnect, rsv] ++ p ++ more ∧ p.length = 2 ∧
      A.appendFromReader.run (prefixedReader connReader) ⟨p, { rw with input := more }⟩ =
        (pr, sa, none) ∧ A.connAddrFromSlice sa = (r.val, none) ∧
      r.rw = { pr.r with output := rw.output ++ [version, replySucceeded, 0] ++
        A.ipv4UnspecifiedAddr }) ∧
    (∀ rest, r.rw.output = rw.output ++ version :: replySucceeded :: rest →
      rw.input[1]? = some cmdConnect ∧ tcp = true ∨
      rw.input[1]? = some cmdUDPAssociate ∧ udp = true ∧ lap.isSome = true) := by
  have hs := fun hr => serverHandleRequest_switch A hb h2 h hr
  refine ⟨fun he => ?_, fun rest hrep => ?_⟩
  · obtain ⟨cmd, rsv, p, more, pr, sa, hin, hp, hrun, hc, hq⟩ := hs (.inr he)
    have hf := A.appendFromReader.run_prefixed_readTo p { rw with input := more }
    rw [hrun] at hf
    rw [serverHandleCommand_eq A lap pr.r cmd tcp udp (by simp; omega)] at hq
    by_cases h₁ : cmd = cmdConnect ∧ tcp = true
    · obtain ⟨rfl, rfl⟩ := h₁
      cases hw : pr.r.writeOk <;> simp only [hw, and_self, if_true, Except.ok.injEq,
        Prod.mk.injEq, Bool.false_eq_true, if_false] at hq
      · rw [he] at hq; cases hq.2
      · refine ⟨rfl, hf.writeOk ▸ hw, rsv, p, more, pr, sa, hin, hp, hrun, hc, ?_⟩
        rw [← hq.1, hf.output]
        simp [hw]
    · rw [if_neg h₁] at hq
      have hx := congrArg Prod.snd (Except.ok.inj hq)
      rw [he] at hx
      cases lap <;> simp only at hx <;> split_ifs at hx
  · obtain ⟨cmd, rsv, p, more, pr, sa, hin, hp, hrun, hc, hq⟩ :=
      hs (.inl (by rw [hrep]; simp))
    have hf := A.appendFromReader.run_prefixed_readTo p { rw with input := more }
    simp only [hrun] at hf
    have h₁ : rw.input[1]? = some cmd := by simp [hin]
    rw [serverHandleCommand_eq A lap pr.r cmd tcp udp (by simp; omega)] at hq
    by_cases hc₁ : cmd = cmdConnect ∧ tcp = true
    · exact .inl ⟨by rw [h₁, hc₁.1], hc₁.2⟩
    by_cases hc₂ : cmd = cmdUDPAssociate ∧ udp = true
    · cases lap with
      | none =>
        simp only [if_neg hc₁, if_pos hc₂, Except.ok.injEq, Prod.mk.injEq] at hq
        rw [← hq.1, hf.output] at hrep
        simp at hrep
      | some ap => exact .inr ⟨by rw [h₁, hc₂.1], hc₂.2, rfl⟩
    · simp only [if_neg hc₁, if_neg hc₂, Except.ok.injEq, Prod.mk.injEq] at hq
      rw [← hq.1] at hrep
      split_ifs at hrep
      · simp [hf.output, replyCommandNotSupported, replySucceeded] at hrep
      · simp [hf.output] at hrep

/-- The server half returns no error exactly on an enabled `CONNECT` on a writable peer, and every
success reply answered an accepted command. -/
theorem serverHandleRequest_err_eq_none_iff (hb : 3 + A.maxAddrLen ≤ b.length)
    (h2 : 2 ≤ A.maxAddrLen) (h4 : A.ipv4UnspecifiedAddr.length ≤ A.maxAddrLen) {r : Outcome ε Addr}
    (h : serverHandleRequest A lap rw b tcp udp = .ok r) :
    (r.err = none ↔ tcp = true ∧ rw.writeOk = true ∧ ∃ rsv p more pr sa,
      rw.input = [version, cmdConnect, rsv] ++ p ++ more ∧ p.length = 2 ∧
      A.appendFromReader.run (prefixedReader connReader) ⟨p, { rw with input := more }⟩ =
        (pr, sa, none) ∧ A.connAddrFromSlice sa = (r.val, none)) ∧
    (∀ rest, r.rw.output = rw.output ++ version :: replySucceeded :: rest →
      rw.input[1]? = some cmdConnect ∧ tcp = true ∨
      rw.input[1]? = some cmdUDPAssociate ∧ udp = true ∧ lap.isSome = true) := by
  have hg := serverHandleRequest_gated A lap rw b tcp udp hb h2 h4 h
  refine ⟨⟨fun he => ?_, ?_⟩, hg.2⟩
  · obtain ⟨htcp, hw, rsv, p, more, pr, sa, hin, hp, hrun, hc, -⟩ := hg.1 he
    exact ⟨htcp, hw, rsv, p, more, pr, sa, hin, hp, hrun, hc⟩
  · rintro ⟨rfl, hw, rsv, p, more, pr, sa, hin, hp, hrun, hc⟩
    have hf := A.appendFromReader.run_prefixed_readTo p { rw with input := more }
    rw [hrun] at hf
    rw [serverHandleRequest_of_header A hb h2 hp hin] at h
    simp only [ne_eq, not_true_eq_false, if_false, hrun, hc, serverHandleCommand_eq A lap pr.r cmdConnect
      true udp (show A.ipv4UnspecifiedAddr.length ≤ (p ++ b.drop 5).length by simp; omega), and_self,
      if_true, show pr.r.writeOk = true from hf.writeOk ▸ hw, Except.map] at h
    rw [← Except.ok.inj h]

theorem serverHandleRequest_err_eq_none_iff_connect :
    serverHandleRequest (oneByteAddrFns 2) none ⟨[version, cmdConnect, 0, 1, 7], [], true⟩
        (List.replicate 5 0) true false = .ok ⟨⟨[], [version, replySucceeded, 0, 1, 0], true⟩, 7, none⟩ ∧
      ∃ rsv p more, [version, cmdConnect, 0, 1, 7] = [version, cmdConnect, rsv] ++ p ++ more ∧
        p.length = 2 := by
  have h : serverHandleRequest (oneByteAddrFns 2) none ⟨[version, cmdConnect, 0, 1, 7], [], true⟩
      (List.replicate 5 0) true false = .ok ⟨⟨[], [version, replySucceeded, 0, 1, 0], true⟩, 7, none⟩ :=
    rfl
  obtain ⟨-, -, rsv, p, more, -, -, hin, hp, -⟩ :=
    (serverHandleRequest_err_eq_none_iff (oneByteAddrFns 2) (by decide) le_rfl le_rfl h).1.1 rfl
  exact ⟨h, rsv, p, more, hin, hp⟩

/-- What the server half writes, whatever the peer sends: nothing, or one reply to the request's
`CMD`, the `UDP ASSOCIATE` reply keeping the request's `RSV`. -/
theorem serverHandleRequest_reply (hb : 3 + A.maxAddrLen ≤ b.length) (h2 : 2 ≤ A.maxAddrLen)
    (h4 : A.ipv4UnspecifiedAddr.length ≤ A.maxAddrLen) {r : Outcome ε Addr}
    (h : serverHandleRequest A lap rw b tcp udp = .ok r) :
    r.rw.output = rw.output ∨ rw.writeOk = true ∧ ∃ cmd rsv, rw.input.take 3 = [version, cmd, rsv] ∧
      (cmd = cmdConnect ∧ tcp = true ∧
          r.rw.output = rw.output ++ [version, replySucceeded, 0] ++ A.ipv4UnspecifiedAddr ∨
        (∃ ap, cmd = cmdUDPAssociate ∧ udp = true ∧ lap = some ap ∧
          r.rw.output = rw.output ++ [version, replySucceeded, rsv] ++ A.appendAddrFromAddrPort ap) ∨
        ¬(cmd = cmdConnect ∧ tcp = true) ∧ ¬(cmd = cmdUDPAssociate ∧ udp = true) ∧
          r.rw.output = rw.output ++ [version, replyCommandNotSupported, 0] ++
            A.ipv4UnspecifiedAddr) := by
  by_cases ho : r.rw.output = rw.output
  · exact .inl ho
  obtain ⟨cmd, rsv, p, more, pr, sa, hin, hp, hrun, -, hq⟩ := serverHandleRequest_switch A hb h2 h (.inl ho)
  have hf := A.appendFromReader.run_prefixed_readTo p { rw with input := more }
  rw [hrun] at hf
  have hout : pr.r.output = rw.output := hf.output
  rw [serverHandleCommand_eq A lap pr.r cmd tcp udp (by simp; omega)] at hq
  have hq₁ := congrArg Prod.fst (Except.ok.inj hq)
  dsimp only at hq₁
  -- a peer that takes no write sees none
  have hw : pr.r.writeOk = true := by
    by_contra hw
    rw [Bool.not_eq_true] at hw
    apply ho
    rw [← hq₁, ← hout]
    rcases lap with _ | ap <;> simp only [hw, Bool.false_eq_true, if_false] <;> split_ifs <;> rfl
  refine .inr ⟨hf.writeOk.symm.trans hw, cmd, rsv, by simp [hin], ?_⟩
  by_cases h₁ : cmd = cmdConnect ∧ tcp = true
  · exact .inl ⟨h₁.1, h₁.2, by rw [← hq₁]; simp [h₁, hw, hout]⟩
  by_cases h₂ : cmd = cmdUDPAssociate ∧ udp = true
  · rw [if_neg h₁, if_pos h₂] at hq₁
    cases lap with
    | none => exact absurd (hq₁ ▸ hout) ho
    | some ap => exact .inr (.inl ⟨ap, h₂.1, h₂.2, rfl, by rw [← hq₁]; simp [hw, hout]⟩)
  · exact .inr (.inr ⟨h₁, h₂, by rw [← hq₁]; simp [h₁, h₂, hw, hout]⟩)

theorem serverHandleRequest_reply_udpAssociate :
    ∃ r, serverHandleRequest (oneByteAddrFns 2) (some 4)
        ⟨[version, cmdUDPAssociate, 9, 1, 7], [], true⟩ (List.replicate 5 0) false true = .ok r ∧
      r.rw.output = [version, replySucceeded, 9] ++ (oneByteAddrFns 2).appendAddrFromAddrPort 4 := by
  have h : serverHandleRequest (oneByteAddrFns 2) (some 4)
      ⟨[version, cmdUDPAssociate, 9, 1, 7], [], true⟩ (List.replicate 5 0) false true =
      .ok ⟨⟨[], [version, replySucceeded, 9, 1, 4], true⟩, 7, some .udpAssociateDone⟩ := rfl
  refine ⟨_, h, ?_⟩
  rcases serverHandleRequest_reply (oneByteAddrFns 2) (by decide) le_rfl le_rfl h with
    h₀ | ⟨-, cmd, rsv, hin, h₁ | ⟨ap, -, -, hap, ho⟩ | ⟨-, h₃, -⟩⟩
  · cases h₀
  · simp only [List.take, List.cons.injEq] at hin
    exact absurd (hin.2.1.trans h₁.1) (by decide)
  · simp only [List.take, List.cons.injEq] at hin
    cases hap
    rw [ho, ← hin.2.2.1]
    rfl
  · simp only [List.take, List.cons.injEq] at hin
    exact absurd ⟨hin.2.1.symm, rfl⟩ h₃

end Server

section Client

variable {b : Bytes}

theorem clientDoRequest_eq (a : Addr) (cmd : UInt8) (input out : Bytes) (w : Bool)
    (hb : 3 + A.maxAddrLen ≤ b.length) (hl : (A.writeAddrFromConnAddr a).length ≤ A.maxAddrLen) :
    ∃ b', b'.length = b.length ∧ clientDoRequest A ⟨input, out, w⟩ b cmd a =
      if w then clientReadReply A ⟨input, out ++ [version, cmd, 0] ++ A.writeAddrFromConnAddr a, true⟩ b'
      else .ok ⟨⟨input, out, false⟩, default, some (.socks .io)⟩ := by
  obtain ⟨c₀, c₁, c₂, t, rfl⟩ : ∃ c₀ c₁ c₂ t, b = c₀ :: c₁ :: c₂ :: t := by
    match b, (by omega : 3 ≤ b.length) with
    | c₀ :: c₁ :: c₂ :: t, _ => exact ⟨c₀, c₁, c₂, t, rfl⟩
  simp only [List.length_cons] at hb
  set sa := A.writeAddrFromConnAddr a
  have hov : overwrite (version :: cmd :: 0 :: t) 3 sa = [version, cmd, 0] ++ sa ++ t.drop sa.length
      := by rw [overwrite, Nat.add_comm]; rfl
  have hw : write ⟨input, out, w⟩ (overwrite (version :: cmd :: 0 :: t) 3 sa) 0 (3 + sa.length) =
      .ok (if w then (⟨input, out ++ [version, cmd, 0] ++ sa, true⟩, none)
        else (⟨input, out, false⟩, some .io)) := by
    rw [hov, write_of_le (Nat.zero_le _) (by simp; omega), List.drop_zero, Nat.sub_zero,
      List.take_left' (by simp; omega)]
    cases w <;> simp
  refine ⟨overwrite (version :: cmd :: 0 :: t) 3 sa, by rw [hov]; simp; omega, ?_⟩
  simp only [clientDoRequest, show ¬ t.length + 1 + 1 + 1 < 3 + A.maxAddrLen by omega, if_false,
    setIndex, List.length_cons, show 0 < t.length + 1 + 1 + 1 by omega, if_true,
    List.set_cons_zero, List.set_cons_succ, show 1 < t.length + 1 + 1 + 1 by omega,
    show 2 < t.length + 1 + 1 + 1 by omega, show ¬ t.length + 1 + 1 + 1 < 3 + sa.length by omega,
    hw, bind, Except.bind, pure, Except.pure]
  cases w <;> rfl

theorem clientReadReply_of_short {rw : Conn} (hb : 5 ≤ b.length) (hin : rw.input.length < 5) :
    clientReadReply A rw b = .ok ⟨{ rw with input := [] }, default,
      some (.socks (if rw.input = [] then .eof else .unexpectedEOF))⟩ := by
  have h₁ : readFull rw b 0 5 = .ok ({ rw with input := [] }, overwrite b 0 rw.input,
      some (if rw.input = [] then .eof else .unexpectedEOF)) := by
    simp only [readFull, Nat.zero_le, hb, and_self, if_true, Nat.sub_zero,
      List.take_of_length_le hin.le, List.drop_eq_nil_of_le hin.le, hin.ne, if_false]
    split_ifs <;> rfl
  simp [clientReadReply, h₁, bind, Except.bind, pure, Except.pure]

theorem clientReadReply_of_reply {rw : Conn} {v rep rsv : UInt8} {p more : Bytes}
    (hb : 5 ≤ b.length) (hp : p.length = 2) (hin : rw.input = [v, rep, rsv] ++ p ++ more) :
    clientReadReply A rw b =
      if v ≠ version then .ok ⟨{ rw with input := more }, default,
        some (.socks (.unsupportedVersion v))⟩
      else if rep ≠ replySucceeded then .ok ⟨{ rw with input := more }, default, some (.reply rep)⟩
      else .ok (match A.appendFromReader.run (prefixedReader connReader)
          ⟨p, { rw with input := more }⟩ with
        | (pr, _, some e) => ⟨pr.r, default, some (.addr e)⟩
        | (pr, sa, none) =>
          ⟨pr.r, (A.connAddrFromSlice sa).1, (A.connAddrFromSlice sa).2.map .addr⟩) := by
  have h₁ : readFull rw b 0 5 =
      .ok ({ rw with input := more }, v :: rep :: rsv :: (p ++ b.drop 5), none) := by
    rw [readFull_of_eq hb (Nat.zero_le _) (by simp; omega) hin, overwrite_zero]
    simp [hp]
  have hpfx : slice (v :: rep :: rsv :: (p ++ b.drop 5)) 3 5 = .ok p := by
    rw [slice_of_le (by omega) (by simp; omega)]
    simp [hp]
  simp only [clientReadReply, h₁, bind, Except.bind, pure, Except.pure,
    show index (v :: rep :: rsv :: (p ++ b.drop 5)) 0 = .ok v from rfl,
    show index (v :: rep :: rsv :: (p ++ b.drop 5)) 1 = .ok rep from rfl]
  by_cases hv : v = version
  · by_cases hr : rep = replySucceeded
    · subst hv hr
      simp only [ne_eq, not_true_eq_false, if_false, readSocksAddr, hpfx, newPrefixedReader, bind,
        Except.bind, pure, Except.pure]
      rcases A.appendFromReader.run (prefixedReader connReader) ⟨p, { rw with input := more }⟩
        with ⟨pr, sa', _ | e⟩
      · rcases hc : A.connAddrFromSlice sa' with ⟨addr, _ | e⟩ <;> simp [hc]
      · rfl
    · simp [hv, hr]
  · simp [hv]

theorem clientReadReply_ne_error {rw : Conn} (hb : 5 ≤ b.length) (p : Panic) :
    clientReadReply A rw b ≠ .error p := by
  by_cases hs : rw.input.length < 5
  · rw [clientReadReply_of_short A hb hs]
    exact Except.noConfusion
  obtain ⟨v, rep, rsv, a₀, a₁, more, hin⟩ :
      ∃ v rep rsv a₀ a₁ more, rw.input = [v, rep, rsv] ++ [a₀, a₁] ++ more := by
    match rw.input, (by omega : 5 ≤ rw.input.length) with
    | v :: rep :: rsv :: a₀ :: a₁ :: more, _ => exact ⟨v, rep, rsv, a₀, a₁, more, rfl⟩
  rw [clientReadReply_of_reply A hb (show [a₀, a₁].length = 2 from rfl) hin]
  split_ifs <;> exact Except.noConfusion

theorem clientDoRequest_ne_error (rw : Conn) (cmd : UInt8) (a : Addr)
    (hb : 3 + A.maxAddrLen ≤ b.length) (h2 : 2 ≤ A.maxAddrLen)
    (hl : (A.writeAddrFromConnAddr a).length ≤ A.maxAddrLen) (p : Panic) :
    clientDoRequest A rw b cmd a ≠ .error p := by
  obtain ⟨b', hl', heq⟩ := clientDoRequest_eq A a cmd rw.input rw.output rw.writeOk hb hl
  rw [heq]
  split_ifs
  · exact clientReadReply_ne_error A (by omega) p
  · exact Except.noConfusion

end Client

def requestReply (lap : Option AddrPort) (cmd : UInt8) (tcp udp : Bool) : Bytes :=
  if cmd = cmdConnect ∧ tcp = true then [version, replySucceeded, 0] ++ A.ipv4UnspecifiedAddr
  else if cmd = cmdUDPAssociate ∧ udp = true then
    match lap with
    | none => []
    | some ap => [version, replySucceeded, 0] ++ A.appendAddrFromAddrPort ap
  else [version, replyCommandNotSupported, 0] ++ A.ipv4UnspecifiedAddr

omit [Inhabited Addr] in
theorem requestReply_bound {lap : Option AddrPort} {cmd : UInt8} {tcp udp : Bool} {v : Bytes}
    (hc : cmd = cmdConnect ∧ tcp = true ∨ cmd = cmdUDPAssociate ∧ udp = true ∧ lap.isSome = true)
    (hr : requestReply A lap cmd tcp udp = [version, replySucceeded, 0] ++ v) :
    v = if cmd = cmdConnect then A.ipv4UnspecifiedAddr
      else (lap.map A.appendAddrFromAddrPort).getD [] := by
  rcases hc with ⟨rfl, htcp⟩ | ⟨rfl, hudp, hlap⟩
  · simp only [requestReply, htcp, and_self, if_true, List.append_cancel_left_eq] at hr
    rw [if_pos rfl, hr]
  · obtain ⟨ap, rfl⟩ := Option.isSome_iff_exists.1 hlap
    have hne : cmdUDPAssociate ≠ cmdConnect := by decide
    simp only [requestReply, hne, false_and, if_false, hudp, and_self, if_true,
      List.append_cancel_left_eq] at hr
    rw [if_neg hne, ← hr]
    rfl

section RoundTrip

variable {A} (hA : A.Codec)
include hA

theorem serverHandleRequest_of_encoded {lap : Option AddrPort} (rw : Conn) {b : Bytes}
    {tcp udp : Bool} {cmd rsv : UInt8} {a : Addr} {rest : Bytes}
    (hb : 3 + A.maxAddrLen ≤ b.length)
    (hin : rw.input = [version, cmd, rsv] ++ A.writeAddrFromConnAddr a ++ rest) :
    serverHandleRequest A lap rw b tcp udp =
      (serverHandleCommand A lap { rw with input := rest } (version :: cmd :: rsv ::
        ((A.writeAddrFromConnAddr a).take 2 ++ b.drop 5)) cmd tcp udp).map fun q => ⟨q.1, a, q.2⟩ := by
  rw [serverHandleRequest_of_header A hb (le_trans (hA.two_le a) (hA.le_max a))
    (hA.take_two_length a) (input_split_two hin)]
  simp only [ne_eq, not_true_eq_false, if_false, hA.read, hA.decode]

theorem clientReadReply_of_encoded (rw : Conn) {b : Bytes} {rep rsv : UInt8} {a : Addr}
    {rest : Bytes} (hb : 5 ≤ b.length)
    (hin : rw.input = [version, rep, rsv] ++ A.writeAddrFromConnAddr a ++ rest) :
    clientReadReply A rw b = .ok (if rep = replySucceeded then ⟨{ rw with input := rest }, a, none⟩
      else ⟨{ rw with input := (A.writeAddrFromConnAddr a).drop 2 ++ rest }, default,
        some (.reply rep)⟩) := by
  rw [clientReadReply_of_reply A hb (hA.take_two_length a) (input_split_two hin)]
  by_cases hr : rep = replySucceeded
  · simp only [ne_eq, not_true_eq_false, if_false, hr, if_true]
    simp [hA.read, hA.decode]
  · simp [hr]

theorem clientDoRequest_of_reply (a a' : Addr) (cmd st : UInt8) (rest out : Bytes) {b : Bytes}
    (hb : 3 + A.maxAddrLen ≤ b.length) :
    ∃ c, clientDoRequest A ⟨[version, st, 0] ++ A.writeAddrFromConnAddr a' ++ rest, out, true⟩ b
        cmd a = .ok c ∧ c.rw.output = out ++ [version, cmd, 0] ++ A.writeAddrFromConnAddr a ∧
      (c.err = none ↔ st = replySucceeded) ∧ (c.err = none → c.rw.input = rest ∧ c.val = a') := by
  obtain ⟨b', hl, heq⟩ := clientDoRequest_eq A a cmd _ out true hb (hA.le_max a)
  have h2 := le_trans (hA.two_le a) (hA.le_max a)
  rw [heq, if_pos rfl, clientReadReply_of_encoded hA _ (by omega) rfl]
  by_cases hs : st = replySucceeded <;> simp [hs]

theorem clientDoRequest_of_nil (a : Addr) (cmd : UInt8) (out : Bytes) {b : Bytes}
    (hb : 3 + A.maxAddrLen ≤ b.length) :
    ∃ c, clientDoRequest A ⟨[], out, true⟩ b cmd a = .ok c ∧
      c.rw.output = out ++ [version, cmd, 0] ++ A.writeAddrFromConnAddr a ∧ c.err ≠ none := by
  obtain ⟨b', hl, heq⟩ := clientDoRequest_eq A a cmd _ out true hb (hA.le_max a)
  have h2 := le_trans (hA.two_le a) (hA.le_max a)
  rw [heq, if_pos rfl, clientReadReply_of_short A (by omega) (by simp)]
  simp

theorem serverHandleRequest_of_request (lap : Option AddrPort) (tcp udp : Bool) (cmd : UInt8)
    (a : Addr) (rest out : Bytes) {b : Bytes} (hb : 3 + A.maxAddrLen ≤ b.length) :
    ∃ r, serverHandleRequest A lap
        ⟨[version, cmd, 0] ++ A.writeAddrFromConnAddr a ++ rest, out, true⟩ b tcp udp = .ok r ∧
      r.val = a ∧ r.rw.output = out ++ requestReply A lap cmd tcp udp ∧
      (r.err = none ↔ cmd = cmdConnect ∧ tcp = true) ∧ (r.err = none → r.rw.input = rest) := by
  obtain ⟨u, hu⟩ := hA.unspecified
  have hlen : A.ipv4UnspecifiedAddr.length ≤
      ((A.writeAddrFromConnAddr a).take 2 ++ b.drop 5).length := by
    have := hA.le_max u
    rw [← hu, List.length_append, hA.take_two_length a, List.length_drop]
    omega
  rw [serverHandleRequest_of_encoded hA ⟨_, out, true⟩ hb rfl,
    serverHandleCommand_eq A lap _ cmd tcp udp hlen]
  by_cases h₁ : cmd = cmdConnect ∧ tcp = true
  · simp only [if_pos h₁, if_true]
    exact ⟨_, rfl, rfl, by simp [requestReply, h₁], by simp [h₁], fun _ => rfl⟩
  by_cases h₂ : cmd = cmdUDPAssociate ∧ udp = true
  · cases lap with
    | none =>
      simp only [if_neg h₁, if_pos h₂]
      exact ⟨_, rfl, rfl, by rw [requestReply, if_neg h₁, if_pos h₂]; simp, by simp [h₁], by simp⟩
    | some ap =>
      simp only [if_neg h₁, if_pos h₂, if_true]
      exact ⟨_, rfl, rfl, by rw [requestReply, if_neg h₁, if_pos h₂]; simp, by simp [h₁], by simp⟩
  · simp only [if_neg h₁, if_neg h₂, if_true]
    exact ⟨_, rfl, rfl, by simp [requestReply, h₁, h₂], by simp [h₁], by simp⟩

theorem clientDoRequest_of_requestReply (lap : Option AddrPort) (tcp udp : Bool) (cmd : UInt8)
    (a : Addr) (rest out : Bytes) {b : Bytes} (hb : 3 + A.maxAddrLen ≤ b.length)
    (hr : requestReply A lap cmd tcp udp ≠ [] ∨ rest = []) :
    ∃ c, clientDoRequest A ⟨requestReply A lap cmd tcp udp ++ rest, out, true⟩ b cmd a = .ok c ∧
      c.rw.output = out ++ [version, cmd, 0] ++ A.writeAddrFromConnAddr a ∧
      (c.err = none ↔ cmd = cmdConnect ∧ tcp = true ∨
        cmd = cmdUDPAssociate ∧ udp = true ∧ lap.isSome = true) ∧
      (c.err = none → c.rw.input = rest ∧
        requestReply A lap cmd tcp udp = [version, replySucceeded, 0] ++ A.writeAddrFromConnAddr c.val) := by
  obtain ⟨u, hu⟩ := hA.unspecified
  by_cases h₁ : cmd = cmdConnect ∧ tcp = true
  · -- the success reply
    obtain ⟨c, hc, ho, he, hs⟩ := clientDoRequest_of_reply hA a u cmd replySucceeded rest out hb
    simp only [requestReply, if_pos h₁, ← hu]
    exact ⟨c, hc, ho, by simp [he, h₁], fun h => ⟨(hs h).1, by rw [(hs h).2]⟩⟩
  by_cases h₂ : cmd = cmdUDPAssociate ∧ udp = true
  · cases lap with
    | none =>
      -- not a TCP connection: nothing written
      simp only [requestReply, if_neg h₁, if_pos h₂] at hr ⊢
      obtain rfl : rest = [] := by simpa using hr
      obtain ⟨c, hc, ho, he⟩ := clientDoRequest_of_nil hA a cmd out hb
      exact ⟨c, hc, ho, by simp [he, h₁], fun h => absurd h he⟩
    | some ap =>
      -- the success reply with the local address
      obtain ⟨a', ha'⟩ := hA.localAddr ap
      obtain ⟨c, hc, ho, he, hs⟩ := clientDoRequest_of_reply hA a a' cmd replySucceeded rest out hb
      simp only [requestReply, if_neg h₁, if_pos h₂, ← ha']
      exact ⟨c, hc, ho, by simp [he, h₂], fun h => ⟨(hs h).1, by rw [(hs h).2]⟩⟩
  · -- `REP = 7`
    obtain ⟨c, hc, ho, he, -⟩ :=
      clientDoRequest_of_reply hA a u cmd replyCommandNotSupported rest out hb
    simp only [requestReply, if_neg h₁, if_neg h₂, ← hu]
    have hne : c.err ≠ none := fun h => absurd (he.1 h) (by decide)
    exact ⟨c, hc, ho, iff_of_false hne (by rintro (h | ⟨hc, hu, -⟩); exacts [h₁ h, h₂ ⟨hc, hu⟩]),
      fun h => absurd h hne⟩

/-- A request meets the server and the reply the client: each reads exactly the other's bytes,
and they succeed as the command and the settings allow. -/
theorem request_roundTrip (lap : Option AddrPort) (tcp udp : Bool) (cmd : UInt8) (a : Addr)
    (rest out : Bytes) {b : Bytes} (hb : 3 + A.maxAddrLen ≤ b.length) :
    ∃ r reply, serverHandleRequest A lap
        ⟨[version, cmd, 0] ++ A.writeAddrFromConnAddr a ++ rest, out, true⟩ b tcp udp = .ok r ∧
      r.val = a ∧ r.rw.output = out ++ reply ∧ (r.err = none ↔ cmd = cmdConnect ∧ tcp = true) ∧
      (r.err = none → r.rw.input = rest) ∧
      ∀ (rest' out' b' : Bytes), 3 + A.maxAddrLen ≤ b'.length → (reply ≠ [] ∨ rest' = []) →
        ∃ c, clientDoRequest A ⟨reply ++ rest', out', true⟩ b' cmd a = .ok c ∧
          c.rw.output = out' ++ [version, cmd, 0] ++ A.writeAddrFromConnAddr a ∧
          (c.err = none ↔ cmd = cmdConnect ∧ tcp = true ∨
            cmd = cmdUDPAssociate ∧ udp = true ∧ lap.isSome = true) ∧
          (c.err = none →
            c.rw.input = rest' ∧ reply = [version, replySucceeded, 0] ++ A.writeAddrFromConnAddr c.val)
    := by
  obtain ⟨r, hr, hv, ho, he, hi⟩ := serverHandleRequest_of_request hA lap tcp udp cmd a rest out hb
  exact ⟨r, _, hr, hv, ho, he, hi, fun rest' out' b' hb' =>
    clientDoRequest_of_requestReply hA lap tcp udp cmd a rest' out' hb'⟩

end RoundTrip

theorem request_roundTrip_connect : (oneByteAddrFns 2).Codec ∧ 3 + (oneByteAddrFns 2).maxAddrLen ≤ 5 ∧
    ∃ r reply, serverHandleRequest (oneByteAddrFns 2) none
        ⟨[version, cmdConnect, 0, 1, 7, 42], [], true⟩ (List.replicate 5 0) true false = .ok r ∧
      r.val = 7 ∧ r.rw.output = reply ∧ r.err = none ∧ r.rw.input = [42] := by
  obtain ⟨r, reply, h, hv, ho, he, hi, -⟩ := request_roundTrip (oneByteAddrFns_codec le_rfl) none
    true false cmdConnect 7 [42] [] (show 3 + 2 ≤ (List.replicate 5 (0 : UInt8)).length by decide)
  have he' : r.err = none := he.2 ⟨rfl, rfl⟩
  exact ⟨oneByteAddrFns_codec le_rfl, by decide, r, reply, h, hv, by simpa using ho, he', hi he'⟩

end Request

end Socks5
end ShadowsocksGo
