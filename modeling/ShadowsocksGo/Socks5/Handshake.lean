import ShadowsocksGo.Socks5.Auth
import ShadowsocksGo.Socks5.Request

/-! # The handshake

The exported entry points run the phases of RFC 1928 in one scratch buffer of `3+MaxAddrLen`
bytes: method selection, username/password authentication when it was negotiated, and the
request. `clientNegotiateAuthMethod` is the client half of method selection; the server half is
`serverHandleMethodSelection`. -/

namespace ShadowsocksGo
namespace Socks5

def methodNoAuthenticationRequired : UInt8 := 0
def methodUsernamePassword : UInt8 := 2

section Negotiate

variable {ε : Type}

/-- `clientNegotiateAuthMethod`: `len(b)` must be at least 3. -/
def clientNegotiateAuthMethod (rw : Conn) (b : Bytes) (method : UInt8) :
    Except Panic (Conn × Bytes × Option (HandshakeError ε)) := do
  if b.length < 3 then throw .bufferTooSmall
  let b ← setIndex b 0 version
  let b ← setIndex b 1 1
  let b ← setIndex b 2 method
  let (rw, e) ← write rw b 0 3
  if let some e := e then return (rw, b, some (.socks e))
  let (rw, b, e) ← readFull rw b 0 2
  if let some e := e then return (rw, b, some (.socks e))
  let ver ← index b 0
  if ver ≠ version then return (rw, b, some (.socks (.unsupportedVersion ver)))
  let m ← index b 1
  if m ≠ method then return (rw, b, some (.unsupportedAuthMethod m))
  return (rw, b, none)

theorem clientNegotiateAuthMethod_of_reply (method v m : UInt8) (rest out : Bytes) {b : Bytes}
    (hb : 3 ≤ b.length) :
    ∃ b', b'.length = b.length ∧
      clientNegotiateAuthMethod (ε := ε) ⟨[v, m] ++ rest, out, true⟩ b method =
        .ok (⟨rest, out ++ [version, 1, method], true⟩, b',
          if v ≠ version then some (.socks (.unsupportedVersion v))
          else if m ≠ method then some (.unsupportedAuthMethod m) else none) := by
  obtain ⟨c₀, c₁, c₂, t, rfl⟩ : ∃ c₀ c₁ c₂ t, b = c₀ :: c₁ :: c₂ :: t := by
    match b, hb with
    | c₀ :: c₁ :: c₂ :: t, _ => exact ⟨c₀, c₁, c₂, t, rfl⟩
  refine ⟨v :: m :: method :: t, rfl, ?_⟩
  have hw : write ⟨[v, m] ++ rest, out, true⟩ (version :: 1 :: method :: t) 0 3 =
      .ok (⟨[v, m] ++ rest, out ++ [version, 1, method], true⟩, none) := by
    rw [write_of_le (Nat.zero_le _) (by simp)]; rfl
  have hr : readFull ⟨[v, m] ++ rest, out ++ [version, 1, method], true⟩
      (version :: 1 :: method :: t) 0 2 =
      .ok (⟨rest, out ++ [version, 1, method], true⟩, v :: m :: method :: t, none) := by
    rw [readFull_of_eq (by simp) (Nat.zero_le 2) (show [v, m].length = 2 - 0 from rfl) rfl]; rfl
  simp only [clientNegotiateAuthMethod, List.length_cons, show ¬ t.length + 1 + 1 + 1 < 3 by omega,
    if_false, setIndex, show 0 < t.length + 1 + 1 + 1 by omega, show 1 < t.length + 1 + 1 + 1 by omega,
    show 2 < t.length + 1 + 1 + 1 by omega, if_true, List.set_cons_zero, List.set_cons_succ, hw, hr,
    bind, Except.bind, pure, Except.pure,
    show index (v :: m :: method :: t) 0 = .ok v from rfl,
    show index (v :: m :: method :: t) 1 = .ok m from rfl]
  by_cases hv : v = version <;> by_cases hm : m = method <;> simp [hv, hm]

/-- Method selection, both halves fed each other's bytes: each reads exactly the other's message,
and they agree iff the methods are equal (or the client asked for `0xFF`). -/
theorem authMethod_agreement (cm sm : UInt8) (rest out rest' out' : Bytes) {b b' : Bytes}
    (hb : 1 + 1 + 255 ≤ b.length) (hb' : 3 ≤ b'.length) :
    ∃ r reply, serverHandleMethodSelection ⟨[version, 1, cm] ++ rest, out, true⟩ b sm = .ok r ∧
      r.rw.input = rest ∧ r.rw.output = out ++ reply ∧ (r.err = none ↔ cm = sm) ∧
      ∃ c, clientNegotiateAuthMethod (ε := ε) ⟨reply ++ rest', out', true⟩ b' cm = .ok c ∧
        c.1.input = rest' ∧ c.1.output = out' ++ [version, 1, cm] ∧
        (c.2.2 = none ↔ cm = sm ∨ cm = methodNoAcceptable) := by
  obtain ⟨b₁, h₁⟩ := @serverHandleMethodSelection_of_greeting b sm ⟨[cm], Nat.one_pos, by simp⟩
    rest out true hb
  simp only [if_true, List.mem_singleton] at h₁
  obtain ⟨b₂, -, h₂⟩ := clientNegotiateAuthMethod_of_reply (ε := ε) cm version
    (if sm = cm then sm else methodNoAcceptable) rest' out' hb'
  refine ⟨_, [version, if sm = cm then sm else methodNoAcceptable], h₁, rfl, rfl, ?_, _, h₂, rfl,
    rfl, ?_⟩ <;> by_cases h : sm = cm
  · simp [h]
  · simp [h, Ne.symm h]
  · simp [h]
  · by_cases h' : cm = methodNoAcceptable
    · simp [h, Ne.symm h, h']
    · simp [h, Ne.symm h, h', Ne.symm h']

theorem authMethod_agreement_noAuth :
    ∃ r, serverHandleMethodSelection ⟨[version, 1, methodNoAuthenticationRequired], [], true⟩
      (List.replicate 257 0) methodNoAuthenticationRequired = .ok r ∧ r.err = none := by
  obtain ⟨r, -, h, -, -, he, -⟩ := authMethod_agreement (ε := Empty) methodNoAuthenticationRequired
    methodNoAuthenticationRequired [] [] [] []
    (List.length_replicate 257 (0 : UInt8)).ge (List.length_replicate 3 (0 : UInt8)).ge
  exact ⟨r, h, he.2 rfl⟩

end Negotiate

section Accepted

variable {rw : Conn} {b : Bytes} {method : UInt8}

theorem serverHandleMethodSelection_of_short_methods {n x : UInt8} {ms : Bytes}
    (hb : 1 + 1 + 255 ≤ b.length) (hin : rw.input = [version, n, x] ++ ms)
    (hms : ms.length + 1 < n.toNat) :
    ∃ r, serverHandleMethodSelection rw b method = .ok r ∧ r.err ≠ none := by
  have hn8 : n.toNat < 256 := n.toNat_lt_size
  have h₁ : readFull rw b 0 3 = .ok ({ rw with input := ms }, overwrite b 0 [version, n, x], none) :=
    readFull_of_eq (by omega) (by omega) rfl hin
  have hl₁ : (overwrite b 0 [version, n, x]).length = b.length := overwrite_length (by simp; omega)
  have h₀ : index (overwrite b 0 [version, n, x]) 0 = .ok version :=
    index_eq (by rw [overwrite_zero_getElem? (by simp)]; rfl)
  have hn : index (overwrite b 0 [version, n, x]) 1 = .ok n :=
    index_eq (by rw [overwrite_zero_getElem? (by simp)]; rfl)
  have h₂ : readFull { rw with input := ms } (overwrite b 0 [version, n, x]) 3 (3 + n.toNat - 1) =
      .ok ({ rw with input := [] }, overwrite (overwrite b 0 [version, n, x]) 3 ms,
        some (if ms = [] then .eof else .unexpectedEOF)) := by
    simp only [readFull, show 3 ≤ 3 + n.toNat - 1 by omega, hl₁,
      show 3 + n.toNat - 1 ≤ b.length by omega, and_self, if_true,
      List.take_of_length_le (show ms.length ≤ 3 + n.toNat - 1 - 3 by omega),
      List.drop_eq_nil_of_le (show ms.length ≤ 3 + n.toNat - 1 - 3 by omega),
      show ms.length ≠ 3 + n.toNat - 1 - 3 by omega, if_false]
    split_ifs <;> rfl
  rw [serverHandleMethodSelection, if_neg (by omega)]
  simp only [h₁, h₀, hn, bind, Except.bind, pure, Except.pure, ne_eq, not_true_eq_false, if_false,
    switchNMethods_of_pos (show 0 < n.toNat by omega) (show 3 ≤ (overwrite b 0 [version, n, x]).length
      by omega), readMethodIndex, h₂]
  exact ⟨_, rfl, by simp⟩

theorem serverHandleMethodSelection_le_length {r : Ret Unit}
    (h : serverHandleMethodSelection rw b method = .ok r) : 1 + 1 + 255 ≤ b.length :=
  Nat.le_of_not_lt fun hlt => by
    simp [serverHandleMethodSelection, hlt, throw, throwThe, MonadExceptOf.throw, bind,
      Except.bind] at h

theorem serverHandleMethodSelection_accepted {r : Ret Unit}
    (h : serverHandleMethodSelection rw b method = .ok r) (he : r.err = none) :
    ∃ (g : Greeting) (rest : Bytes), rw.input = g.bytes ++ rest ∧ method ∈ g.methods ∧
      rw.writeOk = true ∧ r.rw = { rw with input := rest, output := rw.output ++ [version, method] } := by
  have hb := serverHandleMethodSelection_le_length h
  obtain ⟨input, out, w⟩ := rw
  by_cases hs : input.length < 3
  · rw [serverHandleMethodSelection_of_short hb hs] at h
    cases Except.ok.inj h ▸ he
  obtain ⟨v, n, x, ms, hin⟩ : ∃ v n x ms, input = [v, n, x] ++ ms := by
    match input, (by omega : 3 ≤ input.length) with
    | v :: n :: x :: ms, _ => exact ⟨v, n, x, ms, rfl⟩
  by_cases hvn : v ≠ version ∨ n = 0
  · rw [serverHandleMethodSelection_of_header v n x ms hb hin hvn] at h
    cases Except.ok.inj h ▸ he
  obtain ⟨rfl, hn⟩ : v = version ∧ n ≠ 0 := by simpa only [not_or, not_not] using hvn
  have hn8 : n.toNat < 256 := n.toNat_lt_size
  have hn0 : 0 < n.toNat := by
    rcases Nat.eq_zero_or_pos n.toNat with h0 | h0
    · exact absurd (UInt8.toNat.inj (h0.trans UInt8.toNat_zero.symm)) hn
    · exact h0
  by_cases hms : ms.length + 1 < n.toNat
  · obtain ⟨r', h', hne⟩ := @serverHandleMethodSelection_of_short_methods ⟨input, out, w⟩ b method n x
      ms hb hin hms
    cases h.symm.trans h'
    exact absurd he hne
  -- a well-formed message
  let g : Greeting := ⟨x :: ms.take (n.toNat - 1), by simp, by simp; omega⟩
  have hg : input = g.bytes ++ ms.drop (n.toNat - 1) := by
    have hof : UInt8.ofNat (min (n.toNat - 1) ms.length + 1) = n :=
      UInt8.toNat.inj (by rw [UInt8.toNat_ofNat_of_lt (by simp [UInt8.size]; omega)]; omega)
    simp [hin, g, Greeting.bytes, hof]
  obtain ⟨b', h'⟩ := @serverHandleMethodSelection_of_greeting b method g (ms.drop (n.toNat - 1))
    out w hb
  rw [hg] at h
  cases h.symm.trans h'
  by_cases hm : method ∈ g.methods
  · cases w
    · simp [hm] at he
    · exact ⟨g, _, hg, hm, rfl, by simp [hm]⟩
  · simp [hm] at he

/-- When the server half of method selection returns no error, exactly: a well-formed message
offering the method, on a writable peer. -/
theorem serverHandleMethodSelection_err_eq_none_iff {r : Ret Unit}
    (h : serverHandleMethodSelection rw b method = .ok r) :
    r.err = none ↔ rw.writeOk = true ∧
      ∃ (g : Greeting) (rest : Bytes), rw.input = g.bytes ++ rest ∧ method ∈ g.methods := by
  refine ⟨fun he => ?_, ?_⟩
  · obtain ⟨g, rest, hin, hg, hw, -⟩ := serverHandleMethodSelection_accepted h he
    exact ⟨hw, g, rest, hin, hg⟩
  · rintro ⟨hw, g, rest, hin, hg⟩
    obtain ⟨input, out, w⟩ := rw
    simp only at hin hw
    subst hin hw
    obtain ⟨b', h'⟩ := @serverHandleMethodSelection_of_greeting b method g rest out true
      (serverHandleMethodSelection_le_length h)
    rw [h'] at h
    rw [← Except.ok.inj h]
    simp [hg]

theorem serverHandleMethodSelection_err_eq_none_iff_noAuth :
    ∃ r, serverHandleMethodSelection ⟨[version, 1, methodNoAuthenticationRequired], [], true⟩
      (List.replicate 257 0) methodNoAuthenticationRequired = .ok r ∧ r.err = none := by
  obtain ⟨b', h⟩ := @serverHandleMethodSelection_of_greeting (List.replicate 257 0)
    methodNoAuthenticationRequired ⟨[methodNoAuthenticationRequired], Nat.one_pos, by simp⟩ [] [] true
    (List.length_replicate 257 0).ge
  exact ⟨_, h, (serverHandleMethodSelection_err_eq_none_iff h).2 ⟨rfl, _, [], rfl, by simp⟩⟩

end Accepted

section Buffer

variable {rw : Conn} {b : Bytes}

theorem exists_ok_of_ne_error {α : Type} {x : Except Panic α} (h : ∀ p, x ≠ .error p) :
    ∃ a, x = .ok a := by
  cases x with
  | error p => exact absurd rfl (h p)
  | ok a => exact ⟨a, rfl⟩

theorem serverHandleMethodSelection_length {method : UInt8} {r : Ret Unit}
    (h : serverHandleMethodSelection rw b method = .ok r) : r.b.length = b.length := by
  have hb : ¬ b.length < 257 := Nat.not_lt_of_le (serverHandleMethodSelection_le_length h)
  obtain ⟨⟨rw₁, b₁, e₁⟩, h₁⟩ := readFull_isOk rw b 0 3 (by omega) (by omega)
  have hl₁ : b₁.length = b.length := readFull_length h₁
  obtain ⟨v, hv⟩ := index_isOk (b := b₁) (i := 0) (by omega)
  obtain ⟨n, hn⟩ := index_isOk (b := b₁) (i := 1) (by omega)
  obtain ⟨⟨rw₂, b₂, i⟩, h₂, hl₂⟩ := @switchNMethods_isOk rw₁ b₁ method n.toNat
    (by omega) (by have := n.toNat_lt_size; simp only [UInt8.size] at this; omega)
  simp only at hl₂
  have hs : ∀ c, setIndex b₂ 1 c = .ok (b₂.set 1 c) := fun c => setIndex_of_lt (by omega)
  have hw : ∀ c rw', ∃ v, write rw' (b₂.set 1 c) 0 2 = .ok v := fun c rw' =>
    ⟨_, write_of_le (b := b₂.set 1 c) (by omega) (by simp; omega)⟩
  simp only [serverHandleMethodSelection, hb, if_false, h₁, hv, hn, h₂, hs, bind, Except.bind,
    pure, Except.pure] at h
  rcases e₁ with _ | e₁
  · by_cases hver : v = version
    · simp only [hver, ne_eq, not_true_eq_false, if_false] at h
      rcases i with e | i
      · cases h; exact hl₂.trans hl₁
      · by_cases hi : i = -1
        · obtain ⟨_, hw'⟩ := hw methodNoAcceptable rw₂
          simp only [hi, if_true, hw'] at h
          cases h; simp [hl₂, hl₁]
        · obtain ⟨_, hw'⟩ := hw method rw₂
          simp only [hi, if_false, hw'] at h
          cases h; simp [hl₂, hl₁]
    · simp only [hver, ne_eq, not_false_eq_true, if_true] at h
      cases h; exact hl₁
  · cases h; exact hl₁

theorem serverHandleUsernamePassword_le_length {users : Bytes → Option UserInfo} {r : Ret Bytes}
    (h : serverHandleUsernamePassword rw b users = .ok r) : 1 + 1 + 255 + 1 ≤ b.length :=
  Nat.le_of_not_lt fun hlt => by
    simp [serverHandleUsernamePassword, hlt, throw, throwThe, MonadExceptOf.throw, bind,
      Except.bind] at h

theorem serverHandleUsernamePassword_length {users : Bytes → Option UserInfo} {r : Ret Bytes}
    (h : serverHandleUsernamePassword rw b users = .ok r) (he : r.err = none) :
    r.b.length = b.length := by
  have hb : ¬ b.length < 258 := Nat.not_lt_of_le (serverHandleUsernamePassword_le_length h)
  obtain ⟨rw₁, b₁, e₁, v, u, rw₂, b₂, e₂, pl, rw₃, b₃, e₃, h₁, hv, hu, h₂, hun, hpl, h₃, hpw,
    hs, hw⟩ := serverHandleUsernamePassword_steps rw b (by omega)
  obtain ⟨rrw, rb, rval, rerr⟩ := r
  simp only at he ⊢
  subst he
  simp only [serverHandleUsernamePassword, hb, if_false, h₁, hv, hu, h₂, hun, hpl, h₃, hpw, hs, hw,
    bind, Except.bind, pure, Except.pure] at h
  cases e₁ <;> cases e₂ <;> cases e₃ <;> cases hwo : rw₃.writeOk <;> simp [hwo, ite_eq_iff] at h
  obtain ⟨-, -, -, -, -, rfl, -⟩ := h
  rw [List.length_set, readFull_length h₃, readRest_length h₂, readFull_length h₁]

theorem clientNegotiateAuthMethod_ok {ε : Type} (rw : Conn) (method : UInt8) (hb : 3 ≤ b.length) :
    ∃ c, clientNegotiateAuthMethod (ε := ε) rw b method = .ok c ∧ c.2.1.length = b.length := by
  obtain ⟨c₀, c₁, c₂, t, rfl⟩ : ∃ c₀ c₁ c₂ t, b = c₀ :: c₁ :: c₂ :: t := by
    match b, hb with
    | c₀ :: c₁ :: c₂ :: t, _ => exact ⟨c₀, c₁, c₂, t, rfl⟩
  obtain ⟨input, out, w⟩ := rw
  have hw : write ⟨input, out, w⟩ (version :: 1 :: method :: t) 0 3 = .ok (if w then
      (⟨input, out ++ [version, 1, method], w⟩, none) else (⟨input, out, w⟩, some .io)) := by
    rw [write_of_le (Nat.zero_le _) (by simp)]; rfl
  obtain ⟨⟨rw₁, b₁, e₁⟩, h₁⟩ := readFull_isOk ⟨input, out ++ [version, 1, method], w⟩
    (version :: 1 :: method :: t) 0 2 (by omega) (by simp)
  have hl₁ : b₁.length = t.length + 3 := readFull_length h₁
  obtain ⟨v, hv⟩ := index_isOk (b := b₁) (i := 0) (by omega)
  obtain ⟨m, hm⟩ := index_isOk (b := b₁) (i := 1) (by omega)
  simp only [clientNegotiateAuthMethod, List.length_cons, show ¬ t.length + 1 + 1 + 1 < 3 by omega,
    if_false, setIndex, show 0 < t.length + 1 + 1 + 1 by omega, show 1 < t.length + 1 + 1 + 1 by omega,
    show 2 < t.length + 1 + 1 + 1 by omega, if_true, List.set_cons_zero, List.set_cons_succ, hw,
    bind, Except.bind, pure, Except.pure]
  cases w
  · exact ⟨_, rfl, rfl⟩
  · simp only [if_true, h₁, hv, hm]
    cases e₁ <;> [split_ifs; skip] <;> exact ⟨_, rfl, hl₁⟩

theorem clientDoUsernamePasswordAuth_ok (rw : Conn) (authMsg : Bytes) (hb : 2 ≤ b.length) :
    ∃ r, clientDoUsernamePasswordAuth rw b authMsg = .ok r ∧ r.b.length = b.length := by
  obtain ⟨input, out, w⟩ := rw
  obtain ⟨⟨rw₁, b₁, e₁⟩, h₁⟩ := readFull_isOk ⟨input, out ++ authMsg, w⟩ b 0 2 (by omega) hb
  have hl₁ : b₁.length = b.length := readFull_length h₁
  obtain ⟨v, hv⟩ := index_isOk (b := b₁) (i := 0) (by omega)
  obtain ⟨st, hst⟩ := index_isOk (b := b₁) (i := 1) (by omega)
  simp only [clientDoUsernamePasswordAuth, show ¬ b.length < 2 by omega, if_false, bind,
    Except.bind, pure, Except.pure]
  cases w
  · exact ⟨_, rfl, rfl⟩
  · simp only [Bool.not_true, Bool.false_eq_true, if_false, h₁, hv, hst]
    cases e₁ <;> [split_ifs; skip] <;> exact ⟨_, rfl, hl₁⟩

end Buffer

section Entry

variable {ε Addr AddrPort : Type} (A : AddrFns ε Addr AddrPort) [Inhabited Addr]

/-- `ClientRequest`. -/
def clientRequest (rw : Conn) (command : UInt8) (targetAddr : Addr) :
    Except Panic (Outcome ε Addr) := do
  let b := List.replicate (3 + A.maxAddrLen) 0
  let (rw, b, e) ← clientNegotiateAuthMethod rw b methodNoAuthenticationRequired
  if let some e := e then return ⟨rw, default, some e⟩
  clientDoRequest A rw b command targetAddr

/-- `ClientRequestUsernamePassword`. -/
def clientRequestUsernamePassword (rw : Conn) (authMsg : Bytes) (command : UInt8)
    (targetAddr : Addr) : Except Panic (Outcome ε Addr) := do
  let b := List.replicate (3 + A.maxAddrLen) 0
  let (rw, b, e) ← clientNegotiateAuthMethod rw b methodUsernamePassword
  if let some e := e then return ⟨rw, default, some e⟩
  let r ← clientDoUsernamePasswordAuth rw b authMsg
  if let some e := r.err then return ⟨r.rw, default, some (.socks e)⟩
  clientDoRequest A r.rw r.b command targetAddr

/-- `ClientConnect`: the error only. -/
def clientConnect (rw : Conn) (targetAddr : Addr) : Except Panic (Conn × Option (HandshakeError ε)) :=
  (clientRequest A rw cmdConnect targetAddr).map fun r => (r.rw, r.err)

/-- `ClientConnectUsernamePassword`: the error only. -/
def clientConnectUsernamePassword (rw : Conn) (authMsg : Bytes) (targetAddr : Addr) :
    Except Panic (Conn × Option (HandshakeError ε)) :=
  (clientRequestUsernamePassword A rw authMsg cmdConnect targetAddr).map fun r => (r.rw, r.err)

def clientUDPAssociate (rw : Conn) (targetAddr : Addr) : Except Panic (Outcome ε Addr) :=
  clientRequest A rw cmdUDPAssociate targetAddr

def clientUDPAssociateUsernamePassword (rw : Conn) (authMsg : Bytes) (targetAddr : Addr) :
    Except Panic (Outcome ε Addr) :=
  clientRequestUsernamePassword A rw authMsg cmdUDPAssociate targetAddr

/-- `ServerAccept`; `localAddrPort` is as in `serverHandleRequest`. -/
def serverAccept (localAddrPort : Option AddrPort) (rw : Conn) (enableTCP enableUDP : Bool) :
    Except Panic (Outcome ε Addr) := do
  let b := List.replicate (3 + A.maxAddrLen) 0
  let r ← serverHandleMethodSelection rw b methodNoAuthenticationRequired
  if let some e := r.err then return ⟨r.rw, default, some (.socks e)⟩
  serverHandleRequest A localAddrPort r.rw r.b enableTCP enableUDP

/-- `ServerAcceptUsernamePassword`: the outcome of the request and the username. -/
def serverAcceptUsernamePassword (localAddrPort : Option AddrPort) (rw : Conn)
    (userInfoByUsername : Bytes → Option UserInfo) (enableTCP enableUDP : Bool) :
    Except Panic (Outcome ε Addr × Bytes) := do
  let b := List.replicate (3 + A.maxAddrLen) 0
  let r ← serverHandleMethodSelection rw b methodUsernamePassword
  if let some e := r.err then return (⟨r.rw, default, some (.socks e)⟩, [])
  let u ← serverHandleUsernamePassword r.rw r.b userInfoByUsername
  if let some e := u.err then return (⟨u.rw, default, some (.socks e)⟩, u.val)
  let o ← serverHandleRequest A localAddrPort u.rw u.b enableTCP enableUDP
  return (o, u.val)

section NoPanic

variable {lap : Option AddrPort} {rw : Conn} {tcp udp : Bool}

theorem serverAccept_ne_error (hmax : 255 ≤ A.maxAddrLen)
    (h4 : A.ipv4UnspecifiedAddr.length ≤ A.maxAddrLen) (p : Panic) :
    serverAccept A lap rw tcp udp ≠ .error p := by
  obtain ⟨r, hr⟩ := exists_ok_of_ne_error (@serverHandleMethodSelection_ne_error rw
    (List.replicate (3 + A.maxAddrLen) 0) methodNoAuthenticationRequired (by simp; omega))
  have hl := serverHandleMethodSelection_length hr
  simp only [serverAccept, hr, bind, Except.bind, pure, Except.pure]
  rcases r.err with _ | e
  · exact serverHandleRequest_ne_error A (by simp [hl]) (by omega) h4 p
  · exact Except.noConfusion

theorem serverAcceptUsernamePassword_ne_error (hmax : 255 ≤ A.maxAddrLen)
    (h4 : A.ipv4UnspecifiedAddr.length ≤ A.maxAddrLen) (users : Bytes → Option UserInfo)
    (p : Panic) : serverAcceptUsernamePassword A lap rw users tcp udp ≠ .error p := by
  obtain ⟨r, hr⟩ := exists_ok_of_ne_error (@serverHandleMethodSelection_ne_error rw
    (List.replicate (3 + A.maxAddrLen) 0) methodUsernamePassword (by simp; omega))
  have hl := serverHandleMethodSelection_length hr
  obtain ⟨u, hu⟩ := exists_ok_of_ne_error
    (serverHandleUsernamePassword_ne_error r.rw r.b users (by simp [hl]; omega))
  simp only [serverAcceptUsernamePassword, hr, bind, Except.bind, pure, Except.pure]
  rcases hre : r.err with _ | e
  · simp only [hu]
    rcases hue : u.err with _ | e
    · rcases ho : serverHandleRequest A lap u.rw u.b tcp udp with p' | o
      · exact absurd ho (serverHandleRequest_ne_error A
          (by simp [serverHandleUsernamePassword_length hu hue, hl]) (by omega) h4 p')
      · exact Except.noConfusion
    · exact Except.noConfusion
  · exact Except.noConfusion

theorem clientRequest_ne_error (hmax : 255 ≤ A.maxAddrLen)
    (hl : ∀ a, (A.writeAddrFromConnAddr a).length ≤ A.maxAddrLen) (cmd : UInt8) (a : Addr)
    (p : Panic) : clientRequest A rw cmd a ≠ .error p := by
  obtain ⟨c, hc, hcl⟩ := clientNegotiateAuthMethod_ok (ε := ε) rw methodNoAuthenticationRequired
    (show 3 ≤ (List.replicate (3 + A.maxAddrLen) (0 : UInt8)).length by simp)
  simp only [clientRequest, hc, bind, Except.bind, pure, Except.pure]
  rcases c.2.2 with _ | e
  · exact clientDoRequest_ne_error A c.1 cmd a (by simp [hcl]) (by omega) (hl a) p
  · exact Except.noConfusion

theorem clientRequestUsernamePassword_ne_error (hmax : 255 ≤ A.maxAddrLen)
    (hl : ∀ a, (A.writeAddrFromConnAddr a).length ≤ A.maxAddrLen) (authMsg : Bytes) (cmd : UInt8)
    (a : Addr) (p : Panic) : clientRequestUsernamePassword A rw authMsg cmd a ≠ .error p := by
  obtain ⟨c, hc, hcl⟩ := clientNegotiateAuthMethod_ok (ε := ε) rw methodUsernamePassword
    (show 3 ≤ (List.replicate (3 + A.maxAddrLen) (0 : UInt8)).length by simp)
  simp only [clientRequestUsernamePassword, hc, bind, Except.bind, pure, Except.pure]
  rcases c.2.2 with _ | e
  · obtain ⟨r, hr, hrl⟩ := clientDoUsernamePasswordAuth_ok c.1 authMsg (b := c.2.1)
      (by simp [hcl]; omega)
    simp only [hr]
    rcases r.err with _ | e
    · exact clientDoRequest_ne_error A r.rw cmd a (by simp [hrl, hcl]) (by omega) (hl a) p
    · exact Except.noConfusion
  · exact Except.noConfusion

end NoPanic

/-- With `MaxAddrLen` at least 255, no entry point of either half ever panics, whatever the peer
sends. -/
theorem handshake_ne_error (hmax : 255 ≤ A.maxAddrLen)
    (h4 : A.ipv4UnspecifiedAddr.length ≤ A.maxAddrLen)
    (hl : ∀ a, (A.writeAddrFromConnAddr a).length ≤ A.maxAddrLen) (lap : Option AddrPort)
    (rw : Conn) (users : Bytes → Option UserInfo) (tcp udp : Bool) (authMsg : Bytes) (cmd : UInt8)
    (a : Addr) (p : Panic) :
    serverAccept A lap rw tcp udp ≠ .error p ∧
      serverAcceptUsernamePassword A lap rw users tcp udp ≠ .error p ∧
      clientRequest A rw cmd a ≠ .error p ∧ clientRequestUsernamePassword A rw authMsg cmd a ≠ .error p :=
  ⟨serverAccept_ne_error A hmax h4 p, serverAcceptUsernamePassword_ne_error A hmax h4 users p,
    clientRequest_ne_error A hmax hl cmd a p,
    clientRequestUsernamePassword_ne_error A hmax hl authMsg cmd a p⟩

theorem handshake_ne_error_maxAddrLen : 255 ≤ (oneByteAddrFns 259).maxAddrLen ∧
    ∀ p, serverAcceptUsernamePassword (oneByteAddrFns 259) none ⟨[5, 1, 2, 1, 1, 7, 1, 7], [], true⟩
      (fun _ => none) true false ≠ .error p :=
  ⟨by decide, fun p => (handshake_ne_error (oneByteAddrFns 259) (by decide) (by decide)
    (fun _ => by simp [oneByteAddrFns]) none ⟨[5, 1, 2, 1, 1, 7, 1, 7], [], true⟩ (fun _ => none)
    true false [] cmdConnect 7 p).2.1⟩

section Whole

theorem serverAccept_of_greeting (hmax : 254 ≤ A.maxAddrLen) (g : Greeting)
    (hg : methodNoAuthenticationRequired ∈ g.methods) (lap : Option AddrPort) (tcp udp : Bool)
    (more out : Bytes) :
    ∃ b', b'.length = 3 + A.maxAddrLen ∧
      serverAccept A lap ⟨g.bytes ++ more, out, true⟩ tcp udp =
        serverHandleRequest A lap ⟨more, out ++ [version, methodNoAuthenticationRequired], true⟩ b'
          tcp udp := by
  have hb : 1 + 1 + 255 ≤ (List.replicate (3 + A.maxAddrLen) (0 : UInt8)).length := by simp; omega
  obtain ⟨b₁, h₁⟩ := @serverHandleMethodSelection_of_greeting _ methodNoAuthenticationRequired g
    more out true hb
  simp only [hg, if_true] at h₁
  refine ⟨b₁, by simpa using serverHandleMethodSelection_length h₁, ?_⟩
  simp only [serverAccept, h₁, bind, Except.bind, pure, Except.pure]

theorem clientRequest_of_method (cmd : UInt8) (a : Addr) (more out : Bytes) :
    ∃ b', b'.length = 3 + A.maxAddrLen ∧
      clientRequest A ⟨[version, methodNoAuthenticationRequired] ++ more, out, true⟩ cmd a =
        clientDoRequest A ⟨more, out ++ [version, 1, methodNoAuthenticationRequired], true⟩ b' cmd a := by
  obtain ⟨b₁, hl₁, h₁⟩ := clientNegotiateAuthMethod_of_reply (ε := ε) methodNoAuthenticationRequired
    version methodNoAuthenticationRequired more out (b := List.replicate (3 + A.maxAddrLen) 0)
    (by simp)
  simp only [ne_eq, not_true_eq_false, if_false, List.length_replicate] at h₁ hl₁
  exact ⟨b₁, hl₁, by simp only [clientRequest, h₁, bind, Except.bind, pure, Except.pure]⟩

/-- `ClientRequest` against `ServerAccept`, each fed what the other wrote: each reads exactly the
other's bytes, and they succeed as the command and the settings allow. -/
theorem clientRequest_roundTrip (hA : A.Codec) (hmax : 254 ≤ A.maxAddrLen) (lap : Option AddrPort)
    (tcp udp : Bool) (cmd : UInt8) (a : Addr) (rest out out' : Bytes) :
    ∃ reply s c,
      serverAccept A lap ⟨[version, 1, methodNoAuthenticationRequired, version, cmd, 0] ++
        A.writeAddrFromConnAddr a ++ rest, out, true⟩ tcp udp = .ok s ∧
      s.rw.output = out ++ [version, methodNoAuthenticationRequired] ++ reply ∧
      clientRequest A ⟨[version, methodNoAuthenticationRequired] ++ reply, out', true⟩ cmd a = .ok c ∧
      c.rw.output = out' ++ [version, 1, methodNoAuthenticationRequired, version, cmd, 0] ++
        A.writeAddrFromConnAddr a ∧
      s.val = a ∧ (s.err = none ↔ cmd = cmdConnect ∧ tcp = true) ∧
      (s.err = none → s.rw.input = rest) ∧
      (c.err = none ↔ cmd = cmdConnect ∧ tcp = true ∨
        cmd = cmdUDPAssociate ∧ udp = true ∧ lap.isSome = true) ∧
      (c.err = none → c.rw.input = [] ∧ A.writeAddrFromConnAddr c.val =
        if cmd = cmdConnect then A.ipv4UnspecifiedAddr else (lap.map A.appendAddrFromAddrPort).getD []) := by
  let g : Greeting := ⟨[methodNoAuthenticationRequired], Nat.one_pos, by simp⟩
  obtain ⟨b₁, hl₁, hsrv⟩ := serverAccept_of_greeting A hmax g (by simp [g]) lap tcp udp
    ([version, cmd, 0] ++ A.writeAddrFromConnAddr a ++ rest) out
  obtain ⟨s, hs, hv, ho, he, hi⟩ := serverHandleRequest_of_request hA lap tcp udp cmd a rest
    (out ++ [version, methodNoAuthenticationRequired]) (b := b₁) (by omega)
  obtain ⟨b₂, hl₂, hcli⟩ := clientRequest_of_method A cmd a (requestReply A lap cmd tcp udp) out'
  obtain ⟨c, hc, hco, hce, hcs⟩ := clientDoRequest_of_requestReply hA lap tcp udp cmd a []
    (out' ++ [version, 1, methodNoAuthenticationRequired]) (b := b₂) (by omega) (.inr rfl)
  rw [List.append_nil] at hc
  exact ⟨requestReply A lap cmd tcp udp, s, c, hsrv.trans hs, ho, hcli.trans hc,
    by rw [hco]; simp, hv, he, hi, hce,
    fun h => ⟨(hcs h).1, requestReply_bound A (hce.1 h) (hcs h).2⟩⟩

theorem clientRequest_roundTrip_udpAssociate :
    ∃ s c reply, serverAccept (oneByteAddrFns 259) (some 4)
        ⟨[version, 1, methodNoAuthenticationRequired, version, cmdUDPAssociate, 0, 1, 9], [], true⟩
        false true = .ok s ∧
      clientRequest (oneByteAddrFns 259) ⟨[version, methodNoAuthenticationRequired] ++ reply, [], true⟩
        cmdUDPAssociate 9 = .ok c ∧ c.err = none ∧ c.val = 4 := by
  obtain ⟨reply, s, c, hs, -, hc, -, -, -, -, hce, hcs⟩ := clientRequest_roundTrip
    (oneByteAddrFns 259) (oneByteAddrFns_codec (by decide)) (by decide) (some 4) false true
    cmdUDPAssociate 9 [] [] []
  have he : c.err = none := hce.2 (.inr ⟨rfl, rfl, rfl⟩)
  exact ⟨s, c, reply, hs, hc, he, by
    simpa [oneByteAddrFns, show cmdUDPAssociate ≠ cmdConnect by decide] using (hcs he).2⟩

theorem serverAcceptUsernamePassword_of_auth (hmax : 255 ≤ A.maxAddrLen) (g : Greeting)
    (hg : methodUsernamePassword ∈ g.methods) (m : AuthRequest) (users : Bytes → Option UserInfo)
    (lap : Option AddrPort) (tcp udp : Bool) (more out : Bytes) :
    ∃ b', b'.length = 3 + A.maxAddrLen ∧
      serverAcceptUsernamePassword A lap ⟨g.bytes ++ m.bytes ++ more, out, true⟩ users tcp udp =
        if authStatus users m = 0 then
          (serverHandleRequest A lap ⟨more, out ++ [version, methodUsernamePassword, 1, 0], true⟩ b'
            tcp udp).map fun o => (o, ((users m.uname).getD ⟨[], []⟩).username)
        else .ok (⟨⟨more, out ++ [version, methodUsernamePassword, 1, 1], true⟩, default,
          some (.socks .incorrectUsernamePassword)⟩, []) := by
  have hb : 1 + 1 + 255 ≤ (List.replicate (3 + A.maxAddrLen) (0 : UInt8)).length := by simp; omega
  obtain ⟨b₁, h₁⟩ := @serverHandleMethodSelection_of_greeting _ methodUsernamePassword g
    (m.bytes ++ more) out true hb
  simp only [hg, if_true] at h₁
  have hl₁ := serverHandleMethodSelection_length h₁
  simp only [List.length_replicate] at hl₁
  obtain ⟨b₂, h₂⟩ := serverHandleUsernamePassword_of_request m more (out ++ [version, methodUsernamePassword])
    true b₁ (by omega) users
  simp only [if_true] at h₂
  by_cases hs : authStatus users m = 0
  · have hl₂ := serverHandleUsernamePassword_length h₂ (by simp [hs])
    refine ⟨b₂, by simp only at hl₂; omega, ?_⟩
    simp only [serverAcceptUsernamePassword, List.append_assoc, h₁, h₂, hs, bind, Except.bind, pure,
      Except.pure, if_true, ne_eq, not_true_eq_false, if_false, List.cons_append, List.nil_append]
    cases serverHandleRequest A lap ⟨more, out ++ [version, methodUsernamePassword, 1, 0], true⟩ b₂
      tcp udp <;> rfl
  · refine ⟨List.replicate (3 + A.maxAddrLen) 0, by simp, ?_⟩
    simp only [serverAcceptUsernamePassword, List.append_assoc, h₁, h₂, hs, bind, Except.bind, pure,
      Except.pure, if_false, ne_eq, not_false_eq_true, if_true]
    simp [authStatus_of_ne_zero hs]

theorem clientRequestUsernamePassword_of_auth (authMsg : Bytes) (cmd : UInt8) (a : Addr)
    (st : UInt8) (more out : Bytes) :
    ∃ b', b'.length = 3 + A.maxAddrLen ∧
      clientRequestUsernamePassword A ⟨[version, methodUsernamePassword, 1, st] ++ more, out, true⟩
          authMsg cmd a =
        if st = 0 then
          clientDoRequest A ⟨more, out ++ [version, 1, methodUsernamePassword] ++ authMsg, true⟩ b' cmd a
        else .ok ⟨⟨more, out ++ [version, 1, methodUsernamePassword] ++ authMsg, true⟩, default,
          some (.socks .incorrectUsernamePassword)⟩ := by
  obtain ⟨b₁, hl₁, h₁⟩ := clientNegotiateAuthMethod_of_reply (ε := ε) methodUsernamePassword version
    methodUsernamePassword ([1, st] ++ more) out (b := List.replicate (3 + A.maxAddrLen) 0) (by simp)
  simp only [ne_eq, not_true_eq_false, if_false, List.length_replicate] at h₁ hl₁
  obtain ⟨b₂, h₂⟩ := clientDoUsernamePasswordAuth_of_reply st more (out ++ [version, 1,
    methodUsernamePassword]) authMsg b₁ (by omega)
  obtain ⟨r, hr, hrl⟩ := clientDoUsernamePasswordAuth_ok ⟨[1, st] ++ more, out ++ [version, 1,
    methodUsernamePassword], true⟩ authMsg (b := b₁) (by omega)
  cases h₂.symm.trans hr
  refine ⟨b₂, by simp only at hrl; omega, ?_⟩
  rw [show [version, methodUsernamePassword] ++ ([1, st] ++ more) =
    [version, methodUsernamePassword, 1, st] ++ more from rfl] at h₁
  simp only [clientRequestUsernamePassword, h₁, h₂, bind, Except.bind, pure, Except.pure]
  by_cases hst : st = 0 <;> simp [hst]

theorem serverAcceptUsernamePassword_phases {lap : Option AddrPort} {rw : Conn}
    {users : Bytes → Option UserInfo} {tcp udp : Bool} {o : Outcome ε Addr} {name : Bytes}
    (h : serverAcceptUsernamePassword A lap rw users tcp udp = .ok (o, name)) (he : o.err = none) :
    ∃ r u, serverHandleMethodSelection rw (List.replicate (3 + A.maxAddrLen) 0)
        methodUsernamePassword = .ok r ∧ r.err = none ∧
      serverHandleUsernamePassword r.rw r.b users = .ok u ∧ u.err = none ∧
      serverHandleRequest A lap u.rw u.b tcp udp = .ok o ∧ name = u.val := by
  obtain ⟨r, hr, h⟩ := bind_eq_ok.1 h
  rcases hre : r.err with _ | e
  · simp only [hre, pure_bind] at h
    obtain ⟨u, hu, h⟩ := bind_eq_ok.1 h
    rcases hue : u.err with _ | e
    · simp only [hue, pure_bind] at h
      obtain ⟨o', ho, h⟩ := bind_eq_ok.1 h
      cases h
      exact ⟨r, u, hr, hre, hu, hue, ho, rfl⟩
    · simp only [hue, pure, Except.pure, Except.ok.injEq, Prod.mk.injEq] at h
      rw [← h.1] at he
      cases he
  · simp only [hre, pure, Except.pure, Except.ok.injEq, Prod.mk.injEq] at h
    rw [← h.1] at he
    cases he

/-- A run of `ServerAcceptUsernamePassword` with no error read a greeting, a listed user's
password and a `CONNECT` request: no input bypasses the authentication. -/
theorem serverAcceptUsernamePassword_authenticated (h4 : A.ipv4UnspecifiedAddr.length ≤ A.maxAddrLen)
    {lap : Option AddrPort} {rw : Conn} {users : Bytes → Option UserInfo} {tcp udp : Bool}
    {o : Outcome ε Addr} {name : Bytes}
    (h : serverAcceptUsernamePassword A lap rw users tcp udp = .ok (o, name)) (he : o.err = none) :
    ∃ (g : Greeting) (m : AuthRequest) (u : UserInfo) (rest : Bytes),
      rw.input = g.bytes ++ m.bytes ++ rest ∧ methodUsernamePassword ∈ g.methods ∧
      users m.uname = some u ∧ m.passwd = u.password ∧ name = u.username ∧
      rest[1]? = some cmdConnect ∧ tcp = true ∧ rw.writeOk = true := by
  obtain ⟨r, u, hr, hre, hu, hue, ho, rfl⟩ := serverAcceptUsernamePassword_phases A h he
  obtain ⟨g, rest₁, hin₁, hg, hw₁, hrw⟩ := serverHandleMethodSelection_accepted hr hre
  have hl := serverHandleMethodSelection_length hr
  obtain ⟨m, rest₂, u', hin₂, hu', hp', -⟩ := serverHandleUsernamePassword_accepted hu hue
  have hbuf := serverHandleUsernamePassword_le_length hu
  have hul := serverHandleUsernamePassword_length hu hue
  simp only [List.length_replicate] at hl
  obtain ⟨b', hreq⟩ := serverHandleUsernamePassword_of_request m rest₂ r.rw.output r.rw.writeOk r.b
    (by omega) users
  have h₀ : authStatus users m = 0 := authStatus_eq_zero_iff.2 ⟨u', hu', hp'⟩
  rw [show r.rw = ⟨m.bytes ++ rest₂, r.rw.output, r.rw.writeOk⟩ from hin₂ ▸ rfl, hreq] at hu
  cases hu
  obtain ⟨htcp, hw₃, rsv, p, more, -, -, hin₃, -⟩ :=
    (serverHandleRequest_gated A lap _ _ tcp udp (by rw [hul]; omega) (by omega) h4 ho).1 he
  have h₁₂ : rest₁ = m.bytes ++ rest₂ := by rw [hrw] at hin₂; exact hin₂
  exact ⟨g, m, u', rest₂, by rw [hin₁, h₁₂, List.append_assoc], hg, hu', hp', by simp [h₀, hu'],
    by rw [show rest₂ = [version, cmdConnect, rsv] ++ p ++ more from hin₃]; rfl, htcp, hw₁⟩

theorem serverAcceptUsernamePassword_authenticated_oneUser :
    ∃ (g : Greeting) (m : AuthRequest) (u : UserInfo) (rest : Bytes),
      [version, 1, methodUsernamePassword, 1, 1, 7, 1, 7, version, cmdConnect, 0, 1, 9] =
        g.bytes ++ m.bytes ++ rest ∧ m.uname = [7] ∧ u = ⟨[7], [7]⟩ ∧ m.passwd = u.password := by
  let users : Bytes → Option UserInfo := fun n => if n = [7] then some ⟨[7], [7]⟩ else none
  obtain ⟨b', hb', h⟩ := serverAcceptUsernamePassword_of_auth (oneByteAddrFns 259) (by decide)
    ⟨[methodUsernamePassword], Nat.one_pos, by simp⟩ (by simp) ⟨[7], [7], by decide, by decide,
    by decide, by decide⟩ users none true false [version, cmdConnect, 0, 1, 9] []
  rw [if_pos (by decide), serverHandleRequest_of_encoded (oneByteAddrFns_codec (show 2 ≤ 259 by decide))
    _ (by rw [hb']) (show [version, cmdConnect, 0, 1, 9] = [version, cmdConnect, 0] ++ [1, 9] ++ []
    from rfl), serverHandleCommand_eq _ none _ cmdConnect true false (by simp [hb', oneByteAddrFns])] at h
  obtain ⟨g, m, u, rest, hin, -, hu, hp, -⟩ :=
    serverAcceptUsernamePassword_authenticated (oneByteAddrFns 259) (by decide) h rfl
  have hm : m.uname = [7] := by
    by_contra hne
    simp [users, hne] at hu
  refine ⟨g, m, u, rest, hin, hm, ?_, hp⟩
  simpa [users, hm, eq_comm] using hu

/-- `ClientConnectUsernamePassword` against `ServerAcceptUsernamePassword`: both succeed iff the
server holds the credentials and enables `CONNECT`, each reading what the other wrote. -/
theorem connectUsernamePassword_roundTrip (hA : A.Codec) (hmax : 255 ≤ A.maxAddrLen)
    (users : Bytes → Option UserInfo) (u : UserInfo) (hu : u.validate = none)
    (lap : Option AddrPort) (tcp udp : Bool) (a : Addr) (rest out rest' out' : Bytes) :
    ∃ sent reply s c,
      serverAcceptUsernamePassword A lap ⟨sent ++ rest, out, true⟩ users tcp udp = .ok s ∧
      s.1.rw.output = out ++ reply ∧
      clientConnectUsernamePassword A ⟨reply ++ rest', out', true⟩ (u.appendAuthMsg []) a = .ok c ∧
      c.1.output = out' ++ sent ∧
      sent = [version, 1, methodUsernamePassword] ++ u.appendAuthMsg [] ++
        (if (users u.username).map UserInfo.password = some u.password then
          [version, cmdConnect, 0] ++ A.writeAddrFromConnAddr a else []) ∧
      (s.1.err = none ↔ (users u.username).map UserInfo.password = some u.password ∧ tcp = true) ∧
      (c.2 = none ↔ s.1.err = none) ∧
      (s.1.err = none → s.1.val = a ∧ (users u.username).map UserInfo.username = some s.2 ∧
        s.1.rw.input = rest ∧ c.1.input = rest') := by
  obtain ⟨m, hm, hmu, hmp⟩ := u.appendAuthMsg_request_iff.2 hu
  have hok : authStatus users m = 0 ↔ (users u.username).map UserInfo.password = some u.password := by
    rw [authStatus_eq_zero_iff, hmu, hmp]
    cases users u.username <;> simp [eq_comm]
  let g : Greeting := ⟨[methodUsernamePassword], Nat.one_pos, by simp⟩
  by_cases hs : authStatus users m = 0
  · -- the credentials are accepted: the request is read and answered
    obtain ⟨v, hv, -⟩ := authStatus_eq_zero_iff.1 hs
    obtain ⟨ip, hip⟩ := hA.unspecified
    obtain ⟨b', hb', hsrv⟩ := serverAcceptUsernamePassword_of_auth A hmax g (by simp [g]) m users lap
      tcp udp ([version, cmdConnect, 0] ++ A.writeAddrFromConnAddr a ++ rest) out
    rw [if_pos hs, serverHandleRequest_of_encoded hA _ (by omega) rfl,
      serverHandleCommand_connect A lap _ rfl tcp udp
        (by rw [← hip, List.length_append, hA.take_two_length a, List.length_drop]
            have := hA.le_max ip; omega)] at hsrv
    -- the reply's `REP`
    let st : UInt8 := if tcp then replySucceeded else replyCommandNotSupported
    have hst : st = replySucceeded ↔ tcp = true := by cases tcp <;> decide
    obtain ⟨b'', hb'', hcli⟩ := clientRequestUsernamePassword_of_auth A (u.appendAuthMsg [])
      cmdConnect a 0 ([version, st, 0] ++ A.writeAddrFromConnAddr ip ++ rest') out'
    rw [if_pos rfl] at hcli
    obtain ⟨c, hc, hco, hce, hcs⟩ := clientDoRequest_of_reply hA a ip cmdConnect st rest'
      (out' ++ [version, 1, methodUsernamePassword] ++ u.appendAuthMsg []) (b := b'') (by omega)
    have hse : (if tcp then none else some (HandshakeError.unsupportedCommand (ε := ε) cmdConnect)) =
        none ↔ tcp = true := by cases tcp <;> simp
    refine ⟨[version, 1, methodUsernamePassword] ++ u.appendAuthMsg [] ++
      ([version, cmdConnect, 0] ++ A.writeAddrFromConnAddr a), [version, methodUsernamePassword, 1, 0] ++
      [version, st, 0] ++ A.ipv4UnspecifiedAddr, _, (c.rw, c.err),
      by rw [hm.symm]; simpa [g, Greeting.bytes] using hsrv, by simp, ?_,
      by rw [hco]; simp, by rw [if_pos (hok.1 hs)], by simp [hok.1 hs, hse],
      hce.trans (hst.trans hse.symm), fun he => ⟨rfl, by rw [← hmu, hv]; rfl, rfl,
        (hcs (hce.2 (hst.2 (hse.1 he)))).1⟩⟩
    simp only [clientConnectUsernamePassword, ← hip]
    rw [show [version, methodUsernamePassword, 1, 0] ++ [version, st, 0] ++ A.writeAddrFromConnAddr ip ++
      rest' = [version, methodUsernamePassword, 1, 0] ++ ([version, st, 0] ++ A.writeAddrFromConnAddr ip ++
      rest') by simp, hcli, hc]
    rfl
  · -- the credentials are refused: the client sends no request
    obtain ⟨b', -, hsrv⟩ := serverAcceptUsernamePassword_of_auth A hmax g (by simp [g]) m users lap
      tcp udp rest out
    rw [if_neg hs] at hsrv
    obtain ⟨b'', -, hcli⟩ := clientRequestUsernamePassword_of_auth A (u.appendAuthMsg []) cmdConnect
      a 1 rest' out'
    rw [if_neg (by decide)] at hcli
    refine ⟨[version, 1, methodUsernamePassword] ++ u.appendAuthMsg [], [version, methodUsernamePassword,
      1, 1], _, _, by rw [hm.symm]; simpa [g, Greeting.bytes] using hsrv, by simp,
      by simp only [clientConnectUsernamePassword, hcli]; rfl, by simp, by rw [if_neg (mt hok.2 hs)]; simp,
      by simp [mt hok.2 hs], by simp, fun h => absurd h (by simp)⟩

theorem connectUsernamePassword_roundTrip_oneUser :
    UserInfo.validate ⟨[7], [7]⟩ = none ∧
    ∃ sent reply s c, serverAcceptUsernamePassword (oneByteAddrFns 259) none ⟨sent, [], true⟩
        (fun n => if n = [7] then some ⟨[7], [7]⟩ else none) true false = .ok s ∧
      clientConnectUsernamePassword (oneByteAddrFns 259) ⟨reply, [], true⟩
        (UserInfo.appendAuthMsg ⟨[7], [7]⟩ []) 9 = .ok c ∧ s.1.err = none ∧ c.2 = none := by
  obtain ⟨sent, reply, s, c, hs, -, hc, -, -, hse, hce, -⟩ := connectUsernamePassword_roundTrip
    (oneByteAddrFns 259) (oneByteAddrFns_codec (show 2 ≤ 259 by decide)) (by decide)
    (fun n => if n = [7] then some ⟨[7], [7]⟩ else none) ⟨[7], [7]⟩ (by decide) none true false 9
    [] [] [] []
  have he : s.1.err = none := hse.2 ⟨by decide, rfl⟩
  exact ⟨by decide, sent, reply, s, c, by simpa using hs, by simpa using hc, he, hce.2 he⟩

/-- `ClientRequestUsernamePassword` against `ServerAcceptUsernamePassword`, for every command,
when the server holds the client's credentials. -/
theorem clientRequestUsernamePassword_roundTrip (hA : A.Codec) (hmax : 255 ≤ A.maxAddrLen)
    (users : Bytes → Option UserInfo) (u : UserInfo) (hu : u.validate = none)
    (hv : (users u.username).map UserInfo.password = some u.password) (lap : Option AddrPort)
    (tcp udp : Bool) (cmd : UInt8) (a : Addr) (rest out out' : Bytes) :
    ∃ reply s c,
      serverAcceptUsernamePassword A lap ⟨[version, 1, methodUsernamePassword] ++
        u.appendAuthMsg [] ++ [version, cmd, 0] ++ A.writeAddrFromConnAddr a ++ rest, out, true⟩
        users tcp udp = .ok s ∧
      s.1.rw.output = out ++ [version, methodUsernamePassword, 1, 0] ++ reply ∧
      clientRequestUsernamePassword A ⟨[version, methodUsernamePassword, 1, 0] ++ reply, out', true⟩
        (u.appendAuthMsg []) cmd a = .ok c ∧
      c.rw.output = out' ++ [version, 1, methodUsernamePassword] ++ u.appendAuthMsg [] ++
        [version, cmd, 0] ++ A.writeAddrFromConnAddr a ∧
      s.1.val = a ∧ (users u.username).map UserInfo.username = some s.2 ∧
      (s.1.err = none ↔ cmd = cmdConnect ∧ tcp = true) ∧ (s.1.err = none → s.1.rw.input = rest) ∧
      (c.err = none ↔ cmd = cmdConnect ∧ tcp = true ∨
        cmd = cmdUDPAssociate ∧ udp = true ∧ lap.isSome = true) ∧
      (c.err = none → c.rw.input = [] ∧ A.writeAddrFromConnAddr c.val =
        if cmd = cmdConnect then A.ipv4UnspecifiedAddr
        else (lap.map A.appendAddrFromAddrPort).getD []) := by
  obtain ⟨m, hm, hmu, hmp⟩ := u.appendAuthMsg_request_iff.2 hu
  have hs : authStatus users m = 0 := by
    rw [authStatus_eq_zero_iff, hmu, hmp]
    cases h : users u.username <;> simp_all [eq_comm]
  obtain ⟨v, hv', -⟩ := authStatus_eq_zero_iff.1 hs
  let g : Greeting := ⟨[methodUsernamePassword], Nat.one_pos, by simp⟩
  -- the server: method selection and authentication, then the request
  obtain ⟨b₁, hl₁, hsrv⟩ := serverAcceptUsernamePassword_of_auth A hmax g (by simp [g]) m users lap
    tcp udp ([version, cmd, 0] ++ A.writeAddrFromConnAddr a ++ rest) out
  obtain ⟨s, hs₁, hsv, hso, hse, hsi⟩ := serverHandleRequest_of_request hA lap tcp udp cmd a rest
    (out ++ [version, methodUsernamePassword, 1, 0]) (b := b₁) (by omega)
  rw [if_pos hs, hs₁] at hsrv
  -- the client: the same two phases, then the reply
  obtain ⟨b₂, hl₂, hcli⟩ := clientRequestUsernamePassword_of_auth A (u.appendAuthMsg []) cmd a 0
    (requestReply A lap cmd tcp udp) out'
  rw [if_pos rfl] at hcli
  obtain ⟨c, hc, hco, hce, hcs⟩ := clientDoRequest_of_requestReply hA lap tcp udp cmd a []
    (out' ++ [version, 1, methodUsernamePassword] ++ u.appendAuthMsg []) (b := b₂) (by omega)
    (.inr rfl)
  rw [List.append_nil] at hc
  exact ⟨requestReply A lap cmd tcp udp, (s, ((users m.uname).getD ⟨[], []⟩).username), c,
    by rw [← hm]; simpa [g, Greeting.bytes] using hsrv, by simp [hso], by simpa using hcli.trans hc,
    hco, hsv, by rw [← hmu, hv']; rfl, hse, hsi, hce,
    fun h => ⟨(hcs h).1, requestReply_bound A (hce.1 h) (hcs h).2⟩⟩

theorem clientRequestUsernamePassword_roundTrip_udpAssociate :
    UserInfo.validate ⟨[7], [7]⟩ = none ∧
    (((fun n => if n = [7] then some ⟨[7], [7]⟩ else none) [7] : Option UserInfo).map
      UserInfo.password = some [7]) ∧
    ∃ reply s c, serverAcceptUsernamePassword (oneByteAddrFns 259) (some 4)
        ⟨[version, 1, methodUsernamePassword] ++ UserInfo.appendAuthMsg ⟨[7], [7]⟩ [] ++
          [version, cmdUDPAssociate, 0, 1, 9], [], true⟩
        (fun n => if n = [7] then some ⟨[7], [7]⟩ else none) false true = .ok s ∧
      clientRequestUsernamePassword (oneByteAddrFns 259)
        ⟨[version, methodUsernamePassword, 1, 0] ++ reply, [], true⟩
        (UserInfo.appendAuthMsg ⟨[7], [7]⟩ []) cmdUDPAssociate 9 = .ok c ∧
      c.err = none ∧ c.val = 4 := by
  obtain ⟨reply, s, c, hs, -, hc, -, -, -, -, -, hce, hcs⟩ := clientRequestUsernamePassword_roundTrip
    (oneByteAddrFns 259) (oneByteAddrFns_codec (show 2 ≤ 259 by decide)) (by decide)
    (fun n => if n = [7] then some ⟨[7], [7]⟩ else none) ⟨[7], [7]⟩ (by decide) rfl (some 4) false
    true cmdUDPAssociate 9 [] [] []
  have he : c.err = none := hce.2 (.inr ⟨rfl, rfl, rfl⟩)
  exact ⟨by decide, rfl, reply, s, c, by simpa using hs, hc, he, by
    simpa [oneByteAddrFns, show cmdUDPAssociate ≠ cmdConnect by decide] using (hcs he).2⟩

end Whole

end Entry

end Socks5
end ShadowsocksGo
