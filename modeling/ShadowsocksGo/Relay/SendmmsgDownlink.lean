import ShadowsocksGo.Relay.State

/-! # The batched downlink

`relayNatConnToServerConnSendmmsg` beside `relayNatConnToServerConnGeneric`, run over what their
reads on `natConn` return. A batch's write is one entry per message that passes every check, in
receive order; the sockaddr length stays the one computed for the session's first client. -/

namespace ShadowsocksGo
namespace Relay
namespace Sendmmsg

abbrev Payload := ℕ × ℕ × ℕ

/-- A datagram from `natConn` as the checks after the read see it: `ParseFlagsForError`,
`UnpackInPlace`, and what `PackInPlace` returns at each `maxClientPacketSize`. -/
structure Reading where
  flagsOk : Bool
  unpacked : Option Payload
  pack : ℕ → Option (ℕ × ℕ)

/-- A message of a `Recvmmsg` batch: whether `SockaddrToAddrPort` parses its name, and the
datagram. -/
structure Mmsg where
  sourceOk : Bool
  reading : Reading

/-- What one `Recvmmsg` returns, with the `clientAddrInfo` the loop loads after it. -/
inductive Batch
  | deadlineExceeded
  | error
  | msgs (ms : List Mmsg) (loaded : ClientAddrInfo)

/-- What one `ReadMsgUDPAddrPort` of the generic loop returns, with the `clientAddrInfo` it
loads once the datagram is unpacked. -/
inductive Read
  | deadlineExceeded
  | error
  | datagram (d : Reading) (loaded : ClientAddrInfo)

/-- A datagram sent on `serverConn`: the payload, repacked at `packetStart` for
`packetLength` bytes, its control message, and the destination sockaddr with its length. -/
structure Datagram (σ : Type) where
  payload : Payload
  start : ℕ
  length : ℕ
  pktinfo : List UInt8
  name : σ
  namelen : ℕ
  deriving DecidableEq

/-- An entry of `smsgvec[:ns]`: the index `i` of the `bufvec` buffer its iovec points into,
and the datagram. -/
structure Entry (σ : Type) where
  buf : ℕ
  dgram : Datagram σ
  deriving DecidableEq

/-- `s.batchSize`, and the helpers of the downlink not in src/: `conn.AddrPortToSockaddrValue` and
`zerocopy.MaxPacketSizeForAddr(s.mtu, ·)`. -/
structure DownConfig (σ : Type) where
  batchSize : ℕ
  addrPortToSockaddrValue : ℕ → σ × ℕ
  maxPacketSizeForAddr : ℕ → ℕ

/-- The variables of `relayNatConnToServerConnSendmmsg` that outlive an iteration. -/
structure DownState (σ : Type) where
  clientAddrInfo : ClientAddrInfo
  maxClientPacketSize : ℕ
  rsa6 : σ
  namelen : ℕ
  control : List (List UInt8)

section Code

variable {σ : Type} (E : DownConfig σ)

def Reading.repack (d : Reading) (maxClientPacketSize : ℕ) : Option (Payload × ℕ × ℕ) :=
  if d.flagsOk then
    d.unpacked.bind fun pl => (d.pack maxClientPacketSize).map fun w => (pl, w)
  else none

def Mmsg.repack (m : Mmsg) (maxClientPacketSize : ℕ) : Option (Payload × ℕ × ℕ) :=
  if m.sourceOk then m.reading.repack maxClientPacketSize else none

def survivors (maxClientPacketSize : ℕ) : ℕ → List Mmsg → List (ℕ × Payload × ℕ × ℕ)
  | _, [] => []
  | i, m :: ms =>
    match m.repack maxClientPacketSize with
    | some (pl, w) => (i, pl, w) :: survivors maxClientPacketSize (i + 1) ms
    | none => survivors maxClientPacketSize (i + 1) ms

def DownState.init (cai : ClientAddrInfo) : Option (DownState σ) :=
  if 0 < E.batchSize ∧ cai.pktinfo = [] then none
  else some ⟨cai, E.maxPacketSizeForAddr cai.addrPort, (E.addrPortToSockaddrValue cai.addrPort).1,
    (E.addrPortToSockaddrValue cai.addrPort).2, List.replicate E.batchSize cai.pktinfo⟩

/-- The load of `entry.clientAddrInfo` after a batch: a new value recomputes what derives from
the client but `namelen`, and re-points every `smsgvec` entry's `Control`. -/
def DownState.load (st : DownState σ) (caip : ClientAddrInfo) : Option (DownState σ) :=
  if caip = st.clientAddrInfo then some st
  else if 0 < E.batchSize ∧ caip.pktinfo = [] then none
  else some { st with
    clientAddrInfo := caip
    maxClientPacketSize := E.maxPacketSizeForAddr caip.addrPort
    rsa6 := (E.addrPortToSockaddrValue caip.addrPort).1
    control := List.replicate E.batchSize caip.pktinfo }

def DownState.entries (st : DownState σ) (sv : List (ℕ × Payload × ℕ × ℕ)) : List (Entry σ) :=
  List.zipWith (fun ctl (i, pl, start, len) => ⟨i, ⟨pl, start, len, ctl, st.rsa6, st.namelen⟩⟩)
    st.control sv

/-- One iteration after a successful `Recvmmsg`: the load, the loop over the messages, and
the write unless no message survived. -/
def DownState.iter (st : DownState σ) (ms : List Mmsg) (caip : ClientAddrInfo) :
    Option (DownState σ × List (List (Entry σ))) :=
  (st.load E caip).map fun st =>
    (st, if survivors st.maxClientPacketSize 0 ms = [] then []
      else [st.entries (survivors st.maxClientPacketSize 0 ms)])

/-- The loop over what `Recvmmsg` returns: the `WriteMsgvec` calls, or `none` on a panic. -/
def downLoop : DownState σ → List Batch → Option (List (List (Entry σ)))
  | _, [] => some []
  | _, .deadlineExceeded :: _ => some []
  | st, .error :: rs => downLoop st rs
  | st, .msgs ms caip :: rs =>
    (st.iter E ms caip).bind fun (st', w) => (downLoop st' rs).map (w ++ ·)

/-- `relayNatConnToServerConnSendmmsg` started for the client `clientAddrInfo`. -/
def relayNatConnToServerConnSendmmsg (clientAddrInfo : ClientAddrInfo) (rs : List Batch) :
    Option (List (List (Entry σ))) :=
  (DownState.init E clientAddrInfo).bind fun st => downLoop E st rs

def DownConfig.datagram (c : ClientAddrInfo) (pl : Payload) (w : ℕ × ℕ) : Datagram σ :=
  ⟨pl, w.1, w.2, c.pktinfo, (E.addrPortToSockaddrValue c.addrPort).1,
    (E.addrPortToSockaddrValue c.addrPort).2⟩

def genericLoad (c : ClientAddrInfo) (m : ℕ) (caip : ClientAddrInfo) : ClientAddrInfo × ℕ :=
  if caip = c then (c, m) else (caip, E.maxPacketSizeForAddr caip.addrPort)

def genericLoop : ClientAddrInfo → ℕ → List Read → List (Datagram σ)
  | _, _, [] => []
  | _, _, .deadlineExceeded :: _ => []
  | c, m, .error :: rs => genericLoop c m rs
  | c, m, .datagram d caip :: rs =>
    if d.flagsOk then
      match d.unpacked with
      | none => genericLoop c m rs
      | some pl =>
        match d.pack (genericLoad E c m caip).2 with
        | none => genericLoop (genericLoad E c m caip).1 (genericLoad E c m caip).2 rs
        | some w => E.datagram (genericLoad E c m caip).1 pl w ::
            genericLoop (genericLoad E c m caip).1 (genericLoad E c m caip).2 rs
    else genericLoop c m rs

/-- `relayNatConnToServerConnGeneric` started for the client `clientAddrInfo`. -/
def relayNatConnToServerConnGeneric (clientAddrInfo : ClientAddrInfo) (rs : List Read) :
    List (Datagram σ) :=
  genericLoop E clientAddrInfo (E.maxPacketSizeForAddr clientAddrInfo.addrPort) rs

end Code

section Spec

variable {σ : Type} (E : DownConfig σ)

def batchWrites (caip : ClientAddrInfo) (n : ℕ) (ms : List Mmsg) : List (List (Entry σ)) :=
  if survivors (E.maxPacketSizeForAddr caip.addrPort) 0 ms = [] then []
  else [(survivors (E.maxPacketSizeForAddr caip.addrPort) 0 ms).map fun (i, pl, start, len) =>
    ⟨i, ⟨pl, start, len, caip.pktinfo, (E.addrPortToSockaddrValue caip.addrPort).1, n⟩⟩]

def expectedWrites (namelen : ClientAddrInfo → ℕ) : List Batch → List (List (Entry σ))
  | [] => []
  | .deadlineExceeded :: _ => []
  | .error :: rs => expectedWrites namelen rs
  | .msgs ms caip :: rs => batchWrites E caip (namelen caip) ms ++ expectedWrites namelen rs

def Batch.reads : Batch → List Read
  | .deadlineExceeded => [.deadlineExceeded]
  | .error => [.error]
  | .msgs ms caip => ms.map fun m => if m.sourceOk then .datagram m.reading caip else .error

def DownConfig.Admissible (rs : List Batch) : Prop :=
  ∀ ms caip, Batch.msgs ms caip ∈ rs → ms.length ≤ E.batchSize ∧ caip.pktinfo ≠ []

end Spec

section Survivors

variable {m : ℕ}

theorem survivors_fst_mem {i k : ℕ} {ms : List Mmsg} (h : k ∈ (survivors m i ms).map Prod.fst) :
    i ≤ k ∧ k < i + ms.length := by
  induction ms generalizing i with
  | nil => simp [survivors] at h
  | cons x ms ih =>
    simp only [survivors] at h
    split at h
    · rcases List.mem_cons.mp h with rfl | h
      · simp
      · have := ih h; simp only [List.length_cons]; omega
    · have := ih h; simp only [List.length_cons]; omega

theorem survivors_fst_sorted (i : ℕ) (ms : List Mmsg) :
    ((survivors m i ms).map Prod.fst).Pairwise (· < ·) := by
  induction ms generalizing i with
  | nil => simp [survivors]
  | cons x ms ih =>
    simp only [survivors]
    split
    · simp only [List.map_cons, List.pairwise_cons]
      exact ⟨fun k hk => by have := survivors_fst_mem hk; omega, ih (i + 1)⟩
    · exact ih (i + 1)

theorem survivors_length_le (i : ℕ) (ms : List Mmsg) : (survivors m i ms).length ≤ ms.length := by
  induction ms generalizing i with
  | nil => simp [survivors]
  | cons x ms ih =>
    simp only [survivors]
    split <;> simp only [List.length_cons] <;> have := ih (i + 1) <;> omega

end Survivors

section Refinement

variable {σ : Type} {E : DownConfig σ}

theorem zipWith_replicate_left {α β γ : Type} (f : α → β → γ) (a : α) {n : ℕ} {l : List β}
    (h : l.length ≤ n) : List.zipWith f (List.replicate n a) l = l.map (f a) := by
  induction l generalizing n with
  | nil => simp
  | cons b l ih =>
    obtain ⟨n, rfl⟩ : ∃ k, n = k + 1 := ⟨n - 1, by simp at h; omega⟩
    simp [List.replicate_succ, ih (by simpa using h)]

/-- What the loop keeps of its client: everything derives from the current `clientAddrInfo`,
but `namelen`, which is `n`. -/
structure DownState.Ok (E : DownConfig σ) (n : ℕ) (st : DownState σ) : Prop where
  maxClientPacketSize : st.maxClientPacketSize = E.maxPacketSizeForAddr st.clientAddrInfo.addrPort
  rsa6 : st.rsa6 = (E.addrPortToSockaddrValue st.clientAddrInfo.addrPort).1
  namelen : st.namelen = n
  control : st.control = List.replicate E.batchSize st.clientAddrInfo.pktinfo

theorem DownState.init_ok {cai : ClientAddrInfo} (hp : cai.pktinfo ≠ []) :
    ∃ st, DownState.init E cai = some st ∧ st.clientAddrInfo = cai ∧
      st.Ok E (E.addrPortToSockaddrValue cai.addrPort).2 :=
  ⟨_, if_neg (by simp [hp]), rfl, rfl, rfl, rfl, rfl⟩

theorem DownState.Ok.load {n : ℕ} {st : DownState σ} (h : st.Ok E n) {caip : ClientAddrInfo}
    (hp : caip.pktinfo ≠ []) :
    ∃ st', st.load E caip = some st' ∧ st'.clientAddrInfo = caip ∧ st'.Ok E n := by
  unfold DownState.load
  split_ifs with hc hz
  · exact ⟨st, rfl, hc.symm, h⟩
  · exact absurd hz.2 hp
  · exact ⟨_, rfl, rfl, rfl, rfl, h.namelen, rfl⟩

theorem DownState.Ok.iter {n : ℕ} {st : DownState σ} (h : st.Ok E n) {ms : List Mmsg}
    {caip : ClientAddrInfo} (hp : caip.pktinfo ≠ []) (hms : ms.length ≤ E.batchSize) :
    ∃ st', st.iter E ms caip = some (st', batchWrites E caip n ms) ∧ st'.Ok E n := by
  obtain ⟨st', hl, rfl, h'⟩ := h.load hp
  refine ⟨st', ?_, h'⟩
  simp only [DownState.iter, hl, Option.map_some', batchWrites, ← h'.maxClientPacketSize]
  split_ifs
  · rfl
  · simp only [DownState.entries, h'.control, h'.rsa6, h'.namelen,
      zipWith_replicate_left _ _ ((survivors_length_le _ _).trans hms)]

theorem DownState.Ok.downLoop_eq {n : ℕ} {st : DownState σ} (h : st.Ok E n) {rs : List Batch}
    (hr : E.Admissible rs) : downLoop E st rs = some (expectedWrites E (fun _ => n) rs) := by
  induction rs generalizing st with
  | nil => rfl
  | cons r rs ih =>
    have hr' : E.Admissible rs := fun ms caip hm => hr ms caip (List.mem_cons_of_mem _ hm)
    cases r with
    | deadlineExceeded => rfl
    | error => exact ih h hr'
    | msgs ms caip =>
      obtain ⟨hms, hp⟩ := hr ms caip (List.mem_cons_self _ _)
      obtain ⟨st', hi, h'⟩ := h.iter hp hms
      simp [downLoop, expectedWrites, hi, ih h' hr']

theorem expectedWrites_congr {n n' : ClientAddrInfo → ℕ} {rs : List Batch}
    (h : ∀ ms caip, Batch.msgs ms caip ∈ rs → n caip = n' caip) :
    expectedWrites E n rs = expectedWrites E n' rs := by
  induction rs with
  | nil => rfl
  | cons r rs ih =>
    have ih := ih fun ms caip hm => h ms caip (List.mem_cons_of_mem _ hm)
    cases r with
    | deadlineExceeded => rfl
    | error => exact ih
    | msgs ms caip => simp [expectedWrites, ih, h ms caip (List.mem_cons_self _ _)]

end Refinement

section Generic

variable {σ : Type} {E : DownConfig σ}

theorem genericLoad_ok {c : ClientAddrInfo} {m : ℕ} (h : m = E.maxPacketSizeForAddr c.addrPort)
    (caip : ClientAddrInfo) :
    genericLoad E c m caip = (caip, E.maxPacketSizeForAddr caip.addrPort) := by
  unfold genericLoad
  split_ifs with hc
  · rw [hc, h]
  · rfl

theorem genericLoop_batch {c : ClientAddrInfo} {m : ℕ} (h : m = E.maxPacketSizeForAddr c.addrPort)
    (caip : ClientAddrInfo) (i : ℕ) (ms : List Mmsg) (rest : List Read) :
    ∃ c', genericLoop E c m ((Batch.msgs ms caip).reads ++ rest) =
      (survivors (E.maxPacketSizeForAddr caip.addrPort) i ms).map
        (fun x => E.datagram caip x.2.1 x.2.2) ++
        genericLoop E c' (E.maxPacketSizeForAddr c'.addrPort) rest := by
  induction ms generalizing c m i with
  | nil => exact ⟨c, by simp [Batch.reads, survivors, h]⟩
  | cons x ms ih =>
    obtain ⟨c₁, h₁⟩ := ih h (i + 1)
    obtain ⟨c₂, h₂⟩ := ih rfl (c := caip) (i + 1)
    simp only [Batch.reads, List.map_cons, List.cons_append] at h₁ h₂ ⊢
    simp only [survivors, Mmsg.repack, Reading.repack]
    cases hs : x.sourceOk
    · exact ⟨c₁, by simpa [genericLoop] using h₁⟩
    cases hf : x.reading.flagsOk
    · exact ⟨c₁, by simpa [genericLoop, hf] using h₁⟩
    cases hu : x.reading.unpacked with
    | none => exact ⟨c₁, by simpa [genericLoop, hf, hu] using h₁⟩
    | some pl =>
      cases hw : x.reading.pack (E.maxPacketSizeForAddr caip.addrPort) <;>
        exact ⟨c₂, by simpa [genericLoop, hf, hu, genericLoad_ok h, hw] using h₂⟩

theorem batchWrites_dgram (caip : ClientAddrInfo) (ms : List Mmsg) :
    (batchWrites E caip (E.addrPortToSockaddrValue caip.addrPort).2 ms).flatten.map Entry.dgram =
      (survivors (E.maxPacketSizeForAddr caip.addrPort) 0 ms).map
        (fun x => E.datagram caip x.2.1 x.2.2) := by
  unfold batchWrites
  split_ifs with h
  · simp [h]
  · simp [Function.comp_def, DownConfig.datagram]

theorem expectedWrites_generic {c : ClientAddrInfo} {m : ℕ}
    (h : m = E.maxPacketSizeForAddr c.addrPort) (rs : List Batch) :
    (expectedWrites E (fun c => (E.addrPortToSockaddrValue c.addrPort).2) rs).flatten.map
      Entry.dgram = genericLoop E c m (rs.flatMap Batch.reads) := by
  induction rs generalizing c m with
  | nil => rfl
  | cons r rs ih =>
    cases r with
    | deadlineExceeded => rfl
    | error => exact ih h
    | msgs ms caip =>
      obtain ⟨c', hc'⟩ := genericLoop_batch h caip 0 ms (rs.flatMap Batch.reads)
      simp only [expectedWrites, List.flatMap_cons, hc', List.flatten_append, List.map_append,
        batchWrites_dgram, ih (c := c') rfl]

end Generic

/-- When every loaded client gets the first one's sockaddr length (one `serverConn`), the batched
downlink writes `batchWrites`, in receive order, the datagrams of the generic worker. -/
theorem relayNatConnToServerConnSendmmsg_writes {σ : Type} (E : DownConfig σ)
    {cai : ClientAddrInfo} (hp : cai.pktinfo ≠ []) {rs : List Batch} (hr : E.Admissible rs)
    (hlen : ∀ ms caip, Batch.msgs ms caip ∈ rs →
      (E.addrPortToSockaddrValue caip.addrPort).2 = (E.addrPortToSockaddrValue cai.addrPort).2) :
    relayNatConnToServerConnSendmmsg E cai rs =
      some (expectedWrites E (fun c => (E.addrPortToSockaddrValue c.addrPort).2) rs) ∧
    (∀ ms caip, Batch.msgs ms caip ∈ rs →
      ((survivors (E.maxPacketSizeForAddr caip.addrPort) 0 ms).map Prod.fst).Pairwise (· < ·) ∧
      ∀ i ∈ (survivors (E.maxPacketSizeForAddr caip.addrPort) 0 ms).map Prod.fst,
        i < ms.length) ∧
    (relayNatConnToServerConnSendmmsg E cai rs).map (fun ws => ws.flatten.map Entry.dgram) =
      some (relayNatConnToServerConnGeneric E cai (rs.flatMap Batch.reads)) := by
  obtain ⟨st, hi, rfl, hok⟩ := DownState.init_ok (E := E) hp
  have hrun : relayNatConnToServerConnSendmmsg E st.clientAddrInfo rs =
      some (expectedWrites E (fun c => (E.addrPortToSockaddrValue c.addrPort).2) rs) := by
    simp only [relayNatConnToServerConnSendmmsg, hi, Option.bind_eq_bind, Option.some_bind,
      hok.downLoop_eq hr, expectedWrites_congr fun ms caip hm => (hlen ms caip hm).symm]
  refine ⟨hrun, fun ms caip _ => ⟨survivors_fst_sorted 0 ms, fun i hi => ?_⟩, ?_⟩
  · simpa using (survivors_fst_mem hi).2
  · rw [hrun]
    exact congrArg some (expectedWrites_generic rfl rs)

theorem relayNatConnToServerConnSendmmsg_writes_twoClients :
    (relayNatConnToServerConnSendmmsg ⟨2, fun a => (a, 28), fun _ => 1452⟩ ⟨1, [1]⟩
        [.msgs [⟨true, ⟨true, some (5, 0, 3), fun _ => some (0, 3)⟩⟩,
          ⟨true, ⟨true, none, fun _ => none⟩⟩] ⟨1, [1]⟩, .error,
          .msgs [⟨true, ⟨true, some (6, 0, 4), fun _ => some (1, 4)⟩⟩] ⟨2, [2]⟩]).map
        (fun ws => ws.flatten.map Entry.dgram) =
      some (relayNatConnToServerConnGeneric ⟨2, fun a => (a, 28), fun _ => 1452⟩ ⟨1, [1]⟩
        ([.msgs [⟨true, ⟨true, some (5, 0, 3), fun _ => some (0, 3)⟩⟩,
          ⟨true, ⟨true, none, fun _ => none⟩⟩] ⟨1, [1]⟩, .error,
          .msgs [⟨true, ⟨true, some (6, 0, 4), fun _ => some (1, 4)⟩⟩] ⟨2, [2]⟩].flatMap
          Batch.reads)) :=
  (relayNatConnToServerConnSendmmsg_writes _ (by decide)
    (by
      intro ms caip h
      simp only [List.mem_cons, Batch.msgs.injEq, reduceCtorEq, false_or, List.not_mem_nil,
        or_false] at h
      rcases h with ⟨rfl, rfl⟩ | ⟨rfl, rfl⟩ <;> decide)
    (by
      intro ms caip h
      simp only [List.mem_cons, Batch.msgs.injEq, reduceCtorEq, false_or, List.not_mem_nil,
        or_false] at h
      rcases h with ⟨rfl, rfl⟩ | ⟨rfl, rfl⟩ <;> rfl)).2.2

end Sendmmsg
end Relay
end ShadowsocksGo
