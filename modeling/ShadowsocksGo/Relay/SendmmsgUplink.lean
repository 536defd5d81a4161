import Mathlib.Data.List.Basic

/-! # The batched uplink

`relayServerConnToNatConnSendmmsg` beside `relayServerConnToNatConnGeneric`, over what the worker
receives on `natConnSendCh` up to its close. The packets fall into rounds, each written with one
`WriteMsgvec` of at most `batchSize` messages. -/

namespace ShadowsocksGo
namespace Relay
namespace Sendmmsg

/-- A datagram for `natConn`: the packet's buffer `bufp`, and the `destAddrPort`,
`packetStart` and `packetLength` that `PackInPlace` returned for it. -/
structure Slot where
  bufp : ℕ
  dest : ℕ
  start : ℕ
  length : ℕ
  deriving DecidableEq, Repr

/-- A `sessionQueuedPacket` as the uplink worker receives it: its buffer, what `PackInPlace`
returns, and whether it is in the channel when the receive at `next` looks. -/
structure Queued where
  bufp : ℕ
  pack : Option (ℕ × ℕ × ℕ)
  ready : Bool
  deriving DecidableEq, Repr

def Queued.slot (p : Queued) : Option Slot :=
  p.pack.map fun (dest, start, length) => ⟨p.bufp, dest, start, length⟩

theorem Queued.slot_bufp {p : Queued} {s : Slot} (h : p.slot = some s) : s.bufp = p.bufp := by
  obtain ⟨_, -, rfl⟩ := Option.map_eq_some'.mp h
  rfl

/-- What the uplink worker does that the pool or the network sees: `store i s` writes
`dequeuedPackets[i]`, `namevec[i]` and `iovec[i]`. -/
inductive UpEvent
  | store (i : ℕ) (s : Slot)
  | writeMsgvec (msgs : List Slot)
  | writeToUDPAddrPort (msg : Slot)
  | setReadDeadline
  | put (bufp : ℕ)
  deriving DecidableEq, Repr

def UpEvent.sent : UpEvent → List Slot
  | .writeMsgvec msgs => msgs
  | .writeToUDPAddrPort msg => [msg]
  | _ => []

def UpEvent.putBuf : UpEvent → Option ℕ
  | .put bufp => some bufp
  | _ => none

/-- The end of a round of `main`: `WriteMsgvec(msgvec[:count])`, the read deadline, and the
`Put` of every dequeued buffer. -/
def flush (b : List Slot) : List UpEvent :=
  .writeMsgvec b :: .setReadDeadline :: b.map fun s => .put s.bufp

/-- The body of `dequeue` for the packet `p`, with `b` stored before it; `k` goes on at the next
receive (`continue main` and `goto next` alike). -/
def dequeue (bs : ℕ) (p : Queued) (b : List Slot) (k : List Slot → List UpEvent) :
    List UpEvent :=
  match p.slot with
  | none => .put p.bufp :: k b
  | some s => .store b.length s ::
      if b.length + 1 = bs then flush (b ++ [s]) ++ k [] else k (b ++ [s])

/-- The receive with `b` stored: at `main` when `b` is empty, at `next` otherwise. -/
def recvLoop (bs : ℕ) : List Slot → List Queued → List UpEvent
  | [], [] => []
  | [], p :: ps => dequeue bs p [] (recvLoop bs · ps)
  | b@(_ :: _), [] => flush b
  | b@(_ :: _), p :: ps =>
      if p.ready then dequeue bs p b (recvLoop bs · ps)
      else flush b ++ dequeue bs p [] (recvLoop bs · ps)

/-- `relayServerConnToNatConnSendmmsg` with `s.batchSize = bs`, over the packets sent on
`natConnSendCh` before its close. -/
def relayServerConnToNatConnSendmmsg (bs : ℕ) (ch : List Queued) : List UpEvent :=
  recvLoop bs [] ch

/-- `relayServerConnToNatConnGeneric`: one write per packed packet. -/
def relayServerConnToNatConnGeneric : List Queued → List UpEvent
  | [] => []
  | p :: ps =>
    match p.slot with
    | none => .put p.bufp :: relayServerConnToNatConnGeneric ps
    | some s =>
      .writeToUDPAddrPort s :: .setReadDeadline :: .put p.bufp ::
        relayServerConnToNatConnGeneric ps

def fill : ℕ → List Queued → List UpEvent
  | _, [] => []
  | c, p :: ps =>
    match p.slot with
    | none => .put p.bufp :: fill c ps
    | some s => .store c s :: fill (c + 1) ps

def closeRound (b : List Slot) : List UpEvent :=
  if b = [] then [] else flush b

def round (g : List Queued) : List UpEvent :=
  fill 0 g ++ closeRound (g.filterMap Queued.slot)

@[simp] theorem fill_nil (c : ℕ) : fill c [] = [] := rfl

theorem fill_of_none {p : Queued} (h : p.slot = none) (c : ℕ) (ps : List Queued) :
    fill c (p :: ps) = .put p.bufp :: fill c ps := by
  simp [fill, h]

theorem fill_of_some {p : Queued} {s : Slot} (h : p.slot = some s) (c : ℕ) (ps : List Queued) :
    fill c (p :: ps) = .store c s :: fill (c + 1) ps := by
  simp [fill, h]

@[simp] theorem closeRound_nil : closeRound [] = [] := rfl

theorem closeRound_of_ne_nil {b : List Slot} (h : b ≠ []) : closeRound b = flush b := if_neg h

def RoundsFrom (bs : ℕ) (b : List Slot) (ps : List Queued) (evs : List UpEvent) : Prop :=
  ∃ (g : List Queued) (gs : List (List Queued)), g ++ gs.flatten = ps ∧ b.length + (g.filterMap Queued.slot).length ≤ bs ∧
    (∀ h ∈ gs, (h.filterMap Queued.slot).length ≤ bs) ∧
    evs = fill b.length g ++ closeRound (b ++ g.filterMap Queued.slot) ++ gs.flatMap round

namespace RoundsFrom

variable {bs : ℕ} {b : List Slot} {ps : List Queued} {evs : List UpEvent}

theorem nil_iff : RoundsFrom bs [] ps evs ↔
    ∃ gs : List (List Queued), gs.flatten = ps ∧ (∀ g ∈ gs, (g.filterMap Queued.slot).length ≤ bs) ∧
      evs = gs.flatMap round := by
  constructor
  · rintro ⟨g, gs, rfl, hg, hgs, rfl⟩
    refine ⟨g :: gs, rfl, ?_, by simp [round]⟩
    simp only [List.mem_cons, forall_eq_or_imp]
    exact ⟨by simpa using hg, hgs⟩
  · rintro ⟨gs, rfl, hgs, rfl⟩
    exact ⟨[], gs, rfl, by simp, hgs, by simp⟩

theorem close (hb : b ≠ []) (hbs : b.length ≤ bs) (h : RoundsFrom bs [] ps evs) :
    RoundsFrom bs b ps (flush b ++ evs) := by
  obtain ⟨gs, rfl, hgs, rfl⟩ := nil_iff.mp h
  exact ⟨[], gs, rfl, by simpa using hbs, hgs, by simp [closeRound_of_ne_nil hb]⟩

theorem put {p : Queued} (hp : p.slot = none) (h : RoundsFrom bs b ps evs) :
    RoundsFrom bs b (p :: ps) (.put p.bufp :: evs) := by
  obtain ⟨g, gs, rfl, hg, hgs, rfl⟩ := h
  exact ⟨p :: g, gs, rfl, by simpa [hp] using hg, hgs, by simp [fill_of_none hp, hp]⟩

theorem store {p : Queued} {s : Slot} (hp : p.slot = some s) (h : RoundsFrom bs (b ++ [s]) ps evs) :
    RoundsFrom bs b (p :: ps) (.store b.length s :: evs) := by
  obtain ⟨g, gs, rfl, hg, hgs, rfl⟩ := h
  refine ⟨p :: g, gs, rfl, ?_, hgs, by simp [fill_of_some hp, hp]⟩
  simp only [List.length_append, List.length_singleton] at hg
  simp only [List.filterMap_cons, hp, List.length_cons]
  omega

theorem storeLast {p : Queued} {s : Slot} (hp : p.slot = some s) (hl : b.length + 1 = bs)
    (h : RoundsFrom bs [] ps evs) :
    RoundsFrom bs b (p :: ps) (.store b.length s :: (flush (b ++ [s]) ++ evs)) := by
  obtain ⟨gs, rfl, hgs, rfl⟩ := nil_iff.mp h
  exact ⟨[p], gs, rfl, by simp [hp, hl], hgs, by simp [fill_of_some hp, hp, closeRound_of_ne_nil]⟩

end RoundsFrom

theorem dequeue_roundsFrom {bs : ℕ} {p : Queued} {b : List Slot} {ps : List Queued}
    {k : List Slot → List UpEvent} (hk : ∀ c : List Slot, c.length < bs → RoundsFrom bs c ps (k c))
    (hb : b.length < bs) : RoundsFrom bs b (p :: ps) (dequeue bs p b k) := by
  unfold dequeue
  split
  case h_1 hp => exact .put hp (hk b hb)
  case h_2 s hp =>
    split_ifs with hl
    · exact .storeLast hp hl (hk [] (by simp; omega))
    · exact .store hp (hk _ (by simp; omega))

theorem recvLoop_roundsFrom {bs : ℕ} (hbs : 0 < bs) (ps : List Queued) :
    ∀ b : List Slot, b.length < bs → RoundsFrom bs b ps (recvLoop bs b ps) := by
  induction ps with
  | nil =>
    rintro (_ | ⟨s, b⟩) hb
    · exact RoundsFrom.nil_iff.mpr ⟨[], rfl, by simp, rfl⟩
    · exact ⟨[], [], rfl, by simpa using hb.le, by simp, by simp [recvLoop, closeRound]⟩
  | cons p ps ih =>
    have hmain : RoundsFrom bs [] (p :: ps) (dequeue bs p [] (recvLoop bs · ps)) :=
      dequeue_roundsFrom ih hbs
    rintro (_ | ⟨s, b⟩) hb
    · exact hmain
    · simp only [recvLoop]
      split_ifs
      · exact dequeue_roundsFrom ih hb
      · exact .close (List.cons_ne_nil _ _) hb.le hmain

theorem relayServerConnToNatConnSendmmsg_rounds {bs : ℕ} (hbs : 0 < bs) (ch : List Queued) :
    ∃ gs : List (List Queued), gs.flatten = ch ∧
      (∀ g ∈ gs, (g.filterMap Queued.slot).length ≤ bs) ∧
      relayServerConnToNatConnSendmmsg bs ch = gs.flatMap round :=
  RoundsFrom.nil_iff.mp (recvLoop_roundsFrom hbs ch [] hbs)

theorem fill_store_index {c i : ℕ} {s : Slot} {g : List Queued} (h : .store i s ∈ fill c g) :
    c ≤ i ∧ i < c + (g.filterMap Queued.slot).length := by
  induction g generalizing c with
  | nil => simp at h
  | cons p g ih =>
    cases hp : p.slot with
    | none =>
      rw [fill_of_none hp] at h
      simpa [hp] using ih (by simpa using h)
    | some t =>
      rw [fill_of_some hp] at h
      rcases List.mem_cons.mp h with h | h
      · cases h; simp [hp]
      · have := ih h; simp only [List.filterMap_cons, hp, List.length_cons]; omega

theorem fill_not_writeMsgvec {c : ℕ} {g : List Queued} {m : List Slot} :
    .writeMsgvec m ∉ fill c g := by
  induction g generalizing c with
  | nil => simp
  | cons p g ih => cases hp : p.slot <;> simp [fill_of_none, fill_of_some, hp, ih]

@[simp] theorem fill_sent (c : ℕ) (g : List Queued) : (fill c g).flatMap UpEvent.sent = [] := by
  induction g generalizing c with
  | nil => rfl
  | cons p g ih => cases hp : p.slot <;> simp [fill_of_none, fill_of_some, hp, ih, UpEvent.sent]

theorem fill_putBuf (c : ℕ) (g : List Queued) :
    (fill c g).filterMap UpEvent.putBuf = (g.filter fun p => p.slot.isNone).map Queued.bufp := by
  induction g generalizing c with
  | nil => rfl
  | cons p g ih =>
    cases hp : p.slot <;> simp [fill_of_none, fill_of_some, hp, ih, UpEvent.putBuf]

theorem closeRound_sent (b : List Slot) : (closeRound b).flatMap UpEvent.sent = b := by
  by_cases hb : b = []
  · simp [hb]
  · simp [closeRound_of_ne_nil hb, flush, UpEvent.sent, List.flatMap, Function.comp_def]

theorem closeRound_putBuf (b : List Slot) :
    (closeRound b).filterMap UpEvent.putBuf = b.map Slot.bufp := by
  by_cases hb : b = []
  · simp [hb]
  · simp only [closeRound_of_ne_nil hb, flush, List.filterMap_cons, UpEvent.putBuf,
      List.filterMap_map]
    exact congrFun (List.filterMap_eq_map Slot.bufp) b

theorem round_putBuf_perm (g : List Queued) :
    ((round g).filterMap UpEvent.putBuf).Perm (g.map Queued.bufp) := by
  rw [round, List.filterMap_append, fill_putBuf, closeRound_putBuf]
  induction g with
  | nil => rfl
  | cons p g ih =>
    cases hp : p.slot with
    | none => simpa [hp] using ih
    | some s =>
      simpa [hp, Queued.slot_bufp hp] using (List.perm_middle.trans (ih.cons p.bufp))

theorem rounds_putBuf_perm (gs : List (List Queued)) :
    ((gs.flatMap round).filterMap UpEvent.putBuf).Perm (gs.flatten.map Queued.bufp) := by
  induction gs with
  | nil => rfl
  | cons g gs ih => simpa [List.filterMap_append] using (round_putBuf_perm g).append ih

theorem round_sent (g : List Queued) :
    (round g).flatMap UpEvent.sent = g.filterMap Queued.slot := by
  simp [round, closeRound_sent]

theorem rounds_sent (gs : List (List Queued)) :
    (gs.flatMap round).flatMap UpEvent.sent = gs.flatten.filterMap Queued.slot := by
  induction gs with
  | nil => rfl
  | cons g gs ih => simp [round_sent, ih]

theorem round_writeMsgvec {g : List Queued} {m : List Slot} (h : .writeMsgvec m ∈ round g) :
    m = g.filterMap Queued.slot ∧ m ≠ [] := by
  rcases List.mem_append.mp h with h | h
  · exact absurd h fill_not_writeMsgvec
  · by_cases hb : g.filterMap Queued.slot = []
    · simp [closeRound, hb] at h
    · simp [closeRound_of_ne_nil hb, flush] at h
      exact ⟨h, h ▸ hb⟩

theorem relayServerConnToNatConnGeneric_sent (ch : List Queued) :
    (relayServerConnToNatConnGeneric ch).flatMap UpEvent.sent = ch.filterMap Queued.slot := by
  induction ch with
  | nil => rfl
  | cons p ch ih =>
    cases hp : p.slot <;> simp [relayServerConnToNatConnGeneric, hp, ih, UpEvent.sent]

/-- The batched uplink writes batches of `1` to `batchSize` datagrams, the generic worker's in
order, and puts every buffer back once. -/
theorem relayServerConnToNatConnSendmmsg_batches {bs : ℕ} (hbs : 0 < bs) (ch : List Queued) :
    (∀ i s, .store i s ∈ relayServerConnToNatConnSendmmsg bs ch → i < bs) ∧
    (∀ m, .writeMsgvec m ∈ relayServerConnToNatConnSendmmsg bs ch →
      0 < m.length ∧ m.length ≤ bs) ∧
    (relayServerConnToNatConnSendmmsg bs ch).flatMap UpEvent.sent = ch.filterMap Queued.slot ∧
    (relayServerConnToNatConnSendmmsg bs ch).flatMap UpEvent.sent =
      (relayServerConnToNatConnGeneric ch).flatMap UpEvent.sent ∧
    ((relayServerConnToNatConnSendmmsg bs ch).filterMap UpEvent.putBuf).Perm
      (ch.map Queued.bufp) ∧
    ∃ gs : List (List Queued), gs.flatten = ch ∧
      (∀ g ∈ gs, (g.filterMap Queued.slot).length ≤ bs) ∧
      relayServerConnToNatConnSendmmsg bs ch = gs.flatMap round := by
  obtain ⟨gs, hch, hgs, hrun⟩ := relayServerConnToNatConnSendmmsg_rounds hbs ch
  have hsent : (relayServerConnToNatConnSendmmsg bs ch).flatMap UpEvent.sent =
      ch.filterMap Queued.slot := by
    rw [hrun, ← hch, rounds_sent]
  refine ⟨?_, ?_, hsent, hsent.trans (relayServerConnToNatConnGeneric_sent ch).symm, ?_,
    gs, hch, hgs, hrun⟩
  · intro i s h
    obtain ⟨g, hg, h⟩ := List.mem_flatMap.mp (hrun ▸ h)
    rcases List.mem_append.mp h with h | h
    · have := fill_store_index h; have := hgs g hg; omega
    · by_cases hb : g.filterMap Queued.slot = []
      · simp [closeRound, hb] at h
      · simp [closeRound_of_ne_nil hb, flush] at h
  · intro m h
    obtain ⟨g, hg, h⟩ := List.mem_flatMap.mp (hrun ▸ h)
    obtain ⟨rfl, hne⟩ := round_writeMsgvec h
    exact ⟨List.length_pos.mpr hne, hgs g hg⟩
  · rw [hrun, ← hch]
    exact rounds_putBuf_perm gs

theorem relayServerConnToNatConnSendmmsg_batches_fivePackets :
    0 < 2 ∧ (relayServerConnToNatConnSendmmsg 2 [⟨0, none, true⟩, ⟨1, some (9, 2, 3), true⟩,
        ⟨2, none, true⟩, ⟨3, some (9, 2, 3), false⟩, ⟨4, some (9, 2, 3), true⟩]).flatMap
        UpEvent.sent = [⟨1, 9, 2, 3⟩, ⟨3, 9, 2, 3⟩, ⟨4, 9, 2, 3⟩] ∧
      ((relayServerConnToNatConnSendmmsg 2 [⟨0, none, true⟩, ⟨1, some (9, 2, 3), true⟩,
        ⟨2, none, true⟩, ⟨3, some (9, 2, 3), false⟩, ⟨4, some (9, 2, 3), true⟩]).filterMap
        UpEvent.putBuf).Perm [0, 1, 2, 3, 4] :=
  ⟨by decide, (relayServerConnToNatConnSendmmsg_batches (by decide) _).2.2.1,
    (relayServerConnToNatConnSendmmsg_batches (by decide) _).2.2.2.2.1⟩

example : relayServerConnToNatConnSendmmsg 2 [⟨0, none, true⟩, ⟨1, some (9, 2, 3), true⟩,
    ⟨2, none, true⟩, ⟨3, some (9, 2, 3), false⟩, ⟨4, some (9, 2, 3), true⟩] =
    [.put 0, .store 0 ⟨1, 9, 2, 3⟩, .put 2, .writeMsgvec [⟨1, 9, 2, 3⟩], .setReadDeadline, .put 1,
      .store 0 ⟨3, 9, 2, 3⟩, .store 1 ⟨4, 9, 2, 3⟩, .writeMsgvec [⟨3, 9, 2, 3⟩, ⟨4, 9, 2, 3⟩],
      .setReadDeadline, .put 3, .put 4] := by
  decide

end Sendmmsg
end Relay
end ShadowsocksGo
