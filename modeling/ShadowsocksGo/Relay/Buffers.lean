import ShadowsocksGo.Relay.Table

/-! # Packet buffers

Every buffer the ingress loop takes from the pool is, between steps, in exactly one place: the
pool, one session's channel, or one uplink worker's hands. -/

namespace ShadowsocksGo
namespace Relay

def UplinkPc.held : UplinkPc → List ℕ
  | .pack p | .put p => [p]
  | _ => []

def Session.held (e : Session) : List ℕ := e.natConnSendCh ++ e.uplink.held

def heldBelow (sessions : ℕ → Session) : ℕ → List ℕ
  | 0 => []
  | n + 1 => heldBelow sessions n ++ (sessions n).held

def State.held (s : State) : List ℕ := heldBelow s.sessions s.nSessions

section Held

variable {sessions : ℕ → Session} {k n : ℕ}

theorem heldBelow_update_of_le (h : n ≤ k) (e : Session) :
    heldBelow (Function.update sessions k e) n = heldBelow sessions n := by
  induction n with
  | zero => rfl
  | succ n ih => simp only [heldBelow, ih (by omega), Function.update_noteq (by omega : n ≠ k)]

theorem heldBelow_update_eq {e : Session} (he : e.held = (sessions k).held) :
    heldBelow (Function.update sessions k e) n = heldBelow sessions n := by
  induction n with
  | zero => rfl
  | succ n ih =>
    simp only [heldBelow, ih]
    by_cases hk : n = k
    · subst hk; rw [Function.update_same, he]
    · rw [Function.update_noteq hk]

theorem heldBelow_update_perm (h : k < n) (e : Session) :
    List.Perm (heldBelow (Function.update sessions k e) n ++ (sessions k).held)
      (heldBelow sessions n ++ e.held) := by
  induction n with
  | zero => omega
  | succ n ih =>
    rw [List.perm_iff_count]; intro a
    simp only [heldBelow, List.count_append]
    by_cases hk : k = n
    · subst hk; rw [heldBelow_update_of_le le_rfl, Function.update_same]; omega
    · have := List.perm_iff_count.1 (ih (by omega)) a
      simp only [List.count_append] at this
      rw [Function.update_noteq (Ne.symm hk)]; omega

theorem mem_heldBelow {p : ℕ} : p ∈ heldBelow sessions n ↔ ∃ k < n, p ∈ (sessions k).held := by
  induction n with
  | zero => simp [heldBelow]
  | succ n ih =>
    simp only [heldBelow, List.mem_append, ih]
    constructor
    · rintro (⟨k, hk, hp⟩ | hp)
      · exact ⟨k, by omega, hp⟩
      · exact ⟨n, by omega, hp⟩
    · rintro ⟨k, hk, hp⟩
      by_cases hkn : k = n
      · subst hkn; exact .inr hp
      · exact .inl ⟨k, by omega, hp⟩

end Held

section Lemmas

variable {s : State} {k : ℕ} {e : Session}

theorem held_setSession_count (hk : k < s.nSessions) (a : ℕ) :
    (s.setSession k e).held.count a + (s.sessions k).held.count a = s.held.count a + e.held.count a := by
  have := List.perm_iff_count.1 (@heldBelow_update_perm s.sessions k s.nSessions hk e) a
  simpa [List.count_append] using this

theorem held_setSession_perm (hk : k < s.nSessions) :
    List.Perm ((s.setSession k e).held ++ (s.sessions k).held) (s.held ++ e.held) :=
  heldBelow_update_perm hk e

theorem held_setSession (he : e.held = (s.sessions k).held) : (s.setSession k e).held = s.held :=
  heldBelow_update_eq he

@[simp] theorem held_insertSession {info : Option ClientAddrInfo} (he : e.natConnSendCh = [])
    (hu : e.uplink = .notStarted) : (s.insertSession e info).held = s.held := by
  simp only [State.held, State.insertSession_sessions, State.insertSession_nSessions, heldBelow,
    heldBelow_update_of_le le_rfl, Function.update_same]
  simp [Session.held, he, hu, UplinkPc.held]

end Lemmas

/-- The pool's books: every buffer taken from the pool is in exactly one place (`extra` being
those the ingress loop holds in the middle of an iteration), and was allocated. -/
structure Accounting (s : State) (extra : List ℕ) : Prop where
  nodup : (s.pool ++ s.held ++ extra).Nodup
  count : s.gets = s.puts + s.held.length + extra.length
  fresh : ∀ p ∈ s.pool ++ s.held ++ extra, p < s.nextBuf

namespace Accounting

variable {s s' : State} {x x' : List ℕ}

theorem of_perm (h : Accounting s x) (hp : List.Perm (s'.pool ++ s'.held ++ x') (s.pool ++ s.held ++ x))
    (hc : s'.gets + (s.puts + s.held.length + x.length) = s.gets + (s'.puts + s'.held.length + x'.length))
    (hn : s'.nextBuf = s.nextBuf) : Accounting s' x' := by
  refine ⟨hp.nodup_iff.2 h.nodup, by have := h.count; omega, fun p hp' => ?_⟩
  rw [hn]; exact h.fresh p (hp.mem_iff.1 hp')

theorem get (h : Accounting s []) (pick : ℕ) :
    Accounting (s.getQueuedPacket pick).2 [(s.getQueuedPacket pick).1] := by
  obtain ⟨hnd, hc, hf⟩ := h
  simp only [State.held, List.length_nil, Nat.add_zero, List.append_nil] at hnd hc hf
  by_cases hp : pick ∈ s.pool
  · -- a pooled buffer only moves from the pool to the ingress loop
    refine Accounting.of_perm (x := []) ⟨by simpa using hnd, by simpa using hc, by simpa using hf⟩
      ?_ ?_ ?_ <;> simp only [State.getQueuedPacket, hp, if_true, State.held]
    · exact (List.perm_append_singleton _ _).trans
        (by simpa using (List.perm_cons_erase hp).symm.append_right (heldBelow s.sessions s.nSessions))
    · simp; omega
  · -- a new buffer, above every buffer allocated so far
    have hfr : s.nextBuf ∉ s.pool ++ heldBelow s.sessions s.nSessions := fun hm => by
      have := hf _ hm; omega
    simp only [State.getQueuedPacket, hp, if_false, List.erase_of_not_mem hp]
    refine ⟨List.nodup_append.2 ⟨hnd, List.nodup_singleton _, List.disjoint_singleton.2 hfr⟩,
      by simp [State.held]; omega, fun q hq => ?_⟩
    dsimp only at hq ⊢
    rcases List.mem_append.1 hq with hq | hq
    · have := hf q hq; omega
    · simp at hq; omega

theorem put_extra {p : ℕ} (h : Accounting s [p]) : Accounting (s.putQueuedPacket p) [] :=
  h.of_perm (by simpa using (List.perm_append_singleton p (s.pool ++ s.held)).symm)
    (by simp [State.held]; omega) rfl

end Accounting

def InitPc.early : InitPc → Bool
  | .router | .newSession | .newPacker | .listen | .setDeadline | .swap | .spawn => true
  | _ => false

/-- What the buffer invariant needs of a session: a channel nobody will read again is empty, and
the uplink worker runs exactly when the initializer set `sendChClean`. -/
structure Session.BufOk (e : Session) : Prop where
  drained : (e.init = .exited ∧ e.sendChClean = false) ∨ e.uplink = .exited → e.natConnSendCh = []
  clean : e.sendChClean = true ↔ e.uplink ≠ .notStarted
  closed : e.uplink = .exited → e.init.live = false
  early : e.init.early → e.sendChClean = false

theorem Session.BufOk.of_live {e e' : Session} (he : e.BufOk) (hl : e.init.live)
    (hl' : e'.init.live) (he' : e'.init.early → e.init.early) (hu : e'.uplink = e.uplink)
    (hc : e'.sendChClean = e.sendChClean) : e'.BufOk where
  drained h := by
    have hx : e.uplink ≠ .exited := fun hx => by simp [he.closed hx] at hl
    rcases h with ⟨hi, -⟩ | hx'
    · simp [hi, InitPc.live] at hl'
    · exact absurd (hu ▸ hx') hx
  clean := by rw [hc, hu]; exact he.clean
  closed hx := absurd (hu ▸ hx) fun hx => by simp [he.closed hx] at hl
  early h := hc ▸ he.early (he' h)

theorem Session.BufOk.of_running {e e' : Session} (he : e.BufOk) (hu : e.uplink ≠ .notStarted)
    (hu' : e'.uplink ≠ .notStarted) (hx' : e'.uplink ≠ .exited)
    (hi : e'.init = e.init) (hc : e'.sendChClean = e.sendChClean) : e'.BufOk where
  drained h := by
    have := he.clean.2 hu
    rcases h with ⟨-, h⟩ | h
    · simp [hc, this] at h
    · exact absurd h hx'
  clean := by rw [hc]; exact ⟨fun _ => hu', fun _ => he.clean.2 hu⟩
  closed h := absurd h hx'
  early h := hc ▸ he.early (hi ▸ h)

def State.bufView (s : State) : List ℕ × ℕ × ℕ × ℕ × (ℕ → QueuedPacket) × ℕ :=
  (s.pool, s.gets, s.puts, s.nextBuf, s.heap, s.nSessions)

/-- The buffer invariant. -/
structure BufInv (s : State) (extra : List ℕ) : Prop where
  acc : Accounting s extra
  session : ∀ {k}, k < s.nSessions → (s.sessions k).BufOk
  csid : ∀ {k}, k < s.nSessions → ∀ p ∈ (s.sessions k).natConnSendCh,
    (s.heap p).csid = (s.sessions k).csid

namespace BufInv

variable {s s' : State} {x : List ℕ} {k : ℕ} {e : Session}

theorem congr (h : BufInv s x) (hv : s'.bufView = s.bufView) (hs : s'.sessions = s.sessions) :
    BufInv s' x := by
  obtain ⟨⟩ := s; obtain ⟨⟩ := s'
  simp only [State.bufView, Prod.mk.injEq] at hv hs
  obtain ⟨rfl, rfl, rfl, rfl, rfl, rfl⟩ := hv
  subst hs
  exact ⟨⟨h.1.1, h.1.2, h.1.3⟩, h.2, h.3⟩

theorem session_setSession (h : BufInv s x) (he : e.BufOk) {j : ℕ} (hj : j < s.nSessions) :
    ((s.setSession k e).sessions j).BufOk := by
  simp only [State.setSession]
  by_cases hjk : j = k
  · subst hjk; simpa using he
  · rw [Function.update_noteq hjk]; exact h.session hj

theorem csid_setSession (h : BufInv s x) (hk : k < s.nSessions)
    (hsub : ∀ q ∈ e.natConnSendCh, q ∈ (s.sessions k).natConnSendCh)
    (hc : e.csid = (s.sessions k).csid) {j : ℕ} (hj : j < s.nSessions) :
    ∀ q ∈ ((s.setSession k e).sessions j).natConnSendCh,
      ((s.setSession k e).heap q).csid = ((s.setSession k e).sessions j).csid := by
  simp only [State.setSession]
  by_cases hjk : j = k
  · subst hjk; simp only [Function.update_same, hc]; exact fun q hq => h.csid hk q (hsub q hq)
  · simp only [Function.update_noteq hjk]; exact h.csid hj

theorem setSession (h : BufInv s x) (hk : k < s.nSessions) (hheld : List.Perm e.held (s.sessions k).held)
    (hsub : ∀ q ∈ e.natConnSendCh, q ∈ (s.sessions k).natConnSendCh)
    (hc : e.csid = (s.sessions k).csid) (he : e.BufOk) : BufInv (s.setSession k e) x := by
  have hh : List.Perm (s.setSession k e).held s.held :=
    (List.perm_append_right_iff _).1 ((held_setSession_perm hk).trans (hheld.append_left _))
  exact ⟨h.acc.of_perm (hh.append_left _ |>.append_right _) (by rw [hh.length_eq]; rfl) rfl,
    fun hj => h.session_setSession he hj, fun hj => h.csid_setSession hk hsub hc hj⟩

theorem frame (h : BufInv s x) (hk : k < s.nSessions) (hv : s'.bufView = s.bufView)
    (hs : s'.sessions = Function.update s.sessions k e) (hheld : List.Perm e.held (s.sessions k).held)
    (hsub : ∀ q ∈ e.natConnSendCh, q ∈ (s.sessions k).natConnSendCh)
    (hc : e.csid = (s.sessions k).csid) (he : e.BufOk) : BufInv s' x :=
  (h.setSession hk hheld hsub hc he).congr hv hs

theorem putHeld (h : BufInv s x) (hk : k < s.nSessions) {p : ℕ}
    (hold : List.Perm (s.sessions k).held (p :: e.held))
    (hsub : ∀ q ∈ e.natConnSendCh, q ∈ (s.sessions k).natConnSendCh)
    (hc : e.csid = (s.sessions k).csid) (he : e.BufOk) :
    BufInv ((s.setSession k e).putQueuedPacket p) x := by
  have hh : List.Perm ((s.setSession k e).held ++ [p]) s.held := by
    have h₁ := (hold.append_left (s.setSession k e).held).symm.trans (held_setSession_perm hk)
    exact (List.perm_append_right_iff e.held).1 (by simpa using h₁)
  refine ⟨h.acc.of_perm ?_ ?_ rfl, fun hj => h.session_setSession he hj,
    fun hj => h.csid_setSession hk hsub hc hj⟩
  · exact (List.perm_middle.symm.trans
      (((List.perm_append_singleton p _).symm.trans hh).append_left s.pool)).append_right x
  · have := hh.length_eq; simp only [List.length_append, List.length_singleton] at this
    show s.gets + _ = s.gets + (s.puts + 1 + (s.setSession k e).held.length + x.length); omega

theorem putExtra (h : BufInv s [p]) : BufInv (s.putQueuedPacket p) [] :=
  ⟨h.acc.put_extra, h.session, h.csid⟩

theorem get (h : BufInv s []) (pick : ℕ) :
    BufInv (s.getQueuedPacket pick).2 [(s.getQueuedPacket pick).1] :=
  ⟨h.acc.get pick, h.session, h.csid⟩

theorem setHeap (h : BufInv s [p]) (v : QueuedPacket) :
    BufInv { s with heap := Function.update s.heap p v } [p] := by
  refine ⟨⟨h.acc.1, h.acc.2, h.acc.3⟩, h.session, fun {j} hj q hq => ?_⟩
  have hq' : q ≠ p := by
    rintro rfl
    have hm : q ∈ s.held := mem_heldBelow.2 ⟨j, hj, List.mem_append_left _ hq⟩
    have := h.acc.nodup
    simp only [List.nodup_append, List.disjoint_singleton] at this
    exact this.2.2 (List.mem_append_right _ hm)
  simp only [Function.update_noteq hq']
  exact h.csid hj q hq

theorem insertSession (h : BufInv s x) (hch : e.natConnSendCh = []) (hu : e.uplink = .notStarted)
    (hc : e.sendChClean = false) (info : Option ClientAddrInfo) :
    BufInv (s.insertSession e info) x := by
  have hh : (s.insertSession e info).held = s.held := held_insertSession hch hu
  refine ⟨h.acc.of_perm (by rw [hh]; rfl) (by rw [hh]; rfl) rfl, fun {j} hj => ?_,
    fun {j} hj q hq => ?_⟩ <;> simp only [State.insertSession_sessions, State.insertSession_nSessions] at hj ⊢
  · by_cases hjn : j = s.nSessions
    · subst hjn
      simp only [Function.update_same]
      exact ⟨fun _ => hch, by simp [hc, hu], fun hx => by simp [hu] at hx, fun _ => hc⟩
    · rw [Function.update_noteq hjn]; exact h.session (by omega)
  · simp only [State.insertSession_sessions] at hq
    by_cases hjn : j = s.nSessions
    · subst hjn; simp [hch] at hq
    · rw [Function.update_noteq hjn] at hq ⊢; exact h.csid (by omega) q hq

theorem enqueue (h : BufInv s [p]) (hk : k < s.nSessions) (hl : (s.sessions k).init.live)
    (hc : (s.heap p).csid = (s.sessions k).csid) :
    BufInv (s.setSession k { s.sessions k with
      natConnSendCh := (s.sessions k).natConnSendCh ++ [p] }) [] := by
  set e' := { s.sessions k with natConnSendCh := (s.sessions k).natConnSendCh ++ [p] }
  have hh : List.Perm (s.setSession k e').held (s.held ++ [p]) := by
    have h₃ : List.Perm e'.held ([p] ++ (s.sessions k).held) :=
      List.perm_append_comm.append_right (s.sessions k).uplink.held
    have h₄ := (held_setSession_perm (e := e') hk).trans (h₃.append_left s.held)
    rw [← List.append_assoc] at h₄
    exact (List.perm_append_right_iff _).1 h₄
  have hlen : (s.setSession k e').held.length = s.held.length + 1 := by simpa using hh.length_eq
  have ho := h.session hk
  have he' : e'.BufOk := ⟨fun hx => by
      rcases hx with ⟨hi, -⟩ | hx
      · have : (s.sessions k).init = .exited := hi
        simp [this, InitPc.live] at hl
      · simp [ho.closed hx] at hl, ho.clean, ho.closed, ho.early⟩
  refine ⟨h.acc.of_perm ?_ ?_ rfl, fun hj => h.session_setSession he' hj, fun {j} hj q hq => ?_⟩
  · simpa using hh.append_left s.pool
  · show s.gets + (s.puts + s.held.length + 1) = s.gets + (s.puts + (s.setSession k e').held.length + 0)
    omega
  · simp only [State.setSession] at hj hq ⊢
    by_cases hjk : j = k
    · subst hjk
      simp only [Function.update_same, e', List.mem_append, List.mem_singleton] at hq ⊢
      rcases hq with hq | rfl
      · exact h.csid hk q hq
      · exact hc
    · rw [Function.update_noteq hjk] at hq ⊢; exact h.csid hj q hq

theorem send (h : BufInv s [p]) (hk : k < s.nSessions) (hl : (s.sessions k).init.live)
    (hcl : (s.sessions k).chCloses = 0) (hc : (s.heap p).csid = (s.sessions k).csid) (cfg : Config) :
    BufInv (s.send cfg k p) [] := by
  unfold State.send
  rw [if_neg (by simp [hcl])]
  split_ifs
  · exact h.enqueue hk hl hc
  · exact h.putExtra

end BufInv

theorem BufInv.dispatch_of_lookup (h : BufInv s [p]) (ht : TableInv s) {c : UInt64}
    (hl : s.table.find c = some k) (hp : (s.heap p).csid = c) (addr : ℕ) (cmsg : List UInt8)
    (ok : Bool) : BufInv (dispatch cfg s p (some k) (s.sessions k) addr cmsg ok) [] := by
  obtain ⟨hk, hc, hlive⟩ := ht.lookup hl
  have hcl : (s.sessions k).chCloses = 0 := by simpa [hlive] using ht.chCloses hk
  have ho := h.session hk
  unfold dispatch
  rw [updateClientAddrInfo_eq]
  split_ifs
  · exact (h.setSession hk (List.Perm.refl _) (fun _ h => h) rfl ho).send (by simpa using hk)
      (by simpa using hlive) (by simpa using hcl) (by simpa [hc] using hp) cfg
  · refine (h.setSession hk ?_ ?_ ?_ ?_).send ?_ ?_ ?_ ?_ cfg
    · exact List.Perm.refl _
    · exact fun _ h => h
    · rfl
    · exact ⟨ho.1, ho.2, ho.3, ho.4⟩
    all_goals simpa [hc] using ‹_›
  · refine (h.setSession hk ?_ ?_ ?_ ?_).putExtra
    · exact List.Perm.refl _
    · exact fun _ h => h
    · rfl
    · exact ⟨ho.1, ho.2, ho.3, ho.4⟩

theorem BufInv.dispatch_of_fresh (h : BufInv s [p]) {c : UInt64} (hp : (s.heap p).csid = c)
    (addr : ℕ) (cmsg : List UInt8) (ok : Bool) :
    BufInv (dispatch cfg s p none (Session.fresh c) addr cmsg ok) [] := by
  unfold dispatch
  rw [updateClientAddrInfo_eq]
  split_ifs
  all_goals first
    | exact h.putExtra
    | refine (h.insertSession rfl rfl rfl _).send ?_ ?_ ?_ ?_ cfg <;>
        simp [InitPc.live, hp, Session.fresh, State.insertSession]

theorem BufInv.of_recv (h : BufInv s []) (ht : TableInv s) {pick : ℕ} {r : Recv}
    (hs : recvFromServerConn cfg s pick r = some s') : BufInv s' [] := by
  cases r with
  | deadlineExceeded =>
    simp only [recvFromServerConn] at hs
    split_ifs at hs
    cases hs
    exact (h.get pick).putExtra.congr rfl rfl
  | error =>
    cases hs
    exact (h.get pick).putExtra
  | datagram c addr cmsg length nu up pp =>
    simp only [recvFromServerConn] at hs
    by_cases h₀ : addr = 0 ∨ s.stop.holdsLock
    · simp [h₀] at hs
    rw [if_neg h₀] at hs
    have h₁ : BufInv ((s.getQueuedPacket pick).2.readInto (s.getQueuedPacket pick).1 c addr cmsg nu
        length) [(s.getQueuedPacket pick).1] := (h.get pick).setHeap _
    have ht₁ : TableInv ((s.getQueuedPacket pick).2.readInto (s.getQueuedPacket pick).1 c addr cmsg nu length) :=
      ht.congr rfl rfl rfl rfl
    split at hs <;> split_ifs at hs <;> cases hs
    · exact h₁.dispatch_of_lookup ht₁ ‹_› (by simp [State.readInto, QueuedPacket.receive]) _ _ _
    · exact h₁.putExtra
    · exact h₁.dispatch_of_fresh (by simp [State.readInto, QueuedPacket.receive]) _ _ _
    · exact h₁.putExtra

theorem BufInv.live_step (h : BufInv s []) {k : ℕ} (hk : k < s.nSessions) {e : Session}
    (hv : s'.bufView = s.bufView) (hs : s'.sessions = Function.update s.sessions k e)
    (hl : (s.sessions k).init.live) (hl' : e.init.live) (he : e.init.early → (s.sessions k).init.early)
    (hch : e.natConnSendCh = (s.sessions k).natConnSendCh) (hu : e.uplink = (s.sessions k).uplink)
    (hc : e.sendChClean = (s.sessions k).sendChClean) (hcs : e.csid = (s.sessions k).csid) :
    BufInv s' [] :=
  h.frame hk hv hs (by simp [Session.held, hch, hu]) (by simp [hch]) hcs
    ((h.session hk).of_live hl hl' he hu hc)

theorem BufInv.of_initStep (h : BufInv s []) (ht : TableInv s) {k : ℕ} {ok : Bool}
    (hs : initStep cfg s k ok = some s') : BufInv s' [] := by
  have hk : k < s.nSessions := ht.lt_of_init (by intro he; simp [initStep, he] at hs)
  have ho := h.session hk
  have hlk : (s.sessions k).init ≠ .exited → (s.sessions k).init ≠ .drain →
      (s.sessions k).init.live := by
    intro h₁ h₂; cases h₃ : (s.sessions k).init <;> simp_all [InitPc.live]
  cases hpc : (s.sessions k).init <;> simp only [Relay.initStep, hpc, reduceCtorEq] at hs
  case spawn =>
    split at hs <;> cases hs
    · have hu : (s.sessions k).uplink = .notStarted := by
        by_contra hu; have := ho.clean.2 hu; simp [ho.early (by simp [hpc, InitPc.early])] at this
      exact h.frame hk (by rfl) (by rfl) (by simp [Session.held, hu, UplinkPc.held])
        (by exact fun _ h => h) (by rfl) (by exact ⟨fun hx => by rcases hx with ⟨hx, -⟩ | hx <;> simp at hx,
          by simp, fun hx => by simp at hx, fun hx => by simp [InitPc.early] at hx⟩)
    · exact h.congr rfl rfl
  case teardown =>
    split_ifs at hs <;> cases hs
    · exact h.congr rfl rfl
    · have hx : (s.sessions k).uplink ≠ .exited := fun hx => by
        simpa [hpc, InitPc.live] using ho.closed hx
      exact h.frame hk (by rfl) (by rfl) (by exact List.Perm.refl _) (by exact fun _ h => h) (by rfl)
        (by exact ⟨fun hd => by simp [hx] at hd, ho.clean, fun h' => absurd h' hx,
          fun h' => by simp only at h'; split_ifs at h' <;> simp [InitPc.early] at h'⟩)
  case drain =>
    split at hs <;> cases hs
    · rename_i p rest hch
      refine h.putHeld hk ?_ ?_ rfl ?_
      · simp [Session.held, hch]
      · intro q hq; simp [hch, hq]
      · refine ⟨fun hd => ?_, ho.clean, fun _ => rfl, fun h' => by simp [InitPc.early] at h'⟩
        rcases hd with ⟨hd, -⟩ | hd
        · simp at hd
        · simp [ho.drained (.inr hd)] at hch
    · rename_i hch
      exact h.frame hk (by rfl) (by rfl) (by exact List.Perm.refl _) (by exact fun _ h => h) (by rfl)
        (by exact ⟨fun _ => hch, ho.clean, fun _ => rfl, fun h' => by simp [InitPc.early] at h'⟩)
  all_goals (try split at hs) <;> (try split_ifs at hs) <;> cases hs
  all_goals apply h.live_step hk <;>
    first | rfl | exact hlk (by simp [hpc]) (by simp [hpc]) | simp [hpc, InitPc.early]

theorem BufInv.of_uplinkStep (h : BufInv s []) (ht : TableInv s) {k : ℕ} {ok : Bool}
    (hs : uplinkStep cfg s k ok = some s') : BufInv s' [] := by
  have hk : k < s.nSessions := by
    by_contra hn
    simp [uplinkStep, ht.unused (not_lt.mp hn), default, Session.fresh] at hs
  have ho := h.session hk
  cases hu : (s.sessions k).uplink <;> cases hn : (s.sessions k).natConn <;>
    simp only [Relay.uplinkStep, hu, hn, reduceCtorEq] at hs
  all_goals have hr : (s.sessions k).uplink ≠ .notStarted := by simp [hu]
  case recv.some =>
    split at hs
    · rename_i p rest hch
      cases hs
      exact h.frame hk (by rfl) (by rfl) (by simp [Session.held, hch, hu, UplinkPc.held])
        (by intro q hq; simp [hch, hq]) (by rfl) (by exact ho.of_running hr (by simp) (by simp) rfl rfl)
    · rename_i hch
      split_ifs at hs with hcl
      cases hs
      have hnl : (s.sessions k).init.live = false := by
        have := ht.chCloses hk; split_ifs at this <;> simp_all
      exact h.frame hk (by rfl) (by rfl) (by simp [Session.held, hch, hu, UplinkPc.held])
        (by simp [hch]) (by rfl) (by exact ⟨fun _ => hch, by simpa using ho.clean.2 hr,
          fun _ => hnl, ho.early⟩)
  case pack.some p n =>
    split_ifs at hs <;> cases hs
    · exact h.frame hk (by rfl) (by rfl) (by simp [Session.held, hu, UplinkPc.held])
        (by exact fun _ h => h) (by rfl) (by exact ho.of_running hr (by simp) (by simp) rfl rfl)
    · exact h.putHeld hk (by simp [Session.held, hu, UplinkPc.held]) (fun _ h => h) rfl
        (ho.of_running hr (by simp) (by simp) rfl rfl)
  all_goals cases hs
  any_goals
    exact h.putHeld hk (by simp [Session.held, hu, UplinkPc.held]) (fun _ h => h) rfl
      (ho.of_running hr (by simp) (by simp) rfl rfl)
  all_goals
    exact h.frame hk (by rfl) (by rfl) (by simp [Session.held, hu, UplinkPc.held])
      (by exact fun _ h => h) (by rfl) (by exact ho.of_running hr (by simp) (by simp) rfl rfl)

theorem BufInv.of_downlinkStep (h : BufInv s []) (ht : TableInv s) {k : ℕ} {arrives : Bool}
    (hs : downlinkStep s k arrives = some s') : BufInv s' [] := by
  cases hpc : (s.sessions k).init <;> cases hn : (s.sessions k).natConn <;>
    simp only [downlinkStep, hpc, hn, reduceCtorEq] at hs
  have hk := ht.lt_of_init (show (s.sessions k).init ≠ .exited by simp [hpc])
  split_ifs at hs <;> cases hs
  · apply h.live_step hk <;> first | rfl | simp [hpc, InitPc.live, InitPc.early]
  · exact h.congr rfl rfl

theorem BufInv.of_stopStep (h : BufInv s x) (hs : stopStep s = some s') : BufInv s' x := by
  unfold stopStep at hs
  split at hs <;> (try split_ifs at hs) <;> cases hs <;> exact h.congr rfl rfl

theorem BufInv.of_stopSwap (h : BufInv s x) (ht : TableInv s) {c : UInt64}
    (hs : stopSwap s c = some s') : BufInv s' x := by
  cases hst : s.stop <;> simp only [Relay.stopSwap, hst, reduceCtorEq] at hs
  split_ifs at hs
  cases hf : s.table.find c with
  | none => simp only [hf] at hs; cases hs; exact h.congr rfl rfl
  | some k =>
    have hk := (ht.lookup hf).1
    have ho := h.session hk
    cases hstate : (s.sessions k).state <;> simp only [hf, hstate] at hs <;> cases hs <;>
      exact h.frame hk (by rfl) (by rfl) (by exact List.Perm.refl _) (by exact fun _ h => h)
        (by rfl) (by exact ⟨ho.1, ho.2, ho.3, ho.4⟩)

theorem BufInv.of_step (h : BufInv s []) (ht : TableInv s) {a : Action}
    (hs : step cfg s a = some s') : BufInv s' [] := by
  cases a with
  | tick => cases hs; exact h.congr rfl rfl
  | recv pick r =>
    simp only [step] at hs
    split_ifs at hs
    exact h.of_recv ht hs
  | init k ok => exact h.of_initStep ht hs
  | uplink k ok => exact h.of_uplinkStep ht hs
  | downlink k arrives => exact h.of_downlinkStep ht hs
  | stop => exact h.of_stopStep hs
  | stopSwap c => exact h.of_stopSwap ht hs

theorem bufInv_init : BufInv init [] where
  acc := ⟨by simp [init, State.held, heldBelow], by simp [init, State.held, heldBelow],
    by simp [init, State.held, heldBelow]⟩
  session h := by simp [init] at h
  csid h := by simp [init] at h

theorem Reachable.bufInv (hs : Reachable cfg s) : BufInv s [] := by
  induction hs with
  | init => exact bufInv_init
  | step a hr h ih => exact ih.of_step hr.tableInv h

def UplinkPc.running : UplinkPc → Bool
  | .notStarted | .exited => false
  | _ => true

def State.terminated (s : State) : Prop :=
  s.ingressRunning = false ∧
    ∀ k < s.nSessions, (s.sessions k).init = .exited ∧ (s.sessions k).uplink.running = false

instance : DecidablePred State.terminated := fun _ => inferInstanceAs (Decidable (_ ∧ _))

theorem Session.BufOk.held_eq_nil {e : Session} (h : e.BufOk) (hi : e.init = .exited)
    (hu : e.uplink.running = false) : e.held = [] := by
  have hu' : e.uplink.held = [] := by cases hx : e.uplink <;> simp_all [UplinkPc.running, UplinkPc.held]
  have hch : e.natConnSendCh = [] := by
    cases hc : e.sendChClean
    · exact h.drained (.inl ⟨hi, hc⟩)
    · refine h.drained (.inr ?_)
      have := h.clean.1 hc
      cases hx : e.uplink <;> simp_all [UplinkPc.running]
  simp [Session.held, hch, hu']

theorem BufInv.held_eq_nil (h : BufInv s x) (ht : s.terminated) : s.held = [] :=
  List.eq_nil_iff_forall_not_mem.2 fun p hp => by
    obtain ⟨k, hk, hp⟩ := mem_heldBelow.1 hp
    rw [(h.session hk).held_eq_nil (ht.2 k hk).1 (ht.2 k hk).2] at hp
    exact List.not_mem_nil p hp

/-- The worker puts its buffer back before counting it; the ingress loop reuses the buffer for a
3-byte datagram, and the worker counts 3 bytes for the 10-byte packet it sent. -/
theorem uplink_accounts_reused_buffer :
    (run ⟨5, by decide, 4⟩ init [.recv 0 (.datagram 7 1 [1] 10 true true true),
      .init 0 true, .init 0 true, .init 0 true, .init 0 true, .init 0 true, .init 0 true,
      .init 0 true, .uplink 0 true]).map (fun s => ((s.sessions 0).uplink, (s.heap 0).length)) =
      some (.pack 0, 10) ∧
    (run ⟨5, by decide, 4⟩ init [.recv 0 (.datagram 7 1 [1] 10 true true true),
      .init 0 true, .init 0 true, .init 0 true, .init 0 true, .init 0 true, .init 0 true,
      .init 0 true, .uplink 0 true, .uplink 0 true, .uplink 0 true,
      .recv 0 (.datagram 8 2 [1] 3 true true true), .uplink 0 true]).map
      (fun s => ((s.sessions 0).uplink, (s.sessions 0).packetsSent,
        (s.sessions 0).payloadBytesSent)) = some (.recv, 1, 3) := by
  decide

end Relay
end ShadowsocksGo
