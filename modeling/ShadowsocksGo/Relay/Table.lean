import ShadowsocksGo.Relay.Step

/-! # The session table and the send channels

Every entry of `s.table` is a live session with an open channel, until its own teardown closes the
channel and deletes the key; so no send is on a closed channel, and no channel is closed twice. -/

namespace ShadowsocksGo
namespace Relay

def InitPc.live : InitPc → Bool
  | .drain | .exited => false
  | _ => true

def Session.tableView (e : Session) : UInt64 × Bool × ℕ × Bool :=
  (e.csid, e.init.live, e.chCloses, e.clientAddrInfop.isSome)

/-- The table invariant. -/
structure TableInv (s : State) : Prop where
  crash : s.crash = none
  lookup : ∀ {c k}, s.table.find c = some k →
    k < s.nSessions ∧ (s.sessions k).csid = c ∧ (s.sessions k).init.live
  present : ∀ {k}, k < s.nSessions → (s.sessions k).init.live →
    s.table.find (s.sessions k).csid = some k
  chCloses : ∀ {k}, k < s.nSessions →
    (s.sessions k).chCloses = if (s.sessions k).init.live then 0 else 1
  addrInfo : ∀ {k}, k < s.nSessions → (s.sessions k).clientAddrInfop.isSome
  unused : ∀ {k}, s.nSessions ≤ k → s.sessions k = default

variable {cfg : Config} {s s' : State}

theorem tableInv_init : TableInv init where
  crash := rfl
  lookup h := by simp [init] at h
  present h := by simp [init] at h
  chCloses h := by simp [init] at h
  addrInfo h := by simp [init] at h
  unused _ := rfl

namespace TableInv

theorem congr (h : TableInv s) (hc : s'.crash = s.crash) (ht : s'.table = s.table)
    (hn : s'.nSessions = s.nSessions) (hs : s'.sessions = s.sessions) : TableInv s' := by
  obtain ⟨⟩ := s; obtain ⟨⟩ := s'
  simp only at hc ht hn hs
  subst hc ht hn hs
  exact ⟨h.1, h.2, h.3, h.4, h.5, h.6⟩

theorem lt_of_init (h : TableInv s) {k : ℕ} (hk : (s.sessions k).init ≠ .exited) :
    k < s.nSessions := by
  by_contra hn
  exact hk (by rw [h.unused (by omega)]; rfl)

theorem setSession (h : TableInv s) {k : ℕ} (hk : k < s.nSessions) {e : Session}
    (he : e.tableView = (s.sessions k).tableView) : TableInv (s.setSession k e) := by
  simp only [Session.tableView, Prod.mk.injEq] at he
  obtain ⟨hc, hl, hcl, ha⟩ := he
  have view : ∀ j, (Function.update s.sessions k e j).tableView = (s.sessions j).tableView := by
    intro j
    by_cases hj : j = k
    · subst hj; simp [Session.tableView, hc, hl, hcl, ha]
    · rw [Function.update_noteq hj]
  simp only [Session.tableView, Prod.mk.injEq] at view
  refine ⟨h.crash, fun hl' => ?_, fun hj hj' => ?_, fun hj => ?_, fun hj => ?_, fun hj => ?_⟩
  · simp only [State.setSession, view] at hl' ⊢; exact h.lookup hl'
  · simp only [State.setSession, view] at hj hj' ⊢; exact h.present hj hj'
  · simp only [State.setSession, view] at hj ⊢; exact h.chCloses hj
  · simp only [State.setSession, view] at hj ⊢; exact h.addrInfo hj
  · simp only [State.setSession] at hj ⊢
    rw [Function.update_noteq (by omega)]; exact h.unused hj

theorem frame (h : TableInv s) {k : ℕ} (hk : k < s.nSessions) {e : Session}
    (he : e.tableView = (s.sessions k).tableView) (hc : s'.crash = s.crash)
    (ht : s'.table = s.table) (hn : s'.nSessions = s.nSessions)
    (hs : s'.sessions = Function.update s.sessions k e) : TableInv s' :=
  (h.setSession hk he).congr hc ht hn hs

theorem putQueuedPacket (h : TableInv s) (p : ℕ) : TableInv (s.putQueuedPacket p) :=
  h.congr rfl rfl rfl rfl

theorem send (h : TableInv s) {k : ℕ} (hk : k < s.nSessions) (hl : (s.sessions k).init.live)
    (p : ℕ) : TableInv (s.send cfg k p) := by
  have hc : (s.sessions k).chCloses = 0 := by simpa [hl] using h.chCloses hk
  unfold State.send
  simp only [hc, ne_eq, not_true_eq_false, if_false]
  split_ifs
  · exact h.setSession hk (by simp [Session.tableView, hc])
  · exact h.putQueuedPacket p

theorem insertSession (h : TableInv s) {e : Session} (hl : s.table.find e.csid = none)
    (hc : e.chCloses = 0) {info : Option ClientAddrInfo} (hi : info.isSome) :
    TableInv (s.insertSession e info) := by
  have hn := fun {j} (hj : j < s.nSessions) => Nat.ne_of_lt hj
  refine ⟨h.crash, fun {c j} hj => ?_, fun {j} hj hj' => ?_, fun {j} hj => ?_, fun {j} hj => ?_,
    fun {j} hj => ?_⟩ <;> simp only [State.insertSession_table, State.insertSession_nSessions,
      State.insertSession_sessions] at *
  · by_cases hc' : c = e.csid
    · subst hc'; simp only [Table.find_insert, Option.some.injEq] at hj; subst hj; simp [InitPc.live]
    · rw [Table.find_insert_ne hc'] at hj
      obtain ⟨h₁, h₂, h₃⟩ := h.lookup hj
      simp [Function.update_noteq (hn h₁), h₂, h₃]; omega
  · by_cases hj'' : j = s.nSessions
    · subst hj''; simp
    · rw [Function.update_noteq hj''] at hj' ⊢
      have h₁ := h.present (by omega) hj'
      have : (s.sessions j).csid ≠ e.csid := fun h' => by rw [h'] at h₁; simp [hl] at h₁
      rw [Table.find_insert_ne this, h₁]
  · by_cases hj'' : j = s.nSessions
    · subst hj''; simp [hc, InitPc.live]
    · simp only [Function.update_noteq hj'']; exact h.chCloses (by omega)
  · by_cases hj'' : j = s.nSessions
    · subst hj''; simpa using hi
    · rw [Function.update_noteq hj'']; exact h.addrInfo (by omega)
  · rw [Function.update_noteq (by omega)]; exact h.unused (by omega)

theorem teardown (h : TableInv s) {k : ℕ} (hk : k < s.nSessions)
    (hpc : (s.sessions k).init = .teardown) : TableInv (s.teardown k) := by
  have hpc' : (if (s.sessions k).sendChClean then InitPc.exited else .drain).live = false := by
    split_ifs <;> rfl
  have hlk : (s.sessions k).init.live := by simp [hpc, InitPc.live]
  have hck : (s.sessions k).chCloses = 0 := by simpa [hlk] using h.chCloses hk
  have hfk := h.present hk hlk
  refine ⟨h.crash, fun {c j} hj => ?_, fun {j} hj hj' => ?_, fun {j} hj => ?_, fun {j} hj => ?_,
    fun {j} hj => ?_⟩ <;> simp only [State.teardown, State.setSession] at *
  · have hc : c ≠ (s.sessions k).csid := by rintro rfl; simp at hj
    rw [Table.find_erase_ne hc] at hj
    obtain ⟨h₁, h₂, h₃⟩ := h.lookup hj
    have hjk : j ≠ k := by rintro rfl; exact hc h₂.symm
    simp [Function.update_noteq hjk, h₁, h₂, h₃]
  · have hjk : j ≠ k := by rintro rfl; simp [hpc'] at hj'
    rw [Function.update_noteq hjk] at hj' ⊢
    have h₁ := h.present hj hj'
    have hc : (s.sessions j).csid ≠ (s.sessions k).csid := fun hc => by
      rw [hc, hfk] at h₁; exact hjk (Option.some.inj h₁).symm
    rw [Table.find_erase_ne hc, h₁]
  · by_cases hjk : j = k
    · subst hjk; simp [hck, hpc']
    · simp only [Function.update_noteq hjk]; exact h.chCloses hj
  · by_cases hjk : j = k
    · subst hjk; simpa using h.addrInfo hk
    · rw [Function.update_noteq hjk]; exact h.addrInfo hj
  · rw [Function.update_noteq (by omega)]; exact h.unused hj

end TableInv

theorem dispatch_of_lookup (h : TableInv s) {c : UInt64} {k : ℕ} (hl : s.table.find c = some k)
    (p addr : ℕ) (cmsg : List UInt8) (ok : Bool) :
    TableInv (dispatch cfg s p (some k) (s.sessions k) addr cmsg ok) := by
  obtain ⟨hk, -, hlive⟩ := h.lookup hl
  unfold dispatch
  rw [updateClientAddrInfo_eq]
  split_ifs
  · exact (h.setSession hk rfl).send (by simpa using hk) (by simpa using hlive) p
  · exact (h.setSession hk (by simp [Session.tableView])).send (by simpa using hk)
      (by simpa using hlive) p
  · exact (h.setSession hk (by simp [Session.tableView])).putQueuedPacket p

theorem dispatch_of_fresh (h : TableInv s) {c : UInt64} (hl : s.table.find c = none)
    {p addr : ℕ} (ha : addr ≠ 0) (cmsg : List UInt8) (ok : Bool) :
    TableInv (dispatch cfg s p none (Session.fresh c) addr cmsg ok) := by
  unfold dispatch
  rw [updateClientAddrInfo_eq]
  have hz : ¬ ((Session.fresh c).clientAddrPortCache = addr ∧
      (Session.fresh c).clientPktinfoCache = cmsg) := fun h' => ha (h'.1.symm)
  simp only [hz, if_false]
  split_ifs
  · exact (h.insertSession hl rfl (by rfl)).send (by simp) (by simp [InitPc.live]) p
  · exact h.putQueuedPacket p

theorem TableInv.of_recv (h : TableInv s) {pick : ℕ} {r : Recv} (hs : recvFromServerConn cfg s pick r = some s') :
    TableInv s' := by
  cases r with
  | deadlineExceeded =>
    simp only [recvFromServerConn] at hs
    split_ifs at hs
    cases hs
    exact h.congr rfl rfl rfl rfl
  | error =>
    cases hs
    exact h.congr rfl rfl rfl rfl
  | datagram c addr cmsg length nu up pp =>
    simp only [recvFromServerConn] at hs
    by_cases h₀ : addr = 0 ∨ s.stop.holdsLock
    · simp [h₀] at hs
    rw [if_neg h₀] at hs
    have h₁ : TableInv ((s.getQueuedPacket pick).2.readInto (s.getQueuedPacket pick).1 c addr cmsg nu length) :=
      h.congr rfl rfl rfl rfl
    have ha : addr ≠ 0 := fun h' => h₀ (.inl h')
    split at hs <;> split_ifs at hs <;> cases hs
    · exact dispatch_of_lookup h₁ ‹_› _ _ _ _
    · exact h₁.putQueuedPacket _
    · exact dispatch_of_fresh h₁ ‹_› ha _ _
    · exact h₁.putQueuedPacket _

theorem TableInv.of_initStep (h : TableInv s) {k : ℕ} {ok : Bool} (hs : initStep cfg s k ok = some s') :
    TableInv s' := by
  have hk : k < s.nSessions := h.lt_of_init (by intro he; simp [initStep, he] at hs)
  cases hpc : (s.sessions k).init <;> simp only [Relay.initStep, hpc] at hs
  all_goals (try split at hs) <;> (try split_ifs at hs) <;> (try cases hs)
  all_goals first
    | exact h.frame hk (by simp [Session.tableView, InitPc.live, hpc]) rfl rfl rfl rfl
    | exact h.teardown hk hpc
    | skip
  · simpa [‹(s.sessions k).clientAddrInfop = none›] using h.addrInfo hk
  · simp [h.chCloses hk, hpc, InitPc.live] at *

theorem TableInv.of_uplinkStep (h : TableInv s) {k : ℕ} {ok : Bool}
    (hs : uplinkStep cfg s k ok = some s') : TableInv s' := by
  have hk : k < s.nSessions := by
    by_contra hn
    simp [uplinkStep, h.unused (not_lt.mp hn), default, Session.fresh] at hs
  cases hu : (s.sessions k).uplink <;> cases hn : (s.sessions k).natConn <;>
    simp only [Relay.uplinkStep, hu, hn, reduceCtorEq] at hs
  all_goals (try split at hs) <;> (try split_ifs at hs) <;> (try cases hs)
  all_goals exact h.frame hk (by simp [Session.tableView]) rfl rfl rfl rfl

theorem TableInv.of_downlinkStep (h : TableInv s) {k : ℕ} {arrives : Bool}
    (hs : downlinkStep s k arrives = some s') : TableInv s' := by
  cases hpc : (s.sessions k).init <;> cases hn : (s.sessions k).natConn <;>
    simp only [downlinkStep, hpc, hn, reduceCtorEq] at hs
  have hk := h.lt_of_init (show (s.sessions k).init ≠ .exited by simp [hpc])
  split_ifs at hs <;> cases hs
  · exact h.frame hk (by simp [Session.tableView, InitPc.live, hpc]) rfl rfl rfl rfl
  · exact h.congr rfl rfl rfl rfl

theorem TableInv.of_stopStep (h : TableInv s) (hs : stopStep s = some s') : TableInv s' := by
  unfold stopStep at hs
  split at hs <;> (try split_ifs at hs) <;> cases hs <;> exact h.congr rfl rfl rfl rfl

theorem TableInv.of_stopSwap (h : TableInv s) {c : UInt64} (hs : stopSwap s c = some s') :
    TableInv s' := by
  cases hst : s.stop <;> simp only [Relay.stopSwap, hst, reduceCtorEq] at hs
  split_ifs at hs
  cases hf : s.table.find c with
  | none => simp only [hf] at hs; cases hs; exact h.congr rfl rfl rfl rfl
  | some k =>
    have hk := (h.lookup hf).1
    cases hstate : (s.sessions k).state <;> simp only [hf, hstate] at hs <;> cases hs <;>
      exact h.frame hk (by simp [Session.tableView]) rfl rfl rfl rfl

theorem TableInv.of_step (h : TableInv s) {a : Action} (hs : step cfg s a = some s') :
    TableInv s' := by
  cases a with
  | tick => cases hs; exact h.congr rfl rfl rfl rfl
  | recv pick r =>
    simp only [step] at hs
    split_ifs at hs
    exact h.of_recv hs
  | init k ok => exact h.of_initStep hs
  | uplink k ok => exact h.of_uplinkStep hs
  | downlink k arrives => exact h.of_downlinkStep hs
  | stop => exact h.of_stopStep hs
  | stopSwap c => exact h.of_stopSwap hs

theorem Reachable.tableInv (hs : Reachable cfg s) : TableInv s := by
  induction hs with
  | init => exact tableInv_init
  | step a _ h ih => exact ih.of_step h

end Relay
end ShadowsocksGo
