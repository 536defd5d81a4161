import ShadowsocksGo.Relay.Swap

/-! # Shutdown

`Stop` waits for the ingress loop, swaps `s.serverConn` into every session's `state`, and waits on
`s.wg`; once it has returned no worker runs, and none starts later. -/

namespace ShadowsocksGo
namespace Relay

def InitPc.holdsWg : InitPc → Bool
  | .router | .teardown | .drain | .exited => false
  | _ => true

def Session.wgHeld (e : Session) : ℕ :=
  (if e.init.holdsWg then 1 else 0) + (if e.uplink.running then 1 else 0)

def wgBelow (sessions : ℕ → Session) : ℕ → ℕ
  | 0 => 0
  | n + 1 => wgBelow sessions n + (sessions n).wgHeld

section WaitGroup

variable {sessions : ℕ → Session} {k n : ℕ}

theorem wgBelow_update_of_le (h : n ≤ k) (e : Session) :
    wgBelow (Function.update sessions k e) n = wgBelow sessions n := by
  induction n with
  | zero => rfl
  | succ n ih => simp only [wgBelow, ih (by omega), Function.update_noteq (by omega : n ≠ k)]

theorem wgBelow_update (h : k < n) (e : Session) :
    wgBelow (Function.update sessions k e) n + (sessions k).wgHeld =
      wgBelow sessions n + e.wgHeld := by
  induction n with
  | zero => omega
  | succ n ih =>
    simp only [wgBelow]
    by_cases hk : k = n
    · subst hk; rw [wgBelow_update_of_le le_rfl, Function.update_same]; omega
    · rw [Function.update_noteq (Ne.symm hk)]; have := ih (by omega); omega

theorem wgHeld_le_wgBelow (h : k < n) : (sessions k).wgHeld ≤ wgBelow sessions n := by
  induction n with
  | zero => omega
  | succ n ih =>
    simp only [wgBelow]
    by_cases hk : k = n
    · subst hk; omega
    · have := ih (by omega); omega

end WaitGroup

def StopPc.pastIngress : StopPc → Bool
  | .swapping _ | .waitWorkers | .returned => true
  | _ => false

def StopPc.pending (c : UInt64) : StopPc → Bool
  | .swapping keys => decide (c ∈ keys)
  | _ => false

/-- The shutdown invariant: `s.wg` is what the goroutines hold, every live session is swapped or
still to visit after the ingress loop exited, and no worker runs after `Stop` returned. -/
structure StopInv (s : State) : Prop where
  wg : s.wg = wgBelow s.sessions s.nSessions
  ingress : s.stop.pastIngress → s.ingressRunning = false
  cover : s.stop.pastIngress → ∀ {k}, k < s.nSessions → (s.sessions k).init.live →
    Swapper.stop ∈ (s.sessions k).swaps.map Prod.fst ∨ s.stop.pending (s.sessions k).csid
  returned : s.stop = .returned → ∀ {k}, k < s.nSessions →
    (s.sessions k).init ≠ .spawn ∧ (s.sessions k).init ≠ .downlink ∧
      (s.sessions k).uplink.running = false

theorem stopInv_init : StopInv init where
  wg := rfl
  ingress h := by simp [init, StopPc.pastIngress] at h
  cover h := by simp [init, StopPc.pastIngress] at h
  returned h := by simp [init] at h

namespace StopInv

variable {s s' : State} {k : ℕ} {e : Session}

theorem congr (h : StopInv s) (hst : s'.stop = s.stop) (hn : s'.nSessions = s.nSessions)
    (hi : s'.ingressRunning = true → s.ingressRunning = true) (hs : s'.sessions = s.sessions)
    (hwg : s'.wg = s.wg) : StopInv s' := by
  refine ⟨by rw [hwg, hs, hn]; exact h.wg, fun hp => ?_, fun hp => ?_, fun hr => ?_⟩
  · rw [hst] at hp
    by_contra hi'
    have := hi (by simpa using hi')
    simp [h.ingress hp] at this
  · rw [hst] at hp ⊢; rw [hs, hn]; exact h.cover hp
  · rw [hst] at hr; rw [hs, hn]; exact h.returned hr

theorem frame (h : StopInv s) (hk : k < s.nSessions) (hst : s'.stop = s.stop)
    (hn : s'.nSessions = s.nSessions) (hi : s'.ingressRunning = true → s.ingressRunning = true)
    (hs : s'.sessions = Function.update s.sessions k e)
    (hwg : s'.wg + (s.sessions k).wgHeld = s.wg + e.wgHeld) (hcs : e.csid = (s.sessions k).csid)
    (hlive : e.init.live → (s.sessions k).init.live)
    (hlog : Swapper.stop ∈ (s.sessions k).swaps.map Prod.fst → Swapper.stop ∈ e.swaps.map Prod.fst)
    (hret : s.stop = .returned → e.init ≠ .spawn ∧ e.init ≠ .downlink ∧ e.uplink.running = false) :
    StopInv s' := by
  refine ⟨?_, fun hp => ?_, fun hp {j} hj hl => ?_, fun hr {j} hj => ?_⟩
  · have := @wgBelow_update s.sessions _ _ hk e
    rw [hs, hn]; have := h.wg; omega
  · rw [hst] at hp
    by_contra hi'
    have := hi (by simpa using hi')
    simp [h.ingress hp] at this
  · rw [hst] at hp ⊢; rw [hn] at hj; rw [hs] at hl ⊢
    by_cases hjk : j = k
    · subst hjk; simp only [Function.update_same, hcs] at hl ⊢
      exact (h.cover hp hj (hlive hl)).imp_left hlog
    · simp only [Function.update_noteq hjk] at hl ⊢; exact h.cover hp hj hl
  · rw [hst] at hr; rw [hn] at hj; rw [hs]
    by_cases hjk : j = k
    · subst hjk; simpa using hret hr
    · simp only [Function.update_noteq hjk]; exact h.returned hr hj

theorem of_notPast (hp : s.stop.pastIngress = false) (hwg : s.wg = wgBelow s.sessions s.nSessions) :
    StopInv s :=
  ⟨hwg, fun h' => by simp [hp] at h', fun h' => by simp [hp] at h',
    fun h' => by simp [h', StopPc.pastIngress] at hp⟩

end StopInv

variable {cfg : Config} {s s' : State}

namespace StopInv

variable {k : ℕ} {e : Session}

theorem setSession_of_fields (h : StopInv s) (hk : k < s.nSessions)
    (hf : (e.csid, e.init, e.uplink, e.swaps) =
      ((s.sessions k).csid, (s.sessions k).init, (s.sessions k).uplink, (s.sessions k).swaps)) :
    StopInv (s.setSession k e) := by
  simp only [Prod.mk.injEq] at hf
  obtain ⟨hcs, hi, hu, hsw⟩ := hf
  refine h.frame hk rfl rfl id rfl (by simp [Session.wgHeld, hi, hu]) hcs (by rw [hi]; exact id)
    (by rw [hsw]; exact id) fun hr => ?_
  rw [hi, hu]; exact h.returned hr hk

theorem send (h : StopInv s) (hk : k < s.nSessions) (p : ℕ) : StopInv (s.send cfg k p) := by
  dsimp only [State.send]
  split_ifs
  · exact h.congr rfl rfl id rfl rfl
  · exact h.setSession_of_fields hk rfl
  · exact h.congr rfl rfl id rfl rfl

theorem insertSession (h : StopInv s) (hp : s.stop.pastIngress = false)
    (hu : e.uplink.running = false) (info : Option ClientAddrInfo) :
    StopInv (s.insertSession e info) := by
  refine of_notPast hp ?_
  simp only [State.insertSession_sessions, State.insertSession_nSessions, wgBelow,
    wgBelow_update_of_le le_rfl, Function.update_same]
  simpa [Session.wgHeld, InitPc.holdsWg, hu] using h.wg

end StopInv

theorem StopInv.dispatch_of_lookup (h : StopInv s) (ht : TableInv s) {c : UInt64} {k : ℕ}
    (hl : s.table.find c = some k) (p addr : ℕ) (cmsg : List UInt8) (ok : Bool) :
    StopInv (dispatch cfg s p (some k) (s.sessions k) addr cmsg ok) := by
  obtain ⟨hk, -, -⟩ := ht.lookup hl
  unfold dispatch
  rw [updateClientAddrInfo_eq]
  split_ifs
  · exact (h.setSession_of_fields hk rfl).send (by simpa using hk) p
  · refine (h.setSession_of_fields hk ?_).send (by simpa using hk) p
    rfl
  · refine (h.setSession_of_fields hk ?_).congr rfl rfl id rfl rfl
    rfl

theorem StopInv.dispatch_of_fresh (h : StopInv s) (hp : s.stop.pastIngress = false) {c : UInt64}
    (p addr : ℕ) (cmsg : List UInt8) (ok : Bool) :
    StopInv (dispatch cfg s p none (Session.fresh c) addr cmsg ok) := by
  unfold dispatch
  rw [updateClientAddrInfo_eq]
  split_ifs
  all_goals first
    | exact h.congr rfl rfl id rfl rfl
    | exact (h.insertSession hp (by rfl) _).send (by simp) p

theorem StopInv.of_recv (h : StopInv s) (ht : TableInv s) (hrun : s.ingressRunning = true) {pick : ℕ} {r : Recv}
    (hs : recvFromServerConn cfg s pick r = some s') : StopInv s' := by
  have hp : s.stop.pastIngress = false := by
    by_contra hp; simp [h.ingress (by simpa using hp)] at hrun
  cases r with
  | deadlineExceeded =>
    simp only [recvFromServerConn] at hs
    split_ifs at hs
    cases hs
    exact h.congr rfl rfl (fun _ => hrun) rfl rfl
  | error => cases hs; exact h.congr rfl rfl id rfl rfl
  | datagram c addr cmsg length nu up pp =>
    simp only [recvFromServerConn] at hs
    by_cases h₀ : addr = 0 ∨ s.stop.holdsLock
    · simp [h₀] at hs
    rw [if_neg h₀] at hs
    have h₁ : StopInv ((s.getQueuedPacket pick).2.readInto (s.getQueuedPacket pick).1 c addr cmsg nu length) :=
      h.congr rfl rfl id rfl rfl
    have ht₁ : TableInv ((s.getQueuedPacket pick).2.readInto (s.getQueuedPacket pick).1 c addr cmsg nu length) :=
      ht.congr rfl rfl rfl rfl
    split at hs <;> split_ifs at hs <;> cases hs
    · exact h₁.dispatch_of_lookup ht₁ ‹_› _ _ _ _
    · exact h₁.congr rfl rfl id rfl rfl
    · exact h₁.dispatch_of_fresh hp _ _ _ _
    · exact h₁.congr rfl rfl id rfl rfl

theorem StopInv.of_initStep (h : StopInv s) (hw : SwapInv s) (hb : BufInv s []) (ht : TableInv s)
    {k : ℕ} {ok : Bool} (hs : initStep cfg s k ok = some s') : StopInv s' := by
  have hk : k < s.nSessions := ht.lt_of_init (by intro he; simp [initStep, he] at hs)
  have hwk : (s.sessions k).wgHeld ≤ s.wg := h.wg ▸ wgHeld_le_wgBelow hk
  have hr := h.returned
  cases hpc : (s.sessions k).init <;> simp only [Relay.initStep, hpc, reduceCtorEq] at hs
  case swap =>
    have ho := hw.session hk
    split at hs
    · split_ifs at hs with hst <;> cases hs
      · refine h.frame hk rfl rfl id rfl (by simp [Session.wgHeld, hpc, InitPc.holdsWg]) rfl
          (by simp [hpc, InitPc.live]) (by simp) fun hret => ?_
        have hl : (s.sessions k).init.live := by simp [hpc, InitPc.live]
        have hstop := (h.cover (by simp [hret, StopPc.pastIngress]) hk hl).resolve_right
          (by simp [hret, StopPc.pending])
        simp [ho.state_of_stop hstop (ho.beforeSwap (by simp [hpc, InitPc.beforeSwap]))] at hst
      · refine h.frame hk rfl rfl id rfl (by simp [Session.wgHeld, hpc, InitPc.holdsWg]) rfl
          (by simp [hpc, InitPc.live]) (by simp) fun hret => ?_
        have := hr hret hk
        simpa using this.2.2
    · cases hs
  case spawn =>
    split at hs <;> cases hs
    · have hbo := hb.session hk
      have hu : (s.sessions k).uplink = .notStarted := by
        by_contra hu
        have := hbo.clean.2 hu
        simp [hbo.early (by simp [hpc, InitPc.early])] at this
      apply h.frame hk <;> first
        | rfl
        | exact id
        | (intro hret; exact absurd hpc (hr hret hk).1)
        | (simp [hpc, InitPc.live]; done)
        | (simp [Session.wgHeld, hpc, hu, InitPc.holdsWg, UplinkPc.running])
    · exact h.congr rfl rfl id rfl rfl
  case teardown =>
    split_ifs at hs <;> cases hs
    · exact h.congr rfl rfl id rfl rfl
    · cases hc : (s.sessions k).sendChClean <;> apply h.frame hk <;> first
        | rfl
        | exact id
        | (intro hret; simp [State.teardown, hc, (hr hret hk).2.2])
        | (simp [State.teardown, hpc, hc, InitPc.live]; done)
        | (simp [State.teardown, Session.wgHeld, hpc, hc, InitPc.holdsWg])
  all_goals (try split at hs) <;> (try split_ifs at hs) <;> cases hs
  all_goals apply h.frame hk <;> first
    | rfl
    | exact id
    | (intro hret; simp [(hr hret hk).2.2])
    | (simp [hpc, InitPc.live]; done)
    | (simp [Session.wgHeld, hpc, InitPc.holdsWg] at hwk ⊢ <;> split_ifs at hwk ⊢ <;> omega)

theorem StopInv.of_uplinkStep (h : StopInv s) (ht : TableInv s) {k : ℕ} {ok : Bool}
    (hs : uplinkStep cfg s k ok = some s') : StopInv s' := by
  have hk : k < s.nSessions := by
    by_contra hn
    simp [uplinkStep, ht.unused (not_lt.mp hn), default, Session.fresh] at hs
  have hwk : (s.sessions k).wgHeld ≤ s.wg := h.wg ▸ wgHeld_le_wgBelow hk
  have hr := h.returned
  cases hu : (s.sessions k).uplink <;> cases hn : (s.sessions k).natConn <;>
    simp only [Relay.uplinkStep, hu, hn, reduceCtorEq] at hs
  all_goals (try split at hs) <;> (try split_ifs at hs) <;> cases hs
  all_goals apply h.frame hk <;> first
    | rfl
    | exact id
    | (intro hret; simpa [hu, UplinkPc.running] using hr hret hk)
    | (simp [Session.wgHeld, hu, UplinkPc.running] at hwk ⊢ <;> split_ifs at hwk ⊢ <;> omega)

theorem StopInv.of_downlinkStep (h : StopInv s) (ht : TableInv s) {k : ℕ} {arrives : Bool}
    (hs : downlinkStep s k arrives = some s') : StopInv s' := by
  cases hpc : (s.sessions k).init <;> cases hn : (s.sessions k).natConn <;>
    simp only [downlinkStep, hpc, hn, reduceCtorEq] at hs
  have hk := ht.lt_of_init (show (s.sessions k).init ≠ .exited by simp [hpc])
  have hr := h.returned
  split_ifs at hs <;> cases hs
  · apply h.frame hk <;> first
      | rfl
      | exact id
      | (intro hret; exact absurd hpc (hr hret hk).2.1)
      | (simp [hpc, InitPc.live]; done)
      | (simp [Session.wgHeld, hpc, InitPc.holdsWg])
  · exact h.congr rfl rfl id rfl rfl

theorem StopInv.of_stopStep (h : StopInv s) (ht : TableInv s) (hs : stopStep s = some s') :
    StopInv s' := by
  unfold stopStep at hs
  split at hs <;> (try split_ifs at hs with hwg) <;> cases hs
  · exact StopInv.of_notPast rfl h.wg
  · refine ⟨h.wg, fun _ => by simpa using hwg, fun _ {j} hj hl => .inr ?_, fun h' => by cases h'⟩
    simp [StopPc.pending, Table.mem_keys, ht.present hj hl]
  · rename_i hst
    refine ⟨h.wg, fun _ => h.ingress (by simp [hst, StopPc.pastIngress]), fun _ {j} hj hl => .inl ?_,
      fun h' => by cases h'⟩
    simpa [hst, StopPc.pending] using h.cover (by simp [hst, StopPc.pastIngress]) hj hl
  · rename_i hst
    refine ⟨h.wg, fun _ => h.ingress (by simp [hst, StopPc.pastIngress]), fun _ {j} hj hl => ?_,
      fun _ {j} hj => ?_⟩
    · simpa [hst, StopPc.pending] using h.cover (by simp [hst, StopPc.pastIngress]) hj hl
    · have hj' : j < s.nSessions := hj
      have h0 : (s.sessions j).wgHeld = 0 := by
        have := @wgHeld_le_wgBelow s.sessions _ _ hj'; rw [← h.wg, hwg] at this; omega
      simp only [Session.wgHeld, Nat.add_eq_zero, ite_eq_right_iff, Nat.one_ne_zero, imp_false,
        Bool.not_eq_true] at h0
      refine ⟨fun (h' : (s.sessions j).init = .spawn) => ?_,
        fun (h' : (s.sessions j).init = .downlink) => ?_, h0.2⟩ <;> simp [h', InitPc.holdsWg] at h0

theorem StopInv.of_stopSwap (h : StopInv s) (ht : TableInv s) {c : UInt64}
    (hs : stopSwap s c = some s') : StopInv s' := by
  cases hst : s.stop <;> simp only [Relay.stopSwap, hst, reduceCtorEq] at hs
  rename_i keys
  split_ifs at hs with hc
  have hp : s.stop.pastIngress := by simp [hst, StopPc.pastIngress]
  have hcov : ∀ {j}, j < s.nSessions → (s.sessions j).init.live →
      Swapper.stop ∈ (s.sessions j).swaps.map Prod.fst ∨ (s.sessions j).csid ∈ keys := fun hj hl => by
    simpa [hst, StopPc.pending] using h.cover hp hj hl
  /- A live session whose key `Stop` has still to visit after this step: its key is not `c`. -/
  have hkey : ∀ {j : ℕ}, (s.sessions j).csid ∈ keys → (s.sessions j).csid ≠ c →
      StopPc.pending (s.sessions j).csid (.swapping (keys.erase c)) := fun hm hne => by
    simpa [StopPc.pending] using (List.mem_erase_of_ne hne).2 hm
  cases hf : s.table.find c with
  | none =>
    simp only [hf] at hs; cases hs
    refine ⟨h.wg, fun _ => h.ingress hp, fun _ {j} hj hl => ?_, fun h' => by cases h'⟩
    refine (hcov hj hl).imp_right fun hm => hkey hm ?_
    intro hjc; rw [← hjc, ht.present hj hl] at hf; cases hf
  | some k =>
    obtain ⟨hk, -, -⟩ := ht.lookup hf
    have key : ∀ (s'' : State) (e' : Session), s''.stop = .swapping (keys.erase c) →
        s''.nSessions = s.nSessions → s''.ingressRunning = s.ingressRunning → s''.wg = s.wg →
        s''.sessions = Function.update s.sessions k e' → e'.init = (s.sessions k).init →
        e'.uplink = (s.sessions k).uplink → Swapper.stop ∈ e'.swaps.map Prod.fst → StopInv s'' := by
      intro s'' e' h₁ h₂ h₃ h₄ h₅ hi hu hst'
      refine ⟨?_, fun _ => h₃ ▸ h.ingress hp, fun _ {j} hj hl => ?_, fun h' => by simp [h₁] at h'⟩
      · have := @wgBelow_update s.sessions _ _ hk e'
        have h2 : e'.wgHeld = (s.sessions k).wgHeld := by simp [Session.wgHeld, hi, hu]
        rw [h₄, h₅, h₂, h.wg]; omega
      · rw [h₂] at hj; rw [h₅] at hl ⊢; rw [h₁]
        by_cases hjk : j = k
        · subst hjk; simp [hst']
        · simp only [Function.update_noteq hjk] at hl ⊢
          refine (hcov hj hl).imp_right fun hm => hkey hm fun hjc => hjk ?_
          exact Option.some.inj ((ht.present hj hl).symm.trans (by rw [hjc]; exact hf))
    cases hstate : (s.sessions k).state <;> simp only [hf, hstate] at hs <;> cases hs <;>
      apply key <;> first | rfl | simp

theorem StopInv.of_step (h : StopInv s) (hw : SwapInv s) (hb : BufInv s []) (ht : TableInv s)
    {a : Action} (hs : step cfg s a = some s') : StopInv s' := by
  cases a with
  | tick => cases hs; exact h.congr rfl rfl id rfl rfl
  | recv pick r =>
    simp only [step] at hs
    split_ifs at hs with hrun
    exact h.of_recv ht hrun hs
  | init k ok => exact h.of_initStep hw hb ht hs
  | uplink k ok => exact h.of_uplinkStep ht hs
  | downlink k arrives => exact h.of_downlinkStep ht hs
  | stop => exact h.of_stopStep ht hs
  | stopSwap c => exact h.of_stopSwap ht hs

theorem Reachable.stopInv (hs : Reachable cfg s) : StopInv s := by
  induction hs with
  | init => exact stopInv_init
  | step a hr h ih => exact ih.of_step hr.swapInv hr.bufInv hr.tableInv h

/-- `s.wg` counts the goroutines between their `Add(1)` and their `Done()`, so each `Done` finds
it positive. -/
theorem waitGroup_counter (hr : Reachable cfg s) :
    s.wg = wgBelow s.sessions s.nSessions ∧
    ∀ k, ((s.sessions k).init = .wgDone ∨ (s.sessions k).uplink = .recv) → 0 < s.wg := by
  have h := hr.stopInv
  refine ⟨h.wg, fun k hd => ?_⟩
  have hk : k < s.nSessions := by
    by_contra hn
    rw [hr.tableInv.unused (not_lt.mp hn)] at hd
    simp [default, Session.fresh] at hd
  have hpos : 0 < (s.sessions k).wgHeld := by
    unfold Session.wgHeld
    rcases hd with hd | hd
    · exact Nat.add_pos_left (by simp [hd, InitPc.holdsWg]) _
    · exact Nat.add_pos_right _ (by simp [hd, UplinkPc.running])
  exact h.wg ▸ Nat.lt_of_lt_of_le hpos (wgHeld_le_wgBelow hk)

theorem waitGroup_counter_newSessionFails :
    ∃ s, run ⟨5, by decide, 4⟩ init [.recv 0 (.datagram 7 1 [1] 10 true true true), .init 0 true,
        .init 0 false] = some s ∧ (s.sessions 0).init = .wgDone ∧ s.wg = 1 ∧
      (s.wg = wgBelow s.sessions s.nSessions ∧
        ∀ k, ((s.sessions k).init = .wgDone ∨ (s.sessions k).uplink = .recv) → 0 < s.wg) := by
  have hrun : run ⟨5, by decide, 4⟩ init [.recv 0 (.datagram 7 1 [1] 10 true true true),
      .init 0 true, .init 0 false] = some _ := rfl
  exact ⟨_, hrun, rfl, rfl, waitGroup_counter (.run .init hrun)⟩

section Frame

variable {k : ℕ}

theorem initStep_stop {ok : Bool} (hs : initStep cfg s k ok = some s') : s'.stop = s.stop := by
  cases hpc : (s.sessions k).init <;> simp only [Relay.initStep, hpc, reduceCtorEq] at hs
  all_goals (try split at hs) <;> (try split_ifs at hs) <;> cases hs <;> rfl

theorem uplinkStep_stop {ok : Bool} (hs : uplinkStep cfg s k ok = some s') : s'.stop = s.stop := by
  cases hu : (s.sessions k).uplink <;> cases hn : (s.sessions k).natConn <;>
    simp only [Relay.uplinkStep, hu, hn, reduceCtorEq] at hs
  all_goals (try split at hs) <;> (try split_ifs at hs) <;> cases hs <;> rfl

theorem downlinkStep_stop {arrives : Bool} (hs : downlinkStep s k arrives = some s') :
    s'.stop = s.stop := by
  cases hpc : (s.sessions k).init <;> cases hn : (s.sessions k).natConn <;>
    simp only [downlinkStep, hpc, hn, reduceCtorEq] at hs
  split_ifs at hs <;> cases hs <;> rfl

end Frame

theorem StopInv.step_returned (h : StopInv s) (hst : s.stop = .returned) {a : Action}
    (hs : step cfg s a = some s') : s'.stop = .returned := by
  cases a with
  | tick => cases hs; exact hst
  | recv pick r =>
    simp only [step, h.ingress (by simp [hst, StopPc.pastIngress])] at hs
    cases hs
  | init k ok => rw [initStep_stop hs, hst]
  | uplink k ok => rw [uplinkStep_stop hs, hst]
  | downlink k arrives => rw [downlinkStep_stop hs, hst]
  | stop => simp [step, stopStep, hst] at hs
  | stopSwap c => simp [step, Relay.stopSwap, hst] at hs

theorem StopInv.no_workers (h : StopInv s) (ht : TableInv s) (hst : s.stop = .returned) (k : ℕ) :
    (s.sessions k).init ≠ .spawn ∧ (s.sessions k).init ≠ .downlink ∧
      (s.sessions k).uplink.running = false ∧ (∀ b, downlinkStep s k b = none) ∧
      (∀ ok, uplinkStep cfg s k ok = none) := by
  have ⟨hsp, hdl, hup⟩ : (s.sessions k).init ≠ .spawn ∧ (s.sessions k).init ≠ .downlink ∧
      (s.sessions k).uplink.running = false := by
    by_cases hlt : k < s.nSessions
    · exact h.returned hst hlt
    · rw [ht.unused (not_lt.mp hlt)]; exact ⟨by decide, by decide, rfl⟩
  refine ⟨hsp, hdl, hup, fun b => ?_, fun ok => ?_⟩
  · cases hi : (s.sessions k).init <;> simp_all [downlinkStep]
  · cases hu : (s.sessions k).uplink <;> simp_all [uplinkStep, UplinkPc.running]

/-- Once `Stop` has returned, no worker runs or will ever be started, so nothing writes to the
closed `serverConn`. -/
theorem stop_returned_no_workers (hr : Reachable cfg s) (hst : s.stop = .returned)
    {as : List Action} {s' : State} (hs : run cfg s as = some s') :
    s'.stop = .returned ∧ ∀ k, (s'.sessions k).init ≠ .spawn ∧ (s'.sessions k).init ≠ .downlink ∧
      (s'.sessions k).uplink.running = false ∧ (∀ b, downlinkStep s' k b = none) ∧
      (∀ ok, uplinkStep cfg s' k ok = none) := by
  induction as generalizing s with
  | nil => cases hs; exact ⟨hst, hr.stopInv.no_workers hr.tableInv hst⟩
  | cons a as ih =>
    simp only [Relay.run, Option.bind_eq_some] at hs
    obtain ⟨s₁, h₁, h₂⟩ := hs
    exact ih (hr.step a h₁) (hr.stopInv.step_returned hst h₁) h₂

theorem stop_returned_no_workers_lateInitializer :
    ∃ s s', Reachable ⟨5, by decide, 4⟩ s ∧ s.stop = .returned ∧
      run ⟨5, by decide, 4⟩ s [.init 0 true, .init 0 true, .init 0 true, .init 0 true, .init 0 true,
        .init 0 true] = some s' ∧ (s'.sessions 0).init = .wgDone ∧
      (s'.stop = .returned ∧ ∀ k, (s'.sessions k).init ≠ .spawn ∧ (s'.sessions k).init ≠ .downlink ∧
        (s'.sessions k).uplink.running = false ∧ (∀ b, downlinkStep s' k b = none) ∧
        (∀ ok, uplinkStep ⟨5, by decide, 4⟩ s' k ok = none)) := by
  have h₁ : (run ⟨5, by decide, 4⟩ init [.recv 0 (.datagram 7 1 [1] 10 true true true), .stop,
      .recv 0 .deadlineExceeded, .stop, .stopSwap 7, .stop, .stop]).isSome := by decide
  have h₂ : (run ⟨5, by decide, 4⟩ (Option.get _ h₁) [.init 0 true, .init 0 true, .init 0 true,
      .init 0 true, .init 0 true, .init 0 true]).isSome := rfl
  exact ⟨_, _, .run .init (Option.some_get h₁).symm, rfl, (Option.some_get h₂).symm, rfl,
    stop_returned_no_workers (.run .init (Option.some_get h₁).symm) rfl (Option.some_get h₂).symm⟩

/-- The deferred `s.wg.Done()` runs before the deferred teardown, so `Stop` can return with the key
still in the table. -/
theorem stop_returns_before_teardown :
    ∃ s₀ s, run ⟨5, by decide, 4⟩ init [.recv 0 (.datagram 7 1 [1] 10 true true true),
        .init 0 true, .init 0 false, .init 0 true] = some s₀ ∧
      (∀ k < s₀.nSessions, (s₀.sessions k).init ≠ .router) ∧
      run ⟨5, by decide, 4⟩ s₀ [.stop, .recv 0 .deadlineExceeded, .stop, .stopSwap 7, .stop, .stop] =
        some s ∧
      s.stop = .returned ∧ s.table.find 7 = some 0 ∧ (s.sessions 0).init = .teardown :=
  ⟨_, _, rfl, by decide, rfl, by decide, by decide, by decide⟩

end Relay
end ShadowsocksGo
