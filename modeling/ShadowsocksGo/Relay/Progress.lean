import ShadowsocksGo.Relay.Shutdown

/-! # Progress: the shutdown always completes

From every reachable state some interleaving, every call succeeding, takes `Stop` to its return
with every goroutine ended: the ingress loop exits at its deadline, `Stop` swaps each key, each
session's goroutines run out, and `s.wg.Wait()` returns. -/

namespace ShadowsocksGo
namespace Relay

def InitPc.opened : InitPc → Bool
  | .setDeadline | .swap | .spawn | .downlink => true
  | _ => false

def Session.liveView (e : Session) : InitPc × Bool × Option ℕ :=
  (e.init, e.uplink.running, e.natConn)

/-- The liveness invariant: `serverConn` has a deadline once `Stop` set it, an opened `natConn` has
one once the initializer set it, and a running uplink goroutine has its `natConn`. -/
structure LiveInv (s : State) : Prop where
  server : s.stop ≠ .idle → (s.socks serverConn).deadline.isSome
  natConn : ∀ {k}, (s.sessions k).init.opened → ∃ n, (s.sessions k).natConn = some n ∧
    ((s.sessions k).init ≠ .setDeadline → (s.socks n).deadline.isSome)
  uplink : ∀ {k}, (s.sessions k).uplink.running → (s.sessions k).natConn.isSome

section Deadline

variable {s : State} {n m t : ℕ}

theorem deadline_setReadDeadline_of_isSome (h : (s.socks m).deadline.isSome) :
    ((s.setReadDeadline n t).socks m).deadline.isSome := by
  by_cases hm : m = n
  · subst hm; simp only [State.setReadDeadline, Function.update_same]; split_ifs <;> simp [h]
  · simpa [State.setReadDeadline, Function.update_noteq hm]

theorem deadline_setReadDeadline_self (h : (s.socks n).closes = 0) :
    ((s.setReadDeadline n t).socks n).deadline = some t := by
  simp [State.setReadDeadline, h]

theorem deadline_close_of_isSome (h : (s.socks m).deadline.isSome) :
    ((s.close n).socks m).deadline.isSome := by
  by_cases hm : m = n
  · subst hm; simpa using h
  · simpa [Function.update_noteq hm] using h

end Deadline

section Frame

variable {cfg : Config} {s : State} {k j p : ℕ}

@[simp] theorem send_socks : (s.send cfg k p).socks = s.socks := by
  dsimp only [State.send]; split_ifs <;> rfl

@[simp] theorem send_stop : (s.send cfg k p).stop = s.stop := by
  dsimp only [State.send]; split_ifs <;> rfl

theorem send_liveView : ((s.send cfg k p).sessions j).liveView = (s.sessions j).liveView := by
  dsimp only [State.send]
  split_ifs
  · rfl
  · by_cases hj : j = k
    · subst hj; simp [Session.liveView]
    · simp [Function.update_noteq hj]
  · rfl

theorem updateClientAddrInfo_liveView {e : Session} {addr : ℕ} {cmsg : List UInt8} {ok : Bool}
    {e' : Session} {info : Option ClientAddrInfo} (h : updateClientAddrInfo e addr cmsg ok = .ok (e', info)) :
    e'.liveView = e.liveView := by
  rw [updateClientAddrInfo_eq] at h
  split_ifs at h <;> simp at h <;> obtain ⟨rfl, -⟩ := h <;> rfl

theorem updateClientAddrInfo_liveView_of_error {e : Session} {addr : ℕ} {cmsg : List UInt8}
    {ok : Bool} {e' : Session} (h : updateClientAddrInfo e addr cmsg ok = .error e') :
    e'.liveView = e.liveView := by
  rw [updateClientAddrInfo_eq] at h
  split_ifs at h; simp at h
  subst h; rfl

theorem liveView_update {f : ℕ → Session} {e : Session} (hv : e.liveView = (f k).liveView) (j : ℕ) :
    (Function.update f k e j).liveView = (f j).liveView := by
  by_cases hj : j = k
  · subst hj; rw [Function.update_same, hv]
  · rw [Function.update_noteq hj]

def LiveFrame (s s' : State) : Prop :=
  s'.socks = s.socks ∧ s'.stop = s.stop ∧ ∀ j, (s'.sessions j).liveView = (s.sessions j).liveView ∨
    (s'.sessions j).liveView = (.router, false, none)

theorem dispatch_frame {k : Option ℕ} {e : Session} {addr : ℕ} {cmsg : List UInt8} {ok : Bool}
    (hk : ∀ k', k = some k' → e = s.sessions k')
    (hn : k = none → e.uplink.running = false ∧ e.natConn = none) :
    LiveFrame s (dispatch cfg s p k e addr cmsg ok) := by
  unfold dispatch
  rcases hu : updateClientAddrInfo e addr cmsg ok with e' | ⟨e', info⟩
  · cases k with
    | none => exact ⟨rfl, rfl, fun _ => .inl rfl⟩
    | some k =>
      obtain rfl := hk k rfl
      exact ⟨rfl, rfl, fun j => .inl (liveView_update (updateClientAddrInfo_liveView_of_error hu) j)⟩
  · cases k with
    | none =>
      refine ⟨send_socks, send_stop, fun j => ?_⟩
      rw [send_liveView]
      by_cases hj : j = s.nSessions
      · subst hj
        have hv := updateClientAddrInfo_liveView hu
        obtain ⟨hr, hnc⟩ := hn rfl
        simp only [Session.liveView, Prod.mk.injEq] at hv
        refine .inr ?_
        simp [Session.liveView, hv.2.1, hv.2.2, hr, hnc]
      · exact .inl (by simp [Function.update_noteq hj])
    | some k =>
      obtain rfl := hk k rfl
      refine ⟨send_socks, send_stop, fun j => .inl ?_⟩
      rw [send_liveView]
      exact liveView_update (updateClientAddrInfo_liveView hu) j

theorem recvFromServerConn_frame {pick : ℕ} {r : Recv} {s' : State} (hs : recvFromServerConn cfg s pick r = some s') :
    LiveFrame s s' := by
  cases r with
  | deadlineExceeded =>
    simp only [recvFromServerConn] at hs
    split_ifs at hs
    cases hs
    exact ⟨rfl, rfl, fun _ => .inl rfl⟩
  | error => cases hs; exact ⟨rfl, rfl, fun _ => .inl rfl⟩
  | datagram c addr cmsg length nu up pp =>
    simp only [recvFromServerConn] at hs
    rw [if_neg fun h₀ => by simp [h₀] at hs] at hs
    split at hs <;> split_ifs at hs <;> cases hs
    · exact dispatch_frame (fun _ h => by cases h; rfl) (fun h => by cases h)
    · exact ⟨rfl, rfl, fun _ => .inl rfl⟩
    · exact dispatch_frame (fun _ h => by cases h) (fun _ => ⟨rfl, rfl⟩)
    · exact ⟨rfl, rfl, fun _ => .inl rfl⟩

end Frame

namespace LiveInv

variable {cfg : Config} {s s' : State} {k : ℕ} {e : Session}

theorem liveInv_init : LiveInv init where
  server h := absurd rfl h
  natConn h := by simp [init, default, Session.fresh, InitPc.opened] at h
  uplink h := by simp [init, default, Session.fresh, UplinkPc.running] at h

theorem update (h : LiveInv s) (hst : s'.stop ≠ .idle → s.stop ≠ .idle)
    (hd : ∀ n, (s.socks n).deadline.isSome → (s'.socks n).deadline.isSome)
    (hs : s'.sessions = Function.update s.sessions k e)
    (hn : e.init.opened → ∃ n, e.natConn = some n ∧
      (e.init ≠ .setDeadline → (s'.socks n).deadline.isSome))
    (hu : e.uplink.running → e.natConn.isSome) : LiveInv s' := by
  refine ⟨fun h' => hd _ (h.server (hst h')), fun {j} hj => ?_, fun {j} hj => ?_⟩ <;> rw [hs] at hj ⊢
  · by_cases hjk : j = k
    · subst hjk; simp only [Function.update_same] at hj ⊢; exact hn hj
    · simp only [Function.update_noteq hjk] at hj ⊢
      obtain ⟨n, hn, hdl⟩ := h.natConn hj
      exact ⟨n, hn, fun hne => hd n (hdl hne)⟩
  · by_cases hjk : j = k
    · subst hjk; simp only [Function.update_same] at hj ⊢; exact hu hj
    · simp only [Function.update_noteq hjk] at hj ⊢; exact h.uplink hj

theorem update_keep (h : LiveInv s) (hst : s'.stop ≠ .idle → s.stop ≠ .idle)
    (hd : ∀ n, (s.socks n).deadline.isSome → (s'.socks n).deadline.isSome)
    (hs : s'.sessions = Function.update s.sessions k e) (hi : e.init = (s.sessions k).init)
    (hn : e.natConn = (s.sessions k).natConn) (hu : e.uplink.running → e.natConn.isSome) :
    LiveInv s' := by
  refine h.update hst hd hs (fun ho => ?_) hu
  rw [hi] at ho ⊢
  obtain ⟨n, hn', hdl⟩ := h.natConn ho
  exact ⟨n, hn.trans hn', fun hne => hd n (hdl hne)⟩

theorem congr (h : LiveInv s) (hst : s'.stop ≠ .idle → s.stop ≠ .idle)
    (hd : ∀ n, (s.socks n).deadline.isSome → (s'.socks n).deadline.isSome)
    (hs : s'.sessions = s.sessions) : LiveInv s' :=
  h.update_keep (k := 0) hst hd (by rw [hs, Function.update_eq_self]) rfl rfl h.uplink

theorem of_recv (h : LiveInv s) {pick : ℕ} {r : Recv} (hs : recvFromServerConn cfg s pick r = some s') :
    LiveInv s' := by
  obtain ⟨hso, hst, hv⟩ : LiveFrame s s' := recvFromServerConn_frame hs
  refine ⟨fun h' => hso ▸ h.server (hst ▸ h'), fun {j} hj => ?_, fun {j} hj => ?_⟩ <;>
    rcases hv j with hv | hv <;> simp only [Session.liveView, Prod.mk.injEq] at hv
  · obtain ⟨n, hn, hdl⟩ := h.natConn (hv.1 ▸ hj)
    exact ⟨n, hv.2.2.trans hn, fun hne => hso ▸ hdl (hv.1 ▸ hne)⟩
  · simp [hv.1, InitPc.opened] at hj
  · rw [hv.2.2]; exact h.uplink (hv.2.1 ▸ hj)
  · simp [hv.2.1] at hj

theorem of_initStep (h : LiveInv s) (hw : SwapInv s) (hb : BufInv s []) (ht : TableInv s)
    {ok : Bool} (hs : initStep cfg s k ok = some s') : LiveInv s' := by
  have hk : k < s.nSessions := ht.lt_of_init (by intro he; simp [initStep, he] at hs)
  have hsame : ∀ e : Session, e.uplink = (s.sessions k).uplink → e.natConn = (s.sessions k).natConn →
      e.uplink.running → e.natConn.isSome := fun e hu hn hr => hn ▸ h.uplink (hu ▸ hr)
  cases hpc : (s.sessions k).init <;> simp only [Relay.initStep, hpc, reduceCtorEq] at hs
  case setDeadline =>
    obtain ⟨n, hn, -⟩ := h.natConn (k := k) (by simp [hpc, InitPc.opened])
    simp only [hn] at hs
    split_ifs at hs <;> cases hs
    · -- the deadline is set on the fresh socket
      have hcl : (s.sessions k).sendChClean = false := (hb.session hk).early (by simp [hpc, InitPc.early])
      have hc0 : (s.socks n).closes = 0 := by
        simpa [Session.natConnClosed, hcl, hpc, InitPc.early] using (hw.socket hk hn).2.2
      exact h.update (by exact id) (fun _ => deadline_setReadDeadline_of_isSome) rfl
        (fun _ => ⟨n, rfl, fun _ => by simp [hc0]⟩) (fun _ => rfl)
    · exact h.update (by exact id) (fun _ => deadline_close_of_isSome) rfl
        (fun ho => by simp [InitPc.opened] at ho) (fun _ => rfl)
  case swap =>
    obtain ⟨n, hn, hdl⟩ := h.natConn (k := k) (by simp [hpc, InitPc.opened])
    simp only [hn] at hs
    split_ifs at hs <;> cases hs
    · exact h.update (by exact id) (fun _ hd => hd) rfl (fun _ => ⟨n, rfl, fun _ => hdl (by simp [hpc])⟩)
        (fun _ => rfl)
    · exact h.update (by exact id) (fun _ => deadline_close_of_isSome) rfl
        (fun ho => by simp [InitPc.opened] at ho) (fun _ => rfl)
  case spawn =>
    obtain ⟨n, hn, hdl⟩ := h.natConn (k := k) (by simp [hpc, InitPc.opened])
    split at hs <;> cases hs
    · exact h.update (by exact id) (fun _ hd => hd) rfl (fun _ => ⟨n, hn, fun _ => hdl (by simp [hpc])⟩)
        (fun _ => by simp [hn])
    · exact h.congr (by exact id) (fun _ hd => hd) rfl
  case listen =>
    split_ifs at hs <;> cases hs
    · exact h.update (by exact id) (fun _ hd => hd) rfl (fun _ => ⟨_, rfl, fun hne => absurd rfl hne⟩)
        (fun _ => rfl)
    · exact h.update (by exact id) (fun _ hd => hd) rfl (fun ho => by simp [InitPc.opened] at ho)
        (by exact hsame _ rfl rfl)
  case teardown =>
    split_ifs at hs <;> cases hs
    · exact h.congr (by exact id) (fun _ hd => hd) rfl
    · refine h.update (by exact id) (fun _ hd => hd) rfl (fun ho => ?_) (by exact hsame _ rfl rfl)
      cases hc : (s.sessions k).sendChClean <;> simp [hc, InitPc.opened] at ho
  all_goals (try split at hs) <;> cases hs
  all_goals refine h.update ?_ ?_ rfl ?_ ?_
  all_goals first
    | exact id
    | exact fun _ hd => hd
    | exact hsame _ rfl rfl
    | intro ho; simp [InitPc.opened] at ho

theorem of_uplinkStep (h : LiveInv s) {ok : Bool} (hs : uplinkStep cfg s k ok = some s') :
    LiveInv s' := by
  have hrun : (s.sessions k).uplink.running → (s.sessions k).natConn.isSome := h.uplink
  cases hu : (s.sessions k).uplink <;> cases hn : (s.sessions k).natConn <;>
    simp only [Relay.uplinkStep, hu, hn, reduceCtorEq] at hs
  all_goals (try split at hs) <;> (try split_ifs at hs) <;> cases hs
  all_goals refine h.update_keep ?_ ?_ rfl rfl ?_ ?_
  all_goals first
    | exact id
    | rfl
    | exact hn.symm
    | exact fun _ hd => hd
    | exact fun _ => deadline_setReadDeadline_of_isSome
    | exact fun _ => deadline_close_of_isSome
    | (intro _; simp [hn]; done)
    | (intro _; simpa [hn] using hrun (by simp [hu, UplinkPc.running]))

theorem of_downlinkStep (h : LiveInv s) {arrives : Bool} (hs : downlinkStep s k arrives = some s') :
    LiveInv s' := by
  cases hpc : (s.sessions k).init <;> cases hn : (s.sessions k).natConn <;>
    simp only [downlinkStep, hpc, hn, reduceCtorEq] at hs
  split_ifs at hs <;> cases hs
  · exact h.update (by exact id) (fun _ hd => hd) rfl (fun ho => by simp [InitPc.opened] at ho)
      (fun _ => rfl)
  · exact h.congr id (fun _ hd => hd) rfl

theorem of_stopStep (h : LiveInv s) (hw : SwapInv s) (hs : stopStep s = some s') : LiveInv s' := by
  unfold stopStep at hs
  split at hs <;> try split_ifs at hs
  all_goals cases hs
  · -- `Stop` sets `s.serverConn`'s deadline
    rename_i hst
    have hc0 : (s.socks serverConn).closes = 0 := by simpa [hst] using hw.server
    refine ⟨fun _ => by simp [hc0], fun {j} hj => ?_, h.uplink⟩
    obtain ⟨n, hn, hdl⟩ := h.natConn hj
    exact ⟨n, hn, fun hne => deadline_setReadDeadline_of_isSome (hdl hne)⟩
  all_goals first
    | exact h.congr (by simp_all) (fun _ hd => hd) rfl
    | exact h.congr (by simp_all) (fun _ => deadline_close_of_isSome) rfl

theorem of_stopSwap (h : LiveInv s) {c : UInt64} (hs : stopSwap s c = some s') : LiveInv s' := by
  cases hst : s.stop <;> simp only [Relay.stopSwap, hst, reduceCtorEq] at hs
  split_ifs at hs
  have hne : s.stop ≠ .idle := by simp [hst]
  split at hs
  · split at hs <;> cases hs
    · exact h.update_keep (fun _ => hne) (fun _ => deadline_setReadDeadline_of_isSome) rfl rfl rfl
        (by exact h.uplink)
    · exact h.update_keep (fun _ => hne) (fun _ hd => hd) rfl rfl rfl (by exact h.uplink)
  · cases hs; exact h.congr (fun _ => hne) (fun _ hd => hd) rfl

theorem of_step (h : LiveInv s) (hw : SwapInv s) (hb : BufInv s []) (ht : TableInv s) {a : Action}
    (hs : step cfg s a = some s') : LiveInv s' := by
  cases a with
  | tick => cases hs; exact h.congr id (fun _ hd => hd) rfl
  | recv pick r =>
    simp only [step] at hs
    split_ifs at hs
    exact h.of_recv hs
  | init k ok => exact h.of_initStep hw hb ht hs
  | uplink k ok => exact h.of_uplinkStep hs
  | downlink k arrives => exact h.of_downlinkStep hs
  | stop => exact h.of_stopStep hw hs
  | stopSwap c => exact h.of_stopSwap hs

end LiveInv

theorem Reachable.liveInv {cfg : Config} {s : State} (hs : Reachable cfg s) : LiveInv s := by
  induction hs with
  | init => exact LiveInv.liveInv_init
  | step a hr h ih => exact ih.of_step hr.swapInv hr.bufInv hr.tableInv h

def Action.callsSucceed : Action → Bool
  | .init _ ok | .uplink _ ok => ok
  | _ => true

/-- `s'` follows `s` in a run of the relay in which every call succeeds. -/
def Runs (cfg : Config) (s s' : State) : Prop :=
  ∃ as, (∀ a ∈ as, a.callsSucceed) ∧ run cfg s as = some s'

namespace Runs

variable {cfg : Config} {s s₁ s₂ : State}

theorem refl (s : State) : Runs cfg s s := ⟨[], by simp, rfl⟩

theorem trans (h₁ : Runs cfg s s₁) (h₂ : Runs cfg s₁ s₂) : Runs cfg s s₂ := by
  obtain ⟨as, hsa, ha⟩ := h₁
  obtain ⟨bs, hsb, hb⟩ := h₂
  exact ⟨as ++ bs, fun a h => (List.mem_append.1 h).elim (hsa a) (hsb a),
    by rw [run_append, ha]; exact hb⟩

theorem single {a : Action} (ha : a.callsSucceed) (h : step cfg s a = some s₁) : Runs cfg s s₁ :=
  ⟨[a], by simpa using ha, by simp [Relay.run, h]⟩

theorem reachable (h : Runs cfg s s₁) (hr : Reachable cfg s) : Reachable cfg s₁ :=
  hr.run h.choose_spec.2

theorem ticks (s : State) (m : ℕ) : Runs cfg s { s with clock := s.clock + m } := by
  induction m with
  | zero => exact refl s
  | succ m ih => exact ih.trans (single (a := .tick) rfl rfl)

end Runs

section SessionFrame

variable {cfg : Config} {s s' : State} {k : ℕ}

def SessionFrame (k : ℕ) (s s' : State) : Prop :=
  s'.stop = s.stop ∧ s'.nSessions = s.nSessions ∧ s'.ingressRunning = s.ingressRunning ∧
    ∀ j, j ≠ k → s'.sessions j = s.sessions j

theorem initStep_frame {ok : Bool} (hs : initStep cfg s k ok = some s') : SessionFrame k s s' := by
  cases hpc : (s.sessions k).init <;> simp only [Relay.initStep, hpc, reduceCtorEq] at hs
  all_goals (try split at hs) <;> (try split_ifs at hs) <;> cases hs
  all_goals exact ⟨rfl, rfl, rfl, fun j hj => by simp [State.teardown, Function.update_noteq hj]⟩

theorem uplinkStep_frame {ok : Bool} (hs : uplinkStep cfg s k ok = some s') : SessionFrame k s s' := by
  cases hu : (s.sessions k).uplink <;> cases hn : (s.sessions k).natConn <;>
    simp only [Relay.uplinkStep, hu, hn, reduceCtorEq] at hs
  all_goals (try split at hs) <;> (try split_ifs at hs) <;> cases hs
  all_goals exact ⟨rfl, rfl, rfl, fun j hj => by simp [Function.update_noteq hj]⟩

theorem downlinkStep_frame {b : Bool} (hs : downlinkStep s k b = some s') : SessionFrame k s s' := by
  cases hpc : (s.sessions k).init <;> cases hn : (s.sessions k).natConn <;>
    simp only [downlinkStep, hpc, hn, reduceCtorEq] at hs
  split_ifs at hs <;> cases hs
  all_goals exact ⟨rfl, rfl, rfl, fun j hj => by simp [Function.update_noteq hj]⟩

end SessionFrame

def SessionRun (cfg : Config) (k : ℕ) (s s' : State) : Prop :=
  Runs cfg s s' ∧ SessionFrame k s s'

def SessionDone (s : State) (k : ℕ) : Prop :=
  (s.sessions k).init = .exited ∧ (s.sessions k).uplink.running = false

/-- Some run of session `k`'s goroutines and the clock ends them. -/
def Finishes (cfg : Config) (k : ℕ) (s : State) : Prop :=
  ∃ s', SessionRun cfg k s s' ∧ SessionDone s' k

namespace Finishes

variable {cfg : Config} {k : ℕ} {s s₁ : State}

theorem of_done (h : SessionDone s k) : Finishes cfg k s :=
  ⟨s, ⟨.refl s, rfl, rfl, rfl, fun _ _ => rfl⟩, h⟩

theorem of_run (h : Runs cfg s s₁) (hf : SessionFrame k s s₁) (h₁ : Finishes cfg k s₁) :
    Finishes cfg k s := by
  obtain ⟨s₂, ⟨h₂, hst, hn, hi, ho⟩, hd⟩ := h₁
  exact ⟨s₂, ⟨h.trans h₂, hst.trans hf.1, hn.trans hf.2.1, hi.trans hf.2.2.1,
    fun j hj => (ho j hj).trans (hf.2.2.2 j hj)⟩, hd⟩

theorem of_initStep (hr : Reachable cfg s) (hs : initStep cfg s k true = some s₁)
    (h₁ : Reachable cfg s₁ → Finishes cfg k s₁) : Finishes cfg k s :=
  of_run (.single (a := .init k true) rfl hs) (initStep_frame hs) (h₁ (hr.step (.init k true) hs))

theorem of_uplinkStep (hr : Reachable cfg s) (hs : uplinkStep cfg s k true = some s₁)
    (h₁ : Reachable cfg s₁ → Finishes cfg k s₁) : Finishes cfg k s :=
  of_run (.single (a := .uplink k true) rfl hs) (uplinkStep_frame hs)
    (h₁ (hr.step (.uplink k true) hs))

theorem of_downlinkStep {b : Bool} (hr : Reachable cfg s) (hs : downlinkStep s k b = some s₁)
    (h₁ : Reachable cfg s₁ → Finishes cfg k s₁) : Finishes cfg k s :=
  of_run (.single (a := .downlink k b) rfl hs) (downlinkStep_frame hs)
    (h₁ (hr.step (.downlink k b) hs))

end Finishes

section Session

variable {cfg : Config} {k : ℕ} {s : State}

theorem uplink_finishes_of_recv (hr : Reachable cfg s) (hi : (s.sessions k).init = .exited)
    (hrecv : ∀ {s₁ : State}, Reachable cfg s₁ → (s₁.sessions k).init = .exited →
      (s₁.sessions k).uplink = .recv →
      (s₁.sessions k).natConnSendCh = (s.sessions k).natConnSendCh → Finishes cfg k s₁) :
    Finishes cfg k s := by
  have hacc : ∀ {s₁ : State} (p : ℕ), Reachable cfg s₁ → (s₁.sessions k).init = .exited →
      (s₁.sessions k).uplink = .account p →
      (s₁.sessions k).natConnSendCh = (s.sessions k).natConnSendCh → Finishes cfg k s₁ :=
    fun _ hr₁ hi₁ hu₁ hc₁ => .of_uplinkStep hr₁ (by simp only [Relay.uplinkStep, hu₁]; rfl)
      fun hr₂ => hrecv hr₂ (by simpa using hi₁) (by simp) (by simpa using hc₁)
  have hput : ∀ {s₁ : State} (p : ℕ), Reachable cfg s₁ → (s₁.sessions k).init = .exited →
      (s₁.sessions k).uplink = .put p →
      (s₁.sessions k).natConnSendCh = (s.sessions k).natConnSendCh → Finishes cfg k s₁ :=
    fun p hr₁ hi₁ hu₁ hc₁ => .of_uplinkStep hr₁ (by simp only [Relay.uplinkStep, hu₁]; rfl)
      fun hr₂ => hacc p hr₂ (by simpa using hi₁) (by simp) (by simpa using hc₁)
  cases hu : (s.sessions k).uplink with
  | notStarted | exited => exact .of_done ⟨hi, by simp [hu, UplinkPc.running]⟩
  | recv => exact hrecv hr hi hu rfl
  | account p => exact hacc p hr hi hu rfl
  | put p => exact hput p hr hi hu rfl
  | pack p =>
    obtain ⟨n, hn⟩ := Option.isSome_iff_exists.1
      (hr.liveInv.uplink (k := k) (by simp [hu, UplinkPc.running]))
    exact .of_uplinkStep hr (by simp only [Relay.uplinkStep, hu, hn, if_true]; rfl)
      fun hr₁ => hput p hr₁ (by simpa using hi) (by simp) (by simp)

theorem uplink_recv_finishes (hr : Reachable cfg s) (hi : (s.sessions k).init = .exited)
    (hu : (s.sessions k).uplink = .recv) : Finishes cfg k s := by
  generalize hch : (s.sessions k).natConnSendCh = ch
  induction ch generalizing s with
  | nil =>
    have hk : k < s.nSessions := by
      by_contra hn
      rw [hr.tableInv.unused (not_lt.mp hn)] at hu
      cases hu
    obtain ⟨n, hn⟩ := Option.isSome_iff_exists.1
      (hr.liveInv.uplink (k := k) (by simp [hu, UplinkPc.running]))
    have hc : (s.sessions k).chCloses ≠ 0 := by
      rw [hr.tableInv.chCloses hk]; simp [hi, InitPc.live]
    exact .of_uplinkStep hr (by simp only [Relay.uplinkStep, hu, hn, hch, if_pos hc]; rfl)
      fun _ => .of_done ⟨by simpa using hi, by simp [UplinkPc.running]⟩
  | cons p rest ih =>
    obtain ⟨n, hn⟩ := Option.isSome_iff_exists.1
      (hr.liveInv.uplink (k := k) (by simp [hu, UplinkPc.running]))
    exact .of_uplinkStep hr (by simp only [Relay.uplinkStep, hu, hn, hch]; rfl)
      fun hr₁ => uplink_finishes_of_recv hr₁ (by simpa using hi)
        fun hr₂ hi₂ hu₂ hc₂ => ih hr₂ hi₂ hu₂ (by simpa using hc₂)

theorem uplink_finishes (hr : Reachable cfg s) (hi : (s.sessions k).init = .exited) :
    Finishes cfg k s :=
  uplink_finishes_of_recv hr hi fun hr₁ hi₁ hu₁ _ => uplink_recv_finishes hr₁ hi₁ hu₁

theorem drain_finishes (hr : Reachable cfg s) (hi : (s.sessions k).init = .drain) :
    Finishes cfg k s := by
  generalize hch : (s.sessions k).natConnSendCh = ch
  induction ch generalizing s with
  | nil =>
    exact .of_initStep hr (by simp only [Relay.initStep, hi, hch]; rfl)
      fun hr₁ => uplink_finishes hr₁ (by simp)
  | cons p rest ih =>
    exact .of_initStep hr (by simp only [Relay.initStep, hi, hch]; rfl)
      fun hr₁ => ih hr₁ (by simp) (by simp)

theorem teardown_finishes (hr : Reachable cfg s) (hl : s.stop.holdsLock = false)
    (hi : (s.sessions k).init = .teardown) :
    Finishes cfg k s := by
  have hk := hr.tableInv.lt_of_init (k := k) (by simp [hi])
  have hc : (s.sessions k).chCloses = 0 := by rw [hr.tableInv.chCloses hk]; simp [hi, InitPc.live]
  refine .of_initStep hr (by
    simp only [Relay.initStep, hi, hl, hc, Bool.false_eq_true, if_false, ne_eq, not_true_eq_false]
    rfl) fun hr₁ => ?_
  cases hcl : (s.sessions k).sendChClean
  · exact drain_finishes hr₁ (by simp [State.teardown, hcl])
  · exact uplink_finishes hr₁ (by simp [State.teardown, hcl])

theorem wgDone_finishes (hr : Reachable cfg s) (hl : s.stop.holdsLock = false)
    (hi : (s.sessions k).init = .wgDone) :
    Finishes cfg k s :=
  .of_initStep hr (by simp only [Relay.initStep, hi]; rfl)
    fun hr₁ => teardown_finishes hr₁ (by exact hl) (by simp)

theorem downlink_finishes (hr : Reachable cfg s) (hl : s.stop.holdsLock = false)
    (hi : (s.sessions k).init = .downlink) :
    Finishes cfg k s := by
  obtain ⟨n, hn, hdl⟩ := hr.liveInv.natConn (k := k) (by simp [hi, InitPc.opened])
  obtain ⟨d, hd⟩ := Option.isSome_iff_exists.1 (hdl (by simp [hi]))
  have ht : Runs cfg s _ := .ticks s (d - s.clock)
  have hpast : d ≤ s.clock + (d - s.clock) := by omega
  refine .of_run ht ⟨rfl, rfl, rfl, fun _ _ => rfl⟩ (.of_downlinkStep (b := false) (ht.reachable hr)
    (by simp only [downlinkStep, hi, hn, State.deadlineExceeded, hd,
      decide_eq_true hpast, if_true, Bool.false_eq_true, if_false]; rfl)
    fun hr₁ => wgDone_finishes hr₁ (by exact hl) (by simp))

theorem spawn_finishes (hr : Reachable cfg s) (hl : s.stop.holdsLock = false)
    (hi : (s.sessions k).init = .spawn) :
    Finishes cfg k s := by
  obtain ⟨a, ha⟩ := Option.isSome_iff_exists.1
    (hr.tableInv.addrInfo (hr.tableInv.lt_of_init (k := k) (by simp [hi])))
  exact .of_initStep hr (by simp only [Relay.initStep, hi, ha]; rfl)
    fun hr₁ => downlink_finishes hr₁ (by exact hl) (by simp)

theorem swap_finishes (hr : Reachable cfg s) (hl : s.stop.holdsLock = false)
    (hi : (s.sessions k).init = .swap) :
    Finishes cfg k s := by
  obtain ⟨n, hn, -⟩ := hr.liveInv.natConn (k := k) (by simp [hi, InitPc.opened])
  by_cases hst : (s.sessions k).state = none
  · exact .of_initStep hr (by simp only [Relay.initStep, hi, hn, if_pos hst]; rfl)
      fun hr₁ => spawn_finishes hr₁ (by exact hl) (by simp)
  · exact .of_initStep hr (by simp only [Relay.initStep, hi, hn, if_neg hst]; rfl)
      fun hr₁ => wgDone_finishes hr₁ (by exact hl) (by simp)

theorem setDeadline_finishes (hr : Reachable cfg s) (hl : s.stop.holdsLock = false)
    (hi : (s.sessions k).init = .setDeadline) :
    Finishes cfg k s := by
  obtain ⟨n, hn, -⟩ := hr.liveInv.natConn (k := k) (by simp [hi, InitPc.opened])
  exact .of_initStep hr (by simp only [Relay.initStep, hi, hn, if_true]; rfl)
    fun hr₁ => swap_finishes hr₁ (by exact hl) (by simp)

theorem router_finishes (hr : Reachable cfg s) (hl : s.stop.holdsLock = false)
    (hi : (s.sessions k).init = .router ∨ (s.sessions k).init = .newSession ∨
      (s.sessions k).init = .newPacker ∨ (s.sessions k).init = .listen) :
    Finishes cfg k s := by
  have hlisten : ∀ {s : State}, Reachable cfg s → s.stop.holdsLock = false →
      (s.sessions k).init = .listen → Finishes cfg k s := fun hr hl hi =>
    .of_initStep hr (by simp only [Relay.initStep, hi, if_true]; rfl)
      fun hr₁ => setDeadline_finishes hr₁ (by exact hl) (by simp)
  have hpacker : ∀ {s : State}, Reachable cfg s → s.stop.holdsLock = false →
      (s.sessions k).init = .newPacker → Finishes cfg k s := fun hr hl hi =>
    .of_initStep hr (by simp only [Relay.initStep, hi, if_true]; rfl)
      fun hr₁ => hlisten hr₁ (by exact hl) (by simp)
  have hsession : ∀ {s : State}, Reachable cfg s → s.stop.holdsLock = false →
      (s.sessions k).init = .newSession → Finishes cfg k s := fun hr hl hi =>
    .of_initStep hr (by simp only [Relay.initStep, hi, if_true]; rfl)
      fun hr₁ => hpacker hr₁ (by exact hl) (by simp)
  rcases hi with hi | hi | hi | hi
  · exact .of_initStep hr (by simp only [Relay.initStep, hi, if_true]; rfl)
      fun hr₁ => hsession hr₁ (by exact hl) (by simp)
  · exact hsession hr hl hi
  · exact hpacker hr hl hi
  · exact hlisten hr hl hi

theorem session_finishes (hr : Reachable cfg s) (hl : s.stop.holdsLock = false) :
    Finishes cfg k s := by
  cases hi : (s.sessions k).init with
  | router => exact router_finishes hr hl (.inl hi)
  | newSession => exact router_finishes hr hl (.inr (.inl hi))
  | newPacker => exact router_finishes hr hl (.inr (.inr (.inl hi)))
  | listen => exact router_finishes hr hl (.inr (.inr (.inr hi)))
  | setDeadline => exact setDeadline_finishes hr hl hi
  | swap => exact swap_finishes hr hl hi
  | spawn => exact spawn_finishes hr hl hi
  | downlink => exact downlink_finishes hr hl hi
  | wgDone => exact wgDone_finishes hr hl hi
  | teardown => exact teardown_finishes hr hl hi
  | drain => exact drain_finishes hr hi
  | exited => exact uplink_finishes hr hi

end Session

section Sessions

variable {cfg : Config} {s : State}

theorem sessions_finish (hr : Reachable cfg s) (hl : s.stop.holdsLock = false) (n : ℕ) :
    ∃ s', Runs cfg s s' ∧ s'.stop = s.stop ∧ s'.nSessions = s.nSessions ∧
      s'.ingressRunning = s.ingressRunning ∧ ∀ k < n, SessionDone s' k := by
  induction n with
  | zero => exact ⟨s, .refl s, rfl, rfl, rfl, fun _ h => absurd h (Nat.not_lt_zero _)⟩
  | succ n ih =>
    obtain ⟨s₁, h₁, hst₁, hn₁, hi₁, hd₁⟩ := ih
    obtain ⟨s₂, ⟨h₂, hst₂, hn₂, hi₂, ho⟩, hd₂⟩ :=
      session_finishes (k := n) (h₁.reachable hr) (by rw [hst₁]; exact hl)
    refine ⟨s₂, h₁.trans h₂, hst₂.trans hst₁, hn₂.trans hn₁, hi₂.trans hi₁, fun k hk => ?_⟩
    rcases Nat.lt_succ_iff_lt_or_eq.1 hk with hk | rfl
    · unfold SessionDone; rw [ho k (by omega)]; exact hd₁ k hk
    · exact hd₂

/-- Each session can end on its own: a run of its goroutines and the clock, every call succeeding,
ends them once the clock passes `natConn`'s deadline, and leaves the rest as it was. -/
theorem session_ends (hr : Reachable cfg s) (hl : s.stop.holdsLock = false) (k : ℕ) :
    ∃ as s', (∀ a ∈ as, a.callsSucceed) ∧ run cfg s as = some s' ∧
      (s'.sessions k).init = .exited ∧ (s'.sessions k).uplink.running = false ∧
      s'.stop = s.stop ∧ s'.nSessions = s.nSessions ∧ s'.ingressRunning = s.ingressRunning ∧
      ∀ j, j ≠ k → s'.sessions j = s.sessions j := by
  obtain ⟨s', ⟨⟨as, has, h⟩, hst, hn, hi, ho⟩, hd⟩ := session_finishes (k := k) hr hl
  exact ⟨as, s', has, h, hd.1, hd.2, hst, hn, hi, ho⟩

theorem session_ends_runningWorkers :
    ∃ s, run ⟨5, by decide, 4⟩ init [.recv 0 (.datagram 7 1 [1] 10 true true true), .init 0 true,
        .init 0 true, .init 0 true, .init 0 true, .init 0 true, .init 0 true, .init 0 true] = some s ∧
      (s.sessions 0).init = .downlink ∧ (s.sessions 0).natConnSendCh ≠ [] ∧ s.stop = .idle ∧
      ∃ as s', (∀ a ∈ as, a.callsSucceed) ∧ run ⟨5, by decide, 4⟩ s as = some s' ∧
        (s'.sessions 0).init = .exited ∧ (s'.sessions 0).uplink.running = false ∧
        s'.stop = s.stop ∧ s'.nSessions = s.nSessions ∧ s'.ingressRunning = s.ingressRunning ∧
        ∀ j, j ≠ 0 → s'.sessions j = s.sessions j := by
  have hrun : run ⟨5, by decide, 4⟩ init [.recv 0 (.datagram 7 1 [1] 10 true true true), .init 0 true,
      .init 0 true, .init 0 true, .init 0 true, .init 0 true, .init 0 true, .init 0 true] = some _ := rfl
  exact ⟨_, hrun, rfl, by decide, rfl, session_ends (.run .init hrun) rfl 0⟩

theorem SessionDone.wgHeld {k : ℕ} (h : SessionDone s k) : (s.sessions k).wgHeld = 0 := by
  simp [Session.wgHeld, h.1, h.2, InitPc.holdsWg]

theorem wgBelow_eq_zero {sessions : ℕ → Session} {n : ℕ} (h : ∀ k < n, (sessions k).wgHeld = 0) :
    wgBelow sessions n = 0 := by
  induction n with
  | zero => rfl
  | succ n ih => simp only [wgBelow, ih fun k hk => h k (by omega), h n (by omega)]

theorem puts_eq_gets_of_terminated (hr : Reachable cfg s) (ht : s.terminated) : s.puts = s.gets := by
  have hc := hr.bufInv.acc.count
  simp only [hr.bufInv.held_eq_nil ht, List.append_nil, List.length_nil, Nat.add_zero] at hc
  exact hc.symm

end Sessions

/-- Some run takes `Stop` to its return, with every goroutine ended and every buffer back. -/
def Completes (cfg : Config) (s : State) : Prop :=
  ∃ s', Runs cfg s s' ∧ s'.stop = .returned ∧ s'.terminated ∧ s'.puts = s'.gets

namespace Completes

variable {cfg : Config} {s s₁ : State}

theorem of_runs (h : Runs cfg s s₁) (h₁ : Completes cfg s₁) : Completes cfg s := by
  obtain ⟨s₂, h₂, hd⟩ := h₁
  exact ⟨s₂, h.trans h₂, hd⟩

theorem of_step {a : Action} (ha : a.callsSucceed) (hr : Reachable cfg s)
    (hs : step cfg s a = some s₁) (h₁ : Reachable cfg s₁ → Completes cfg s₁) : Completes cfg s :=
  of_runs (.single ha hs) (h₁ (hr.step a hs))

end Completes

section Stop

variable {cfg : Config} {s : State}

theorem returned_completes (hr : Reachable cfg s) (hst : s.stop = .returned) : Completes cfg s := by
  obtain ⟨s₁, h₁, hst₁, hn₁, -, hd⟩ :=
    sessions_finish hr (by simp [hst, StopPc.holdsLock]) s.nSessions
  have hr₁ := h₁.reachable hr
  have ht : s₁.terminated :=
    ⟨hr₁.stopInv.ingress (by simp [hst₁, hst, StopPc.pastIngress]), fun k hk => hd k (hn₁ ▸ hk)⟩
  exact ⟨s₁, h₁, hst₁.trans hst, ht, puts_eq_gets_of_terminated hr₁ ht⟩

theorem waitWorkers_completes (hr : Reachable cfg s) (hst : s.stop = .waitWorkers) :
    Completes cfg s := by
  obtain ⟨s₁, h₁, hst₁, hn₁, -, hd⟩ :=
    sessions_finish hr (by simp [hst, StopPc.holdsLock]) s.nSessions
  have hr₁ := h₁.reachable hr
  have hwg : s₁.wg = 0 := by
    rw [hr₁.stopInv.wg]; exact wgBelow_eq_zero fun k hk => (hd k (hn₁ ▸ hk)).wgHeld
  apply Completes.of_runs h₁
  apply Completes.of_step (a := .stop) rfl hr₁
  · simp only [step, stopStep, hst₁, hst, hwg, if_true]; rfl
  · exact fun hr₂ => returned_completes hr₂ rfl

theorem stopSwap_head {c : UInt64} {rest : List UInt64} (hst : s.stop = .swapping (c :: rest)) :
    ∃ s', stopSwap s c = some s' ∧ s'.stop = .swapping rest := by
  simp only [Relay.stopSwap, hst, List.mem_cons_self, if_true, List.erase_cons_head]
  split
  · split <;> exact ⟨_, rfl, rfl⟩
  · exact ⟨_, rfl, rfl⟩

theorem swapping_completes (hr : Reachable cfg s) {keys : List UInt64}
    (hst : s.stop = .swapping keys) : Completes cfg s := by
  induction keys generalizing s with
  | nil =>
    apply Completes.of_step (a := .stop) rfl hr
    · simp only [step, stopStep, hst]; rfl
    · exact fun hr₁ => waitWorkers_completes hr₁ rfl
  | cons c rest ih =>
    obtain ⟨s₁, h₁, hst₁⟩ := stopSwap_head hst
    exact .of_step (a := .stopSwap c) rfl hr h₁ fun hr₁ => ih hr₁ hst₁

theorem waitIngress_completes (hr : Reachable cfg s) (hst : s.stop = .waitIngress) :
    Completes cfg s := by
  have hexit : ∀ {s : State}, Reachable cfg s → s.stop = .waitIngress → s.ingressRunning = false →
      Completes cfg s := by
    intro s hr hst hi
    apply Completes.of_step (a := .stop) rfl hr
    · simp only [step, stopStep, hst, hi, Bool.false_eq_true, if_false]; rfl
    · exact fun hr₁ => swapping_completes hr₁ rfl
  cases hi : s.ingressRunning
  · exact hexit hr hst hi
  obtain ⟨d, hd⟩ := Option.isSome_iff_exists.1 (hr.liveInv.server (by simp [hst]))
  have ht : Runs cfg s _ := .ticks s (d - s.clock)
  have hpast : d ≤ s.clock + (d - s.clock) := by omega
  apply Completes.of_runs ht
  apply Completes.of_step (a := .recv 0 .deadlineExceeded) rfl (ht.reachable hr)
  · simp only [step, hi, if_true, recvFromServerConn, State.getQueuedPacket, State.deadlineExceeded,
      hd, decide_eq_true hpast]
    rfl
  · exact fun hr₁ => hexit hr₁ hst rfl

/-- From every reachable state some interleaving, every call succeeding, takes `Stop` to its return
with every goroutine ended and every buffer back in the pool. -/
theorem stop_completes (hr : Reachable cfg s) :
    ∃ as s', (∀ a ∈ as, a.callsSucceed) ∧ run cfg s as = some s' ∧ s'.stop = .returned ∧
      s'.terminated ∧ s'.puts = s'.gets := by
  have hc : Completes cfg s := by
    cases hst : s.stop with
    | idle =>
      apply Completes.of_step (a := .stop) rfl hr
      · simp only [step, stopStep, hst]; rfl
      · exact fun hr₁ => waitIngress_completes hr₁ rfl
    | waitIngress => exact waitIngress_completes hr hst
    | swapping keys => exact swapping_completes hr hst
    | waitWorkers => exact waitWorkers_completes hr hst
    | returned => exact returned_completes hr hst
  obtain ⟨s', ⟨as, has, h⟩, hd⟩ := hc
  exact ⟨as, s', has, h, hd⟩

theorem stop_completes_runningWorkers :
    ∃ s, run ⟨5, by decide, 4⟩ init [.recv 0 (.datagram 7 1 [1] 10 true true true), .init 0 true,
        .init 0 true, .init 0 true, .init 0 true, .init 0 true, .init 0 true, .init 0 true] = some s ∧
      (s.sessions 0).init = .downlink ∧ (s.sessions 0).uplink = .recv ∧
      (s.sessions 0).natConnSendCh ≠ [] ∧
      ∃ as s', (∀ a ∈ as, a.callsSucceed) ∧ run ⟨5, by decide, 4⟩ s as = some s' ∧
        s'.stop = .returned ∧ s'.terminated ∧ s'.puts = s'.gets := by
  have hrun : run ⟨5, by decide, 4⟩ init [.recv 0 (.datagram 7 1 [1] 10 true true true), .init 0 true,
      .init 0 true, .init 0 true, .init 0 true, .init 0 true, .init 0 true, .init 0 true] = some _ := rfl
  exact ⟨_, hrun, rfl, rfl, by decide, stop_completes (.run .init hrun)⟩

end Stop

end Relay
end ShadowsocksGo
