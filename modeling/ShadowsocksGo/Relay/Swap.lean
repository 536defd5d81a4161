import ShadowsocksGo.Relay.Buffers

/-! # The `state` cell and the NAT sockets

The initializer and `Stop` each swap a value into a session's `state` and act on the value they
swapped out; each `natConn` is closed once, after its workers stopped using it. -/

namespace ShadowsocksGo
namespace Relay

def Swapper.value (natConn : Option ℕ) : Swapper → Option ℕ
  | .initializer => natConn
  | .stop => some serverConn

def replaySwaps (natConn : Option ℕ) : Option ℕ → List (Swapper × Option ℕ) → Option (Option ℕ)
  | v, [] => some v
  | v, (w, old) :: rest => if old = v then replaySwaps natConn (w.value natConn) rest else none

section Replay

variable {nc v : Option ℕ} {l : List (Swapper × Option ℕ)}

theorem replaySwaps_append (w : Swapper) (old : Option ℕ) :
    replaySwaps nc v (l ++ [(w, old)]) =
      (replaySwaps nc v l).bind fun v' => if old = v' then some (w.value nc) else none := by
  induction l generalizing v with
  | nil => simp [replaySwaps]
  | cons a l ih =>
    simp only [List.cons_append, replaySwaps]
    split_ifs <;> simp [ih]

theorem replaySwaps_congr (hi : Swapper.initializer ∉ l.map Prod.fst) (nc' : Option ℕ) :
    replaySwaps nc v l = replaySwaps nc' v l := by
  induction l generalizing v with
  | nil => rfl
  | cons a l ih =>
    obtain ⟨w, old⟩ := a
    simp only [List.map_cons, List.mem_cons, not_or] at hi
    cases w
    · exact absurd rfl hi.1
    · simp only [replaySwaps, Swapper.value, ih hi.2]

theorem replaySwaps_cases {v' : Option ℕ} (h : replaySwaps nc none l = some v')
    (hl : (l.map Prod.fst).Nodup) :
    l = [] ∧ v' = none ∨ (∃ w, l = [(w, none)] ∧ v' = w.value nc) ∨
      ∃ w₁ w₂, w₁ ≠ w₂ ∧ l = [(w₁, none), (w₂, w₁.value nc)] ∧ v' = w₂.value nc := by
  rcases l with _ | ⟨⟨w₁, o₁⟩, _ | ⟨⟨w₂, o₂⟩, _ | ⟨⟨w₃, o₃⟩, rest⟩⟩⟩
  · simp only [replaySwaps, Option.some.injEq] at h
    exact .inl ⟨rfl, h.symm⟩
  · simp only [replaySwaps] at h
    split_ifs at h with h₁
    cases h₁; cases h
    exact .inr (.inl ⟨w₁, rfl, rfl⟩)
  · simp only [replaySwaps] at h
    split_ifs at h with h₁ h₂
    cases h₁; cases h₂; cases h
    simp only [List.map_cons, List.map_nil, List.nodup_cons, List.mem_singleton] at hl
    exact .inr (.inr ⟨w₁, w₂, hl.1, rfl, rfl⟩)
  · exfalso
    cases w₁ <;> cases w₂ <;> cases w₃ <;> simp at hl

end Replay

def InitPc.beforeSwap : InitPc → Bool
  | .router | .newSession | .newPacker | .listen | .setDeadline | .swap => true
  | _ => false

def InitPc.beforeListen : InitPc → Bool
  | .router | .newSession | .newPacker | .listen => true
  | _ => false

def Session.natConnClosed (e : Session) : Bool :=
  if e.sendChClean then decide (e.uplink = .exited) else !e.init.early

/-- What the swap invariant needs of a session: its log replays to `state`, each swapper swapped
once, and the initializer's swap returned `nil` exactly when it started the workers. -/
structure Session.SwapOk (e : Session) : Prop where
  replay : replaySwaps e.natConn none e.swaps = some e.state
  nodup : (e.swaps.map Prod.fst).Nodup
  started : (Swapper.initializer, none) ∈ e.swaps ↔ e.init = .spawn ∨ e.sendChClean = true
  beforeSwap : e.init.beforeSwap → Swapper.initializer ∉ e.swaps.map Prod.fst
  beforeListen : e.init.beforeListen → e.natConn = none
  downlink : e.init = .downlink → e.sendChClean = true

theorem Session.SwapOk.of_same_log {e e' : Session} (ho : e.SwapOk) (hsw : e'.swaps = e.swaps)
    (hst : e'.state = e.state) (hnc : e'.natConn = e.natConn)
    (hstart : (e'.init = .spawn ∨ e'.sendChClean = true) ↔ (e.init = .spawn ∨ e.sendChClean = true))
    (hb : e'.init.beforeSwap → e.init.beforeSwap) (hl : e'.init.beforeListen → e.init.beforeListen)
    (hd : e'.init = .downlink → e'.sendChClean = true) : e'.SwapOk where
  replay := by rw [hsw, hst, hnc]; exact ho.replay
  nodup := by rw [hsw]; exact ho.nodup
  started := by rw [hsw, hstart]; exact ho.started
  beforeSwap h' := by rw [hsw]; exact ho.beforeSwap (hb h')
  beforeListen h' := by rw [hnc]; exact ho.beforeListen (hl h')
  downlink := hd

namespace Session.SwapOk

variable {e : Session} (h : e.SwapOk)
include h

theorem initializer_none_iff :
    (Swapper.initializer, none) ∈ e.swaps ↔ e.swaps.head?.map Prod.fst = some .initializer := by
  rcases replaySwaps_cases h.replay h.nodup with ⟨hl, -⟩ | ⟨w, hl, -⟩ | ⟨w₁, w₂, hw, hl, -⟩ <;>
    rw [hl]
  · simp
  · cases w <;> simp
  · cases w₁ <;> cases w₂ <;> simp_all [Swapper.value]

theorem stop_some {n : ℕ} (hs : (Swapper.stop, some n) ∈ e.swaps) :
    e.natConn = some n ∧ (Swapper.initializer, none) ∈ e.swaps := by
  rcases replaySwaps_cases h.replay h.nodup with ⟨hl, -⟩ | ⟨w, hl, -⟩ | ⟨w₁, w₂, hw, hl, -⟩ <;>
    rw [hl] at hs ⊢
  · simp at hs
  · simp at hs
  · cases w₁ <;> cases w₂ <;> simp_all [Swapper.value]

theorem state_some {n : ℕ} (hs : Swapper.stop ∉ e.swaps.map Prod.fst) (hn : e.state = some n) :
    e.natConn = some n ∧ (Swapper.initializer, none) ∈ e.swaps := by
  rcases replaySwaps_cases h.replay h.nodup with ⟨hl, hv⟩ | ⟨w, hl, hv⟩ | ⟨w₁, w₂, hw, hl, -⟩ <;>
    rw [hl] at hs ⊢
  · simp [hv] at hn
  · cases w
    · simp only [Swapper.value, hn] at hv; simp [hv]
    · simp at hs
  · cases w₁ <;> cases w₂ <;> simp_all

theorem state_of_stop (hs : Swapper.stop ∈ e.swaps.map Prod.fst)
    (hi : Swapper.initializer ∉ e.swaps.map Prod.fst) : e.state = some serverConn := by
  rcases replaySwaps_cases h.replay h.nodup with ⟨hl, -⟩ | ⟨w, hl, hv⟩ | ⟨w₁, w₂, hw, hl, -⟩ <;>
    rw [hl] at hs hi
  · simp at hs
  · cases w
    · simp at hi
    · simpa [Swapper.value] using hv
  · cases w₁ <;> cases w₂ <;> simp_all

end Session.SwapOk

def StopPc.visited (c : UInt64) : StopPc → Bool
  | .idle | .waitIngress => false
  | .swapping keys => decide (c ∉ keys)
  | .waitWorkers | .returned => true

/-- The swap invariant: each `natConn` is a socket of its own, closed as `natConnClosed` says, and
`Stop` swaps a session only at its key, once. -/
structure SwapInv (s : State) : Prop where
  session : ∀ {k}, k < s.nSessions → (s.sessions k).SwapOk
  socket : ∀ {k n}, k < s.nSessions → (s.sessions k).natConn = some n →
    serverConn < n ∧ n < s.nextSock ∧
      (s.socks n).closes = if (s.sessions k).natConnClosed then 1 else 0
  inj : ∀ {j k n}, j < s.nSessions → k < s.nSessions → (s.sessions j).natConn = some n →
    (s.sessions k).natConn = some n → j = k
  next : serverConn < s.nextSock
  fresh : ∀ {n}, s.nextSock ≤ n → (s.socks n).closes = 0
  server : (s.socks serverConn).closes = if s.stop = .returned then 1 else 0
  stopped : ∀ {k}, k < s.nSessions → Swapper.stop ∈ (s.sessions k).swaps.map Prod.fst →
    s.stop.visited (s.sessions k).csid
  keys : ∀ {keys}, s.stop = .swapping keys → keys.Nodup

def State.swapView (s : State) : ℕ × StopPc × ℕ := (s.nextSock, s.stop, s.nSessions)

def Session.swapView (e : Session) : UInt64 × Option ℕ × Bool × Bool :=
  (e.csid, e.natConn, e.natConn.isSome && e.natConnClosed,
    decide (Swapper.stop ∈ e.swaps.map Prod.fst))

section Socks

variable {s : State} {n m t : ℕ}

@[simp] theorem closes_setReadDeadline :
    ((s.setReadDeadline n t).socks m).closes = (s.socks m).closes := by
  by_cases h : m = n
  · subst h; simp only [State.setReadDeadline, Function.update_same]; split_ifs <;> rfl
  · simp [State.setReadDeadline, Function.update_noteq h]

theorem closes_close : ((s.close n).socks m).closes =
    if m = n then (s.socks m).closes + 1 else (s.socks m).closes := by
  by_cases h : m = n
  · subst h; simp
  · simp [Function.update_noteq h, h]

end Socks

theorem swapInv_init : SwapInv init where
  session h := by simp [init] at h
  socket h := by simp [init] at h
  inj h := by simp [init] at h
  next := by decide
  fresh _ := rfl
  server := rfl
  stopped h := by simp [init] at h
  keys h := by simp [init] at h

namespace SwapInv

variable {s s' : State} {k : ℕ} {e : Session}

theorem congr (h : SwapInv s) (hv : s'.swapView = s.swapView)
    (hc : ∀ m, (s'.socks m).closes = (s.socks m).closes) (hs : s'.sessions = s.sessions) :
    SwapInv s' := by
  obtain ⟨⟩ := s; obtain ⟨⟩ := s'
  simp only [State.swapView, Prod.mk.injEq] at hv hs hc
  obtain ⟨rfl, rfl, rfl⟩ := hv
  subst hs
  exact ⟨h.1, fun hk hn => by rw [hc]; exact h.2 hk hn, h.3, h.4, fun hn => by rw [hc]; exact h.5 hn,
    by rw [hc]; exact h.6, h.7, h.8⟩

theorem update (h : SwapInv s) (hk : k < s.nSessions) (hv : s'.swapView = s.swapView)
    (hs : s'.sessions = Function.update s.sessions k e) (he : e.SwapOk)
    (hcs : e.csid = (s.sessions k).csid) (hnc : e.natConn = (s.sessions k).natConn)
    (hst : Swapper.stop ∈ e.swaps.map Prod.fst →
      Swapper.stop ∈ (s.sessions k).swaps.map Prod.fst ∨ s.stop.visited e.csid)
    (hc : ∀ m, (s.sessions k).natConn ≠ some m → (s'.socks m).closes = (s.socks m).closes)
    (hkc : ∀ n, e.natConn = some n → (s'.socks n).closes = if e.natConnClosed then 1 else 0) :
    SwapInv s' := by
  obtain ⟨hn', hst', hsn⟩ : s'.nextSock = s.nextSock ∧ s'.stop = s.stop ∧ s'.nSessions = s.nSessions := by
    simpa [State.swapView] using hv
  have view : ∀ j, (s'.sessions j).csid = (s.sessions j).csid ∧
      (s'.sessions j).natConn = (s.sessions j).natConn ∧
      (Swapper.stop ∈ (s'.sessions j).swaps.map Prod.fst →
        Swapper.stop ∈ (s.sessions j).swaps.map Prod.fst ∨ s.stop.visited (s.sessions j).csid) := by
    intro j
    rw [hs]
    by_cases hj : j = k
    · subst hj; simp only [Function.update_same]; exact ⟨hcs, hnc, hcs ▸ hst⟩
    · rw [Function.update_noteq hj]; exact ⟨rfl, rfl, .inl⟩
  have other : ∀ {j m}, j < s.nSessions → j ≠ k → (s.sessions j).natConn = some m →
      (s'.socks m).closes = (s.socks m).closes := fun hj hjk hm =>
    hc _ fun hkm => hjk (h.inj hj hk hm hkm)
  refine ⟨fun {j} hj => ?_, fun {j n} hj hn => ?_, fun {i j n} hi hj hin hjn => ?_, hn' ▸ h.next,
    fun {m} hm => ?_, ?_, fun {j} hj hsj => ?_, fun hk' => h.keys (hst' ▸ hk')⟩
  · rw [hsn] at hj; rw [hs]
    by_cases hjk : j = k
    · subst hjk; simpa using he
    · rw [Function.update_noteq hjk]; exact h.session hj
  · rw [hsn] at hj; rw [hn']
    rw [(view j).2.1] at hn
    obtain ⟨h₁, h₂, h₃⟩ := h.socket hj hn
    refine ⟨h₁, h₂, ?_⟩
    by_cases hjk : j = k
    · subst hjk; rw [hs, Function.update_same]; rw [← hnc] at hn; exact hkc n hn
    · rw [other hj hjk hn, h₃, hs, Function.update_noteq hjk]
  · rw [hsn] at hi hj; rw [(view i).2.1] at hin; rw [(view j).2.1] at hjn
    exact h.inj hi hj hin hjn
  · rw [hn'] at hm
    rw [hc m fun hkm => by have := (h.socket hk hkm).2.1; omega]; exact h.fresh hm
  · rw [hc serverConn fun hkm => by have := (h.socket hk hkm).1; omega, hst']; exact h.server
  · rw [hsn] at hj
    rw [(view j).1, hst']
    exact ((view j).2.2 hsj).elim (h.stopped hj) id

theorem frame (h : SwapInv s) (hk : k < s.nSessions) (hv : s'.swapView = s.swapView)
    (hc : ∀ m, (s'.socks m).closes = (s.socks m).closes)
    (hs : s'.sessions = Function.update s.sessions k e) (he : e.SwapOk)
    (hview : e.swapView = (s.sessions k).swapView) : SwapInv s' := by
  simp only [Session.swapView, Prod.mk.injEq, decide_eq_decide] at hview
  obtain ⟨hcs, hnc, hcl, hst⟩ := hview
  refine h.update hk hv hs he hcs hnc (fun h' => .inl (hst.1 h')) (fun m _ => hc m) fun n hn => ?_
  rw [hnc] at hn hcl
  simp only [hn, Option.isSome_some, Bool.true_and] at hcl
  simp only [hc, hcl]; exact (h.socket hk hn).2.2

theorem closeNat (h : SwapInv s) (hk : k < s.nSessions) {n : ℕ} (hv : s'.swapView = s.swapView)
    (hs : s'.sessions = Function.update s.sessions k e)
    (hsc : ∀ m, (s'.socks m).closes = ((s.close n).socks m).closes) (he : e.SwapOk)
    (hn : (s.sessions k).natConn = some n) (hcl : (s.sessions k).natConnClosed = false)
    (hcs : e.csid = (s.sessions k).csid) (hnc : e.natConn = (s.sessions k).natConn)
    (hecl : e.natConnClosed = true)
    (hst : Swapper.stop ∈ e.swaps.map Prod.fst ↔ Swapper.stop ∈ (s.sessions k).swaps.map Prod.fst) :
    SwapInv s' := by
  refine h.update hk hv hs he hcs hnc (fun h' => .inl (hst.1 h')) (fun m hm => ?_) fun m hm => ?_
  · rw [hsc, closes_close, if_neg fun h' => hm (by rw [h']; exact hn)]
  · rw [hnc, hn] at hm; cases hm
    have := (h.socket hk hn).2.2
    simp only [hcl] at this
    simp [hsc, closes_close, this, hecl]

theorem same_log (h : SwapInv s) (hk : k < s.nSessions) (hv : s'.swapView = s.swapView)
    (hc : ∀ m, (s'.socks m).closes = (s.socks m).closes)
    (hs : s'.sessions = Function.update s.sessions k e)
    (hsw : e.swaps = (s.sessions k).swaps) (hst : e.state = (s.sessions k).state)
    (hnc : e.natConn = (s.sessions k).natConn) (hcs : e.csid = (s.sessions k).csid)
    (hstart : (e.init = .spawn ∨ e.sendChClean = true) ↔
      ((s.sessions k).init = .spawn ∨ (s.sessions k).sendChClean = true))
    (hb : e.init.beforeSwap → (s.sessions k).init.beforeSwap)
    (hl : e.init.beforeListen → (s.sessions k).init.beforeListen)
    (hd : e.init = .downlink → e.sendChClean = true)
    (hcl : e.natConn.isSome → e.natConnClosed = (s.sessions k).natConnClosed) : SwapInv s' := by
  refine h.frame hk hv hc hs ((h.session hk).of_same_log hsw hst hnc hstart hb hl hd) ?_
  simp only [Session.swapView, hcs, hnc, hsw, Prod.mk.injEq, true_and, and_true]
  cases hn : (s.sessions k).natConn
  · rfl
  · simp only [Option.isSome_some, Bool.true_and]; exact hcl (by simp [hnc, hn])

theorem setSession_of_fields (h : SwapInv s) (hk : k < s.nSessions)
    (hf : (e.csid, e.init, e.uplink, e.sendChClean, e.natConn, e.state, e.swaps) =
      ((s.sessions k).csid, (s.sessions k).init, (s.sessions k).uplink, (s.sessions k).sendChClean,
        (s.sessions k).natConn, (s.sessions k).state, (s.sessions k).swaps)) :
    SwapInv (s.setSession k e) := by
  simp only [Prod.mk.injEq] at hf
  obtain ⟨hcs, hi, hu, hcl, hnc, hst, hsw⟩ := hf
  exact h.same_log hk rfl (fun _ => rfl) rfl hsw hst hnc hcs (by rw [hi, hcl]) (by rw [hi]; exact id)
    (by rw [hi]; exact id) (by rw [hi, hcl]; exact (h.session hk).downlink)
    (fun _ => by simp only [Session.natConnClosed, hi, hu, hcl])

theorem insertSession (h : SwapInv s) (hnc : e.natConn = none) (hsw : e.swaps = [])
    (hst : e.state = none) (hcl : e.sendChClean = false) (info : Option ClientAddrInfo) :
    SwapInv (s.insertSession e info) := by
  have hn : ∀ {j}, j < s.nSessions + 1 → j ≠ s.nSessions → j < s.nSessions := by omega
  refine ⟨fun {j} hj => ?_, fun {j n} hj hn' => ?_, fun {i j n} hi hj hin hjn => ?_, h.next, h.fresh,
    h.server, fun {j} hj hst' => ?_, h.keys⟩ <;>
    simp only [State.insertSession_sessions, State.insertSession_nSessions] at *
  · by_cases hjn : j = s.nSessions
    · subst hjn
      simp only [Function.update_same]
      exact ⟨by simp [hnc, hsw, hst, replaySwaps], by simp [hsw], by simp [hsw, hcl],
        fun _ => by simp [hsw], fun _ => hnc, fun h' => by simp at h'⟩
    · rw [Function.update_noteq hjn]; exact h.session (hn hj hjn)
  · have hjn : j ≠ s.nSessions := by rintro rfl; simp [hnc] at hn'
    simp only [Function.update_noteq hjn] at hn' ⊢
    exact h.socket (hn hj hjn) hn'
  · have hi' : i ≠ s.nSessions := by rintro rfl; simp [hnc] at hin
    have hj' : j ≠ s.nSessions := by rintro rfl; simp [hnc] at hjn
    rw [Function.update_noteq hi'] at hin; rw [Function.update_noteq hj'] at hjn
    exact h.inj (hn hi hi') (hn hj hj') hin hjn
  · have hjn : j ≠ s.nSessions := by rintro rfl; simp [hsw] at hst'
    rw [Function.update_noteq hjn] at hst' ⊢
    exact h.stopped (hn hj hjn) hst'

theorem listen (h : SwapInv s) (hk : k < s.nSessions) (hpc : (s.sessions k).init = .listen)
    (hcl : (s.sessions k).sendChClean = false) :
    SwapInv { s.setSession k { s.sessions k with init := .setDeadline, natConn := some s.nextSock } with
      nextSock := s.nextSock + 1 } := by
  have ho := h.session hk
  have hi : Swapper.initializer ∉ (s.sessions k).swaps.map Prod.fst :=
    ho.beforeSwap (by simp [hpc, InitPc.beforeSwap])
  have hlt : ∀ {j m}, j < s.nSessions → (s.sessions j).natConn = some m → m < s.nextSock :=
    fun hj hm => (h.socket hj hm).2.1
  refine ⟨fun {j} hj => ?_, fun {j n} hj hn => ?_, fun {i j n} hi' hj hin hjn => ?_, by
    have := h.next; simp only; omega, fun {m} hm => h.fresh (by simp only at hm; omega), h.server,
    fun {j} hj hst => ?_, h.keys⟩ <;> simp only [State.setSession] at *
  · by_cases hjk : j = k
    · subst hjk
      simp only [Function.update_same]
      exact ⟨by rw [← replaySwaps_congr hi]; exact ho.replay, ho.nodup,
        by simpa [hcl] using fun h' => hi (List.mem_map_of_mem Prod.fst h'),
        fun _ => hi, by simp [InitPc.beforeListen], by simp⟩
    · rw [Function.update_noteq hjk]; exact h.session hj
  · by_cases hjk : j = k
    · subst hjk
      simp only [Function.update_same, Option.some.injEq] at hn ⊢
      subst hn
      simp [Session.natConnClosed, hcl, InitPc.early, h.fresh le_rfl, h.next]
    · simp only [Function.update_noteq hjk] at hn ⊢
      obtain ⟨h₁, h₂, h₃⟩ := h.socket hj hn
      exact ⟨h₁, by omega, h₃⟩
  · by_cases hik : i = k <;> by_cases hjk : j = k
    · rw [hik, hjk]
    · subst hik
      simp only [Function.update_same, Function.update_noteq hjk, Option.some.injEq] at hin hjn
      have := hlt hj hjn; omega
    · subst hjk
      simp only [Function.update_same, Function.update_noteq hik, Option.some.injEq] at hin hjn
      have := hlt hi' hin; omega
    · simp only [Function.update_noteq hik, Function.update_noteq hjk] at hin hjn
      exact h.inj hi' hj hin hjn
  · by_cases hjk : j = k
    · subst hjk; simp only [Function.update_same] at hst ⊢; exact h.stopped hk hst
    · simp only [Function.update_noteq hjk] at hst ⊢; exact h.stopped hj hst

theorem send (h : SwapInv s) (hk : k < s.nSessions) (cfg : Config) (p : ℕ) :
    SwapInv (s.send cfg k p) := by
  dsimp only [State.send]
  split_ifs
  · exact h.congr rfl (fun _ => rfl) rfl
  · exact h.setSession_of_fields hk rfl
  · exact h.congr rfl (fun _ => rfl) rfl

theorem stopMove (h : SwapInv s) (hv : s'.nextSock = s.nextSock) (hn : s'.nSessions = s.nSessions)
    (hs : s'.sessions = s.sessions)
    (hc : ∀ m, m ≠ serverConn → (s'.socks m).closes = (s.socks m).closes)
    (hserver : (s'.socks serverConn).closes = if s'.stop = .returned then 1 else 0)
    (hvis : ∀ c, s.stop.visited c → s'.stop.visited c)
    (hkeys : ∀ {keys}, s'.stop = .swapping keys → keys.Nodup) : SwapInv s' := by
  refine ⟨fun hj => ?_, fun hj hm => ?_, fun hi hj hin hjn => ?_, hv ▸ h.next, fun {m} hm => ?_,
    hserver, fun hj hst => ?_, hkeys⟩ <;> simp only [hs, hn, hv] at *
  · exact h.session hj
  · have := h.socket hj hm
    rw [hc _ (by omega)]; exact this
  · exact h.inj hi hj hin hjn
  · have := h.next; rw [hc _ (by omega)]; exact h.fresh hm
  · exact hvis _ (h.stopped hj hst)

end SwapInv

variable {cfg : Config} {s s' : State}

theorem SwapInv.dispatch_of_lookup (h : SwapInv s) (ht : TableInv s) {c : UInt64} {k : ℕ}
    (hl : s.table.find c = some k) (p addr : ℕ) (cmsg : List UInt8) (ok : Bool) :
    SwapInv (dispatch cfg s p (some k) (s.sessions k) addr cmsg ok) := by
  obtain ⟨hk, -, -⟩ := ht.lookup hl
  unfold dispatch
  rw [updateClientAddrInfo_eq]
  split_ifs
  · exact (h.setSession_of_fields hk rfl).send (by simpa using hk) cfg p
  · refine (h.setSession_of_fields hk ?_).send (by simpa using hk) cfg p
    rfl
  · refine (h.setSession_of_fields hk ?_).congr rfl (fun _ => rfl) rfl
    rfl

theorem SwapInv.dispatch_of_fresh (h : SwapInv s) {c : UInt64} (p addr : ℕ) (cmsg : List UInt8)
    (ok : Bool) : SwapInv (dispatch cfg s p none (Session.fresh c) addr cmsg ok) := by
  unfold dispatch
  rw [updateClientAddrInfo_eq]
  split_ifs
  all_goals first
    | exact h.congr rfl (fun _ => rfl) rfl
    | exact (h.insertSession rfl rfl rfl rfl _).send (by simp) cfg p

theorem SwapInv.of_recv (h : SwapInv s) (ht : TableInv s) {pick : ℕ} {r : Recv}
    (hs : recvFromServerConn cfg s pick r = some s') : SwapInv s' := by
  cases r with
  | deadlineExceeded =>
    simp only [recvFromServerConn] at hs
    split_ifs at hs
    cases hs
    exact h.congr rfl (fun _ => rfl) rfl
  | error => cases hs; exact h.congr rfl (fun _ => rfl) rfl
  | datagram c addr cmsg length nu up pp =>
    simp only [recvFromServerConn] at hs
    by_cases h₀ : addr = 0 ∨ s.stop.holdsLock
    · simp [h₀] at hs
    rw [if_neg h₀] at hs
    have h₁ : SwapInv ((s.getQueuedPacket pick).2.readInto (s.getQueuedPacket pick).1 c addr cmsg nu length) :=
      h.congr rfl (fun _ => rfl) rfl
    have ht₁ : TableInv ((s.getQueuedPacket pick).2.readInto (s.getQueuedPacket pick).1 c addr cmsg nu length) :=
      ht.congr rfl rfl rfl rfl
    split at hs <;> split_ifs at hs <;> cases hs
    · exact h₁.dispatch_of_lookup ht₁ ‹_› _ _ _ _
    · exact h₁.congr rfl (fun _ => rfl) rfl
    · exact h₁.dispatch_of_fresh _ _ _ _
    · exact h₁.congr rfl (fun _ => rfl) rfl

theorem SwapInv.of_initStep (h : SwapInv s) (hb : BufInv s []) (ht : TableInv s) {k : ℕ}
    {ok : Bool} (hs : initStep cfg s k ok = some s') : SwapInv s' := by
  have hk : k < s.nSessions := ht.lt_of_init (by intro he; simp [initStep, he] at hs)
  have ho := h.session hk
  have hclean : (s.sessions k).init.early → (s.sessions k).sendChClean = false := (hb.session hk).early
  cases hpc : (s.sessions k).init <;> simp only [Relay.initStep, hpc, reduceCtorEq] at hs
  case listen =>
    split_ifs at hs <;> cases hs
    · exact h.listen hk hpc (hclean (by simp [hpc, InitPc.early]))
    · apply h.same_log hk <;> first | rfl | (intro; rfl) |
        simp [hpc, hclean, InitPc.early, InitPc.beforeSwap, InitPc.beforeListen, ho.beforeListen]
  case setDeadline =>
    split at hs
    · rename_i n hn
      have hcl : (s.sessions k).sendChClean = false := hclean (by simp [hpc, InitPc.early])
      split_ifs at hs <;> cases hs
      · apply h.same_log hk <;> first | rfl | (intro; exact closes_setReadDeadline) |
          simp [hpc, hcl, Session.natConnClosed, InitPc.early, InitPc.beforeSwap, InitPc.beforeListen]
      · refine h.closeNat hk rfl rfl (fun _ => rfl) (ho.of_same_log rfl rfl rfl ?_ ?_ ?_ ?_) hn
          (by simp [Session.natConnClosed, hcl, hpc, InitPc.early]) rfl rfl
          (by simp [Session.natConnClosed, hcl, InitPc.early]) Iff.rfl <;>
          simp [hpc, hcl, InitPc.beforeSwap, InitPc.beforeListen]
    · cases hs
  case swap =>
    split at hs
    · rename_i n hn
      have hcl : (s.sessions k).sendChClean = false := hclean (by simp [hpc, InitPc.early])
      have hi : Swapper.initializer ∉ (s.sessions k).swaps.map Prod.fst :=
        ho.beforeSwap (by simp [hpc, InitPc.beforeSwap])
      have hrep : replaySwaps (s.sessions k).natConn none
          ((s.sessions k).swaps ++ [(.initializer, (s.sessions k).state)]) = some (some n) := by
        rw [replaySwaps_append, ho.replay]; simp [Swapper.value, hn]
      have hnd : (((s.sessions k).swaps ++ [(Swapper.initializer, (s.sessions k).state)]).map
          Prod.fst).Nodup := by
        simp only [List.map_append, List.map_cons, List.map_nil]
        exact ho.nodup.append (List.nodup_singleton _) (List.disjoint_singleton.2 hi)
      have hmem : (Swapper.initializer, none) ∈
          (s.sessions k).swaps ++ [(.initializer, (s.sessions k).state)] ↔ (s.sessions k).state = none := by
        simp only [List.mem_append, List.mem_singleton, Prod.mk.injEq, true_and]
        exact ⟨fun h' => h'.elim (fun h' => absurd (List.mem_map_of_mem Prod.fst h') hi) Eq.symm,
          fun h' => .inr h'.symm⟩
      split_ifs at hs with hst <;> cases hs
      · refine h.frame hk rfl (fun _ => rfl) rfl ⟨hrep, hnd, by simp [hmem, hst], by simp [InitPc.beforeSwap],
          by simp [InitPc.beforeListen], by simp⟩ ?_
        simp [Session.swapView, Session.natConnClosed, hcl, hpc, InitPc.early]
      · refine h.closeNat hk rfl rfl (fun _ => rfl) ⟨hrep, hnd, by simp [hmem, hst, hcl],
          by simp [InitPc.beforeSwap], by simp [InitPc.beforeListen], by simp⟩ hn
          (by simp [Session.natConnClosed, hcl, hpc, InitPc.early]) rfl rfl
          (by simp [Session.natConnClosed, hcl, InitPc.early]) (by simp)
    · cases hs
  case spawn =>
    split at hs <;> cases hs
    · apply h.same_log hk <;> first | rfl | simp [hpc, hclean, Session.natConnClosed, InitPc.early,
        InitPc.beforeSwap, InitPc.beforeListen]
    · exact h.congr rfl (fun _ => rfl) rfl
  case teardown =>
    split_ifs at hs <;> cases hs
    · exact h.congr rfl (fun _ => rfl) rfl
    · cases hc : (s.sessions k).sendChClean <;> apply h.same_log hk <;> first | rfl |
        simp [State.teardown, hpc, hc, Session.natConnClosed, InitPc.early, InitPc.beforeSwap,
          InitPc.beforeListen]
  all_goals (try split at hs) <;> cases hs
  all_goals apply h.same_log hk <;> first | rfl | (intro; rfl) | simp [hpc, hclean,
    Session.natConnClosed, InitPc.early, InitPc.beforeSwap, InitPc.beforeListen, ho.beforeListen]

theorem SwapInv.of_uplinkStep (h : SwapInv s) (hb : BufInv s []) (ht : TableInv s) {k : ℕ}
    {ok : Bool} (hs : uplinkStep cfg s k ok = some s') : SwapInv s' := by
  have hk : k < s.nSessions := by
    by_contra hn
    simp [uplinkStep, ht.unused (not_lt.mp hn), default, Session.fresh] at hs
  have hbo := hb.session hk
  cases hu : (s.sessions k).uplink <;> cases hn : (s.sessions k).natConn <;>
    simp only [Relay.uplinkStep, hu, hn, reduceCtorEq] at hs
  all_goals have hcl : (s.sessions k).sendChClean = true := hbo.clean.2 (by simp [hu])
  case recv.some n =>
    split at hs
    · cases hs
      apply h.same_log hk <;> first | rfl | simp [hu, hcl, hn, Session.natConnClosed]
    · split_ifs at hs
      cases hs
      exact h.closeNat hk rfl rfl (fun _ => rfl) ((h.session hk).of_same_log rfl rfl hn.symm Iff.rfl
        id id (h.session hk).downlink) hn (by simp [Session.natConnClosed, hcl, hu]) rfl hn.symm
        (by simp [Session.natConnClosed, hcl]) Iff.rfl
  all_goals (try split_ifs at hs) <;> cases hs
  all_goals apply h.same_log hk <;> first | rfl | (intro; exact closes_setReadDeadline) |
    simp [hu, hcl, hn, Session.natConnClosed]

theorem SwapInv.of_downlinkStep (h : SwapInv s) (ht : TableInv s) {k : ℕ} {arrives : Bool}
    (hs : downlinkStep s k arrives = some s') : SwapInv s' := by
  cases hpc : (s.sessions k).init <;> cases hn : (s.sessions k).natConn <;>
    simp only [downlinkStep, hpc, hn, reduceCtorEq] at hs
  have hk := ht.lt_of_init (show (s.sessions k).init ≠ .exited by simp [hpc])
  have hcl := (h.session hk).downlink hpc
  split_ifs at hs <;> cases hs
  · apply h.same_log hk <;> first | rfl | simp [hpc, hcl, hn, Session.natConnClosed,
      InitPc.beforeSwap, InitPc.beforeListen]
  · exact h.congr rfl (fun _ => rfl) rfl

theorem SwapInv.of_stopStep (h : SwapInv s) (hs : stopStep s = some s') : SwapInv s' := by
  unfold stopStep at hs
  split at hs <;> (try split_ifs at hs) <;> cases hs
  · refine h.stopMove rfl rfl rfl (fun _ _ => closes_setReadDeadline) ?_ (fun _ => by simp [*, StopPc.visited])
      (by simp)
    rw [closes_setReadDeadline, h.server]; simp [*]
  · exact h.stopMove rfl rfl rfl (fun _ _ => rfl) (by rw [h.server]; simp [*])
      (fun _ => by simp [*, StopPc.visited]) fun h' => by cases h'; exact s.table.keys_nodup
  · exact h.stopMove rfl rfl rfl (fun _ _ => rfl) (by rw [h.server]; simp [*])
      (fun _ _ => rfl) (by simp)
  · refine h.stopMove rfl rfl rfl (fun m hm => by simp [closes_close, hm]) ?_ (fun _ _ => rfl) (by simp)
    have := h.server
    simp only [*, reduceCtorEq, if_false] at this
    simp [closes_close, this]

theorem SwapInv.of_stopSwap (h : SwapInv s) (ht : TableInv s) {c : UInt64}
    (hs : stopSwap s c = some s') : SwapInv s' := by
  cases hst : s.stop <;> simp only [Relay.stopSwap, hst, reduceCtorEq] at hs
  rename_i keys
  split_ifs at hs with hc
  have hnd := h.keys hst
  have h₁ : SwapInv { s with stop := .swapping (keys.erase c) } :=
    h.stopMove rfl rfl rfl (fun _ _ => rfl) (by rw [h.server, hst]; rfl)
      (fun c' => by simp only [hst, StopPc.visited, decide_eq_true_eq]; exact mt List.mem_of_mem_erase)
      fun h' => by cases h'; exact hnd.erase c
  cases hf : s.table.find c with
  | none => simp only [hf] at hs; cases hs; exact h₁
  | some k =>
    obtain ⟨hk, hck, -⟩ := ht.lookup hf
    have ho := h.session hk
    have hns : Swapper.stop ∉ (s.sessions k).swaps.map Prod.fst := fun h' => by
      have := h.stopped hk h'
      simp [hst, hck, StopPc.visited, hc] at this
    have he : { s.sessions k with state := some serverConn,
                                  swaps := (s.sessions k).swaps ++ [(Swapper.stop, (s.sessions k).state)] }.SwapOk := by
      refine ⟨?_, ?_, ?_, fun hb' => ?_, ho.beforeListen, ho.downlink⟩
      · simp only; rw [replaySwaps_append, ho.replay]; simp [Swapper.value]
      · simp only [List.map_append, List.map_cons, List.map_nil]
        exact ho.nodup.append (List.nodup_singleton _) (List.disjoint_singleton.2 hns)
      · simpa using ho.started
      · simpa using ho.beforeSwap hb'
    have hvis : (StopPc.swapping (keys.erase c)).visited (s.sessions k).csid := by
      simp [StopPc.visited, hck, hnd.not_mem_erase]
    cases hstate : (s.sessions k).state <;> simp only [hf, hstate] at hs <;> cases hs <;>
      exact h₁.update hk rfl (by simp [hstate]) he rfl rfl (fun _ => .inr hvis)
        (fun _ _ => by first | rfl | exact closes_setReadDeadline) fun m hm => by
          first | exact (h.socket hk hm).2.2 | exact closes_setReadDeadline.trans (h.socket hk hm).2.2

theorem SwapInv.of_step (h : SwapInv s) (hb : BufInv s []) (ht : TableInv s) {a : Action}
    (hs : step cfg s a = some s') : SwapInv s' := by
  cases a with
  | tick => cases hs; exact h.congr rfl (fun _ => rfl) rfl
  | recv pick r =>
    simp only [step] at hs
    split_ifs at hs
    exact h.of_recv ht hs
  | init k ok => exact h.of_initStep hb ht hs
  | uplink k ok => exact h.of_uplinkStep hb ht hs
  | downlink k arrives => exact h.of_downlinkStep ht hs
  | stop => exact h.of_stopStep hs
  | stopSwap c => exact h.of_stopSwap ht hs

theorem Reachable.swapInv (hs : Reachable cfg s) : SwapInv s := by
  induction hs with
  | init => exact swapInv_init
  | step a hr h ih => exact ih.of_step hr.bufInv hr.tableInv h

theorem SwapInv.natConn_closes (h : SwapInv s) (hb : BufInv s []) {k n : ℕ} (hk : k < s.nSessions)
    (hn : (s.sessions k).natConn = some n) :
    (s.socks n).closes ≤ 1 ∧
      ((s.socks n).closes = 1 → (s.sessions k).init ≠ .downlink ∧ (s.sessions k).uplink.running = false) ∧
      ((s.sessions k).init = .exited → (s.sessions k).uplink.running = false → (s.socks n).closes = 1) := by
  have hc := (h.socket hk hn).2.2
  have hbo := hb.session hk
  have hd := (h.session hk).downlink
  refine ⟨by split_ifs at hc <;> omega, fun h1 => ?_, fun hi hu => ?_⟩
  · have hcl : (s.sessions k).natConnClosed := by by_contra h'; simp [h'] at hc; omega
    simp only [Session.natConnClosed] at hcl
    split_ifs at hcl with hsc
    · have hx : (s.sessions k).uplink = .exited := by simpa using hcl
      exact ⟨fun h' => by simpa [h', InitPc.live] using hbo.closed hx, by simp [hx, UplinkPc.running]⟩
    · have hu : (s.sessions k).uplink = .notStarted := by
        by_contra hu; exact hsc (hbo.clean.2 hu)
      exact ⟨fun h' => hsc (hd h'), by simp [hu, UplinkPc.running]⟩
  · rw [hc]
    simp only [Session.natConnClosed, hi, InitPc.early, Bool.not_false, ite_eq_left_iff]
    split_ifs with hsc
    · have := hbo.clean.1 hsc
      cases hx : (s.sessions k).uplink <;> simp_all [UplinkPc.running]
    · simp

theorem SwapInv.stopSwap_deadline (h : SwapInv s) (ht : TableInv s) {c : UInt64}
    (hs : stopSwap s c = some s') {m : ℕ} (hm : s'.socks m ≠ s.socks m) :
    ∃ j < s.nSessions, (s.sessions j).natConn = some m ∧
      (Swapper.initializer, none) ∈ (s.sessions j).swaps := by
  cases hst : s.stop <;> simp only [Relay.stopSwap, hst, reduceCtorEq] at hs
  rename_i keys
  split_ifs at hs with hc
  cases hf : s.table.find c with
  | none => simp only [hf] at hs; cases hs; exact absurd rfl hm
  | some k =>
    obtain ⟨hk, hck, -⟩ := ht.lookup hf
    have hns : Swapper.stop ∉ (s.sessions k).swaps.map Prod.fst := fun h' => by
      have := h.stopped hk h'
      simp [hst, hck, StopPc.visited, hc] at this
    cases hstate : (s.sessions k).state <;> simp only [hf, hstate] at hs <;> cases hs
    · exact absurd rfl hm
    · rename_i n
      have hmn : m = n := by
        by_contra hmn; exact hm (by simp [State.setReadDeadline, Function.update_noteq hmn])
      subst hmn
      exact ⟨k, hk, (h.session hk).state_some hns hstate⟩

/-- After `Stop` set `natConn`'s deadline to its instant `0`, the uplink worker moves it to
`0 + natTimeout`. -/
theorem uplink_extends_stop_deadline :
    (run ⟨5, by decide, 4⟩ init [.recv 0 (.datagram 7 1 [1] 10 true true true),
      .init 0 true, .init 0 true, .init 0 true, .init 0 true, .init 0 true, .init 0 true, .init 0 true,
      .stop, .recv 0 .deadlineExceeded, .stop, .stopSwap 7, .uplink 0 true, .uplink 0 true]).map
      (fun s => ((s.stopNow, s.clock, (s.socks 1).deadline), (s.sessions 0).swaps,
        (downlinkStep s 0 false).isNone)) =
    some ((0, 0, some 5), [(.initializer, none), (.stop, some 1)], true) := by
  decide

/-- The race on `state`: the initializer starts the workers exactly when it swapped first, `Stop`
sets a deadline only on the published `natConn`, and each `natConn` is closed once. -/
theorem sessionState_swap_race (hr : Reachable cfg s) :
    (∀ k < s.nSessions,
      ((Swapper.initializer, none) ∈ (s.sessions k).swaps ↔
        (s.sessions k).init = .spawn ∨ (s.sessions k).sendChClean = true) ∧
      ((Swapper.initializer, none) ∈ (s.sessions k).swaps ↔
        (s.sessions k).swaps.head?.map Prod.fst = some .initializer) ∧
      (∀ n, (Swapper.stop, some n) ∈ (s.sessions k).swaps →
        (s.sessions k).natConn = some n ∧ (Swapper.initializer, none) ∈ (s.sessions k).swaps) ∧
      (∀ n, (s.sessions k).natConn = some n →
        (s.socks n).closes ≤ 1 ∧
        ((s.socks n).closes = 1 →
          (s.sessions k).init ≠ .downlink ∧ (s.sessions k).uplink.running = false) ∧
        ((s.sessions k).init = .exited → (s.sessions k).uplink.running = false →
          (s.socks n).closes = 1))) ∧
    ∀ {c s'}, stopSwap s c = some s' → ∀ m, s'.socks m ≠ s.socks m →
      ∃ j < s.nSessions, (s.sessions j).natConn = some m ∧
        (Swapper.initializer, none) ∈ (s.sessions j).swaps := by
  have h := hr.swapInv
  have hb := hr.bufInv
  refine ⟨fun k hk => ⟨(h.session hk).started, (h.session hk).initializer_none_iff,
    fun _ hn => (h.session hk).stop_some hn, fun _ hn => h.natConn_closes hb hk hn⟩,
    fun hs _ hm => h.stopSwap_deadline hr.tableInv hs hm⟩

theorem sessionState_swap_race_stopFirst :
    ∃ s, Reachable ⟨5, by decide, 4⟩ s ∧
      (s.sessions 0).swaps = [(.stop, none), (.initializer, some serverConn)] ∧
      (s.sessions 0).natConn = some 1 ∧ (s.sessions 0).init = .wgDone ∧
      ((s.socks 1).closes ≤ 1 ∧
        ((s.socks 1).closes = 1 → (s.sessions 0).init ≠ .downlink ∧ (s.sessions 0).uplink.running = false) ∧
        ((s.sessions 0).init = .exited → (s.sessions 0).uplink.running = false → (s.socks 1).closes = 1)) := by
  have hrun : run ⟨5, by decide, 4⟩ init [.recv 0 (.datagram 7 1 [1] 10 true true true),
      .init 0 true, .init 0 true, .init 0 true, .init 0 true, .init 0 true, .stop,
      .recv 0 .deadlineExceeded, .stop, .stopSwap 7, .init 0 true] = some _ := rfl
  exact ⟨_, .run .init hrun, by decide, by decide, by decide,
    ((sessionState_swap_race (.run .init hrun)).1 0 (by decide)).2.2.2 1 (by decide)⟩

end Relay
end ShadowsocksGo
