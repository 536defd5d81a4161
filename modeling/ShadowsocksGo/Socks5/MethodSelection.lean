import ShadowsocksGo.Socks5.Stream

/-! # Method selection, server half

`serverHandleMethodSelection` reads the version identifier/method selection message of
RFC 1928 section 3 into the scratch buffer and answers with the method it was given when the
client offers it. Its first read takes `VER`, `NMETHODS` and the first method; a single method
is compared in place, and more are read behind it and searched with `bytes.IndexByte`. -/

namespace ShadowsocksGo
namespace Socks5

/-- SOCKS version 5. -/
def version : UInt8 := 5

def methodNoAcceptable : UInt8 := 0xFF

def indexByte (s : Bytes) (c : UInt8) : ℤ :=
  if c ∈ s then s.indexOf c else -1

theorem indexByte_eq_neg_one_iff {s : Bytes} {c : UInt8} : indexByte s c = -1 ↔ c ∉ s := by
  unfold indexByte
  split_ifs with h <;> simp [h]

/-- The `default:` arm of `switch nmethods`: read the `nmethods - 1` methods behind the first,
then look `method` up among all of them. -/
def readMethodIndex (rw : Conn) (b : Bytes) (method : UInt8) (nmethods : ℕ) :
    Except Panic (Conn × Bytes × Except Error ℤ) := do
  let (rw, b, e) ← readFull rw b 3 (3+nmethods-1)
  if let some e := e then return (rw, b, .error e)
  return (rw, b, .ok (indexByte (← slice b 2 (2+nmethods)) method))

/-- `switch nmethods`: the error `serverHandleMethodSelection` returns in it, or
`methodIndex`. -/
def switchNMethods (rw : Conn) (b : Bytes) (method : UInt8) :
    ℕ → Except Panic (Conn × Bytes × Except Error ℤ)
  | 0 => return (rw, b, .error .zeroNMETHODS)
  | 1 => do return (rw, b, .ok (if (← index b 2) ≠ method then -1 else 0))
  | nmethods => readMethodIndex rw b method nmethods

/-- `serverHandleMethodSelection`: `len(b)` must be at least `1+1+255`. -/
def serverHandleMethodSelection (rw : Conn) (b : Bytes) (method : UInt8) :
    Except Panic (Ret Unit) := do
  if b.length < 1+1+255 then throw .bufferTooSmall
  let (rw, b, e) ← readFull rw b 0 3
  if let some e := e then return ⟨rw, b, (), some e⟩
  let ver ← index b 0
  if ver ≠ version then return ⟨rw, b, (), some (.unsupportedVersion ver)⟩
  let (rw, b, methodIndex) ← switchNMethods rw b method (← index b 1).toNat
  match methodIndex with
  | .error e => return ⟨rw, b, (), some e⟩
  | .ok methodIndex =>
    if methodIndex = -1 then
      let b ← setIndex b 1 methodNoAcceptable
      let (rw, _) ← write rw b 0 2
      return ⟨rw, b, (), some .noAcceptableAuthMethod⟩
    let b ← setIndex b 1 method
    let (rw, e) ← write rw b 0 2
    return ⟨rw, b, (), e⟩

/-- A well-formed version identifier/method selection message: `VER` 5, then 1 to 255 methods
behind their count. -/
structure Greeting where
  methods : Bytes
  methods_pos : 0 < methods.length
  methods_le : methods.length ≤ 255

def Greeting.bytes (g : Greeting) : Bytes :=
  [version, UInt8.ofNat g.methods.length] ++ g.methods

section Switch

variable {rw : Conn} {b : Bytes} {method : UInt8}

theorem switchNMethods_one (hb : 3 ≤ b.length) :
    switchNMethods rw b method 1 = readMethodIndex rw b method 1 := by
  match b, hb with
  | c₀ :: c₁ :: c₂ :: t, _ =>
    by_cases hc : c₂ = method <;>
      simp [switchNMethods, readMethodIndex, readFull, index, slice, indexByte, overwrite, hc,
        bind, Except.bind, pure, Except.pure, Ne.symm]

theorem readMethodIndex_of_methods {x : UInt8} {xs rest : Bytes} (hb : 3 + xs.length ≤ b.length)
    (hx : b[2]? = some x) (hin : rw.input = xs ++ rest) :
    readMethodIndex rw b method (xs.length + 1) =
      .ok ({ rw with input := rest }, overwrite b 3 xs, .ok (indexByte (x :: xs) method)) := by
  have h₁ : readFull rw b 3 (3 + (xs.length + 1) - 1) =
      .ok ({ rw with input := rest }, overwrite b 3 xs, none) :=
    readFull_of_eq (by omega) (by omega) (by omega) hin
  have h₂ : slice (overwrite b 3 xs) 2 (2 + (xs.length + 1)) = .ok (x :: xs) := by
    rw [slice_of_le (by omega) (by rw [overwrite_length (by omega)]; omega)]
    match b, hx with
    | c₀ :: c₁ :: c₂ :: t, hx => simp_all [overwrite]
  rw [readMethodIndex, h₁]
  simp only [bind, Except.bind, pure, Except.pure, h₂]

theorem switchNMethods_of_pos {n : ℕ} (hn : 0 < n) (hb : 3 ≤ b.length) :
    switchNMethods rw b method n = readMethodIndex rw b method n := by
  match n with
  | 1 => exact switchNMethods_one hb
  | _ + 2 => rfl

theorem switchNMethods_isOk {n : ℕ} (h₃ : 3 ≤ b.length) (hn : 2 + n ≤ b.length) :
    ∃ v, switchNMethods rw b method n = .ok v ∧ v.2.1.length = b.length := by
  match n with
  | 0 => exact ⟨_, rfl, rfl⟩
  | 1 =>
    obtain ⟨c, hc⟩ := index_isOk (i := 2) (b := b) (by omega)
    exact ⟨(rw, b, .ok (if c ≠ method then -1 else 0)),
      by simp [switchNMethods, hc, bind, Except.bind, pure, Except.pure], rfl⟩
  | n + 2 =>
    obtain ⟨⟨rw₁, b₁, e⟩, h₁⟩ := readFull_isOk rw b 3 (3 + (n + 2) - 1)
      (by omega) (by omega)
    have hl := readFull_length h₁
    obtain ⟨ms, hms⟩ : ∃ ms, slice b₁ 2 (2 + (n + 2)) = .ok ms :=
      ⟨_, slice_of_le (by omega) (by simp only at hl; omega)⟩
    have hs : switchNMethods rw b method (n + 2) = readMethodIndex rw b method (n + 2) := rfl
    cases e with
    | none => exact ⟨(rw₁, b₁, .ok (indexByte ms method)),
        by rw [hs, readMethodIndex, h₁]; simp [hms, bind, Except.bind, pure, Except.pure], hl⟩
    | some e => exact ⟨(rw₁, b₁, .error e),
        by rw [hs, readMethodIndex, h₁]; simp [bind, Except.bind, pure, Except.pure], hl⟩

end Switch

section Accept

variable {rw : Conn} {b : Bytes} {method : UInt8}

theorem serverHandleMethodSelection_ne_error (hb : 1 + 1 + 255 ≤ b.length) (p : Panic) :
    serverHandleMethodSelection rw b method ≠ .error p := by
  obtain ⟨⟨rw₁, b₁, e₁⟩, h₁⟩ := readFull_isOk rw b 0 3 (by omega) (by omega)
  have hl₁ : b₁.length = b.length := readFull_length h₁
  obtain ⟨v, hv⟩ := index_isOk (b := b₁) (i := 0) (by omega)
  obtain ⟨n, hn⟩ := index_isOk (b := b₁) (i := 1) (by omega)
  obtain ⟨⟨rw₂, b₂, i⟩, h₂, hl₂⟩ := @switchNMethods_isOk rw₁ b₁ method n.toNat
    (by omega) (by have := n.toNat_lt_size; simp only [UInt8.size] at this; omega)
  simp only at hl₂
  have hs : ∀ c, setIndex b₂ 1 c = .ok (b₂.set 1 c) := fun c => setIndex_of_lt (by omega)
  have hw : ∀ c rw', ∃ v, write rw' (b₂.set 1 c) 0 2 = .ok v := fun c rw' =>
    ⟨_, write_of_le (b := b₂.set 1 c) (by omega) (by simp; omega)⟩
  intro h
  simp only [serverHandleMethodSelection, show ¬ b.length < 257 by omega, if_false, h₁,
    hv, hn, h₂, hs, bind, Except.bind, pure, Except.pure] at h
  cases e₁
  · by_cases hver : v = version
    · simp only [hver, ne_eq, not_true_eq_false, if_false] at h
      cases i with
      | error e => cases h
      | ok i =>
        by_cases hi : i = -1
        · obtain ⟨_, hw'⟩ := hw methodNoAcceptable rw₂; simp [hi, hw'] at h
        · obtain ⟨_, hw'⟩ := hw method rw₂; simp [hi, hw'] at h
    · simp [hver] at h
  · cases h

theorem write_reply (rw : Conn) (y v : UInt8) (t : Bytes) :
    write rw ((version :: y :: t).set 1 v) 0 2 = .ok (if rw.writeOk then
      ({ rw with output := rw.output ++ [version, v] }, none) else (rw, some .io)) := by
  rw [write_of_le (by omega) (by simp)]; rfl

theorem serverHandleMethodSelection_of_greeting (g : Greeting) (rest out : Bytes) (w : Bool)
    (hb : 1 + 1 + 255 ≤ b.length) :
    ∃ b', serverHandleMethodSelection ⟨g.bytes ++ rest, out, w⟩ b method =
      .ok ⟨⟨rest, out ++ (if w then
          [version, if method ∈ g.methods then method else methodNoAcceptable] else []), w⟩, b', (),
        if method ∈ g.methods then (if w then none else some .io)
        else some .noAcceptableAuthMethod⟩ := by
  obtain ⟨ms, hpos, hle⟩ := g
  obtain ⟨x, xs, rfl⟩ := List.exists_cons_of_ne_nil (List.ne_nil_of_length_pos hpos)
  obtain ⟨c₀, c₁, c₂, t, rfl⟩ : ∃ c₀ c₁ c₂ t, b = c₀ :: c₁ :: c₂ :: t := by
    match b, hb with
    | c₀ :: c₁ :: c₂ :: t, _ => exact ⟨c₀, c₁, c₂, t, rfl⟩
  simp only [List.length_cons] at hle hb
  set n8 := UInt8.ofNat (xs.length + 1)
  have hn8 : n8.toNat = xs.length + 1 := UInt8.toNat_ofNat_of_lt (by simp [UInt8.size]; omega)
  have h₁ : readFull ⟨[version, n8] ++ x :: xs ++ rest, out, w⟩ (c₀ :: c₁ :: c₂ :: t) 0 3 =
      .ok (⟨xs ++ rest, out, w⟩, version :: n8 :: x :: t, none) := by
    rw [@readFull_of_eq _ _ 0 3 [version, n8, x] (xs ++ rest) (by simp) (by omega) rfl (by simp)]
    simp [overwrite]
  have h₂ : switchNMethods ⟨xs ++ rest, out, w⟩ (version :: n8 :: x :: t) method (xs.length + 1) =
      .ok (⟨rest, out, w⟩, version :: n8 :: x :: (xs ++ t.drop xs.length),
        .ok (indexByte (x :: xs) method)) := by
    rw [switchNMethods_of_pos (by omega) (by simp), @readMethodIndex_of_methods _ _ method x xs rest
      (by simp; omega) (by simp) rfl]
    simp [overwrite, show 3 + xs.length = xs.length + 1 + 1 + 1 by omega]
  refine ⟨(version :: n8 :: x :: (xs ++ t.drop xs.length)).set 1
    (if method ∈ x :: xs then method else methodNoAcceptable), ?_⟩
  rw [serverHandleMethodSelection, if_neg (by simp; omega)]
  simp only [Greeting.bytes, List.length_cons, h₁, bind, Except.bind, pure, Except.pure,
    show index (version :: n8 :: x :: t) 0 = .ok version from rfl,
    show index (version :: n8 :: x :: t) 1 = .ok n8 from rfl, ne_eq, not_true_eq_false, hn8, h₂,
    setIndex_of_lt (show 1 < (version :: n8 :: x :: (xs ++ t.drop xs.length)).length by simp),
    write_reply, indexByte_eq_neg_one_iff]
  by_cases hm : method ∈ x :: xs <;> cases w <;> simp [hm]

theorem serverHandleMethodSelection_of_short (hb : 1 + 1 + 255 ≤ b.length)
    (hin : rw.input.length < 3) :
    serverHandleMethodSelection rw b method = .ok ⟨{ rw with input := [] }, overwrite b 0 rw.input,
      (), some (if rw.input = [] then .eof else .unexpectedEOF)⟩ := by
  have h₁ : readFull rw b 0 3 = .ok ({ rw with input := [] }, overwrite b 0 rw.input,
      some (if rw.input = [] then .eof else .unexpectedEOF)) := by
    simp only [readFull, Nat.zero_le, show 3 ≤ b.length by omega, and_self, if_true, Nat.sub_zero,
      List.take_of_length_le hin.le, List.drop_eq_nil_of_le hin.le, hin.ne, if_false]
    split_ifs <;> rfl
  rw [serverHandleMethodSelection, if_neg (by omega)]
  simp [h₁, bind, Except.bind, pure, Except.pure]

theorem serverHandleMethodSelection_of_header (v n x : UInt8) (rest : Bytes)
    (hb : 1 + 1 + 255 ≤ b.length) (hin : rw.input = [v, n, x] ++ rest) (hvn : v ≠ version ∨ n = 0) :
    serverHandleMethodSelection rw b method = .ok ⟨{ rw with input := rest }, overwrite b 0 [v, n, x],
      (), some (if v ≠ version then .unsupportedVersion v else .zeroNMETHODS)⟩ := by
  have h₁ : readFull rw b 0 3 = .ok ({ rw with input := rest }, overwrite b 0 [v, n, x], none) :=
    readFull_of_eq (by omega) (by omega) rfl hin
  have h₀ : index (overwrite b 0 [v, n, x]) 0 = .ok v :=
    index_eq (by rw [overwrite_zero_getElem? (by simp)]; rfl)
  have hn : index (overwrite b 0 [v, n, x]) 1 = .ok n :=
    index_eq (by rw [overwrite_zero_getElem? (by simp)]; rfl)
  rw [serverHandleMethodSelection, if_neg (by omega)]
  by_cases hv : v = version
  · subst hv
    obtain rfl := hvn.resolve_left (not_not.2 rfl)
    simp [h₁, h₀, hn, switchNMethods, bind, Except.bind, pure, Except.pure]
  · simp [h₁, h₀, hv, bind, Except.bind, pure, Except.pure]

/-- Method selection as a whole: the bytes read and written and the error returned, on every
input, the single-method fast path agreeing with `bytes.IndexByte`. -/
theorem serverHandleMethodSelection_correct (rw : Conn) (b : Bytes) (method : UInt8)
    (hb : 1 + 1 + 255 ≤ b.length) :
    (∀ p, serverHandleMethodSelection rw b method ≠ .error p) ∧
    (∀ (g : Greeting) (rest : Bytes), rw.input = g.bytes ++ rest →
      ∃ r, serverHandleMethodSelection rw b method = .ok r ∧ r.rw.input = rest ∧
        r.rw.output = rw.output ++ (if rw.writeOk then
          [version, if method ∈ g.methods then method else methodNoAcceptable] else []) ∧
        r.err = if method ∈ g.methods then (if rw.writeOk then none else some .io)
          else some .noAcceptableAuthMethod) ∧
    (∀ (rw' : Conn) (b' : Bytes), 3 ≤ b'.length →
      switchNMethods rw' b' method 1 = readMethodIndex rw' b' method 1) ∧
    (∀ (v n x : UInt8) (rest : Bytes), rw.input = [v, n, x] ++ rest → v ≠ version ∨ n = 0 →
      ∃ r, serverHandleMethodSelection rw b method = .ok r ∧ r.rw.input = rest ∧
        r.rw.output = rw.output ∧
        r.err = some (if v ≠ version then .unsupportedVersion v else .zeroNMETHODS)) ∧
    (rw.input.length < 3 →
      ∃ r, serverHandleMethodSelection rw b method = .ok r ∧ r.rw.input = [] ∧
        r.rw.output = rw.output ∧ r.err = some (if rw.input = [] then .eof else .unexpectedEOF)) := by
  refine ⟨serverHandleMethodSelection_ne_error hb, fun g rest hin => ?_,
    fun _ _ h => switchNMethods_one h, fun v n x rest hin hvn =>
      ⟨_, serverHandleMethodSelection_of_header v n x rest hb hin hvn, rfl, rfl, rfl⟩,
    fun hin => ⟨_, serverHandleMethodSelection_of_short hb hin, rfl, rfl, rfl⟩⟩
  obtain ⟨input, out, w⟩ := rw
  obtain rfl : input = g.bytes ++ rest := hin
  obtain ⟨b', h⟩ := @serverHandleMethodSelection_of_greeting b method g rest out w hb
  exact ⟨_, h, rfl, rfl, rfl⟩

theorem serverHandleMethodSelection_correct_noAuth :
    1 + 1 + 255 ≤ (List.replicate 257 (0 : UInt8)).length ∧
      ∀ p, serverHandleMethodSelection ⟨[5, 1, 0], [], true⟩ (List.replicate 257 0) 0 ≠ .error p :=
  ⟨(List.length_replicate 257 0).ge, (serverHandleMethodSelection_correct ⟨[5, 1, 0], [], true⟩
    (List.replicate 257 0) 0 (List.length_replicate 257 0).ge).1⟩

theorem serverHandleMethodSelection_short_header :
    (serverHandleMethodSelection ⟨[5, 0], [], true⟩ (List.replicate 257 0) 0).map Ret.err =
      .ok (some .unexpectedEOF) ∧
    (serverHandleMethodSelection ⟨[4], [], true⟩ (List.replicate 257 0) 0).map Ret.err =
      .ok (some .unexpectedEOF) := by
  have hb : 1 + 1 + 255 ≤ (List.replicate 257 (0 : UInt8)).length :=
    (List.length_replicate 257 0).ge
  constructor
  · rw [@serverHandleMethodSelection_of_short ⟨[5, 0], [], true⟩ _ 0 hb (by decide)]; rfl
  · rw [@serverHandleMethodSelection_of_short ⟨[4], [], true⟩ _ 0 hb (by decide)]; rfl

end Accept

end Socks5
end ShadowsocksGo
