import ShadowsocksGo.Socks5.Stream

/-! # `prefixedReader`

`newPrefixedReader(b[3:5], rw)` gives the address parser `ATYP` and one address byte back before
it reads `rw` again. `io.ReadFull` runs on fuel, since a reader may return `0, nil` forever. -/

namespace ShadowsocksGo
namespace Socks5

/-- An `io.Reader` with state `σ`: `read s len` is a `Read` into a buffer of `len` bytes, giving
the next state, the bytes put at the front of the buffer, and the error. -/
structure Reader (σ : Type) where
  read : σ → ℕ → σ × Bytes × Option Error

/-- A `prefixedReader`: the bytes still to give back, and the reader behind them. -/
structure PrefixedReader (σ : Type) where
  pfx : Bytes
  r : σ
  deriving DecidableEq, Repr

def newPrefixedReader {σ : Type} (pfx : Bytes) (r : σ) : PrefixedReader σ := ⟨pfx, r⟩

/-- `(*prefixedReader).Read`: `copy(p, r.prefix)` moves `min(len(p), len(r.prefix))` bytes. -/
def PrefixedReader.read {σ : Type} (R : Reader σ) (pr : PrefixedReader σ) (len : ℕ) :
    PrefixedReader σ × Bytes × Option Error :=
  if pr.pfx.length > 0 then
    let n := min len pr.pfx.length
    ({ pr with pfx := pr.pfx.drop n }, pr.pfx.take n, none)
  else
    let (r, bs, err) := R.read pr.r len
    ({ pr with r := r }, bs, err)

def prefixedReader {σ : Type} (R : Reader σ) : Reader (PrefixedReader σ) :=
  ⟨PrefixedReader.read R⟩

def Reader.reads {σ : Type} (R : Reader σ) : σ → List ℕ → σ × List (Bytes × Option Error)
  | s, [] => (s, [])
  | s, len :: lens =>
    let (s, bs, err) := R.read s len
    let (s, outs) := R.reads s lens
    (s, (bs, err) :: outs)

def Reader.readAtLeastLoop {σ : Type} (R : Reader σ) (min : ℕ) :
    ℕ → σ → Bytes → Option Error → Option (σ × Bytes × Option Error)
  | 0, _, _, _ => none
  | fuel + 1, s, acc, err =>
    if acc.length < min ∧ err = none then
      let (s, bs, err) := R.read s (min - acc.length)
      R.readAtLeastLoop min fuel s (acc ++ bs) err
    else some (s, acc, err)

/-- `io.ReadFull(r, buf)` for `len(buf) = min`, that is `io.ReadAtLeast(r, buf, len(buf))`: no
error once `min` bytes are in, and `io.ErrUnexpectedEOF` for `io.EOF` after some bytes. -/
def Reader.readFull {σ : Type} (R : Reader σ) (fuel : ℕ) (s : σ) (min : ℕ) :
    Option (σ × Bytes × Option Error) :=
  (R.readAtLeastLoop min fuel s [] none).map fun (s, buf, err) =>
    (s, buf, if buf.length ≥ min then none
      else if buf.length > 0 ∧ err = some .eof then some .unexpectedEOF else err)

def connReader : Reader Conn where
  read rw len :=
    if 0 < len ∧ rw.input = [] then (rw, [], some .eof)
    else ({ rw with input := rw.input.drop len }, rw.input.take len, none)

section Prefixed

variable {σ : Type} (R : Reader σ)

theorem prefixedReader_read_of_ne_nil {p : Bytes} (hp : p ≠ []) (s : σ) (len : ℕ) :
    (prefixedReader R).read ⟨p, s⟩ len = (⟨p.drop len, s⟩, p.take len, none) := by
  have hn : min len p.length = len ∨ len ≥ p.length := by omega
  simp only [prefixedReader, PrefixedReader.read, List.length_pos.2 hp, if_true]
  rcases hn with h | h
  · rw [h]
  · rw [min_eq_right h, List.drop_length, List.drop_eq_nil_of_le h, List.take_length,
      List.take_of_length_le h]

theorem prefixedReader_read_nil (s : σ) (len : ℕ) :
    (prefixedReader R).read ⟨[], s⟩ len = (⟨[], (R.read s len).1⟩, (R.read s len).2) := rfl

theorem prefixedReader_reads_nil (s : σ) (lens : List ℕ) :
    (prefixedReader R).reads ⟨[], s⟩ lens = (⟨[], (R.reads s lens).1⟩, (R.reads s lens).2) := by
  induction lens generalizing s with
  | nil => rfl
  | cons len lens ih => simp only [Reader.reads, prefixedReader_read_nil, ih]

theorem prefixedReader_reads_split (p : Bytes) (s : σ) (lens : List ℕ) :
    ∃ i ≤ lens.length,
      (∀ o ∈ ((prefixedReader R).reads ⟨p, s⟩ lens).2.take i, o.2 = none) ∧
      ((((prefixedReader R).reads ⟨p, s⟩ lens).2.take i).map Prod.fst).flatten <+: p ∧
      (i < lens.length →
        ((((prefixedReader R).reads ⟨p, s⟩ lens).2.take i).map Prod.fst).flatten = p) ∧
      ((prefixedReader R).reads ⟨p, s⟩ lens).2.drop i = (R.reads s (lens.drop i)).2 ∧
      ((prefixedReader R).reads ⟨p, s⟩ lens).1.r = (R.reads s (lens.drop i)).1 := by
  induction lens generalizing p with
  | nil => exact ⟨0, le_rfl, by simp [Reader.reads]⟩
  | cons len lens ih =>
    by_cases hp : p = []
    · subst hp
      refine ⟨0, Nat.zero_le _, by simp, by simp, by simp, ?_, ?_⟩ <;>
        simp only [prefixedReader_reads_nil, List.drop_zero]
    · obtain ⟨i, hi, hnone, hpre, hall, hdrop, hr⟩ := ih (p.drop len)
      have hcons : (prefixedReader R).reads ⟨p, s⟩ (len :: lens) =
          (((prefixedReader R).reads ⟨p.drop len, s⟩ lens).1,
            (p.take len, none) :: ((prefixedReader R).reads ⟨p.drop len, s⟩ lens).2) := by
        simp only [Reader.reads, prefixedReader_read_of_ne_nil R hp]
      rw [hcons]
      refine ⟨i + 1, by simp; omega, ?_, ?_, fun h => ?_, ?_, ?_⟩ <;>
        simp only [List.take_succ_cons, List.drop_succ_cons, List.map_cons, List.flatten_cons]
      · simpa using hnone
      · simpa [List.take_append_drop] using (List.prefix_append_right_inj (p.take len)).2 hpre
      · rw [hall (by simp at h; omega), List.take_append_drop]
      · exact hdrop
      · exact hr

theorem readAtLeastLoop_prefixed_nil {min : ℕ} (q : Bytes) (hq : q.length ≤ min) (fuel : ℕ)
    (s : σ) (acc : Bytes) (err : Option Error) :
    (prefixedReader R).readAtLeastLoop min fuel ⟨[], s⟩ (q ++ acc) err =
      (R.readAtLeastLoop (min - q.length) fuel s acc err).map
        fun v => (⟨[], v.1⟩, q ++ v.2.1, v.2.2) := by
  induction fuel generalizing s acc err with
  | zero => rfl
  | succ fuel ih =>
    have hc : q.length + acc.length < min ↔ acc.length < min - q.length := by omega
    have hd : min - (q.length + acc.length) = min - q.length - acc.length := by omega
    simp only [Reader.readAtLeastLoop, List.length_append, hc, hd, prefixedReader_read_nil]
    split_ifs
    · rw [List.append_assoc, ih]
    · rfl

theorem prefixedReader_readFull_nil (fuel : ℕ) (s : σ) (min : ℕ) :
    (prefixedReader R).readFull fuel ⟨[], s⟩ min =
      (R.readFull fuel s min).map fun v => (⟨[], v.1⟩, v.2) := by
  have h := readAtLeastLoop_prefixed_nil R [] (Nat.zero_le min) fuel s [] none
  simp only [List.nil_append, List.length_nil, Nat.sub_zero] at h
  simp only [Reader.readFull, h, Option.map_map]
  rfl

theorem readFull_err_append {p bs : Bytes} {min : ℕ} {err : Option Error} (hp : p ≠ [])
    (hl : p.length < min) :
    (if (p ++ bs).length ≥ min then none
      else if (p ++ bs).length > 0 ∧ err = some .eof then some .unexpectedEOF else err) =
    let e := if bs.length ≥ min - p.length then none
      else if bs.length > 0 ∧ err = some .eof then some .unexpectedEOF else err
    if e = some .eof then some .unexpectedEOF else e := by
  have hp' : 0 < p.length := List.length_pos.2 hp
  simp only [List.length_append]
  by_cases h₁ : bs.length ≥ min - p.length
  · simp [h₁, show p.length + bs.length ≥ min by omega]
  · simp only [h₁, if_false, show ¬ p.length + bs.length ≥ min by omega,
      show p.length + bs.length > 0 by omega, true_and]
    by_cases h₂ : err = some .eof
    · cases bs <;> simp [h₂]
    · simp [h₂]

theorem prefixedReader_readFull {p : Bytes} (hp : p ≠ []) (fuel : ℕ) (s : σ) (min : ℕ) :
    (prefixedReader R).readFull (fuel + 2) ⟨p, s⟩ min =
      if min ≤ p.length then some (⟨p.drop min, s⟩, p.take min, none)
      else (R.readFull (fuel + 1) s (min - p.length)).map fun v =>
        (⟨[], v.1⟩, p ++ v.2.1, if v.2.2 = some .eof then some .unexpectedEOF else v.2.2) := by
  rcases Nat.eq_zero_or_pos min with rfl | hm
  · simp [Reader.readFull, Reader.readAtLeastLoop]
  have h₁ : (prefixedReader R).readAtLeastLoop min (fuel + 2) ⟨p, s⟩ [] none =
      (prefixedReader R).readAtLeastLoop min (fuel + 1) ⟨p.drop min, s⟩ (p.take min) none := by
    rw [Reader.readAtLeastLoop]
    simp only [List.length_nil, hm, and_self, if_true, Nat.sub_zero,
      prefixedReader_read_of_ne_nil R hp, List.nil_append]
  rw [Reader.readFull, h₁]
  by_cases hle : min ≤ p.length
  · simp [Reader.readAtLeastLoop, hle]
  · have hlt : p.length < min := by omega
    rw [if_neg hle, List.drop_eq_nil_of_le hlt.le, List.take_of_length_le hlt.le]
    have h := readAtLeastLoop_prefixed_nil R p hlt.le (fuel + 1) s [] none
    rw [List.append_nil] at h
    rw [h, Reader.readFull, Option.map_map, Option.map_map]
    congr 1
    funext v
    simp only [Function.comp, Prod.mk.injEq, true_and]
    exact readFull_err_append hp hlt

end Prefixed

theorem connReader_readFull (fuel : ℕ) (rw : Conn) (min : ℕ) :
    connReader.readFull (fuel + 3) rw min = some ({ rw with input := rw.input.drop min },
      rw.input.take min, if (rw.input.take min).length = min then none
        else if rw.input.take min = [] then some .eof else some .unexpectedEOF) := by
  rcases Nat.eq_zero_or_pos min with rfl | hm
  · simp [Reader.readFull, Reader.readAtLeastLoop]
  obtain ⟨input, out, w⟩ := rw
  by_cases hne' : input = []
  · subst hne'
    simp [Reader.readFull, Reader.readAtLeastLoop, connReader, hm, hm.ne, hm.ne']
  by_cases hlen : min ≤ input.length
  · simp [Reader.readFull, Reader.readAtLeastLoop, connReader, hm, hne', hlen]
  · have hlt : input.length < min := by omega
    simp [Reader.readFull, Reader.readAtLeastLoop, connReader, hm, hne', hlt,
      List.take_of_length_le hlt.le, List.drop_eq_nil_of_le hlt.le, List.length_pos.2 hne',
      Nat.sub_pos_of_lt hlt, hlt.ne]

theorem readFull_eq_connReader_readFull (fuel : ℕ) (rw : Conn) {b : Bytes} {lo hi : ℕ}
    (hl : lo ≤ hi) (hb : hi ≤ b.length) :
    ∃ v, connReader.readFull (fuel + 3) rw (hi - lo) = some v ∧
      readFull rw b lo hi = .ok (v.1, overwrite b lo v.2.1, v.2.2) :=
  ⟨_, connReader_readFull fuel rw (hi - lo), by simp [readFull, hl, hb]⟩

theorem connReader_readFull_err_eq_none_iff (input : Bytes) (min : ℕ) :
    (if (input.take min).length = min then none
      else if input.take min = [] then some Error.eof else some .unexpectedEOF) = none ↔
      min ≤ input.length := by
  by_cases hr : min ≤ input.length
  · simp [List.length_take_of_le hr, hr]
  · rw [List.take_of_length_le (by omega)]
    simp only [show input.length ≠ min by omega, if_false, hr, iff_false]
    split_ifs <;> simp

theorem prefixedReader_connReader_readFull (fuel : ℕ) (p : Bytes) (rw : Conn) (min : ℕ) :
    ∃ v, (prefixedReader connReader).readFull (fuel + 5) ⟨p, rw⟩ min = some v ∧
      v.2.1 = (p ++ rw.input).take min ∧ (v.2.2 = none ↔ min ≤ p.length + rw.input.length) := by
  by_cases hp : p = []
  · subst hp
    rw [prefixedReader_readFull_nil, connReader_readFull (fuel + 2)]
    exact ⟨_, rfl, rfl, by simpa using connReader_readFull_err_eq_none_iff rw.input min⟩
  rw [prefixedReader_readFull connReader hp (fuel + 3)]
  split_ifs with hle
  · exact ⟨_, rfl, (List.take_append_of_le_length hle).symm, by simp; omega⟩
  · rw [connReader_readFull (fuel + 1)]
    have hlt : p.length < min := by omega
    have heof : ∀ e : Option Error,
        (if e = some .eof then some .unexpectedEOF else e) = none ↔ e = none := by
      intro e; split_ifs with he <;> simp [he]
    refine ⟨_, rfl, ?_, ?_⟩
    · simp [List.take_append_eq_append_take, List.take_of_length_le hlt.le]
    · rw [heof, connReader_readFull_err_eq_none_iff]; omega

/-- `newPrefixedReader(p, r)` returns bytes of `p` until they are spent and then `r`'s, and
`io.ReadFull` on it reads `p` followed by `r`. -/
theorem prefixedReader_correct {σ : Type} (R : Reader σ) (p : Bytes) (s : σ) :
    (p ≠ [] → ∀ len, (prefixedReader R).read (newPrefixedReader p s) len =
      (newPrefixedReader (p.drop len) s, p.take len, none) ∧
        (p.take len).length = min len p.length) ∧
    (∀ len, (prefixedReader R).read (newPrefixedReader [] s) len =
      (newPrefixedReader [] (R.read s len).1, (R.read s len).2)) ∧
    (∀ lens, ∃ i ≤ lens.length,
      let outs := ((prefixedReader R).reads (newPrefixedReader p s) lens).2
      (∀ o ∈ outs.take i, o.2 = none) ∧ ((outs.take i).map Prod.fst).flatten <+: p ∧
      (i < lens.length → ((outs.take i).map Prod.fst).flatten = p) ∧
      outs.drop i = (R.reads s (lens.drop i)).2 ∧
      ((prefixedReader R).reads (newPrefixedReader p s) lens).1.r = (R.reads s (lens.drop i)).1 ∧
      (outs.map Prod.fst).flatten = ((outs.take i).map Prod.fst).flatten ++
        ((R.reads s (lens.drop i)).2.map Prod.fst).flatten) ∧
    (∀ fuel min, (prefixedReader R).readFull (fuel + 2) (newPrefixedReader p s) min =
      if p = [] then (R.readFull (fuel + 2) s min).map fun v => (⟨[], v.1⟩, v.2)
      else if min ≤ p.length then some (⟨p.drop min, s⟩, p.take min, none)
      else (R.readFull (fuel + 1) s (min - p.length)).map fun v =>
        (⟨[], v.1⟩, p ++ v.2.1, if v.2.2 = some .eof then some .unexpectedEOF else v.2.2)) ∧
    (∀ fuel min (rw : Conn), ∃ v,
      (prefixedReader connReader).readFull (fuel + 5) (newPrefixedReader p rw) min = some v ∧
        v.2.1 = (p ++ rw.input).take min ∧ (v.2.2 = none ↔ min ≤ p.length + rw.input.length)) := by
  refine ⟨fun hp len => ⟨prefixedReader_read_of_ne_nil R hp s len, List.length_take _ _⟩,
    prefixedReader_read_nil R s, fun lens => ?_, fun fuel min => ?_,
    fun fuel min rw => prefixedReader_connReader_readFull fuel p rw min⟩
  · obtain ⟨i, hi, hnone, hpre, hall, hdrop, hr⟩ := prefixedReader_reads_split R p s lens
    dsimp only [newPrefixedReader]
    refine ⟨i, hi, hnone, hpre, hall, hdrop, hr, ?_⟩
    rw [← hdrop, ← List.flatten_append, ← List.map_append, List.take_append_drop]
  · split_ifs with hp
    · subst hp; exact prefixedReader_readFull_nil R (fuel + 2) s min
    · rw [newPrefixedReader, prefixedReader_readFull R hp, if_pos ‹_›]
    · rw [newPrefixedReader, prefixedReader_readFull R hp, if_neg ‹_›]

theorem prefixedReader_reads_one_byte :
    (prefixedReader connReader).reads (newPrefixedReader [1, 2] ⟨[3], [], true⟩) [1] =
      (newPrefixedReader [2] ⟨[3], [], true⟩, [([1], none)]) := by
  decide

end Socks5
end ShadowsocksGo
