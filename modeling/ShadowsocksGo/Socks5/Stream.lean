import Mathlib.Data.List.Basic

/-! The bytestream and scratch-buffer primitives the SOCKS5 handshake code uses.
A read consumes a prefix of the peer's remaining bytes; every slice and index
expression of the source is bounds-checked, and an out-of-range one is a Go panic. -/
namespace ShadowsocksGo
namespace Socks5

abbrev Bytes := List UInt8

/-- The peer of a handshake: the bytes it has yet to deliver (then EOF), the bytes
written to it so far, and whether its writes succeed. -/
structure Conn where
  input : Bytes
  output : Bytes
  writeOk : Bool
  deriving DecidableEq, Repr

/-- The error values the modelled handshake functions return. -/
inductive Error
  | eof
  | unexpectedEOF
  | io
  | unsupportedVersion (v : UInt8)
  | zeroNMETHODS
  | noAcceptableAuthMethod
  | unsupportedUsernamePasswordAuthVersion (v : UInt8)
  | usernameLengthOutOfRange
  | passwordLengthOutOfRange
  | incorrectUsernamePassword
  | zeroULEN
  | zeroPLEN
  deriving DecidableEq, Repr

/-- A Go runtime panic: an explicit `panic("...: buffer too small")`, or a slice or
index expression out of range. -/
inductive Panic
  | bufferTooSmall
  | outOfRange
  deriving DecidableEq, Repr

/-- What a handshake procedure leaves behind: the peer, the scratch buffer, and its
Go return values (a value and an error). -/
structure Ret (α : Type) where
  rw : Conn
  b : Bytes
  val : α
  err : Option Error

def overwrite (b : Bytes) (lo : ℕ) (xs : Bytes) : Bytes :=
  b.take lo ++ xs ++ b.drop (lo + xs.length)

@[simp] theorem overwrite_length {b : Bytes} {lo : ℕ} {xs : Bytes} (h : lo + xs.length ≤ b.length) :
    (overwrite b lo xs).length = b.length := by
  simp [overwrite]; omega

theorem overwrite_getElem?_of_lt {b : Bytes} {lo : ℕ} {xs : Bytes} {i : ℕ} (hl : lo ≤ b.length)
    (hi : i < lo) : (overwrite b lo xs)[i]? = b[i]? := by
  rw [overwrite, List.append_assoc, List.getElem?_append_left (by simp; omega),
    List.getElem?_take_of_lt hi]

theorem overwrite_getElem?_mid {b : Bytes} {lo : ℕ} {xs : Bytes} {i : ℕ} (hl : lo ≤ b.length)
    (h₁ : lo ≤ i) (h₂ : i < lo + xs.length) : (overwrite b lo xs)[i]? = xs[i - lo]? := by
  have ht : (b.take lo).length = lo := by simp; omega
  rw [overwrite, List.append_assoc, List.getElem?_append_right (by omega), ht,
    List.getElem?_append_left (by omega)]

theorem length_overwrite (b : Bytes) (lo : ℕ) (xs : Bytes) :
    (overwrite b lo xs).length = min lo b.length + xs.length + (b.length - (lo + xs.length)) := by
  simp [overwrite]; omega

theorem overwrite_zero (b xs : Bytes) : overwrite b 0 xs = xs ++ b.drop xs.length := by
  simp [overwrite]

theorem overwrite_nil {b : Bytes} {lo : ℕ} : overwrite b lo [] = b := by
  simp [overwrite, List.take_append_drop]

theorem overwrite_append_drop {pre xs b : Bytes} {lo : ℕ} (h : pre.length = lo) :
    overwrite (pre ++ b.drop lo) lo xs = pre ++ xs ++ b.drop (lo + xs.length) := by
  subst h
  simp [overwrite, List.drop_append_eq_append_drop, List.drop_drop, Nat.add_comm]

theorem overwrite_drop_take {c xs : Bytes} {lo : ℕ} (h : lo ≤ c.length) :
    ((overwrite c lo xs).drop lo).take xs.length = xs := by
  have : (c.take lo).length = lo := by simp; omega
  simp [overwrite, List.drop_append_eq_append_drop, this]

theorem overwrite_zero_getElem? {b xs : Bytes} {i : ℕ} (hi : i < xs.length) :
    (overwrite b 0 xs)[i]? = xs[i]? := by
  rw [overwrite_zero, List.getElem?_append_left hi]

theorem overwrite_zero_drop_take {b xs : Bytes} {lo n : ℕ} (h : lo + n ≤ xs.length) :
    ((overwrite b 0 xs).drop lo).take n = (xs.drop lo).take n := by
  rw [overwrite_zero, List.drop_append_of_le_length (by omega),
    List.take_append_of_le_length (by simp; omega)]

theorem overwrite_overwrite {b xs ys : Bytes} :
    overwrite (overwrite b 0 xs) xs.length ys = overwrite b 0 (xs ++ ys) := by
  simp only [overwrite, List.take_zero, List.nil_append, Nat.zero_add, List.length_append]
  rw [List.take_append_of_le_length (by simp), List.take_length, List.drop_append_eq_append_drop]
  simp [List.drop_drop, Nat.add_comm]

/-- `io.ReadFull(rw, b[lo:hi])`: the bytes read land in `b` from `lo` on; a stream that
ends first gives `io.EOF` when nothing was read and `io.ErrUnexpectedEOF` otherwise. -/
def readFull (rw : Conn) (b : Bytes) (lo hi : ℕ) : Except Panic (Conn × Bytes × Option Error) :=
  if lo ≤ hi ∧ hi ≤ b.length then
    let xs := rw.input.take (hi - lo)
    .ok ({ rw with input := rw.input.drop (hi - lo) }, overwrite b lo xs,
      if xs.length = hi - lo then none else if xs = [] then some .eof else some .unexpectedEOF)
  else .error .outOfRange

/-- `b[i]`. -/
def index (b : Bytes) (i : ℕ) : Except Panic UInt8 :=
  match b[i]? with
  | some v => .ok v
  | none => .error .outOfRange

def slice (b : Bytes) (lo hi : ℕ) : Except Panic Bytes :=
  if lo ≤ hi ∧ hi ≤ b.length then .ok ((b.drop lo).take (hi - lo)) else .error .outOfRange

def setIndex (b : Bytes) (i : ℕ) (v : UInt8) : Except Panic Bytes :=
  if i < b.length then .ok (b.set i v) else .error .outOfRange

/-- `rw.Write(b[lo:hi])`: the error it returns, if any. -/
def write (rw : Conn) (b : Bytes) (lo hi : ℕ) : Except Panic (Conn × Option Error) := do
  let xs ← slice b lo hi
  return if rw.writeOk then ({ rw with output := rw.output ++ xs }, none) else (rw, some .io)

theorem bind_eq_ok {α β ε : Type} {x : Except ε α} {f : α → Except ε β} {r : β} :
    x >>= f = .ok r ↔ ∃ a, x = .ok a ∧ f a = .ok r := by
  cases x <;> simp [bind, Except.bind]

theorem readFull_of_eq {rw : Conn} {b : Bytes} {lo hi : ℕ} {xs rest : Bytes}
    (hb : hi ≤ b.length) (hl : lo ≤ hi) (hx : xs.length = hi - lo) (h : rw.input = xs ++ rest) :
    readFull rw b lo hi = .ok ({ rw with input := rest }, overwrite b lo xs, none) := by
  simp [readFull, hb, hl, h, ← hx]

theorem readFull_eq_ok {rw : Conn} {b : Bytes} {lo hi : ℕ} {v : Conn × Bytes × Option Error}
    (h : readFull rw b lo hi = .ok v) (hn : ∀ e, v.2.2 = some e → False) :
    lo ≤ hi ∧ hi ≤ b.length ∧ ∃ xs, xs.length = hi - lo ∧ rw.input = xs ++ v.1.input ∧
      v.2.1 = overwrite b lo xs ∧ v.1.output = rw.output ∧ v.1.writeOk = rw.writeOk := by
  unfold readFull at h
  split_ifs at h with hb
  cases h
  refine ⟨hb.1, hb.2, _, ?_, (List.take_append_drop _ _).symm, rfl, rfl, rfl⟩
  by_contra hx
  simp only [hx, if_false] at hn
  split_ifs at hn <;> exact hn _ rfl

theorem readFull_isOk (rw : Conn) (b : Bytes) (lo hi : ℕ) (hl : lo ≤ hi) (hb : hi ≤ b.length) :
    ∃ v, readFull rw b lo hi = .ok v :=
  ⟨_, if_pos ⟨hl, hb⟩⟩

theorem readFull_eq_error {rw : Conn} {b : Bytes} {lo hi : ℕ} {p : Panic}
    (h : readFull rw b lo hi = .error p) : ¬ (lo ≤ hi ∧ hi ≤ b.length) := by
  unfold readFull at h; split_ifs at h with hb; exact hb

theorem readFull_length {rw : Conn} {b : Bytes} {lo hi : ℕ} {v : Conn × Bytes × Option Error}
    (h : readFull rw b lo hi = .ok v) : v.2.1.length = b.length := by
  unfold readFull at h
  split_ifs at h with hb
  cases h
  simp [length_overwrite]; omega

theorem index_eq {b : Bytes} {i : ℕ} {v : UInt8} (h : b[i]? = some v) : index b i = .ok v := by
  simp [index, h]

theorem index_isOk {b : Bytes} {i : ℕ} (h : i < b.length) : ∃ v, index b i = .ok v :=
  ⟨_, index_eq (List.getElem?_eq_getElem h)⟩

theorem index_eq_ok {b : Bytes} {i : ℕ} {v : UInt8} (h : index b i = .ok v) : b[i]? = some v := by
  unfold index at h; split at h <;> simp_all

theorem index_eq_error {b : Bytes} {i : ℕ} {p : Panic} (h : index b i = .error p) : b.length ≤ i := by
  unfold index at h; split at h <;> simp_all

theorem slice_of_le {b : Bytes} {lo hi : ℕ} (hl : lo ≤ hi) (hb : hi ≤ b.length) :
    slice b lo hi = .ok ((b.drop lo).take (hi - lo)) := by
  simp [slice, hl, hb]

theorem slice_eq_ok {b xs : Bytes} {lo hi : ℕ} (h : slice b lo hi = .ok xs) :
    lo ≤ hi ∧ hi ≤ b.length ∧ xs = (b.drop lo).take (hi - lo) := by
  unfold slice at h
  split_ifs at h with hb
  simp_all

theorem slice_eq_error {b : Bytes} {lo hi : ℕ} {p : Panic} (h : slice b lo hi = .error p) :
    ¬ (lo ≤ hi ∧ hi ≤ b.length) := by
  unfold slice at h; split_ifs at h with hb; exact hb

theorem setIndex_of_lt {b : Bytes} {i : ℕ} {v : UInt8} (h : i < b.length) :
    setIndex b i v = .ok (b.set i v) := by
  simp [setIndex, h]

theorem setIndex_eq_error {b : Bytes} {i : ℕ} {v : UInt8} {p : Panic}
    (h : setIndex b i v = .error p) : b.length ≤ i := by
  unfold setIndex at h; split_ifs at h with hb; omega

theorem setIndex_length {b b' : Bytes} {i : ℕ} {v : UInt8} (h : setIndex b i v = .ok b') :
    b'.length = b.length := by
  unfold setIndex at h; split_ifs at h; cases h; simp

theorem write_of_le {rw : Conn} {b : Bytes} {lo hi : ℕ} (hl : lo ≤ hi) (hb : hi ≤ b.length) :
    write rw b lo hi = .ok (if rw.writeOk then
      ({ rw with output := rw.output ++ (b.drop lo).take (hi - lo) }, none) else (rw, some .io)) := by
  simp [write, slice_of_le hl hb, bind, Except.bind, pure, Except.pure]

theorem write_eq_error {rw : Conn} {b : Bytes} {lo hi : ℕ} {p : Panic}
    (h : write rw b lo hi = .error p) : ¬ (lo ≤ hi ∧ hi ≤ b.length) := by
  intro hb; rw [write_of_le hb.1 hb.2] at h; cases h

theorem write_writeOk {rw : Conn} {b : Bytes} {lo hi : ℕ} {v : Conn × Option Error}
    (h : write rw b lo hi = .ok v) (he : v.2 = none) : rw.writeOk = true := by
  by_cases hb : lo ≤ hi ∧ hi ≤ b.length
  · rw [write_of_le hb.1 hb.2] at h
    cases hw : rw.writeOk
    · simp only [hw, Bool.false_eq_true, if_false, Except.ok.injEq] at h; subst h; simp at he
    · rfl
  · simp [write, slice, hb, bind, Except.bind] at h

end Socks5
end ShadowsocksGo
