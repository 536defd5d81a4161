import ShadowsocksGo.Socks5.Stream

/-! RFC 1929 username/password authentication, both halves.
The server reads PASSWD into the bytes that held UNAME; the credentials entry is
resolved before that read, so the comparison is against the entry, not the buffer. -/
namespace ShadowsocksGo
namespace Socks5

def usernamePasswordAuthVersion : UInt8 := 1

/-- A username/password pair; Go strings are byte strings. -/
structure UserInfo where
  username : Bytes
  password : Bytes
  deriving DecidableEq, Repr

def UserInfo.validate (u : UserInfo) : Option Error :=
  if u.username.length = 0 ∨ u.username.length > 255 then some .usernameLengthOutOfRange
  else if u.password.length = 0 ∨ u.password.length > 255 then some .passwordLengthOutOfRange
  else none

def UserInfo.authMsgLength (u : UserInfo) : ℕ :=
  1 + 1 + u.username.length + 1 + u.password.length

/-- `byte(len(...))` truncates a length to its low 8 bits. -/
def UserInfo.appendAuthMsg (u : UserInfo) (b : Bytes) : Bytes :=
  b ++ [usernamePasswordAuthVersion, UInt8.ofNat u.username.length] ++ u.username ++
    [UInt8.ofNat u.password.length] ++ u.password

/-- A well-formed RFC 1929 request: VER 1, then UNAME and PASSWD, each 1 to 255 bytes
behind its length byte. -/
structure AuthRequest where
  uname : Bytes
  passwd : Bytes
  uname_pos : 0 < uname.length
  uname_le : uname.length ≤ 255
  passwd_pos : 0 < passwd.length
  passwd_le : passwd.length ≤ 255

def AuthRequest.bytes (m : AuthRequest) : Bytes :=
  [usernamePasswordAuthVersion, UInt8.ofNat m.uname.length] ++ m.uname ++
    [UInt8.ofNat m.passwd.length] ++ m.passwd

def authStatus (users : Bytes → Option UserInfo) (m : AuthRequest) : UInt8 :=
  match users m.uname with
  | some u => if m.passwd = u.password then 0 else 1
  | none => 1

theorem authStatus_eq_zero_iff {users : Bytes → Option UserInfo} {m : AuthRequest} :
    authStatus users m = 0 ↔ ∃ u, users m.uname = some u ∧ m.passwd = u.password := by
  unfold authStatus; split <;> simp_all [eq_comm (a := (0 : UInt8))]

theorem authStatus_of_ne_zero {users : Bytes → Option UserInfo} {m : AuthRequest}
    (h : authStatus users m ≠ 0) : authStatus users m = 1 := by
  unfold authStatus at *; split <;> simp_all

/-- `serverHandleUsernamePassword`: `len(b)` must be at least `1+1+255+1`. -/
def serverHandleUsernamePassword (rw : Conn) (b : Bytes)
    (userInfoByUsername : Bytes → Option UserInfo) : Except Panic (Ret Bytes) := do
  if b.length < 1+1+255+1 then throw .bufferTooSmall
  let (rw, b, e) ← readFull rw b 0 4
  if let some e := e then return ⟨rw, b, [], some e⟩
  let ver ← index b 0
  if ver ≠ usernamePasswordAuthVersion then
    return ⟨rw, b, [], some (.unsupportedUsernamePasswordAuthVersion ver)⟩
  let ulen := (← index b 1).toNat
  if ulen = 0 then return ⟨rw, b, [], some .zeroULEN⟩
  let (rw, b, e) ← (if ulen > 1 then readFull rw b 4 (4+ulen-1) else pure (rw, b, none))
  if let some e := e then return ⟨rw, b, [], some e⟩
  let plenIndex := 2 + ulen
  let uname ← slice b 2 plenIndex
  let userInfo? := userInfoByUsername uname
  let plen := (← index b plenIndex).toNat
  if plen = 0 then return ⟨rw, b, [], some .zeroPLEN⟩
  -- Read PASSWD, overwriting UNAME.
  let (rw, b, e) ← readFull rw b 2 (2+plen)
  if let some e := e then return ⟨rw, b, [], some e⟩
  let passwd ← slice b 2 (2+plen)
  let userInfo := userInfo?.getD ⟨[], []⟩
  let status : UInt8 := if userInfo?.isNone || passwd != userInfo.password then 1 else 0
  let b ← setIndex b 1 status
  let (rw, e) ← write rw b 0 2
  if status ≠ 0 then return ⟨rw, b, [], some .incorrectUsernamePassword⟩
  return ⟨rw, b, userInfo.username, e⟩

/-- `clientDoUsernamePasswordAuth`: `len(b)` must be at least 2. -/
def clientDoUsernamePasswordAuth (rw : Conn) (b authMsg : Bytes) : Except Panic (Ret Unit) := do
  if b.length < 2 then throw .bufferTooSmall
  if !rw.writeOk then return ⟨rw, b, (), some .io⟩
  let rw := { rw with output := rw.output ++ authMsg }
  let (rw, b, e) ← readFull rw b 0 2
  if let some e := e then return ⟨rw, b, (), some e⟩
  let ver ← index b 0
  if ver ≠ usernamePasswordAuthVersion then
    return ⟨rw, b, (), some (.unsupportedUsernamePasswordAuthVersion ver)⟩
  if (← index b 1) ≠ 0 then return ⟨rw, b, (), some .incorrectUsernamePassword⟩
  return ⟨rw, b, (), none⟩

section ReadRest

variable {rw : Conn} {b : Bytes} {ulen : ℕ} {v : Conn × Bytes × Option Error}

theorem readRest_length
    (h : (if ulen > 1 then readFull rw b 4 (4 + ulen - 1) else .ok (rw, b, none)) = .ok v) :
    v.2.1.length = b.length := by
  split_ifs at h
  · exact readFull_length h
  · cases h; rfl

theorem readRest_eq_ok
    (h : (if ulen > 1 then readFull rw b 4 (4 + ulen - 1) else .ok (rw, b, none)) = .ok v)
    (hn : ∀ e, v.2.2 = some e → False) (hb : 4 ≤ b.length) :
    3 + ulen ≤ b.length ∧ ∃ y : Bytes, y.length = ulen - 1 ∧ rw.input = y ++ v.1.input ∧
      v.2.1 = overwrite b 4 y ∧ v.1.output = rw.output ∧ v.1.writeOk = rw.writeOk := by
  split_ifs at h with hg
  · obtain ⟨-, hb', y, hy, h'⟩ := readFull_eq_ok h hn
    exact ⟨by omega, y, by omega, h'⟩
  · cases h
    exact ⟨by omega, [], by simp; omega, by simp, overwrite_nil.symm, rfl, rfl⟩

end ReadRest

theorem serverHandleUsernamePassword_steps (rw : Conn) (b : Bytes)
    (hb : 1 + 1 + 255 + 1 ≤ b.length) :
    ∃ rw₁ b₁ e₁ v u rw₂ b₂ e₂ pl rw₃ b₃ e₃,
      readFull rw b 0 4 = .ok (rw₁, b₁, e₁) ∧
      index b₁ 0 = .ok v ∧ index b₁ 1 = .ok u ∧
      (if u.toNat > 1 then readFull rw₁ b₁ 4 (4 + u.toNat - 1) else .ok (rw₁, b₁, none)) =
        .ok (rw₂, b₂, e₂) ∧
      slice b₂ 2 (2 + u.toNat) = .ok ((b₂.drop 2).take u.toNat) ∧
      index b₂ (2 + u.toNat) = .ok pl ∧
      readFull rw₂ b₂ 2 (2 + pl.toNat) = .ok (rw₃, b₃, e₃) ∧
      slice b₃ 2 (2 + pl.toNat) = .ok ((b₃.drop 2).take pl.toNat) ∧
      (∀ c, setIndex b₃ 1 c = .ok (b₃.set 1 c)) ∧
      ∀ c rw', write rw' (b₃.set 1 c) 0 2 = .ok (if rw'.writeOk then
        ({ rw' with output := rw'.output ++ (b₃.set 1 c).take 2 }, none)
        else (rw', some .io)) := by
  obtain ⟨⟨rw₁, b₁, e₁⟩, h₁⟩ := readFull_isOk rw b 0 4 (by omega) (by omega)
  have hl₁ : b₁.length = b.length := readFull_length h₁
  obtain ⟨v, hv⟩ := index_isOk (b := b₁) (i := 0) (by omega)
  obtain ⟨u, hu⟩ := index_isOk (b := b₁) (i := 1) (by omega)
  have hu8 : u.toNat < 256 := u.toNat_lt_size
  obtain ⟨⟨rw₂, b₂, e₂⟩, h₂⟩ : ∃ v,
      (if u.toNat > 1 then readFull rw₁ b₁ 4 (4 + u.toNat - 1) else .ok (rw₁, b₁, none)) =
        Except.ok v := by
    split_ifs
    · exact readFull_isOk rw₁ b₁ 4 _ (by omega) (by omega)
    · exact ⟨_, rfl⟩
  have hl₂ : b₂.length = b.length := (readRest_length h₂).trans hl₁
  obtain ⟨pl, hpl⟩ := index_isOk (b := b₂) (i := 2 + u.toNat) (by omega)
  have hp8 : pl.toNat < 256 := pl.toNat_lt_size
  obtain ⟨⟨rw₃, b₃, e₃⟩, h₃⟩ :=
    readFull_isOk rw₂ b₂ 2 (2 + pl.toNat) (by omega) (by omega)
  have hl₃ : b₃.length = b.length := (readFull_length h₃).trans hl₂
  refine ⟨rw₁, b₁, e₁, v, u, rw₂, b₂, e₂, pl, rw₃, b₃, e₃, h₁, hv, hu, h₂, ?_, hpl, h₃,
    ?_, fun c => setIndex_of_lt (by omega), fun c rw' => ?_⟩
  · rw [slice_of_le (by omega) (by omega), Nat.add_sub_cancel_left]
  · rw [slice_of_le (by omega) (by omega), Nat.add_sub_cancel_left]
  · rw [write_of_le (by omega) (by simp; omega)]; rfl

theorem serverHandleUsernamePassword_ne_error (rw : Conn) (b : Bytes)
    (users : Bytes → Option UserInfo) (hb : 1 + 1 + 255 + 1 ≤ b.length) (p : Panic) :
    serverHandleUsernamePassword rw b users ≠ .error p := by
  obtain ⟨rw₁, b₁, e₁, v, u, rw₂, b₂, e₂, pl, rw₃, b₃, e₃, h₁, hv, hu, h₂, hun, hpl, h₃, hpw,
    hs, hw⟩ := serverHandleUsernamePassword_steps rw b hb
  intro h
  simp only [serverHandleUsernamePassword, show ¬ b.length < 258 by omega, if_false, h₁, hv, hu,
    h₂, hun, hpl, h₃, hpw, hs, hw, bind, Except.bind, pure, Except.pure] at h
  revert h
  cases e₁ <;> cases e₂ <;> cases e₃ <;> simp [ite_eq_iff]

theorem serverHandleUsernamePassword_of_request (m : AuthRequest) (rest out : Bytes) (w : Bool)
    (b : Bytes) (hb : 1 + 1 + 255 + 1 ≤ b.length) (users : Bytes → Option UserInfo) :
    ∃ b', serverHandleUsernamePassword ⟨m.bytes ++ rest, out, w⟩ b users =
      .ok ⟨⟨rest, out ++ (if w then [1, authStatus users m] else []), w⟩, b',
        if authStatus users m = 0 then ((users m.uname).getD ⟨[], []⟩).username else [],
        if authStatus users m ≠ 0 then some .incorrectUsernamePassword
        else if w then none else some .io⟩ := by
  have hu := m.uname_le; have hu' := m.uname_pos; have hp := m.passwd_le; have hp' := m.passwd_pos
  have hu8 : (UInt8.ofNat m.uname.length).toNat = m.uname.length :=
    UInt8.toNat_ofNat_of_lt (by simp [UInt8.size]; omega)
  have hp8 : (UInt8.ofNat m.passwd.length).toNat = m.passwd.length :=
    UInt8.toNat_ofNat_of_lt (by simp [UInt8.size]; omega)
  obtain ⟨P, hP⟩ : ∃ P : Bytes,
      P = [1, UInt8.ofNat m.uname.length] ++ m.uname ++ [UInt8.ofNat m.passwd.length] := ⟨_, rfl⟩
  have hbytes : m.bytes ++ rest = P.take 4 ++ (P.drop 4 ++ m.passwd ++ rest) := by
    simp [hP, AuthRequest.bytes, usernamePasswordAuthVersion, ← List.append_assoc]
  have hPl : P.length = 3 + m.uname.length := by simp [hP]; omega
  have h4 : (P.take 4).length = 4 := by simp; omega
  have h1 : readFull ⟨m.bytes ++ rest, out, w⟩ b 0 4 =
      .ok (⟨P.drop 4 ++ m.passwd ++ rest, out, w⟩, P.take 4 ++ b.drop 4, none) := by
    rw [readFull_of_eq (by omega) (by omega) (by simp; omega) hbytes, overwrite_zero, h4]
  have hv : index (P.take 4 ++ b.drop 4) 0 = .ok 1 := index_eq (by simp [hP])
  have hl : index (P.take 4 ++ b.drop 4) 1 = .ok (UInt8.ofNat m.uname.length) :=
    index_eq (by simp [hP])
  have h2 : (if m.uname.length > 1 then
        readFull ⟨P.drop 4 ++ m.passwd ++ rest, out, w⟩ (P.take 4 ++ b.drop 4) 4
          (4 + m.uname.length - 1)
      else .ok (⟨P.drop 4 ++ m.passwd ++ rest, out, w⟩, P.take 4 ++ b.drop 4, none)) =
      Except.ok (⟨m.passwd ++ rest, out, w⟩, P ++ b.drop P.length, none) := by
    split_ifs with hgt
    · have hlen : 4 + m.uname.length - 1 ≤ (P.take 4 ++ b.drop 4).length := by simp; omega
      have hx : (P.drop 4).length = 4 + m.uname.length - 1 - 4 := by simp; omega
      rw [@readFull_of_eq _ _ 4 _ _ _ hlen (by omega) hx (List.append_assoc _ _ _),
        overwrite_append_drop h4, List.take_append_drop, hx, hPl]
      congr 5; omega
    · have : P.take 4 = P := List.take_of_length_le (by omega)
      have h' : P.drop 4 = [] := by simp; omega
      simp [this, h', hPl, show m.uname.length = 1 by omega]
  have hb2 : (P ++ b.drop P.length).length = b.length := by simp; omega
  have hs : slice (P ++ b.drop P.length) 2 (2 + m.uname.length) = .ok m.uname := by
    rw [slice_of_le (by omega) (by omega)]; simp [hP]
  have hpl : index (P ++ b.drop P.length) (2 + m.uname.length) =
      .ok (UInt8.ofNat m.passwd.length) := by
    rw [Nat.add_comm]; apply index_eq; rw [List.getElem?_append_left (by omega)]; simp [hP]
  have h3 : readFull ⟨m.passwd ++ rest, out, w⟩ (P ++ b.drop P.length) 2 (2 + m.passwd.length) =
      .ok (⟨rest, out, w⟩, overwrite (P ++ b.drop P.length) 2 m.passwd, none) := by
    exact readFull_of_eq (by omega) (by omega) (by omega) rfl
  have hb3 : (overwrite (P ++ b.drop P.length) 2 m.passwd).length = b.length := by
    rw [overwrite_length (by omega), hb2]
  have hs2 : slice (overwrite (P ++ b.drop P.length) 2 m.passwd) 2 (2 + m.passwd.length) =
      .ok m.passwd := by
    rw [slice_of_le (by omega) (by omega), Nat.add_sub_cancel_left, overwrite_drop_take (by omega)]
  have hw : ∀ st : UInt8,
      write ⟨rest, out, w⟩ ((overwrite (P ++ b.drop P.length) 2 m.passwd).set 1 st) 0 2 =
      .ok (if w then (⟨rest, out ++ [1, st], w⟩, none) else (⟨rest, out, w⟩, some .io)) := by
    intro st
    rw [write_of_le (by omega) (by simp; omega)]
    simp [overwrite, hP]
  refine ⟨(overwrite (P ++ b.drop P.length) 2 m.passwd).set 1 (authStatus users m), ?_⟩
  simp only [serverHandleUsernamePassword, bind, Except.bind, pure, Except.pure, h1, hv, hl,
    usernamePasswordAuthVersion, show ¬ b.length < 1 + 1 + 255 + 1 by omega, if_false, ne_eq,
    not_true_eq_false, hu8, show m.uname.length ≠ 0 by omega]
  have hset := fun st => setIndex_of_lt (v := st)
    (show 1 < (overwrite (P ++ b.drop P.length) 2 m.passwd).length by omega)
  simp only [h2, hs, hpl, hp8, show m.passwd.length ≠ 0 by omega, if_false, h3, hs2, hset, hw]
  unfold authStatus
  cases users m.uname <;> cases w <;> simp <;> split_ifs <;> simp

theorem eq_of_getElem?_header {Q : Bytes} {n : ℕ} {a c d : UInt8} (hl : Q.length = 3 + n)
    (h0 : Q[0]? = some a) (h1 : Q[1]? = some c) (h2 : Q[2 + n]? = some d) :
    Q = [a, c] ++ (Q.drop 2).take n ++ [d] := by
  match Q, hl with
  | a' :: c' :: t, hl =>
    simp only [List.getElem?_cons_zero, List.getElem?_cons_succ, Option.some.injEq,
      show 2 + n = n + 1 + 1 by omega] at h0 h1 h2
    subst h0 h1
    obtain ⟨e, he⟩ := List.length_eq_one.mp (show (t.drop n).length = 1 by simp at hl ⊢; omega)
    have : e = d := by
      have h3 := congrArg (·[0]?) he
      simp only [List.getElem?_drop, Nat.add_zero, h2, List.getElem?_cons_zero,
        Option.some.injEq] at h3
      exact h3.symm
    simp [← this, ← he]

theorem serverHandleUsernamePassword_accepted {rw : Conn} {b : Bytes}
    {users : Bytes → Option UserInfo} {r : Ret Bytes}
    (h : serverHandleUsernamePassword rw b users = .ok r) (he : r.err = none) :
    ∃ (m : AuthRequest) (rest : Bytes) (u : UserInfo), rw.input = m.bytes ++ rest ∧
      users m.uname = some u ∧ m.passwd = u.password ∧ rw.writeOk = true := by
  have hb : ¬ b.length < 258 := fun hlt => by
    simp [serverHandleUsernamePassword, hlt, throw, throwThe, MonadExceptOf.throw, bind,
      Except.bind] at h
  obtain ⟨rw₁, b₁, e₁, v, u, rw₂, b₂, e₂, pl, rw₃, b₃, e₃, h₁, hv, hu, h₂, hun, hpl, h₃, hpw,
    hs, hw⟩ := serverHandleUsernamePassword_steps rw b (by omega)
  obtain ⟨rrw, rb, rval, rerr⟩ := r
  simp only at he
  subst he
  simp only [serverHandleUsernamePassword, hb, if_false, h₁, hv, hu, h₂, hun, hpl, h₃, hpw, hs, hw,
    bind, Except.bind, pure, Except.pure] at h
  cases e₁ <;> cases e₂ <;> cases e₃ <;> cases hwo : rw₃.writeOk <;> simp [hwo, ite_eq_iff] at h
  obtain ⟨hver, hu0, hp0, ⟨hus, hpass⟩, -⟩ := h
  have hl₁ := readFull_length h₁
  obtain ⟨-, -, x4, hx4, hin1, hb1, -, hw1⟩ := readFull_eq_ok h₁ (by simp)
  obtain ⟨hb2l, y, hy, hin2, hb2, -, hw2⟩ := readRest_eq_ok h₂ (by simp) (by simp at hl₁; omega)
  obtain ⟨-, -, z, hz, hin3, hb3, -, hw3⟩ := readFull_eq_ok h₃ (by simp)
  simp only at hin1 hb1 hw1 hb2l hin2 hb2 hw2 hin3 hb3 hw3 hz hl₁
  subst hb1
  rw [show (4 : ℕ) = x4.length by omega, overwrite_overwrite] at hb2
  subst hb2 hb3 hver
  have hu8 : u.toNat < 256 := u.toNat_lt_size
  have hQl : (x4 ++ y).length = 3 + u.toNat := by simp; omega
  have e0 := index_eq_ok hv
  have e1 := index_eq_ok hu
  have e2 := index_eq_ok hpl
  rw [overwrite_zero_getElem? (by omega)] at e0 e1 e2
  have hQ := eq_of_getElem?_header hQl (by rw [List.getElem?_append_left (by omega), e0])
    (by rw [List.getElem?_append_left (by omega), e1]) e2
  have hzl : z.length = pl.toNat := by omega
  have hul : ((x4 ++ y).drop 2 |>.take u.toNat).length = u.toNat := by simp; omega
  have hof : ∀ c : UInt8, UInt8.ofNat c.toNat = c :=
    fun c => UInt8.toNat.inj (UInt8.toNat_ofNat_of_lt c.toNat_lt_size)
  rw [← hzl, overwrite_drop_take (by rw [overwrite_length (by omega)]; omega)] at hpass
  rw [overwrite_zero_drop_take (by omega)] at hus hpass
  obtain ⟨ui, hui⟩ := Option.ne_none_iff_exists'.1 hus
  rw [hui, Option.getD_some] at hpass
  have hin : rw.input = [usernamePasswordAuthVersion,
      UInt8.ofNat ((x4 ++ y).drop 2 |>.take u.toNat).length] ++ ((x4 ++ y).drop 2 |>.take u.toNat) ++
      [UInt8.ofNat z.length] ++ z ++ rw₃.input := by
    rw [hin1, hin2, hin3]
    conv_lhs => rw [← List.append_assoc, ← List.append_assoc, hQ]
    simp [usernamePasswordAuthVersion, hul, hzl, hof]
  have hp8 : pl.toNat < 256 := pl.toNat_lt_size
  exact ⟨⟨_, z, by omega, by omega, by omega, by omega⟩, rw₃.input, ui, hin, hui, hpass,
    by rw [← hw1, ← hw2, ← hw3, hwo]⟩

theorem UserInfo.appendAuthMsg_length (u : UserInfo) :
    (u.appendAuthMsg []).length = u.authMsgLength := by
  simp [UserInfo.appendAuthMsg, UserInfo.authMsgLength]; omega

theorem UserInfo.appendAuthMsg_request_iff (u : UserInfo) :
    (∃ m : AuthRequest, m.bytes = u.appendAuthMsg [] ∧ m.uname = u.username ∧
      m.passwd = u.password) ↔ u.validate = none := by
  unfold UserInfo.validate
  constructor
  · rintro ⟨m, -, hu, hp⟩
    have := m.uname_pos; have := m.uname_le; have := m.passwd_pos; have := m.passwd_le
    rw [← hu, ← hp]
    split_ifs <;> first | rfl | omega
  · intro h
    split_ifs at h with h₁ h₂
    exact ⟨⟨u.username, u.password, by omega, by omega, by omega, by omega⟩,
      by simp [AuthRequest.bytes, UserInfo.appendAuthMsg], rfl, rfl⟩

theorem clientDoUsernamePasswordAuth_of_reply (st : UInt8) (rest out authMsg b : Bytes)
    (hb : 2 ≤ b.length) :
    ∃ b', clientDoUsernamePasswordAuth ⟨[1, st] ++ rest, out, true⟩ b authMsg =
      .ok ⟨⟨rest, out ++ authMsg, true⟩, b', (),
        if st = 0 then none else some .incorrectUsernamePassword⟩ := by
  have h1 : readFull ⟨[1, st] ++ rest, out ++ authMsg, true⟩ b 0 2 =
      .ok (⟨rest, out ++ authMsg, true⟩, overwrite b 0 [1, st], none) :=
    readFull_of_eq hb (Nat.zero_le _) rfl rfl
  have hv : index (overwrite b 0 [1, st]) 0 = .ok 1 := index_eq (by simp [overwrite_zero])
  have hs : index (overwrite b 0 [1, st]) 1 = .ok st := index_eq (by simp [overwrite_zero])
  refine ⟨overwrite b 0 [1, st], ?_⟩
  simp only [clientDoUsernamePasswordAuth, bind, Except.bind, pure, Except.pure,
    show ¬ b.length < 2 by omega, if_false, Bool.not_true, Bool.false_eq_true]
  simp only [h1, hv, hs, usernamePasswordAuthVersion, ne_eq, not_true_eq_false, if_false]
  split_ifs <;> rfl

theorem usernamePasswordAuth_roundTrip (users : Bytes → Option UserInfo) (u : UserInfo)
    (hu : u.validate = none) (rest out b rest' out' b' : Bytes) (hb : 1 + 1 + 255 + 1 ≤ b.length)
    (hb' : 2 ≤ b'.length) :
    ∃ r c reply,
      serverHandleUsernamePassword ⟨u.appendAuthMsg [] ++ rest, out, true⟩ b users = .ok r ∧
      r.rw.input = rest ∧ r.rw.output = out ++ reply ∧
      clientDoUsernamePasswordAuth ⟨reply ++ rest', out', true⟩ b' (u.appendAuthMsg []) = .ok c ∧
      (r.err = none ↔ ∃ v, users u.username = some v ∧ v.password = u.password) ∧
      (c.err = none ↔ r.err = none) := by
  obtain ⟨m, hm, hmu, hmp⟩ := u.appendAuthMsg_request_iff.2 hu
  obtain ⟨b₁, h₁⟩ := serverHandleUsernamePassword_of_request m rest out true b hb users
  obtain ⟨b₂, h₂⟩ := clientDoUsernamePasswordAuth_of_reply (authStatus users m) rest' out'
    (u.appendAuthMsg []) b' hb'
  simp only [hm, if_true] at h₁
  refine ⟨_, _, _, h₁, rfl, rfl, h₂, ?_, ?_⟩
  · have h₀ : authStatus users m = 0 ↔
        ∃ v, users u.username = some v ∧ v.password = u.password := by
      rw [authStatus_eq_zero_iff, hmp, hmu]; simp only [eq_comm]
    rw [← h₀]
    by_cases h : authStatus users m = 0 <;> simp [h]
  · by_cases h : authStatus users m = 0 <;> simp [h]

/-- Username/password authentication as a whole: no panic, acceptance exactly for a listed user's
password, the exact bytes read and written, and the client's side of it. -/
theorem serverHandleUsernamePassword_correct (users : Bytes → Option UserInfo) (rw : Conn)
    (b : Bytes) (hb : 1 + 1 + 255 + 1 ≤ b.length) :
    (∀ p, serverHandleUsernamePassword rw b users ≠ .error p) ∧
    ((∃ r, serverHandleUsernamePassword rw b users = .ok r ∧ r.err = none) ↔
      ∃ (m : AuthRequest) (rest : Bytes) (u : UserInfo), rw.input = m.bytes ++ rest ∧
        users m.uname = some u ∧ m.passwd = u.password ∧ rw.writeOk = true) ∧
    (∀ (m : AuthRequest) (rest : Bytes), rw.input = m.bytes ++ rest →
      ∃ r, serverHandleUsernamePassword rw b users = .ok r ∧ r.rw.input = rest ∧
        (∀ u, users m.uname = some u → m.passwd = u.password →
          r.rw.output = rw.output ++ (if rw.writeOk then [1, 0] else []) ∧ r.val = u.username) ∧
        ((∀ u, users m.uname = some u → m.passwd ≠ u.password) →
          r.rw.output = rw.output ++ (if rw.writeOk then [1, 1] else []) ∧
          r.err = some .incorrectUsernamePassword)) ∧
    (∀ u : UserInfo, (u.appendAuthMsg []).length = u.authMsgLength ∧
      ((∃ m : AuthRequest, m.bytes = u.appendAuthMsg [] ∧ m.uname = u.username ∧
        m.passwd = u.password) ↔ u.validate = none)) ∧
    (∀ u : UserInfo, u.validate = none → ∀ rest out rest' out' b' : Bytes, 2 ≤ b'.length →
      ∃ r c reply,
        serverHandleUsernamePassword ⟨u.appendAuthMsg [] ++ rest, out, true⟩ b users = .ok r ∧
        r.rw.input = rest ∧ r.rw.output = out ++ reply ∧
        clientDoUsernamePasswordAuth ⟨reply ++ rest', out', true⟩ b' (u.appendAuthMsg []) = .ok c ∧
        (r.err = none ↔ ∃ v, users u.username = some v ∧ v.password = u.password) ∧
        (c.err = none ↔ r.err = none)) := by
  refine ⟨serverHandleUsernamePassword_ne_error rw b users hb, ⟨fun ⟨r, h, he⟩ =>
    serverHandleUsernamePassword_accepted h he, ?_⟩, ?_,
    fun u => ⟨u.appendAuthMsg_length, u.appendAuthMsg_request_iff⟩,
    fun u hu rest out rest' out' b' hb' =>
      usernamePasswordAuth_roundTrip users u hu rest out b rest' out' b' hb hb'⟩
  · rintro ⟨m, rest, u, hin, hu, hp, hw⟩
    obtain ⟨input, out, w⟩ := rw
    obtain ⟨b', h⟩ := serverHandleUsernamePassword_of_request m rest out w b hb users
    have h₀ : authStatus users m = 0 := authStatus_eq_zero_iff.2 ⟨u, hu, hp⟩
    simp only at hin hw
    subst hin hw
    exact ⟨_, h, by simp [h₀]⟩
  · intro m rest hin
    obtain ⟨input, out, w⟩ := rw
    simp only at hin
    subst hin
    obtain ⟨b', h⟩ := serverHandleUsernamePassword_of_request m rest out w b hb users
    refine ⟨_, h, rfl, fun u hu hp => ?_, fun hne => ?_⟩
    · have h₀ : authStatus users m = 0 := authStatus_eq_zero_iff.2 ⟨u, hu, hp⟩
      simp [h₀, hu]
    · have h₁ : authStatus users m ≠ 0 := fun h =>
        let ⟨u, hu, hp⟩ := authStatus_eq_zero_iff.1 h; hne u hu hp
      simp [h₁, authStatus_of_ne_zero h₁]

theorem serverHandleUsernamePassword_correct_noUsers :
    1 + 1 + 255 + 1 ≤ (List.replicate 258 (0 : UInt8)).length ∧
      ∀ p, serverHandleUsernamePassword ⟨[1, 1, 7, 1, 7], [], true⟩ (List.replicate 258 0)
        (fun _ => none) ≠ .error p :=
  ⟨(List.length_replicate 258 0).ge, (serverHandleUsernamePassword_correct (fun _ => none)
    ⟨[1, 1, 7, 1, 7], [], true⟩ (List.replicate 258 0) (List.length_replicate 258 0).ge).1⟩

end Socks5
end ShadowsocksGo
