import Mathlib.Data.List.Basic

/-! # `ResolveAddr`

`ResolveAddr` sorts the resolver's answer into the preferred family and the others, and draws one
address at random from the first, or from the second when the first is empty. `LookupNetIP`,
`Is4`, `Is4In6` and `rand.Intn` are section variables. -/

namespace ShadowsocksGo
namespace Conn

section ResolveAddr

variable {Addr : Type} (is4 is4In6 : Addr → Bool)

/-- The first case of the loop's `switch`: "Prefer 6/4 and got 6/4". -/
def isPrimary (preferIPv6 : Bool) (ip : Addr) : Bool :=
  preferIPv6 && !is4 ip && !is4In6 ip || !preferIPv6 && (is4 ip || is4In6 ip)

/-- The second case of the loop's `switch`: "Prefer 6/4 and got 4/6". -/
def isFallback (preferIPv6 : Bool) (ip : Addr) : Bool :=
  preferIPv6 && (is4 ip || is4In6 ip) || !preferIPv6 && !is4 ip && !is4In6 ip

/-- The loop `for _, ip := range ips`, appending to `primaries` and `fallbacks`. -/
def sortAddrs (preferIPv6 : Bool) : List Addr → List Addr → List Addr →
    Except String (List Addr × List Addr)
  | primaries, fallbacks, [] => .ok (primaries, fallbacks)
  | primaries, fallbacks, ip :: ips =>
    if isPrimary is4 is4In6 preferIPv6 ip then
      sortAddrs preferIPv6 (primaries ++ [ip]) fallbacks ips
    else if isFallback is4 is4In6 preferIPv6 ip then
      sortAddrs preferIPv6 primaries (fallbacks ++ [ip]) ips
    else .error "ip is neither 4 nor 6"

/-- `ResolveAddr(host, preferIPv6)`. -/
def resolveAddr (lookupNetIP : String → Except String (List Addr))
    (intn : (n : ℕ) → 0 < n → Fin n) (host : String) (preferIPv6 : Bool) : Except String Addr := do
  let ips ← lookupNetIP host
  let (primaries, fallbacks) ← sortAddrs is4 is4In6 preferIPv6 [] [] ips
  if h : 0 < primaries.length then
    return primaries.get (intn _ h)
  else if h : 0 < fallbacks.length then
    return fallbacks.get (intn _ h)
  else throw "lookup returned no addresses and no error"

def ofPreferredFamily (preferIPv6 : Bool) (ip : Addr) : Bool :=
  if preferIPv6 then !is4 ip && !is4In6 ip else is4 ip || is4In6 ip

theorem isPrimary_eq (preferIPv6 : Bool) (ip : Addr) :
    isPrimary is4 is4In6 preferIPv6 ip = ofPreferredFamily is4 is4In6 preferIPv6 ip := by
  cases preferIPv6 <;> simp [isPrimary, ofPreferredFamily]

theorem isFallback_eq (preferIPv6 : Bool) (ip : Addr) :
    isFallback is4 is4In6 preferIPv6 ip = !isPrimary is4 is4In6 preferIPv6 ip := by
  unfold isFallback isPrimary
  cases preferIPv6 <;> cases is4 ip <;> cases is4In6 ip <;> rfl

theorem sortAddrs_eq (preferIPv6 : Bool) (ips primaries fallbacks : List Addr) :
    sortAddrs is4 is4In6 preferIPv6 primaries fallbacks ips =
      .ok (primaries ++ ips.filter (ofPreferredFamily is4 is4In6 preferIPv6),
        fallbacks ++ ips.filter (fun ip => !ofPreferredFamily is4 is4In6 preferIPv6 ip)) := by
  induction ips generalizing primaries fallbacks with
  | nil => simp [sortAddrs]
  | cons ip ips ih =>
    cases hp : ofPreferredFamily is4 is4In6 preferIPv6 ip <;>
      simp [sortAddrs, isFallback_eq, isPrimary_eq, hp, ih, List.filter_cons]

/-- For every lookup answer `ips` and every `rand.Intn`, `ResolveAddr` fails exactly when `ips` is
empty; otherwise it returns an element of `ips`, of the preferred family when `ips` holds one. -/
theorem resolveAddr_spec (lookupNetIP : String → Except String (List Addr))
    (intn : (n : ℕ) → 0 < n → Fin n) (host : String) (preferIPv6 : Bool) (ips : List Addr)
    (h : lookupNetIP host = .ok ips) :
    (∀ e, resolveAddr is4 is4In6 lookupNetIP intn host preferIPv6 = .error e ↔
      ips = [] ∧ e = "lookup returned no addresses and no error") ∧
    ∀ ip, resolveAddr is4 is4In6 lookupNetIP intn host preferIPv6 = .ok ip → ip ∈ ips ∧
      ((∃ a ∈ ips, ofPreferredFamily is4 is4In6 preferIPv6 a) →
        ofPreferredFamily is4 is4In6 preferIPv6 ip) := by
  set pref := ofPreferredFamily is4 is4In6 preferIPv6
  have hr : resolveAddr is4 is4In6 lookupNetIP intn host preferIPv6 =
      if h : 0 < (ips.filter pref).length then .ok ((ips.filter pref).get (intn _ h))
      else if h : 0 < (ips.filter (fun ip => !pref ip)).length then
        .ok ((ips.filter (fun ip => !pref ip)).get (intn _ h))
      else .error "lookup returned no addresses and no error" := by
    simp only [resolveAddr, h, sortAddrs_eq, List.nil_append, bind, Except.bind, pure, Except.pure]
    split_ifs <;> rfl
  rw [hr]
  constructor
  · intro e
    split_ifs with h₁ h₂
    · simp only [false_iff, not_and, reduceCtorEq]
      rintro rfl; simp at h₁
    · simp only [false_iff, not_and, reduceCtorEq]
      rintro rfl; simp at h₂
    · simp only [List.length_pos, ne_eq, not_not, List.filter_eq_nil_iff] at h₁ h₂
      simp only [Except.error.injEq]
      have : ips = [] := List.eq_nil_iff_forall_not_mem.2 fun a ha => by
        simpa [h₁ a ha] using h₂ a ha
      simp [this, eq_comm]
  · intro ip hip
    split_ifs at hip with h₁ h₂ <;> cases hip
    · have hm := List.mem_filter.1 (List.get_mem _ (intn _ h₁).1 (intn _ h₁).2)
      exact ⟨hm.1, fun _ => hm.2⟩
    · refine ⟨(List.mem_filter.1 (List.get_mem _ _ _)).1, fun ⟨a, ha, hpa⟩ => absurd ?_ h₁⟩
      exact List.length_pos_of_mem (List.mem_filter.2 ⟨ha, hpa⟩)

example : resolveAddr (fun n => decide (n < 4294967296)) (fun _ => false)
    (fun _ => .ok [1, 4294967296]) (fun _ h => ⟨0, h⟩) "localhost" true = .ok 4294967296 := rfl

theorem resolveAddr_spec_dualStack :
    (fun _ => .ok [1, 4294967296] : String → Except String (List ℕ)) "localhost" =
      .ok [1, 4294967296] ∧
    ((∀ e, resolveAddr (fun n => decide (n < 4294967296)) (fun _ => false)
        (fun _ => .ok [1, 4294967296]) (fun _ h => ⟨0, h⟩) "localhost" true = .error e ↔
        [1, 4294967296] = [] ∧ e = "lookup returned no addresses and no error") ∧
      ∀ ip, resolveAddr (fun n => decide (n < 4294967296)) (fun _ => false)
        (fun _ => .ok [1, 4294967296]) (fun _ h => ⟨0, h⟩) "localhost" true = .ok ip →
        ip ∈ [1, 4294967296] ∧
        ((∃ a ∈ [1, 4294967296],
            ofPreferredFamily (fun n => decide (n < 4294967296)) (fun _ => false) true a) →
          ofPreferredFamily (fun n => decide (n < 4294967296)) (fun _ => false) true ip)) :=
  ⟨rfl, resolveAddr_spec _ _ _ _ "localhost" true [1, 4294967296] rfl⟩

theorem resolveAddr_of_lookup {lookupNetIP : String → Except String (List Addr)}
    (intn : (n : ℕ) → 0 < n → Fin n) {host : String} (preferIPv6 : Bool) {ips : List Addr}
    (h : lookupNetIP host = .ok ips) :
    resolveAddr is4 is4In6 lookupNetIP intn host preferIPv6 =
      if h : 0 < (ips.filter (ofPreferredFamily is4 is4In6 preferIPv6)).length then
        .ok ((ips.filter (ofPreferredFamily is4 is4In6 preferIPv6)).get (intn _ h))
      else if h : 0 < (ips.filter (fun ip => !ofPreferredFamily is4 is4In6 preferIPv6 ip)).length then
        .ok ((ips.filter (fun ip => !ofPreferredFamily is4 is4In6 preferIPv6 ip)).get (intn _ h))
      else .error "lookup returned no addresses and no error" := by
  simp only [resolveAddr, h, sortAddrs_eq, List.nil_append, bind, Except.bind, pure, Except.pure]
  split_ifs <;> rfl

theorem exists_intn_get {L : List Addr} {ip : Addr} (hip : ip ∈ L) :
    ∃ intn : (n : ℕ) → 0 < n → Fin n, ∀ h, L.get (intn L.length h) = ip := by
  obtain ⟨i, hi⟩ := List.mem_iff_get.1 hip
  exact ⟨fun m hm => if hmn : m = L.length then Fin.cast hmn.symm i else ⟨0, hm⟩,
    fun _ => by simpa using hi⟩

/-- The addresses `ResolveAddr` can return are those of the answer of the preferred family, or
all of them when none is. -/
theorem resolveAddr_results (lookupNetIP : String → Except String (List Addr)) (host : String)
    (preferIPv6 : Bool) (ips : List Addr) (h : lookupNetIP host = .ok ips) (ip : Addr) :
    (∃ intn, resolveAddr is4 is4In6 lookupNetIP intn host preferIPv6 = .ok ip) ↔
      ip ∈ ips ∧ (ofPreferredFamily is4 is4In6 preferIPv6 ip ∨
        ∀ a ∈ ips, ofPreferredFamily is4 is4In6 preferIPv6 a = false) := by
  set pref := ofPreferredFamily is4 is4In6 preferIPv6
  constructor
  · rintro ⟨intn, hr⟩
    rw [resolveAddr_of_lookup is4 is4In6 intn preferIPv6 h] at hr
    split_ifs at hr with h₁ h₂ <;> cases hr
    · have hm := List.mem_filter.1 (List.get_mem _ (intn _ h₁).1 (intn _ h₁).2)
      exact ⟨hm.1, .inl hm.2⟩
    · refine ⟨(List.mem_filter.1 (List.get_mem _ _ _)).1, .inr fun a ha => ?_⟩
      by_contra hpa
      exact h₁ (List.length_pos_of_mem (List.mem_filter.2 ⟨ha, by simpa using hpa⟩))
  · rintro ⟨hip, hp | hnone⟩
    · -- a draw among the preferred family
      have hm : ip ∈ ips.filter pref := List.mem_filter.2 ⟨hip, hp⟩
      obtain ⟨intn, hi⟩ := exists_intn_get hm
      refine ⟨intn, ?_⟩
      rw [resolveAddr_of_lookup is4 is4In6 intn preferIPv6 h, dif_pos (List.length_pos_of_mem hm), hi]
    · -- no address of the preferred family: a draw among all of them
      have h₁ : ¬0 < (ips.filter pref).length := by
        simp only [List.length_pos, ne_eq, not_not, List.filter_eq_nil_iff]
        exact fun a ha => by simp [hnone a ha]
      have hm : ip ∈ ips.filter (fun ip => !pref ip) := List.mem_filter.2 ⟨hip, by simp [hnone ip hip]⟩
      obtain ⟨intn, hi⟩ := exists_intn_get hm
      refine ⟨intn, ?_⟩
      rw [resolveAddr_of_lookup is4 is4In6 intn preferIPv6 h, dif_neg h₁,
        dif_pos (List.length_pos_of_mem hm), hi]

theorem resolveAddr_results_dualStack :
    (fun _ => .ok [1, 4294967296] : String → Except String (List ℕ)) "localhost" =
      .ok [1, 4294967296] ∧
    ((∃ intn, resolveAddr (fun n => decide (n < 4294967296)) (fun _ => false)
        (fun _ => .ok [1, 4294967296]) intn "localhost" false = .ok 1) ↔
      1 ∈ [1, 4294967296] ∧
        (ofPreferredFamily (fun n => decide (n < 4294967296)) (fun _ => false) false 1 ∨
          ∀ a ∈ [1, 4294967296],
            ofPreferredFamily (fun n => decide (n < 4294967296)) (fun _ => false) false a = false)) :=
  ⟨rfl, resolveAddr_results _ _ _ "localhost" false [1, 4294967296] rfl 1⟩

end ResolveAddr

end Conn
end ShadowsocksGo
