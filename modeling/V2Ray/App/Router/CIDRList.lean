import V2Ray.Common.Errors
import Mathlib.Data.List.Lex
import Mathlib.Data.Prod.Lex

/-!
# The CIDR list order

`CIDRList` implements `sort.Interface` so that the GeoIP matchers can sort their entries
before building a lookup structure. `Less` compares the address lengths, then the address
bytes left to right, then the prefix lengths.

* `lessLoop_eq`: the byte loop reads only indices below both address lengths and returns the
  verdict of the first differing byte (`firstDiff`).
* `CIDR.less_eq`: `Less` never panics and is the lexicographic comparison of the keys
  `(len Ip, Ip, Prefix)` (`CIDR.key`), so it inherits a strict total order from them
  (`CIDR.less_irrefl`, `CIDR.less_trans`, `CIDR.eq_of_not_less`).
* `CIDR.less_eq_numeric`: among addresses of one length the byte order is the order of the
  addresses read as unsigned big-endian numbers (`ipValue`).
-/

namespace V2Ray.Router

/-- The message `CIDR`: an IP address and its prefix length. Well-formed addresses have 4 or
16 bytes; the order reads addresses of any length. -/
@[ext] structure CIDR where
  ip : List UInt8
  prefixLen : UInt32
  deriving DecidableEq, Repr

/-- The slice type `CIDRList` of (non-nil) entries. -/
abbrev CIDRList := List CIDR

/-- The loop `for k := 0; k < len(ci.Ip); k++` of `Less` from index `k` with `n` rounds left.
`some b` is a `return b` inside the loop, `none` falls through to the prefix comparison. -/
def lessLoop (x y : List UInt8) : Nat → Nat → Except Panic (Option Bool)
  | _, 0 => pure none
  | k, n + 1 => do
    let a ← sliceGet x k
    let b ← sliceGet y k
    if a < b then pure (some true)
    else if a > b then pure (some false)
    else lessLoop x y (k + 1) n

/-- The body of `Less` on the two entries `ci` and `cj` it has read. -/
def CIDR.less (ci cj : CIDR) : Except Panic Bool :=
  if ci.ip.length < cj.ip.length then pure true
  else if ci.ip.length > cj.ip.length then pure false
  else do
    match ← lessLoop ci.ip cj.ip 0 ci.ip.length with
    | some r => pure r
    | none => pure (ci.prefixLen < cj.prefixLen)

/-- The method `Len` of `CIDRList`. -/
def CIDRList.len (l : CIDRList) : Nat := l.length

/-- The method `Less(i, j)` of `CIDRList`. -/
def CIDRList.less (l : CIDRList) (i j : Nat) : Except Panic Bool := do
  let ci ← sliceGet l i
  let cj ← sliceGet l j
  ci.less cj

/-- The documented sort key: address length, then the bytes as unsigned values, then the
prefix length, in the lexicographic order. -/
def CIDR.key (c : CIDR) : ℕ ×ₗ (List ℕ ×ₗ ℕ) :=
  toLex (c.ip.length, toLex (c.ip.map UInt8.toNat, c.prefixLen.toNat))

/-- The byte loop read on lists: the first position where the bytes differ decides. -/
def firstDiff : List UInt8 → List UInt8 → Option Bool
  | a :: x, b :: y => if a < b then some true else if a > b then some false else firstDiff x y
  | _, _ => none

/-! ## Bytes -/

theorem uint8_lt_iff {a b : UInt8} : a < b ↔ a.toNat < b.toNat := Iff.rfl

theorem uint32_lt_iff {a b : UInt32} : a < b ↔ a.toNat < b.toNat := Iff.rfl

theorem uint8_eq_of_not_lt {a b : UInt8} (h₁ : ¬a < b) (h₂ : ¬b < a) : a = b :=
  UInt8.toNat.inj (by rw [uint8_lt_iff] at h₁ h₂; omega)

/-- The loop run from index `k` to the common end reads `x[k]`, `y[k]`, ... only, and
returns the verdict of the first differing byte of the suffixes. -/
theorem lessLoop_eq {x y : List UInt8} (hxy : x.length = y.length) :
    ∀ {k n : Nat}, k + n = x.length →
      lessLoop x y k n = .ok (firstDiff (x.drop k) (y.drop k))
  | k, 0, hk => by
    obtain rfl : k = x.length := hk
    simp [lessLoop, firstDiff, pure, Except.pure, hxy]
  | k, n + 1, hk => by
    have hx : k < x.length := by omega
    have hy : k < y.length := by omega
    rw [List.drop_eq_getElem_cons hx, List.drop_eq_getElem_cons hy]
    simp only [lessLoop, sliceGet_of_lt hx, sliceGet_of_lt hy, except_ok_bind, firstDiff]
    split
    · rfl
    · split
      · rfl
      · exact lessLoop_eq hxy (by omega)

/-- On addresses of one length, the byte loop's verdict is the lexicographic comparison. -/
theorem firstDiff_eq : ∀ {x y : List UInt8}, x.length = y.length →
    firstDiff x y = if x = y then none
      else some (decide (x.map UInt8.toNat < y.map UInt8.toNat))
  | [], [], _ => rfl
  | a :: x, b :: y, h => by
    have ih := @firstDiff_eq x y (by simpa using h)
    simp only [firstDiff, List.cons.injEq, List.map_cons]
    by_cases hab : a < b
    · have hne : a ≠ b := UInt8.ne_of_lt hab
      have hlt : a.toNat :: x.map UInt8.toNat < b.toNat :: y.map UInt8.toNat :=
        List.Lex.rel (uint8_lt_iff.1 hab)
      simpa [hab, hne] using hlt
    · by_cases hba : b < a
      · have hne : a ≠ b := (UInt8.ne_of_lt hba).symm
        have hgt : b.toNat :: y.map UInt8.toNat < a.toNat :: x.map UInt8.toNat :=
          List.Lex.rel (uint8_lt_iff.1 hba)
        simpa [hab, hba, hne] using lt_asymm hgt
      · obtain rfl := uint8_eq_of_not_lt hab hba
        simp only [hab, gt_iff_lt, if_false, true_and, ih]
        congr 2
        exact decide_eq_decide.2 List.Lex.cons_iff.symm

/-! ## `Less` is the key order -/

/-- `Less` never panics, and it is the lexicographic comparison of the keys. -/
theorem CIDR.less_eq (a b : CIDR) : a.less b = .ok (decide (a.key < b.key)) := by
  simp only [CIDR.less, CIDR.key, Prod.Lex.lt_iff]
  split_ifs with hlt hgt
  · simp [hlt, pure, Except.pure]
  · simp [pure, Except.pure]
    omega
  · have hlen : a.ip.length = b.ip.length := by omega
    simp only [hlt, false_or, hlen, true_and]
    rw [lessLoop_eq hlen (by omega), List.drop_zero, List.drop_zero, firstDiff_eq hlen]
    by_cases hip : a.ip = b.ip
    · simp [hip, pure, Except.pure, bind, Except.bind, uint32_lt_iff]
    · have hmap : a.ip.map UInt8.toNat ≠ b.ip.map UInt8.toNat :=
        fun h => hip (List.map_injective_iff.2 (fun _ _ => UInt8.toNat.inj) h)
      simp [hip, hmap, pure, Except.pure, bind, Except.bind]

theorem CIDR.key_injective {a b : CIDR} (h : a.key = b.key) : a = b := by
  simp only [CIDR.key, EmbeddingLike.apply_eq_iff_eq, Prod.mk.injEq] at h
  obtain ⟨-, hip, hp⟩ := h
  exact CIDR.ext (List.map_injective_iff.2 (fun _ _ => UInt8.toNat.inj) hip) (UInt32.toNat.inj hp)

/-- The key order compares address lengths first. -/
theorem CIDR.length_le_of_key_le {a b : CIDR} (h : a.key ≤ b.key) :
    a.ip.length ≤ b.ip.length := by
  rcases (Prod.Lex.le_iff _ _).1 h with h | ⟨h, -⟩ <;> simp only [CIDR.key] at h <;> omega

theorem CIDR.less_ok_true_iff {a b : CIDR} : a.less b = .ok true ↔ a.key < b.key := by
  simp [CIDR.less_eq]

theorem CIDR.less_ok_false_iff {a b : CIDR} : a.less b = .ok false ↔ ¬a.key < b.key := by
  simp [CIDR.less_eq]

/-- `Less` is irreflexive. -/
theorem CIDR.less_irrefl (a : CIDR) : a.less a = .ok false :=
  CIDR.less_ok_false_iff.2 (lt_irrefl _)

/-- `Less` is transitive. -/
theorem CIDR.less_trans {a b c : CIDR} (h₁ : a.less b = .ok true) (h₂ : b.less c = .ok true) :
    a.less c = .ok true :=
  CIDR.less_ok_true_iff.2 (lt_trans (CIDR.less_ok_true_iff.1 h₁) (CIDR.less_ok_true_iff.1 h₂))

/-- Entries neither of which is less than the other are equal. -/
theorem CIDR.eq_of_not_less {a b : CIDR} (h₁ : a.less b = .ok false)
    (h₂ : b.less a = .ok false) : a = b :=
  CIDR.key_injective (le_antisymm (not_lt.1 (CIDR.less_ok_false_iff.1 h₂))
    (not_lt.1 (CIDR.less_ok_false_iff.1 h₁)))

/-- `Less(i, j)` on in-range indices compares the keys of the two entries. -/
theorem CIDRList.less_of_lt {l : CIDRList} {i j : Nat} (hi : i < l.length) (hj : j < l.length) :
    l.less i j = .ok (decide (l[i].key < l[j].key)) := by
  simp [CIDRList.less, sliceGet_of_lt hi, sliceGet_of_lt hj, CIDR.less_eq]

/-- `Less` never panics and compares the keys, and the method `Less(i, j)` compares the keys of
the entries it reads at `i` and `j`; it is irreflexive and transitive, and two entries neither
of which is less than the other have the same address and prefix. -/
theorem CIDR.less_strictTotalOrder :
    (∀ a b : CIDR, a.less b = .ok (decide (a.key < b.key))) ∧
    (∀ (l : CIDRList) (i j : Nat) (hi : i < l.length) (hj : j < l.length),
      l.less i j = .ok (decide (l[i].key < l[j].key))) ∧
    (∀ a : CIDR, a.less a = .ok false) ∧
    (∀ a b c : CIDR, a.less b = .ok true → b.less c = .ok true → a.less c = .ok true) ∧
    (∀ a b : CIDR, a.less b = .ok false → b.less a = .ok false →
      a.ip = b.ip ∧ a.prefixLen = b.prefixLen) :=
  ⟨CIDR.less_eq, fun _ _ _ => CIDRList.less_of_lt, CIDR.less_irrefl, fun _ _ _ => CIDR.less_trans,
    fun _ _ h₁ h₂ => CIDR.ext_iff.1 (CIDR.eq_of_not_less h₁ h₂)⟩

theorem CIDR.less_strictTotalOrder_v4 :
    let a : CIDR := ⟨[10, 0, 0, 0], 8⟩
    let b : CIDR := ⟨[10, 0, 0, 0], 16⟩
    let c : CIDR := ⟨[192, 168, 0, 0], 16⟩
    CIDRList.less [a, c] 0 1 = .ok (decide (a.key < c.key)) ∧
      (a.less b = .ok true ∧ b.less c = .ok true ∧ a.less c = .ok true) ∧
      (a.less a = .ok false ∧ a.ip = a.ip ∧ a.prefixLen = a.prefixLen) := by
  intro a b c
  have hab : a.less b = .ok true := by decide
  have hbc : b.less c = .ok true := by decide
  have haa : a.less a = .ok false := by decide
  exact ⟨CIDR.less_strictTotalOrder.2.1 [a, c] 0 1 (by decide) (by decide),
    ⟨hab, hbc, CIDR.less_strictTotalOrder.2.2.2.1 a b c hab hbc⟩,
    ⟨haa, CIDR.less_strictTotalOrder.2.2.2.2 a a haa haa⟩⟩

/-! ## Addresses as numbers -/

/-- An address read as one unsigned big-endian number, the order a sorted-array lookup
searches by. -/
def ipValue : List UInt8 → Nat
  | [] => 0
  | b :: ip => b.toNat * Nat.pow 256 ip.length + ipValue ip

theorem ipValue_lt : ∀ ip : List UInt8, ipValue ip < Nat.pow 256 ip.length
  | [] => Nat.zero_lt_one
  | b :: ip => by
    have hb : (b.toNat + 1) * Nat.pow 256 ip.length ≤ 256 * Nat.pow 256 ip.length :=
      Nat.mul_le_mul_right _ (UInt8.toNat_lt_size b)
    have := ipValue_lt ip
    show b.toNat * Nat.pow 256 ip.length + ipValue ip < Nat.pow 256 ip.length * 256
    rw [Nat.add_mul, Nat.one_mul] at hb
    omega

/-- On addresses of one length, the byte order of `Less` is the order of their values. -/
theorem map_toNat_lt_iff : ∀ {x y : List UInt8}, x.length = y.length →
    (x.map UInt8.toNat < y.map UInt8.toNat ↔ ipValue x < ipValue y)
  | [], [], _ => iff_of_false (fun h => nomatch h) (lt_irrefl 0)
  | a :: x, b :: y, h => by
    have hxy : x.length = y.length := by simpa using h
    have hx := ipValue_lt x
    have hy := ipValue_lt y
    simp only [List.map_cons, ipValue, ← hxy] at hy ⊢
    rcases lt_trichotomy a.toNat b.toNat with hab | hab | hab
    · have : (a.toNat + 1) * Nat.pow 256 x.length ≤ b.toNat * Nat.pow 256 x.length :=
        Nat.mul_le_mul_right _ hab
      rw [Nat.add_mul, Nat.one_mul] at this
      exact iff_of_true (List.Lex.rel hab) (by omega)
    · rw [hab]
      exact List.Lex.cons_iff.trans ((@map_toNat_lt_iff x y hxy).trans Nat.add_lt_add_iff_left.symm)
    · have : (b.toNat + 1) * Nat.pow 256 x.length ≤ a.toNat * Nat.pow 256 x.length :=
        Nat.mul_le_mul_right _ hab
      rw [Nat.add_mul, Nat.one_mul] at this
      exact iff_of_false (fun hlt => lt_asymm hlt (List.Lex.rel hab)) (by omega)

/-- `Less` compares address lengths, then the addresses read as unsigned big-endian numbers,
then prefix lengths: among IPv4 entries, and among IPv6 entries, it is the numeric order. -/
theorem CIDR.less_eq_numeric (a b : CIDR) :
    a.less b = .ok (decide (a.ip.length < b.ip.length ∨ a.ip.length = b.ip.length ∧
      (ipValue a.ip < ipValue b.ip ∨ ipValue a.ip = ipValue b.ip ∧ a.prefixLen < b.prefixLen))) := by
  rw [CIDR.less_eq]
  refine congrArg Except.ok (decide_eq_decide.2 ?_)
  simp only [CIDR.key, Prod.Lex.lt_iff, uint32_lt_iff]
  refine or_congr Iff.rfl (and_congr_right fun hlen => ?_)
  have hlt := map_toNat_lt_iff hlen
  have hgt := map_toNat_lt_iff hlen.symm
  have heq : a.ip.map UInt8.toNat = b.ip.map UInt8.toNat ↔ ipValue a.ip = ipValue b.ip := by
    constructor
    · intro h
      have h₁ := mt hlt.2 (h ▸ lt_irrefl _)
      have h₂ := mt hgt.2 (h ▸ lt_irrefl _)
      omega
    · intro h
      rcases lt_trichotomy (a.ip.map UInt8.toNat) (b.ip.map UInt8.toNat) with h' | h' | h'
      · exact absurd (hlt.1 h') (by omega)
      · exact h'
      · exact absurd (hgt.1 h') (by omega)
  exact or_congr hlt (and_congr heq Iff.rfl)

end V2Ray.Router
