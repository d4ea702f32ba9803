import V2Ray.App.Router.CIDRList
import Mathlib.Data.List.Sort
import Mathlib.Logic.Relation

/-!
# Sorting a CIDR list

A sort through `sort.Interface` changes the list only by `Swap` calls; which calls it makes
depends on the sort and on the input order. Whatever they are, the sorted result is the same.

* `CIDRList.swap_perm`, `SwapRun.perm`: a run of swaps permutes the list.
* `CIDRList.eq_of_perm_of_sortedByLess`: two permutations of one list that are both sorted
  under `Less` are equal, so any two sorts of a list, and a sort of a sorted list, agree
  (`CIDRList.eq_of_swapRun_of_sortedByLess`).
* `CIDRList.SortedByLess.eq_of_key_eq`: in a sorted list, entries with equal keys are
  adjacent.
-/

namespace V2Ray.Router

/-- The method `Swap(i, j)`, `(*l)[i], (*l)[j] = (*l)[j], (*l)[i]`: both entries are read
before either is written, and an index past the end panics. -/
def CIDRList.swap (l : CIDRList) (i j : Nat) : Except Panic CIDRList := do
  let ci ← sliceGet l i
  let cj ← sliceGet l j
  pure ((l.set i cj).set j ci)

/-- One `Swap` call that returns. -/
def SwapStep (l l' : CIDRList) : Prop := ∃ i j, l.swap i j = .ok l'

/-- What a sort can do to the list through `Swap`: any sequence of calls. -/
def SwapRun : CIDRList → CIDRList → Prop := Relation.ReflTransGen SwapStep

/-- Sorted under `Less`: `Less(j, i)` does not hold for any `i < j`, so no entry is less than
an entry before it. -/
def CIDRList.SortedByLess (l : CIDRList) : Prop :=
  ∀ j, j < l.len → ∀ i, i < j → l.less j i ≠ .ok true

instance CIDRList.instDecidableSortedByLess (l : CIDRList) : Decidable l.SortedByLess :=
  inferInstanceAs (Decidable (∀ j, j < l.len → ∀ i, i < j → _))

/-- Entry `a` may stand before `b` in a sorted list: `Less` does not put `b` before `a`. -/
def CIDR.Precedes (a b : CIDR) : Prop := b.less a ≠ .ok true

theorem CIDR.precedes_iff {a b : CIDR} : a.Precedes b ↔ a.key ≤ b.key := by
  rw [CIDR.Precedes, Ne, CIDR.less_ok_true_iff, not_lt]

instance CIDR.instIsAntisymmPrecedes : IsAntisymm CIDR CIDR.Precedes where
  antisymm _ _ h₁ h₂ :=
    CIDR.key_injective (le_antisymm (CIDR.precedes_iff.1 h₁) (CIDR.precedes_iff.1 h₂))

/-- Sortedness through the interface is sortedness of the entries. -/
theorem CIDRList.sortedByLess_iff {l : CIDRList} : l.SortedByLess ↔ l.Sorted CIDR.Precedes := by
  rw [List.Sorted, List.pairwise_iff_getElem, CIDRList.SortedByLess]
  constructor
  · intro h i j hi hj hij
    have := h j hj i hij
    rwa [CIDRList.less_of_lt hj hi, ← CIDR.less_eq] at this
  · intro h j hj i hij
    rw [CIDRList.less_of_lt hj (by unfold CIDRList.len at hj; omega), ← CIDR.less_eq]
    exact h i j _ hj hij

/-! ## Swaps permute the list -/

theorem list_set_set_perm {α : Type} [DecidableEq α] (l : List α) {i j : Nat}
    (hi : i < l.length) (hj : j < l.length) : ((l.set i l[j]).set j l[i]).Perm l := by
  rw [List.perm_iff_count]
  intro a
  have hj' : j < (l.set i l[j]).length := by simpa using hj
  have hget : (l.set i l[j])[j] = l[j] := by rw [List.getElem_set]; split <;> simp_all
  have hle := List.boole_getElem_le_count a l i hi
  rw [List.count_set _ _ _ _ hj', hget, List.count_set _ _ _ _ hi]
  split <;> split <;> simp_all

theorem CIDRList.swap_perm {l l' : CIDRList} {i j : Nat} (h : l.swap i j = .ok l') : l'.Perm l := by
  obtain ⟨ci, hci, h⟩ := except_bind_eq_ok.1 h
  obtain ⟨cj, hcj, h⟩ := except_bind_eq_ok.1 h
  have hi := lt_length_of_sliceGet_ok hci
  have hj := lt_length_of_sliceGet_ok hcj
  rw [sliceGet_of_lt hi, Except.ok.injEq] at hci
  rw [sliceGet_of_lt hj, Except.ok.injEq] at hcj
  cases h
  subst hci hcj
  exact list_set_set_perm l hi hj

theorem SwapRun.perm {l l' : CIDRList} (h : SwapRun l l') : l'.Perm l := by
  induction h with
  | refl => rfl
  | tail _ hstep ih =>
    obtain ⟨i, j, hij⟩ := hstep
    exact (CIDRList.swap_perm hij).trans ih

/-! ## The sorted arrangement is unique -/

theorem CIDRList.eq_of_perm_of_sortedByLess {l p q : CIDRList} (hp : p.Perm l) (hq : q.Perm l)
    (sp : p.SortedByLess) (sq : q.SortedByLess) : p = q :=
  List.eq_of_perm_of_sorted (hp.trans hq.symm) (CIDRList.sortedByLess_iff.1 sp)
    (CIDRList.sortedByLess_iff.1 sq)

theorem CIDRList.eq_of_swapRun_of_sortedByLess {l p q : CIDRList} (hp : SwapRun l p)
    (hq : SwapRun l q) (sp : p.SortedByLess) (sq : q.SortedByLess) : p = q :=
  CIDRList.eq_of_perm_of_sortedByLess hp.perm hq.perm sp sq

/-- Between two entries of equal key, a sorted list holds only entries of that key. -/
theorem CIDRList.SortedByLess.eq_of_key_eq {p : CIDRList} (sp : p.SortedByLess) {i j k : Nat}
    (hij : i < j) (hjk : j < k) (hk : k < p.length)
    (hkey : p[i].key = p[k].key) : p[j].key = p[i].key := by
  have h := List.pairwise_iff_getElem.1 (CIDRList.sortedByLess_iff.1 sp)
  have h₁ := CIDR.precedes_iff.1 (h i j (by omega) (by omega) hij)
  have h₂ := CIDR.precedes_iff.1 (h j k (by omega) hk hjk)
  exact le_antisymm (hkey ▸ h₂) h₁

/-- A list sorted by `Less` holds its shorter addresses first: every IPv4 entry stands before
every IPv6 entry. -/
theorem CIDRList.SortedByLess.lt_of_length_lt {p : CIDRList} (sp : p.SortedByLess) {i j : Nat}
    (hi : i < p.length) (hj : j < p.length) (hlen : p[i].ip.length < p[j].ip.length) :
    i < j := by
  rcases Nat.lt_trichotomy i j with hij | rfl | hji
  · exact hij
  · exact absurd hlen (lt_irrefl _)
  · have hle := CIDR.precedes_iff.1
      (List.pairwise_iff_getElem.1 (CIDRList.sortedByLess_iff.1 sp) j i hj hi hji)
    exact absurd (CIDR.length_le_of_key_le hle) (Nat.not_le.2 hlen)

theorem CIDRList.SortedByLess.lt_of_length_lt_v4_v6 :
    CIDRList.SortedByLess [⟨[192, 168, 0, 0], 16⟩,
      ⟨[32, 1, 13, 184, 0, 0, 0, 0, 0, 0, 0, 0, 0, 0, 0, 0], 32⟩] ∧ 0 < 1 :=
  ⟨by decide, @CIDRList.SortedByLess.lt_of_length_lt [⟨[192, 168, 0, 0], 16⟩,
    ⟨[32, 1, 13, 184, 0, 0, 0, 0, 0, 0, 0, 0, 0, 0, 0, 0], 32⟩] (by decide) 0 1 (by decide)
    (by decide) (by decide)⟩

/-- All sorted arrangements of a list, and all sorts of it by swaps, have the same keys in
the same order, and equal keys stand together. -/
theorem CIDRList.sorted_keys_unique :
    (∀ l p q : CIDRList, p.Perm l → q.Perm l → p.SortedByLess → q.SortedByLess →
      p.map (fun c => (c.ip, c.prefixLen)) = q.map (fun c => (c.ip, c.prefixLen))) ∧
    (∀ l p q : CIDRList, SwapRun l p → SwapRun l q → p.SortedByLess → q.SortedByLess →
      p.map (fun c => (c.ip, c.prefixLen)) = q.map (fun c => (c.ip, c.prefixLen))) ∧
    (∀ p : CIDRList, p.SortedByLess → ∀ i j k : Nat, (hij : i < j) → (hjk : j < k) →
      (hk : k < p.length) → (p[i].ip, p[i].prefixLen) = (p[k].ip, p[k].prefixLen) →
        (p[j].ip, p[j].prefixLen) = (p[i].ip, p[i].prefixLen)) :=
  ⟨fun _ _ _ hp hq sp sq => by rw [CIDRList.eq_of_perm_of_sortedByLess hp hq sp sq],
    fun _ _ _ hp hq sp sq => by rw [CIDRList.eq_of_swapRun_of_sortedByLess hp hq sp sq],
    fun p sp i j k hij hjk hk h => by
      have hik : p[i] = p[k] := CIDR.ext (congrArg Prod.fst h) (congrArg Prod.snd h)
      rw [CIDR.key_injective (sp.eq_of_key_eq hij hjk hk (congrArg CIDR.key hik))]⟩

theorem CIDRList.sorted_keys_unique_v4_v6 :
    let l : CIDRList :=
      [⟨[32, 1, 13, 184, 0, 0, 0, 0, 0, 0, 0, 0, 0, 0, 0, 0], 32⟩, ⟨[10, 0, 0, 0], 8⟩]
    let p : CIDRList :=
      [⟨[10, 0, 0, 0], 8⟩, ⟨[32, 1, 13, 184, 0, 0, 0, 0, 0, 0, 0, 0, 0, 0, 0, 0], 32⟩]
    let d : CIDRList := [⟨[10, 0, 0, 0], 8⟩, ⟨[10, 0, 0, 0], 8⟩, ⟨[10, 0, 0, 0], 8⟩]
    (p.Perm l ∧ p.SortedByLess ∧
      p.map (fun c => (c.ip, c.prefixLen)) = p.map (fun c => (c.ip, c.prefixLen))) ∧
    (SwapRun l p ∧ p.map (fun c => (c.ip, c.prefixLen)) = p.map (fun c => (c.ip, c.prefixLen))) ∧
    (d.SortedByLess ∧ (d[1].ip, d[1].prefixLen) = (d[0].ip, d[0].prefixLen)) := by
  intro l p d
  have hp : p.Perm l := by decide
  have hrun : SwapRun l p := Relation.ReflTransGen.single ⟨0, 1, by decide⟩
  have sp : p.SortedByLess := by decide
  have sd : d.SortedByLess := by decide
  exact ⟨⟨hp, sp, CIDRList.sorted_keys_unique.1 l p p hp hp sp sp⟩,
    ⟨hrun, CIDRList.sorted_keys_unique.2.1 l p p hrun hrun sp sp⟩,
    ⟨sd, CIDRList.sorted_keys_unique.2.2 d sd 0 1 2 (by decide) (by decide) (by decide) rfl⟩⟩

end V2Ray.Router
