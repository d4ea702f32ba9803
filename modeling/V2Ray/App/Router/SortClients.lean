import V2Ray.App.Router.CIDRSort
import Mathlib.Data.List.Chain
import Mathlib.Logic.Equiv.Basic

/-!
# Sorting through `sort.Interface`

`CIDRList` implements `Len`, `Less` and `Swap` for package `sort`, which drives the list only
through them. This module runs two of the package's clients over the modelled methods:
`IsSorted`, which checks adjacent pairs from the end, and `insertionSort(data, a, b)`, which
sinks each entry of `[a, b)` leftwards by adjacent swaps. Package `sort` is Go's standard
library and not part of the source; the two functions are written as its source has them.

* `CIDRList.less_after_swap`: after `Swap(i, j)`, `Len` and `Less` answer as before with `i`
  and `j` exchanged, panics included, which is what the package assumes of `Swap`.
* `isSorted_eq`: the adjacent check never panics and decides `SortedByLess`, which asks
  about every pair.
* `insertionSort_eq_list_insertionSort`: on a range inside the list, the swap loop never
  panics, leaves the entries outside the range alone and sorts the range into
  `List.insertionSort`.
-/

namespace V2Ray.Router

/-! ## The clients -/

/-- The loop `for i := n - 1; i > 0; i--` of `IsSorted` at index `i`: `Less(i, i-1)` ends it
with `false`. -/
def isSortedLoop (l : CIDRList) : Nat → Except Panic Bool
  | 0 => pure true
  | i + 1 => do
    let lt ← l.less (i + 1) i
    if lt then pure false else isSortedLoop l i

/-- `sort.IsSorted(data)`. -/
def isSorted (l : CIDRList) : Except Panic Bool := isSortedLoop l (l.len - 1)

/-- The inner loop `for j := i; j > a && data.Less(j, j-1); j--` of `insertionSort` at
`j = a + n`: `Less` is called only while `j > a`, and each round swaps `j` with `j - 1`. -/
def insertLoop (a : Nat) : Nat → CIDRList → Except Panic CIDRList
  | 0, l => pure l
  | n + 1, l => do
    let lt ← l.less (a + n + 1) (a + n)
    if lt then
      let l ← l.swap (a + n + 1) (a + n)
      insertLoop a n l
    else pure l

/-- The outer loop `for i := a + 1; i < b; i++` of `insertionSort` from `i` with `n` rounds
left; each round runs the inner loop from `j := i`. -/
def sortLoop (a : Nat) : Nat → Nat → CIDRList → Except Panic CIDRList
  | _, 0, l => pure l
  | i, n + 1, l => do
    let l ← insertLoop a (i - a) l
    sortLoop a (i + 1) n l

/-- `insertionSort(data, a, b)` of package `sort`. -/
def insertionSort (l : CIDRList) (a b : Nat) : Except Panic CIDRList :=
  sortLoop a (a + 1) (b - (a + 1)) l

/-! ## The order the clients sort by -/

instance CIDR.instDecidableRelPrecedes : DecidableRel CIDR.Precedes :=
  fun a b => inferInstanceAs (Decidable (b.less a ≠ .ok true))

theorem CIDR.Precedes.trans {a b c : CIDR} (h₁ : a.Precedes b) (h₂ : b.Precedes c) :
    a.Precedes c :=
  CIDR.precedes_iff.2 (le_trans (CIDR.precedes_iff.1 h₁) (CIDR.precedes_iff.1 h₂))

instance CIDR.instIsTransPrecedes : IsTrans CIDR CIDR.Precedes where
  trans _ _ _ := CIDR.Precedes.trans

instance CIDR.instIsTotalPrecedes : IsTotal CIDR CIDR.Precedes where
  total a b := (le_total a.key b.key).imp CIDR.precedes_iff.2 CIDR.precedes_iff.2

theorem CIDR.not_precedes_iff {a b : CIDR} : ¬a.Precedes b ↔ b.less a = .ok true := by
  rw [CIDR.Precedes, not_not]

/-- Two arrangements of one list sort to the same list. -/
theorem insertionSort_precedes_perm {l l' : CIDRList} (h : l.Perm l') :
    List.insertionSort CIDR.Precedes l = List.insertionSort CIDR.Precedes l' :=
  List.eq_of_perm_of_sorted
    (((List.perm_insertionSort _ l).trans h).trans (List.perm_insertionSort _ l').symm)
    (List.sorted_insertionSort _ l) (List.sorted_insertionSort _ l')

/-! ## The interface after a swap -/

/-- A `Swap` that returns read two in-range entries and wrote each into the other's place. -/
theorem CIDRList.swap_ok {l l' : CIDRList} {i j : Nat} (h : l.swap i j = .ok l') :
    ∃ (hi : i < l.length) (hj : j < l.length), l' = (l.set i l[j]).set j l[i] := by
  obtain ⟨ci, hci, h⟩ := except_bind_eq_ok.1 h
  obtain ⟨cj, hcj, h⟩ := except_bind_eq_ok.1 h
  obtain ⟨hi, rfl⟩ := List.getElem?_eq_some_iff.1 (sliceGet_ok_iff.1 hci)
  obtain ⟨hj, rfl⟩ := List.getElem?_eq_some_iff.1 (sliceGet_ok_iff.1 hcj)
  exact ⟨hi, hj, (Except.ok.inj h).symm⟩

/-- After a `Swap(i, j)`, reading index `k` reads, or panics, as reading the exchanged index
did before. -/
theorem CIDRList.sliceGet_swap {l l' : CIDRList} {i j : Nat} (h : l.swap i j = .ok l')
    (k : Nat) : sliceGet l' k = sliceGet l (Equiv.swap i j k) := by
  obtain ⟨hi, hj, rfl⟩ := CIDRList.swap_ok h
  by_cases hkj : k = j
  · subst hkj
    simp [Equiv.swap_apply_right, hi, hj]
  · by_cases hki : k = i
    · subst hki
      simp [Equiv.swap_apply_left, hi, hj, List.getElem_set, Ne.symm hkj]
    · rw [Equiv.swap_apply_of_ne_of_ne hki hkj]
      simp [sliceGet, List.getElem?_set, Ne.symm hki, Ne.symm hkj]

/-- After `Swap(i, j)` returns, `Len` is unchanged and `Less(k, m)` answers, or panics, as
`Less` did at the indices the swap exchanged. -/
theorem CIDRList.less_after_swap {l l' : CIDRList} {i j : Nat} (h : l.swap i j = .ok l') :
    l'.len = l.len ∧ ∀ k m, l'.less k m = l.less (Equiv.swap i j k) (Equiv.swap i j m) := by
  refine ⟨?_, fun k m => ?_⟩
  · obtain ⟨-, -, rfl⟩ := CIDRList.swap_ok h
    simp [CIDRList.len]
  · simp only [CIDRList.less, CIDRList.sliceGet_swap h]

theorem CIDRList.less_after_swap_v4_pair :
    CIDRList.swap [⟨[192, 168, 0, 0], 16⟩, ⟨[10, 0, 0, 0], 8⟩] 0 1 =
        .ok [⟨[10, 0, 0, 0], 8⟩, ⟨[192, 168, 0, 0], 16⟩] ∧
      CIDRList.len [⟨[10, 0, 0, 0], 8⟩, ⟨[192, 168, 0, 0], 16⟩] =
        CIDRList.len [⟨[192, 168, 0, 0], 16⟩, ⟨[10, 0, 0, 0], 8⟩] ∧
      ∀ k m, CIDRList.less [⟨[10, 0, 0, 0], 8⟩, ⟨[192, 168, 0, 0], 16⟩] k m =
        CIDRList.less [⟨[192, 168, 0, 0], 16⟩, ⟨[10, 0, 0, 0], 8⟩] (Equiv.swap 0 1 k)
          (Equiv.swap 0 1 m) :=
  ⟨by decide, CIDRList.less_after_swap (by decide)⟩

/-! ## Adjacent entries -/

section Adjacent

variable (u v : CIDRList) (x y : CIDR)

theorem CIDRList.less_adjacent :
    (u ++ y :: x :: v).less (u.length + 1) u.length = .ok (decide (x.key < y.key)) := by
  rw [CIDRList.less_of_lt (by simp) (by simp)]
  simp [List.getElem_append_right]

theorem CIDRList.swap_adjacent :
    (u ++ y :: x :: v).swap (u.length + 1) u.length = .ok (u ++ x :: y :: v) := by
  simp [CIDRList.swap, List.getElem_append_right, List.set_append_right, pure, Except.pure]

end Adjacent

/-! ## `IsSorted` -/

theorem isSortedLoop_eq (l : CIDRList) : ∀ i, i < l.length →
    isSortedLoop l i = .ok (decide ((l.take (i + 1)).Chain' CIDR.Precedes))
  | 0, h => by
    obtain ⟨c, l, rfl⟩ := List.exists_cons_of_length_pos h
    simp [isSortedLoop, pure, Except.pure, List.chain'_singleton]
  | i + 1, h => by
    have hprev : l.take (i + 1) = l.take i ++ [l[i]] := by
      rw [List.take_succ, List.getElem?_eq_getElem (Nat.lt_of_succ_lt h)]
      rfl
    have htake : l.take (i + 1 + 1) = l.take i ++ [l[i], l[i + 1]] := by
      rw [List.take_succ, List.getElem?_eq_getElem h, hprev]
      simp only [Option.toList_some, List.append_assoc, List.singleton_append]
    simp only [isSortedLoop, CIDRList.less_of_lt h (Nat.lt_of_succ_lt h), except_ok_bind,
      isSortedLoop_eq l i (Nat.lt_of_succ_lt h), htake, List.chain'_split, List.chain'_pair,
      ← hprev]
    by_cases hlt : l[i + 1].key < l[i].key
    · have : ¬l[i].Precedes l[i + 1] := CIDR.not_precedes_iff.2 (CIDR.less_ok_true_iff.2 hlt)
      simp [hlt, this, pure, Except.pure]
    · have : l[i].Precedes l[i + 1] := fun h => hlt (CIDR.less_ok_true_iff.1 h)
      simp [hlt, this]

/-- `IsSorted` never panics, and checking adjacent pairs decides sortedness over all pairs. -/
theorem isSorted_eq (l : CIDRList) : isSorted l = .ok (decide l.SortedByLess) := by
  cases l with
  | nil => rfl
  | cons c l =>
    rw [isSorted, isSortedLoop_eq _ _ (by simp [CIDRList.len]),
      List.take_of_length_le (by simp [CIDRList.len])]
    exact congrArg Except.ok (decide_eq_decide.2
      (List.chain'_iff_pairwise.trans CIDRList.sortedByLess_iff.symm))

/-! ## `insertionSort` -/

section Insert

variable {x : CIDR} {l : CIDRList}

/-- Inserting an entry that no entry of the list follows appends it. -/
theorem orderedInsert_eq_append_singleton (hl : l.Sorted CIDR.Precedes)
    (hx : ∀ b ∈ l, b.Precedes x) : l.orderedInsert CIDR.Precedes x = l ++ [x] :=
  List.eq_of_perm_of_sorted
    ((List.perm_orderedInsert _ x l).trans (List.perm_append_singleton x l).symm)
    (hl.orderedInsert x l) (List.pairwise_append.2 ⟨hl, List.pairwise_singleton _ x,
      fun b hb _ hc => (List.mem_singleton.1 hc) ▸ hx b hb⟩)

/-- Inserting before the last entry leaves the last entry last. -/
theorem orderedInsert_append_singleton {y : CIDR} (hxy : x.Precedes y) :
    ∀ l : CIDRList, (l ++ [y]).orderedInsert CIDR.Precedes x =
      l.orderedInsert CIDR.Precedes x ++ [y]
  | [] => by simp [hxy]
  | b :: l => by
    by_cases hxb : x.Precedes b
    · simp [hxb]
    · simp [hxb, orderedInsert_append_singleton hxy l]

end Insert

/-- The inner loop over `front ++ s ++ x :: back`, with the sorted part `s` written as
`r.reverse` and `j` at `x`: it inserts `x` into `s`. -/
theorem insertLoop_eq (front : CIDRList) (x : CIDR) : ∀ (r back : CIDRList),
    r.reverse.Sorted CIDR.Precedes →
    insertLoop front.length r.length (front ++ r.reverse ++ x :: back) =
      .ok (front ++ r.reverse.orderedInsert CIDR.Precedes x ++ back)
  | [], back, _ => by simp [insertLoop, pure, Except.pure]
  | y :: r, back, hs => by
    rw [List.reverse_cons] at hs ⊢
    have hu : (front ++ r.reverse).length = front.length + r.length := by simp
    have hl : front ++ (r.reverse ++ [y]) ++ x :: back = front ++ r.reverse ++ y :: x :: back := by
      simp
    obtain ⟨hr, -, hry⟩ := List.pairwise_append.1 hs
    simp only [insertLoop, List.length_cons, hl, ← hu, CIDRList.less_adjacent, except_ok_bind]
    by_cases hlt : x.key < y.key
    · have hxy : x.Precedes y := CIDR.precedes_iff.2 (le_of_lt hlt)
      simp only [hlt, decide_True, if_true, CIDRList.swap_adjacent, except_ok_bind]
      rw [insertLoop_eq front x r (y :: back) hr, orderedInsert_append_singleton hxy]
      simp
    · have hyx : y.Precedes x := CIDR.precedes_iff.2 (not_lt.1 hlt)
      have hins := orderedInsert_eq_append_singleton hs fun b hb =>
        (List.mem_append.1 hb).elim (fun hb => (hry b hb y (List.mem_singleton_self y)).trans hyx)
          (fun hb => (List.mem_singleton.1 hb) ▸ hyx)
      simp [hlt, hins, pure, Except.pure]

/-- The outer loop over `front ++ s ++ rest ++ back` with the sorted part `s` before `i`:
its rounds insert the entries of `rest` one by one. -/
theorem sortLoop_eq (front back : CIDRList) : ∀ (rest s : CIDRList), s.Sorted CIDR.Precedes →
    sortLoop front.length (front.length + s.length) rest.length (front ++ s ++ rest ++ back) =
      .ok (front ++ List.insertionSort CIDR.Precedes (s ++ rest) ++ back)
  | [], s, hs => by simp [sortLoop, hs.insertionSort_eq, pure, Except.pure]
  | x :: rest, s, hs => by
    have hins := insertLoop_eq front x s.reverse (rest ++ back) (by rwa [List.reverse_reverse])
    rw [List.reverse_reverse, List.length_reverse] at hins
    have hlen : (s.orderedInsert CIDR.Precedes x).length = s.length + 1 :=
      List.orderedInsert_length _ s x
    have hperm : (s.orderedInsert CIDR.Precedes x ++ rest).Perm (s ++ x :: rest) :=
      ((List.perm_orderedInsert _ x s).append_right rest).trans List.perm_middle.symm
    have hl : front ++ s ++ x :: rest ++ back = front ++ s ++ x :: (rest ++ back) := by simp
    simp only [sortLoop, List.length_cons, Nat.add_sub_cancel_left]
    rw [hl, hins, except_ok_bind, ← List.append_assoc, Nat.add_assoc, ← hlen,
      sortLoop_eq front back rest _ (hs.orderedInsert x s), insertionSort_precedes_perm hperm]

/-- `insertionSort(data, a, b)` on a range `[a, b)` inside the list never panics, leaves the
entries outside the range in place and sorts the range as `List.insertionSort` does. -/
theorem insertionSort_eq_list_insertionSort (front mid back : CIDRList) :
    insertionSort (front ++ mid ++ back) front.length (front.length + mid.length) =
      .ok (front ++ List.insertionSort CIDR.Precedes mid ++ back) := by
  cases mid with
  | nil => simp [insertionSort, sortLoop, pure, Except.pure]
  | cons x rest =>
    have h := sortLoop_eq front back rest [x] (List.sorted_singleton x)
    rw [List.length_singleton] at h
    rw [insertionSort, List.length_cons, show front.length + (rest.length + 1) - (front.length + 1)
      = rest.length by omega]
    simpa using h

end V2Ray.Router
