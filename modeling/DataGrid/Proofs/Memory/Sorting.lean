import DataGrid.Proofs.Memory.Order

/-!
# Sorted rows

Sorting loses no row and adds none, puts rows in the order of the keys on known columns, and leaves those
in their order that no such key tells apart. There is one such list for each list of rows
(`eq_sortRows_iff`).
-/

namespace DataGrid.Memory

open Std (OrientedCmp TransCmp)

/-! ### Stable sorting -/

section
variable {α : Type} {cmp : α → α → Ordering} [TransCmp cmp]

theorem isLE_or_isLE (a b : α) : ((cmp a b).isLE || (cmp b a).isLE) = true := by
  cases hab : (cmp a b).isLE with
  | true => rfl
  | false =>
    have hba : cmp b a = .lt := OrientedCmp.lt_of_not_isLE (by simp [hab])
    rw [hba]
    rfl

/-- The elements that are equal to one of them stay in their order. -/
theorem filter_mergeSort_isLE (a : α) (l : List α) :
    (l.mergeSort fun b c => (cmp b c).isLE).filter (fun b => cmp a b = .eq) =
      l.filter fun b => cmp a b = .eq := by
  have hclass : (l.filter fun b => cmp a b = .eq).Pairwise fun b c => (cmp b c).isLE = true := by
    refine List.pairwise_iff_forall_sublist.2 fun {b c} hbc => ?_
    have hb : cmp a b = .eq := by simpa using (List.mem_filter.1 (hbc.subset (by simp))).2
    have hc : cmp a c = .eq := by simpa using (List.mem_filter.1 (hbc.subset (by simp))).2
    rw [TransCmp.eq_trans (OrientedCmp.eq_symm hb) hc]
    rfl
  -- sorting keeps what is in order already, and the class has no more members afterwards
  have hkept := List.sublist_mergeSort (fun _ _ _ => TransCmp.isLE_trans) isLE_or_isLE hclass
    List.filter_sublist
  have hsublist := hkept.filter fun b => decide (cmp a b = .eq)
  rw [List.filter_filter] at hsublist
  simp only [Bool.and_self] at hsublist
  exact (hsublist.eq_of_length ((List.mergeSort_perm l _).filter _).length_eq.symm).symm

theorem isLE_head {a b : α} {l : List α} (h : (a :: l).Pairwise fun b c => (cmp b c).isLE = true)
    (hb : b ∈ a :: l) : (cmp a b).isLE = true := by
  rcases List.mem_cons.1 hb with rfl | hb
  · have hself : cmp b b = .eq := Std.ReflCmp.compare_self
    rw [hself]
    rfl
  · exact (List.pairwise_cons.1 h).1 b hb

/-- Two lists in order with the same elements are the same, if equal elements are in the same order. -/
theorem eq_of_pairwise_of_filter : ∀ {l l' : List α}, l.Perm l' →
    (l.Pairwise fun a b => (cmp a b).isLE = true) → (l'.Pairwise fun a b => (cmp a b).isLE = true) →
      (∀ a, l.filter (fun b => cmp a b = .eq) = l'.filter fun b => cmp a b = .eq) → l = l'
  | [], _, hperm, _, _, _ => hperm.nil_eq
  | a :: l, [], hperm, _, _, _ => absurd hperm.eq_nil nofun
  | a :: l, b :: l', hperm, hl, hl', hclass => by
    have hab : (cmp a b).isLE = true := isLE_head hl (hperm.symm.subset List.mem_cons_self)
    have hba : (cmp b a).isLE = true := isLE_head hl' (hperm.subset List.mem_cons_self)
    have heq : cmp a b = .eq := OrientedCmp.isLE_antisymm hab hba
    have hself : cmp a a = .eq := Std.ReflCmp.compare_self
    -- both heads are first in one class
    obtain rfl : a = b := by
      have h := hclass a
      rw [List.filter_cons_of_pos (by simpa using hself), List.filter_cons_of_pos (by simpa using heq)] at h
      exact (List.cons.inj h).1
    refine congrArg _ (eq_of_pairwise_of_filter hperm.cons_inv hl.of_cons hl'.of_cons fun c => ?_)
    have h := hclass c
    rw [List.filter_cons, List.filter_cons] at h
    split at h
    · exact (List.cons.inj h).2
    · exact h

end

/-! ### Rows -/

/-- The rows in the order of the keys. -/
structure SortedBy (keys : List Sort.Key) (rows sorted : List Row) : Prop where
  perm : sorted.Perm rows
  /-- No row precedes one that is before it. -/
  ordered : sorted.Pairwise fun a b => ¬ Precedes keys b a
  /-- The rows that no key tells apart from a row are still in the same order. -/
  stable : ∀ a, sorted.filter (fun b => Tied keys a b) = rows.filter fun b => Tied keys a b

theorem value_knownKeys (known : Known) : ∀ keys : List Sort.Key,
    (knownKeys known keys).value = keys.filter fun key => known.has key.column
  | [] => rfl
  | key :: keys => by
    rw [knownKeys, List.filter_cons, ← value_knownKeys known keys]
    split <;> rfl

theorem value_sortRows (known : Known) (keys : List Sort.Key) (rows : List Row) :
    (sortRows known keys rows).value = rows.mergeSort fun a b =>
      (compareRows (keys.filter fun key => known.has key.column) a b).isLE := by
  rw [← value_knownKeys]
  rfl

section
variable {keys : List Sort.Key} {rows sorted : List Row}

theorem sortedBy_iff : SortedBy keys rows sorted ↔ sorted.Perm rows ∧
    (sorted.Pairwise fun a b => (compareRows keys a b).isLE = true) ∧
      ∀ a, sorted.filter (fun b => compareRows keys a b = .eq) =
        rows.filter fun b => compareRows keys a b = .eq := by
  have hordered : ∀ a b, ¬ Precedes keys b a ↔ (compareRows keys a b).isLE = true := by
    intro a b
    rw [← compareRows_eq_lt_iff]
    constructor
    · intro h
      by_contra hle
      exact h (OrientedCmp.lt_of_not_isLE hle)
    · exact fun h => OrientedCmp.not_lt_of_isLE h
  have hstable : ∀ a b, decide (Tied keys a b) = decide (compareRows keys a b = .eq) :=
    fun a b => decide_eq_decide.2 compareRows_eq_eq_iff.symm
  constructor
  · rintro ⟨hperm, h, hclass⟩
    simp only [hordered, hstable] at h hclass
    exact ⟨hperm, h, hclass⟩
  · rintro ⟨hperm, h, hclass⟩
    simp only [← hordered, ← hstable] at h hclass
    exact ⟨hperm, h, hclass⟩

theorem sortedBy_mergeSort (keys : List Sort.Key) (rows : List Row) :
    SortedBy keys rows (rows.mergeSort fun a b => (compareRows keys a b).isLE) :=
  sortedBy_iff.2 ⟨List.mergeSort_perm _ _,
    List.pairwise_mergeSort (fun _ _ _ => TransCmp.isLE_trans) isLE_or_isLE rows,
    fun a => filter_mergeSort_isLE a rows⟩

theorem SortedBy.unique {sorted' : List Row} (h : SortedBy keys rows sorted)
    (h' : SortedBy keys rows sorted') : sorted = sorted' := by
  obtain ⟨hperm, hordered, hclass⟩ := sortedBy_iff.1 h
  obtain ⟨hperm', hordered', hclass'⟩ := sortedBy_iff.1 h'
  exact eq_of_pairwise_of_filter (hperm.trans hperm'.symm) hordered hordered'
    fun a => (hclass a).trans (hclass' a).symm

end

/-- Sorting gives the one list of the same rows that is in the order of the keys on known columns and
keeps rows in their order which no such key tells apart. -/
theorem eq_sortRows_iff (known : Known) (keys : List Sort.Key) (rows sorted : List Row) :
    sorted = (sortRows known keys rows).value ↔
      SortedBy (keys.filter fun key => known.has key.column) rows sorted := by
  rw [value_sortRows]
  constructor
  · rintro rfl
    exact sortedBy_mergeSort _ rows
  · exact fun h => h.unique (sortedBy_mergeSort _ rows)

end DataGrid.Memory
