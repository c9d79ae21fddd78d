import DataGrid.Proofs.Memory.Sorting
import DataGrid.Proofs.Page
import DataGrid.Proofs.Query

/-!
# Blocks of rows

A grid asks for its rows block by block. Each request filters and sorts all rows once more, and yet the
blocks fit together: one after the other they are the rows that the request without a range gets
(`flatMap_answer_block`).
-/

namespace DataGrid

/-- The request for all rows. -/
def Request.whole (request : Request) : Request := { request with startRow := none, endRow := none }

/-- The request for one of the blocks of `size` rows, which are numbered from 0 on. -/
def Request.block (request : Request) (size index : Nat) : Request :=
  { request with
    startRow := some (.ofNat (index * size))
    endRow := some (.ofNat ((index + 1) * size)) }

namespace Memory

/-- The rows that answer a request. -/
def answer (known : Known) (request : Request) (rows : List Row) : List Row :=
  (execute known (Query.create (backend known) request).value rows).value

/-- The rows that the filters of a request let through. -/
def matching (known : Known) (request : Request) (rows : List Row) : List Row :=
  rows.filter (request.filterModel.compile (backend known)).value

/-- The same rows in the order of the request. -/
def arranged (known : Known) (request : Request) (rows : List Row) : List Row :=
  (sortRows known (Sort.keys request.sortModel) (matching known request rows)).value

section
variable {known : Known} {request : Request} {rows : List Row}

theorem answer_eq_pageRows : answer known request rows =
    pageRows (Page.ofRange request.startRow request.endRow (Sort.keys request.sortModel)).toOption
      (arranged known request rows) := by
  rw [answer, Query.value_create]
  rfl

theorem length_arranged : (arranged known request rows).length = (matching known request rows).length := by
  rw [arranged, value_sortRows]
  exact List.length_mergeSort _

theorem answer_whole : answer known request.whole rows = arranged known request rows :=
  answer_eq_pageRows

theorem answer_block {size index : Nat} (hsize : 1 ≤ size)
    (hmax : (index + 1) * size ≤ Int64.maxValue.toNatClampNeg) :
    answer known (request.block size index) rows =
      ((arranged known request rows).drop (index * size)).take size := by
  obtain ⟨page, hpage, hrows, hoffset⟩ :=
    Page.exists_ofRange_block hsize hmax (Sort.keys request.sortModel)
  have hanswer : answer known (request.block size index) rows = pageRows (some page)
      (arranged known request rows) := by
    rw [answer_eq_pageRows, Request.block]
    dsimp only
    rw [hpage]
    rfl
  rw [hanswer, pageRows, hrows, hoffset]

end

theorem flatMap_drop_take {α : Type} (l : List α) (size count : Nat) :
    (List.range count).flatMap (fun index => (l.drop (index * size)).take size) = l.take (count * size) := by
  induction count with
  | zero => simp
  | succ count ih =>
    rw [List.range_succ, List.flatMap_append, ih, List.flatMap_singleton, ← List.take_add, Nat.succ_mul]

/-- As many blocks as are needed for all rows are, one after the other, the rows without a range, and
each is the part of them that it asks for. -/
theorem flatMap_answer_block (known : Known) (request : Request) (rows : List Row) {size count : Nat}
    (hsize : 1 ≤ size) (hcount : (matching known request rows).length ≤ count * size)
    (hmax : count * size ≤ Int64.maxValue.toNatClampNeg) :
    (List.range count).flatMap (fun index => answer known (request.block size index) rows) =
        answer known request.whole rows ∧
      ∀ index < count, answer known (request.block size index) rows =
        (answer known request.whole rows).extract (index * size) ((index + 1) * size) := by
  have hblock : ∀ index < count, answer known (request.block size index) rows =
      ((arranged known request rows).drop (index * size)).take size := by
    intro index hindex
    have hlast : (index + 1) * size ≤ count * size := Nat.mul_le_mul_right size hindex
    exact answer_block hsize (Nat.le_trans hlast hmax)
  rw [answer_whole]
  constructor
  · have hblocks := List.flatMap_congr fun index hindex => hblock index (List.mem_range.1 hindex)
    rw [hblocks, flatMap_drop_take, List.take_of_length_le]
    rw [length_arranged]
    exact hcount
  · intro index hindex
    rw [hblock index hindex, List.extract_eq_take_drop, Nat.succ_mul, Nat.add_sub_cancel_left]

/-- Two blocks, of which the border goes through rows that no key tells apart. -/
theorem flatMap_answer_block_ties :
    let rows : List Row :=
      [[("n", .nat 2), ("s", .text "a")], [("s", .text "b")], [("n", .nat 1), ("s", .text "c")],
        [("n", .nat 2), ("s", .text "d")], [("n", .nat 2), ("s", .text "e")]]
    let request : Request := {
      sortModel := [⟨"n", none⟩]
      filterModel := ⟨[("s", .single (.text (some .notEqual) (some "c")) none)],
        List.pairwise_singleton ..⟩ }
    1 ≤ 2 ∧ (matching none request rows).length ≤ 2 * 2 ∧ 2 * 2 ≤ Int64.maxValue.toNatClampNeg ∧
      (List.range 2).flatMap (fun index => answer none (request.block 2 index) rows) =
        answer none request.whole rows ∧
      ∀ index < 2, answer none (request.block 2 index) rows =
        (answer none request.whole rows).extract (index * 2) ((index + 1) * 2) := by
  intro rows request
  have hsize : 1 ≤ 2 := by decide
  have hcount : (matching none request rows).length ≤ 2 * 2 := by decide
  have hmax : 2 * 2 ≤ Int64.maxValue.toNatClampNeg := by decide
  exact ⟨hsize, hcount, hmax, flatMap_answer_block none request rows hsize hcount hmax⟩

end Memory

end DataGrid
