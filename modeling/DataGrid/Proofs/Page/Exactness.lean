import DataGrid.Proofs.Page
import DataGrid.Query

/-!
# Exact arithmetic of pages

The page of a range is computed with integers of 64 bits. `Page.ofRange?` and `Page.offset?` are these
computations by operations that have no result when they overflow or divide by zero. They have one for
all ranges, so no operation ever does. `Page.create_exact` says besides which ranges have a page, what is
reported of the others, and how the rows of a page lie in its range.
-/

namespace DataGrid

/-! ### Operations without overflow

Each has a result only when that is the exact one. -/

namespace Checked

def sub? (a b : Int64) : Option Int64 :=
  if (a - b).toInt = a.toInt - b.toInt then some (a - b) else none

def toUInt64? (a : Int64) : Option UInt64 :=
  if a.toUInt64.toNat = a.toInt then some a.toUInt64 else none

def div? (a b : UInt64) : Option UInt64 := if b = 0 then none else some (a / b)

def mul? (a b : UInt64) : Option UInt64 :=
  if (a * b).toNat = a.toNat * b.toNat then some (a * b) else none

end Checked

namespace Page

open Checked

def offset? (page : Page) : Option UInt64 := mul? page.index page.size

def ofRange? (start stop : Option Int64) (sort : List Sort.Key) : Option (Except PageError Page) :=
  match start, stop with
  | some start, some stop =>
    if stop ≤ start then return .error (.emptyRange start stop)
    else if start < 0 then return .error (.negativeStart start)
    else do
      let size ← sub? stop start
      if size ≤ 0 then return .error (.nonPositiveSize size)
      else do
        let size ← toUInt64? size
        let first ← toUInt64? start
        return .ok ⟨← div? first size, size, sort⟩
  | start, stop => return .error (.missingBounds start stop)

/-! ### Ranges -/

/-- What is reported of a range that has no page. That its size is not positive is never reported. -/
inductive Rejects : Option Int64 → Option Int64 → PageError → Prop
  | missingBounds {start stop : Option Int64} (h : start = none ∨ stop = none) :
    Rejects start stop (.missingBounds start stop)
  | emptyRange {first last : Int64} (h : last.toInt ≤ first.toInt) :
    Rejects (some first) (some last) (.emptyRange first last)
  | negativeStart {first last : Int64} (h : first.toInt < last.toInt) (hfirst : first.toInt < 0) :
    Rejects (some first) (some last) (.negativeStart first)

/-- The page is as long as the range. It begins with the range or before, and ends with it or before. -/
structure Covers (page : Page) (first last : Int) : Prop where
  size_eq : page.size.toNat = last - first
  offset_le : page.offset.toNat ≤ first
  first_lt : first < page.offset.toNat + page.size.toNat
  end_le : page.offset.toNat + page.size.toNat ≤ last
  offset_eq_iff : page.offset.toNat = first ↔ (page.size.toNat : Int) ∣ first

theorem cast_toUInt64 {a : Int64} (h : 0 ≤ a) : a.toUInt64.toNat = a.toInt := by
  rw [Int64.toNat_toUInt64_of_le h, Int64.cast_toNatClampNeg a h]

theorem offset?_eq {page : Page} {first : UInt64} (h : page.index = first / page.size) :
    page.offset? = some page.offset := by
  refine if_pos ?_
  rw [h, toNat_div_mul, UInt64.toNat_div]

/-- A page at the last multiple of its size up to the start of the range. -/
theorem covers_of_offset_eq {page : Page} {first : Nat} {last : Int} (hlast : first < last)
    (hsize : page.size.toNat = last - first)
    (hoffset : page.offset.toNat = first / page.size.toNat * page.size.toNat) : page.Covers first last := by
  have hle := Nat.div_mul_le_self first page.size.toNat
  have hlt : first < first / page.size.toNat * page.size.toNat + page.size.toNat :=
    Nat.lt_div_mul_add (by omega)
  rw [← hoffset] at hle hlt
  refine ⟨hsize, by omega, by omega, by omega, ?_⟩
  rw [Int.ofNat_inj, Int.natCast_dvd_natCast, Nat.dvd_iff_div_mul_eq, hoffset]

section
variable {start stop : Int64} (hstart : 0 ≤ start) (h : start < stop) (sort : List Sort.Key)
include hstart h

theorem cast_size : (stop - start).toUInt64.toNat = stop.toInt - start.toInt := by
  rw [cast_toUInt64 (Int64.le_of_lt (sub_pos hstart h)),
    Int64.toInt_sub_of_le _ _ hstart (Int64.le_of_lt h)]

theorem size_pos : 0 < (stop - start).toUInt64.toNat := by
  have hsize := cast_size hstart h
  have hlt := Int64.lt_iff_toInt_lt.1 h
  omega

theorem ofRange?_eq_ok : ofRange? (some start) (some stop) sort =
    some (.ok ⟨start.toUInt64 / (stop - start).toUInt64, (stop - start).toUInt64, sort⟩) := by
  have hempty : ¬ stop ≤ start := Int64.not_le.2 h
  have hnegative : ¬ start < 0 := Int64.not_lt.2 hstart
  have hpos := sub_pos hstart h
  have hsub : sub? stop start = some (stop - start) :=
    if_pos (Int64.toInt_sub_of_le _ _ hstart (Int64.le_of_lt h))
  have hfirst : toUInt64? start = some start.toUInt64 := if_pos (cast_toUInt64 hstart)
  have hsize : toUInt64? (stop - start) = some (stop - start).toUInt64 :=
    if_pos (cast_toUInt64 (Int64.le_of_lt hpos))
  have hdiv : div? start.toUInt64 (stop - start).toUInt64 =
      some (start.toUInt64 / (stop - start).toUInt64) := by
    refine if_neg fun hzero => ?_
    have hpos := size_pos hstart h
    rw [hzero] at hpos
    exact absurd hpos (by decide)
  rw [ofRange?, if_neg hempty, if_neg hnegative]
  simp only [hsub, hfirst, hsize, hdiv, if_neg (Int64.not_le.2 hpos), Option.bind_eq_bind,
    Option.bind_some, Option.pure_def]

theorem covers_ofRange :
    Covers ⟨start.toUInt64 / (stop - start).toUInt64, (stop - start).toUInt64, sort⟩
      start.toInt stop.toInt := by
  have hlt := Int64.lt_iff_toInt_lt.1 h
  have hfirst := cast_toUInt64 hstart
  rw [← hfirst] at hlt ⊢
  refine covers_of_offset_eq hlt ?_ (toNat_div_mul ..)
  rw [hfirst]
  exact cast_size hstart h

end

/-! ### Answers to ranges -/

section
variable {start stop : Option Int64} {sort : List Sort.Key}

theorem create_of_ok {page : Page} (h : ofRange start stop sort = .ok page) :
    create start stop sort = ⟨some page, [.pageCreated page start stop]⟩ := by
  rw [create, h]
  rfl

theorem create_of_error {error : PageError} (h : ofRange start stop sort = .error error) :
    create start stop sort = ⟨none, [.pageRejected error]⟩ := by
  rw [create, h]
  rfl

/-- A range is one of rows, or something is wrong with it. -/
theorem exists_rejects_or (start stop : Option Int64) :
    (∃ error, Rejects start stop error) ∨
      ∃ first last, start = some first ∧ stop = some last ∧ 0 ≤ first ∧ first < last := by
  match start, stop with
  | none, _ => exact .inl ⟨_, .missingBounds (.inl rfl)⟩
  | some _, none => exact .inl ⟨_, .missingBounds (.inr rfl)⟩
  | some first, some last =>
    by_cases h : first < last
    · by_cases hfirst : 0 ≤ first
      · exact .inr ⟨first, last, rfl, rfl, hfirst, h⟩
      · have hnegative := Int64.lt_iff_toInt_lt.1 (Int64.not_le.1 hfirst)
        exact .inl ⟨_, .negativeStart (Int64.lt_iff_toInt_lt.1 h) hnegative⟩
    · exact .inl ⟨_, .emptyRange (Int64.le_iff_toInt_le.1 (Int64.not_lt.1 h))⟩

theorem Rejects.ofRange_eq {error : PageError} (h : Rejects start stop error) (sort : List Sort.Key) :
    ofRange start stop sort = .error error ∧ ofRange? start stop sort = some (.error error) := by
  cases h with
  | missingBounds h =>
    match start, stop with
    | none, _ => exact ⟨rfl, rfl⟩
    | some _, none => exact ⟨rfl, rfl⟩
    | some _, some _ => simp at h
  | @emptyRange first last h =>
    have hempty : last ≤ first := Int64.le_iff_toInt_le.2 h
    exact ⟨if_pos hempty, if_pos hempty⟩
  | @negativeStart first last h hfirst =>
    have hempty : ¬ last ≤ first := Int64.not_le.2 (Int64.lt_iff_toInt_lt.2 h)
    have hnegative : first < 0 := Int64.lt_iff_toInt_lt.2 hfirst
    exact ⟨(if_neg hempty).trans (if_pos hnegative), (if_neg hempty).trans (if_pos hnegative)⟩

theorem Rejects.not_range {error : PageError} (h : Rejects start stop error) :
    ¬ ∃ first ∈ start, ∃ last ∈ stop, 0 ≤ first.toInt ∧ first.toInt < last.toInt := by
  rintro ⟨first, rfl, last, rfl, hfirst, hlast⟩
  cases h with
  | missingBounds h => simp at h
  | emptyRange h => omega
  | negativeStart _ h => omega

/-- For all ranges no operation overflows or divides by zero. A range has a page exactly if it has both
bounds, is not empty and does not start before the first row; the page covers it, and its offset does not
overflow. All other ranges get one report and no page. -/
theorem create_exact (start stop : Option Int64) (sort : List Sort.Key) :
    ofRange? start stop sort = some (ofRange start stop sort) ∧
      ((create start stop sort).value.isSome = true ↔
        ∃ first ∈ start, ∃ last ∈ stop, 0 ≤ first.toInt ∧ first.toInt < last.toInt) ∧
      (∀ page, (create start stop sort).value = some page →
        (create start stop sort).events = [.pageCreated page start stop] ∧ page.sort = sort ∧
          page.offset? = some page.offset ∧
          ∃ first ∈ start, ∃ last ∈ stop, page.Covers first.toInt last.toInt) ∧
      ((create start stop sort).value = none → ∃ error,
        (create start stop sort).events = [.pageRejected error] ∧ Rejects start stop error) ∧
      ∀ size, .pageRejected (.nonPositiveSize size) ∉ (create start stop sort).events := by
  rcases exists_rejects_or start stop with ⟨error, h⟩ | ⟨first, last, rfl, rfl, hfirst, hlast⟩
  · obtain ⟨hrange, hrange?⟩ := h.ofRange_eq sort
    rw [create_of_error hrange, hrange, hrange?]
    refine ⟨rfl, ⟨nofun, fun hpage => absurd hpage h.not_range⟩, nofun, fun _ => ⟨error, rfl, h⟩, ?_⟩
    intro size hsize
    rw [List.mem_singleton] at hsize
    cases hsize
    cases h
  · rw [create_of_ok (ofRange_eq_ok hfirst hlast sort), ofRange_eq_ok hfirst hlast sort,
      ofRange?_eq_ok hfirst hlast sort]
    refine ⟨rfl, ⟨fun _ => ?_, fun _ => rfl⟩, ?_, nofun, fun size => by simp⟩
    · exact ⟨first, rfl, last, rfl, Int64.le_iff_toInt_le.1 hfirst, Int64.lt_iff_toInt_lt.1 hlast⟩
    · rintro page ⟨⟩
      exact ⟨rfl, rfl, offset?_eq rfl, first, rfl, last, rfl, covers_ofRange hfirst hlast sort⟩

end

end Page

end DataGrid
