import DataGrid.Dictionary
import Mathlib.Data.List.Lex
import Mathlib.Data.List.Sort
import Mathlib.Tactic.SplitIfs

/-!
# Dictionaries as sorted lists

The ids of a dictionary stand in the order of their bytes in UTF-8 (`pairwise_bytes`). As no id stands
twice, a dictionary is determined by its entries in any order: it is made of its own entries
(`ofList_entries`), and entries with different ids may be inserted in any order (`ofList_perm`). It is also
determined by the values that it has under the ids (`ext_find?`), which for a dictionary that is made of
entries are the last ones (`find?_ofList`).
-/

namespace DataGrid

/-! ### The order of bytes -/

/-- The bytes of a text in UTF-8. -/
def bytes (s : String) : List UInt8 := s.toUTF8.data.toList

theorem bytes_eq (s : String) : bytes s = s.toList.flatMap String.utf8EncodeChar := by
  rw [bytes, String.toUTF8, ← String.utf8Encode_toList]
  simp [List.utf8Encode]

/-- Characters are told apart by the bytes of the first that differs: longer encodings start with
larger bytes, and those of one length are numbers in base 64. -/
theorem encodeChar_append_lt {c d : Char} (h : c < d) (as bs : List UInt8) :
    String.utf8EncodeChar c ++ as < String.utf8EncodeChar d ++ bs := by
  have hlt : c.val.toNat < d.val.toNat := h
  have hd : d.val.toNat < 1114112 := by
    have := d.valid
    simp only [UInt32.isValidChar, Nat.isValidChar] at this
    omega
  have h2 (n : Nat) : n / 4096 = n / 64 / 64 := (Nat.div_div_eq_div_mul n 64 64).symm
  have h3 (n : Nat) : n / 262144 = n / 64 / 64 / 64 := by
    rw [Nat.div_div_eq_div_mul, Nat.div_div_eq_div_mul]
  unfold String.utf8EncodeChar
  dsimp only
  split_ifs <;>
    simp only [List.cons_append, List.nil_append, List.cons_lt_cons_iff, UInt8.lt_iff_toNat_lt,
      ← UInt8.toNat_inj, UInt8.toNat_ofNat', h2, h3] <;> omega

theorem flatMap_encodeChar_lt : ∀ {cs ds : List Char}, cs < ds →
    cs.flatMap String.utf8EncodeChar < ds.flatMap String.utf8EncodeChar
  | _, [], h => absurd h (List.not_lt_nil _)
  | [], d :: ds, _ => by
    obtain ⟨b, bs, hb⟩ := List.exists_cons_of_ne_nil (String.utf8EncodeChar_ne_nil (c := d))
    rw [List.flatMap_cons, hb]
    exact List.nil_lt_cons ..
  | c :: cs, d :: ds, h => by
    rw [List.flatMap_cons, List.flatMap_cons]
    rcases List.cons_lt_cons_iff.1 h with hlt | ⟨rfl, hlt⟩
    · exact encodeChar_append_lt hlt _ _
    · exact List.append_left_lt (flatMap_encodeChar_lt hlt)

theorem bytes_lt_bytes {s t : String} (h : s < t) : bytes s < bytes t := by
  rw [bytes_eq, bytes_eq]
  exact flatMap_encodeChar_lt (String.lt_iff.1 h)

namespace Dictionary

variable {α : Type}

theorem pairwise_bytes (dictionary : Dictionary α) :
    dictionary.entries.Pairwise fun entry entry' => bytes entry.1 < bytes entry'.1 :=
  dictionary.sorted.imp bytes_lt_bytes

/-! ### Entries in any order -/

theorem eq_of_perm {d d' : Dictionary α} (h : d.entries.Perm d'.entries) : d = d' := by
  have hentries : d.entries = d'.entries := by
    refine h.eq_of_pairwise (fun a b _ _ hab hba => ?_) d.sorted d'.sorted
    exact absurd (String.lt_trans hab hba) (String.lt_irrefl _)
  cases d
  cases d'
  cases hentries
  rfl

theorem insertEntry_perm {id : String} {value : α} : ∀ {entries : List (String × α)},
    id ∉ entries.map Prod.fst → (insertEntry id value entries).Perm ((id, value) :: entries)
  | [], _ => .refl _
  | (other, otherValue) :: rest, h => by
    rw [List.map_cons, List.mem_cons, not_or] at h
    unfold insertEntry
    split
    · exact .refl _
    · split
      · exact ((insertEntry_perm h.2).cons _).trans (.swap ..)
      · next hlt hgt => exact absurd (String.le_antisymm hgt hlt) h.1

/-- Nothing is lost when no id is inserted twice. -/
theorem entries_ofList_perm {entries : List (String × α)} (h : (entries.map Prod.fst).Nodup) :
    (ofList entries).entries.Perm entries := by
  have hfold (start : Dictionary α) (hstart : ((start.entries ++ entries).map Prod.fst).Nodup) :
      (entries.foldl (fun dictionary entry => dictionary.insert entry.1 entry.2) start).entries.Perm
        (start.entries ++ entries) := by
    clear h
    induction entries generalizing start with
    | nil =>
      rw [List.append_nil]
      exact .refl _
    | cons entry rest ih =>
      have hmove : (start.entries ++ entry :: rest).Perm (entry :: start.entries ++ rest) :=
        List.perm_middle
      have hnodup : ((entry :: start.entries ++ rest).map Prod.fst).Nodup :=
        (hmove.map Prod.fst).nodup_iff.1 hstart
      have hnew : entry.1 ∉ start.entries.map Prod.fst := by
        rw [List.cons_append, List.map_cons, List.nodup_cons, List.map_append] at hnodup
        exact fun hmem => hnodup.1 (List.mem_append_left _ hmem)
      have hinsert : (insertEntry entry.1 entry.2 start.entries ++ rest).Perm
          (entry :: start.entries ++ rest) := (insertEntry_perm hnew).append_right rest
      exact ((ih _ ((hinsert.map Prod.fst).nodup_iff.2 hnodup)).trans hinsert).trans hmove.symm
  exact hfold empty h

theorem nodup_ids (dictionary : Dictionary α) : (dictionary.entries.map Prod.fst).Nodup := by
  refine List.pairwise_map.2 (dictionary.sorted.imp ?_)
  intro entry entry' hlt heq
  rw [heq] at hlt
  exact String.lt_irrefl _ hlt

theorem ofList_perm {entries entries' : List (String × α)} (hperm : entries.Perm entries')
    (h : (entries.map Prod.fst).Nodup) : ofList entries = ofList entries' :=
  eq_of_perm (((entries_ofList_perm h).trans hperm).trans
    (entries_ofList_perm ((hperm.map Prod.fst).nodup_iff.1 h)).symm)

theorem ofList_entries (dictionary : Dictionary α) : ofList dictionary.entries = dictionary :=
  eq_of_perm (entries_ofList_perm dictionary.nodup_ids)

/-! ### Values under ids -/

theorem find?_eq_some_iff {d : Dictionary α} {id : String} {value : α} :
    d.find? id = some value ↔ (id, value) ∈ d.entries :=
  ⟨mem_of_find?, fun h => find?_of_mem h⟩

theorem ext_find? {d d' : Dictionary α} (h : ∀ id, d.find? id = d'.find? id) : d = d' := by
  refine eq_of_perm ((List.perm_ext_iff_of_nodup d.nodup_ids.of_map d'.nodup_ids.of_map).2 fun entry => ?_)
  rw [← find?_eq_some_iff, ← find?_eq_some_iff, h]

theorem lookup_cons_eq_ite (entry : String × α) (entries : List (String × α)) (id : String) :
    (entry :: entries).lookup id = if id = entry.1 then some entry.2 else entries.lookup id := by
  rw [List.lookup_cons]
  by_cases h : id = entry.1
  · rw [if_pos h, beq_iff_eq.2 h]
  · rw [if_neg h, beq_eq_false_iff_ne.2 h]

theorem lookup_insertEntry (id : String) (value : α) (other : String) : ∀ entries : List (String × α),
    (insertEntry id value entries).lookup other = if other = id then some value else entries.lookup other
  | [] => lookup_cons_eq_ite ..
  | (first, firstValue) :: rest => by
    unfold insertEntry
    split
    · exact lookup_cons_eq_ite ..
    · next hlt =>
      split
      · next hgt =>
        -- What is put behind the first entry has another id.
        have hne : id ≠ first := fun heq => String.lt_irrefl _ (heq ▸ hgt)
        rw [lookup_cons_eq_ite, lookup_cons_eq_ite, lookup_insertEntry id value other rest]
        by_cases h : other = first
        · rw [if_pos h, if_pos h, if_neg (h ▸ hne.symm)]
        · rw [if_neg h, if_neg h]
      · next hgt =>
        obtain rfl : first = id := String.le_antisymm hlt hgt
        rw [lookup_cons_eq_ite, lookup_cons_eq_ite]
        split <;> rfl

theorem find?_insert (d : Dictionary α) (id : String) (value : α) (other : String) :
    (d.insert id value).find? other = if other = id then some value else d.find? other :=
  lookup_insertEntry id value other d.entries

theorem find?_ofList (entries : List (String × α)) (id : String) :
    (ofList entries).find? id = entries.reverse.lookup id := by
  have hfold (start : Dictionary α) :
      (entries.foldl (fun dictionary entry => dictionary.insert entry.1 entry.2) start).find? id =
        (entries.reverse.lookup id).or (start.find? id) := by
    induction entries generalizing start with
    | nil => rfl
    | cons entry rest ih =>
      rw [List.foldl_cons, ih, find?_insert, List.reverse_cons, List.lookup_append, Option.or_assoc,
        lookup_cons_eq_ite]
      split <;> rfl
  rw [ofList, hfold]
  exact Option.or_none

theorem mem_ids_ofList {entries : List (String × α)} {id : String} :
    id ∈ (ofList entries).ids ↔ id ∈ entries.map Prod.fst := by
  rw [← List.contains_iff_mem, contains_ids, find?_ofList, List.lookup_isSome_iff, List.mem_map]
  exact exists_congr fun entry => by rw [List.mem_reverse, beq_iff_eq, eq_comm]

section
variable {front back : List (String × α)} {id : String}

theorem find?_ofList_append_cons (value : α) (other : String) :
    (ofList (front ++ (id, value) :: back)).find? other =
      (back.reverse.lookup other).or (if other = id then some value else front.reverse.lookup other) := by
  rw [find?_ofList, List.reverse_append, List.reverse_cons, List.append_assoc, List.lookup_append,
    List.singleton_append, lookup_cons_eq_ite]

/-- A value that is replaced by a later one does not count. -/
theorem ofList_of_mem (front : List (String × α)) (h : id ∈ back.map Prod.fst) (value value' : α) :
    ofList (front ++ (id, value') :: back) = ofList (front ++ (id, value) :: back) := by
  refine ext_find? fun other => ?_
  rw [find?_ofList_append_cons, find?_ofList_append_cons]
  by_cases hother : other = id
  · cases hback : back.reverse.lookup other with
    | some _ => rfl
    | none =>
      obtain ⟨entry, hentry, hid⟩ := List.mem_map.1 h
      have hne := List.lookup_eq_none_iff.1 hback entry (List.mem_reverse.2 hentry)
      exact absurd (hother.trans hid.symm) (bne_iff_ne.1 hne)
  · rw [if_neg hother, if_neg hother]

/-- The last value with an id counts, and another one in its place changes nothing else. -/
theorem ofList_of_notMem (front : List (String × α)) (h : id ∉ back.map Prod.fst) (value value' : α) :
    (ofList (front ++ (id, value) :: back)).find? id = some value ∧
      ofList (front ++ (id, value') :: back) = (ofList (front ++ (id, value) :: back)).insert id value' := by
  have hback : back.reverse.lookup id = none := by
    rw [List.lookup_eq_none_iff]
    intro entry hentry
    exact bne_iff_ne.2 fun heq => h (heq ▸ List.mem_map_of_mem (List.mem_reverse.1 hentry))
  refine ⟨?_, ext_find? fun other => ?_⟩
  · rw [find?_ofList_append_cons, hback, if_pos rfl, Option.none_or]
  · rw [find?_insert, find?_ofList_append_cons, find?_ofList_append_cons]
    by_cases hother : other = id
    · rw [if_pos hother, if_pos hother, hother, hback, Option.none_or]
    · rw [if_neg hother, if_neg hother, if_neg hother]

end

/-- No id is added when a value is replaced. -/
theorem map_fst_insertEntry {id : String} (value : α) : ∀ {entries : List (String × α)},
    (entries.Pairwise fun a b => a.1 < b.1) → id ∈ entries.map Prod.fst →
      (insertEntry id value entries).map Prod.fst = entries.map Prod.fst
  | (first, firstValue) :: rest, hsorted, h => by
    rw [List.pairwise_cons] at hsorted
    unfold insertEntry
    split_ifs with hlt hgt
    · rcases List.mem_cons.1 h with rfl | h
      · exact absurd hlt (String.lt_irrefl _)
      · obtain ⟨entry, hentry, rfl⟩ := List.mem_map.1 h
        exact absurd (String.lt_trans hlt (hsorted.1 entry hentry)) (String.lt_irrefl _)
    · rcases List.mem_cons.1 h with rfl | h
      · exact absurd hgt (String.lt_irrefl _)
      · rw [List.map_cons, List.map_cons, map_fst_insertEntry value hsorted.2 h]
    · rfl

theorem size_insert_of_find? {d : Dictionary α} {id : String} {value : α} (h : d.find? id = some value)
    (value' : α) : (d.insert id value').size = d.size := by
  have hids := map_fst_insertEntry value' d.sorted (List.mem_map_of_mem (mem_of_find? h))
  simpa [size, insert] using congrArg List.length hids

end Dictionary

end DataGrid
