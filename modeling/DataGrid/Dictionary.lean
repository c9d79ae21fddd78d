/-!
# Dictionaries

Values under ids, in the order of the ids and without repeats. Ids are ordered by their characters,
which is also the order of their bytes in UTF-8.
-/

namespace DataGrid

structure Dictionary (α : Type) where
  entries : List (String × α)
  sorted : entries.Pairwise fun a b => a.1 < b.1

namespace Dictionary

variable {α : Type}

def empty : Dictionary α := ⟨[], .nil⟩

/-- The entries with one more, which takes the place of the one with the same id. -/
def insertEntry (id : String) (value : α) : List (String × α) → List (String × α)
  | [] => [(id, value)]
  | (other, otherValue) :: rest =>
    if id < other then (id, value) :: (other, otherValue) :: rest
    else if other < id then (other, otherValue) :: insertEntry id value rest
    else (other, value) :: rest

theorem eq_or_mem_of_mem_insertEntry {id : String} {value : α} {entries : List (String × α)}
    {entry : String × α} (h : entry ∈ insertEntry id value entries) :
    entry.1 = id ∨ ∃ old ∈ entries, entry.1 = old.1 := by
  induction entries with
  | nil => exact .inl (by simp_all [insertEntry])
  | cons e rest ih =>
    unfold insertEntry at h
    split at h
    · rcases List.mem_cons.1 h with rfl | h
      · exact .inl rfl
      · exact .inr ⟨entry, h, rfl⟩
    · split at h
      · rcases List.mem_cons.1 h with rfl | h
        · exact .inr ⟨_, List.mem_cons_self, rfl⟩
        · exact (ih h).imp_right fun ⟨old, ho, he⟩ => ⟨old, List.mem_cons_of_mem _ ho, he⟩
      · rcases List.mem_cons.1 h with rfl | h
        · exact .inr ⟨_, List.mem_cons_self, rfl⟩
        · exact .inr ⟨entry, List.mem_cons_of_mem _ h, rfl⟩

theorem pairwise_insertEntry (id : String) (value : α) {entries : List (String × α)}
    (h : entries.Pairwise fun a b => a.1 < b.1) :
    (insertEntry id value entries).Pairwise fun a b => a.1 < b.1 := by
  induction entries with
  | nil => simp [insertEntry]
  | cons e rest ih =>
    rw [List.pairwise_cons] at h
    unfold insertEntry
    split
    · rename_i hlt
      refine List.pairwise_cons.2 ⟨fun b hb => ?_, List.pairwise_cons.2 h⟩
      rcases List.mem_cons.1 hb with rfl | hb
      · exact hlt
      · exact String.lt_trans hlt (h.1 b hb)
    · split
      · rename_i hlt
        refine List.pairwise_cons.2 ⟨fun b hb => ?_, ih h.2⟩
        rcases eq_or_mem_of_mem_insertEntry hb with hid | ⟨old, ho, hid⟩
        · exact hid ▸ hlt
        · exact hid ▸ h.1 old ho
      · exact List.pairwise_cons.2 h

def insert (dictionary : Dictionary α) (id : String) (value : α) : Dictionary α :=
  ⟨insertEntry id value dictionary.entries, pairwise_insertEntry id value dictionary.sorted⟩

/-- The dictionary of some entries; of those with the same id the last one counts. -/
def ofList (entries : List (String × α)) : Dictionary α :=
  entries.foldl (fun dictionary entry => dictionary.insert entry.1 entry.2) empty

section
variable {P : α → Prop}

theorem forall_insertEntry {id : String} {value : α} (hvalue : P value) {entries : List (String × α)}
    (h : ∀ entry ∈ entries, P entry.2) : ∀ entry ∈ insertEntry id value entries, P entry.2 := by
  induction entries with
  | nil => simpa [insertEntry] using hvalue
  | cons e rest ih =>
    rw [List.forall_mem_cons] at h
    unfold insertEntry
    split
    · exact List.forall_mem_cons.2 ⟨hvalue, List.forall_mem_cons.2 h⟩
    · split
      · exact List.forall_mem_cons.2 ⟨h.1, ih h.2⟩
      · exact List.forall_mem_cons.2 ⟨hvalue, h.2⟩

/-- The values of a dictionary are values of the entries that it is made of. -/
theorem forall_ofList {entries : List (String × α)} (h : ∀ entry ∈ entries, P entry.2) :
    ∀ entry ∈ (ofList entries).entries, P entry.2 := by
  have hfold (start : Dictionary α) (hstart : ∀ entry ∈ start.entries, P entry.2) :
      ∀ entry ∈ (entries.foldl (fun dictionary entry => dictionary.insert entry.1 entry.2) start).entries,
        P entry.2 := by
    induction entries generalizing start with
    | nil => exact hstart
    | cons e rest ih =>
      rw [List.forall_mem_cons] at h
      exact ih h.2 _ (forall_insertEntry h.1 hstart)
  exact hfold empty nofun

end

def find? (dictionary : Dictionary α) (id : String) : Option α := dictionary.entries.lookup id

def ids (dictionary : Dictionary α) : List String := dictionary.entries.map (·.1)

def size (dictionary : Dictionary α) : Nat := dictionary.entries.length

theorem contains_ids (dictionary : Dictionary α) (id : String) :
    dictionary.ids.contains id = (dictionary.find? id).isSome := by
  unfold ids find?
  induction dictionary.entries with
  | nil => rfl
  | cons entry rest ih =>
    rw [List.map_cons, List.contains_cons, List.lookup_cons, ih]
    cases id == entry.1 <;> rfl

/-- No id stands twice, so each entry is found. -/
theorem find?_of_mem {dictionary : Dictionary α} {entry : String × α} (h : entry ∈ dictionary.entries) :
    dictionary.find? entry.1 = some entry.2 := by
  obtain ⟨entries, sorted⟩ := dictionary
  unfold find?
  induction entries with
  | nil => cases h
  | cons other rest ih =>
    rw [List.pairwise_cons] at sorted
    rw [List.lookup_cons]
    rcases List.mem_cons.1 h with rfl | h
    · simp
    · have hne : (entry.1 == other.1) = false := by
        rw [beq_eq_false_iff_ne]
        intro hid
        exact String.lt_irrefl _ (hid ▸ sorted.1 entry h)
      rw [hne]
      exact ih sorted.2 h

theorem mem_of_find? {dictionary : Dictionary α} {id : String} {value : α}
    (h : dictionary.find? id = some value) : (id, value) ∈ dictionary.entries := by
  obtain ⟨before, rest, hentries, -⟩ := List.lookup_eq_some_iff.1 h
  rw [hentries]
  exact List.mem_append_right _ List.mem_cons_self

end Dictionary

end DataGrid
