import DataGrid.Proofs.Dictionary
import DataGrid.Proofs.Filter.Reordering
import DataGrid.Proofs.Json.Edits
import DataGrid.Request
import Mathlib.Data.List.Dedup

/-!
# The filters of a request

The filters are a field of their own. They are read from their place in the source of a request, which is the
member with their name in an object, and the fourth item of an array (`Request.readsFilters`). Their columns are the
names of the members there, as often as these are repeated (`Request.mem_ids_iff`), and the filter of a column is made
of the last value with its name (`Request.find?_filterModel`).
-/

namespace DataGrid

open Json (Source Reader)

/-! ### Filters as plain values -/

namespace Filter

section
variable {room : Nat}

theorem raw_of_readMembers : ∀ {members : Source.Members} {hasFamily : Bool} {list : List (String × Json)},
    readMembers room hasFamily members.tree = .ok list → members.tree.raw room = .ok list
  | .nil, _, _, h => h
  | .cons label before value after rest, _, _, h => by
    obtain ⟨name, v, tail, hname, hv, htail, rfl, -⟩ := readMembers_cons_iff.1 h
    exact Source.Members.raw_cons_iff.2 ⟨name, v, tail, hname, hv, raw_of_readMembers htail, rfl⟩

theorem Node.raw_of_read {s : Source} {node : Node} (h : Node.read room s.tree = .ok node) :
    ∃ v, s.tree.raw room = .ok v ∧ Node.ofJson? v = some node := by
  cases s with
  | object inner members =>
    cases room with
    | zero => cases h
    | succ room =>
      obtain ⟨list, hlist, hnode⟩ := Node.read_object_iff.1 h
      exact ⟨.object list, congrArg (Json.object <$> ·) (raw_of_readMembers hlist), hnode⟩
  | array inner items => cases room <;> cases h
  | null | bool | number | string => cases room <;> cases h

/-- A value and the node that it is read as, under one name. -/
def Reads (entry : String × Json) (entry' : String × Node) : Prop :=
  entry.1 = entry'.1 ∧ Node.ofJson? entry.2 = some entry'.2

theorem raw_of_entryMembers : ∀ {members : Source.Members} {list : List (String × Node)},
    Reader.entryMembers (Node.read room) members.tree = .ok list →
      ∃ entries, members.tree.raw room = .ok entries ∧ List.Forall₂ Reads entries list
  | .nil, _, h => by
    cases h
    exact ⟨[], rfl, .nil⟩
  | .cons label before value after rest, _, h => by
    obtain ⟨name, node, tail, hname, hnode, htail, rfl⟩ := Source.Members.entryMembers_cons_iff.1 h
    obtain ⟨v, hv, hofJson⟩ := Node.raw_of_read hnode
    obtain ⟨entries, hentries, hreads⟩ := raw_of_entryMembers htail
    exact ⟨(name, v) :: entries, Source.Members.raw_cons_iff.2 ⟨name, v, entries, hname, hv, hentries, rfl⟩,
      .cons ⟨rfl, hofJson⟩ hreads⟩

theorem lookup_of_reads {entries : List (String × Json)} {list : List (String × Node)}
    (h : List.Forall₂ Reads entries list) (id : String) :
    (entries.lookup id).map Node.ofJson? = (list.lookup id).map some := by
  induction h with
  | nil => rfl
  | cons hentry _ ih =>
    rw [Dictionary.lookup_cons_eq_ite, Dictionary.lookup_cons_eq_ite, ← hentry.1]
    split
    · exact congrArg some hentry.2
    · exact ih

theorem Model.raw_of_read {s : Source} {m : Model} (h : Model.read room s.tree = .ok m) :
    ∃ entries, s.tree.raw room = .ok (.object entries) ∧
      ∀ id, ((Dictionary.ofList entries).find? id).map Node.ofJson? = (m.find? id).map some := by
  obtain ⟨list, hlist, h⟩ := Except.exists_of_bind_eq_ok h
  cases h
  cases s with
  | object inner members =>
    cases room with
    | zero => cases hlist
    | succ room =>
      obtain ⟨entries, hentries, hreads⟩ := raw_of_entryMembers hlist
      refine ⟨entries, congrArg (Json.object <$> ·) hentries, fun id => ?_⟩
      rw [Dictionary.find?_ofList, Dictionary.find?_ofList]
      exact lookup_of_reads (List.rel_reverse hreads) id
  | array inner items => cases room <;> cases hlist
  | null | bool | number | string => cases room <;> cases hlist

end

end Filter

namespace Request

def storeFilters (filterModel : Filter.Model) (request : Request) : Request := { request with filterModel }

/-- The filters are the fourth of the fields, and no other field looks at them. -/
theorem exists_read_eq : ∃ front back, front.length = 3 ∧
    read = Reader.record true
      (front ++ Reader.field "filterModel" (Reader.orDefault .empty Filter.Model.read) storeFilters :: back) {} ∧
    Reader.IsOwn "filterModel" storeFilters (front ++ back) := by
  refine ⟨[_, _, _], [_, _, _, _, _], rfl, rfl, fun _ _ _ => rfl, ?_, ?_⟩
  · simp only [List.cons_append, List.nil_append, List.forall_mem_cons]
    repeat' constructor
    all_goals first | exact List.forall_mem_nil _ | decide
  · simp only [List.cons_append, List.nil_append, List.forall_mem_cons]
    repeat' constructor
    all_goals first | exact List.forall_mem_nil _ | exact Reader.frame_field fun _ _ _ => rfl

theorem orDefault_object {α : Type} (default : α) (read : Reader α) (room : Nat) (members : Json.Members) :
    Reader.orDefault default read room (.object members) = read room (.object members) := by
  show (·.getD default) <$> some <$> read room (.object members) = _
  cases read room (.object members) <;> rfl

/-! ### Their place -/

/-- The source of the filters. -/
def filters? : Source → Option Source
  | .object _ members => members.value? "filterModel"
  | .array _ items => items.value? 3
  | _ => none

theorem readsFilters {s : Source} {request : Request} (hread : read Json.maxDepth s.tree = .ok request) :
    match filters? s with
    | some v => Reader.orDefault .empty Filter.Model.read 126 v.tree = .ok request.filterModel
    | none => request.filterModel = .empty := by
  obtain ⟨front, back, hlength, hfields, hown⟩ := exists_read_eq
  have hstore {m : Filter.Model} (h : storeFilters m request = request) : request.filterModel = m :=
    (congrArg filterModel h).symm
  rw [hfields] at hread
  cases s with
  | object inner members =>
    rw [filters?]
    cases hv : members.value? "filterModel" with
    | some v =>
      obtain ⟨m, hm, hresult⟩ := hown.exists_of_value? hv hread
      rw [hstore hresult]
      exact hm
    | none => exact hstore (hown.store_of_value?_eq_none hv rfl hread)
  | array inner items =>
    rw [filters?]
    rw [← hlength]
    cases hv : items.value? front.length with
    | some v =>
      obtain ⟨m, hm, hresult⟩ := (hown.of_subset (List.subset_append_right front back)).exists_of_item hv hread
      rw [hstore hresult]
      exact hm
    | none => exact hstore (hown.store_of_no_item hv rfl hread)
  | null | bool | number | string => cases hread

/-- The columns that have filters, as they stand in the source. -/
def filterColumns (s : Source) : List String :=
  match filters? s with
  | some (.object _ members) => members.names
  | _ => []

theorem mem_ids_iff {s : Source} {request : Request} (hread : read Json.maxDepth s.tree = .ok request) (id : String) :
    id ∈ request.filterModel.ids ↔ id ∈ filterColumns s := by
  have hfilters := readsFilters hread
  rw [filterColumns]
  cases hv : filters? s with
  | none =>
    rw [hv] at hfilters
    rw [hfilters]
    exact Iff.rfl
  | some v =>
    rw [hv] at hfilters
    cases v with
    | null =>
      rw [← Except.ok.inj hfilters]
      exact Iff.rfl
    | object inner members =>
      obtain ⟨list, hlist, hm⟩ := Except.exists_of_bind_eq_ok ((orDefault_object ..).symm.trans hfilters)
      have hids := Reader.names_of_entryMembers hlist
      rw [← Except.ok.inj hm, Dictionary.mem_ids_ofList, hids]
    | bool | number | string | array => cases hfilters

/-- Each column counts once. -/
theorem size_eq {s : Source} {request : Request} (hread : read Json.maxDepth s.tree = .ok request) :
    request.filterModel.size = (filterColumns s).dedup.length := by
  have hperm : request.filterModel.ids.Perm (filterColumns s).dedup := by
    refine (List.perm_ext_iff_of_nodup request.filterModel.nodup_ids (List.nodup_dedup _)).2 fun id => ?_
    exact (mem_ids_iff hread id).trans List.mem_dedup.symm
  rw [← hperm.length_eq, Dictionary.ids, List.length_map]
  rfl

/-- The filter of a column as a plain value; of a column that is repeated the last one counts. -/
def filter? (s : Source) (id : String) : Option Json :=
  match (filters? s).bind fun filters => (filters.tree.raw 126).toOption with
  | some (.object entries) => (Dictionary.ofList entries).find? id
  | _ => none

theorem find?_filterModel {s : Source} {request : Request} (hread : read Json.maxDepth s.tree = .ok request)
    (id : String) : (filter? s id).map Filter.Node.ofJson? = (request.filterModel.find? id).map some := by
  have hfilters := readsFilters hread
  rw [filter?]
  cases hv : filters? s with
  | none =>
    rw [hv] at hfilters
    rw [hfilters]
    rfl
  | some v =>
    rw [hv] at hfilters
    cases v with
    | null =>
      rw [← Except.ok.inj hfilters]
      rfl
    | object inner members =>
      replace hfilters : Filter.Model.read 126 (Source.object inner members).tree = .ok request.filterModel :=
        (orDefault_object ..).symm.trans hfilters
      obtain ⟨entries, hentries, hfind⟩ := Filter.Model.raw_of_read hfilters
      rw [Option.bind_some, hentries]
      exact hfind id
    | bool | number | string | array => cases hfilters

end Request

end DataGrid
