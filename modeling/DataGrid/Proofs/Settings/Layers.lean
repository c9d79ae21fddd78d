import DataGrid.Proofs.Dictionary
import DataGrid.Proofs.Json.RoundTrip
import DataGrid.Settings

/-!
# Layers of settings

The settings of a run are put together field by field from its options, the settings file that the options
name and the one in the working directory, in this order, with defaults behind them; a list of columns
counts as one field. Only the fields that come out of this are checked (`load_layers`): first the table,
then the names of the listed columns, then the limits.
-/

namespace DataGrid

namespace Settings

/-- What the first layer says that says something. -/
def firstOf {α : Type} (default : α) : List (Option α) → α
  | [] => default
  | some value :: _ => value
  | none :: layers => firstOf default layers

section
variable {α : Type} (default : α) (a b c : Option α)

theorem getD_eq_firstOf : a.getD default = firstOf default [a] := by
  cases a <;> rfl

theorem getD_orElse_eq_firstOf : (a <|> b).getD default = firstOf default [a, b] := by
  cases a <;> cases b <;> rfl

theorem getD_orElse_orElse_eq_firstOf : (a <|> b <|> c).getD default = firstOf default [a, b, c] := by
  cases a <;> cases b <;> cases c <;> rfl

end

/-- The name of the column behind an entry of a list. -/
def columnName (entry : String × ColumnEntry) : String := firstOf entry.1 [entry.2.name]

/-- The rule of a column says what its entry in a list says; a column may be used for everything, unless
the entry forbids it. -/
structure IsListed (rule : String × Sql.Rule) (entry : String × ColumnEntry) : Prop where
  id : rule.1 = entry.1
  name : rule.2.column.name = columnName entry
  filterable : rule.2.filterable = firstOf true [entry.2.filterable]
  sortable : rule.2.sortable = firstOf true [entry.2.sortable]

/-- What the options and the files of a run say; a file that is not there says nothing. -/
structure Layers where
  options : Options
  /-- The file that the options name. -/
  named : File
  /-- The file in the working directory. -/
  nearby : File

namespace Layers

variable (l : Layers)

def dialect : Sql.Dialect :=
  firstOf .duckdb [l.options.dialect, l.named.sql.bind (·.dialect), l.nearby.sql.bind (·.dialect)]

def table : String :=
  firstOf "rows" [l.options.table, l.named.sql.bind (·.table), l.nearby.sql.bind (·.table)]

def bytes : Nat :=
  firstOf 262144 [l.named.limits.bind (·.maxBytes), l.nearby.limits.bind (·.maxBytes)]

def filterColumns : Nat :=
  firstOf 100 [l.named.limits.bind (·.maxColumns), l.nearby.limits.bind (·.maxColumns)]

def depth : Nat :=
  firstOf 16 [l.named.limits.bind (·.maxDepth), l.nearby.limits.bind (·.maxDepth)]

/-- The list of columns: that of one file, as a whole. -/
def list? : Option (Dictionary ColumnEntry) :=
  match l.named.columns with
  | some list => some list
  | none => l.nearby.columns

/-- All listed columns have plain names. -/
def ListIsPlain : Prop :=
  ∀ list ∈ l.list?, ∀ entry ∈ list.entries, Identifier.isPlain (columnName entry) = true

/-- The settings are what the layers say, field by field. -/
structure Describes (settings : Settings) : Prop where
  dialect : settings.dialect = l.dialect
  table : settings.table.name = l.table
  /-- Without a list all columns may be used. -/
  permissive : l.list? = none → settings.columns = .permissive
  restricted : ∀ list, l.list? = some list → ∃ rules, settings.columns = .restricted rules ∧
    List.Forall₂ IsListed rules.entries list.entries
  limits : settings.limits = ⟨l.bytes, l.filterColumns, l.depth⟩

/-- What the settings of a run come to; the first thing that is wrong is reported. -/
inductive Outcome : Except Failure Settings → Prop
  | tableNotPlain (htable : Identifier.isPlain l.table = false) :
    Outcome (.error (.invalidTable l.table))
  | columnNotPlain (htable : Identifier.isPlain l.table = true) {list : Dictionary ColumnEntry}
    (hlist : l.list? = some list) {before after : List (String × ColumnEntry)}
    {entry : String × ColumnEntry} (hentries : list.entries = before ++ entry :: after)
    (hbefore : ∀ e ∈ before, Identifier.isPlain (columnName e) = true)
    (hentry : Identifier.isPlain (columnName entry) = false) :
    Outcome (.error (.invalidColumns (.unknown (columnName entry))))
  | limitsNotPositive (htable : Identifier.isPlain l.table = true) (hlist : l.ListIsPlain)
    (hlimits : l.bytes = 0 ∨ l.depth = 0) : Outcome (.error .limitsNotPositive)
  | loaded (htable : Identifier.isPlain l.table = true) (hlist : l.ListIsPlain)
    (hlimits : ¬ (l.bytes = 0 ∨ l.depth = 0)) {settings : Settings} (h : l.Describes settings) :
    Outcome (.ok settings)

/-- The file has what the two files of the layers say together; a section that is missing is like one
that says nothing. -/
structure Merges (file : File) : Prop where
  sql : file.sql.getD {} = (l.nearby.sql.getD {}).overlay (l.named.sql.getD {})
  columns : file.columns = l.list?
  limits : file.limits.getD {} = (l.nearby.limits.getD {}).overlay (l.named.limits.getD {})

end Layers

/-! ### The list of columns -/

section
variable {entries : List (String × ColumnEntry)}

theorem ofString?_of_isPlain {entry : String × ColumnEntry} (h : Identifier.isPlain (columnName entry) = true) :
    Identifier.ofString? (entry.2.toEntry entry.1).name = some ⟨columnName entry, h⟩ := by
  have hname : (entry.2.toEntry entry.1).name = columnName entry := getD_eq_firstOf ..
  rw [hname]
  exact dif_pos h

theorem ofString?_of_not_isPlain {entry : String × ColumnEntry}
    (h : Identifier.isPlain (columnName entry) = false) :
    Identifier.ofString? (entry.2.toEntry entry.1).name = none := by
  have hname : (entry.2.toEntry entry.1).name = columnName entry := getD_eq_firstOf ..
  rw [hname]
  exact dif_neg (by simp [h])

/-- A list without wrong names has a rule for each entry. -/
theorem exists_rules (h : ∀ entry ∈ entries, Identifier.isPlain (columnName entry) = true) :
    ∃ rules, Sql.Columns.rules (entries.map fun entry => entry.2.toEntry entry.1) = .ok rules ∧
      List.Forall₂ IsListed rules entries := by
  induction entries with
  | nil => exact ⟨[], rfl, .nil⟩
  | cons entry entries ih =>
    obtain ⟨hentry, hentries⟩ := List.forall_mem_cons.1 h
    obtain ⟨rules, hrules, hlisted⟩ := ih hentries
    have hrule : IsListed (entry.1, ⟨⟨columnName entry, hentry⟩, (entry.2.toEntry entry.1).filterable,
        (entry.2.toEntry entry.1).sortable⟩) entry :=
      ⟨rfl, rfl, getD_eq_firstOf .., getD_eq_firstOf ..⟩
    refine ⟨_, ?_, .cons hrule hlisted⟩
    rw [List.map_cons, Sql.Columns.rules, ofString?_of_isPlain hentry, hrules]
    rfl

/-- The first wrong name of a list is reported. -/
theorem rules_of_not_isPlain {before after : List (String × ColumnEntry)} {entry : String × ColumnEntry}
    (hbefore : ∀ e ∈ before, Identifier.isPlain (columnName e) = true)
    (hentry : Identifier.isPlain (columnName entry) = false) :
    Sql.Columns.rules ((before ++ entry :: after).map fun entry => entry.2.toEntry entry.1) =
      .error (.unknown (columnName entry)) := by
  induction before with
  | nil =>
    have hname : (entry.2.toEntry entry.1).name = columnName entry := getD_eq_firstOf ..
    rw [List.nil_append, List.map_cons, Sql.Columns.rules, ofString?_of_not_isPlain hentry, hname]
  | cons e before ih =>
    obtain ⟨he, hbefore⟩ := List.forall_mem_cons.1 hbefore
    have hrules := ih hbefore
    rw [List.cons_append, List.map_cons, Sql.Columns.rules, ofString?_of_isPlain he, hrules]
    rfl

/-- The ids of the rules are in order, as those of the list are. -/
theorem pairwise_of_isListed {rules : List (String × Sql.Rule)} (h : List.Forall₂ IsListed rules entries)
    (hsorted : entries.Pairwise fun a b => a.1 < b.1) : rules.Pairwise fun a b => a.1 < b.1 := by
  have hids : rules.map Prod.fst = entries.map Prod.fst := by
    induction h with
    | nil => rfl
    | cons hrule _ ih => rw [List.map_cons, List.map_cons, hrule.id, ih hsorted.of_cons]
  rw [← List.pairwise_map (f := Prod.fst) (R := (· < ·))] at hsorted ⊢
  rwa [hids]

end

theorem exists_columnsOf {list : Dictionary ColumnEntry}
    (h : ∀ entry ∈ list.entries, Identifier.isPlain (columnName entry) = true) :
    ∃ rules, columnsOf (some list) = .ok (.restricted rules) ∧
      List.Forall₂ IsListed rules.entries list.entries := by
  obtain ⟨rules, hrules, hlisted⟩ := exists_rules h
  let dictionary : Dictionary Sql.Rule := ⟨rules, pairwise_of_isListed hlisted list.sorted⟩
  refine ⟨dictionary, ?_, hlisted⟩
  have hdictionary : Dictionary.ofList rules = dictionary := Dictionary.ofList_entries dictionary
  rw [columnsOf, Sql.Columns.restrict, hrules, ← hdictionary]
  rfl

theorem columnsOf_of_not_isPlain {list : Dictionary ColumnEntry} {before after : List (String × ColumnEntry)}
    {entry : String × ColumnEntry} (hentries : list.entries = before ++ entry :: after)
    (hbefore : ∀ e ∈ before, Identifier.isPlain (columnName e) = true)
    (hentry : Identifier.isPlain (columnName entry) = false) :
    columnsOf (some list) = .error (.invalidColumns (.unknown (columnName entry))) := by
  rw [columnsOf, Sql.Columns.restrict, hentries, rules_of_not_isPlain hbefore hentry]
  rfl

/-! ### Sections -/

instance : Std.Associative SqlSection.overlay :=
  ⟨fun a b c => by simp [SqlSection.overlay, Option.or_assoc]⟩

instance : Std.Associative LimitsSection.overlay :=
  ⟨fun a b c => by simp [LimitsSection.overlay, Option.or_assoc]⟩

instance : Std.LawfulIdentity SqlSection.overlay {} where
  left_id s := by simp [SqlSection.overlay]
  right_id s := by simp [SqlSection.overlay]

instance : Std.LawfulIdentity LimitsSection.overlay {} where
  left_id s := by simp [LimitsSection.overlay]
  right_id s := by simp [LimitsSection.overlay]

section
variable {σ : Type} {overlay : σ → σ → σ} {empty : σ}

theorem getD_overlaySection [Std.LawfulIdentity overlay empty] (lower upper : Option σ) :
    (overlaySection overlay empty lower upper).getD empty = overlay (lower.getD empty) (upper.getD empty) := by
  cases upper with
  | none => exact (Std.LawfulRightIdentity.right_id (lower.getD empty)).symm
  | some upper => rfl

/-- A section over none stays as it is. -/
theorem overlaySection_none [Std.LawfulIdentity overlay empty] (upper : Option σ) :
    overlaySection overlay empty none upper = upper := by
  cases upper with
  | none => rfl
  | some upper => exact congrArg some (Std.LawfulLeftIdentity.left_id upper)

theorem overlaySection_assoc [Std.LawfulIdentity overlay empty] [Std.Associative overlay] (a b c : Option σ) :
    overlaySection overlay empty (overlaySection overlay empty a b) c =
      overlaySection overlay empty a (overlaySection overlay empty b c) := by
  cases b with
  | none =>
    rw [overlaySection_none]
    rfl
  | some b =>
    cases c with
    | none => rfl
    | some c => exact congrArg some (Std.Associative.assoc (a.getD empty) b c)

/-- A field of the sections of two files is that of the second one if it is set there. -/
theorem field_overlay {α : Type} (field : σ → Option α) (hempty : field empty = none)
    (hoverlay : ∀ lower upper, field (overlay lower upper) = (field upper <|> field lower))
    {lower upper merged : Option σ}
    (h : merged.getD empty = overlay (lower.getD empty) (upper.getD empty)) :
    field (merged.getD empty) = (upper.bind field <|> lower.bind field) := by
  have hfield (s : Option σ) : field (s.getD empty) = s.bind field := by
    cases s with
    | none => exact hempty
    | some s => rfl
  rw [h, hoverlay, hfield, hfield]

end

/-! ### The checks -/

namespace Layers

variable {l : Layers} {file : File}

theorem Merges.limitsOf_eq (h : l.Merges file) : limitsOf (file.limits.getD {}) =
    if l.bytes = 0 ∨ l.depth = 0 then .error .limitsNotPositive
    else .ok ⟨l.bytes, l.filterColumns, l.depth⟩ := by
  have hbytes : (file.limits.getD {}).maxBytes.getD 262144 = l.bytes := by
    rw [field_overlay LimitsSection.maxBytes rfl (fun _ _ => rfl) h.limits, getD_orElse_eq_firstOf, bytes]
  have hcolumns : (file.limits.getD {}).maxColumns.getD 100 = l.filterColumns := by
    rw [field_overlay LimitsSection.maxColumns rfl (fun _ _ => rfl) h.limits, getD_orElse_eq_firstOf,
      filterColumns]
  have hdepth : (file.limits.getD {}).maxDepth.getD 16 = l.depth := by
    rw [field_overlay LimitsSection.maxDepth rfl (fun _ _ => rfl) h.limits, getD_orElse_eq_firstOf, depth]
  rw [limitsOf, ← hbytes, ← hcolumns, ← hdepth]

/-- What the columns of both files come to, if all listed names are plain. -/
theorem Merges.exists_columns (h : l.Merges file) (hlist : l.ListIsPlain) :
    ∃ columns, columnsOf file.columns = .ok columns ∧ (l.list? = none → columns = .permissive) ∧
      ∀ list, l.list? = some list → ∃ rules, columns = .restricted rules ∧
        List.Forall₂ IsListed rules.entries list.entries := by
  rw [h.columns]
  cases hl : l.list? with
  | none => exact ⟨_, rfl, fun _ => rfl, nofun⟩
  | some list =>
    obtain ⟨rules, hcolumns, hlisted⟩ := exists_columnsOf (hlist list hl)
    refine ⟨_, hcolumns, nofun, ?_⟩
    rintro _ ⟨⟩
    exact ⟨rules, rfl, hlisted⟩

/-- All listed names are plain, or there is a first one that is not. -/
theorem listIsPlain_or (l : Layers) : l.ListIsPlain ∨ ∃ list before entry after,
    l.list? = some list ∧ list.entries = before ++ entry :: after ∧
      (∀ e ∈ before, Identifier.isPlain (columnName e) = true) ∧
        Identifier.isPlain (columnName entry) = false := by
  cases hl : l.list? with
  | none => exact .inl (by simp [ListIsPlain, hl])
  | some list =>
    cases hfind : list.entries.find? fun e => !Identifier.isPlain (columnName e) with
    | none =>
      refine .inl ?_
      rintro list' hlist' entry hentry
      rw [hl] at hlist'
      cases hlist'
      simpa using List.find?_eq_none.1 hfind entry hentry
    | some entry =>
      obtain ⟨hentry, before, after, hentries, hbefore⟩ := List.find?_eq_some_iff_append.1 hfind
      exact .inr ⟨list, before, entry, after, rfl, hentries, fun e he => by simpa using hbefore e he,
        by simpa using hentry⟩

/-- The checks look at what the layers come to, one after the other. -/
theorem Merges.outcome (h : l.Merges file) : l.Outcome (resolve l.options file) := by
  have htable : (l.options.table <|> (file.sql.getD {}).table).getD defaultTable = l.table := by
    rw [field_overlay SqlSection.table rfl (fun _ _ => rfl) h.sql, getD_orElse_orElse_eq_firstOf,
      Layers.table, defaultTable]
  have hdialect : (l.options.dialect <|> (file.sql.getD {}).dialect).getD .duckdb = l.dialect := by
    rw [field_overlay SqlSection.dialect rfl (fun _ _ => rfl) h.sql, getD_orElse_orElse_eq_firstOf,
      Layers.dialect]
  unfold resolve
  dsimp only
  rw [htable, hdialect, h.limitsOf_eq]
  cases hplain : Identifier.isPlain l.table with
  | false =>
    have hname : Identifier.ofString? l.table = none := dif_neg (by simp [hplain])
    rw [hname]
    exact .tableNotPlain hplain
  | true =>
    have hname : Identifier.ofString? l.table = some ⟨l.table, hplain⟩ := dif_pos hplain
    rw [hname]
    rcases l.listIsPlain_or with hlist | ⟨list, before, entry, after, hl, hentries, hbefore, hentry⟩
    · obtain ⟨columns, hcolumns, hpermissive, hrestricted⟩ := h.exists_columns hlist
      rw [hcolumns]
      split_ifs with hlimits
      · exact .limitsNotPositive hplain hlist hlimits
      · exact .loaded hplain hlist hlimits ⟨rfl, rfl, hpermissive, hrestricted, rfl⟩
    · rw [h.columns, hl, columnsOf_of_not_isPlain hentries hbefore hentry]
      exact .columnNotPlain hplain hl hentries hbefore hentry

/-- There are settings exactly if nothing is wrong. -/
theorem Outcome.exists_failure_iff {result : Except Failure Settings} (h : l.Outcome result) :
    (∃ failure, result = .error failure) ↔
      Identifier.isPlain l.table = false ∨
      (∃ list, l.list? = some list ∧ ∃ entry ∈ list.entries, Identifier.isPlain (columnName entry) = false) ∨
      l.bytes = 0 ∨ l.depth = 0 := by
  cases h with
  | tableNotPlain htable => simp [htable]
  | columnNotPlain htable hlist hentries hbefore hentry =>
    refine ⟨fun _ => .inr (.inl ⟨_, hlist, _, ?_, hentry⟩), fun _ => ⟨_, rfl⟩⟩
    rw [hentries]
    exact List.mem_append_right _ List.mem_cons_self
  | limitsNotPositive htable hlist hlimits => exact ⟨fun _ => .inr (.inr hlimits), fun _ => ⟨_, rfl⟩⟩
  | loaded htable hlist hlimits hsettings =>
    refine ⟨nofun, ?_⟩
    rintro (hnot | ⟨list, hl, entry, hentry, hnot⟩ | hnot)
    · rw [htable] at hnot
      cases hnot
    · rw [hlist list hl entry hentry] at hnot
      cases hnot
    · exact absurd hnot hlimits

end Layers

/-! ### Loading -/

theorem File.overlay_assoc (a b c : File) : (a.overlay b).overlay c = a.overlay (b.overlay c) := by
  simp [overlay, overlaySection_assoc, Option.or_assoc]

theorem File.overlay_empty (file : File) : file.overlay {} = file := rfl

/-- What the file at a path says; where there is no path nothing is said. -/
inductive Says (files : Files) : Option String → File → Prop
  | nothing : Says files none {}
  | text {path text : String} {file : File} (hread : files.read path = .ok text)
    (hparse : File.parse text = .ok file) : Says files (some path) file

section
variable {files : Files} {path : Option String} {named nearby file : File}

theorem has_of_read {path text : String} (h : files.read path = .ok text) : files.has path = true := by
  rw [Files.has, h]

theorem value_loadFile {path text : String} (hread : files.read path = .ok text)
    (hparse : File.parse text = .ok file) : (loadFile files path).value = .ok file := by
  simp only [loadFile, Logged.value_bind, hread, hparse]
  split <;> rfl

/-- A file that can be read is put over those before it. -/
theorem value_loadFiles_append (h : Says files path file) (base : File) (paths : List String) :
    (loadFiles files base (path.toList ++ paths)).value =
      (loadFiles files (base.overlay file) paths).value := by
  cases h with
  | nothing => rw [File.overlay_empty, Option.toList_none, List.nil_append]
  | text hread hparse =>
    rw [Option.toList_some, List.singleton_append, loadFiles, has_of_read hread]
    simp only [Bool.not_true, Bool.false_eq_true, if_false, Logged.value_bind, value_loadFile hread hparse]

/-- Loading comes to the settings of both files in one. -/
theorem exists_merges_of_load {options : Options} (hnamed : Says files options.path named)
    (hnearby : Says files (if files.has localPath then some localPath else none) nearby) :
    ∃ file, Layers.Merges ⟨options, named, nearby⟩ file ∧
      (load files options).value = resolve options file := by
  have hpaths : paths files options =
      (if files.has localPath then some localPath else none).toList ++ (options.path.toList ++ []) := by
    rw [paths, List.append_nil]
    split <;> rfl
  have hfiles : (loadFiles files {} (paths files options)).value =
      .ok ((File.overlay {} nearby).overlay named) := by
    rw [hpaths, value_loadFiles_append hnearby, value_loadFiles_append hnamed]
    rfl
  refine ⟨(File.overlay {} nearby).overlay named, ?_, ?_⟩
  · constructor
    case columns =>
      show (named.columns <|> nearby.columns <|> none) = Layers.list? ⟨options, named, nearby⟩
      rw [Layers.list?]
      cases named.columns <;> cases nearby.columns <;> rfl
    all_goals simp only [File.overlay, overlaySection_none, getD_overlaySection]
  · simp only [load, Logged.value_bind, hfiles]
    cases resolve options ((File.overlay {} nearby).overlay named) <;> rfl

end

/-- If the settings files of a run can be read, the run has the settings that its options and those files
say field by field, unless the table is no plain name, or the list of columns has a name that is not
plain, or a limit that must not be zero is. Only what the layers come to is checked, in this order. Files
can be put together in any grouping. -/
theorem load_layers :
    (∀ (files : Files) (options : Options) (named nearby : File), Says files options.path named →
      Says files (if files.has localPath then some localPath else none) nearby →
        let l : Layers := ⟨options, named, nearby⟩
        l.Outcome (load files options).value ∧
          ((∃ failure, (load files options).value = .error failure) ↔
            Identifier.isPlain l.table = false ∨
            (∃ list, l.list? = some list ∧
              ∃ entry ∈ list.entries, Identifier.isPlain (columnName entry) = false) ∨
            l.bytes = 0 ∨ l.depth = 0)) ∧
    (∀ (options : Options) (a b c : File),
      resolve options ((a.overlay b).overlay c) = resolve options (a.overlay (b.overlay c))) := by
  constructor
  · intro files options named nearby hnamed hnearby l
    obtain ⟨file, hmerges, hload⟩ := exists_merges_of_load hnamed hnearby
    have houtcome : l.Outcome (load files options).value := by
      rw [hload]
      exact hmerges.outcome
    exact ⟨houtcome, houtcome.exists_failure_iff⟩
  · intro options a b c
    rw [File.overlay_assoc]

/-- The nearby file alone would be refused for its table, its columns and its limits, but each of them is
said anew in front of it. -/
theorem load_layers_overridden :
    let above : Json := .object [("columns", .object [("y", .object [("sortable", .bool false)])]),
      ("limits", .object [("max_request_bytes", .nat 9), ("max_filter_depth", .nat 2)])]
    let below : Json := .object [("sql", .object [("dialect", .text "sqlite"), ("table", .text "a b")]),
      ("columns", .object [("x", .object [("name", .text "1")])]),
      ("limits", .object [("max_request_bytes", .nat 0)])]
    let files : Files := ⟨fun path =>
      if path = "gridquery.json" then .ok (Json.compact below)
      else if path = "b.json" then .ok (Json.compact above)
      else .error .notFound⟩
    let options : Options := { path := some "b.json", table := some "t" }
    let named : File :=
      { columns := some ⟨[("y", { sortable := some false })], List.pairwise_singleton ..⟩,
        limits := some { maxBytes := some 9, maxDepth := some 2 } }
    let nearby : File :=
      { sql := some { dialect := some .sqlite, table := some "a b" },
        columns := some ⟨[("x", { name := some "1" })], List.pairwise_singleton ..⟩,
        limits := some { maxBytes := some 0 } }
    let l : Layers := ⟨options, named, nearby⟩
    Says files options.path named ∧
      Says files (if files.has localPath then some localPath else none) nearby ∧
      l.Outcome (load files options).value ∧
      ((∃ failure, (load files options).value = .error failure) ↔
        Identifier.isPlain l.table = false ∨
        (∃ list, l.list? = some list ∧
          ∃ entry ∈ list.entries, Identifier.isPlain (columnName entry) = false) ∨
        l.bytes = 0 ∨ l.depth = 0) := by
  intro above below files options named nearby l
  have hnumber (n : Nat) (hn : n ≤ JsonNumber.capacity) : (Json.nat n).Every JsonNumber.Readable :=
    JsonNumber.readable_ofNat hn
  have habove : above.Every JsonNumber.Readable :=
    ⟨⟨⟨trivial, trivial⟩, trivial⟩, ⟨hnumber 9 (by decide), hnumber 2 (by decide), trivial⟩, trivial⟩
  have hbelow : below.Every JsonNumber.Readable :=
    ⟨⟨trivial, trivial, trivial⟩, ⟨⟨trivial, trivial⟩, trivial⟩, ⟨hnumber 0 (by decide), trivial⟩, trivial⟩
  have hnamed : Says files options.path named := .text rfl (Json.decode_compact habove)
  have hnearby : Says files (if files.has localPath then some localPath else none) nearby :=
    .text rfl (Json.decode_compact hbelow)
  exact ⟨hnamed, hnearby, load_layers.1 files options named nearby hnamed hnearby⟩

end Settings

end DataGrid
