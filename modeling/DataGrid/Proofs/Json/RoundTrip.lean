import DataGrid.Json.Printer
import DataGrid.Proofs.Json.Nesting
import DataGrid.Proofs.Json.Source

/-!
# Reading what is written

The compact text of a value is read as the tree of the value, when the texts of its numbers are
(`decode_compact`): strings always are, and so are integers of 64 bits. A tree is decoded as its value where
there is room for its height (`raw_toTree`).
-/

namespace DataGrid

namespace Json.Quoted

theorem hexUnit?_control : ∀ n < 32, hexUnit? '0' '0' (Nat.digitChar (n / 16)) (Nat.digitChar (n % 16)) = some n := by
  decide

theorem readFrom_escapeChar (c : Char) (rest : List Char) :
    readFrom none (escapeChar c ++ rest) = (readFrom none rest).push c := by
  have hletter {d : Char} (e : Char) (hd : letter? d = some e) (hne : d ≠ 'u') :
      readFrom none ('\\' :: d :: rest) = (readFrom none rest).push e := by
    rw [readFrom_letter hne, hd]
    rfl
  unfold escapeChar
  by_cases hquote : c = '\"'
  · rw [if_pos hquote, hquote]
    exact hletter '\"' rfl (by decide)
  by_cases hslash : c = '\\'
  · rw [if_neg hquote, if_pos hslash, hslash]
    exact hletter '\\' rfl (by decide)
  rw [if_neg hquote, if_neg hslash]
  repeat' split
  · next h => exact h ▸ hletter '\x08' rfl (by decide)
  · next h => exact h ▸ hletter '\x0c' rfl (by decide)
  · next h => exact h ▸ hletter '\n' rfl (by decide)
  · next h => exact h ▸ hletter '\r' rfl (by decide)
  · next h => exact h ▸ hletter '\t' rfl (by decide)
  · next hcontrol =>
    have hunit := hexUnit?_control c.toNat hcontrol
    have htrailing : isTrailing c.toNat = false := by
      simp [isTrailing]
      omega
    have hleading : isLeading c.toNat = false := by
      simp [isLeading]
      omega
    simp [hexChars, readFrom, hunit, htrailing, hleading, unpaired]
  · next hcontrol =>
    rw [List.singleton_append, readFrom_plain hslash, if_neg hquote, if_neg hcontrol]
    rfl

theorem read_flatMap_escapeChar (cs rest : List Char) :
    read (cs.flatMap escapeChar ++ '\"' :: rest) = .closed (some cs) rest := by
  unfold read
  induction cs with
  | nil => exact readFrom_plain (by decide)
  | cons c cs ih => rw [List.flatMap_cons, List.append_assoc, readFrom_escapeChar, ih, push, Option.map_some]

end Json.Quoted

namespace JsonNumber

open Json (isSpace)

/-- The text of a number is a numeral for it. -/
def Readable (n : JsonNumber) : Prop := ∃ parts, scan n.chars = .numeral parts [] ∧ parts.value? = some n

/-! ### Integers -/

theorem le_ofDigitChars (cs : List Char) (start : Nat) : start ≤ Nat.ofDigitChars 10 cs start := by
  induction cs generalizing start with
  | nil => exact Nat.le_of_eq Nat.ofDigitChars_nil.symm
  | cons c cs ih =>
    have := ih (10 * start + (c.toNat - '0'.toNat))
    rw [Nat.ofDigitChars_cons]
    omega

/-- Digits are all collected while their number fits. -/
theorem collect_eq (cs : List Char) (start : Nat) (h : Nat.ofDigitChars 10 cs start ≤ capacity) :
    collect start cs = (Nat.ofDigitChars 10 cs start, cs.length, 0) := by
  induction cs generalizing start with
  | nil => rw [collect, Nat.ofDigitChars_nil, List.length_nil]
  | cons c cs ih =>
    rw [Nat.ofDigitChars_cons, show '0'.toNat = 48 from rfl] at h ⊢
    have hnext := le_ofDigitChars cs (10 * start + (c.toNat - 48))
    rw [collect, if_pos (Nat.le_trans hnext h), ih _ h]
    rfl

/-- Only zero starts with a zero. -/
theorem eq_nil_of_toDigits (n : Nat) : ∀ ds, Nat.toDigits 10 n = '0' :: ds → ds = [] := by
  induction n using Nat.strongRecOn with
  | ind n ih =>
    intro ds h
    by_cases hn : n < 10
    · rw [Nat.toDigits_of_lt_base hn] at h
      exact (List.cons.inj h).2.symm
    · rw [Nat.toDigits_of_base_le (by decide) (Nat.le_of_not_lt hn)] at h
      have hvalue : Nat.ofDigitChars 10 (Nat.toDigits 10 (n / 10)) 0 = n / 10 := Nat.ofDigitChars_ten_toDigits
      cases hhead : Nat.toDigits 10 (n / 10) with
      | nil => exact absurd hhead Nat.toDigits_ne_nil
      | cons d ds' =>
        rw [hhead] at h hvalue
        obtain ⟨rfl, -⟩ := List.cons.inj h
        -- The leading digits are those of `n / 10`, which would be zero.
        rw [ih (n / 10) (by omega) ds' hhead] at hvalue
        have hzero : 0 = n / 10 := hvalue
        omega

theorem scanWhole_toDigits (negative : Bool) (n : Nat) :
    scanWhole negative (Nat.toDigits 10 n) = .numeral ⟨negative, Nat.toDigits 10 n, none, none⟩ [] := by
  have hdigits : ∀ d ∈ Nat.toDigits 10 n, d.isDigit = true := fun d hd =>
    Nat.isDigit_of_mem_toDigits (by decide) (by decide) hd
  have hend : ∀ c ∈ ([] : List Char).head?, c.isDigit = false := nofun
  have htake := takeWhile_digits_append hdigits hend
  rw [List.append_nil] at htake
  unfold scanWhole
  dsimp only
  rw [htake.1, htake.2]
  split
  · next h => exact absurd h Nat.toDigits_ne_nil
  · next h => cases eq_nil_of_toDigits n _ h
  · rfl

theorem collect_toDigits {n : Nat} (h : n ≤ capacity) :
    collect 0 (Nat.toDigits 10 n) = (n, (Nat.toDigits 10 n).length, 0) := by
  have hvalue : Nat.ofDigitChars 10 (Nat.toDigits 10 n) 0 = n := Nat.ofDigitChars_ten_toDigits
  rw [collect_eq _ _ (hvalue.symm ▸ h), hvalue]

theorem readable_ofNat {n : Nat} (h : n ≤ capacity) : Readable (.integer (.ofNat n)) := by
  refine ⟨⟨false, Nat.toDigits 10 n, none, none⟩, ?_, ?_⟩
  · have hscan := scanWhole_toDigits false n
    rw [chars]
    unfold scan
    split
    · next hminus =>
      have hdigit : '-'.isDigit = true := Nat.isDigit_of_mem_toDigits (b := 10) (n := n) (by decide) (by decide)
        (hminus ▸ List.mem_cons_self)
      cases hdigit
    · exact hscan
  · simp [Parts.value?, collect_toDigits h]

theorem readable_negSucc {n : Nat} (h : n < 9223372036854775808) : Readable (.integer (.negSucc n)) := by
  refine ⟨⟨true, Nat.toDigits 10 (n + 1), none, none⟩, scanWhole_toDigits true (n + 1), ?_⟩
  have hcapacity : n + 1 ≤ capacity := Nat.le_trans h (by decide)
  rw [Parts.value?, collect_toDigits hcapacity]
  dsimp only
  rw [if_pos]
  · rw [if_pos rfl, Int.negSucc_eq]
    rfl
  · show (decide (0 < n + 1) && decide (n + 1 ≤ 9223372036854775808)) = true
    rw [decide_eq_true n.succ_pos, decide_eq_true (Nat.succ_le_of_lt h)]
    rfl

/-! ### Numbers with a fraction or an exponent -/

def IsPart (c : Char) : Prop := c.isDigit = true ∨ c = '-' ∨ c = '+' ∨ c = '.' ∨ c = 'e'

theorem IsPart.not_isSpace {c : Char} (h : IsPart c) : isSpace c = false := by
  rw [← Bool.not_eq_true]
  intro hspace
  simp only [isSpace, Bool.or_eq_true, decide_eq_true_eq] at hspace
  rcases hspace with ((rfl | rfl) | rfl) | rfl <;> revert h <;> unfold IsPart <;> decide

theorem isPart_toDigits (n : Nat) : ∀ c ∈ Nat.toDigits 10 n, IsPart c := fun _ hc =>
  .inl (Nat.isDigit_of_mem_toDigits (by decide) (by decide) hc)

section
variable {digits : List Char} (hdigits : ∀ c ∈ digits, IsPart c)
include hdigits

theorem isPart_positional (pointOnWhole : Bool) (place : Int) :
    ∀ c ∈ Binary64.positional pointOnWhole digits place, IsPart c := by
  have hzero : IsPart '0' := .inl rfl
  have hpoint : IsPart '.' := by simp [IsPart]
  have hzeros (n : Nat) : ∀ c ∈ Binary64.zeros n, IsPart c := fun c hc => (List.mem_replicate.1 hc).2 ▸ hzero
  unfold Binary64.positional
  split
  · simp only [List.forall_mem_cons, List.forall_mem_append]
    exact ⟨hzero, hpoint, hzeros _, hdigits⟩
  · split
    · simp only [List.forall_mem_append]
      refine ⟨⟨hdigits, hzeros _⟩, ?_⟩
      split
      · simp only [List.forall_mem_cons]
        exact ⟨hpoint, hzero, List.forall_mem_nil _⟩
      · exact List.forall_mem_nil _
    · simp only [List.forall_mem_cons, List.forall_mem_append]
      exact ⟨fun c hc => hdigits c (List.mem_of_mem_take hc), hpoint,
        fun c hc => hdigits c (List.mem_of_mem_drop hc)⟩

theorem isPart_scientific (exponent : Int) : ∀ c ∈ Binary64.scientific digits exponent, IsPart c := by
  unfold Binary64.scientific
  simp only [List.forall_mem_cons, List.forall_mem_append]
  refine ⟨⟨fun c hc => hdigits c (List.mem_of_mem_take hc), ?_⟩, by simp [IsPart], ?_, isPart_toDigits _⟩
  · split
    · exact List.forall_mem_nil _
    · rw [List.forall_mem_cons]
      exact ⟨by simp [IsPart], fun c hc => hdigits c (List.mem_of_mem_drop hc)⟩
  · split <;> simp [IsPart]

end

theorem isPart_chars (layout : Binary64.Layout) (x : Binary64.Finite) : ∀ c ∈ layout.chars x, IsPart c := by
  unfold Binary64.Layout.chars Binary64.Layout.size
  rw [List.forall_mem_append]
  constructor
  · split
    · simp [IsPart]
    · exact List.forall_mem_nil _
  · split
    · exact isPart_positional (by simp [IsPart]) _ _
    · have hdigits : ∀ c ∈ ((Nat.toDigits 10 (x.shortest layout.tie).digits).reverse.dropWhile (· = '0')).reverse,
          IsPart c := fun c hc => isPart_toDigits _ c
            (List.mem_reverse.1 ((List.dropWhile_sublist _).mem (List.mem_reverse.1 hc)))
      dsimp only
      split
      · exact isPart_scientific hdigits _
      · exact isPart_positional hdigits _ _

/-- The text of the number is read as the number itself. -/
def ReadsBack (n : JsonNumber) : Prop :=
  Json.decode Json.Reader.value (Json.compact (.number n)) = .ok (.number n)

/-- What a value is decoded as tells whether it is the number. -/
instance (n : JsonNumber) : Decidable n.ReadsBack :=
  decidable_of_iff ((match Json.decode Json.Reader.value (Json.compact (.number n)) with
      | .ok (.number m) => decide (m = n)
      | _ => false) = true) (by
    unfold ReadsBack
    split
    · next m heq => simp [heq]
    · next hne =>
      refine ⟨nofun, fun h => (hne n h).elim⟩)

theorem eq_nil_of_isPart (space : Json.Space) (h : ∀ c ∈ space.chars, IsPart c) : space.chars = [] := by
  refine List.eq_nil_iff_forall_not_mem.2 fun c hc => ?_
  have hblank := space.blank c hc
  rw [(h c hc).not_isSpace] at hblank
  cases hblank

theorem exists_numeral_of_value {room : Nat} {s : Json.Source} {n : JsonNumber}
    (h : Json.Reader.value room s.tree = .ok (.number n)) :
    ∃ numeral : Json.Numeral, s = .number numeral ∧ numeral.parts.value? = some n := by
  obtain ⟨v, hraw, hmerged⟩ := Except.exists_of_map_eq_ok h
  cases v with
  | number n' =>
    cases hmerged
    cases s with
    | number numeral =>
      cases hvalue : numeral.parts.value? with
      | none =>
        rw [Json.Source.tree, hvalue] at hraw
        cases hraw
      | some n =>
        rw [Json.Source.tree, hvalue] at hraw
        cases hraw
        exact ⟨numeral, rfl, hvalue⟩
    | null | bool value => cases hraw
    | string literal =>
      cases hvalue : literal.value <;> rw [Json.Source.tree, hvalue] at hraw <;> cases hraw
    | array inner items | object inner members =>
      cases room with
      | zero => cases hraw
      | succ room =>
        obtain ⟨values, -, hvalues⟩ := Except.exists_of_map_eq_ok hraw
        cases hvalues
  | null | bool value | string value | array items | object members => cases hmerged

theorem readable_real {x : Binary64.Finite} (h : ReadsBack (.real x)) : Readable (.real x) := by
  obtain ⟨before, s, after, htext, hread⟩ := Json.exists_source_of_decode h
  obtain ⟨numeral, rfl, hvalue⟩ := exists_numeral_of_value hread
  have hchars : chars (.real x) = before.chars ++ (numeral.chars ++ after.chars) := String.ofList_injective htext
  have hparts : ∀ c ∈ chars (.real x), IsPart c := isPart_chars .json x
  rw [hchars] at hparts
  simp only [List.forall_mem_append] at hparts
  rw [eq_nil_of_isPart before hparts.1, eq_nil_of_isPart after hparts.2.2, List.nil_append, List.append_nil] at hchars
  exact ⟨numeral.parts, by rw [hchars]; exact numeral.scan_chars, hvalue⟩

end JsonNumber

namespace Json

open JsonNumber (Readable)

mutual

def toTree : Json → Tree
  | .null => .null
  | .bool value => .bool value
  | .number n => .number (some n)
  | .string s => .string (some s)
  | .array items => .array (itemsToTree items)
  | .object members => .object (membersToTree members)

def itemsToTree : List Json → Items
  | [] => .closed
  | item :: items => .item item.toTree (itemsToTree items)

def membersToTree : List (String × Json) → Members
  | [] => .closed
  | (name, value) :: members => .member (some name) value.toTree (membersToTree members)

end

/-- The literal of a string, behind its opening quote. -/
def Literal.ofString (s : String) : Literal where
  chars := s.toList.flatMap Quoted.escapeChar ++ ['\"']
  text := some s.toList
  read_chars := Quoted.read_flatMap_escapeChar s.toList []

theorem Literal.value_ofString (s : String) : (Literal.ofString s).value = some s := by
  rw [Literal.value, Literal.ofString, Option.map_some, String.ofList_toList]

def Space.none : Space := ⟨[], nofun⟩

def Label.ofString (s : String) : Label := ⟨.none, .ofString s, .none⟩

theorem Source.Items.chars_eq {s : Source.Items} {items : List Json} (h : s.comma ++ s.chars = itemsChars items) :
    s.chars = match items with
      | [] => [']']
      | item :: items => item.chars ++ itemsChars items := by
  match s, items, h with
  | .nil, [], _ => rfl
  | .nil, _ :: _, h | .cons .., [], h => cases h
  | .cons .., _ :: _, h => exact (List.cons.inj h).2

theorem Source.Members.chars_eq {s : Source.Members} {members : List (String × Json)}
    (h : s.comma ++ s.chars = membersChars members) :
    s.chars = match members with
      | [] => ['}']
      | (name, value) :: members => Quoted.write name ++ ':' :: (value.chars ++ membersChars members) := by
  match s, members, h with
  | .nil, [], _ => rfl
  | .nil, _ :: _, h | .cons .., [], h => cases h
  | .cons .., _ :: _, h => exact (List.cons.inj h).2

mutual

theorem exists_source : ∀ {v : Json}, v.Every Readable → ∃ s : Source, s.chars = v.chars ∧ s.tree = v.toTree
  | .null, _ => ⟨.null, rfl, rfl⟩
  | .bool true, _ => ⟨.bool true, rfl, rfl⟩
  | .bool false, _ => ⟨.bool false, rfl, rfl⟩
  | .number n, h => by
    obtain ⟨parts, hscan, hvalue⟩ := h
    exact ⟨.number ⟨n.chars, parts, hscan⟩, rfl, by rw [Source.tree, hvalue, toTree]⟩
  | .string s, _ => ⟨.string (.ofString s), rfl, by rw [Source.tree, Literal.value_ofString, toTree]⟩
  | .array items, h => by
    obtain ⟨s, hchars, htree⟩ := exists_source_items h
    refine ⟨.array .none s, ?_, by rw [Source.tree, htree, toTree]⟩
    rw [Source.chars, Source.Items.chars_eq hchars]
    cases items <;> rfl
  | .object members, h => by
    obtain ⟨s, hchars, htree⟩ := exists_source_members h
    refine ⟨.object .none s, ?_, by rw [Source.tree, htree, toTree]⟩
    rw [Source.chars, Source.Members.chars_eq hchars]
    cases members <;> rfl

theorem exists_source_items : ∀ {items : List Json}, EveryItem Readable items →
    ∃ s : Source.Items, s.comma ++ s.chars = itemsChars items ∧ s.tree = itemsToTree items
  | [], _ => ⟨.nil, rfl, rfl⟩
  | item :: items, h => by
    obtain ⟨s, hchars, htree⟩ := exists_source h.1
    obtain ⟨tail, htail, htailTree⟩ := exists_source_items h.2
    refine ⟨.cons .none s .none tail, ?_, ?_⟩
    · rw [Source.Items.comma, Source.Items.chars, hchars, htail, itemsChars]
      rfl
    · rw [Source.Items.tree, htree, htailTree, itemsToTree]

theorem exists_source_members : ∀ {members : List (String × Json)}, EveryMember Readable members →
    ∃ s : Source.Members, s.comma ++ s.chars = membersChars members ∧ s.tree = membersToTree members
  | [], _ => ⟨.nil, rfl, rfl⟩
  | (name, value) :: members, h => by
    obtain ⟨s, hchars, htree⟩ := exists_source h.1
    obtain ⟨tail, htail, htailTree⟩ := exists_source_members h.2
    refine ⟨.cons (.ofString name) .none s .none tail, ?_, ?_⟩
    · rw [Source.Members.comma, Source.Members.chars, hchars, htail, membersChars]
      simp [Label.chars, Label.tailChars, Label.ofString, Literal.ofString, Space.none, Quoted.write]
    · rw [Source.Members.tree, htree, htailTree, membersToTree, Label.name, Label.ofString, Literal.value_ofString]

end

section
variable {P : JsonNumber → Prop}

theorem everyItem_of_forall {items : List Json} (h : ∀ v ∈ items, v.Every P) : EveryItem P items := by
  induction items with
  | nil => trivial
  | cons v items ih =>
    rw [List.forall_mem_cons] at h
    exact ⟨h.1, ih h.2⟩

theorem everyMember_of_forall {members : List (String × Json)}
    (h : ∀ m ∈ members, m.2.Every P) : EveryMember P members := by
  induction members with
  | nil => trivial
  | cons m members ih =>
    rw [List.forall_mem_cons] at h
    exact ⟨h.1, ih h.2⟩

end

theorem membersHeight_le {members : List (String × Json)} {n : Nat} (h : ∀ m ∈ members, m.2.height ≤ n) :
    membersHeight members ≤ n := by
  induction members with
  | nil => exact Nat.zero_le n
  | cons m members ih =>
    rw [List.forall_mem_cons] at h
    exact Nat.max_le.2 ⟨h.1, ih h.2⟩

theorem decode_compact {α : Type} {read : Reader α} {v : Json} (h : v.Every Readable) :
    decode read (compact v) = read maxDepth v.toTree := by
  obtain ⟨s, hchars, htree⟩ := exists_source h
  have htext : compact v = s.text .none .none := by
    rw [compact, Source.text, ← hchars, Space.none, List.append_nil, List.nil_append]
  rw [htext, decode_source, htree]

mutual

theorem raw_toTree : ∀ {v : Json} {room : Nat}, v.height ≤ room → v.toTree.raw room = .ok v
  | .null, _, _ | .bool _, _, _ | .number _, _, _ | .string _, _, _ => rfl
  | .array items, 0, h | .object members, 0, h => by
    rw [height] at h
    omega
  | .array items, room + 1, h => by
    rw [height] at h
    rw [toTree, Tree.raw, raw_itemsToTree (by omega)]
    rfl
  | .object members, room + 1, h => by
    rw [height] at h
    rw [toTree, Tree.raw, raw_membersToTree (by omega)]
    rfl

theorem raw_itemsToTree : ∀ {items : List Json} {room : Nat}, itemsHeight items ≤ room →
    (itemsToTree items).raw room = .ok items
  | [], _, _ => rfl
  | item :: items, room, h => by
    obtain ⟨hitem, hitems⟩ := Nat.max_le.1 h
    rw [itemsToTree, Items.raw, raw_toTree hitem, raw_itemsToTree hitems]
    rfl

theorem raw_membersToTree : ∀ {members : List (String × Json)} {room : Nat}, membersHeight members ≤ room →
    (membersToTree members).raw room = .ok members
  | [], _, _ => rfl
  | (name, value) :: members, room, h => by
    obtain ⟨hvalue, hmembers⟩ := Nat.max_le.1 h
    rw [membersToTree, Members.raw, raw_toTree hvalue, raw_membersToTree hmembers]
    rfl

end

end Json

end DataGrid
