import DataGrid.Json.Reader
import DataGrid.Proofs.Except

/-!
# The numbers in a text

Every number that a reader meets is that of a numeral of the text, whatever is read from the text
(`decode_ensures`). All such numbers are finite: those with a fraction or an exponent are refused when
they are too large, and those without have 64 bits.
-/

namespace DataGrid

open Binary64

/-! ### Numerals are finite -/

theorem Binary64.roundHalfEven_le (num den : Nat) : roundHalfEven num den ≤ num / den + 1 := by
  unfold roundHalfEven
  dsimp only
  split <;> omega

theorem Binary64.log2_lt_of_lt_pow {n k : Nat} (hk : 0 < k) (h : n < Nat.pow 2 k) : n.log2 < k := by
  by_cases hzero : n = 0
  · rwa [hzero, Nat.log2_zero]
  · exact (Nat.log2_lt hzero).2 h

/-- An integer of 64 bits is far below the largest finite number. -/
theorem Binary64.roundedPattern_lt {n : Nat} (h : n < Nat.pow 2 64) :
    roundedPattern n 1 < infinityPattern := by
  have hscaled : n * denominator < Nat.pow 2 1138 := by
    have hpos : 0 < denominator := by decide +kernel
    have hproduct : Nat.pow 2 64 * denominator = Nat.pow 2 1138 := by decide +kernel
    exact hproduct ▸ Nat.mul_lt_mul_of_pos_right h hpos
  unfold roundedPattern
  dsimp only
  rw [Nat.div_one, Nat.one_mul]
  generalize n * denominator = scaled at hscaled
  have hlog := log2_lt_of_lt_pow (by decide) hscaled
  -- the mantissa has 53 bits at most
  have hmantissa : scaled / Nat.pow 2 (scaled.log2 - 52) < Nat.pow 2 53 := by
    refine Nat.div_lt_of_lt_mul (Nat.lt_of_lt_of_le Nat.lt_log2_self ?_)
    show 2 ^ (scaled.log2 + 1) ≤ 2 ^ (scaled.log2 - 52) * 2 ^ 53
    rw [← Nat.pow_add]
    exact Nat.pow_le_pow_right (by decide) (by omega)
  have hround : roundHalfEven scaled (Nat.pow 2 (scaled.log2 - 52)) ≤ Nat.pow 2 53 :=
    Nat.le_trans (roundHalfEven_le ..) hmantissa
  have hshift : (scaled.log2 - 52) * leadingBit ≤ 1085 * leadingBit :=
    Nat.mul_le_mul_right _ (by omega)
  have hlargest : 1085 * leadingBit + Nat.pow 2 53 < infinityPattern := by decide +kernel
  exact Nat.lt_of_le_of_lt (Nat.add_le_add hshift hround) hlargest

theorem Binary64.ofRatio_eq_finite {negative : Bool} {num den : Nat} {x : Finite}
    (h : Finite.ofRatio? negative num den = some x) : ofRatio negative num den = .finite x := by
  -- opened at its arguments the definition would make the kernel round a fraction that is not known
  have hopen : ∀ f, f = ofRatio → f negative num den = .finite x := by
    delta ofRatio
    rintro _ rfl
    dsimp only
    rw [h]
  exact hopen _ rfl

theorem Binary64.ofRatio_eq_infinite {negative : Bool} {num den : Nat}
    (h : Finite.ofRatio? negative num den = none) : ofRatio negative num den = .infinite negative := by
  have hopen : ∀ f, f = ofRatio → f negative num den = .infinite negative := by
    delta ofRatio
    rintro _ rfl
    dsimp only
    rw [h]
  exact hopen _ rfl

namespace JsonNumber

def IsFinite (n : JsonNumber) : Prop := ∃ x, n.toBinary64 = .finite x

theorem isFinite_integer {i : Int} (h : i.natAbs < Nat.pow 2 64) : (integer i).IsFinite := by
  have hsome : ∃ x, Finite.ofRatio? (decide (i < 0)) i.natAbs 1 = some x :=
    ⟨_, dif_pos (roundedPattern_lt h)⟩
  obtain ⟨x, hx⟩ := hsome
  exact ⟨x, ofRatio_eq_finite hx⟩

theorem collect_le {start : Nat} (h : start ≤ capacity) :
    ∀ cs : List Char, (collect start cs).1 ≤ capacity
  | [] => h
  | c :: cs => by
    rw [collect]
    dsimp only
    split
    · next hnext => exact collect_le hnext cs
    · exact h

/-- A numeral has a finite number or none. -/
theorem Parts.isFinite_of_value? {p : Parts} {n : JsonNumber} (h : p.value? = some n) : n.IsFinite := by
  have hwhole := collect_le (Nat.zero_le capacity) p.whole
  unfold Parts.value? at h
  dsimp only at h
  split at h
  · cases h
    refine isFinite_integer (Nat.lt_of_le_of_lt ?_ (show capacity < Nat.pow 2 64 by decide))
    split
    · rwa [Int.natAbs_neg]
    · exact hwhole
  · obtain ⟨x, -, rfl⟩ := Option.map_eq_some_iff.1 h
    exact ⟨x, rfl⟩

end JsonNumber

namespace Json

/-! ### The numbers of trees -/

mutual

def Tree.Every (P : JsonNumber → Prop) : Tree → Prop
  | .number (some n) => P n
  | .array items => items.Every P
  | .object members => members.Every P
  | _ => True

def Items.Every (P : JsonNumber → Prop) : Items → Prop
  | .item value rest => value.Every P ∧ rest.Every P
  | _ => True

def Members.Every (P : JsonNumber → Prop) : Members → Prop
  | .member _ value rest => value.Every P ∧ rest.Every P
  | _ => True

end

mutual

def Every (P : JsonNumber → Prop) : Json → Prop
  | .number n => P n
  | .array items => EveryItem P items
  | .object members => EveryMember P members
  | _ => True

def EveryItem (P : JsonNumber → Prop) : List Json → Prop
  | [] => True
  | item :: items => item.Every P ∧ EveryItem P items

def EveryMember (P : JsonNumber → Prop) : List (String × Json) → Prop
  | [] => True
  | (_, value) :: members => value.Every P ∧ EveryMember P members

end

mutual

theorem Tree.every_true : ∀ tree : Tree, tree.Every fun _ => True
  | .null | .bool _ | .number none | .number (some _) | .string _ | .broken .. => trivial
  | .array items => items.every_true
  | .object members => members.every_true

theorem Items.every_true : ∀ items : Items, items.Every fun _ => True
  | .closed | .cut _ => trivial
  | .item value rest => ⟨value.every_true, rest.every_true⟩

theorem Members.every_true : ∀ members : Members, members.Every fun _ => True
  | .closed | .cut _ | .dangling _ => trivial
  | .member _ value rest => ⟨value.every_true, rest.every_true⟩

end

/-- All numbers of numerals have the property. -/
def OfNumerals (P : JsonNumber → Prop) : Prop :=
  ∀ (p : JsonNumber.Parts) n, p.value? = some n → P n

section
variable {P : JsonNumber → Prop}

theorem Tree.every_readWord (value : Tree) (hvalue : value.Every P) (first : Char) :
    ∀ word rest : List Char, (readWord value first word rest).1.Every P
  | [], _ => hvalue
  | _ :: _, [] => trivial
  | w :: word, c :: rest => by
    rw [readWord]
    split
    · exact Tree.every_readWord value hvalue first word rest
    · trivial

theorem Tree.every_of_afterName_eq_error {cs : List Char} {value : Tree}
    (h : afterName cs = .error value) : value.Every P := by
  unfold afterName at h
  split at h <;> cases h <;> trivial

theorem Tree.every_readString (cs : List Char) : (readString cs).1.Every P := by
  unfold readString
  split <;> trivial

theorem Tree.every_readNumber (hP : OfNumerals P) (cs : List Char) : (readNumber cs).1.Every P := by
  unfold readNumber
  split
  · next parts rest _ =>
    cases h : parts.value? with
    | none => trivial
    | some n => exact hP parts n h
  · trivial

mutual

/-- The numbers of a tree are those of numerals in its text. -/
theorem Tree.every_read (hP : OfNumerals P) : ∀ (fuel : Nat) (cs : List Char), (Tree.read fuel cs).1.Every P
  | 0, _ => trivial
  | fuel + 1, cs => by
    unfold Tree.read
    split
    · trivial
    · exact Tree.every_readWord .null trivial ..
    · exact Tree.every_readWord (.bool true) trivial ..
    · exact Tree.every_readWord (.bool false) trivial ..
    · exact Tree.every_readString ..
    · exact Items.every_read hP fuel _
    · exact Members.every_read hP fuel _
    · split
      · exact Tree.every_readNumber hP _
      · trivial

theorem Items.every_read (hP : OfNumerals P) :
    ∀ (fuel : Nat) (cs : List Char), (Items.read fuel cs).1.Every P
  | 0, _ => trivial
  | fuel + 1, cs => by
    unfold Items.read
    split
    · trivial
    · trivial
    · exact Items.every_readItem hP fuel _

theorem Items.every_readItem (hP : OfNumerals P) :
    ∀ (fuel : Nat) (cs : List Char), (Items.readItem fuel cs).1.Every P
  | 0, _ => trivial
  | fuel + 1, cs => by
    have hvalue := Tree.every_read hP fuel cs
    unfold Items.readItem
    split
    · next value h =>
      rw [h] at hvalue
      exact ⟨hvalue, trivial⟩
    · next value rest h =>
      rw [h] at hvalue
      split
      · exact ⟨hvalue, trivial⟩
      · exact ⟨hvalue, trivial⟩
      · exact ⟨hvalue, Items.every_readItem hP fuel _⟩
      · exact ⟨hvalue, trivial⟩

theorem Members.every_read (hP : OfNumerals P) :
    ∀ (fuel : Nat) (cs : List Char), (Members.read fuel cs).1.Every P
  | 0, _ => trivial
  | fuel + 1, cs => by
    unfold Members.read
    split
    · trivial
    · trivial
    · exact Members.every_readMember hP fuel .cut (fun _ => trivial) _
    · trivial

theorem Members.every_readMember (hP : OfNumerals P) : ∀ (fuel : Nat) (broken : Cut → Members)
    (_ : ∀ place, (broken place).Every P) (cs : List Char),
      (Members.readMember fuel broken cs).1.Every P
  | 0, _, _, _ => trivial
  | fuel + 1, broken, hbroken, cs => by
    unfold Members.readMember
    split
    · exact hbroken _
    · next name rest _ =>
      dsimp only
      split
      · next value h => exact ⟨Tree.every_of_afterName_eq_error h, trivial⟩
      · next rest _ =>
        have hvalue := Tree.every_read hP fuel rest
        split
        · next value h =>
          rw [h] at hvalue
          exact ⟨hvalue, trivial⟩
        · next value rest h =>
          rw [h] at hvalue
          split
          · exact ⟨hvalue, trivial⟩
          · exact ⟨hvalue, trivial⟩
          · split
            · exact ⟨hvalue, trivial⟩
            · exact ⟨hvalue, Members.every_readMember hP fuel .dangling (fun _ => trivial) _⟩
            · exact ⟨hvalue, trivial⟩
          · exact ⟨hvalue, trivial⟩

end

theorem Document.every_read (hP : OfNumerals P) (text : String) :
    (Document.read text).value.Every P := by
  unfold Document.read
  exact Tree.every_read hP ..

mutual

theorem Tree.every_raw : ∀ {room : Nat} {tree : Tree} {value : Json},
    tree.Every P → tree.raw room = .ok value → value.Every P
  | _, .null, _, _, h | _, .bool _, _, _, h | _, .string (some _), _, _, h => by
    cases h
    trivial
  | _, .number (some n), _, htree, h => by
    cases h
    exact htree
  | room + 1, .array items, _, htree, h => by
    obtain ⟨values, hvalues, rfl⟩ := Except.exists_of_map_eq_ok h
    exact Items.every_raw htree hvalues
  | room + 1, .object members, _, htree, h => by
    obtain ⟨values, hvalues, rfl⟩ := Except.exists_of_map_eq_ok h
    exact Members.every_raw htree hvalues

theorem Items.every_raw : ∀ {room : Nat} {items : Items} {values : List Json},
    items.Every P → items.raw room = .ok values → EveryItem P values
  | _, .closed, _, _, h => by
    cases h
    trivial
  | _, .item value rest, _, hitems, h => by
    obtain ⟨value', hvalue, h⟩ := Except.exists_of_bind_eq_ok h
    obtain ⟨values, hvalues, h⟩ := Except.exists_of_bind_eq_ok h
    cases h
    exact ⟨Tree.every_raw hitems.1 hvalue, Items.every_raw hitems.2 hvalues⟩

theorem Members.every_raw : ∀ {room : Nat} {members : Members} {values : List (String × Json)},
    members.Every P → members.raw room = .ok values → EveryMember P values
  | _, .closed, _, _, h => by
    cases h
    trivial
  | _, .member (some name) value rest, _, hmembers, h => by
    obtain ⟨value', hvalue, h⟩ := Except.exists_of_bind_eq_ok h
    obtain ⟨values, hvalues, h⟩ := Except.exists_of_bind_eq_ok h
    cases h
    exact ⟨Tree.every_raw hmembers.1 hvalue, Members.every_raw hmembers.2 hvalues⟩

end

/-! ### Readers -/

namespace Reader

variable {α σ : Type} {Q : α → Prop} {R : σ → Prop}

/-- What is read from trees whose numbers have the property has a property as well. -/
def Ensures (P : JsonNumber → Prop) (read : Reader α) (Q : α → Prop) : Prop :=
  ∀ room tree a, tree.Every P → read room tree = .ok a → Q a

/-- The field keeps a property of the record. -/
def Field.Keeps (P : JsonNumber → Prop) (field : Field σ) (R : σ → Prop) : Prop :=
  ∀ room tree record record', tree.Every P → R record → field.read room tree record = .ok record' →
    R record'

/-- The field keeps the property where this many arrays and objects may still be entered. -/
def Field.KeepsAt (P : JsonNumber → Prop) (room : Nat) (field : Field σ) (R : σ → Prop) : Prop :=
  ∀ tree record record', tree.Every P → R record → field.read room tree record = .ok record' →
    R record'

theorem ensures_orNull {read : Reader α} (h : Ensures P read Q) :
    Ensures P (orNull read) fun value => ∀ a ∈ value, Q a := by
  intro room tree value htree hread
  unfold orNull at hread
  split at hread
  · cases hread
    exact nofun
  · cases hread
  · obtain ⟨a, ha, rfl⟩ := Except.exists_of_map_eq_ok hread
    rintro _ ⟨⟩
    exact h room _ a htree ha

theorem ensures_orDefault {read : Reader α} {default : α} (hdefault : Q default)
    (h : Ensures P read Q) : Ensures P (orDefault default read) Q := by
  intro room tree a htree hread
  obtain ⟨value, hvalue, rfl⟩ := Except.exists_of_map_eq_ok hread
  cases value with
  | none => exact hdefault
  | some a => exact ensures_orNull h room tree _ htree hvalue a rfl

theorem eq_or_of_orDefault {read : Reader α} {default : α} {room : Nat} {tree : Tree} {a : α}
    (h : orDefault default read room tree = .ok a) : a = default ∨ read room tree = .ok a := by
  obtain ⟨value, hvalue, rfl⟩ := Except.exists_of_map_eq_ok h
  unfold orNull at hvalue
  split at hvalue
  · cases hvalue
    exact .inl rfl
  · cases hvalue
  · obtain ⟨a, ha, rfl⟩ := Except.exists_of_map_eq_ok hvalue
    exact .inr ha

theorem every_entryMembers {read : Tree → Except Fault α}
    (h : ∀ tree a, tree.Every P → read tree = .ok a → Q a) :
    ∀ {members : Members} {entries : List (String × α)}, members.Every P →
      entryMembers read members = .ok entries → ∀ entry ∈ entries, Q entry.2
  | .closed, _, _, hread => by
    cases hread
    exact nofun
  | .member (some name) value rest, _, hmembers, hread => by
    obtain ⟨a, ha, hread⟩ := Except.exists_of_bind_eq_ok hread
    obtain ⟨entries, hentries, hread⟩ := Except.exists_of_bind_eq_ok hread
    cases hread
    exact List.forall_mem_cons.2
      ⟨h value a hmembers.1 ha, every_entryMembers h hmembers.2 hentries⟩

theorem ensures_entries {read : Reader α} (h : Ensures P read Q) :
    Ensures P (entries read) fun entries => ∀ entry ∈ entries, Q entry.2 := by
  intro room tree list htree hread
  unfold entries at hread
  split at hread
  · cases hread
  · exact every_entryMembers (h _) htree hread
  · cases hread

/-- A field that is stored where the property does not look. -/
theorem keeps_field {name : String} {read : Reader α} {store : α → σ → σ}
    (hstore : ∀ a record, R record → R (store a record)) : (field name read store).Keeps P R := by
  intro room tree record record' _ hrecord hread
  obtain ⟨a, _, rfl⟩ := Except.exists_of_map_eq_ok hread
  exact hstore a record hrecord

theorem keepsAt_field {room : Nat} {name : String} {read : Reader α} {store : α → σ → σ}
    (hstore : ∀ a record, R record → R (store a record)) :
    (field name read store).KeepsAt P room R := fun tree => keeps_field hstore room tree

theorem keeps_field_of_ensures {name : String} {read : Reader α} {store : α → σ → σ}
    (hread : Ensures P read Q) (hstore : ∀ a record, Q a → R record → R (store a record)) :
    (field name read store).Keeps P R := by
  intro room tree record record' htree hrecord h
  obtain ⟨a, ha, rfl⟩ := Except.exists_of_map_eq_ok h
  exact hstore a record (hread room tree a htree ha) hrecord

theorem every_recordMembers {room : Nat} {fields : List (Field σ)}
    (hfields : ∀ field ∈ fields, field.KeepsAt P room R) :
    ∀ {seen : List String} {record record' : σ} {members : Members}, members.Every P →
      R record → recordMembers fields skipped room seen record members = .ok record' → R record'
  | _, _, _, .closed, _, hrecord, h => by
    cases h
    exact hrecord
  | seen, record, _, .member (some name) value rest, hmembers, hrecord, h => by
    rw [recordMembers] at h
    split at h
    · obtain ⟨next, hnext, h⟩ := Except.exists_of_bind_eq_ok h
      obtain ⟨_, _, hsame⟩ := Except.exists_of_bind_eq_ok hnext
      cases hsame
      exact every_recordMembers hfields hmembers.2 hrecord h
    · next field hfield =>
      split at h
      · cases h
      · obtain ⟨next, hnext, h⟩ := Except.exists_of_bind_eq_ok h
        have hkeeps := hfields field (List.mem_of_find?_eq_some hfield)
        exact every_recordMembers hfields hmembers.2
          (hkeeps value record next hmembers.1 hrecord hnext) h

theorem every_recordItems {short : Bool} {room : Nat} : ∀ {fields : List (Field σ)}
    (_ : ∀ field ∈ fields, field.KeepsAt P room R) {record record' : σ} {items : Items}, items.Every P →
      R record → recordItems short room record fields items = .ok record' → R record'
  | [], _, _, _, .closed, _, hrecord, h => by
    cases h
    exact hrecord
  | _ :: _, _, _, _, .closed, _, hrecord, h => by
    rw [recordItems] at h
    split at h
    · cases h
      exact hrecord
    · cases h
  | field :: fields, hfields, record, _, .item value rest, hitems, hrecord, h => by
    rw [List.forall_mem_cons] at hfields
    obtain ⟨next, hnext, h⟩ := Except.exists_of_bind_eq_ok h
    exact every_recordItems hfields.2 hitems.2
      (hfields.1 value record next hitems.1 hrecord hnext) h

/-- A record has what its fields keep, whether it is read from an object or from an array. -/
theorem every_record {short : Bool} {room : Nat} {fields : List (Field σ)} {start : σ} (hstart : R start)
    (hfields : ∀ field ∈ fields, field.KeepsAt P (room - 1) R) {tree : Tree} {a : σ} (htree : tree.Every P)
    (hread : record short fields start room tree = .ok a) : R a := by
  unfold record at hread
  split at hread
  · cases hread
  · cases hread
  · exact every_recordItems hfields htree hstart hread
  · exact every_recordMembers hfields htree hstart hread
  · cases hread

theorem ensures_record {short : Bool} {fields : List (Field σ)} {start : σ} (hstart : R start)
    (hfields : ∀ field ∈ fields, field.Keeps P R) : Ensures P (record short fields start) R :=
  fun _ _ _ htree hread => every_record hstart (fun field hfield => hfields field hfield _) htree hread

end Reader

/-- What is read from a text has the property that the reader ensures of it, when all numbers of
numerals have theirs. -/
theorem decode_ensures {α : Type} {read : Reader α} {Q : α → Prop} (hP : OfNumerals P)
    (h : Reader.Ensures P read Q) {text : String} {a : α} (hread : decode read text = .ok a) : Q a := by
  obtain ⟨value, hvalue, hread⟩ := Except.exists_of_bind_eq_ok hread
  split at hread
  · cases hread
    exact h _ _ _ (Document.every_read hP text) hvalue
  · cases hread

end

end Json

end DataGrid
