import DataGrid.Proofs.Json.Lexeme
import DataGrid.Proofs.Json.Numbers

/-!
# Concrete syntax of JSON texts

A source is a JSON text cut into its parts: blanks, numerals, string literals and brackets. It is read as its
tree, whatever follows it (`Source.read_chars`), and every text that is read to the end of a value is a source
(`Tree.exists_source`).
-/

namespace DataGrid.Json

/-- Blanks between the parts of a text. -/
structure Space where
  chars : List Char
  blank : ∀ c ∈ chars, isSpace c = true

structure Numeral where
  chars : List Char
  parts : JsonNumber.Parts
  scan_chars : JsonNumber.scan chars = .numeral parts []

/-- A string after its opening quote, up to the closing one. -/
structure Literal where
  chars : List Char
  text : Option (List Char)
  read_chars : Quoted.read chars = .closed text []

/-- The name of a member with its colon and the blanks around it. -/
structure Label where
  before : Space
  literal : Literal
  after : Space

mutual

inductive Source where
  | null
  | bool (value : Bool)
  | number (numeral : Numeral)
  | string (literal : Literal)
  | array (inner : Space) (items : Source.Items)
  | object (inner : Space) (members : Source.Members)

inductive Source.Items where
  | nil
  | cons (before : Space) (value : Source) (after : Space) (rest : Source.Items)

inductive Source.Members where
  | nil
  | cons (label : Label) (before : Space) (value : Source) (after : Space) (rest : Source.Members)

end

def Literal.value (literal : Literal) : Option String := literal.text.map String.ofList

namespace Label

def name (label : Label) : Option String := label.literal.value

/-- The text of a label behind its opening quote. -/
def tailChars (label : Label) : List Char := label.literal.chars ++ (label.after.chars ++ [':'])

def chars (label : Label) : List Char := label.before.chars ++ '\"' :: label.tailChars

end Label

namespace Source

/-- The comma in front of further items. -/
def Items.comma : Items → List Char
  | .nil => []
  | .cons .. => [',']

def Members.comma : Members → List Char
  | .nil => []
  | .cons .. => [',']

mutual

def chars : Source → List Char
  | .null => "null".toList
  | .bool true => "true".toList
  | .bool false => "false".toList
  | .number numeral => numeral.chars
  | .string literal => '\"' :: literal.chars
  | .array inner items => '[' :: (inner.chars ++ items.chars)
  | .object inner members => '{' :: (inner.chars ++ members.chars)

/-- The text of items and the bracket behind them. -/
def Items.chars : Items → List Char
  | .nil => [']']
  | .cons before value after rest =>
    before.chars ++ (value.chars ++ (after.chars ++ (rest.comma ++ rest.chars)))

def Members.chars : Members → List Char
  | .nil => ['}']
  | .cons label before value after rest =>
    label.chars ++ (before.chars ++ (value.chars ++ (after.chars ++ (rest.comma ++ rest.chars))))

end

mutual

def tree : Source → Tree
  | .null => .null
  | .bool value => .bool value
  | .number numeral => .number numeral.parts.value?
  | .string literal => .string literal.value
  | .array _ items => .array items.tree
  | .object _ members => .object members.tree

def Items.tree : Items → Json.Items
  | .nil => .closed
  | .cons _ value _ rest => .item value.tree rest.tree

def Members.tree : Members → Json.Members
  | .nil => .closed
  | .cons label _ value _ rest => .member label.name value.tree rest.tree

end

/-- The text of members behind the first opening quote. -/
def Members.body : Members → List Char
  | .nil => []
  | .cons label before value after rest =>
    label.tailChars ++ (before.chars ++ (value.chars ++ (after.chars ++ (rest.comma ++ rest.chars))))

theorem Members.chars_cons (label : Label) (before : Space) (value : Source) (after : Space) (rest : Members) :
    (Members.cons label before value after rest).chars =
      label.before.chars ++ '\"' :: (Members.cons label before value after rest).body := by
  rw [Members.chars, Label.chars, Members.body, List.append_assoc, List.cons_append]

end Source

/-! ### Reading sources -/

open JsonNumber (Stops)

section
variable {rest : List Char}

theorem dropSpace_append (space : Space) (rest : List Char) : dropSpace (space.chars ++ rest) = dropSpace rest :=
  List.dropWhile_append_of_pos space.blank

theorem dropSpace_cons {c : Char} (hc : isSpace c = false) : dropSpace (c :: rest) = c :: rest := by
  rw [dropSpace, List.dropWhile_cons_of_neg (by rw [hc]; exact Bool.false_ne_true)]

theorem stops_cons {c : Char} (hc : c.isDigit = false ∧ c ≠ '.' ∧ c ≠ 'e' ∧ c ≠ 'E') : Stops (c :: rest) := by
  rintro _ ⟨⟩
  exact hc

theorem stops_append (space : Space) (hrest : Stops rest) : Stops (space.chars ++ rest) := by
  refine JsonNumber.forall_head_append (fun c hc => ?_) hrest
  have hspace := space.blank c (List.mem_of_mem_head? hc)
  simp only [isSpace, Bool.or_eq_true, decide_eq_true_eq] at hspace
  rcases hspace with ((rfl | rfl) | rfl) | rfl <;> decide

theorem Literal.read_append (literal : Literal) (rest : List Char) :
    Quoted.read (literal.chars ++ rest) = .closed literal.text rest := by
  obtain ⟨lit, hlit, hspans⟩ := Quoted.exists_spans literal.read_chars
  rw [hlit, List.append_nil]
  exact hspans rest

theorem Numeral.scan_append (numeral : Numeral) (hrest : Stops rest) :
    JsonNumber.scan (numeral.chars ++ rest) = .numeral numeral.parts rest := by
  obtain ⟨c, num, hnum, -, hspans⟩ := JsonNumber.exists_spans numeral.scan_chars
  rw [hnum, List.append_nil]
  exact hspans rest hrest

theorem Numeral.exists_cons (numeral : Numeral) :
    ∃ c cs, numeral.chars = c :: cs ∧ (c = '-' || c.isDigit) = true := by
  obtain ⟨c, num, hnum, hc, -⟩ := JsonNumber.exists_spans numeral.scan_chars
  rw [List.append_nil] at hnum
  exact ⟨c, num, hnum, by simpa using hc⟩

/-- Any text is blanks and what is left without them. -/
theorem exists_space (cs : List Char) : ∃ space : Space, cs = space.chars ++ dropSpace cs :=
  ⟨⟨cs.takeWhile isSpace, List.all_eq_true.1 List.all_takeWhile⟩, List.takeWhile_append_dropWhile.symm⟩

theorem Tree.read_space (fuel : Nat) (space : Space) (cs : List Char) :
    Tree.read fuel (space.chars ++ cs) = Tree.read fuel cs := by
  cases fuel with
  | zero => rfl
  | succ fuel => rw [Tree.read, Tree.read, dropSpace_append]

theorem Items.readItem_space (fuel : Nat) (space : Space) (cs : List Char) :
    Items.readItem fuel (space.chars ++ cs) = Items.readItem fuel cs := by
  cases fuel with
  | zero => rfl
  | succ fuel => rw [Items.readItem, Items.readItem, Tree.read_space]

theorem isSpace_numeral {c : Char} (hc : (c = '-' || c.isDigit) = true) : isSpace c = false := by
  rw [← Bool.not_eq_true]
  intro h
  simp only [isSpace, Bool.or_eq_true, decide_eq_true_eq] at h
  rcases h with ((rfl | rfl) | rfl) | rfl <;> cases hc

theorem Tree.read_number (fuel : Nat) {c : Char} (hc : (c = '-' || c.isDigit) = true) (cs : List Char) :
    Tree.read (fuel + 1) (c :: cs) = readNumber (c :: cs) := by
  rw [Tree.read, dropSpace_cons (isSpace_numeral hc)]
  split
  case h_8 heq =>
    cases heq
    rw [if_pos hc]
  all_goals
    rename_i heq
    cases heq
    try cases hc

/-- A value does not start with a blank, and not with the bracket that ends an array. -/
theorem Source.exists_cons : ∀ s : Source, ∃ c cs, s.chars = c :: cs ∧ isSpace c = false ∧ c ≠ ']'
  | .null => ⟨'n', _, rfl, rfl, by decide⟩
  | .bool true => ⟨'t', _, rfl, rfl, by decide⟩
  | .bool false => ⟨'f', _, rfl, rfl, by decide⟩
  | .string _ => ⟨'\"', _, rfl, rfl, by decide⟩
  | .array .. => ⟨'[', _, rfl, rfl, by decide⟩
  | .object .. => ⟨'{', _, rfl, rfl, by decide⟩
  | .number numeral => by
    obtain ⟨c, cs, hcs, hc⟩ := numeral.exists_cons
    refine ⟨c, cs, hcs, isSpace_numeral hc, ?_⟩
    rintro rfl
    cases hc

theorem Items.read_of_ne {fuel : Nat} {cs : List Char} {c : Char} (h : dropSpace cs = c :: rest) (hc : c ≠ ']') :
    Items.read (fuel + 1) cs = Items.readItem fuel (c :: rest) := by
  rw [Items.read, h]
  split
  · contradiction
  · cases ‹_ :: _ = _›
    contradiction
  · rfl

theorem Source.Items.length_pos (items : Items) : 0 < items.chars.length := by
  cases items with
  | nil => exact Nat.one_pos
  | cons before value after tail =>
    obtain ⟨c, cs, hcs, -⟩ := value.exists_cons
    simp only [Items.chars, hcs, List.length_append, List.length_cons]
    omega

theorem Source.Members.length_pos (members : Members) : 0 < members.chars.length := by
  cases members with
  | nil => exact Nat.one_pos
  | cons label before value after tail =>
    simp only [Members.chars, Label.chars, List.length_append, List.length_cons]
    omega

theorem Source.Items.stops (items : Items) (rest : List Char) : Stops (items.comma ++ (items.chars ++ rest)) := by
  cases items with
  | nil => exact stops_cons (by decide)
  | cons => exact stops_cons (by decide)

theorem Source.Members.stops (members : Members) (rest : List Char) :
    Stops (members.comma ++ (members.chars ++ rest)) := by
  cases members with
  | nil => exact stops_cons (by decide)
  | cons => exact stops_cons (by decide)

end

-- Induction on the source and, for each part of it, on what is left of it. A reader of items may call one of
-- values before a character is read, and is called by another one: hence three calls for each character.
open Source in
mutual

theorem Source.read_chars : ∀ (s : Source) (fuel : Nat) (rest : List Char), 3 * s.chars.length ≤ fuel + 2 →
    Stops rest → Tree.read fuel (s.chars ++ rest) = (s.tree, some rest)
  | s, 0, _, hfuel, _ => by
    obtain ⟨c, cs, hcs, -⟩ := s.exists_cons
    rw [hcs, List.length_cons] at hfuel
    omega
  | .null, fuel + 1, _, _, _ | .bool true, fuel + 1, _, _, _ | .bool false, fuel + 1, _, _, _ => rfl
  | .number numeral, fuel + 1, rest, _, hrest => by
    obtain ⟨c, cs, hcs, hc⟩ := numeral.exists_cons
    have hscan := numeral.scan_append hrest
    rw [hcs] at hscan
    rw [Source.chars, hcs, List.cons_append, Tree.read_number fuel hc, readNumber, ← List.cons_append, hscan]
    rfl
  | .string literal, fuel + 1, rest, _, _ => by
    rw [Source.chars, List.cons_append, Tree.read, dropSpace_cons (by decide)]
    show readString _ = _
    rw [readString, literal.read_append]
    rfl
  | .array inner items, fuel + 1, rest, hfuel, _ => by
    rw [Source.chars, List.length_cons, List.length_append] at hfuel
    rw [Source.chars, List.cons_append, List.append_assoc, Tree.read, dropSpace_cons (by decide)]
    have hitems := Items.read_chars items inner fuel rest (by omega)
    simp only [hitems]
    rfl
  | .object inner members, fuel + 1, rest, hfuel, _ => by
    rw [Source.chars, List.length_cons, List.length_append] at hfuel
    rw [Source.chars, List.cons_append, List.append_assoc, Tree.read, dropSpace_cons (by decide)]
    have hmembers := Members.read_chars members inner fuel rest (by omega)
    simp only [hmembers]
    rfl

theorem Source.Items.read_chars : ∀ (items : Items) (inner : Space) (fuel : Nat) (rest : List Char),
    3 * items.chars.length ≤ fuel →
      Json.Items.read fuel (inner.chars ++ (items.chars ++ rest)) = (items.tree, some rest)
  | .nil, inner, fuel + 1, rest, _ => by
    rw [Json.Items.read, dropSpace_append, Items.chars, List.singleton_append, dropSpace_cons (by decide)]
    rfl
  | .cons before value after tail, _, 0, _, hfuel => by
    have hpos := Items.length_pos (.cons before value after tail)
    omega
  | .cons before value after tail, inner, fuel + 1, rest, hfuel => by
    obtain ⟨c, cs, hcs, hspace, hc⟩ := value.exists_cons
    have hitem := Items.readItem_chars (.cons before value after tail) fuel rest nofun (by omega)
    rw [Items.chars, List.append_assoc, Json.Items.readItem_space, hcs] at hitem
    rw [← hitem, Items.chars, hcs]
    refine Json.Items.read_of_ne ?_ hc
    rw [dropSpace_append, List.append_assoc, dropSpace_append]
    exact dropSpace_cons hspace

theorem Source.Items.readItem_chars : ∀ (items : Items) (fuel : Nat) (rest : List Char), items ≠ .nil →
    3 * items.chars.length ≤ fuel + 1 →
      Json.Items.readItem fuel (items.chars ++ rest) = (items.tree, some rest)
  | .cons before value after tail, 0, _, _, hfuel => by
    obtain ⟨c, cs, hcs, -⟩ := value.exists_cons
    simp only [Items.chars, hcs, List.length_append, List.length_cons] at hfuel
    omega
  | .cons before value after tail, fuel + 1, rest, _, hfuel => by
    simp only [Items.chars, List.length_append] at hfuel
    have hlast := tail.length_pos
    have hvalue := Source.read_chars value fuel _ (by omega) (stops_append after (tail.stops rest))
    simp only [Items.chars, List.append_assoc, Json.Items.readItem, Tree.read_space, hvalue, dropSpace_append]
    cases tail with
    | nil =>
      rw [Items.comma, Items.chars, List.nil_append, List.singleton_append, dropSpace_cons (by decide)]
      rfl
    | cons before' value' after' tail' =>
      have htail := Items.readItem_chars (.cons before' value' after' tail') fuel rest nofun
        (by rw [Items.comma, List.length_singleton] at hfuel; omega)
      rw [Items.comma, List.singleton_append, dropSpace_cons (by decide)]
      simp only [htail]
      rfl

theorem Source.Members.read_chars : ∀ (members : Members) (inner : Space) (fuel : Nat) (rest : List Char),
    3 * members.chars.length ≤ fuel →
      Json.Members.read fuel (inner.chars ++ (members.chars ++ rest)) = (members.tree, some rest)
  | .nil, inner, fuel + 1, rest, _ => by
    rw [Json.Members.read, dropSpace_append, Members.chars, List.singleton_append, dropSpace_cons (by decide)]
    rfl
  | .cons label before value after tail, _, 0, _, hfuel => by
    have hpos := Members.length_pos (.cons label before value after tail)
    omega
  | .cons label before value after tail, inner, fuel + 1, rest, hfuel => by
    rw [Members.chars_cons, List.length_append, List.length_cons] at hfuel
    have hmember := Members.readMember_chars (.cons label before value after tail) fuel rest
      .cut nofun (by omega)
    rw [Json.Members.read, dropSpace_append, Members.chars_cons, List.append_assoc, dropSpace_append,
      List.cons_append, dropSpace_cons (by decide)]
    exact hmember

theorem Source.Members.readMember_chars : ∀ (members : Members) (fuel : Nat) (rest : List Char)
    (broken : Cut → Json.Members), members ≠ .nil → 3 * members.body.length ≤ fuel + 1 →
      Json.Members.readMember fuel broken (members.body ++ rest) = (members.tree, some rest)
  | .cons label before value after tail, 0, _, _, _, hfuel => by
    obtain ⟨c, cs, hcs, -⟩ := value.exists_cons
    simp only [Members.body, hcs, List.length_append, List.length_cons] at hfuel
    omega
  | .cons label before value after tail, fuel + 1, rest, broken, _, hfuel => by
    simp only [Members.body, Label.tailChars, List.length_append, List.length_singleton] at hfuel
    have hlast := tail.length_pos
    have hvalue := Source.read_chars value fuel _ (by omega) (stops_append after (tail.stops rest))
    have hcolon (cs : List Char) : afterName (label.after.chars ++ ':' :: cs) = .ok cs := by
      rw [afterName, dropSpace_append, dropSpace_cons (by decide)]
      rfl
    simp only [Members.body, Label.tailChars, List.append_assoc, List.cons_append, List.nil_append,
      Json.Members.readMember, label.literal.read_append, hcolon, Tree.read_space, hvalue, dropSpace_append]
    cases tail with
    | nil =>
      rw [Members.comma, Members.chars, List.nil_append, List.singleton_append, dropSpace_cons (by decide)]
      rfl
    | cons label' before' value' after' tail' =>
      rw [Members.chars_cons, List.length_append, List.length_cons] at hfuel
      have htail := Members.readMember_chars (.cons label' before' value' after' tail') fuel rest
        .dangling nofun (by omega)
      rw [Members.comma, List.singleton_append, dropSpace_cons (by decide), Members.chars_cons]
      simp only [List.append_assoc, dropSpace_append, List.cons_append,
        dropSpace_cons (show isSpace '\"' = false by decide), htail]
      rfl

end

/-! ### Texts that are read are sources -/

theorem eq_append_of_readWord {value t : Tree} {first : Char} {rest : List Char} : ∀ {word cs : List Char},
    readWord value first word cs = (t, some rest) → cs = word ++ rest ∧ t = value
  | [], _, h => by
    cases h
    exact ⟨rfl, rfl⟩
  | _ :: _, [], h => by cases h
  | w :: word, c :: cs, h => by
    rw [readWord] at h
    split at h
    · next hc =>
      obtain ⟨rfl, ht⟩ := eq_append_of_readWord h
      exact ⟨hc ▸ rfl, ht⟩
    · cases h

theorem exists_literal {cs rest : List Char} {text : Option (List Char)} (h : Quoted.read cs = .closed text rest) :
    ∃ literal : Literal, cs = literal.chars ++ rest ∧ literal.text = text := by
  obtain ⟨lit, hcs, hspans⟩ := Quoted.exists_spans h
  exact ⟨⟨lit, text, by rw [← hspans [], List.append_nil]; rfl⟩, hcs, rfl⟩

theorem exists_numeral {cs rest : List Char} {parts : JsonNumber.Parts}
    (h : JsonNumber.scan cs = .numeral parts rest) :
    ∃ numeral : Numeral, cs = numeral.chars ++ rest ∧ numeral.parts = parts := by
  obtain ⟨c, num, hcs, -, hspans⟩ := JsonNumber.exists_spans h
  exact ⟨⟨c :: num, parts, by rw [← hspans [] nofun, List.append_nil]⟩, hcs, rfl⟩

theorem eq_append_of_afterName {cs rest : List Char} (h : afterName cs = .ok rest) :
    ∃ space : Space, cs = space.chars ++ ':' :: rest := by
  obtain ⟨space, hcs⟩ := exists_space cs
  unfold afterName at h
  split at h
  · cases h
  · next heq =>
    cases h
    exact ⟨space, hcs.trans (by rw [heq])⟩
  · cases h

mutual

/-- What is read to its end is a source, maybe with blanks in front. -/
theorem Tree.exists_source : ∀ {fuel : Nat} {cs : List Char} {t : Tree} {rest : List Char},
    Tree.read fuel cs = (t, some rest) →
      ∃ (space : Space) (s : Source), cs = space.chars ++ (s.chars ++ rest) ∧ s.tree = t
  | fuel + 1, cs, t, rest, h => by
    obtain ⟨space, hcs⟩ := exists_space cs
    rw [Tree.read] at h
    split at h
    · cases h
    · next heq =>
      obtain ⟨rfl, rfl⟩ := eq_append_of_readWord h
      exact ⟨space, .null, by rw [hcs, heq]; rfl, rfl⟩
    · next heq =>
      obtain ⟨rfl, rfl⟩ := eq_append_of_readWord h
      exact ⟨space, .bool true, by rw [hcs, heq]; rfl, rfl⟩
    · next heq =>
      obtain ⟨rfl, rfl⟩ := eq_append_of_readWord h
      exact ⟨space, .bool false, by rw [hcs, heq]; rfl, rfl⟩
    · next heq =>
      unfold readString at h
      split at h
      · next hread =>
        cases h
        obtain ⟨literal, rfl, rfl⟩ := exists_literal hread
        exact ⟨space, .string literal, by rw [hcs, heq]; rfl, rfl⟩
      · cases h
    · next heq =>
      cases hitems : Items.read fuel _ with
      | mk items left =>
        rw [hitems] at h
        cases h
        obtain ⟨inner, items, rfl, rfl⟩ := Items.exists_source hitems
        exact ⟨space, .array inner items, by rw [hcs, heq, Source.chars]; simp, rfl⟩
    · next heq =>
      cases hmembers : Members.read fuel _ with
      | mk members left =>
        rw [hmembers] at h
        cases h
        obtain ⟨inner, members, rfl, rfl⟩ := Members.exists_source hmembers
        exact ⟨space, .object inner members, by rw [hcs, heq, Source.chars]; simp, rfl⟩
    · next heq =>
      split at h
      · unfold readNumber at h
        split at h
        · next hscan =>
          cases h
          obtain ⟨numeral, hnum, rfl⟩ := exists_numeral hscan
          exact ⟨space, .number numeral, by rw [hcs, heq, hnum]; rfl, rfl⟩
        · cases h
      · cases h

theorem Items.exists_source : ∀ {fuel : Nat} {cs : List Char} {items : Items} {rest : List Char},
    Items.read fuel cs = (items, some rest) →
      ∃ (inner : Space) (s : Source.Items), cs = inner.chars ++ (s.chars ++ rest) ∧ s.tree = items
  | fuel + 1, cs, items, rest, h => by
    obtain ⟨space, hcs⟩ := exists_space cs
    rw [Items.read] at h
    split at h
    · cases h
    · next heq =>
      cases h
      exact ⟨space, .nil, by rw [hcs, heq]; rfl, rfl⟩
    · obtain ⟨s, hs, -, htree⟩ := Items.exists_source_item h
      exact ⟨space, s, by rw [← hs]; exact hcs, htree⟩

theorem Items.exists_source_item : ∀ {fuel : Nat} {cs : List Char} {items : Items} {rest : List Char},
    Items.readItem fuel cs = (items, some rest) →
      ∃ s : Source.Items, cs = s.chars ++ rest ∧ s.comma = [','] ∧ s.tree = items
  | fuel + 1, cs, items, rest, h => by
    rw [Items.readItem] at h
    split at h
    · cases h
    · next value left hread =>
      obtain ⟨before, v, rfl, rfl⟩ := Tree.exists_source hread
      obtain ⟨after, hleft⟩ := exists_space left
      split at h
      · cases h
      · next heq =>
        cases h
        refine ⟨.cons before v after .nil, ?_, rfl, rfl⟩
        rw [hleft, heq, Source.Items.chars, Source.Items.comma, Source.Items.chars]
        simp
      · next heq =>
        cases hitems : Items.readItem fuel _ with
        | mk tail left' =>
          rw [hitems] at h
          cases h
          obtain ⟨tail, rfl, hcomma, rfl⟩ := Items.exists_source_item hitems
          refine ⟨.cons before v after tail, ?_, rfl, rfl⟩
          rw [hleft, heq, Source.Items.chars, hcomma]
          simp
      · cases h

theorem Members.exists_source : ∀ {fuel : Nat} {cs : List Char} {members : Members} {rest : List Char},
    Members.read fuel cs = (members, some rest) →
      ∃ (inner : Space) (s : Source.Members), cs = inner.chars ++ (s.chars ++ rest) ∧ s.tree = members
  | fuel + 1, cs, members, rest, h => by
    obtain ⟨space, hcs⟩ := exists_space cs
    rw [Members.read] at h
    split at h
    · cases h
    · next heq =>
      cases h
      exact ⟨space, .nil, by rw [hcs, heq]; rfl, rfl⟩
    · next heq =>
      obtain ⟨s, hs, -, htree⟩ := Members.exists_source_member h ⟨[], nofun⟩
      exact ⟨space, s, by rw [← hs, ← heq]; exact hcs, htree⟩
    · cases h

theorem Members.exists_source_member : ∀ {fuel : Nat} {broken : Cut → Members} {cs : List Char}
    {members : Members} {rest : List Char}, Members.readMember fuel broken cs = (members, some rest) →
      ∀ space : Space, ∃ s : Source.Members,
        space.chars ++ '\"' :: cs = s.chars ++ rest ∧ s.comma = [','] ∧ s.tree = members
  | fuel + 1, broken, cs, members, rest, h, space => by
    rw [Members.readMember] at h
    split at h
    · cases h
    · next name left hread =>
      obtain ⟨literal, rfl, rfl⟩ := exists_literal hread
      dsimp only at h
      split at h
      · cases h
      · next left' hname =>
        obtain ⟨behind, rfl⟩ := eq_append_of_afterName hname
        split at h
        · cases h
        · next value left'' hvalue =>
          obtain ⟨before, v, rfl, rfl⟩ := Tree.exists_source hvalue
          obtain ⟨after, hleft⟩ := exists_space left''
          let label : Label := ⟨space, literal, behind⟩
          split at h
          · cases h
          · next heq =>
            cases h
            refine ⟨.cons label before v after .nil, ?_, rfl, rfl⟩
            rw [hleft, heq, Source.Members.chars_cons, Source.Members.body, Source.Members.comma,
              Source.Members.chars]
            simp [label, Label.tailChars]
          · next further heq =>
            obtain ⟨space', hfurther⟩ := exists_space further
            split at h
            · cases h
            · next heq' =>
              cases hmembers : Members.readMember fuel .dangling _ with
              | mk tail left =>
                rw [hmembers] at h
                cases h
                obtain ⟨tail, htail, hcomma, rfl⟩ := Members.exists_source_member hmembers space'
                rw [heq', htail] at hfurther
                refine ⟨.cons label before v after tail, ?_, rfl, rfl⟩
                rw [hleft, heq, hfurther, Source.Members.chars_cons, Source.Members.body, hcomma]
                simp [label, Label.tailChars]
            · cases h
          · cases h

end

/-! ### Whole texts -/

theorem Document.read_ofList (cs : List Char) :
    Document.read (String.ofList cs) = ⟨(Tree.read (3 * cs.length + 3) cs).1,
      (Tree.read (3 * cs.length + 3) cs).2.map dropSpace = some []⟩ := by
  rw [Document.read, String.toList_ofList]

/-- The text of a source with blanks around it. -/
def Source.text (before : Space) (s : Source) (after : Space) : String :=
  String.ofList (before.chars ++ (s.chars ++ after.chars))

section
variable {α : Type} {read : Reader α}

theorem decode_source (before : Space) (s : Source) (after : Space) :
    decode read (s.text before after) = read maxDepth s.tree := by
  have hread : Tree.read (3 * (before.chars ++ (s.chars ++ after.chars)).length + 3)
      (before.chars ++ (s.chars ++ after.chars)) = (s.tree, some after.chars) := by
    have hend : Stops [] := nofun
    have hstops := stops_append after hend
    rw [List.append_nil] at hstops
    rw [Tree.read_space]
    refine s.read_chars _ _ ?_ hstops
    simp only [List.length_append]
    omega
  have hafter := dropSpace_append after []
  rw [List.append_nil] at hafter
  rw [Source.text, decode, Document.read_ofList, hread]
  simp only [Option.map_some, hafter]
  cases read maxDepth s.tree <;> rfl

/-- A text that is decoded is one of a source. -/
theorem exists_source_of_decode {text : String} {a : α} (h : decode read text = .ok a) :
    ∃ (before : Space) (s : Source) (after : Space), text = s.text before after ∧
      read maxDepth s.tree = .ok a := by
  have hcomplete : (Document.read text).complete = true := by
    obtain ⟨value, -, h⟩ := Except.exists_of_bind_eq_ok h
    split at h
    · assumption
    · cases h
  have hdocument := Document.read_ofList text.toList
  rw [String.ofList_toList] at hdocument
  rw [hdocument] at hcomplete
  cases hread : Tree.read (3 * text.toList.length + 3) text.toList with
  | mk t left =>
    rw [hread] at hcomplete
    cases left with
    | none => cases hcomplete
    | some rest =>
      obtain ⟨before, s, htext, -⟩ := Tree.exists_source hread
      obtain ⟨after, hrest⟩ := exists_space rest
      rw [Option.some.inj (of_decide_eq_true hcomplete), List.append_nil] at hrest
      have htext : text = s.text before after := by
        rw [Source.text, ← hrest, ← htext, String.ofList_toList]
      rw [htext, decode_source] at h
      exact ⟨before, s, after, htext, h⟩

end

end DataGrid.Json
