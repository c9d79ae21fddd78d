import DataGrid.Comparison
import DataGrid.Identifier
import DataGrid.Sql.Dialect

/-!
# Tokens of SQL texts

A text is cut into tokens from left to right. Names stand between double quotes, so a name is never
taken for a keyword, whatever it spells; question marks are numbered in their order. `Reads` says how
a piece of a text is cut when what follows cannot run on its last token.
-/

namespace DataGrid.Sql

/-- The words that statements are made of. -/
inductive Keyword where
  | SELECT | FROM | WHERE | ORDER | BY | LIMIT | OFFSET
  | AND | OR | NOT | IS | NULL | LIKE | ESCAPE
  | CAST | AS | VARCHAR | TEXT | TIMESTAMP | DATETIME
  | ASC | DESC | NULLS | FIRST | LAST | CASE | WHEN | THEN | ELSE | END
deriving DecidableEq, Repr

namespace Keyword

def text : Keyword → String
  | SELECT => "SELECT" | FROM => "FROM" | WHERE => "WHERE" | ORDER => "ORDER" | BY => "BY"
  | LIMIT => "LIMIT" | OFFSET => "OFFSET" | AND => "AND" | OR => "OR" | NOT => "NOT" | IS => "IS"
  | NULL => "NULL" | LIKE => "LIKE" | ESCAPE => "ESCAPE" | CAST => "CAST" | AS => "AS"
  | VARCHAR => "VARCHAR" | TEXT => "TEXT" | TIMESTAMP => "TIMESTAMP" | DATETIME => "datetime"
  | ASC => "ASC" | DESC => "DESC" | NULLS => "NULLS" | FIRST => "FIRST" | LAST => "LAST"
  | CASE => "CASE" | WHEN => "WHEN" | THEN => "THEN" | ELSE => "ELSE" | END => "END"

def all : List Keyword :=
  [SELECT, FROM, WHERE, ORDER, BY, LIMIT, OFFSET, AND, OR, NOT, IS, NULL, LIKE, ESCAPE, CAST, AS,
    VARCHAR, TEXT, TIMESTAMP, DATETIME, ASC, DESC, NULLS, FIRST, LAST, CASE, WHEN, THEN, ELSE, END]

def ofChars? (word : List Char) : Option Keyword := all.find? (·.text.toList = word)

end Keyword

inductive Token where
  | keyword (k : Keyword)
  /-- A word that is no keyword. -/
  | word (s : String)
  /-- A name between double quotes. -/
  | name (s : String)
  /-- A text between single quotes. -/
  | literal (s : String)
  | number (n : Nat)
  /-- The place of a parameter, by its number from 1 on. -/
  | placeholder (n : Nat)
  | comparison (c : Comparison)
  | star
  | comma
  | opening
  | closing
  /-- Two colons, before the type that a value is converted to. -/
  | conversion
  /-- What starts no token, or one that never ends. -/
  | stray (c : Char)
deriving DecidableEq, Repr

/-- What has been read of the token that is being read. -/
inductive Mode where
  | blank
  | complete (t : Token)
  | word (s : List Char)
  | quoted (quote : Char) (s : List Char)
  /-- At the closing quote, which stands for itself if a second one follows. -/
  | closed (quote : Char) (s : List Char)
  | number (n : Nat)
  | dollar
  | numbered (n : Nat)
  | operator (c : Char)

namespace Mode

def digit (c : Char) : Nat := c.toNat - '0'.toNat

/-- What a character begins that belongs to no token before it. -/
def start (c : Char) : Mode :=
  if Identifier.isStart c then word [c]
  else if c.isDigit then number (digit c)
  else if c = '\"' ∨ c = '\'' then quoted c []
  else if c = '$' then dollar
  else if c = '<' ∨ c = '>' ∨ c = ':' then operator c
  else if c = '=' then complete (.comparison .equal)
  else if c = '(' then complete .opening
  else if c = ')' then complete .closing
  else if c = ',' then complete .comma
  else if c = '*' then complete .star
  else complete (.stray c)

/-- The token with one more character, if that belongs to it. -/
def extend (c : Char) : Mode → Option Mode
  | word s => if Identifier.isRest c then some (word (s ++ [c])) else none
  | quoted quote s => some (if c = quote then closed quote s else quoted quote (s ++ [c]))
  | closed quote s => if c = quote then some (quoted quote (s ++ [c])) else none
  | number n => if c.isDigit then some (number (10 * n + digit c)) else none
  | dollar => if c.isDigit then some (numbered (digit c)) else none
  | numbered n => if c.isDigit then some (numbered (10 * n + digit c)) else none
  | operator '<' =>
    if c = '=' then some (complete (.comparison .lessOrEqual))
    else if c = '>' then some (complete (.comparison .notEqual))
    else none
  | operator '>' => if c = '=' then some (complete (.comparison .greaterOrEqual)) else none
  | operator ':' => if c = ':' then some (complete .conversion) else none
  | _ => none

def finish : Mode → List Token
  | blank => []
  | complete t => [t]
  | word s => [((Keyword.ofChars? s).map .keyword).getD (.word (String.ofList s))]
  | quoted quote _ => [.stray quote]
  | closed quote s => [if quote = '\"' then .name (String.ofList s) else .literal (String.ofList s)]
  | number n => [.number n]
  | dollar => [.stray '$']
  | numbered n => [.placeholder n]
  | operator c =>
    [if c = '<' then .comparison .less else if c = '>' then .comparison .greater else .stray c]

end Mode

/-- Cuts a text after `marks` question marks. -/
def run (marks : Nat) (mode : Mode) : List Char → List Token
  | [] => mode.finish
  | c :: cs =>
    match mode.extend c with
    | some mode => run marks mode cs
    | none =>
      mode.finish ++
        if c = ' ' then run marks .blank cs
        else if c = '?' then run (marks + 1) (.complete (.placeholder (marks + 1))) cs
        else run marks (.start c) cs

def scan (marks : Nat) (cs : List Char) : List Token := run marks .blank cs

/-! ### Reading a text piece by piece -/

/-- What follows a token and does not belong to it. -/
def Apart (rest : List Char) : Prop :=
  ∀ c ∈ rest.head?, c = ' ' ∨ c = ')' ∨ c = ',' ∨ c = ':'

/-- The text stands apart from a token before it. -/
def BeginsApart (text : String) : Prop := ∀ rest, Apart (text.toList ++ rest)

/-- The text is read as these tokens before any rest as in `P`; `marks` and `marks'` question marks are
counted before and after it. -/
def Reads (P : List Char → Prop) (marks : Nat) (text : String) (ts : List Token) (marks' : Nat) : Prop :=
  ∀ rest, P rest → scan marks (text.toList ++ rest) = ts ++ scan marks' rest

abbrev ReadsApart := Reads Apart

abbrev ReadsOpen := Reads fun _ => True

section
variable {P Q : List Char → Prop} {m m' m'' : Nat} {a b : String} {ts us : List Token}

theorem beginsApart_cons {c : Char} {cs : List Char} (ha : a.toList = c :: cs)
    (hc : c = ' ' ∨ c = ')' ∨ c = ',' ∨ c = ':') : BeginsApart a := by
  intro rest d hd
  rw [ha] at hd
  cases hd
  exact hc

theorem apart_nil : Apart [] := nofun

/-- No character that stands apart belongs to the token before it. -/
theorem run_of_apart {mode : Mode} {rest : List Char} (hrest : Apart rest)
    (hmode : ∀ c, c = ' ' ∨ c = ')' ∨ c = ',' ∨ c = ':' → mode.extend c = none) :
    run m mode rest = mode.finish ++ scan m rest := by
  cases rest with
  | nil => simp [run, scan, Mode.finish]
  | cons c cs =>
    have hc : mode.extend c = none := hmode c (hrest c rfl)
    have hblank : Mode.blank.extend c = none := rfl
    rw [scan, run, run, hc, hblank]
    rfl

theorem Reads.append (ha : Reads Q m a ts m') (hb : Reads P m' b us m'')
    (hQ : ∀ rest, P rest → Q (b.toList ++ rest)) : Reads P m (a ++ b) (ts ++ us) m'' := by
  intro rest hrest
  rw [String.toList_append, List.append_assoc, ha _ (hQ rest hrest), hb rest hrest, List.append_assoc]

theorem Reads.apart (h : ReadsOpen m a ts m') : ReadsApart m a ts m' := fun rest _ => h rest trivial

/-- A whole text that is read as these tokens is cut into them. -/
theorem Reads.scan_eq (h : ReadsApart m a ts m') : scan m a.toList = ts := by
  have hwhole := h [] apart_nil
  have hnil : scan m' [] = [] := rfl
  rwa [hnil, List.append_nil, List.append_nil] at hwhole

theorem Reads.then (ha : ReadsOpen m a ts m') (hb : Reads P m' b us m'') :
    Reads P m (a ++ b) (ts ++ us) m'' :=
  ha.append hb fun _ _ => trivial

theorem Reads.thenApart (ha : ReadsApart m a ts m') (hb : Reads P m' b us m'') (h : BeginsApart b) :
    Reads P m (a ++ b) (ts ++ us) m'' :=
  ha.append hb fun rest _ => h rest

/-- A phrase of fixed words that ends in the middle of a token. -/
theorem reads_phrase (ts : List Token) {mode : Mode}
    (h : ∀ rest, scan m (a.toList ++ rest) = ts ++ run m' mode rest)
    (hmode : ∀ c, c = ' ' ∨ c = ')' ∨ c = ',' ∨ c = ':' → mode.extend c = none) :
    ReadsApart m a (ts ++ mode.finish) m' := by
  intro rest hrest
  rw [h, run_of_apart hrest hmode, List.append_assoc]

/-- A phrase of fixed words that ends with a token that nothing goes on with. -/
theorem reads_complete (ts : List Token) (t : Token)
    (h : ∀ rest, scan m (a.toList ++ rest) = ts ++ run m' (.complete t) rest) :
    ReadsOpen m a (ts ++ [t]) m' := by
  intro rest _
  have hrun : run m' (.complete t) rest = t :: scan m' rest := by cases rest <;> rfl
  rw [h, hrun, List.append_assoc, List.singleton_append]

theorem extend_word (s : List Char) :
    ∀ c, c = ' ' ∨ c = ')' ∨ c = ',' ∨ c = ':' → (Mode.word s).extend c = none := by
  rintro c (rfl | rfl | rfl | rfl) <;> rfl

theorem extend_number (n : Nat) :
    ∀ c, c = ' ' ∨ c = ')' ∨ c = ',' ∨ c = ':' → (Mode.number n).extend c = none := by
  rintro c (rfl | rfl | rfl | rfl) <;> rfl

theorem extend_numbered (n : Nat) :
    ∀ c, c = ' ' ∨ c = ')' ∨ c = ',' ∨ c = ':' → (Mode.numbered n).extend c = none := by
  rintro c (rfl | rfl | rfl | rfl) <;> rfl

theorem extend_closed {quote : Char} (hq : quote = '\"' ∨ quote = '\'') (s : List Char) :
    ∀ c, c = ' ' ∨ c = ')' ∨ c = ',' ∨ c = ':' → (Mode.closed quote s).extend c = none := by
  rcases hq with rfl | rfl <;> rintro c (rfl | rfl | rfl | rfl) <;> rfl

/-! ### Names and numbers -/

theorem run_quoted {q : Char} {rest : List Char} :
    ∀ {cs : List Char} (s : List Char), q ∉ cs →
      run m (.quoted q s) (cs ++ q :: rest) = run m (.closed q (s ++ cs)) rest
  | [], s, _ => by
    rw [List.nil_append, run, Mode.extend, if_pos rfl, List.append_nil]
  | c :: cs, s, hq => by
    rw [List.mem_cons, not_or] at hq
    rw [List.cons_append, run, Mode.extend, if_neg (Ne.symm hq.1)]
    show run m (.quoted q (s ++ [c])) (cs ++ q :: rest) = _
    rw [run_quoted (s ++ [c]) hq.2, List.append_assoc, List.singleton_append]

theorem reads_quote {name : String} (h : '\"' ∉ name.toList) :
    ReadsApart m (quote name) [.name name] m := by
  intro rest hrest
  have hstart : scan m ((quote name).toList ++ rest) =
      run m (.quoted '\"' []) (name.toList ++ '\"' :: rest) := by
    simp only [quote, String.toList_append, List.append_assoc]
    rfl
  rw [hstart, run_quoted [] h, run_of_apart hrest (extend_closed (.inl rfl) _), List.nil_append,
    Mode.finish, if_pos rfl, String.ofList_toList]

/-- A name is a name even if it spells a keyword. -/
example : scan 0 "(\"OR\" <> $12 OR \"x\" <= datetime(?))".toList =
    [.opening, .name "OR", .comparison .notEqual, .placeholder 12, .keyword .OR, .name "x",
      .comparison .lessOrEqual, .keyword .DATETIME, .opening, .placeholder 1, .closing, .closing] := by
  decide

/-- Digits go on with a number, in each of the two modes that read one. -/
theorem run_digits (mode : Nat → Mode) {rest : List Char}
    (hmode : ∀ n c, c.isDigit = true → (mode n).extend c = some (mode (10 * n + Mode.digit c))) :
    ∀ {ds : List Char} (n : Nat), (∀ d ∈ ds, d.isDigit = true) →
      run m (mode n) (ds ++ rest) = run m (mode (Nat.ofDigitChars 10 ds n)) rest
  | [], n, _ => by rw [List.nil_append, Nat.ofDigitChars_nil]
  | d :: ds, n, hd => by
    rw [List.forall_mem_cons] at hd
    rw [List.cons_append, run, hmode n d hd.1, Nat.ofDigitChars_cons]
    exact run_digits mode hmode _ hd.2

theorem exists_toDigits (n : Nat) : ∃ d ds, Nat.toDigits 10 n = d :: ds ∧ d.isDigit = true ∧
    (∀ c ∈ ds, c.isDigit = true) ∧ Nat.ofDigitChars 10 ds (Mode.digit d) = n := by
  have hdigits : ∀ c ∈ Nat.toDigits 10 n, c.isDigit = true := fun c hc =>
    Nat.isDigit_of_mem_toDigits (by decide) (by decide) hc
  have hvalue : Nat.ofDigitChars 10 (Nat.toDigits 10 n) 0 = n := Nat.ofDigitChars_ten_toDigits
  cases h : Nat.toDigits 10 n with
  | nil => exact absurd h Nat.toDigits_ne_nil
  | cons d ds =>
    rw [h] at hdigits hvalue
    rw [List.forall_mem_cons] at hdigits
    rw [Nat.ofDigitChars_cons, Nat.mul_zero, Nat.zero_add] at hvalue
    exact ⟨d, ds, rfl, hdigits.1, hdigits.2, hvalue⟩

theorem isStart_of_isDigit {d : Char} (h : d.isDigit = true) : Identifier.isStart d = false := by
  have hdigit : (decide (48 ≤ d.val) && decide (d.val ≤ 57)) = true := h
  have hnine : d.val ≤ 57 := of_decide_eq_true (Bool.and_eq_true_iff.1 hdigit).2
  refine Bool.eq_false_iff.2 fun hstart => ?_
  rcases Bool.or_eq_true_iff.1 hstart with halpha | hline
  · rcases Bool.or_eq_true_iff.1 halpha with hupper | hlower
    · have hupper : 65 ≤ d.val ∧ d.val ≤ 90 := of_decide_eq_true hupper
      exact absurd (UInt32.le_trans hupper.1 hnine) (by decide)
    · have hlower : (decide (97 ≤ d.val) && decide (d.val ≤ 122)) = true := hlower
      have hsmall : 97 ≤ d.val := of_decide_eq_true (Bool.and_eq_true_iff.1 hlower).1
      exact absurd (UInt32.le_trans hsmall hnine) (by decide)
  · obtain rfl : d = '_' := of_decide_eq_true hline
    exact absurd h (by decide)

theorem start_of_isDigit {d : Char} (h : d.isDigit = true) : Mode.start d = .number (Mode.digit d) := by
  rw [Mode.start, isStart_of_isDigit h, if_neg (by decide), if_pos h]

theorem reads_number (n : Nat) : ReadsApart m (toString n) [.number n] m := by
  intro rest hrest
  obtain ⟨d, ds, hn, hd, hds, hvalue⟩ := exists_toDigits n
  have hspace : d ≠ ' ' := by
    rintro rfl
    exact absurd hd (by decide)
  have hmark : d ≠ '?' := by
    rintro rfl
    exact absurd hd (by decide)
  have hfirst : scan m (d :: (ds ++ rest)) = run m (.number (Mode.digit d)) (ds ++ rest) := by
    have hblank : Mode.blank.extend d = none := rfl
    rw [← start_of_isDigit hd, scan, run, hblank]
    show Mode.blank.finish ++ _ = _
    rw [Mode.finish, List.nil_append, if_neg hspace, if_neg hmark]
  rw [Nat.toString_eq_ofList_toDigits, String.toList_ofList, hn, List.cons_append, hfirst,
    run_digits Mode.number (fun k c hc => if_pos hc) _ hds, hvalue, run_of_apart hrest (extend_number n)]
  rfl

theorem reads_dollar (n : Nat) : ReadsApart m ("$" ++ toString n) [.placeholder n] m := by
  intro rest hrest
  obtain ⟨d, ds, hn, hd, hds, hvalue⟩ := exists_toDigits n
  have hdollar : scan m (("$" ++ toString n).toList ++ rest) =
      run m (.numbered (Mode.digit d)) (ds ++ rest) := by
    have htext : ("$" ++ toString n).toList = '$' :: d :: ds := by
      rw [String.toList_append, Nat.toString_eq_ofList_toDigits, hn]
      exact congrArg _ String.toList_ofList
    rw [htext]
    show run m .dollar (d :: (ds ++ rest)) = _
    rw [run, Mode.extend, if_pos hd]
  rw [hdollar, run_digits Mode.numbered (fun k c hc => if_pos hc) _ hds, hvalue,
    run_of_apart hrest (extend_numbered n)]
  rfl

theorem reads_comparison (c : Comparison) : ReadsApart m c.symbol [.comparison c] m := by
  have hcomplete : ∀ {a : String} {c : Comparison},
      (∀ rest, scan m (a.toList ++ rest) = [] ++ run m (.complete (.comparison c)) rest) →
      ReadsApart m a [.comparison c] m := fun h => (reads_complete [] _ h).apart
  cases c with
  | less =>
    have h : ∀ rest, scan m ("<".toList ++ rest) = [] ++ run m (.operator '<') rest := fun _ => rfl
    exact reads_phrase [] h (by rintro c (rfl | rfl | rfl | rfl) <;> rfl)
  | greater =>
    have h : ∀ rest, scan m (">".toList ++ rest) = [] ++ run m (.operator '>') rest := fun _ => rfl
    exact reads_phrase [] h (by rintro c (rfl | rfl | rfl | rfl) <;> rfl)
  | equal | notEqual | lessOrEqual | greaterOrEqual => exact hcomplete fun _ => rfl

end

end DataGrid.Sql
