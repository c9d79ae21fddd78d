import DataGrid.Json.Tree

/-!
# Strings and numerals in texts

A string is read up to its closing quote and a numeral as far as it goes, and what is read does not depend
on what follows (`Quoted.exists_spans`, `JsonNumber.exists_spans`).
-/

namespace DataGrid

namespace Json.Quoted

/-- The characters are read as the rest of a string, whatever follows them. -/
def Spans (leading : Option Nat) (cs : List Char) (text : Option (List Char)) : Prop :=
  ∀ rest, readFrom leading (cs ++ rest) = .closed text rest

theorem exists_of_push {c : Char} {q : Quoted} {text : Option (List Char)} {rest : List Char}
    (h : q.push c = .closed text rest) : ∃ text', q = .closed text' rest ∧ text'.map (c :: ·) = text := by
  cases q with
  | closed text' rest' =>
    cases h
    exact ⟨text', rfl, rfl⟩
  | cut place => cases h

theorem exists_of_spoil {q : Quoted} {text : Option (List Char)} {rest : List Char}
    (h : q.spoil = .closed text rest) : ∃ text', q = .closed text' rest ∧ none = text := by
  cases q with
  | closed text' rest' =>
    cases h
    exact ⟨text', rfl, rfl⟩
  | cut place => cases h

theorem exists_of_unpaired {leading : Option Nat} {q : Quoted} {text : Option (List Char)} {rest : List Char}
    (h : unpaired leading q = .closed text rest) :
    ∃ text', q = .closed text' rest ∧ ∀ rest', unpaired leading (.closed text' rest') = .closed text rest' := by
  cases leading with
  | none => exact ⟨text, h, fun _ => rfl⟩
  | some first =>
    obtain ⟨text', rfl, rfl⟩ := exists_of_spoil h
    exact ⟨text', rfl, fun _ => rfl⟩

section
variable {leading : Option Nat} {rest : List Char}

theorem readFrom_letter {c : Char} (hc : c ≠ 'u') : readFrom leading ('\\' :: c :: rest) =
    unpaired leading (match letter? c with
      | some e => (readFrom none rest).push e
      | none => .cut .malformed) := by
  rw [readFrom]
  all_goals first | rfl | (intros; contradiction)

theorem readFrom_plain {c : Char} (hc : c ≠ '\\') : readFrom leading (c :: rest) =
    unpaired leading (if c = '\"' then .closed (some []) rest
      else if c.toNat < 0x20 then .cut .malformed
      else (readFrom none rest).push c) := by
  rw [readFrom]
  all_goals
    intros
    contradiction

end

/-- A string that is read stands in front of what follows it. -/
theorem exists_spans {leading : Option Nat} {cs rest : List Char} {text : Option (List Char)}
    (h : readFrom leading cs = .closed text rest) : ∃ lit, cs = lit ++ rest ∧ Spans leading lit text := by
  fun_induction readFrom leading cs generalizing text rest with
  | case1 | case2 | case3 | case8 => cases h
  | case4 a b c d cs unit hunit htrailing first ih =>
    obtain ⟨text', hcs, rfl⟩ := exists_of_push h
    obtain ⟨lit, rfl, hlit⟩ := ih hcs
    refine ⟨'\\' :: 'u' :: a :: b :: c :: d :: lit, rfl, fun rest' => ?_⟩
    simp only [List.cons_append, readFrom, hunit, htrailing, if_true, hlit rest', push]
  | case5 a b c d cs unit hunit htrailing ih =>
    obtain ⟨text', hcs, rfl⟩ := exists_of_spoil h
    obtain ⟨lit, rfl, hlit⟩ := ih hcs
    refine ⟨'\\' :: 'u' :: a :: b :: c :: d :: lit, rfl, fun rest' => ?_⟩
    simp only [List.cons_append, readFrom, hunit, htrailing, if_true, hlit rest', spoil]
  | case6 leading a b c d cs unit hunit htrailing hleading ih =>
    obtain ⟨text', hcs, hpair⟩ := exists_of_unpaired h
    obtain ⟨lit, rfl, hlit⟩ := ih hcs
    refine ⟨'\\' :: 'u' :: a :: b :: c :: d :: lit, rfl, fun rest' => ?_⟩
    simp only [List.cons_append, readFrom, hunit, htrailing, hleading, if_true, hlit rest', hpair]
    rfl
  | case7 leading a b c d cs unit hunit htrailing hleading ih =>
    obtain ⟨text', hcs, hpair⟩ := exists_of_unpaired h
    obtain ⟨text'', hpush, rfl⟩ := exists_of_push hcs
    obtain ⟨lit, rfl, hlit⟩ := ih hpush
    refine ⟨'\\' :: 'u' :: a :: b :: c :: d :: lit, rfl, fun rest' => ?_⟩
    simp only [List.cons_append, readFrom, hunit, htrailing, hleading, hlit rest', push, hpair]
    rfl
  | case9 leading c cs _ hc ih =>
    obtain ⟨text', hcs, hpair⟩ := exists_of_unpaired h
    cases hletter : letter? c with
    | none =>
      rw [hletter] at hcs
      cases hcs
    | some e =>
      rw [hletter] at hcs
      obtain ⟨text'', hpush, rfl⟩ := exists_of_push hcs
      obtain ⟨lit, rfl, hlit⟩ := ih hpush
      refine ⟨'\\' :: c :: lit, rfl, fun rest' => ?_⟩
      simp only [List.cons_append, readFrom_letter hc, hletter, hlit rest', push, hpair]
  | case10 leading c cs hnil _ _ hcons ih =>
    have hc : c ≠ '\\' := by
      rintro rfl
      cases cs with
      | nil => exact hnil rfl rfl
      | cons d cs => exact hcons d cs rfl rfl
    obtain ⟨text', hcs, hpair⟩ := exists_of_unpaired h
    split at hcs
    · next hquote =>
      cases hcs
      refine ⟨[c], rfl, fun rest' => ?_⟩
      rw [List.singleton_append, readFrom_plain hc, if_pos hquote, hpair]
    · next hquote =>
      split at hcs
      · cases hcs
      · next hcontrol =>
        obtain ⟨text'', hpush, rfl⟩ := exists_of_push hcs
        obtain ⟨lit, rfl, hlit⟩ := ih hpush
        refine ⟨c :: lit, rfl, fun rest' => ?_⟩
        rw [List.cons_append, readFrom_plain hc, if_neg hquote, if_neg hcontrol, hlit rest', push, hpair]

end Json.Quoted

namespace JsonNumber

/-- No numeral goes on with these characters. -/
def Stops (cs : List Char) : Prop := ∀ c ∈ cs.head?, c.isDigit = false ∧ c ≠ '.' ∧ c ≠ 'e' ∧ c ≠ 'E'

/-- The characters are read as a numeral by `read`, wherever it stops. -/
def Spans (read : List Char → Scan) (cs : List Char) (parts : Parts) : Prop :=
  ∀ rest, Stops rest → read (cs ++ rest) = .numeral parts rest

theorem forall_head_append {P : Char → Prop} {cs rest : List Char} (h : ∀ c ∈ cs.head?, P c)
    (hrest : ∀ c ∈ rest.head?, P c) : ∀ c ∈ (cs ++ rest).head?, P c := by
  cases cs with
  | nil => exact hrest
  | cons c cs => exact h

theorem takeWhile_digits_append {ds rest : List Char} (hds : ∀ d ∈ ds, d.isDigit = true)
    (hrest : ∀ c ∈ rest.head?, c.isDigit = false) :
    (ds ++ rest).takeWhile Char.isDigit = ds ∧ (ds ++ rest).dropWhile Char.isDigit = rest := by
  rw [List.takeWhile_append_of_pos hds, List.dropWhile_append_of_pos hds]
  cases rest with
  | nil => exact ⟨List.append_nil ds, rfl⟩
  | cons c rest =>
    rw [List.takeWhile_cons, List.dropWhile_cons, hrest c rfl]
    exact ⟨List.append_nil ds, rfl⟩

theorem isDigit_of_mem_takeWhile (cs : List Char) : ∀ d ∈ cs.takeWhile Char.isDigit, d.isDigit = true :=
  List.all_eq_true.1 List.all_takeWhile

section
variable {negative : Bool} {whole : List Char} {fraction : Option (List Char)} {cs rest : List Char}
  {parts : Parts}

/-- The digits of an exponent with this sign. -/
def scanDigits (negative : Bool) (whole : List Char) (fraction : Option (List Char)) (sign : Int)
    (cs : List Char) : Scan :=
  if cs.takeWhile Char.isDigit = [] then
    .cut (missingDigit cs)
  else
    .numeral ⟨negative, whole, fraction, some (sign * Binary64.digitsValue (cs.takeWhile Char.isDigit))⟩
      (cs.dropWhile Char.isDigit)

/-- The sign of an exponent, and what follows it. -/
def signed : List Char → Int × List Char
  | '-' :: rest => (-1, rest)
  | '+' :: rest => (1, rest)
  | rest => (1, rest)

theorem signed_digit {d : Char} (hd : d.isDigit = true) (ds : List Char) : signed (d :: ds) = (1, d :: ds) := by
  unfold signed
  split
  · cases ‹_ :: _ = _›
    cases hd
  · cases ‹_ :: _ = _›
    cases hd
  · rfl

theorem exists_signed (cs : List Char) : ∃ before, cs = before ++ (signed cs).2 ∧
    ∀ d ds, d.isDigit = true → signed (before ++ d :: ds) = ((signed cs).1, d :: ds) := by
  unfold signed
  split
  · exact ⟨['-'], rfl, fun _ _ _ => rfl⟩
  · exact ⟨['+'], rfl, fun _ _ _ => rfl⟩
  · exact ⟨[], rfl, fun _ ds hd => signed_digit hd ds⟩

theorem scanExponent_eq (negative : Bool) (whole : List Char) (fraction : Option (List Char)) (cs : List Char) :
    scanExponent negative whole fraction cs = scanDigits negative whole fraction (signed cs).1 (signed cs).2 := by
  unfold scanExponent
  split
  next hsigned =>
    rw [show signed cs = _ from hsigned]
    rfl

theorem exists_spans_scanDigits {sign : Int} (h : scanDigits negative whole fraction sign cs = .numeral parts rest) :
    ∃ d ds, cs = d :: ds ++ rest ∧ d.isDigit = true ∧
      Spans (scanDigits negative whole fraction sign) (d :: ds) parts := by
  unfold scanDigits at h
  split at h
  · cases h
  · next hdigits =>
    cases h
    obtain ⟨d, ds, hds⟩ := List.exists_cons_of_ne_nil hdigits
    have hall := isDigit_of_mem_takeWhile cs
    have hcs := List.takeWhile_append_dropWhile (p := Char.isDigit) (l := cs)
    rw [hds] at hall hcs ⊢
    refine ⟨d, ds, hcs.symm, hall d List.mem_cons_self, fun rest' hrest' => ?_⟩
    obtain ⟨htake, hdrop⟩ := takeWhile_digits_append hall fun c hc => (hrest' c hc).1
    rw [scanDigits, htake, hdrop, if_neg (List.cons_ne_nil d ds)]

theorem exists_spans_scanExponent (h : scanExponent negative whole fraction cs = .numeral parts rest) :
    ∃ num, cs = num ++ rest ∧ Spans (scanExponent negative whole fraction) num parts := by
  rw [scanExponent_eq] at h
  obtain ⟨d, ds, hds, hd, hspans⟩ := exists_spans_scanDigits h
  obtain ⟨before, hcs, hbefore⟩ := exists_signed cs
  refine ⟨before ++ d :: ds, ?_, fun rest' hrest' => ?_⟩
  · rw [hcs, hds, List.append_assoc]
  · rw [scanExponent_eq, List.append_assoc, List.cons_append, hbefore d _ hd]
    exact hspans rest' hrest'

/-- What may follow the digits of a numeral up to its exponent. -/
def scanTail (negative : Bool) (whole : List Char) (fraction : Option (List Char)) : List Char → Scan
  | 'e' :: rest => scanExponent negative whole fraction rest
  | 'E' :: rest => scanExponent negative whole fraction rest
  | rest => .numeral ⟨negative, whole, fraction, none⟩ rest

theorem scanTail_of_stops (hrest : Stops rest) :
    scanTail negative whole fraction rest = .numeral ⟨negative, whole, fraction, none⟩ rest := by
  unfold scanTail
  split
  · exact absurd rfl (hrest 'e' rfl).2.2.1
  · exact absurd rfl (hrest 'E' rfl).2.2.2
  · rfl

theorem exists_spans_scanTail (h : scanTail negative whole fraction cs = .numeral parts rest) :
    ∃ num, cs = num ++ rest ∧ (∀ c ∈ num.head?, c.isDigit = false ∧ c ≠ '.') ∧
      Spans (scanTail negative whole fraction) num parts := by
  unfold scanTail at h
  split at h
  · obtain ⟨num, rfl, hspans⟩ := exists_spans_scanExponent h
    exact ⟨'e' :: num, rfl, by rintro _ ⟨⟩; decide, hspans⟩
  · obtain ⟨num, rfl, hspans⟩ := exists_spans_scanExponent h
    exact ⟨'E' :: num, rfl, by rintro _ ⟨⟩; decide, hspans⟩
  · cases h
    exact ⟨[], rfl, nofun, fun rest' hrest' => scanTail_of_stops hrest'⟩

theorem scanFraction_eq (cs : List Char) : scanFraction negative whole cs = match cs with
    | '.' :: rest =>
      if rest.takeWhile Char.isDigit = [] then .cut (missingDigit rest)
      else scanTail negative whole (some (rest.takeWhile Char.isDigit)) (rest.dropWhile Char.isDigit)
    | cs => scanTail negative whole none cs := by
  unfold scanFraction
  split
  · rfl
  · rfl
  · rfl
  · next hpoint he hE =>
    split
    · exact (hpoint _ rfl).elim
    · rw [scanTail]
      · exact he
      · exact hE

theorem exists_spans_scanFraction (h : scanFraction negative whole cs = .numeral parts rest) :
    ∃ num, cs = num ++ rest ∧ (∀ c ∈ num.head?, c.isDigit = false) ∧
      Spans (scanFraction negative whole) num parts := by
  rw [scanFraction_eq] at h
  split at h
  · next cs =>
    split at h
    · cases h
    · next hdigits =>
      obtain ⟨num, hnum, hhead, hspans⟩ := exists_spans_scanTail h
      have hcs := List.takeWhile_append_dropWhile (p := Char.isDigit) (l := cs)
      refine ⟨'.' :: (cs.takeWhile Char.isDigit ++ num), ?_, by rintro _ ⟨⟩; rfl, fun rest' hrest' => ?_⟩
      · rw [List.cons_append, List.append_assoc, ← hnum, hcs]
      -- Behind the digits stands the start of an exponent or what stops the numeral, and neither is a digit.
      · obtain ⟨htake, hdrop⟩ := takeWhile_digits_append (isDigit_of_mem_takeWhile cs)
          (forall_head_append (fun c hc => (hhead c hc).1) fun c hc => (hrest' c hc).1)
        simp only [List.cons_append, List.append_assoc, scanFraction_eq, htake, hdrop, if_neg hdigits]
        exact hspans rest' hrest'
  · obtain ⟨num, rfl, hhead, hspans⟩ := exists_spans_scanTail h
    refine ⟨num, rfl, fun c hc => (hhead c hc).1, fun rest' hrest' => ?_⟩
    have hpoint := forall_head_append (fun c hc => (hhead c hc).2) fun c hc => (hrest' c hc).2.1
    rw [scanFraction_eq, ← hspans rest' hrest']
    split
    · next heq =>
      rw [heq] at hpoint
      exact absurd rfl (hpoint '.' rfl)
    · rfl

/-- Digits before the point, none after a leading zero. -/
theorem exists_spans_scanWhole (h : scanWhole negative cs = .numeral parts rest) :
    ∃ d num, cs = d :: num ++ rest ∧ d.isDigit = true ∧ Spans (scanWhole negative) (d :: num) parts := by
  have hall := isDigit_of_mem_takeWhile cs
  have hcs := List.takeWhile_append_dropWhile (p := Char.isDigit) (l := cs)
  unfold scanWhole at h
  dsimp only at h
  split at h
  · cases h
  · cases h
  · next hnil hzero =>
    obtain ⟨num, hnum, hhead, hspans⟩ := exists_spans_scanFraction h
    obtain ⟨d, ds, hdigits⟩ := List.exists_cons_of_ne_nil hnil
    rw [hdigits] at hall hcs hzero hspans
    refine ⟨d, ds ++ num, ?_, hall d List.mem_cons_self, fun rest' hrest' => ?_⟩
    · rw [← List.cons_append, List.append_assoc, ← hnum, hcs]
    · obtain ⟨htake, hdrop⟩ := takeWhile_digits_append hall
        (forall_head_append hhead fun c hc => (hrest' c hc).1)
      rw [← List.cons_append, List.append_assoc]
      simp only [scanWhole, htake, hdrop]
      exact hspans rest' hrest'

/-- A numeral that is read stands in front of what follows it, and starts with a digit or a minus sign. -/
theorem exists_spans (h : scan cs = .numeral parts rest) :
    ∃ c num, cs = c :: num ++ rest ∧ (c = '-' ∨ c.isDigit = true) ∧ Spans scan (c :: num) parts := by
  unfold scan at h
  split at h
  · obtain ⟨d, num, rfl, hd, hspans⟩ := exists_spans_scanWhole h
    exact ⟨'-', d :: num, rfl, .inl rfl, hspans⟩
  · obtain ⟨d, num, rfl, hd, hspans⟩ := exists_spans_scanWhole h
    refine ⟨d, num, rfl, .inr hd, fun rest' hrest' => ?_⟩
    rw [← hspans rest' hrest']
    unfold scan
    split
    · cases ‹_ :: _ = _›
      cases hd
    · rfl

end

end JsonNumber

end DataGrid
