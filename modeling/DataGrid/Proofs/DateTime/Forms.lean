import DataGrid.Proofs.DateTime.RoundTrip

/-!
# At most one form

The forms of cells differ in what a text of them weighs: two for each colon and for the letter of UTC, and
one for the letter between date and time. What an item reads lies between two weights (`Item.weight_read`), so
the same holds for a form (`weight_readItems`), and no two forms have a weight in common (`weights_apart`).
Therefore at most one form reads a text, and the order in which the forms are tried does not matter
(`findSome?_eq_ofCell?`).
-/

namespace DataGrid.DateTime

/-! ### Weights -/

def weigh (c : Char) : Nat :=
  if c = ':' ∨ c = 'Z' ∨ c = 'z' then 2 else if c = 'T' then 1 else 0

def weight (cs : List Char) : Nat := (cs.map weigh).sum

section
variable {cs ds rest : List Char}

theorem weight_cons (c : Char) (cs : List Char) : weight (c :: cs) = weigh c + weight cs := by
  simp [weight]

theorem weight_append (cs ds : List Char) : weight (cs ++ ds) = weight cs + weight ds := by
  simp [weight]

/-- Characters of a kind that no weighty character is of weigh nothing. -/
theorem weight_eq_zero {kind : Char → Bool} (hkind : [':', 'Z', 'z', 'T'].any kind = false)
    (h : ∀ c ∈ cs, kind c = true) : weight cs = 0 := by
  rw [weight, List.sum_eq_zero_iff_forall_eq_nat]
  intro n hn
  obtain ⟨c, hc, rfl⟩ := List.mem_map.1 hn
  have hne : ∀ d ∈ [':', 'Z', 'z', 'T'], c ≠ d := by
    rintro d hd rfl
    exact List.any_eq_false.1 hkind c hd (h c hc)
  simp [weigh, hne ':' (by decide), hne 'Z' (by decide), hne 'z' (by decide), hne 'T' (by decide)]

theorem weight_of_digits (h : ∀ c ∈ cs, c.isDigit = true) : weight cs = 0 := weight_eq_zero (by decide) h

theorem weight_dropBlanks (cs : List Char) : weight (dropBlanks cs) = weight cs := by
  have hblanks : weight (cs.takeWhile isBlank) = 0 :=
    weight_eq_zero (by decide) fun c hc => List.mem_takeWhile_imp hc
  have hcs := weight_append (cs.takeWhile isBlank) (cs.dropWhile isBlank)
  rw [List.takeWhile_append_dropWhile] at hcs
  rw [dropBlanks]
  omega

theorem eq_append_of_readDigits {least most : Nat} (h : readDigits least most cs = .ok (ds, rest)) :
    cs = ds ++ rest ∧ ∀ c ∈ ds, c.isDigit = true := by
  unfold readDigits at h
  dsimp only at h
  split_ifs at h
  cases h
  have hprefix : (cs.take most).takeWhile Char.isDigit <+: cs :=
    (List.takeWhile_prefix _).trans (List.take_prefix most cs)
  exact ⟨(List.prefix_iff_eq_append.1 hprefix).symm, fun c hc => List.mem_takeWhile_imp hc⟩

theorem weight_readDigits {least most : Nat} (h : readDigits least most cs = .ok (ds, rest)) :
    weight cs = weight rest := by
  obtain ⟨rfl, hds⟩ := eq_append_of_readDigits h
  rw [weight_append, weight_of_digits hds, Nat.zero_add]

theorem weight_readLoose {field : Field} {value : Int} (h : readLoose field cs = .ok (value, rest)) :
    weight cs = weight rest := by
  unfold readLoose at h
  rw [← weight_dropBlanks cs]
  split at h
  · next hcs =>
    obtain ⟨⟨digits, rest'⟩, hread, h⟩ := Except.exists_of_bind_eq_ok h
    cases h
    rw [hcs, weight_cons, weight_readDigits hread]
    exact Nat.zero_add _
  · next hcs =>
    obtain ⟨⟨digits, rest'⟩, hread, h⟩ := Except.exists_of_bind_eq_ok h
    cases h
    rw [hcs, weight_cons, weight_readDigits hread]
    exact Nat.zero_add _
  · obtain ⟨⟨digits, rest'⟩, hread, h⟩ := Except.exists_of_bind_eq_ok h
    cases h
    exact weight_readDigits hread

theorem eq_cons_of_readMark {allowed : List Char} (h : readMark allowed cs = .ok rest) :
    ∃ c ∈ allowed, cs = c :: rest := by
  cases cs with
  | nil => cases h
  | cons c cs =>
    rw [readMark] at h
    split_ifs at h with hc
    cases h
    exact ⟨c, hc, rfl⟩

theorem weight_readNanos {nanos : Nat} (h : readNanos cs = .ok (nanos, rest)) : weight cs = weight rest := by
  obtain ⟨⟨digits, more⟩, hread, h⟩ := Except.exists_of_bind_eq_ok h
  cases h
  have hdropped : weight (more.takeWhile Char.isDigit) = 0 :=
    weight_of_digits fun c hc => List.mem_takeWhile_imp hc
  have hmore := weight_append (more.takeWhile Char.isDigit) (more.dropWhile Char.isDigit)
  rw [List.takeWhile_append_dropWhile] at hmore
  rw [weight_readDigits hread]
  omega

/-- The colon between hours and minutes. -/
theorem weight_readOffset {sign minutes : Int} (h : readOffset sign cs = .ok (minutes, rest)) :
    weight cs = 2 + weight rest := by
  obtain ⟨⟨hours, more⟩, hhours, hrest⟩ := Except.exists_of_bind_eq_ok h
  obtain ⟨more', hmark, hrest⟩ := Except.exists_of_bind_eq_ok hrest
  obtain ⟨⟨digits, more''⟩, hdigits, hrest⟩ := Except.exists_of_bind_eq_ok hrest
  dsimp only at hrest
  split_ifs at hrest
  cases hrest
  obtain ⟨c, hc, rfl⟩ := eq_cons_of_readMark hmark
  obtain rfl := List.mem_singleton.1 hc
  rw [weight_readDigits hhours, weight_cons, weight_readDigits hdigits]
  rfl

end

/-! ### Items and forms -/

namespace Item

/-- The least weight of what an item reads. -/
def least : Item → Nat
  | mark allowed => (allowed.map weigh).foldr min 2
  | offset => 2
  | _ => 0

/-- The greatest weight of what an item reads. -/
def most : Item → Nat
  | mark allowed => (allowed.map weigh).foldr max 0
  | offset => 2
  | _ => 0

theorem weigh_mem {c : Char} : ∀ {allowed : List Char}, c ∈ allowed →
    (mark allowed).least ≤ weigh c ∧ weigh c ≤ (mark allowed).most
  | d :: allowed, hc => by
    rcases List.mem_cons.1 hc with rfl | hc
    · exact ⟨Nat.min_le_left .., Nat.le_max_left ..⟩
    · obtain ⟨hleast, hmost⟩ := weigh_mem hc
      exact ⟨(Nat.min_le_right ..).trans hleast, hmost.trans (Nat.le_max_right ..)⟩

/-- What an item takes from a text lies between its least and its greatest weight. -/
theorem weight_read {item : Item} {start next : Fields} {cs rest : List Char}
    (h : item.read start cs = .ok (next, rest)) :
    item.least + weight rest ≤ weight cs ∧ weight cs ≤ item.most + weight rest := by
  have hzero {item : Item} (hleast : item.least = 0) (hmost : item.most = 0) (h : weight cs = weight rest) :
      item.least + weight rest ≤ weight cs ∧ weight cs ≤ item.most + weight rest := by omega
  have htwo (h : weight cs = 2 + weight rest) :
      offset.least + weight rest ≤ weight cs ∧ weight cs ≤ offset.most + weight rest := ⟨h.ge, h.le⟩
  cases item with
  | loose field =>
    obtain ⟨⟨value, _⟩, hread, h⟩ := Except.exists_of_bind_eq_ok h
    obtain ⟨stored, hstored, h⟩ := Except.exists_of_bind_eq_ok h
    cases h
    exact hzero rfl rfl (weight_readLoose hread)
  | strict field =>
    obtain ⟨⟨digits, _⟩, hread, h⟩ := Except.exists_of_bind_eq_ok h
    obtain ⟨stored, hstored, h⟩ := Except.exists_of_bind_eq_ok h
    cases h
    exact hzero rfl rfl (weight_readDigits hread)
  | mark allowed =>
    obtain ⟨_, hread, h⟩ := Except.exists_of_bind_eq_ok h
    cases h
    obtain ⟨c, hc, rfl⟩ := eq_cons_of_readMark hread
    have hweigh := weigh_mem hc
    rw [weight_cons]
    omega
  | blanks =>
    cases h
    exact hzero rfl rfl (weight_dropBlanks cs).symm
  | fraction =>
    unfold read at h
    dsimp only at h
    split at h
    · obtain ⟨⟨nanos, _⟩, hread, h⟩ := Except.exists_of_bind_eq_ok h
      cases h
      refine hzero rfl rfl ?_
      rw [weight_cons, weight_readNanos hread]
      exact Nat.zero_add _
    · cases h
      exact hzero rfl rfl rfl
  | offset =>
    cases cs with
    | nil => cases h
    | cons c cs =>
      rw [read] at h
      dsimp only at h
      split at h
      · next hutc =>
        cases h
        refine htwo ?_
        rw [weight_cons]
        rcases hutc with rfl | rfl <;> rfl
      split at h
      · next hsign =>
        obtain ⟨⟨minutes, _⟩, hread, h⟩ := Except.exists_of_bind_eq_ok h
        cases h
        refine htwo ?_
        rw [weight_cons, weight_readOffset hread]
        rcases hsign with rfl | rfl | rfl <;> exact Nat.zero_add _
      · cases h

end Item

/-- What a form reads lies between the sums of the weights of its items. -/
theorem weight_readItems : ∀ {items : List Item} {start f : Fields} {cs : List Char},
    readItems start items cs = .ok f → (items.map Item.least).sum ≤ weight cs ∧ weight cs ≤ (items.map Item.most).sum
  | [], _, _, [], _ => ⟨Nat.zero_le _, Nat.zero_le _⟩
  | [], _, _, _ :: _, h => by cases h
  | item :: items, _, _, cs, h => by
    obtain ⟨⟨next, rest⟩, hread, h⟩ := Except.exists_of_bind_eq_ok h
    have hitem := Item.weight_read hread
    have hitems := weight_readItems h
    simp only [List.map_cons, List.sum_cons]
    omega

theorem weights_apart : ∀ p ∈ cellPatterns, ∀ q ∈ cellPatterns, p = q ∨
    (p.map Item.most).sum < (q.map Item.least).sum ∨ (q.map Item.most).sum < (p.map Item.least).sum := by
  decide

/-! ### One form for a text -/

section
variable {text : String} {d e : DateTime}

theorem eq_of_parse {p q : List Item} (hp : p ∈ cellPatterns) (hq : q ∈ cellPatterns) (h : parse p text = .ok d)
    (h' : parse q text = .ok e) : p = q := by
  obtain ⟨f, hread, -⟩ := Except.exists_of_bind_eq_ok h
  obtain ⟨f', hread', -⟩ := Except.exists_of_bind_eq_ok h'
  have hweight := weight_readItems hread
  have hweight' := weight_readItems hread'
  rcases weights_apart p hp q hq with heq | hless | hless
  · exact heq
  · omega
  · omega

/-- A date and time is found among forms exactly if it is read in one of them. -/
theorem findSome?_eq_some_iff {patterns : List (List Item)} (hsubset : patterns ⊆ cellPatterns) :
    patterns.findSome? (fun items => (parse items text).toOption) = some d ↔
      ∃ items ∈ patterns, parse items text = .ok d := by
  have hfound {d : DateTime} (h : patterns.findSome? (fun items => (parse items text).toOption) = some d) :
      ∃ items ∈ patterns, parse items text = .ok d := by
    obtain ⟨items, hitems, hparse⟩ := List.exists_of_findSome?_eq_some h
    exact ⟨items, hitems, Except.toOption_eq_some_iff.1 hparse⟩
  refine ⟨hfound, fun ⟨items, hitems, hparse⟩ => ?_⟩
  obtain ⟨e, he⟩ : ∃ e, patterns.findSome? (fun items => (parse items text).toOption) = some e := by
    rw [← Option.isSome_iff_exists, List.findSome?_isSome_iff]
    exact ⟨items, hitems, by rw [Except.toOption_eq_some_iff.2 hparse, Option.isSome_some]⟩
  obtain ⟨items', hitems', hparse'⟩ := hfound he
  obtain rfl := eq_of_parse (hsubset hitems) (hsubset hitems') hparse hparse'
  rw [he, ← Except.ok.inj (hparse.symm.trans hparse')]

theorem ofCell?_eq_some_iff : ofCell? text = some d ↔ ∃ items ∈ cellPatterns, parse items text = .ok d :=
  findSome?_eq_some_iff (List.Subset.refl _)

/-- The forms may be tried in any order. -/
theorem findSome?_eq_ofCell? {patterns : List (List Item)} (h : patterns.Perm cellPatterns) (text : String) :
    patterns.findSome? (fun items => (parse items text).toOption) = ofCell? text := by
  ext d
  rw [findSome?_eq_some_iff h.subset, ofCell?_eq_some_iff]
  simp only [h.mem_iff]

end

end DataGrid.DateTime
