import DataGrid.Like
import Mathlib.Data.List.Infix

/-!
# What patterns match

`Matches` says which texts a pattern stands for, token by token. Deciding a match keeps the rests of the
text that the tokens so far can leave; each of them is an end of the one before it, so the rests after
`%` are those of the first one. Escaping replaces the special characters of a text one after the other
and so puts a backslash before each of them (`replace_replace_replace`). An escaped text with `%` on one
or both sides matches what it is the beginning, the end or a part of.
-/

namespace DataGrid.Like

/-- The token can stand for the part of the text before the rest. -/
def Token.Leaves : Token → List Char → List Char → Prop
  | .char c, text, rest => text = c :: rest
  | .anyOne, text, rest => ∃ c, text = c :: rest
  | .anyMany, text, rest => rest <:+ text

/-- The tokens can stand for the whole text, one after the other. -/
def Matches : List Token → List Char → Prop
  | [], text => text = []
  | t :: ts, text => ∃ rest, t.Leaves text rest ∧ Matches ts rest

/-! ### Deciding a match -/

/-- Each rest is an end of those before it. -/
def Nested (left : List (List Char)) : Prop := left.Pairwise fun longer shorter => shorter <:+ longer

theorem mem_rests {text rest : List Char} : rest ∈ rests text ↔ rest <:+ text := by
  induction text with
  | nil => simp [rests]
  | cons c cs ih => rw [rests, List.mem_cons, ih, List.suffix_cons_iff]

theorem nested_rests (text : List Char) : Nested (rests text) := by
  induction text with
  | nil => exact List.pairwise_singleton ..
  | cons c cs ih =>
    exact List.pairwise_cons.2 ⟨fun rest h => (mem_rests.1 h).trans (List.suffix_cons c cs), ih⟩

/-- What one more token leaves of the rests. -/
theorem mem_advance {t : Token} {left : List (List Char)} (h : Nested left) {rest : List Char} :
    rest ∈ advance t left ↔ ∃ text ∈ left, t.Leaves text rest := by
  cases t with
  | char c =>
    rw [advance, List.mem_filterMap]
    refine exists_congr fun text => and_congr_right fun _ => ?_
    cases text with
    | nil => simp [Token.Leaves]
    | cons d ds => by_cases hd : d = c <;> simp [Token.Leaves, hd]
  | anyOne =>
    rw [advance, List.mem_filterMap]
    refine exists_congr fun text => and_congr_right fun _ => ?_
    cases text <;> simp [Token.Leaves]
  | anyMany =>
    cases left with
    | nil => simp [advance]
    | cons longest left =>
      rw [advance, mem_rests]
      refine ⟨fun hrest => ⟨longest, List.mem_cons_self, hrest⟩, ?_⟩
      rintro ⟨text, htext, hrest⟩
      rcases List.mem_cons.1 htext with rfl | htext
      · exact hrest
      · exact List.IsSuffix.trans hrest ((List.pairwise_cons.1 h).1 text htext)

theorem suffix_of_cons_suffix_cons {c d : Char} {cs ds : List Char} (h : c :: cs <:+ d :: ds) :
    cs <:+ ds := by
  rcases List.suffix_cons_iff.1 h with h | h
  · cases h
    exact List.suffix_refl cs
  · exact (List.suffix_cons c cs).trans h

theorem nested_advance (t : Token) {left : List (List Char)} (h : Nested left) :
    Nested (advance t left) := by
  cases t with
  | char c =>
    refine List.Pairwise.filterMap _ (fun longer shorter hsuffix rest hrest rest' hrest' => ?_) h
    match longer, shorter with
    | d :: ds, d' :: ds' =>
      dsimp only at hrest hrest'
      split at hrest
      · split at hrest'
        · cases hrest
          cases hrest'
          exact suffix_of_cons_suffix_cons hsuffix
        · cases hrest'
      · cases hrest
  | anyOne =>
    refine List.Pairwise.filterMap _ (fun longer shorter hsuffix rest hrest rest' hrest' => ?_) h
    match longer, shorter with
    | d :: ds, d' :: ds' =>
      cases hrest
      cases hrest'
      exact suffix_of_cons_suffix_cons hsuffix
  | anyMany =>
    cases left with
    | nil => exact List.Pairwise.nil
    | cons longest left => exact nested_rests longest

/-- The tokens match what is left when they can stand for one of the rests. -/
theorem nil_mem_foldl_advance {ts : List Token} {left : List (List Char)} (h : Nested left) :
    [] ∈ ts.foldl (fun left t => advance t left) left ↔ ∃ text ∈ left, Matches ts text := by
  induction ts generalizing left with
  | nil => simp [Matches]
  | cons t ts ih =>
    rw [List.foldl_cons, ih (nested_advance t h)]
    constructor
    · rintro ⟨rest, hrest, hmatches⟩
      obtain ⟨text, htext, hleaves⟩ := (mem_advance h).1 hrest
      exact ⟨text, htext, rest, hleaves, hmatches⟩
    · rintro ⟨text, htext, rest, hleaves, hmatches⟩
      exact ⟨rest, (mem_advance h).2 ⟨text, htext, hleaves⟩, hmatches⟩

theorem matchesTokens_iff {ts : List Token} {text : List Char} :
    matchesTokens ts text = true ↔ Matches ts text := by
  rw [matchesTokens, List.contains_iff_mem, nil_mem_foldl_advance (List.pairwise_singleton ..)]
  simp

/-! ### Escaped texts -/

/-- The characters that have a meaning in a pattern. -/
def isSpecial (c : Char) : Bool := c = '\\' || c = '%' || c = '_'

/-- A text with a backslash before each special character. -/
def escapeChars : List Char → List Char
  | [] => []
  | c :: rest => if isSpecial c then '\\' :: c :: escapeChars rest else c :: escapeChars rest

section
variable {c d : Char} {new text : List Char}

theorem replace_append (text' : List Char) :
    replace c new (text ++ text') = replace c new text ++ replace c new text' := List.flatMap_append

theorem replace_cons_self : replace c new (c :: text) = new ++ replace c new text := by
  rw [replace, List.flatMap_cons, if_pos rfl]
  rfl

theorem replace_cons_of_ne (h : d ≠ c) : replace c new (d :: text) = d :: replace c new text := by
  rw [replace, List.flatMap_cons, if_neg h]
  rfl

/-- A text without the character stays as it is. -/
theorem replace_of_notMem (h : c ∉ text) : replace c new text = text := by
  induction text with
  | nil => rfl
  | cons d rest ih =>
    rw [replace_cons_of_ne (List.ne_of_not_mem_cons h).symm, ih (List.not_mem_of_not_mem_cons h)]

end

/-- The three replacements, one after the other, put a backslash before each special character and
nothing else: the backslashes are doubled before there are others, and what one replacement puts in
has no character that a later one looks for. -/
theorem replace_replace_replace (text : List Char) :
    replace '_' ['\\', '_'] (replace '%' ['\\', '%'] (replace '\\' ['\\', '\\'] text)) =
      escapeChars text := by
  induction text with
  | nil => rfl
  | cons c rest ih =>
    by_cases hescape : c = '\\'
    · subst hescape
      -- The two backslashes pass both of the later replacements.
      have hkept : replace '%' ['\\', '%'] ['\\', '\\'] = ['\\', '\\'] := replace_of_notMem (by decide)
      have hkept' : replace '_' ['\\', '_'] ['\\', '\\'] = ['\\', '\\'] := replace_of_notMem (by decide)
      rw [replace_cons_self, replace_append, hkept, replace_append, hkept', ih]
      rfl
    by_cases hmany : c = '%'
    · subst hmany
      have hkept : replace '_' ['\\', '_'] ['\\', '%'] = ['\\', '%'] := replace_of_notMem (by decide)
      rw [replace_cons_of_ne hescape, replace_cons_self, replace_append, hkept, ih]
      rfl
    by_cases hone : c = '_'
    · subst hone
      rw [replace_cons_of_ne hescape, replace_cons_of_ne hmany, replace_cons_self, ih]
      rfl
    · have hplain : ¬ isSpecial c := by simp [isSpecial, hescape, hmany, hone]
      rw [replace_cons_of_ne hescape, replace_cons_of_ne hmany, replace_cons_of_ne hone, ih, escapeChars,
        if_neg hplain]

theorem toList_escape (text : String) : (escape text).toList = escapeChars text.toList := by
  rw [escape, String.toList_ofList, replace_replace_replace]

/-- An escaped text ends no token of what follows it. -/
theorem tokens_escapeChars_append (text rest : List Char) :
    tokens (escapeChars text ++ rest) = text.map .char ++ tokens rest := by
  induction text with
  | nil => rfl
  | cons c cs ih =>
    unfold escapeChars
    split
    · simp [tokens, ih]
    · next h =>
      simp only [isSpecial, Bool.or_eq_true, decide_eq_true_eq, not_or] at h
      obtain ⟨⟨hescape, hmany⟩, hone⟩ := h
      rw [List.cons_append, tokens.eq_4 _ _ (by simp [hescape]) (by simp [hescape])]
      simp [hmany, hone, ih]

theorem matches_map_char_append {cs text : List Char} {ts : List Token} :
    Matches (cs.map .char ++ ts) text ↔ ∃ rest, text = cs ++ rest ∧ Matches ts rest := by
  induction cs generalizing text with
  | nil => simp
  | cons c cs ih =>
    rw [List.map_cons, List.cons_append, Matches]
    simp only [Token.Leaves, ih]
    constructor
    · rintro ⟨_, rfl, rest, rfl, h⟩
      exact ⟨rest, rfl, h⟩
    · rintro ⟨rest, rfl, h⟩
      exact ⟨_, rfl, rest, rfl, h⟩

theorem matches_anyMany {text : List Char} : Matches [.anyMany] text :=
  ⟨[], List.nil_suffix, rfl⟩

section
variable {value text : String}

/-- With `%` on both sides a text matches what it is a part of. -/
theorem matchesText_contains :
    matchesText ("%" ++ escape value ++ "%") text = true ↔ value.toList <:+: text.toList := by
  have htokens : tokens ("%" ++ escape value ++ "%").toList =
      .anyMany :: (value.toList.map .char ++ [.anyMany]) := by
    simp only [String.toList_append, toList_escape, List.append_assoc]
    exact congrArg _ (tokens_escapeChars_append value.toList ['%'])
  rw [matchesText, matchesTokens_iff, htokens, Matches, List.infix_iff_prefix_suffix]
  refine exists_congr fun part => and_comm.trans (and_congr_left fun _ => ?_)
  rw [matches_map_char_append]
  exact ⟨fun ⟨rest, h, _⟩ => ⟨rest, h.symm⟩, fun ⟨rest, h⟩ => ⟨rest, h.symm, matches_anyMany⟩⟩

/-- With `%` behind it a text matches what it is the beginning of. -/
theorem matchesText_startsWith :
    matchesText (escape value ++ "%") text = true ↔ value.toList <+: text.toList := by
  have htokens : tokens (escape value ++ "%").toList = value.toList.map .char ++ [.anyMany] := by
    rw [String.toList_append, toList_escape]
    exact tokens_escapeChars_append value.toList ['%']
  rw [matchesText, matchesTokens_iff, htokens, matches_map_char_append]
  exact ⟨fun ⟨rest, h, _⟩ => ⟨rest, h.symm⟩, fun ⟨rest, h⟩ => ⟨rest, h.symm, matches_anyMany⟩⟩

/-- With `%` before it a text matches what it is the end of. -/
theorem matchesText_endsWith :
    matchesText ("%" ++ escape value) text = true ↔ value.toList <:+ text.toList := by
  have htokens : tokens ("%" ++ escape value).toList = .anyMany :: (value.toList.map .char ++ []) := by
    rw [String.toList_append, toList_escape, ← List.append_nil (escapeChars value.toList)]
    exact congrArg _ (tokens_escapeChars_append value.toList [])
  rw [matchesText, matchesTokens_iff, htokens, Matches]
  simp only [matches_map_char_append, Matches, Token.Leaves]
  exact ⟨fun ⟨_, hsuffix, _, h, hnil⟩ => by simpa [h, hnil] using hsuffix,
    fun h => ⟨_, h, [], (List.append_nil _).symm, rfl⟩⟩

end

end DataGrid.Like
