import DataGrid.Proofs.Like

/-!
# The language of a pattern

`Denotes` gives the texts of a pattern by its characters, without a look at tokens. Deciding a match
decides just that relation (`matchesText_iff_denotes`).
-/

namespace DataGrid.Like

/-- The pattern stands for the whole text. A backslash takes the next character with it, so only the
last one of a pattern can stand alone. -/
inductive Denotes : List Char → List Char → Prop
  | nil : Denotes [] []
  | many (part : List Char) {pattern text : List Char} (h : Denotes pattern text) :
    Denotes ('%' :: pattern) (part ++ text)
  | one (c : Char) {pattern text : List Char} (h : Denotes pattern text) :
    Denotes ('_' :: pattern) (c :: text)
  | escaped (c : Char) {pattern text : List Char} (h : Denotes pattern text) :
    Denotes ('\\' :: c :: pattern) (c :: text)
  | backslash : Denotes ['\\'] ['\\']
  | plain {c : Char} (hmany : c ≠ '%') (hone : c ≠ '_') (hescape : c ≠ '\\') {pattern text : List Char}
    (h : Denotes pattern text) : Denotes (c :: pattern) (c :: text)

section
variable {c : Char} {pattern text : List Char}

/-! ### What the first character stands for -/

theorem denotes_nil_iff : Denotes [] text ↔ text = [] := by
  constructor
  · intro h
    cases h
    rfl
  · rintro rfl
    exact .nil

theorem denotes_backslash_iff : Denotes ['\\'] text ↔ text = ['\\'] := by
  constructor
  · intro h
    cases h with
    | backslash => rfl
    | plain _ _ hescape => exact absurd rfl hescape
  · rintro rfl
    exact .backslash

theorem denotes_escaped_iff :
    Denotes ('\\' :: c :: pattern) text ↔ ∃ rest, text = c :: rest ∧ Denotes pattern rest := by
  constructor
  · intro h
    cases h with
    | escaped _ h => exact ⟨_, rfl, h⟩
    | plain _ _ hescape => exact absurd rfl hescape
  · rintro ⟨rest, rfl, h⟩
    exact .escaped c h

theorem denotes_many_iff :
    Denotes ('%' :: pattern) text ↔ ∃ rest, rest <:+ text ∧ Denotes pattern rest := by
  constructor
  · intro h
    cases h with
    | many part h => exact ⟨_, List.suffix_append part _, h⟩
    | plain hmany => exact absurd rfl hmany
  · rintro ⟨rest, ⟨part, rfl⟩, h⟩
    exact .many part h

theorem denotes_one_iff :
    Denotes ('_' :: pattern) text ↔ ∃ rest, (∃ c, text = c :: rest) ∧ Denotes pattern rest := by
  constructor
  · intro h
    cases h with
    | one c h => exact ⟨_, ⟨c, rfl⟩, h⟩
    | plain _ hone => exact absurd rfl hone
  · rintro ⟨rest, ⟨c, rfl⟩, h⟩
    exact .one c h

theorem denotes_plain_iff (hmany : c ≠ '%') (hone : c ≠ '_') (hescape : c ≠ '\\') :
    Denotes (c :: pattern) text ↔ ∃ rest, text = c :: rest ∧ Denotes pattern rest := by
  constructor
  · intro h
    cases h with
    | many => exact absurd rfl hmany
    | one => exact absurd rfl hone
    | escaped | backslash => exact absurd rfl hescape
    | plain _ _ _ h => exact ⟨_, rfl, h⟩
  · rintro ⟨rest, rfl, h⟩
    exact .plain hmany hone hescape h

end

/-! ### Tokens -/

/-- The tokens of a pattern stand for the same texts as its characters. -/
theorem matches_tokens_iff (pattern text : List Char) :
    Matches (tokens pattern) text ↔ Denotes pattern text := by
  induction pattern using tokens.induct generalizing text with
  | case1 =>
    rw [tokens, denotes_nil_iff]
    rfl
  | case2 =>
    rw [tokens, denotes_backslash_iff]
    simp [Matches, Token.Leaves]
  | case3 c pattern ih =>
    rw [tokens, denotes_escaped_iff]
    simp only [Matches, Token.Leaves, ih]
  | case4 c pattern hlone hpair ih =>
    -- neither alone nor before another character, so it is no backslash
    have hescape : c ≠ '\\' := by
      intro hc
      cases pattern with
      | nil => exact hlone hc rfl
      | cons d pattern => exact hpair d pattern hc rfl
    rw [tokens.eq_4 c pattern hlone hpair, Matches]
    by_cases hmany : c = '%'
    · rw [if_pos hmany, hmany, denotes_many_iff]
      simp only [Token.Leaves, ih]
    · by_cases hone : c = '_'
      · rw [if_neg hmany, if_pos hone, hone, denotes_one_iff]
        simp only [Token.Leaves, ih]
      · rw [if_neg hmany, if_neg hone, denotes_plain_iff hmany hone hescape]
        simp only [Token.Leaves, ih]

/-- A text matches a pattern when the pattern stands for all of it. -/
theorem matchesText_iff_denotes (pattern text : String) :
    matchesText pattern text = true ↔ Denotes pattern.toList text.toList := by
  rw [matchesText, matchesTokens_iff, matches_tokens_iff]

/-- Of the two backslashes at the end of the text the first one is left to `%`. -/
example : matchesText "a\\%_%\\" "a%b\\\\" = true := by decide

end DataGrid.Like
