import DataGrid.Proofs.Filter.Search

/-!
# Escaped texts in patterns

`scan?` reads a pattern from the left and lets a backslash stand only before one of the three special
characters, so a pattern that it reads ends in no backslash of its own. The pattern of an escaped text
reads as just the characters of the text, of which none is a wildcard (`scan?_escapeChars_append`).
-/

namespace DataGrid.Like

/-- A character of a pattern, with the backslash before it if it is escaped. -/
inductive Piece where
  | plain (c : Char)
  | wildcard (c : Char)
  | escaped (c : Char)
deriving DecidableEq, Repr

namespace Piece

/-- The character without its backslash. -/
def char : Piece → Char
  | plain c => c
  | wildcard c => c
  | escaped c => c

def IsWildcard (p : Piece) : Prop := ∃ c, p = wildcard c

end Piece

/-- The pieces of a pattern, if each backslash that is not escaped itself has a special character
behind it. -/
def scan? : List Char → Option (List Piece)
  | [] => some []
  | ['\\'] => none
  | '\\' :: c :: rest =>
    if c = '\\' ∨ c = '%' ∨ c = '_' then (scan? rest).map (.escaped c :: ·) else none
  | c :: rest =>
    (scan? rest).map ((if c = '%' ∨ c = '_' then .wildcard c else .plain c) :: ·)

section
variable {c : Char} {rest : List Char}

theorem scan?_escaped (h : c = '\\' ∨ c = '%' ∨ c = '_') :
    scan? ('\\' :: c :: rest) = (scan? rest).map (.escaped c :: ·) := by
  rw [scan?, if_pos h]

theorem scan?_many : scan? ('%' :: rest) = (scan? rest).map (.wildcard '%' :: ·) := by
  rw [scan?.eq_4 _ _ (by simp) (by simp), if_pos (.inl rfl)]

theorem scan?_plain (hescape : c ≠ '\\') (hmany : c ≠ '%') (hone : c ≠ '_') :
    scan? (c :: rest) = (scan? rest).map (.plain c :: ·) := by
  rw [scan?.eq_4 c rest (by simp [hescape]) (by simp [hescape]), if_neg (by simp [hmany, hone])]

end

/-- The pieces of an escaped text. -/
def pieces (text : List Char) : List Piece :=
  text.map fun c => if isSpecial c then .escaped c else .plain c

theorem scan?_escapeChars_append (text rest : List Char) :
    scan? (escapeChars text ++ rest) = (scan? rest).map (pieces text ++ ·) := by
  induction text with
  | nil => simp [escapeChars, pieces]
  | cons c cs ih =>
    have hpieces : pieces (c :: cs) = (if isSpecial c then .escaped c else .plain c) :: pieces cs := rfl
    rw [hpieces]
    unfold escapeChars
    by_cases hc : isSpecial c = true
    · have hspecial : c = '\\' ∨ c = '%' ∨ c = '_' := by simpa [isSpecial, or_assoc] using hc
      rw [if_pos hc, if_pos hc, List.cons_append, List.cons_append, scan?_escaped hspecial, ih,
        Option.map_map]
      rfl
    · obtain ⟨⟨hescape, hmany⟩, hone⟩ : (c ≠ '\\' ∧ c ≠ '%') ∧ c ≠ '_' := by
        simpa [isSpecial] using hc
      rw [if_neg hc, if_neg hc, List.cons_append, scan?_plain hescape hmany hone, ih, Option.map_map]
      rfl

theorem map_char_pieces (text : List Char) : (pieces text).map Piece.char = text := by
  rw [pieces, List.map_map]
  refine List.map_id'' (fun c => ?_) text
  by_cases hc : isSpecial c = true <;> simp [hc, Piece.char]

theorem not_isWildcard_of_mem_pieces {text : List Char} : ∀ p ∈ pieces text, ¬ p.IsWildcard := by
  intro p hp
  obtain ⟨c, -, rfl⟩ := List.mem_map.1 hp
  rintro ⟨d, hd⟩
  split at hd <;> cases hd

end DataGrid.Like

namespace DataGrid.Filter

open Like (Piece scan? pieces)

namespace Search

/-- The wildcard in front of the value of a search. -/
def front : Search → List Piece
  | contains | notContains | endsWith => [.wildcard '%']
  | startsWith => []

/-- The wildcard at the end. -/
def back : Search → List Piece
  | contains | notContains | startsWith => [.wildcard '%']
  | endsWith => []

/-- The pattern carries the value between the wildcards of the search: apart from those it has no
wildcard, and the value is what stands there when the backslashes are taken away. -/
def Carries (search : Search) (value pattern : String) : Prop :=
  ∃ body, scan? pattern.toList = some (search.front ++ body ++ search.back) ∧
    (∀ p ∈ body, ¬ p.IsWildcard) ∧ body.map Piece.char = value.toList

variable {search : Search} {value value' pattern : String}

/-- A pattern carries one value only. -/
theorem Carries.unique (h : search.Carries value pattern) (h' : search.Carries value' pattern) :
    value = value' := by
  obtain ⟨body, hscan, -, hbody⟩ := h
  obtain ⟨body', hscan', -, hbody'⟩ := h'
  rw [hscan, Option.some_inj, List.append_left_inj, List.append_right_inj] at hscan'
  rw [← String.toList_inj, ← hbody, ← hbody', hscan']

end Search

/-- A search for a value becomes one comparison with a pattern that carries the value. -/
theorem Search.exists_compile {γ π : Type} (backend : Backend γ π) (search : Search) (column : γ)
    (value : String) : ∃ pattern, search.Carries value pattern ∧
      search.test.compile backend column value =
        some (backend.like (search = .notContains) column pattern) := by
  have hcarries {pattern : String} (h : scan? pattern.toList =
      some (search.front ++ pieces value.toList ++ search.back)) : search.Carries value pattern :=
    ⟨_, h, Like.not_isWildcard_of_mem_pieces, Like.map_char_pieces _⟩
  cases search with
  | contains | notContains =>
    refine ⟨"%" ++ Like.escape value ++ "%", hcarries ?_, rfl⟩
    simp [Like.toList_escape, Like.scan?_many, Like.scan?_escapeChars_append, scan?, front, back]
  | startsWith =>
    refine ⟨Like.escape value ++ "%", hcarries ?_, rfl⟩
    simp [Like.toList_escape, Like.scan?_many, Like.scan?_escapeChars_append, scan?, front, back]
  | endsWith =>
    refine ⟨"%" ++ Like.escape value, hcarries ?_, rfl⟩
    have hescaped := Like.scan?_escapeChars_append value.toList []
    rw [List.append_nil] at hescaped
    simp [Like.toList_escape, Like.scan?_many, hescaped, scan?, front, back]

end DataGrid.Filter
