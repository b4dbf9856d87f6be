import GoDecorator.Pattern.Basic
import GoDecorator.Proofs.Text.Identifiers

/-!
# Words of names

A measurement is named by the snake case of a name. What that keeps of the name are its *words*
(`words`): the name is cut at its underscores and in front of the capitals that start a word, and
the pieces are put into small letters. **The snake case is the words with underscores between them**
(`toList_snakeCase`).

A capital starts a word after a small letter, and within a row of capitals if a small letter comes
next: `HTTPServer` has the words `http` and `server` (`startsWord`).

No word has an underscore, not even after its capitals are put into small letters
(`underscore_not_mem_small`), so the words can be told from what they are joined to
(`joinWords_inj`), and **two names have the same snake case exactly if they have the same words**
(`snakeCase_eq_iff`). What is lost is where the name had capitals, and whether an underscore or a
capital starts a word.
-/

namespace GoDecorator

/-! ### The words of a name -/

/-- Whether a capital starts a word, between the character before it and the characters after it. -/
def startsWord (previous : Option Char) (cs : List Char) : Bool :=
  previous.any Text.isLowercase || (previous.any Text.isUppercase && cs.head?.any Text.isLowercase)

/-- The pieces of a name, cut at the underscores and in front of the capitals that start a word. -/
def pieces (previous : Option Char) : List Char → List (List Char)
  | [] => [[]]
  | c :: cs =>
    if c = '_' then [] :: pieces (some c) cs
    else if Text.isUppercase c && startsWord previous cs then
      [] :: (pieces (some c) cs).modifyHead (c :: ·)
    else (pieces (some c) cs).modifyHead (c :: ·)

/-- A character with capitals put into small letters. -/
def small (c : Char) : List Char := if Text.isUppercase c then Text.lowercase c else [c]

/-- The words of a name, in small letters. -/
def words (name : String) : List (List Char) :=
  (pieces none name.toList).map (List.flatMap small)

/-- Words with underscores between them. -/
def joinWords (ws : List (List Char)) : List Char := ['_'].intercalate ws

/-- There is a piece at least. -/
theorem pieces_ne_nil (previous : Option Char) (cs : List Char) : pieces previous cs ≠ [] := by
  induction cs generalizing previous with
  | nil => simp [pieces]
  | cons c cs ih =>
    rw [pieces]
    split
    · simp
    split
    · simp
    · simpa using ih (some c)

/-- There is a word at least, which may be empty. -/
theorem words_ne_nil (name : String) : words name ≠ [] :=
  mt List.map_eq_nil_iff.1 (pieces_ne_nil none name.toList)

/-! ### Small letters -/

/-- No capital has an underscore for its small letter. -/
theorem underscore_not_mem_small {c : Char} (hc : c ≠ '_') : '_' ∉ small c := by
  have hshift : (Text.caseShifts.all fun s ↦ decide ('_'.toNat < s.target)) = true := by
    decide +kernel
  rw [small]
  split
  · rw [Text.lowercase]
    split
    · decide
    · rw [List.mem_singleton]
      intro h
      have hcode : Text.shiftDown Text.caseShifts c.toNat = '_'.toNat := by
        rw [h, Text.toNat_ofNat_of_valid (Text.isValidChar_shiftDown c)]
      rcases Text.shiftDown_cases Text.caseShifts c.toNat with he | ⟨s, hs, -, he⟩
      · exact hc (Char.toNat_inj.1 (he ▸ hcode))
      · have htarget := of_decide_eq_true (List.all_eq_true.1 hshift s hs)
        omega
  · simpa using hc.symm

/-- The underscores are not in the pieces. -/
theorem underscore_not_mem_pieces {previous : Option Char} {cs : List Char} :
    ∀ w ∈ pieces previous cs, '_' ∉ w := by
  induction cs generalizing previous with
  | nil => simp [pieces]
  | cons c cs ih =>
    have ih := @ih (some c)
    have hgrown (hc : c ≠ '_') : ∀ w ∈ (pieces (some c) cs).modifyHead (c :: ·), '_' ∉ w := by
      obtain ⟨w, ws, hws⟩ := List.exists_cons_of_ne_nil (pieces_ne_nil (some c) cs)
      rw [hws] at ih ⊢
      obtain ⟨hw, hrest⟩ := List.forall_mem_cons.1 ih
      refine List.forall_mem_cons.2 ⟨?_, hrest⟩
      exact List.not_mem_cons_of_ne_of_not_mem hc.symm hw
    rw [pieces]
    split
    · exact List.forall_mem_cons.2 ⟨List.not_mem_nil, ih⟩
    split
    · exact List.forall_mem_cons.2 ⟨List.not_mem_nil, hgrown ‹_›⟩
    · exact hgrown ‹_›

/-- Nor are they in the words. -/
theorem underscore_not_mem_words {name : String} : ∀ w ∈ words name, '_' ∉ w := by
  intro w hw
  obtain ⟨piece, hpiece, rfl⟩ := List.mem_map.1 hw
  rw [List.mem_flatMap]
  rintro ⟨c, hc, hmem⟩
  refine underscore_not_mem_small ?_ hmem
  rintro rfl
  exact underscore_not_mem_pieces piece hpiece hc

/-! ### Snake case -/

/-- A word more comes in front of an underscore. -/
theorem joinWords_cons {ws : List (List Char)} (h : ws ≠ []) (w : List Char) :
    joinWords (w :: ws) = w ++ '_' :: joinWords ws := by
  obtain ⟨v, vs, rfl⟩ := List.exists_cons_of_ne_nil h
  simp [joinWords, List.intercalate]

/-- A word more comes after an underscore. -/
theorem joinWords_concat {ws : List (List Char)} (h : ws ≠ []) (w : List Char) :
    joinWords (ws ++ [w]) = joinWords ws ++ '_' :: w := by
  induction ws with
  | nil => exact absurd rfl h
  | cons v vs ih =>
    by_cases hvs : vs = []
    · subst hvs
      simp [joinWords, List.intercalate]
    · rw [List.cons_append, joinWords_cons (by simp), joinWords_cons hvs, ih hvs,
        List.append_assoc, List.cons_append]

/-- The words can be told from what they are joined to. -/
theorem joinWords_inj {ws vs : List (List Char)} (hws : ws ≠ []) (hvs : vs ≠ [])
    (hw : ∀ w ∈ ws, '_' ∉ w) (hv : ∀ v ∈ vs, '_' ∉ v) : joinWords ws = joinWords vs ↔ ws = vs := by
  refine ⟨fun h ↦ ?_, congrArg joinWords⟩
  rw [← List.splitOn_intercalate '_' hw hws, ← List.splitOn_intercalate '_' hv hvs]
  exact congrArg _ h

/-- A character in front of the first piece comes in front of all of them. -/
theorem joinWords_grown {ps : List (List Char)} (h : ps ≠ []) (c : Char) :
    joinWords ((ps.modifyHead (c :: ·)).map (List.flatMap small)) =
      small c ++ joinWords (ps.map (List.flatMap small)) := by
  obtain ⟨w, ws, rfl⟩ := List.exists_cons_of_ne_nil h
  cases ws with
  | nil => simp [joinWords, List.intercalate]
  | cons v vs => simp [joinWords_cons]

/-- The snake case of what is left of a name, whatever character is before it. -/
theorem snakeFrom_eq (previous : Option Char) (cs : List Char) :
    snakeFrom previous cs = joinWords ((pieces previous cs).map (List.flatMap small)) := by
  induction cs generalizing previous with
  | nil => rfl
  | cons c cs ih =>
    have hne := pieces_ne_nil (some c) cs
    have hgrown := joinWords_grown hne c
    rw [← ih (some c)] at hgrown
    rw [snakeFrom, pieces]
    by_cases hc : c = '_'
    · subst hc
      rw [if_neg (by decide), if_pos rfl, List.map_cons, joinWords_cons (by simpa using hne), ← ih]
      rfl
    rw [if_neg hc]
    cases hcapital : Text.isUppercase c with
    | false =>
      rw [if_neg (by simp), if_neg (by simp), hgrown]
      simp [small, hcapital]
    | true =>
      rw [if_pos rfl, Bool.true_and, ← startsWord]
      cases startsWord previous cs with
      | false => simp [hgrown, small, hcapital]
      | true =>
        dsimp only
        rw [if_pos rfl, if_pos rfl, List.map_cons, joinWords_cons (by simpa using hne), hgrown]
        simp [small, hcapital]

/-- **The snake case of a name is its words with underscores between them.** -/
theorem toList_snakeCase (name : String) : (snakeCase name).toList = joinWords (words name) := by
  rw [snakeCase, String.toList_ofList, snakeFrom_eq, words]

/-- **Two names have the same snake case exactly if they have the same words.** -/
theorem snakeCase_eq_iff {a b : String} : snakeCase a = snakeCase b ↔ words a = words b := by
  rw [← String.toList_inj, toList_snakeCase, toList_snakeCase]
  exact joinWords_inj (words_ne_nil a) (words_ne_nil b) underscore_not_mem_words
    underscore_not_mem_words

/-- Capitals in a row are one word, and the last of them belongs to the word after it. -/
example : words "getHTTPStatus_ok" =
    ["get".toList, "http".toList, "status".toList, "ok".toList] := by decide

end GoDecorator
