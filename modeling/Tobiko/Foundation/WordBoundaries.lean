import Mathlib.Data.List.Infix
import Tobiko.Foundation.WordSubstitution

/-!
Contract: where the words of a text can be.

Owns: words that consist of word characters only, the parts of a text between characters that
belong to no word, and what such a word matches in the parts.

Does not own: substitutions.
-/

namespace Tobiko.Foundation

/-- A word that has no boundary inside. -/
structure IsSolid (isWord : Char → Bool) (word : List Char) : Prop where
  present : word ≠ []
  solid : ∀ char ∈ word, isWord char = true

section Boundaries

variable {isWord : Char → Bool} {word : List Char}

/-! ### Parts of a text -/

theorem IsSolid.notMem (whole : IsSolid isWord word) {gap : Char}
    (noWord : isWord gap = false) : gap ∉ word := by
  intro member
  have inWord := whole.solid gap member
  rw [noWord] at inWord
  cases inWord

theorem prefix_of_prefix_gap {text rest : List Char} {gap : Char} (absent : gap ∉ word)
    (starts : word <+: text ++ gap :: rest) : word <+: text := by
  have upToGap : text ++ [gap] <+: text ++ gap :: rest := ⟨rest, by simp⟩
  rcases List.prefix_or_prefix_of_prefix starts upToGap with within | beyond
  · rcases List.prefix_concat_iff.mp within with same | inside
    · apply absurd _ absent
      rw [same]
      simp
    · exact inside
  · apply absurd (beyond.subset _) absent
    simp

/-- A word does not reach over a gap. -/
theorem matchesAt_gap (whole : IsSolid isWord word) {gap : Char} (noWord : isWord gap = false)
    (previous : Option Char) (text rest : List Char) :
    matchesAt isWord word previous (text ++ gap :: rest) =
      matchesAt isWord word previous text := by
  by_cases starts : word <+: text
  · have longer : word <+: text ++ gap :: rest := starts.trans (List.prefix_append _ _)
    have nonempty : text ≠ [] := by
      rintro rfl
      exact whole.present (List.prefix_nil.mp starts)
    have dropped : (text ++ gap :: rest).drop word.length =
        text.drop word.length ++ gap :: rest :=
      List.drop_append_of_le_length starts.length_le
    have first : (text ++ gap :: rest).head? = text.head? := by
      cases text with
      | nil => exact absurd rfl nonempty
      | cons char chars => rfl
    have next : (text.drop word.length ++ gap :: rest).head?.any isWord =
        (text.drop word.length).head?.any isWord := by
      cases text.drop word.length with
      | nil => exact noWord
      | cons char chars => rfl
    unfold matchesAt isBoundary
    rw [dropped, first, next, List.isPrefixOf_iff_prefix.mpr starts,
      List.isPrefixOf_iff_prefix.mpr longer]
  · have notHere : word.isPrefixOf text = false :=
      Bool.eq_false_iff.mpr fun found => starts (List.isPrefixOf_iff_prefix.mp found)
    have notLonger : word.isPrefixOf (text ++ gap :: rest) = false :=
      Bool.eq_false_iff.mpr fun found => starts
        (prefix_of_prefix_gap (whole.notMem noWord) (List.isPrefixOf_iff_prefix.mp found))
    unfold matchesAt
    rw [notHere, notLonger]
    rfl

theorem matchesAt_nil (whole : IsSolid isWord word) (previous : Option Char) :
    matchesAt isWord word previous [] = false := by
  have absent : word.isPrefixOf [] = false :=
    Bool.eq_false_iff.mpr fun found =>
      whole.present (List.prefix_nil.mp (List.isPrefixOf_iff_prefix.mp found))
  unfold matchesAt
  rw [absent]
  rfl

theorem searchWord_nil (whole : IsSolid isWord word) (previous : Option Char) :
    searchWord isWord word previous [] = false :=
  matchesAt_nil whole previous

theorem lastOf_eq_of_ne_nil {text : List Char} (present : text ≠ [])
    (previous other : Option Char) : lastOf previous text = lastOf other text := by
  cases text with
  | nil => exact absurd rfl present
  | cons char chars => rfl

/-- Only whether the previous character belongs to a word matters. -/
theorem searchWord_congr (whole : IsSolid isWord word) {previous other : Option Char}
    (same : previous.any isWord = other.any isWord) (text : List Char) :
    searchWord isWord word previous text = searchWord isWord word other text := by
  have here : ∀ text, matchesAt isWord word previous text =
      matchesAt isWord word other text := by
    intro text
    unfold matchesAt isBoundary
    rw [same, lastOf_eq_of_ne_nil whole.present previous other]
  cases text with
  | nil => exact here []
  | cons char chars =>
      show (_ || _) = (_ || _)
      rw [here]

/-- A gap parts a text. -/
theorem searchWord_gap (whole : IsSolid isWord word) {gap : Char}
    (noWord : isWord gap = false) (previous : Option Char) (text rest : List Char) :
    searchWord isWord word previous (text ++ gap :: rest) =
      (searchWord isWord word previous text || searchWord isWord word none rest) := by
  induction text generalizing previous with
  | nil =>
      have here := matchesAt_gap whole noWord previous [] rest
      have later : searchWord isWord word (some gap) rest = searchWord isWord word none rest := by
        apply searchWord_congr whole
        exact noWord
      show (matchesAt isWord word previous ([] ++ gap :: rest) || _) = _
      rw [here, later]
      rfl
  | cons char chars inductionHypothesis =>
      show (matchesAt isWord word previous (char :: chars ++ gap :: rest) ||
        searchWord isWord word (some char) (chars ++ gap :: rest)) = _
      rw [matchesAt_gap whole noWord, inductionHypothesis, ← Bool.or_assoc]
      rfl

theorem searchWord_gap_cons (whole : IsSolid isWord word) {gap : Char}
    (noWord : isWord gap = false) (previous : Option Char) (rest : List Char) :
    searchWord isWord word previous (gap :: rest) = searchWord isWord word none rest := by
  have parted := searchWord_gap whole noWord previous [] rest
  rw [searchWord_nil whole, Bool.false_or] at parted
  exact parted

/-! ### Words in words -/

theorem matchesAt_inside {char : Char} (inWord : isWord char = true) {text : List Char}
    (solid : ∀ char ∈ text, isWord char = true) (whole : IsSolid isWord word) :
    matchesAt isWord word (some char) text = false := by
  cases text with
  | nil => exact matchesAt_nil whole _
  | cons first chars =>
      have noBoundary : isBoundary isWord (some char) (some first) = false := by
        have firstInWord := solid first List.mem_cons_self
        show (isWord char != isWord first) = false
        rw [inWord, firstInWord]
        rfl
      unfold matchesAt
      show (_ && isBoundary isWord (some char) (some first) && _) = false
      rw [noBoundary, Bool.and_false, Bool.false_and]

theorem searchWord_inside {char : Char} (inWord : isWord char = true) {text : List Char}
    (solid : ∀ char ∈ text, isWord char = true) (whole : IsSolid isWord word) :
    searchWord isWord word (some char) text = false := by
  induction text generalizing char with
  | nil => exact matchesAt_nil whole _
  | cons first chars inductionHypothesis =>
      show (_ || _) = false
      rw [matchesAt_inside inWord solid whole, Bool.false_or]
      apply inductionHypothesis (solid first List.mem_cons_self)
      exact fun other member => solid other (List.mem_cons_of_mem _ member)

theorem lastOf_mem {text : List Char} (present : text ≠ []) (previous : Option Char) :
    ∃ last ∈ text, lastOf previous text = some last := by
  induction text generalizing previous with
  | nil => exact absurd rfl present
  | cons char chars inductionHypothesis =>
      by_cases single : chars = []
      · rw [single]
        exact ⟨char, List.mem_singleton_self char, rfl⟩
      · obtain ⟨last, member, found⟩ := inductionHypothesis single (some char)
        exact ⟨last, List.mem_cons_of_mem _ member, found⟩

theorem isBoundary_lastOf (whole : IsSolid isWord word) (previous next : Option Char) :
    isBoundary isWord (lastOf previous word) next = !next.any isWord := by
  obtain ⟨last, member, found⟩ := lastOf_mem whole.present previous
  have inWord := whole.solid last member
  rw [found]
  show (isWord last != next.any isWord) = _
  rw [inWord, Bool.true_bne]

/-- A word matches itself. -/
theorem matchesAt_self (whole : IsSolid isWord word) :
    matchesAt isWord word none word = true := by
  have starts : word.isPrefixOf word = true :=
    List.isPrefixOf_iff_prefix.mpr (List.prefix_refl word)
  have first : isBoundary isWord none word.head? = true := by
    cases same : word with
    | nil => exact absurd same whole.present
    | cons char chars =>
        have inWord : isWord char = true := whole.solid char (by rw [same]; exact List.mem_cons_self)
        show (false != isWord char) = true
        rw [inWord]
        rfl
  unfold matchesAt
  rw [starts, first, isBoundary_lastOf whole, List.drop_length]
  rfl

/-- A word is nowhere in another one. -/
theorem searchWord_other (whole : IsSolid isWord word) {other : List Char}
    (otherWhole : IsSolid isWord other) (different : word ≠ other) :
    searchWord isWord word none other = false := by
  have notFirst : matchesAt isWord word none other = false := by
    apply Bool.eq_false_iff.mpr
    intro found
    unfold matchesAt at found
    rw [isBoundary_lastOf whole, Bool.and_eq_true, Bool.and_eq_true] at found
    obtain ⟨⟨starts, -⟩, ends⟩ := found
    obtain ⟨rest, rfl⟩ := List.isPrefixOf_iff_prefix.mp starts
    rw [List.drop_left] at ends
    cases rest with
    | nil => exact different (by simp)
    | cons next chars =>
        have inWord : isWord next = true := otherWhole.solid next (by simp)
        have gap : isWord next = false := by simpa using ends
        rw [inWord] at gap
        cases gap
  cases same : other with
  | nil => exact absurd same otherWhole.present
  | cons char chars =>
      rw [same] at notFirst otherWhole
      show (_ || _) = false
      rw [notFirst, Bool.false_or]
      apply searchWord_inside (otherWhole.solid char List.mem_cons_self) _ whole
      exact fun next member => otherWhole.solid next (List.mem_cons_of_mem _ member)

/-! ### Templates -/

theorem searchWord_append_false {previous : Option Char} {text rest : List Char}
    (absent : searchWord isWord word previous (text ++ rest) = false) :
    noMatchIn isWord word previous text rest = true ∧
      searchWord isWord word (lastOf previous text) rest = false := by
  induction text generalizing previous with
  | nil => exact ⟨rfl, absent⟩
  | cons char chars inductionHypothesis =>
      rw [List.cons_append] at absent
      obtain ⟨notHere, later⟩ := Bool.or_eq_false_iff.mp absent
      obtain ⟨noMatch, after⟩ := inductionHypothesis later
      refine ⟨?_, after⟩
      show (!matchesAt isWord word previous (char :: (chars ++ rest)) && _) = true
      rw [notHere, noMatch]
      rfl

/-- A word that is nowhere in a template matches only where it is to be replaced. -/
theorem matchesOnlyAt_of_absent {previous : Option Char} {pieces : List Piece}
    (noPiece : Piece.word word ∉ pieces)
    (absent : searchWord isWord word previous (render pieces) = false) :
    matchesOnlyAt isWord word previous pieces = true := by
  induction pieces generalizing previous with
  | nil =>
      show (!matchesAt isWord word previous []) = true
      have nowhere : matchesAt isWord word previous [] = false := absent
      rw [nowhere]
      rfl
  | cons piece pieces inductionHypothesis =>
      have split : searchWord isWord word previous (piece.chars ++ render pieces) = false := absent
      obtain ⟨noMatch, later⟩ := searchWord_append_false split
      have rest := inductionHypothesis
        (fun member => noPiece (List.mem_cons_of_mem _ member)) later
      show ((if piece = .word word then _ else _) && _) = true
      rw [if_neg fun same => noPiece (by rw [same]; exact List.mem_cons_self), noMatch, rest]
      rfl

/-- A word in front of a text in which it is nowhere. -/
theorem matchesOnlyAt_front (whole : IsSolid isWord word) {gap : Char}
    (noWord : isWord gap = false) {rest : List Char}
    (absent : searchWord isWord word none rest = false) :
    matchesOnlyAt isWord word none [.word word, .text (gap :: rest)] = true := by
  have front : matchesAt isWord word none (word ++ render [.text (gap :: rest)]) = true := by
    have text : render [.text (gap :: rest)] = gap :: rest := by simp [render, Piece.chars]
    rw [text, matchesAt_gap whole noWord]
    exact matchesAt_self whole
  have behind : matchesOnlyAt isWord word (lastOf none word) [.text (gap :: rest)] = true := by
    apply matchesOnlyAt_of_absent
    · simp
    · have text : render [.text (gap :: rest)] = gap :: rest := by simp [render, Piece.chars]
      rw [text, searchWord_gap_cons whole noWord]
      exact absent
  have present : word.isEmpty = false := by simpa using whole.present
  show ((if Piece.word word = .word word then !word.isEmpty && _ else _) &&
    matchesOnlyAt isWord word (lastOf none word) [.text (gap :: rest)]) = true
  rw [if_pos rfl, present, front, behind]
  rfl

end Boundaries

end Tobiko.Foundation
