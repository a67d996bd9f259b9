import Mathlib.Data.List.Basic

/-!
Contract: the substitution of whole words in a text.

Owns: the matches of a word between two word boundaries, the search for one and the
substitution of all of them from left to right, and templates, that is texts in which some
words are to be replaced and the rest is to stay.

Does not own: which characters belong to words.
-/

namespace Tobiko.Foundation

section Words

variable (isWord : Char → Bool)

/-! ### Matches -/

/-- `\b` between two characters, or at an end of the text. -/
def isBoundary (previous next : Option Char) : Bool := previous.any isWord != next.any isWord

/-- The character before what follows a text. -/
def lastOf (previous : Option Char) : List Char → Option Char
  | [] => previous
  | char :: chars => lastOf (some char) chars

/-- `\bword\b` matches at the start of a text, after the previous character. -/
def matchesAt (word : List Char) (previous : Option Char) (text : List Char) : Bool :=
  word.isPrefixOf text && isBoundary isWord previous text.head? &&
    isBoundary isWord (lastOf previous word) (text.drop word.length).head?

/-- `\bword\b` matches somewhere in a text. -/
def searchWord (word : List Char) : Option Char → List Char → Bool
  | previous, [] => matchesAt isWord word previous []
  | previous, char :: text =>
      matchesAt isWord word previous (char :: text) || searchWord word (some char) text

/-- The substitution of all the matches. The count is that of the characters of a match
that are still to be passed over. -/
def substituteFrom (word replacement : List Char) : Nat → Option Char → List Char → List Char
  | _, previous, [] => if matchesAt isWord word previous [] then replacement else []
  | count + 1, _, char :: text => substituteFrom word replacement count (some char) text
  | 0, previous, char :: text =>
      if matchesAt isWord word previous (char :: text) then
        if word = [] then
          replacement ++ char :: substituteFrom word replacement 0 (some char) text
        else replacement ++ substituteFrom word replacement (word.length - 1) (some char) text
      else char :: substituteFrom word replacement 0 (some char) text

/-- `re.sub(r'\bword\b', replacement, text)` -/
def substituteWord (word replacement text : List Char) : List Char :=
  substituteFrom isWord word replacement 0 none text

variable {isWord}

theorem substituteFrom_of_not_search {word replacement text : List Char}
    {previous : Option Char} (absent : searchWord isWord word previous text = false) :
    substituteFrom isWord word replacement 0 previous text = text := by
  induction text generalizing previous with
  | nil =>
      have noMatch : matchesAt isWord word previous [] = false := absent
      simp [substituteFrom, noMatch]
  | cons char text inductionHypothesis =>
      obtain ⟨noMatch, later⟩ := Bool.or_eq_false_iff.mp absent
      rw [substituteFrom, noMatch, inductionHypothesis later]
      rfl

theorem substituteWord_of_not_search {word replacement text : List Char}
    (absent : searchWord isWord word none text = false) :
    substituteWord isWord word replacement text = text :=
  substituteFrom_of_not_search absent

/-! ### Templates -/

/-- A word that is to be replaced, or a text that is to stay. -/
inductive Piece where
  | word (chars : List Char)
  | text (chars : List Char)
deriving DecidableEq, Repr

def Piece.chars : Piece → List Char
  | .word chars => chars
  | .text chars => chars

/-- The text of a template. -/
def render (pieces : List Piece) : List Char := pieces.flatMap Piece.chars

def Piece.fill (word replacement : List Char) : Piece → Piece
  | .word chars => if chars = word then .text replacement else .word chars
  | .text chars => .text chars

variable (isWord)

/-- The word matches nowhere in these characters, which the rest follows. -/
def noMatchIn (word : List Char) : Option Char → List Char → List Char → Bool
  | _, [], _ => true
  | previous, char :: chars, rest =>
      !matchesAt isWord word previous (char :: chars ++ rest) &&
        noMatchIn word (some char) chars rest

/-- The word matches in a template exactly where it is to be replaced. -/
def matchesOnlyAt (word : List Char) : Option Char → List Piece → Bool
  | previous, [] => !matchesAt isWord word previous []
  | previous, piece :: pieces =>
      (if piece = .word word then
        !word.isEmpty && matchesAt isWord word previous (word ++ render pieces)
      else noMatchIn isWord word previous piece.chars (render pieces)) &&
        matchesOnlyAt word (lastOf previous piece.chars) pieces

variable {isWord}

theorem substituteFrom_length {word replacement chars rest : List Char}
    {previous : Option Char} :
    substituteFrom isWord word replacement chars.length previous (chars ++ rest) =
      substituteFrom isWord word replacement 0 (lastOf previous chars) rest := by
  induction chars generalizing previous with
  | nil => rfl
  | cons char chars inductionHypothesis => exact inductionHypothesis

theorem substituteFrom_of_noMatchIn {word replacement chars rest : List Char}
    {previous : Option Char} (absent : noMatchIn isWord word previous chars rest = true) :
    substituteFrom isWord word replacement 0 previous (chars ++ rest) =
      chars ++ substituteFrom isWord word replacement 0 (lastOf previous chars) rest := by
  induction chars generalizing previous with
  | nil => rfl
  | cons char chars inductionHypothesis =>
      obtain ⟨noMatch, later⟩ := Bool.and_eq_true_iff.mp absent
      have here : matchesAt isWord word previous (char :: (chars ++ rest)) = false := by
        simpa using noMatch
      rw [List.cons_append, substituteFrom, here, inductionHypothesis later]
      rfl

theorem substituteFrom_of_match {word replacement rest : List Char} {previous : Option Char}
    (present : word ≠ [])
    (found : matchesAt isWord word previous (word ++ rest) = true) :
    substituteFrom isWord word replacement 0 previous (word ++ rest) =
      replacement ++ substituteFrom isWord word replacement 0 (lastOf previous word) rest := by
  cases word with
  | nil => exact absurd rfl present
  | cons char chars =>
      rw [List.cons_append] at found ⊢
      rw [substituteFrom, if_pos found, if_neg (List.cons_ne_nil char chars)]
      congr 1
      exact substituteFrom_length

theorem substituteFrom_render {word replacement : List Char} {pieces : List Piece}
    {previous : Option Char} (onlyAt : matchesOnlyAt isWord word previous pieces = true) :
    substituteFrom isWord word replacement 0 previous (render pieces) =
      render (pieces.map (Piece.fill word replacement)) := by
  induction pieces generalizing previous with
  | nil =>
      have noMatch : matchesAt isWord word previous [] = false := by
        simpa [matchesOnlyAt] using onlyAt
      simp [render, substituteFrom, noMatch]
  | cons piece pieces inductionHypothesis =>
      obtain ⟨here, later⟩ := Bool.and_eq_true_iff.mp onlyAt
      have rest := inductionHypothesis later
      have whole : render (piece :: pieces) = piece.chars ++ render pieces := rfl
      have filled : render ((piece :: pieces).map (Piece.fill word replacement)) =
          (piece.fill word replacement).chars ++
            render (pieces.map (Piece.fill word replacement)) := rfl
      rw [whole, filled, ← rest]
      split at here
      · rename_i toReplace
        subst toReplace
        obtain ⟨nonempty, found⟩ := Bool.and_eq_true_iff.mp here
        have present : word ≠ [] := by
          rintro rfl
          cases nonempty
        rw [Piece.fill, if_pos rfl]
        exact substituteFrom_of_match present found
      · rename_i toStay
        have kept : piece.fill word replacement = piece := by
          cases piece with
          | text chars => rfl
          | word chars => exact if_neg fun same => toStay (by rw [same])
        rw [kept]
        exact substituteFrom_of_noMatchIn here

/-- In a template whose other texts do not match, the substitution replaces the word
where it is to be replaced. -/
theorem substituteWord_render {word replacement : List Char} {pieces : List Piece}
    (onlyAt : matchesOnlyAt isWord word none pieces = true) :
    substituteWord isWord word replacement (render pieces) =
      render (pieces.map (Piece.fill word replacement)) :=
  substituteFrom_render onlyAt

end Words

end Tobiko.Foundation
