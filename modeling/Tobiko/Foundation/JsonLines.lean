import Mathlib.Order.Nat
import Tobiko.Foundation.Json

/-!
Contract: JSON documents that are put behind one another, each on lines of its own.

Owns: that a scanner reads at least one character and does not mind a further line, that the scan of
a document ends before its fuel does, and that a document with a further one behind it is none.

Does not own: the scanner.
-/

namespace Tobiko.Foundation

namespace Json

/-! ### What a scanner reads -/

/-- A scanner that reads at least one character, and that reads a document as before when a further
line is put behind it. -/
structure Steady {Value : Type} (scan : Text → Option (Value × Text)) : Prop where
  shorter : ∀ {text value rest}, scan text = some (value, rest) → rest.length < text.length
  follows : ∀ {text value rest} (more : Text), scan text = some (value, rest) →
    scan (text ++ '\n' :: more) = some (value, rest ++ '\n' :: more)

theorem skipSpaces_length (text : Text) : (skipSpaces text).length ≤ text.length :=
  (List.dropWhile_sublist _).length_le

theorem skipSpaces_append {text : Text} (solid : skipSpaces text ≠ []) (more : Text) :
    skipSpaces (text ++ more) = skipSpaces text ++ more := by
  rw [skipSpaces, List.dropWhile_append, if_neg]
  · rfl
  · rw [List.isEmpty_iff]
    exact solid

theorem steady_nextCharacter : Steady nextCharacter where
  shorter := by
    intro text value rest read
    unfold nextCharacter at read
    split at read
    · cases read
    · rename_i character behind skipped
      cases read
      have length := skipSpaces_length text
      rw [skipped, List.length_cons] at length
      exact length
  follows := by
    intro text value rest more read
    unfold nextCharacter at read
    split at read
    · cases read
    · rename_i character behind skipped
      cases read
      have solid : skipSpaces text ≠ [] := by
        rw [skipped]
        exact List.cons_ne_nil _ _
      rw [nextCharacter, skipSpaces_append solid, skipped]
      rfl

theorem scanCharacters_shorter {place : StringPlace} {text rest : Text}
    {scanned : List (Nat × Bool)} (read : scanCharacters place text = some (scanned, rest)) :
    rest.length < text.length := by
  induction text generalizing place scanned with
  | nil =>
      unfold scanCharacters at read
      cases read
  | cons character text inductionHypothesis =>
      have further : ∀ {place scanned}, scanCharacters place text = some (scanned, rest) →
          rest.length < (character :: text).length := fun read =>
        Nat.lt_succ_of_lt (inductionHypothesis read)
      have mapped : ∀ {place scanned} {entry : Nat × Bool},
          ((scanCharacters place text).map fun scanned => (entry :: scanned.1, scanned.2)) =
            some (scanned, rest) → rest.length < (character :: text).length := by
        intro place scanned entry read
        obtain ⟨inner, readInner, same⟩ := Option.map_eq_some_iff.mp read
        cases same
        exact further readInner
      unfold scanCharacters at read
      cases place with
      | plain =>
          dsimp only at read
          split at read
          · cases read
            exact Nat.lt_succ_self _
          · split at read
            · exact further read
            · split at read
              · cases read
              · exact mapped read
      | escape =>
          dsimp only at read
          split at read
          · exact further read
          · split at read
            · cases read
            · exact mapped read
      | hexadecimal left code =>
          dsimp only at read
          split at read
          · cases read
          · split at read
            · exact mapped read
            · exact further read

theorem scanCharacters_append {place : StringPlace} {text rest : Text}
    {scanned : List (Nat × Bool)} (more : Text)
    (read : scanCharacters place text = some (scanned, rest)) :
    scanCharacters place (text ++ more) = some (scanned, rest ++ more) := by
  induction text generalizing place scanned with
  | nil =>
      unfold scanCharacters at read
      cases read
  | cons character text inductionHypothesis =>
      have mapped : ∀ {place scanned} {entry : Nat × Bool},
          ((scanCharacters place text).map fun scanned => (entry :: scanned.1, scanned.2)) =
            some (scanned, rest) →
          ((scanCharacters place (text ++ more)).map fun scanned =>
            (entry :: scanned.1, scanned.2)) = some (scanned, rest ++ more) := by
        intro place scanned entry read
        obtain ⟨inner, readInner, same⟩ := Option.map_eq_some_iff.mp read
        cases same
        rw [inductionHypothesis readInner]
        rfl
      rw [List.cons_append]
      unfold scanCharacters at read ⊢
      cases place with
      | plain =>
          dsimp only at read ⊢
          split at read
          · cases read
            rw [if_pos ‹_›]
          · rw [if_neg ‹_›]
            split at read
            · rw [if_pos ‹_›]
              exact inductionHypothesis read
            · rw [if_neg ‹_›]
              split at read
              · cases read
              · rw [if_neg ‹_›]
                exact mapped read
      | escape =>
          dsimp only at read ⊢
          split at read
          · rw [if_pos ‹_›]
            exact inductionHypothesis read
          · rw [if_neg ‹_›]
            generalize simpleEscape character = spelled at read ⊢
            cases spelled with
            | none => cases read
            | some code => exact mapped read
      | hexadecimal left code =>
          dsimp only at read ⊢
          generalize hexDigit character = value at read ⊢
          cases value with
          | none => cases read
          | some digit =>
              cases left with
              | zero => exact mapped read
              | succ left => exact inductionHypothesis read

theorem steady_scanString : Steady scanString where
  shorter := by
    intro text value rest read
    obtain ⟨scanned, readCharacters, same⟩ := Option.map_eq_some_iff.mp read
    cases same
    exact scanCharacters_shorter readCharacters
  follows := by
    intro text value rest more read
    obtain ⟨scanned, readCharacters, same⟩ := Option.map_eq_some_iff.mp read
    cases same
    rw [scanString, scanCharacters_append _ readCharacters]
    rfl

/-! A line break ends a number. -/

theorem scanDigits_append (text more : Text) :
    scanDigits (text ++ '\n' :: more) =
      ((scanDigits text).1, (scanDigits text).2 ++ '\n' :: more) := by
  induction text with
  | nil => rfl
  | cons character text inductionHypothesis =>
      obtain ⟨sameDigits, sameRest⟩ := Prod.mk.injEq .. ▸ inductionHypothesis
      by_cases digit : character.isDigit = true
      · rw [scanDigits, List.cons_append, List.takeWhile_cons_of_pos digit,
          List.dropWhile_cons_of_pos digit, scanDigits, List.takeWhile_cons_of_pos digit,
          List.dropWhile_cons_of_pos digit, sameDigits, sameRest]
        rfl
      · rw [scanDigits, List.cons_append, List.takeWhile_cons_of_neg digit,
          List.dropWhile_cons_of_neg digit, scanDigits, List.takeWhile_cons_of_neg digit,
          List.dropWhile_cons_of_neg digit]
        rfl

theorem scanDigits_length (text : Text) : (scanDigits text).2.length ≤ text.length :=
  (List.dropWhile_sublist _).length_le

theorem steady_scanNatural : Steady scanNatural where
  shorter := by
    intro text value rest read
    unfold scanNatural at read
    split at read
    · cases read
    · rename_i character text
      split at read
      · cases read
        exact Nat.lt_succ_self _
      · split at read
        · rename_i digit
          cases read
          rw [scanDigits, List.dropWhile_cons_of_pos digit]
          exact Nat.lt_succ_of_le (scanDigits_length text)
        · cases read
  follows := by
    intro text value rest more read
    cases text with
    | nil => cases read
    | cons character text =>
        rw [List.cons_append]
        unfold scanNatural at read ⊢
        dsimp only at read ⊢
        split at read
        · cases read
          rw [if_pos ‹_›]
        · rw [if_neg ‹_›]
          split at read
          · cases read
            rw [if_pos ‹_›, ← List.cons_append, scanDigits_append]
          · cases read

theorem scanFraction_append (text more : Text) :
    scanFraction (text ++ '\n' :: more) =
      ((scanFraction text).1, (scanFraction text).2 ++ '\n' :: more) := by
  cases text with
  | nil => rfl
  | cons character text =>
      rw [List.cons_append]
      unfold scanFraction
      dsimp only
      rw [scanDigits_append]
      split
      · rfl
      · rfl

theorem scanFraction_length (text : Text) : (scanFraction text).2.length ≤ text.length := by
  unfold scanFraction
  split
  · exact le_rfl
  · split
    · exact Nat.le_succ_of_le (scanDigits_length _)
    · exact le_rfl

theorem scanSign_append (text more : Text) :
    scanSign (text ++ '\n' :: more) = ((scanSign text).1, (scanSign text).2 ++ '\n' :: more) := by
  cases text with
  | nil => rfl
  | cons character text =>
      rw [List.cons_append]
      unfold scanSign
      dsimp only
      split
      · rfl
      · split
        · rfl
        · rfl

theorem scanSign_length (text : Text) : (scanSign text).2.length ≤ text.length := by
  unfold scanSign
  split
  · exact le_rfl
  · split
    · exact Nat.le_succ _
    · split
      · exact Nat.le_succ _
      · exact le_rfl

theorem scanExponent_append (text more : Text) :
    scanExponent (text ++ '\n' :: more) =
      ((scanExponent text).1, (scanExponent text).2 ++ '\n' :: more) := by
  cases text with
  | nil => rfl
  | cons character text =>
      rw [List.cons_append]
      unfold scanExponent
      dsimp only
      rw [scanSign_append]
      dsimp only
      rw [scanDigits_append]
      split
      · rfl
      · rfl

theorem scanExponent_length (text : Text) : (scanExponent text).2.length ≤ text.length := by
  unfold scanExponent
  split
  · exact le_rfl
  · rename_i character text
    dsimp only
    split
    · exact Nat.le_succ_of_le ((scanDigits_length _).trans (scanSign_length text))
    · exact le_rfl

theorem steady_scanUnsigned : Steady scanUnsigned where
  shorter := by
    intro text value rest read
    obtain ⟨⟨whole, afterWhole⟩, readWhole, same⟩ := Option.map_eq_some_iff.mp read
    have sameRest : (scanExponent (scanFraction afterWhole).2).2 = rest := congrArg Prod.snd same
    have fraction := scanFraction_length afterWhole
    have exponent := scanExponent_length (scanFraction afterWhole).2
    have shorter := steady_scanNatural.shorter readWhole
    rw [← sameRest]
    omega
  follows := by
    intro text value rest more read
    obtain ⟨⟨whole, afterWhole⟩, readWhole, same⟩ := Option.map_eq_some_iff.mp read
    rw [scanUnsigned, steady_scanNatural.follows more readWhole, Option.map_some]
    dsimp only
    rw [scanFraction_append]
    dsimp only
    rw [scanExponent_append]
    exact congrArg some
      (congrArg (fun scanned => (scanned.1, scanned.2 ++ '\n' :: more)) same)

/-! No word has a line break. -/

theorem isPrefixOf_append {word : Text} (oneLine : '\n' ∉ word) (text more : Text) :
    word.isPrefixOf (text ++ '\n' :: more) = word.isPrefixOf text := by
  induction word generalizing text with
  | nil => rfl
  | cons character word inductionHypothesis =>
      rw [List.mem_cons, not_or] at oneLine
      cases text with
      | nil =>
          rw [List.nil_append, List.isPrefixOf_cons_cons, beq_eq_false_iff_ne.mpr (Ne.symm oneLine.1)]
          rfl
      | cons first text =>
          rw [List.cons_append, List.isPrefixOf_cons_cons, List.isPrefixOf_cons_cons,
            inductionHypothesis oneLine.2]

theorem scanWord_append {word : Text} (oneLine : '\n' ∉ word) (text more : Text) :
    scanWord word (text ++ '\n' :: more) = (scanWord word text).map (· ++ '\n' :: more) := by
  unfold scanWord
  rw [isPrefixOf_append oneLine]
  split
  · rename_i starts
    rw [List.drop_append_of_le_length (List.isPrefixOf_iff_prefix.mp starts).length_le]
    rfl
  · rfl

theorem scanWord_shorter {word text rest : Text} (spelled : word ≠ [])
    (read : scanWord word text = some rest) : rest.length < text.length := by
  unfold scanWord at read
  split at read
  · rename_i starts
    cases read
    have length := (List.isPrefixOf_iff_prefix.mp starts).length_le
    have positive := List.length_pos_iff.mpr spelled
    rw [List.length_drop]
    omega
  · cases read

theorem words_spelled : ∀ word ∈ words, word.1 ≠ [] ∧ '\n' ∉ word.1 := by
  intro word member
  simp only [words, List.mem_cons, List.not_mem_nil, or_false] at member
  rcases member with rfl | rfl | rfl | rfl | rfl | rfl <;> decide

theorem findWord_append (text more : Text) {known : List (Text × Json)}
    (oneLine : ∀ word ∈ known, '\n' ∉ word.1) :
    (known.findSome? fun word => (scanWord word.1 (text ++ '\n' :: more)).map (word.2, ·)) =
      (known.findSome? fun word => (scanWord word.1 text).map (word.2, ·)).map
        fun scanned => (scanned.1, scanned.2 ++ '\n' :: more) := by
  induction known with
  | nil => rfl
  | cons word known inductionHypothesis =>
      rw [List.findSome?_cons, List.findSome?_cons,
        scanWord_append (oneLine word List.mem_cons_self),
        inductionHypothesis fun other member => oneLine other (List.mem_cons_of_mem _ member)]
      cases scanWord word.1 text with
      | none => rfl
      | some rest => rfl

theorem steady_scanNumber : Steady scanNumber where
  shorter := by
    intro text value rest read
    cases text with
    | nil => cases read
    | cons character text =>
        unfold scanNumber at read
        dsimp only at read
        split at read
        · obtain ⟨scanned, readUnsigned, same⟩ := Option.map_eq_some_iff.mp read
          cases same
          exact Nat.lt_succ_of_lt (steady_scanUnsigned.shorter readUnsigned)
        · obtain ⟨scanned, readUnsigned, same⟩ := Option.map_eq_some_iff.mp read
          cases same
          exact steady_scanUnsigned.shorter readUnsigned
  follows := by
    intro text value rest more read
    cases text with
    | nil => cases read
    | cons character text =>
        rw [List.cons_append]
        unfold scanNumber at read ⊢
        dsimp only at read ⊢
        split at read
        · obtain ⟨scanned, readUnsigned, same⟩ := Option.map_eq_some_iff.mp read
          cases same
          rw [if_pos ‹_›, steady_scanUnsigned.follows more readUnsigned]
          rfl
        · obtain ⟨scanned, readUnsigned, same⟩ := Option.map_eq_some_iff.mp read
          cases same
          rw [if_neg ‹_›, ← List.cons_append, steady_scanUnsigned.follows more readUnsigned]
          rfl

theorem steady_scanAtom : Steady scanAtom where
  shorter := by
    intro text value rest read
    rcases Option.or_eq_some_iff.mp read with found | ⟨-, number⟩
    · obtain ⟨word, member, spelled⟩ := List.exists_of_findSome?_eq_some found
      obtain ⟨behind, readWord, same⟩ := Option.map_eq_some_iff.mp spelled
      cases same
      exact scanWord_shorter (words_spelled word member).1 readWord
    · exact steady_scanNumber.shorter number
  follows := by
    intro text value rest more read
    rw [scanAtom, findWord_append text more fun word member => (words_spelled word member).2]
    rcases Option.or_eq_some_iff.mp read with found | ⟨noWord, number⟩
    · rw [found]
      rfl
    · rw [noWord, Option.map_none, Option.none_or]
      exact steady_scanNumber.follows more number

theorem Steady.of_read {Value : Type} {scan : Text → Option (Value × Text)}
    (reads : ∀ text value rest, scan text = some (value, rest) →
      rest.length < text.length ∧
        ∀ more, scan (text ++ '\n' :: more) = some (value, rest ++ '\n' :: more)) :
    Steady scan where
  shorter := fun read => (reads _ _ _ read).1
  follows := fun more read => (reads _ _ _ read).2 more

theorem steady_scanOnce_succ {fuel : Nat} (members : Steady (scanMembers fuel))
    (elements : Steady (scanElements fuel)) : Steady (scanOnce (fuel + 1)) := by
  apply Steady.of_read
  intro text value rest read
  cases text with
  | nil =>
      unfold scanOnce at read
      cases read
  | cons character text =>
      rw [List.length_cons]
      unfold scanOnce at read
      split at read
      · obtain ⟨scanned, readString, same⟩ := Option.map_eq_some_iff.mp read
        cases same
        have shorter := steady_scanString.shorter readString
        refine ⟨by omega, fun more => ?_⟩
        rw [List.cons_append, scanOnce, if_pos ‹_›, steady_scanString.follows more readString]
        rfl
      · split at read
        · obtain ⟨⟨next, behind⟩, readNext, read⟩ := Option.bind_eq_some_iff.mp read
          have shorterNext := steady_nextCharacter.shorter readNext
          dsimp only at read
          split at read
          · cases read
            refine ⟨by omega, fun more => ?_⟩
            rw [List.cons_append, scanOnce, if_neg ‹_›, if_pos ‹_›,
              steady_nextCharacter.follows more readNext]
            dsimp only [Option.bind_eq_bind, Option.bind_some]
            rw [if_pos ‹_›]
          · obtain ⟨⟨inner, behindInner⟩, readInner, same⟩ := Option.bind_eq_some_iff.mp read
            cases same
            have shorter := members.shorter readInner
            rw [List.length_cons] at shorter
            dsimp only
            refine ⟨by omega, fun more => ?_⟩
            have follows := members.follows more readInner
            rw [List.cons_append] at follows
            rw [List.cons_append, scanOnce, if_neg ‹_›, if_pos ‹_›,
              steady_nextCharacter.follows more readNext]
            dsimp only [Option.bind_eq_bind, Option.bind_some]
            rw [if_neg ‹_›, follows]
            rfl
        · split at read
          · obtain ⟨⟨next, behind⟩, readNext, read⟩ := Option.bind_eq_some_iff.mp read
            have shorterNext := steady_nextCharacter.shorter readNext
            dsimp only at read
            split at read
            · cases read
              refine ⟨by omega, fun more => ?_⟩
              rw [List.cons_append, scanOnce, if_neg ‹_›, if_neg ‹_›, if_pos ‹_›,
                steady_nextCharacter.follows more readNext]
              dsimp only [Option.bind_eq_bind, Option.bind_some]
              rw [if_pos ‹_›]
            · obtain ⟨⟨inner, behindInner⟩, readInner, same⟩ := Option.bind_eq_some_iff.mp read
              cases same
              have shorter := elements.shorter readInner
              rw [List.length_cons] at shorter
              dsimp only
              refine ⟨by omega, fun more => ?_⟩
              have follows := elements.follows more readInner
              rw [List.cons_append] at follows
              rw [List.cons_append, scanOnce, if_neg ‹_›, if_neg ‹_›, if_pos ‹_›,
                steady_nextCharacter.follows more readNext]
              dsimp only [Option.bind_eq_bind, Option.bind_some]
              rw [if_neg ‹_›, follows]
              rfl
          · refine ⟨steady_scanAtom.shorter read, fun more => ?_⟩
            rw [List.cons_append, scanOnce, if_neg ‹_›, if_neg ‹_›, if_neg ‹_›, ← List.cons_append]
            exact steady_scanAtom.follows more read

theorem skipSpaces_append_of_read {Value : Type} {scan : Text → Option (Value × Text)}
    (steady : Steady scan) {text rest : Text} {value : Value}
    (read : scan (skipSpaces text) = some (value, rest)) (more : Text) :
    skipSpaces (text ++ more) = skipSpaces text ++ more := by
  apply skipSpaces_append
  intro blank
  have shorter := steady.shorter read
  rw [blank] at shorter
  exact absurd shorter (Nat.not_lt_zero _)

theorem steady_scanMembers_succ {fuel : Nat} (once : Steady (scanOnce fuel))
    (members : Steady (scanMembers fuel)) : Steady (scanMembers (fuel + 1)) := by
  apply Steady.of_read
  intro text value rest read
  cases text with
  | nil =>
      unfold scanMembers at read
      cases read
  | cons quote text =>
      rw [List.length_cons]
      unfold scanMembers at read
      split at read
      · obtain ⟨⟨key, afterKey⟩, readKey, read⟩ := Option.bind_eq_some_iff.mp read
        obtain ⟨⟨colon, afterColon⟩, readColon, read⟩ := Option.bind_eq_some_iff.mp read
        have shorterKey := steady_scanString.shorter readKey
        have shorterColon := steady_nextCharacter.shorter readColon
        dsimp only at read
        split at read
        · obtain ⟨⟨element, afterElement⟩, readElement, read⟩ := Option.bind_eq_some_iff.mp read
          obtain ⟨⟨delimiter, behind⟩, readDelimiter, read⟩ := Option.bind_eq_some_iff.mp read
          have shorterElement := once.shorter readElement
          have skipped := skipSpaces_length afterColon
          have shorterDelimiter : behind.length < afterElement.length :=
            steady_nextCharacter.shorter readDelimiter
          have upToDelimiter : ∀ more, scanMembers (fuel + 1) (quote :: text ++ '\n' :: more) =
              if delimiter = '\x7d' then some ([(key, element)], behind ++ '\n' :: more)
              else if delimiter = ',' then
                (scanMembers fuel (skipSpaces (behind ++ '\n' :: more))).bind fun others =>
                  some ((key, element) :: others.1, others.2)
              else none := by
            intro more
            rw [List.cons_append, scanMembers, if_pos ‹_›, steady_scanString.follows more readKey]
            dsimp only [Option.bind_eq_bind, Option.bind_some]
            rw [steady_nextCharacter.follows more readColon]
            dsimp only [Option.bind_some]
            rw [if_pos ‹_›, skipSpaces_append_of_read once readElement,
              once.follows more readElement]
            dsimp only [Option.bind_some]
            rw [steady_nextCharacter.follows more readDelimiter]
            rfl
          dsimp only at read
          split at read
          · cases read
            refine ⟨by omega, fun more => ?_⟩
            rw [upToDelimiter, if_pos ‹_›]
          · split at read
            · obtain ⟨⟨others, afterOthers⟩, readOthers, same⟩ :=
                Option.bind_eq_some_iff.mp read
              cases same
              have shorterOthers := members.shorter readOthers
              have skippedOthers := skipSpaces_length behind
              dsimp only
              refine ⟨by omega, fun more => ?_⟩
              rw [upToDelimiter, if_neg ‹_›, if_pos ‹_›,
                skipSpaces_append_of_read members readOthers, members.follows more readOthers]
              rfl
            · cases read
        · cases read
      · cases read

theorem steady_scanElements_succ {fuel : Nat} (once : Steady (scanOnce fuel))
    (elements : Steady (scanElements fuel)) : Steady (scanElements (fuel + 1)) := by
  apply Steady.of_read
  intro text value rest read
  unfold scanElements at read
  obtain ⟨⟨element, afterElement⟩, readElement, read⟩ := Option.bind_eq_some_iff.mp read
  obtain ⟨⟨delimiter, behind⟩, readDelimiter, read⟩ := Option.bind_eq_some_iff.mp read
  have shorterElement := once.shorter readElement
  have shorterDelimiter := steady_nextCharacter.shorter readDelimiter
  have upToDelimiter : ∀ more, scanElements (fuel + 1) (text ++ '\n' :: more) =
      if delimiter = ']' then some ([element], behind ++ '\n' :: more)
      else if delimiter = ',' then
        (scanElements fuel (skipSpaces (behind ++ '\n' :: more))).bind fun others =>
          some (element :: others.1, others.2)
      else none := by
    intro more
    rw [scanElements, once.follows more readElement]
    dsimp only [Option.bind_eq_bind, Option.bind_some]
    rw [steady_nextCharacter.follows more readDelimiter]
    rfl
  dsimp only at read
  split at read
  · cases read
    refine ⟨by omega, fun more => ?_⟩
    rw [upToDelimiter, if_pos ‹_›]
  · split at read
    · obtain ⟨⟨others, afterOthers⟩, readOthers, same⟩ := Option.bind_eq_some_iff.mp read
      cases same
      have shorterOthers := elements.shorter readOthers
      have skippedOthers := skipSpaces_length behind
      dsimp only
      refine ⟨by omega, fun more => ?_⟩
      rw [upToDelimiter, if_neg ‹_›, if_pos ‹_›,
        skipSpaces_append_of_read elements readOthers, elements.follows more readOthers]
      rfl
    · cases read

theorem steady_scan (fuel : Nat) :
    Steady (scanOnce fuel) ∧ Steady (scanMembers fuel) ∧ Steady (scanElements fuel) := by
  induction fuel with
  | zero =>
      refine ⟨Steady.of_read fun _ _ _ read => ?_, Steady.of_read fun _ _ _ read => ?_,
        Steady.of_read fun _ _ _ read => ?_⟩
      · unfold scanOnce at read
        cases read
      · unfold scanMembers at read
        cases read
      · unfold scanElements at read
        cases read
  | succ fuel inductionHypothesis =>
      obtain ⟨once, members, elements⟩ := inductionHypothesis
      exact ⟨steady_scanOnce_succ members elements, steady_scanMembers_succ once members,
        steady_scanElements_succ once elements⟩

/-! A scan ends before its fuel does. -/

theorem scan_fuel (fuel : Nat) :
    (∀ text : Text, 2 * text.length < fuel → scanOnce (fuel + 1) text = scanOnce fuel text) ∧
      (∀ text : Text, 2 * text.length < fuel →
        scanMembers (fuel + 1) text = scanMembers fuel text) ∧
      (∀ text : Text, 2 * text.length + 1 < fuel →
        scanElements (fuel + 1) text = scanElements fuel text) := by
  induction fuel with
  | zero =>
      exact ⟨fun _ less => absurd less (Nat.not_lt_zero _),
        fun _ less => absurd less (Nat.not_lt_zero _), fun _ less => absurd less (Nat.not_lt_zero _)⟩
  | succ fuel inductionHypothesis =>
      obtain ⟨sameOnce, sameMembers, sameElements⟩ := inductionHypothesis
      refine ⟨fun text less => ?_, fun text less => ?_, fun text less => ?_⟩
      · cases text with
        | nil => rfl
        | cons character text =>
            rw [List.length_cons] at less
            rw [scanOnce, scanOnce]
            cases readNext : nextCharacter text with
            | none => rfl
            | some read =>
                obtain ⟨next, behind⟩ := read
                have shorter := steady_nextCharacter.shorter readNext
                dsimp only [Option.bind_eq_bind, Option.bind_some]
                have enough : 2 * (next :: behind).length + 1 < fuel := by
                  rw [List.length_cons]
                  omega
                rw [sameMembers _ (Nat.lt_of_succ_lt enough), sameElements _ enough]
      · cases text with
        | nil => rfl
        | cons quote text =>
            rw [List.length_cons] at less
            rw [scanMembers, scanMembers]
            cases readKey : scanString text with
            | none => rfl
            | some read =>
                obtain ⟨key, afterKey⟩ := read
                have shorterKey := steady_scanString.shorter readKey
                dsimp only [Option.bind_eq_bind, Option.bind_some]
                cases readColon : nextCharacter afterKey with
                | none => rfl
                | some read =>
                    obtain ⟨colon, afterColon⟩ := read
                    have shorterColon := steady_nextCharacter.shorter readColon
                    have skipped := skipSpaces_length afterColon
                    dsimp only [Option.bind_some]
                    rw [sameOnce (skipSpaces afterColon) (by omega)]
                    cases readValue : scanOnce fuel (skipSpaces afterColon) with
                    | none => rfl
                    | some read =>
                        obtain ⟨value, afterValue⟩ := read
                        have shorterValue := (steady_scan fuel).1.shorter readValue
                        dsimp only [Option.bind_some]
                        cases readDelimiter : nextCharacter afterValue with
                        | none => rfl
                        | some read =>
                            obtain ⟨delimiter, behind⟩ := read
                            have shorterDelimiter := steady_nextCharacter.shorter readDelimiter
                            have skippedBehind := skipSpaces_length behind
                            dsimp only [Option.bind_some]
                            rw [sameMembers (skipSpaces behind) (by omega)]
      · rw [scanElements, scanElements]
        rw [sameOnce text (by omega)]
        cases readValue : scanOnce fuel text with
        | none => rfl
        | some read =>
            obtain ⟨value, afterValue⟩ := read
            have shorterValue := (steady_scan fuel).1.shorter readValue
            dsimp only [Option.bind_eq_bind, Option.bind_some]
            cases readDelimiter : nextCharacter afterValue with
            | none => rfl
            | some read =>
                obtain ⟨delimiter, behind⟩ := read
                have shorterDelimiter := steady_nextCharacter.shorter readDelimiter
                have skippedBehind := skipSpaces_length behind
                dsimp only [Option.bind_some]
                rw [sameElements (skipSpaces behind) (by omega)]

theorem scanOnce_enough {fuel enough : Nat} {text : Text} (less : 2 * text.length < enough)
    (upTo : enough ≤ fuel) : scanOnce fuel text = scanOnce enough text := by
  induction fuel, upTo using Nat.le_induction with
  | base => rfl
  | succ fuel upTo inductionHypothesis =>
      rw [(scan_fuel fuel).1 text (by omega), inductionHypothesis]

/-! ### Documents behind one another -/

theorem loads_solid {text : Text} {value : Json} (loaded : loads text = some value) :
    skipSpaces text ≠ [] := by
  intro blank
  unfold loads at loaded
  rw [blank] at loaded
  split at loaded
  · cases loaded
  · cases loaded

/-- **A document with a further document behind it on a new line is none.** -/
theorem loads_append {text more : Text} {value : Json} (loaded : loads text = some value)
    (solid : skipSpaces more ≠ []) : loads (text ++ '\n' :: more) = none := by
  have someCharacter := loads_solid loaded
  unfold loads at loaded
  split at loaded
  · cases loaded
  · split at loaded
    · cases loaded
    · rename_i noMark read rest scanned
      split at loaded
      · rename_i blankRest
        unfold loads
        have enough : 2 * (skipSpaces text).length < 2 * text.length + 1 := by
          have length := skipSpaces_length text
          omega
        have upTo : 2 * text.length + 1 ≤ 2 * (text ++ '\n' :: more).length + 1 := by
          rw [List.length_append]
          omega
        rw [← scanOnce_enough enough upTo] at scanned
        rw [skipSpaces_append someCharacter, (steady_scan _).1.follows more scanned]
        have skipped : skipSpaces (rest ++ '\n' :: more) = skipSpaces more := by
          rw [skipSpaces, List.dropWhile_append]
          exact if_pos (List.isEmpty_iff.mpr blankRest)
        dsimp only
        rw [skipped, if_neg solid]
        split
        · rfl
        · rfl
      · cases loaded

end Json

end Tobiko.Foundation
