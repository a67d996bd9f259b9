import Mathlib.Data.List.DropRight
import Mathlib.Data.List.Infix
import Mathlib.Data.List.TakeWhile

/-!
Contract: texts as lists of characters, and the methods of Python's `str` on them.

Owns: white space and decimal digits, `strip`, `split` and `rsplit` at one separator, the words of a
text, brackets around a text, the integer that is found in a text, and what these make of texts that
are put together.

Does not own: regular expressions, and the limit of the interpreter on the digits of an integer.
-/

namespace Tobiko.Foundation

abbrev Text := List Char

namespace Text

/-! ### White space -/

/-- `isspace`: the code points that `strip` and `split` treat as white space. -/
def isSpace (character : Char) : Bool :=
  let code := character.toNat
  (9 ≤ code && code ≤ 13) || (28 ≤ code && code ≤ 32) || code == 0x85 || code == 0xA0 ||
    code == 0x1680 || (0x2000 ≤ code && code ≤ 0x200A) || code == 0x2028 || code == 0x2029 ||
    code == 0x202F || code == 0x205F || code == 0x3000

/-- A text of white space only. -/
def IsBlank (text : Text) : Prop := ∀ character ∈ text, isSpace character = true

/-- A text whose first and last characters are no white space. -/
structure Trimmed (text : Text) : Prop where
  first : ∀ character, text.head? = some character → isSpace character = false
  last : ∀ character, text.getLast? = some character → isSpace character = false

instance (text : Text) : Decidable (IsBlank text) :=
  decidable_of_iff (text.all isSpace = true) List.all_eq_true

def lstrip (text : Text) : Text := text.dropWhile isSpace

def rstrip (text : Text) : Text := text.rdropWhile isSpace

def strip (text : Text) : Text := rstrip (lstrip text)

/-- `text.split()` -/
def words (text : Text) : List Text := (text.splitOnP isSpace).filter (· ≠ [])

/-- The code points at which `splitlines` ends a line. -/
def isLineBreak (character : Char) : Bool :=
  let code := character.toNat
  (10 ≤ code && code ≤ 13) || (28 ≤ code && code ≤ 30) || code == 0x85 || code == 0x2028 ||
    code == 0x2029

/-- `text.splitlines()` -/
def splitLines : Text → List Text
  | [] => []
  | '\r' :: '\n' :: rest => [] :: splitLines rest
  | character :: rest =>
      if isLineBreak character then [] :: splitLines rest
      else
        match splitLines rest with
        | [] => [[character]]
        | line :: lines => (character :: line) :: lines

theorem IsBlank.append {left right : Text} (leftBlank : IsBlank left)
    (rightBlank : IsBlank right) : IsBlank (left ++ right) := by
  intro character member
  rw [List.mem_append] at member
  exact member.elim (leftBlank character) (rightBlank character)

theorem rstrip_append {text blank : Text} (isBlank : IsBlank blank) :
    rstrip (text ++ blank) = rstrip text := by
  have reversed : ∀ character ∈ blank.reverse, isSpace character = true :=
    fun character member => isBlank character (List.mem_reverse.mp member)
  rw [rstrip, List.rdropWhile, List.reverse_append, List.dropWhile_append_of_pos reversed]
  rfl

/-- Nothing is stripped in front of a character that is no white space. -/
theorem rstrip_append_cons {character : Char} (solid : isSpace character = false)
    (text rest : Text) : rstrip (text ++ character :: rest) = text ++ character :: rstrip rest := by
  have stops : ¬isSpace character = true := by
    rw [solid]
    exact Bool.false_ne_true
  simp only [rstrip, List.rdropWhile, List.reverse_append, List.reverse_cons, List.append_assoc]
  rw [List.dropWhile_append]
  split
  · rename_i nothing
    rw [List.isEmpty_iff] at nothing
    rw [nothing, List.singleton_append, List.dropWhile_cons_of_neg stops]
    simp
  · simp

theorem rstrip_eq_nil {blank : Text} (isBlank : IsBlank blank) : rstrip blank = [] :=
  List.rdropWhile_eq_nil_iff.mpr isBlank

theorem rstrip_eq_self {text : Text}
    (last : ∀ character, text.getLast? = some character → isSpace character = false) :
    rstrip text = text := by
  refine List.rdropWhile_eq_self_iff.mpr fun nonempty => ?_
  rw [last _ (List.getLast?_eq_some_getLast nonempty)]
  exact Bool.false_ne_true

theorem lstrip_eq_self {text : Text}
    (first : ∀ character, text.head? = some character → isSpace character = false) :
    lstrip text = text := by
  cases text with
  | nil => rfl
  | cons character text =>
      refine List.dropWhile_cons_of_neg ?_
      rw [first character rfl]
      exact Bool.false_ne_true

theorem lstrip_append {blank text : Text} (isBlank : IsBlank blank) :
    lstrip (blank ++ text) = lstrip text :=
  List.dropWhile_append_of_pos isBlank

theorem trimmed_of_ends {text : Text} (first : text.head?.any isSpace = false)
    (last : text.getLast?.any isSpace = false) : Trimmed text := by
  constructor
  · intro character same
    rwa [same] at first
  · intro character same
    rwa [same] at last

theorem strip_eq_nil {blank : Text} (isBlank : IsBlank blank) : strip blank = [] := by
  have nothing : lstrip blank = [] := List.dropWhile_eq_nil_iff.mpr isBlank
  rw [strip, nothing]
  rfl

/-- Blanks around a trimmed text are taken away. -/
theorem strip_padded {left text right : Text} (leftBlank : IsBlank left)
    (rightBlank : IsBlank right) (trimmed : Trimmed text) :
    strip (left ++ text ++ right) = text := by
  cases text with
  | nil =>
      rw [List.append_nil]
      exact strip_eq_nil (leftBlank.append rightBlank)
  | cons character text =>
      have front : lstrip (left ++ (character :: text) ++ right) = character :: text ++ right := by
        rw [List.append_assoc, lstrip_append leftBlank]
        exact lstrip_eq_self fun other same => trimmed.first other same
      rw [strip, front, rstrip_append rightBlank, rstrip_eq_self trimmed.last]

theorem IsBlank.notMem {blank : Text} (isBlank : IsBlank blank) {character : Char}
    (solid : isSpace character = false) : character ∉ blank := by
  intro member
  rw [isBlank character member] at solid
  cases solid

/-- Only white space is stripped. -/
theorem mem_lstrip {text : Text} {character : Char} (member : character ∈ text)
    (solid : isSpace character = false) : character ∈ lstrip text := by
  rw [← @List.takeWhile_append_dropWhile _ isSpace text, List.mem_append] at member
  refine member.resolve_left fun skipped => ?_
  rw [List.mem_takeWhile_imp skipped] at solid
  cases solid

theorem mem_rstrip {text : Text} {character : Char} (member : character ∈ text)
    (solid : isSpace character = false) : character ∈ rstrip text := by
  rw [rstrip, List.rdropWhile, List.mem_reverse]
  exact mem_lstrip (List.mem_reverse.mpr member) solid

theorem mem_strip {text : Text} {character : Char} (member : character ∈ text)
    (solid : isSpace character = false) : character ∈ strip text :=
  mem_rstrip (mem_lstrip member solid) solid

/-! ### Brackets -/

def isBracket (character : Char) : Bool := character = ']' || character = '['

/-- `text.strip('][')` -/
def stripBrackets (text : Text) : Text := (text.dropWhile isBracket).rdropWhile isBracket

/-- A pair of brackets is stripped. -/
theorem stripBrackets_pair (inner : Text) :
    stripBrackets ('[' :: (inner ++ [']'])) = stripBrackets inner := by
  have opening : ('[' :: (inner ++ [']'])).dropWhile isBracket =
      (inner ++ [']']).dropWhile isBracket := rfl
  unfold stripBrackets
  rw [opening, List.dropWhile_append]
  split
  · rename_i allBrackets
    rw [List.isEmpty_iff.mp allBrackets]
    rfl
  · exact List.rdropWhile_concat_pos _ _ _ rfl

/-! ### Separators -/

/-- `text.split(separator, 1)`, where the separator is in the text. -/
def splitFirst (separator : Char) : Text → Option (Text × Text)
  | [] => none
  | character :: rest =>
      if character = separator then some ([], rest)
      else (splitFirst separator rest).map fun parts => (character :: parts.1, parts.2)

/-- `text.rsplit(separator, 1)`, where the separator is in the text. -/
def splitLast (separator : Char) (text : Text) : Option (Text × Text) :=
  (splitFirst separator text.reverse).map fun parts => (parts.2.reverse, parts.1.reverse)

theorem splitFirst_append {separator : Char} {left : Text} (right : Text)
    (absent : separator ∉ left) : splitFirst separator (left ++ separator :: right) =
      some (left, right) := by
  induction left with
  | nil => exact if_pos rfl
  | cons character left inductionHypothesis =>
      have other : character ≠ separator := fun same => absent (same ▸ List.mem_cons_self)
      have absentRest : separator ∉ left := fun member => absent (List.mem_cons_of_mem _ member)
      rw [List.cons_append, splitFirst, if_neg other, inductionHypothesis absentRest]
      rfl

theorem splitFirst_eq_none {separator : Char} {text : Text} (absent : separator ∉ text) :
    splitFirst separator text = none := by
  induction text with
  | nil => rfl
  | cons character text inductionHypothesis =>
      have other : character ≠ separator := fun same => absent (same ▸ List.mem_cons_self)
      have absentRest : separator ∉ text := fun member => absent (List.mem_cons_of_mem _ member)
      rw [splitFirst, if_neg other, inductionHypothesis absentRest]
      rfl

theorem splitLast_append {separator : Char} {right : Text} (left : Text)
    (absent : separator ∉ right) : splitLast separator (left ++ separator :: right) =
      some (left, right) := by
  have reversed : (left ++ separator :: right).reverse =
      right.reverse ++ separator :: left.reverse := by
    simp
  rw [splitLast, reversed, splitFirst_append _ fun member => absent (List.mem_reverse.mp member)]
  simp

theorem splitLast_eq_none {separator : Char} {text : Text} (absent : separator ∉ text) :
    splitLast separator text = none := by
  rw [splitLast, splitFirst_eq_none fun member => absent (List.mem_reverse.mp member)]
  rfl

theorem splitFirst_spec {separator : Char} {text : Text} {parts : Text × Text}
    (split : splitFirst separator text = some parts) :
    text = parts.1 ++ separator :: parts.2 ∧ separator ∉ parts.1 := by
  induction text generalizing parts with
  | nil => cases split
  | cons character text inductionHypothesis =>
      rw [splitFirst] at split
      by_cases same : character = separator
      · rw [if_pos same] at split
        cases split
        exact ⟨by rw [same, List.nil_append], List.not_mem_nil⟩
      · rw [if_neg same] at split
        obtain ⟨rest, splitRest, rfl⟩ := Option.map_eq_some_iff.mp split
        obtain ⟨whole, absent⟩ := inductionHypothesis splitRest
        refine ⟨by rw [whole, List.cons_append], ?_⟩
        rw [List.mem_cons, not_or]
        exact ⟨fun here => same here.symm, absent⟩

theorem splitLast_spec {separator : Char} {text : Text} {parts : Text × Text}
    (split : splitLast separator text = some parts) :
    text = parts.1 ++ separator :: parts.2 ∧ separator ∉ parts.2 := by
  obtain ⟨reversed, splitReversed, rfl⟩ := Option.map_eq_some_iff.mp split
  obtain ⟨whole, absent⟩ := splitFirst_spec splitReversed
  refine ⟨?_, fun member => absent (List.mem_reverse.mp member)⟩
  rw [← List.reverse_reverse text, whole]
  simp

theorem notMem_of_splitLast {separator : Char} {text : Text}
    (split : splitLast separator text = none) : separator ∉ text := by
  intro member
  have notSplit : splitFirst separator text.reverse = none := Option.map_eq_none_iff.mp split
  obtain ⟨left, right, whole, absent⟩ := List.eq_append_cons_of_mem (List.mem_reverse.mpr member)
  rw [whole, splitFirst_append right absent] at notSplit
  cases notSplit

/-- The last separator of a text is the last one of every text that ends with it. -/
theorem splitLast_append_left {separator : Char} {text : Text} {parts : Text × Text}
    (split : splitLast separator text = some parts) (front : Text) :
    splitLast separator (front ++ text) = some (front ++ parts.1, parts.2) := by
  obtain ⟨whole, absent⟩ := splitLast_spec split
  rw [whole, ← List.append_assoc, splitLast_append _ absent]

theorem intercalate_concat {separator : Char} {parts : List Text} (nonempty : parts ≠ [])
    (last : Text) : [separator].intercalate (parts ++ [last]) =
      [separator].intercalate parts ++ separator :: last := by
  induction parts with
  | nil => exact absurd rfl nonempty
  | cons part parts inductionHypothesis =>
      cases parts with
      | nil => simp
      | cons next parts =>
          rw [List.cons_append, List.intercalate_cons_of_ne_nil (by simp),
            inductionHypothesis (List.cons_ne_nil _ _),
            List.intercalate_cons_of_ne_nil (List.cons_ne_nil _ _), List.append_assoc]
          simp

theorem infix_intercalate {separator part : Text} {parts : List Text} (member : part ∈ parts) :
    part <:+: separator.intercalate parts := by
  induction parts with
  | nil => cases member
  | cons first others inductionHypothesis =>
      by_cases alone : others = []
      · subst alone
        rw [List.mem_singleton.mp member, List.intercalate_singleton]
      · rw [List.intercalate_cons_of_ne_nil alone]
        rcases List.mem_cons.mp member with rfl | inOthers
        · rw [List.append_assoc]
          exact (List.prefix_append _ _).isInfix
        · exact (inductionHypothesis inOthers).trans (List.suffix_append _ _).isInfix

theorem notMem_intercalate {separator character : Char} {parts : List Text}
    (other : character ≠ separator) (absent : ∀ part ∈ parts, character ∉ part) :
    character ∉ [separator].intercalate parts := by
  induction parts with
  | nil => exact List.not_mem_nil
  | cons part parts inductionHypothesis =>
      have notPart : character ∉ part := absent part List.mem_cons_self
      have notRest := inductionHypothesis fun next member =>
        absent next (List.mem_cons_of_mem _ member)
      cases parts with
      | nil => simpa using notPart
      | cons next parts =>
          rw [List.intercalate_cons_of_ne_nil (List.cons_ne_nil _ _), List.mem_append,
            List.mem_append, List.mem_singleton]
          rintro ((inPart | same) | inRest)
          · exact notPart inPart
          · exact other same
          · exact notRest inRest

/-- Of the parts of a text only the last one loses its blanks behind. -/
theorem splitOn_rstrip {separator : Char} {parts : List Text} {last : Text}
    (solid : isSpace separator = false) (nonempty : parts ≠ [])
    (absent : ∀ part ∈ parts ++ [last], separator ∉ part) :
    (rstrip ([separator].intercalate (parts ++ [last]))).splitOn separator =
      parts ++ [rstrip last] := by
  rw [intercalate_concat nonempty, rstrip_append_cons solid, ← intercalate_concat nonempty]
  refine List.splitOn_intercalate separator (fun part member => ?_) (by simp)
  rcases List.mem_append.mp member with inParts | isLast
  · exact absent part (List.mem_append_left _ inParts)
  · rw [List.mem_singleton.mp isLast]
    have lastAbsent : separator ∉ last := absent last (by simp)
    exact fun inside => lastAbsent ((List.rdropWhile_prefix _ _).subset inside)

/-! ### Parts of a text -/

/-- `keyword in text` -/
def contains (keyword text : Text) : Bool := text.tails.any keyword.isPrefixOf

theorem contains_iff {keyword text : Text} : contains keyword text = true ↔ keyword <:+: text := by
  rw [contains, List.any_eq_true, List.infix_iff_prefix_suffix]
  simp only [List.mem_tails, List.isPrefixOf_iff_prefix, and_comm]

/-- A text without one of the characters of a keyword does not contain it. -/
theorem not_contains_of_notMem {keyword text : Text} {character : Char}
    (inKeyword : character ∈ keyword) (absent : character ∉ text) :
    contains keyword text = false := by
  rw [Bool.eq_false_iff, Ne, contains_iff]
  exact fun inside => absent (inside.subset inKeyword)

theorem contains_of_prefix {keyword part text : Text} (within : part <+: text)
    (absent : contains keyword text = false) : contains keyword part = false := by
  rw [Bool.eq_false_iff, Ne, contains_iff] at absent ⊢
  exact fun inside => absent (inside.trans within.isInfix)

/-! ### Integers -/

/-- The zeros of the decimal digits: in each of these scripts the ten digits follow one another. -/
def decimalZeros : List Nat :=
  [0x30, 0x660, 0x6F0, 0x7C0, 0x966, 0x9E6, 0xA66, 0xAE6, 0xB66, 0xBE6, 0xC66, 0xCE6, 0xD66, 0xDE6,
    0xE50, 0xED0, 0xF20, 0x1040, 0x1090, 0x17E0, 0x1810, 0x1946, 0x19D0, 0x1A80, 0x1A90, 0x1B50,
    0x1BB0, 0x1C40, 0x1C50, 0xA620, 0xA8D0, 0xA900, 0xA9D0, 0xA9F0, 0xAA50, 0xABF0, 0xFF10,
    0x104A0, 0x10D30, 0x11066, 0x110F0, 0x11136, 0x111D0, 0x112F0, 0x11450, 0x114D0, 0x11650,
    0x116C0, 0x11730, 0x118E0, 0x11950, 0x11C50, 0x11D50, 0x11DA0, 0x16A60, 0x16AC0, 0x16B50,
    0x1D7CE, 0x1D7D8, 0x1D7E2, 0x1D7EC, 0x1D7F6, 0x1E140, 0x1E2F0, 0x1E950, 0x1FBF0]

/-- The value of a character of `\d`. -/
def decimalValue (character : Char) : Option Nat :=
  (decimalZeros.find? fun first => first ≤ character.toNat && character.toNat ≤ first + 9).map
    fun first => character.toNat - first

def isDecimal (character : Char) : Bool := (decimalValue character).isSome

/-- `int(digits)` -/
def ofDigits (digits : Text) : Nat :=
  digits.foldl (fun number digit => 10 * number + (decimalValue digit).getD 0) 0

/-- `int(digits)` for digits between which single underscores may stand. -/
def intDigits (text : Text) : Option Nat :=
  let groups := text.splitOn '_'
  if groups.all fun group => group ≠ [] && group.all isDecimal then some (ofDigits groups.flatten)
  else none

/-- `int(text)`, which raises where it is `none`. -/
def int (text : Text) : Option Int :=
  match strip text with
  | '-' :: digits => (intDigits digits).map fun number => -(number : Int)
  | '+' :: digits => (intDigits digits).map fun number => (number : Int)
  | digits => (intDigits digits).map fun number => (number : Int)

/-- The integer of the first match of `\d+`. -/
def findInteger (text : Text) : Option Nat :=
  let digits := (text.dropWhile fun character => !isDecimal character).takeWhile isDecimal
  if digits.isEmpty then none else some (ofDigits digits)

theorem decimalValue_of_isDigit {character : Char} (digit : character.isDigit = true) :
    decimalValue character = some (character.toNat - '0'.toNat) := by
  have range : 48 ≤ character.toNat ∧ character.toNat ≤ 57 := by
    simpa [Char.isDigit, UInt32.le_iff_toNat_le] using digit
  have table : decimalZeros = 0x30 :: decimalZeros.tail := rfl
  have found : (decide (0x30 ≤ character.toNat) && decide (character.toNat ≤ 0x30 + 9)) = true := by
    simp [range]
  rw [decimalValue, table, List.find?_cons, found]
  rfl

theorem isSpace_of_isDigit {character : Char} (digit : character.isDigit = true) :
    isSpace character = false := by
  have range : 48 ≤ character.toNat ∧ character.toNat ≤ 57 := by
    simpa [Char.isDigit, UInt32.le_iff_toNat_le] using digit
  simp only [isSpace, Bool.or_eq_false_iff, Bool.and_eq_false_iff, decide_eq_false_iff_not,
    beq_eq_false_iff_ne]
  omega

theorem isDecimal_of_mem_toDigits {number : Nat} {character : Char}
    (member : character ∈ Nat.toDigits 10 number) : isDecimal character = true := by
  have digit := Nat.isDigit_of_mem_toDigits (by decide) (by decide) member
  rw [isDecimal, decimalValue_of_isDigit digit]
  rfl

theorem ofDigits_toDigits (number : Nat) : ofDigits (Nat.toDigits 10 number) = number := by
  have same : ∀ (digits : Text) (start : Nat), (∀ digit ∈ digits, digit.isDigit = true) →
      digits.foldl (fun number digit => 10 * number + (decimalValue digit).getD 0) start =
        Nat.ofDigitChars 10 digits start := by
    intro digits
    induction digits with
    | nil => intro start _; exact Nat.ofDigitChars_nil.symm
    | cons digit digits inductionHypothesis =>
        intro start allDigits
        rw [List.foldl_cons, Nat.ofDigitChars_cons,
          decimalValue_of_isDigit (allDigits digit List.mem_cons_self)]
        exact inductionHypothesis _ fun other member =>
          allDigits other (List.mem_cons_of_mem _ member)
  rw [ofDigits, same _ _ fun digit => Nat.isDigit_of_mem_toDigits (by decide) (by decide)]
  exact Nat.ofDigitChars_ten_toDigits

theorem int_toDigits (number : Nat) : int (Nat.toDigits 10 number) = some (number : Int) := by
  have digits : ∀ character ∈ Nat.toDigits 10 number, character.isDigit = true :=
    fun character member => Nat.isDigit_of_mem_toDigits (by decide) (by decide) member
  have trimmed : Trimmed (Nat.toDigits 10 number) := by
    constructor
    · intro character same
      exact isSpace_of_isDigit (digits character (List.mem_of_mem_head? same))
    · intro character same
      exact isSpace_of_isDigit (digits character (List.mem_of_mem_getLast? same))
  have stripped : strip (Nat.toDigits 10 number) = Nat.toDigits 10 number := by
    rw [strip, lstrip_eq_self trimmed.first, rstrip_eq_self trimmed.last]
  have oneGroup : (Nat.toDigits 10 number).splitOn '_' = [Nat.toDigits 10 number] := by
    have split : (['_'].intercalate [Nat.toDigits 10 number]).splitOn '_' =
        [Nat.toDigits 10 number] := by
      refine List.splitOn_intercalate '_' (fun part member inside => ?_) (by simp)
      rw [List.mem_singleton.mp member] at inside
      exact absurd (digits '_' inside) (by decide)
    simpa using split
  have read : intDigits (Nat.toDigits 10 number) = some number := by
    have decimal : ∀ character ∈ Nat.toDigits 10 number, isDecimal character = true :=
      fun character member => isDecimal_of_mem_toDigits member
    simpa [intDigits, oneGroup, Nat.toDigits_ne_nil, ofDigits_toDigits] using decimal
  unfold int
  rw [stripped]
  split
  · rename_i rest shape
    exact absurd (digits '-' (by rw [shape]; exact List.mem_cons_self)) (by decide)
  · rename_i rest shape
    exact absurd (digits '+' (by rw [shape]; exact List.mem_cons_self)) (by decide)
  · rw [read]
    rfl

/-- The integer that is written behind a text without digits is found. -/
theorem findInteger_append {left right : Text} (number : Nat)
    (leftQuiet : left.any isDecimal = false) (rightQuiet : right.head?.any isDecimal = false) :
    findInteger (left ++ Nat.toDigits 10 number ++ right) = some number := by
  have skipped : ((left ++ Nat.toDigits 10 number ++ right).dropWhile
      fun character => !isDecimal character) = Nat.toDigits 10 number ++ right := by
    have quiet : ∀ character ∈ left, (!isDecimal character) = true := by
      simpa using leftQuiet
    rw [List.append_assoc, List.dropWhile_append_of_pos quiet]
    obtain ⟨digit, digits, shape⟩ := List.exists_cons_of_ne_nil
      (@Nat.toDigits_ne_nil number 10)
    have isDigit : isDecimal digit = true :=
      isDecimal_of_mem_toDigits (shape ▸ List.mem_cons_self)
    rw [shape]
    exact List.dropWhile_cons_of_neg (by rw [isDigit]; exact Bool.false_ne_true)
  have taken : (Nat.toDigits 10 number ++ right).takeWhile isDecimal = Nat.toDigits 10 number := by
    rw [List.takeWhile_append_of_pos fun character member => isDecimal_of_mem_toDigits member]
    cases right with
    | nil => rw [List.takeWhile_nil, List.append_nil]
    | cons character right =>
        have stops : ¬isDecimal character = true := by
          rw [show isDecimal character = false from rightQuiet]
          exact Bool.false_ne_true
        rw [List.takeWhile_cons_of_neg stops, List.append_nil]
  have nonempty : (Nat.toDigits 10 number).isEmpty = false :=
    List.isEmpty_eq_false_iff.mpr Nat.toDigits_ne_nil
  unfold findInteger
  simp only [skipped, taken, nonempty, if_false, Bool.false_eq_true, ofDigits_toDigits]

/-! ### Lines -/

/-- What ends a line closes it. -/
theorem splitLines_append_ending {line behind : Text} {others : List Text}
    (oneLine : line.any isLineBreak = false) (ends : splitLines behind = [] :: others) :
    splitLines (line ++ behind) = line :: others := by
  induction line with
  | nil => exact ends
  | cons character line inductionHypothesis =>
      rw [List.any_cons, Bool.or_eq_false_iff] at oneLine
      obtain ⟨noBreak, oneLine⟩ := oneLine
      rw [List.cons_append, splitLines, if_neg (Bool.eq_false_iff.mp noBreak),
        inductionHypothesis oneLine]
      rintro _ rfl _
      exact Bool.noConfusion noBreak

theorem splitLines_append_line {line : Text} (oneLine : line.any isLineBreak = false)
    (rest : Text) : splitLines (line ++ '\n' :: rest) = line :: splitLines rest :=
  splitLines_append_ending oneLine rfl

theorem splitLines_line {line : Text} (oneLine : line.any isLineBreak = false)
    (nonempty : line ≠ []) : splitLines line = [line] := by
  induction line with
  | nil => exact absurd rfl nonempty
  | cons character line inductionHypothesis =>
      rw [List.any_cons, Bool.or_eq_false_iff] at oneLine
      obtain ⟨noBreak, oneLine⟩ := oneLine
      rw [splitLines, if_neg (Bool.eq_false_iff.mp noBreak)]
      · cases line with
        | nil => rfl
        | cons next line => rw [inductionHypothesis oneLine (List.cons_ne_nil _ _)]
      · rintro _ rfl _
        exact Bool.noConfusion noBreak

/-- Lines that are joined by line feeds are split again. -/
theorem splitLines_intercalate {lines : List Text}
    (areLines : ∀ line ∈ lines, line ≠ [] ∧ line.any isLineBreak = false) :
    splitLines (['\n'].intercalate lines) = lines := by
  induction lines with
  | nil => rfl
  | cons line lines inductionHypothesis =>
      obtain ⟨nonempty, oneLine⟩ := areLines line List.mem_cons_self
      have others := inductionHypothesis fun other member =>
        areLines other (List.mem_cons_of_mem _ member)
      cases lines with
      | nil =>
          rw [List.intercalate_singleton]
          exact splitLines_line oneLine nonempty
      | cons second lines =>
          rw [List.intercalate_cons_cons, List.append_assoc, List.singleton_append,
            splitLines_append_line oneLine, others]

theorem splitLines_crlf {line : Text} (oneLine : line.any isLineBreak = false) (rest : Text) :
    splitLines (line ++ '\r' :: '\n' :: rest) = line :: splitLines rest :=
  splitLines_append_ending oneLine rfl

/-- The lines, each with its ending. -/
def endedText (ending : Text) (lines : List Text) : Text := lines.flatMap (· ++ ending)

/-- What is behind lines that are ended is split on its own. -/
theorem splitLines_endedText_append {ending : Text}
    (isEnding : ending = ['\n'] ∨ ending = ['\r', '\n']) {lines : List Text}
    (areLines : ∀ line ∈ lines, line.any isLineBreak = false) (rest : Text) :
    splitLines (endedText ending lines ++ rest) = lines ++ splitLines rest := by
  induction lines with
  | nil => rfl
  | cons line lines inductionHypothesis =>
      have others := inductionHypothesis fun other member =>
        areLines other (List.mem_cons_of_mem _ member)
      have oneLine := areLines line List.mem_cons_self
      unfold endedText at others ⊢
      rw [List.flatMap_cons, List.append_assoc, List.append_assoc, List.cons_append]
      obtain rfl | rfl := isEnding
      · rw [List.singleton_append, splitLines_append_line oneLine, others]
      · rw [List.cons_append, List.singleton_append, splitLines_crlf oneLine, others]

theorem splitLines_endedText {ending : Text} (isEnding : ending = ['\n'] ∨ ending = ['\r', '\n'])
    {lines : List Text} (areLines : ∀ line ∈ lines, line.any isLineBreak = false) :
    splitLines (endedText ending lines) = lines := by
  have split := splitLines_endedText_append isEnding areLines []
  rwa [List.append_nil, splitLines, List.append_nil] at split

end Text

end Tobiko.Foundation
