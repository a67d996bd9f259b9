import Mathlib.Data.Rat.Defs
import Mathlib.Algebra.Order.Ring.Rat
import Mathlib.Tactic.NormNum
import Tobiko.Foundation.Text

/-!
Contract: JSON documents, and how Python's `json.loads` reads a text.

Owns: the values of a document, the arithmetic of its numbers, and the scanner with its literals,
escapes and numbers.

Does not own: the rounding of a number to a machine float, the limits of the interpreter on the
nesting of a document and on the digits of an integer, and what follows for several documents.
-/

namespace Tobiko.Foundation

namespace Json

/-- A number of Python: `json` also reads the three floats that are no rational. -/
inductive Number where
  | finite (value : ℚ)
  | nan
  | infinity (negative : Bool)
  deriving DecidableEq, Repr

namespace Number

def add : Number → Number → Number
  | finite left, finite right => finite (left + right)
  | nan, _ => nan
  | _, nan => nan
  | infinity left, infinity right => if left = right then infinity left else nan
  | infinity left, finite _ => infinity left
  | finite _, infinity right => infinity right

def neg : Number → Number
  | finite value => finite (-value)
  | nan => nan
  | infinity negative => infinity (!negative)

def sub (left right : Number) : Number := left.add right.neg

def less : Number → Number → Bool
  | finite left, finite right => decide (left < right)
  | nan, _ => false
  | _, nan => false
  | infinity left, infinity right => left && !right
  | infinity left, finite _ => left
  | finite _, infinity right => !right

def lessEqual : Number → Number → Bool
  | finite left, finite right => decide (left ≤ right)
  | nan, _ => false
  | _, nan => false
  | infinity left, infinity right => left || !right
  | infinity left, finite _ => left
  | finite _, infinity right => !right

@[simp] theorem add_finite (left right : ℚ) :
    (finite left).add (finite right) = finite (left + right) := rfl

@[simp] theorem sub_finite (left right : ℚ) :
    (finite left).sub (finite right) = finite (left - right) := by
  rw [sub_eq_add_neg]
  rfl

@[simp] theorem less_finite (left right : ℚ) :
    (finite left).less (finite right) = decide (left < right) := rfl

end Number

end Json

/-- A document. A string is the list of its code points, since an escape may spell one half of a
surrogate pair. -/
inductive Json where
  | null
  | bool (value : Bool)
  | number (value : Json.Number)
  | string (codes : List Nat)
  | array (elements : List Json)
  | object (members : List (List Nat × Json))

namespace Json

/-! ### Equality -/

mutual

def same : Json → Json → Bool
  | null, null => true
  | bool left, bool right => left == right
  | number left, number right => left == right
  | string left, string right => left == right
  | array left, array right => sameElements left right
  | object left, object right => sameMembers left right
  | _, _ => false

def sameElements : List Json → List Json → Bool
  | [], [] => true
  | left :: lefts, right :: rights => same left right && sameElements lefts rights
  | _, _ => false

def sameMembers : List (List Nat × Json) → List (List Nat × Json) → Bool
  | [], [] => true
  | (leftKey, left) :: lefts, (rightKey, right) :: rights =>
      leftKey == rightKey && (same left right && sameMembers lefts rights)
  | _, _ => false

end

mutual

theorem same_iff : ∀ left right : Json, same left right = true ↔ left = right
  | null, right => by cases right <;> simp [same]
  | bool _, right => by cases right <;> simp [same]
  | number _, right => by cases right <;> simp [same]
  | string _, right => by cases right <;> simp [same]
  | array elements, right => by cases right <;> simp [same, sameElements_iff elements]
  | object members, right => by cases right <;> simp [same, sameMembers_iff members]

theorem sameElements_iff : ∀ left right : List Json, sameElements left right = true ↔ left = right
  | [], right => by cases right <;> simp [sameElements]
  | element :: elements, right => by
      cases right <;> simp [sameElements, same_iff element, sameElements_iff elements]

theorem sameMembers_iff :
    ∀ left right : List (List Nat × Json), sameMembers left right = true ↔ left = right
  | [], right => by cases right <;> simp [sameMembers]
  | (key, value) :: members, right => by
      cases right with
      | nil => simp [sameMembers]
      | cons other others =>
          obtain ⟨otherKey, otherValue⟩ := other
          simp [sameMembers, same_iff value, sameMembers_iff members, and_assoc]

end

instance : DecidableEq Json := fun left right => decidable_of_iff _ (same_iff left right)

/-! ### Members -/

def codes (text : Text) : List Nat := text.map Char.toNat

/-- The member of a `dict` under a key: of two members with one key the last counts. -/
def member (members : List (List Nat × Json)) (key : Text) : Option Json :=
  (members.reverse.find? fun entry => entry.1 = codes key).map Prod.snd

inductive AccessError where
  | attributeError
  | keyError (key : Text)
  | typeError
  deriving DecidableEq, Repr

section Access

variable {Error : Type} (raised : AccessError → Error)

/-- `value[key]` -/
def getItem (value : Json) (key : Text) : Except Error Json :=
  match value with
  | object members =>
      match member members key with
      | none => .error (raised (.keyError key))
      | some value => .ok value
  | _ => .error (raised .typeError)

/-- `value.get(key)` -/
def get (value : Json) (key : Text) : Except Error (Option Json) :=
  match value with
  | object members => .ok (member members key)
  | _ => .error (raised .attributeError)

end Access

/-! ### White space -/

def isSpace (character : Char) : Bool :=
  character = ' ' || character = '\t' || character = '\n' || character = '\r'

def skipSpaces (text : Text) : Text := text.dropWhile isSpace

/-- The next character that is no white space. -/
def nextCharacter (text : Text) : Option (Char × Text) :=
  match skipSpaces text with
  | [] => none
  | character :: rest => some (character, rest)

/-! ### Strings -/

/-- Where the scanner is in a string: among its characters, behind a backslash, or in an escape of
hexadecimal digits of which some are left. -/
inductive StringPlace where
  | plain
  | escape
  | hexadecimal (left : Nat) (code : Nat)

def hexDigit (character : Char) : Option Nat :=
  if character.isDigit then some (character.toNat - 48)
  else if 'a' ≤ character ∧ character ≤ 'f' then some (character.toNat - 87)
  else if 'A' ≤ character ∧ character ≤ 'F' then some (character.toNat - 55)
  else none

def simpleEscape (character : Char) : Option Nat :=
  match character with
  | '"' => some 34
  | '\\' => some 92
  | '/' => some 47
  | 'b' => some 8
  | 'f' => some 12
  | 'n' => some 10
  | 'r' => some 13
  | 't' => some 9
  | _ => none

/-- The code points up to the closing quote, each with whether `\u` spelled it. -/
def scanCharacters : StringPlace → Text → Option (List (Nat × Bool) × Text)
  | _, [] => none
  | .plain, character :: rest =>
      if character = '"' then some ([], rest)
      else if character = '\\' then scanCharacters .escape rest
      else if character.toNat < 32 then none
      else (scanCharacters .plain rest).map fun scanned =>
        ((character.toNat, false) :: scanned.1, scanned.2)
  | .escape, character :: rest =>
      if character = 'u' then scanCharacters (.hexadecimal 3 0) rest
      else
        match simpleEscape character with
        | none => none
        | some code => (scanCharacters .plain rest).map fun scanned =>
            ((code, false) :: scanned.1, scanned.2)
  | .hexadecimal left code, character :: rest =>
      match hexDigit character with
      | none => none
      | some digit =>
          match left with
          | 0 => (scanCharacters .plain rest).map fun scanned =>
              ((16 * code + digit, true) :: scanned.1, scanned.2)
          | left + 1 => scanCharacters (.hexadecimal left (16 * code + digit)) rest

def isHighSurrogate (code : Nat) : Bool := 0xD800 ≤ code && code ≤ 0xDBFF

def isLowSurrogate (code : Nat) : Bool := 0xDC00 ≤ code && code ≤ 0xDFFF

/-- Two escapes that spell the halves of a surrogate pair are one code point. -/
def joinSurrogates : List (Nat × Bool) → List Nat
  | [] => []
  | [(code, _)] => [code]
  | (code, escaped) :: (next, nextEscaped) :: rest =>
      if escaped && nextEscaped && isHighSurrogate code && isLowSurrogate next then
        (0x10000 + (code - 0xD800) * 0x400 + (next - 0xDC00)) :: joinSurrogates rest
      else code :: joinSurrogates ((next, nextEscaped) :: rest)

/-- `scanstring`, behind the opening quote. -/
def scanString (text : Text) : Option (List Nat × Text) :=
  (scanCharacters .plain text).map fun scanned => (joinSurrogates scanned.1, scanned.2)

/-! ### Numbers -/

/-- The digits at the start of a text. -/
def scanDigits (text : Text) : Text × Text :=
  (text.takeWhile Char.isDigit, text.dropWhile Char.isDigit)

/-- `0|[1-9][0-9]*` -/
def scanNatural (text : Text) : Option (Nat × Text) :=
  match text with
  | [] => none
  | character :: rest =>
      if character = '0' then some (0, rest)
      else if character.isDigit then
        some (Text.ofDigits (scanDigits text).1, (scanDigits text).2)
      else none

/-- `(\.[0-9]+)?` -/
def scanFraction (text : Text) : ℚ × Text :=
  match text with
  | [] => (0, text)
  | character :: rest =>
      if character = '.' ∧ (scanDigits rest).1 ≠ [] then
        (Text.ofDigits (scanDigits rest).1 / 10 ^ (scanDigits rest).1.length, (scanDigits rest).2)
      else (0, text)

/-- `[-+]?` -/
def scanSign (text : Text) : Bool × Text :=
  match text with
  | [] => (false, text)
  | character :: rest =>
      if character = '-' then (true, rest) else if character = '+' then (false, rest)
      else (false, text)

/-- `([eE][-+]?[0-9]+)?` -/
def scanExponent (text : Text) : ℤ × Text :=
  match text with
  | [] => (0, text)
  | character :: rest =>
      let (negative, unsigned) := scanSign rest
      let (digits, after) := scanDigits unsigned
      if (character = 'e' ∨ character = 'E') ∧ digits ≠ [] then
        (if negative then -(Text.ofDigits digits : ℤ) else Text.ofDigits digits, after)
      else (0, text)

/-- A number without its sign. -/
def scanUnsigned (text : Text) : Option (ℚ × Text) :=
  (scanNatural text).map fun (whole, afterWhole) =>
    let (fraction, afterFraction) := scanFraction afterWhole
    let (exponent, rest) := scanExponent afterFraction
    ((whole + fraction) * 10 ^ exponent, rest)

/-! ### Documents -/

/-- The values that are spelled as one word. -/
def words : List (Text × Json) :=
  [("null".toList, null), ("true".toList, bool true), ("false".toList, bool false),
    ("NaN".toList, number .nan), ("Infinity".toList, number (.infinity false)),
    ("-Infinity".toList, number (.infinity true))]

/-- What is behind a word that starts a text. -/
def scanWord (word text : Text) : Option Text :=
  if word.isPrefixOf text then some (text.drop word.length) else none

def scanNumber (text : Text) : Option (Json × Text) :=
  match text with
  | [] => none
  | character :: rest =>
      if character = '-' then
        (scanUnsigned rest).map fun scanned => (number (.finite (-scanned.1)), scanned.2)
      else
        (scanUnsigned text).map fun scanned => (number (.finite scanned.1), scanned.2)

/-- The values that are spelled as one word or as one number. -/
def scanAtom (text : Text) : Option (Json × Text) :=
  (words.findSome? fun word => (scanWord word.1 text).map (word.2, ·)).or (scanNumber text)

mutual

/-- `scan_once` -/
def scanOnce : Nat → Text → Option (Json × Text)
  | 0, _ => none
  | _ + 1, [] => none
  | fuel + 1, character :: rest =>
      if character = '"' then (scanString rest).map fun (codes, rest) => (string codes, rest)
      else if character = '\x7b' then do
        let (next, behind) ← nextCharacter rest
        if next = '\x7d' then some (object [], behind)
        else
          let (members, rest) ← scanMembers fuel (next :: behind)
          some (object members, rest)
      else if character = '[' then do
        let (next, behind) ← nextCharacter rest
        if next = ']' then some (array [], behind)
        else
          let (elements, rest) ← scanElements fuel (next :: behind)
          some (array elements, rest)
      else scanAtom (character :: rest)

/-- The members of an object that has some. -/
def scanMembers : Nat → Text → Option (List (List Nat × Json) × Text)
  | 0, _ => none
  | _ + 1, [] => none
  | fuel + 1, quote :: rest =>
      if quote = '"' then do
        let (key, rest) ← scanString rest
        let (colon, rest) ← nextCharacter rest
        if colon = ':' then
          let (value, rest) ← scanOnce fuel (skipSpaces rest)
          let (delimiter, rest) ← nextCharacter rest
          if delimiter = '\x7d' then some ([(key, value)], rest)
          else if delimiter = ',' then
            let (members, rest) ← scanMembers fuel (skipSpaces rest)
            some ((key, value) :: members, rest)
          else none
        else none
      else none

/-- The elements of an array that has some. -/
def scanElements : Nat → Text → Option (List Json × Text)
  | 0, _ => none
  | fuel + 1, text => do
      let (value, rest) ← scanOnce fuel text
      let (delimiter, rest) ← nextCharacter rest
      if delimiter = ']' then some ([value], rest)
      else if delimiter = ',' then
        let (elements, rest) ← scanElements fuel (skipSpaces rest)
        some (value :: elements, rest)
      else none

end

/-- `json.loads(text)`: `none` where it raises `JSONDecodeError`. -/
def loads (text : Text) : Option Json :=
  if text.head? = some (Char.ofNat 0xFEFF) then none
  else
    match scanOnce (2 * text.length + 1) (skipSpaces text) with
    | none => none
    | some (value, rest) => if skipSpaces rest = [] then some value else none

example :
    loads "\x7b\"a\": [1, -2.5e1, NaN, \"\\ud83d\\ude00\"], \"a\": null\x7d\n".toList =
      some (object [(codes "a".toList, array [number (.finite 1), number (.finite (-25)),
        number .nan, string [0x1F600]]), (codes "a".toList, null)]) := by
  decide +kernel

end Json

end Tobiko.Foundation
