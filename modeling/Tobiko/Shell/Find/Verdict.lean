import Tobiko.Shell.Find.Command
import Tobiko.Shell.Find.Grammar

/-!
Contract: which files the expression of `find_files` accepts.

Owns: the arguments that the expression has, the alternatives that they are read as, and when it
accepts the files that it ought to.

Does not own: the command line and the grammar.

The names are joined with `-o` without parentheses, so that the tests before them only restrict
the first name, and those behind them only the last one.
-/

namespace Tobiko.Shell.Find

open Tobiko.Foundation Tobiko.Foundation.Shlex
open Tobiko.Shell.Sh.Command (quoteCharacter readToken_flatMap_quoteCharacter isSafe
  isPlain_of_isSafe)

/-! ### Arguments -/

section Arguments

variable {fuel : Nat} {word rest : Text}

theorem flatMap_quoteCharacter {text : Text} (free : '\'' ∉ text) :
    text.flatMap quoteCharacter = text := by
  induction text with
  | nil => rfl
  | cons character text inductionHypothesis =>
      obtain ⟨other, others⟩ := not_or.mp (fun member => free (List.mem_cons.mpr member))
      rw [List.flatMap_cons, inductionHypothesis others, quoteCharacter,
        if_neg fun same => other same.symm]
      rfl

theorem readToken_quoted {text : Text} (free : '\'' ∉ text) (rest : Text) :
    readToken false .blank [] false .blank (quoted text ++ rest) =
      readToken false .word text true .blank rest := by
  have shape : quoted text ++ rest = '\'' :: (text.flatMap quoteCharacter ++ '\'' :: rest) := by
    rw [flatMap_quoteCharacter free]
    unfold quoted
    rw [List.append_assoc]
    rfl
  rw [shape, readToken_first_quote, readToken_flatMap_quoteCharacter]
  rfl

/-- The word is read up to the blank behind it. -/
theorem readTokens_space {text : Text} {quoted : Bool} (present : word ≠ [] ∨ quoted = true)
    (reads : readToken false .blank [] false .blank (text ++ ' ' :: rest) =
      readToken false .word word quoted .blank (' ' :: rest)) :
    readTokens (fuel + 1) .blank (text ++ ' ' :: rest) =
      (readTokens fuel .blank rest).map fun tokens => tokens.map fun words => word :: words := by
  rw [readTokens, reads, readToken_space present]

theorem readTokens_last {text : Text} {quoted : Bool} (present : word ≠ [] ∨ quoted = true)
    (reads : readToken false .blank [] false .blank (text ++ []) =
      readToken false .word word quoted .blank []) :
    readTokens (fuel + 2) .blank text = some (.ok [word]) := by
  rw [List.append_nil] at reads
  rw [readTokens, reads, readToken_end present]
  rfl

theorem readToken_plainWord (solid : word ≠ []) (plain : ∀ character ∈ word, IsPlain character)
    (rest : Text) : readToken false .blank [] false .blank (word ++ rest) =
      readToken false .word word false .blank rest := by
  obtain ⟨character, text, rfl⟩ := List.exists_cons_of_ne_nil solid
  exact readToken_plain plain

/-- A test, which is a plain word, and its quoted argument. -/
theorem readTokens_test {test argument : Text} (solid : test ≠ [])
    (plain : ∀ character ∈ test, IsPlain character) (free : '\'' ∉ argument) :
    readTokens (fuel + 3) .blank (test ++ ' ' :: quoted argument) = some (.ok [test, argument]) := by
  rw [readTokens_space (.inl solid) (readToken_plainWord solid plain _),
    readTokens_last (.inr rfl) (readToken_quoted free [])]
  rfl

theorem readTokens_test_space {test argument : Text} (solid : test ≠ [])
    (plain : ∀ character ∈ test, IsPlain character) (free : '\'' ∉ argument) :
    readTokens (fuel + 2) .blank (test ++ ' ' :: (quoted argument ++ ' ' :: rest)) =
      (readTokens fuel .blank rest).map fun tokens =>
        tokens.map fun words => test :: argument :: words := by
  rw [readTokens_space (.inl solid) (readToken_plainWord solid plain _),
    readTokens_space (.inr rfl) (readToken_quoted free _), Option.map_map]
  congr 1
  funext tokens
  cases tokens with
  | error error => rfl
  | ok words => rfl

theorem isPlain_of_isSafe_all {text : Text} (safe : text.all isSafe = true) :
    ∀ character ∈ text, IsPlain character :=
  fun character member => isPlain_of_isSafe (List.all_eq_true.mp safe character member)

/-- The arguments of the names. -/
def nameWords : List Text → List Text
  | [] => []
  | [name] => ["-name".toList, name]
  | name :: names => "-name".toList :: name :: "-o".toList :: nameWords names

theorem namesText_cons (name next : Text) (names : List Text) :
    namesText (name :: next :: names) =
      "-name".toList ++ ' ' :: (quoted name ++ ' ' :: ("-o".toList ++
        ' ' :: namesText (next :: names))) := by
  have name_eq : nameText name = "-name".toList ++ ' ' :: quoted name := rfl
  have separator : " -o ".toList = ' ' :: ("-o".toList ++ [' ']) := rfl
  unfold namesText
  rw [List.map_cons, List.map_cons, List.intercalate_cons_cons, name_eq, separator]
  simp only [List.append_assoc, List.cons_append, List.nil_append]

theorem namesText_singleton (name : Text) :
    namesText [name] = "-name".toList ++ ' ' :: quoted name := by
  unfold namesText
  rw [List.map_singleton, List.intercalate_singleton]
  rfl

theorem readTokens_names {name : Text} {names : List Text}
    (free : ∀ other ∈ name :: names, '\'' ∉ other) (enough : 3 * (name :: names).length ≤ fuel) :
    readTokens fuel .blank (namesText (name :: names)) =
      some (.ok (nameWords (name :: names))) := by
  have plain : ∀ character ∈ "-name".toList, IsPlain character :=
    isPlain_of_isSafe_all (by decide)
  have plainOr : ∀ character ∈ "-o".toList, IsPlain character :=
    isPlain_of_isSafe_all (by decide)
  induction names generalizing fuel name with
  | nil =>
      obtain ⟨more, rfl⟩ : ∃ more, fuel = more + 3 := ⟨fuel - 3, by simp at enough; omega⟩
      rw [namesText_singleton]
      exact readTokens_test (by decide) plain (free name List.mem_cons_self)
  | cons next names inductionHypothesis =>
      obtain ⟨more, rfl⟩ : ∃ more, fuel = more + 3 :=
        ⟨fuel - 3, by simp only [List.length_cons] at enough; omega⟩
      have enoughRest : 3 * (next :: names).length ≤ more := by
        simp only [List.length_cons] at enough ⊢
        omega
      rw [namesText_cons, readTokens_test_space (by decide) plain (free name List.mem_cons_self),
        readTokens_space (.inl (by decide)) (readToken_plainWord (by decide) plainOr _),
        inductionHypothesis (fun other member => free other (List.mem_cons_of_mem _ member))
          enoughRest]
      rfl

theorem length_namesText (name : Text) (names : List Text) :
    3 * (name :: names).length ≤ (namesText (name :: names)).length := by
  induction names generalizing name with
  | nil =>
      rw [namesText_singleton]
      simp only [quoted, List.length_append, List.length_cons, List.length_nil]
      omega
  | cons next names inductionHypothesis =>
      have rest := inductionHypothesis next
      rw [namesText_cons]
      simp only [List.length_append, List.length_cons] at rest ⊢
      omega

theorem isSafe_integerText (number : Int) : (integerText number).all isSafe = true := by
  have digits : (Nat.toDigits 10 number.natAbs).all isSafe = true := by
    apply List.all_eq_true.mpr
    intro character member
    have digit := Nat.isDigit_of_mem_toDigits (by decide) (by decide) member
    unfold isSafe Char.isAlphanum
    rw [digit]
    simp
  unfold integerText
  split
  · rw [List.all_cons, digits]
    rfl
  · exact digits

theorem integerText_ne_nil (number : Int) : integerText number ≠ [] := by
  unfold integerText
  split
  · exact List.cons_ne_nil _ _
  · exact Nat.toDigits_ne_nil

theorem shellWords_eq {text : Text} {words : List Text}
    (reads : readTokens (text.length + 1) .blank text = some (.ok words)) :
    shellWords text = .ok words := by
  have isSplit : Sh.Command.split (text.length + 1) text = some (.ok ⟨words⟩) := by
    unfold Sh.Command.split Shlex.split
    rw [reads]
    rfl
  have read : Sh.Command.shellCommand (.line text) = .ok ⟨words⟩ := Option.get_of_eq_some _ isSplit
  unfold shellWords
  rw [read]
  rfl

theorem shellWords_test {test argument : Text} (solid : test ≠ [])
    (plain : ∀ character ∈ test, IsPlain character) (free : '\'' ∉ argument) :
    shellWords (test ++ ' ' :: quoted argument) = .ok [test, argument] := by
  apply shellWords_eq
  obtain ⟨more, enough⟩ : ∃ more, (test ++ ' ' :: quoted argument).length + 1 = more + 3 := by
    refine ⟨(test ++ ' ' :: quoted argument).length - 2, ?_⟩
    simp only [quoted, List.length_append, List.length_cons]
    omega
  rw [enough]
  exact readTokens_test solid plain free

theorem shellWords_modified (modifiedSince : ℚ) :
    shellWords (modifiedText modifiedSince) =
      .ok ["-mmin".toList, integerText (minutes modifiedSince)] := by
  have shape : modifiedText modifiedSince =
      "-mmin".toList ++ ' ' :: integerText (minutes modifiedSince) := rfl
  have plain : ∀ character ∈ "-mmin".toList, IsPlain character :=
    isPlain_of_isSafe_all (by decide)
  have plainNumber := isPlain_of_isSafe_all (isSafe_integerText (minutes modifiedSince))
  rw [shape]
  apply shellWords_eq
  obtain ⟨more, enough⟩ : ∃ more, ("-mmin".toList ++
      ' ' :: integerText (minutes modifiedSince)).length + 1 = more + 3 := by
    refine ⟨("-mmin".toList ++ ' ' :: integerText (minutes modifiedSince)).length - 2, ?_⟩
    simp only [List.length_append, List.length_cons, String.length_toList]
    have five : "-mmin".length = 5 := by decide
    omega
  rw [enough, readTokens_space (.inl (by decide)) (readToken_plainWord (by decide) plain _),
    readTokens_last (.inl (integerText_ne_nil _))
      (readToken_plainWord (integerText_ne_nil _) plainNumber _)]
  rfl

theorem optionWords_eq {Value : Type} {value : Option Value} {text : Value → Text}
    {words : Value → List Text}
    (reads : ∀ found, value = some found → shellWords (text found) = .ok (words found)) :
    optionWords (value.map text) = .ok ((value.map words).getD []) := by
  cases value with
  | none => rfl
  | some found => exact reads found rfl

end Arguments

/-! ### The arguments of the expression -/

/-- No text that is put between single quotes has one. -/
structure FindParameters.QuoteFree (parameters : FindParameters) : Prop where
  type : ∀ type, parameters.type = some type → '\'' ∉ type
  names : ∀ name ∈ parameters.names, '\'' ∉ name

def FindParameters.before (parameters : FindParameters) : List FindTest :=
  (parameters.maxDepth.map fun levels => FindTest.maxDepth (Nat.toDigits 10 levels)).toList ++
    (parameters.type.map FindTest.type).toList

def FindParameters.beforeWords (parameters : FindParameters) : List Text :=
  (parameters.maxDepth.map fun levels => ["-maxdepth".toList, Nat.toDigits 10 levels]).getD [] ++
    (parameters.type.map fun type => ["-type".toList, type]).getD []

def modifiedTest (modifiedSince : ℚ) : FindTest :=
  if minutes modifiedSince < 0 then .lessThanMinutes (minutes modifiedSince).natAbs
  else .exactlyMinutes (minutes modifiedSince).natAbs

def FindParameters.behind (parameters : FindParameters) : List FindTest :=
  (parameters.modifiedSince.map modifiedTest).toList

def FindParameters.behindWords (parameters : FindParameters) : List Text :=
  (parameters.modifiedSince.map fun modifiedSince =>
    ["-mmin".toList, integerText (minutes modifiedSince)]).getD []

def FindParameters.words (parameters : FindParameters) : List Text :=
  parameters.beforeWords ++ (nameWords parameters.names ++ parameters.behindWords)

theorem expression_eq {parameters : FindParameters} (free : parameters.QuoteFree) :
    parameters.expression = .ok parameters.words := by
  have maxDepthWords : optionWords (parameters.maxDepth.map maxDepthText) =
      .ok ((parameters.maxDepth.map fun levels =>
        ["-maxdepth".toList, Nat.toDigits 10 levels]).getD []) := by
    apply optionWords_eq
    intro levels _
    have noQuote : '\'' ∉ Nat.toDigits 10 levels := by
      intro member
      exact absurd (Nat.isDigit_of_mem_toDigits (by decide) (by decide) member) (by decide)
    exact @shellWords_test "-maxdepth".toList _ (by decide) (isPlain_of_isSafe_all (by decide)) noQuote
  have typeWords : optionWords (parameters.type.map typeText) =
      .ok ((parameters.type.map fun type => ["-type".toList, type]).getD []) := by
    apply optionWords_eq
    intro type given
    exact @shellWords_test "-type".toList _ (by decide) (isPlain_of_isSafe_all (by decide))
      (free.type type given)
  have readNames : namesWords parameters.names =
      .ok (nameWords parameters.names) := by
    have freeNames := free.names
    cases names : parameters.names with
    | nil => rfl
    | cons name others =>
        rw [names] at freeNames
        apply shellWords_eq
        apply readTokens_names freeNames
        have enough := length_namesText name others
        omega
  have modifiedWords : optionWords (parameters.modifiedSince.map modifiedText) =
      .ok ((parameters.modifiedSince.map fun modifiedSince =>
        ["-mmin".toList, integerText (minutes modifiedSince)]).getD []) :=
    optionWords_eq fun modifiedSince _ => shellWords_modified modifiedSince
  unfold FindParameters.expression
  rw [maxDepthWords, typeWords, readNames, modifiedWords]
  unfold FindParameters.words FindParameters.beforeWords FindParameters.behindWords
  rw [List.append_assoc]
  rfl

/-! ### Alternatives -/

/-- The tests before the first alternative. -/
def andAll (tests : List FindTest) (alternatives : List (List FindTest)) : List (List FindTest) :=
  tests.foldr andThen alternatives

/-- The alternatives of the names, with the tests behind the last one. -/
def named (behind : List FindTest) : List Text → List (List FindTest)
  | [] => [behind]
  | [name] => [.name name :: behind]
  | name :: names => [.name name] :: named behind names

theorem readMinutes_integerText (number : Int) :
    readMinutes (integerText number) = some (if number < 0 then .lessThanMinutes number.natAbs
      else .exactlyMinutes number.natAbs) := by
  have decimal : (Nat.toDigits 10 number.natAbs).all Text.isDecimal = true :=
    List.all_eq_true.mpr fun character member => Text.isDecimal_of_mem_toDigits member
  unfold integerText
  split
  · rw [readMinutes, if_pos rfl, if_pos ⟨Nat.toDigits_ne_nil, decimal⟩, Text.ofDigits_toDigits]
  · obtain ⟨digit, digits, shape⟩ := List.exists_cons_of_ne_nil (@Nat.toDigits_ne_nil number.natAbs 10)
    have notSign : digit ≠ '-' := by
      intro same
      have isDecimal : Text.isDecimal digit = true :=
        Text.isDecimal_of_mem_toDigits (shape ▸ List.mem_cons_self)
      rw [same] at isDecimal
      revert isDecimal
      decide
    have numbered := Text.ofDigits_toDigits number.natAbs
    rw [shape] at decimal numbered ⊢
    rw [readMinutes, if_neg notSign, if_pos decimal, numbered]

theorem readAlternatives_behind (parameters : FindParameters) :
    readAlternatives parameters.behindWords = some [parameters.behind] := by
  unfold FindParameters.behindWords FindParameters.behind
  cases parameters.modifiedSince with
  | none => rfl
  | some modifiedSince =>
      have test : readTest "-mmin".toList (integerText (minutes modifiedSince)) =
          some (modifiedTest modifiedSince) := readMinutes_integerText _
      show readAlternatives ["-mmin".toList, integerText (minutes modifiedSince)] = _
      rw [readAlternatives_test test]
      rfl

theorem readAlternatives_names {behindWords : List Text} {behind : List FindTest}
    (read : readAlternatives behindWords = some [behind]) (names : List Text) :
    readAlternatives (nameWords names ++ behindWords) = some (named behind names) := by
  have test : ∀ name, readTest "-name".toList name = some (.name name) := fun _ => rfl
  induction names with
  | nil => exact read
  | cons name names inductionHypothesis =>
      cases names with
      | nil =>
          show readAlternatives ("-name".toList :: name :: behindWords) = _
          rw [readAlternatives_test (test name), read]
          rfl
      | cons next names =>
          have first : ∃ rest, nameWords (next :: names) ++ behindWords = "-name".toList :: rest := by
            cases names with
            | nil => exact ⟨_, rfl⟩
            | cons _ _ => exact ⟨_, rfl⟩
          obtain ⟨rest, shape⟩ := first
          show readAlternatives ("-name".toList :: name :: "-o".toList ::
            (nameWords (next :: names) ++ behindWords)) = _
          rw [readAlternatives_test (test name)]
          rw [shape] at inductionHypothesis ⊢
          rw [readAlternatives_or, inductionHypothesis]
          rfl

theorem readAlternatives_words (parameters : FindParameters) :
    readAlternatives parameters.words =
      some (andAll parameters.before (named parameters.behind parameters.names)) := by
  have rest := readAlternatives_names (readAlternatives_behind parameters) parameters.names
  unfold FindParameters.words FindParameters.beforeWords FindParameters.before
  cases parameters.maxDepth with
  | none =>
      cases parameters.type with
      | none => exact rest
      | some type =>
          have test : readTest "-type".toList type = some (.type type) := rfl
          show readAlternatives ("-type".toList :: type ::
            (nameWords parameters.names ++ parameters.behindWords)) = _
          rw [readAlternatives_test test, rest]
          rfl
  | some levels =>
      have depth : readTest "-maxdepth".toList (Nat.toDigits 10 levels) =
          some (.maxDepth (Nat.toDigits 10 levels)) := rfl
      cases parameters.type with
      | none =>
          show readAlternatives ("-maxdepth".toList :: Nat.toDigits 10 levels ::
            (nameWords parameters.names ++ parameters.behindWords)) = _
          rw [readAlternatives_test depth, rest]
          rfl
      | some type =>
          have test : readTest "-type".toList type = some (.type type) := rfl
          show readAlternatives ("-maxdepth".toList :: Nat.toDigits 10 levels ::
            "-type".toList :: type ::
            (nameWords parameters.names ++ parameters.behindWords)) = _
          rw [readAlternatives_test depth, readAlternatives_test test, rest]
          rfl

theorem andAll_cons (tests first : List FindTest) (rest : List (List FindTest)) :
    andAll tests (first :: rest) = (tests ++ first) :: rest := by
  induction tests with
  | nil => rfl
  | cons test tests inductionHypothesis =>
      show andThen test (andAll tests (first :: rest)) = _
      rw [inductionHypothesis]
      rfl

/-- All the alternatives of two names and more are tests. -/
theorem nil_notMem_named (behind : List FindTest) (name next : Text) (names : List Text) :
    [] ∉ named behind (name :: next :: names) := by
  induction names generalizing name next with
  | nil => simp [named]
  | cons other names inductionHypothesis =>
      intro member
      rcases List.mem_cons.mp member with first | later
      · cases first
      · exact inductionHypothesis next other later

theorem accepts_words (parameters : FindParameters) (file : FoundFile) :
    accepts parameters.words file =
      acceptsAny file (andAll parameters.before (named parameters.behind parameters.names)) := by
  have kept : (andAll parameters.before (named parameters.behind parameters.names)).length = 1 ∨
      [] ∉ andAll parameters.before (named parameters.behind parameters.names) := by
    cases names : parameters.names with
    | nil =>
        left
        rw [named, andAll_cons]
        rfl
    | cons name others =>
        cases others with
        | nil =>
            left
            rw [named, andAll_cons]
            rfl
        | cons next others =>
            right
            have solid := nil_notMem_named parameters.behind name next others
            have shape : named parameters.behind (name :: next :: others) =
                [.name name] :: named parameters.behind (next :: others) := rfl
            rw [shape] at solid ⊢
            rw [andAll_cons, List.mem_cons, not_or]
            exact ⟨by simp, fun member => solid (List.mem_cons_of_mem _ member)⟩
  unfold accepts readExpression
  rw [readAlternatives_words, Option.filter_some, decide_eq_true kept]
  rfl

/-! ### The verdict -/

/-- The files that the parameters ask for. -/
structure FindParameters.Wanted (parameters : FindParameters) (file : FoundFile) : Prop where
  type : ∀ type, parameters.type = some type → file.type type = true
  name : parameters.names ≠ [] → ∃ name ∈ parameters.names, file.name name = true
  modified : ∀ modifiedSince, parameters.modifiedSince = some modifiedSince →
    file.age ≤ modifiedSince

/-- No time is asked for, and a type only of one name at most. -/
def FindParameters.Simple (parameters : FindParameters) : Prop :=
  parameters.modifiedSince = none ∧ (parameters.type = none ∨ parameters.names.length ≤ 1)

theorem acceptsAny_cons (file : FoundFile) (tests : List FindTest)
    (alternatives : List (List FindTest)) :
    acceptsAny file (tests :: alternatives) =
      (tests.all (fun test => test.holds file) || acceptsAny file alternatives) :=
  List.any_cons

theorem acceptsAny_named (file : FoundFile) (name : Text) (names : List Text) :
    acceptsAny file (named [] (name :: names)) = (name :: names).any file.name := by
  induction names generalizing name with
  | nil => simp [named, acceptsAny, FindTest.holds]
  | cons next names inductionHypothesis =>
      show acceptsAny file ([.name name] :: named [] (next :: names)) = _
      rw [acceptsAny_cons, inductionHypothesis, List.any_cons]
      simp [FindTest.holds]

theorem all_before (parameters : FindParameters) (file : FoundFile) :
    parameters.before.all (fun test => test.holds file) = true ↔
      ∀ type, parameters.type = some type → file.type type = true := by
  unfold FindParameters.before
  rw [List.all_append]
  cases parameters.maxDepth <;> cases parameters.type <;> simp [FindTest.holds]

/-- One name at most. -/
theorem accepts_single {parameters : FindParameters} (single : parameters.names.length ≤ 1)
    (file : FoundFile) : accepts parameters.words file = true ↔
      (∀ type, parameters.type = some type → file.type type = true) ∧
        (parameters.names ≠ [] → ∃ name ∈ parameters.names, file.name name = true) ∧
        parameters.behind.all (fun test => test.holds file) = true := by
  rw [accepts_words, ← all_before]
  cases names : parameters.names with
  | nil =>
      rw [named, andAll_cons, acceptsAny_cons, List.all_append]
      simp [acceptsAny]
  | cons name others =>
      cases others with
      | nil =>
          rw [named, andAll_cons, acceptsAny_cons, List.all_append, List.all_cons]
          simp [acceptsAny, FindTest.holds]
      | cons next others =>
          rw [names] at single
          simp at single

/-- With more names the first one is enough, of the given type, and so is any of those between,
of any type. -/
theorem accepts_several {parameters : FindParameters} {name next : Text} {others : List Text}
    (several : parameters.names = name :: next :: others) (file : FoundFile) :
    accepts parameters.words file =
      ((parameters.before ++ [FindTest.name name]).all (fun test => test.holds file) ||
        acceptsAny file (named parameters.behind (next :: others))) := by
  have shape : named parameters.behind (name :: next :: others) =
      [.name name] :: named parameters.behind (next :: others) := rfl
  rw [accepts_words, several, shape, andAll_cons, acceptsAny_cons]

theorem accepts_simple {parameters : FindParameters} (simple : parameters.Simple)
    (file : FoundFile) :
    accepts parameters.words file = true ↔ parameters.Wanted file := by
  obtain ⟨untimed, typed⟩ := simple
  have behind : parameters.behind = [] := by
    unfold FindParameters.behind
    rw [untimed]
    rfl
  have wanted : parameters.Wanted file ↔
      (∀ type, parameters.type = some type → file.type type = true) ∧
        (parameters.names ≠ [] → ∃ name ∈ parameters.names, file.name name = true) := by
    constructor
    · exact fun wanted => ⟨wanted.type, wanted.name⟩
    · exact fun both => ⟨both.1, both.2, fun _ timed => by rw [untimed] at timed; cases timed⟩
  rw [wanted]
  by_cases single : parameters.names.length ≤ 1
  · rw [accepts_single single, behind]
    simp
  · have untyped : parameters.type = none := typed.resolve_right single
    cases names : parameters.names with
    | nil =>
        rw [names] at single
        simp at single
    | cons name others =>
        cases others with
        | nil =>
            rw [names] at single
            simp at single
        | cons next others =>
            have before : parameters.before.all (fun test => test.holds file) = true := by
              rw [all_before, untyped]
              exact fun type given => by cases given
            rw [accepts_several names, behind, acceptsAny_named, List.all_append, before, untyped]
            simp [FindTest.holds]

/-- A file of any name and type, with some age. -/
def agedFile (age : ℚ) : FoundFile := ⟨fun _ => true, fun _ => true, age⟩

/-- The time is not what was asked for, at some age. -/
theorem exists_age (modifiedSince : ℚ) :
    ∃ age, (modifiedTest modifiedSince).holds (agedFile age) ≠ decide (age ≤ modifiedSince) := by
  unfold modifiedTest
  by_cases negative : minutes modifiedSince < 0
  · -- A negative number of minutes is read as an upper bound on the age.
    refine ⟨0, ?_⟩
    have below : modifiedSince < 0 := by
      by_contra above
      have nonneg : (0 : ℚ) ≤ modifiedSince / 60 := by
        apply div_nonneg
        · exact not_lt.mp above
        · norm_num
      have ceiling : 0 ≤ minutes modifiedSince := Int.ceil_nonneg nonneg
      omega
    have some_minutes : 0 < (minutes modifiedSince).natAbs := Int.natAbs_pos.mpr (by omega)
    have positive : (0 : ℚ) < 60 * ((minutes modifiedSince).natAbs : ℚ) := by
      have cast : (0 : ℚ) < ((minutes modifiedSince).natAbs : ℚ) := by exact_mod_cast some_minutes
      linarith
    rw [if_pos negative]
    show decide ((0 : ℚ) < 60 * _) ≠ decide ((0 : ℚ) ≤ modifiedSince)
    rw [decide_eq_true positive, decide_eq_false (not_le.mpr below)]
    exact Bool.noConfusion
  · -- A file that is older than the clock has no minute that is asked for.
    refine ⟨min modifiedSince (-120), ?_⟩
    have early : min modifiedSince (-120) / 60 ≤ -2 := by
      have bound : min modifiedSince (-120) ≤ -120 := min_le_right _ _
      linarith
    have floor : ⌊min modifiedSince (-120) / 60⌋ ≤ -2 := by
      have cast : ((⌊min modifiedSince (-120) / 60⌋ : Int) : ℚ) ≤ -2 :=
        (Int.floor_le _).trans early
      exact_mod_cast cast
    have other : ¬((agedFile (min modifiedSince (-120))).minute =
        ((minutes modifiedSince).natAbs : Int)) := by
      unfold FoundFile.minute agedFile
      dsimp only
      omega
    rw [if_neg negative]
    show decide (_ = _) ≠ decide (min modifiedSince (-120) ≤ modifiedSince)
    rw [decide_eq_false other, decide_eq_true (min_le_left _ _)]
    exact Bool.noConfusion

/-- **The expression of `find_files` accepts the files that are asked for if and only if no time
is asked for, and a type only of one name at most.** -/
theorem findFiles_expression_iff (parameters : FindParameters) (free : parameters.QuoteFree) :
    ∃ words, parameters.expression = .ok words ∧
      ((∀ file, accepts words file = true ↔ parameters.Wanted file) ↔ parameters.Simple) := by
  refine ⟨parameters.words, expression_eq free, ?_, fun simple => accepts_simple simple⟩
  intro right
  by_cases single : parameters.names.length ≤ 1
  · refine ⟨?_, .inr single⟩
    cases timed : parameters.modifiedSince with
    | none => rfl
    | some modifiedSince =>
        exfalso
        obtain ⟨age, wrong⟩ := exists_age modifiedSince
        have behind : parameters.behind = [modifiedTest modifiedSince] := by
          unfold FindParameters.behind
          rw [timed]
          rfl
        have same := (accepts_single single (agedFile age)).symm.trans (right (agedFile age))
        have named : parameters.names ≠ [] →
            ∃ name ∈ parameters.names, (agedFile age).name name = true := by
          intro nonempty
          exact ⟨parameters.names.head nonempty, List.head_mem nonempty, rfl⟩
        apply wrong
        rw [Bool.eq_iff_iff, decide_eq_true_eq]
        constructor
        · intro holds
          apply (same.mp ⟨fun _ _ => rfl, named, ?_⟩).modified modifiedSince timed
          rw [behind, List.all_cons, holds]
          rfl
        · intro within
          have accepted := same.mpr ⟨fun _ _ => rfl, named, fun other given => by
            rw [timed] at given
            cases given
            exact within⟩
          have tests := accepted.2.2
          rw [behind, List.all_cons, Bool.and_eq_true] at tests
          exact tests.1
  · obtain ⟨name, next, others, several⟩ : ∃ name next others,
        parameters.names = name :: next :: others := by
      cases names : parameters.names with
      | nil =>
          rw [names] at single
          simp at single
      | cons name rest =>
          cases rest with
          | nil =>
              rw [names] at single
              simp at single
          | cons next others => exact ⟨name, next, others, rfl⟩
    have untimed : parameters.modifiedSince = none := by
      cases timed : parameters.modifiedSince with
      | none => rfl
      | some modifiedSince =>
          exfalso
          have first : (parameters.before ++ [FindTest.name name]).all
              (fun test => test.holds (agedFile (modifiedSince + 1))) = true := by
            rw [List.all_append, (all_before _ _).mpr fun _ _ => rfl]
            rfl
          have accepted : accepts parameters.words (agedFile (modifiedSince + 1)) = true := by
            rw [accepts_several several, first]
            rfl
          have within := ((right _).mp accepted).modified modifiedSince timed
          have late : modifiedSince + 1 ≤ modifiedSince := within
          linarith
    refine ⟨untimed, .inl ?_⟩
    cases typed : parameters.type with
    | none => rfl
    | some type =>
        exfalso
        have behind : parameters.behind = [] := by
          unfold FindParameters.behind
          rw [untimed]
          rfl
        have accepted : accepts parameters.words ⟨fun _ => true, fun _ => false, 0⟩ = true := by
          rw [accepts_several several, behind, acceptsAny_named, List.any_cons]
          exact Bool.or_true _
        have wrongType := ((right _).mp accepted).type type typed
        cases wrongType

/-! ### The clouds files -/

/-- The parameters with which the clouds files are looked for. -/
def cloudsParameters : FindParameters where
  maxDepth := some 1
  type := some "f".toList
  name := some (.names ["clouds.yaml".toList, "clouds.yml".toList])
  modifiedSince := none

theorem cloudsParameters_quoteFree : cloudsParameters.QuoteFree where
  type := by
    intro type given
    cases given
    decide
  names := by decide

theorem findFiles_expression_iff_clouds :
    ∃ words, cloudsParameters.expression = .ok words ∧
      ((∀ file, accepts words file = true ↔ cloudsParameters.Wanted file) ↔
        cloudsParameters.Simple) :=
  findFiles_expression_iff cloudsParameters cloudsParameters_quoteFree

/-- A directory that is named like the second file is accepted. -/
theorem findFiles_accepts_directory :
    ∃ words file, cloudsParameters.expression = .ok words ∧
      accepts words file = true ∧ ¬cloudsParameters.Wanted file := by
  refine ⟨cloudsParameters.words,
    ⟨fun pattern => decide (pattern = "clouds.yml".toList), fun letters => decide (letters =
      "d".toList), 0⟩, expression_eq cloudsParameters_quoteFree, ?_, ?_⟩
  · decide +kernel
  · intro wanted
    have wrongType := wanted.type _ rfl
    revert wrongType
    decide

end Tobiko.Shell.Find
