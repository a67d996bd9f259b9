import Tobiko.Foundation.Text
import Tobiko.Shell.Ping.Statistics

/-!
Contract: the statistics that are read from the output of ping.

Owns: the parsers of the header and of the footer, which share the lines that are left, and exactly
when the first footer of an output is counted.

Does not own: how an address is read, and the output of the ping command.
-/

namespace Tobiko.Shell.Ping

open Tobiko.Foundation Tobiko.Foundation.Text

/-- Why a header is not parsed. -/
inductive HeaderError (AddressError : Type) where
  | notFound
  | indexError
  | stopIteration
  | address (error : AddressError)
  deriving DecidableEq

inductive FooterError where
  | notFound
  | stopIteration
  deriving DecidableEq

/-- The numbers of a footer. -/
structure FooterCounts where
  transmitted : ℕ
  received : ℕ
  errors : ℕ
  deriving DecidableEq

/-- The first of the lines that is accepted, and those behind it. -/
def findLine (accepts : Text → Bool) : List Text → Option (Text × List Text)
  | [] => none
  | line :: rest => if accepts line then some (line, rest) else findLine accepts rest

def isHeader (line : Text) : Bool := "PING ".toList.isPrefixOf line

def isFooter (line : Text) : Bool :=
  "--- ".toList.isPrefixOf line && " ping statistics ---".toList.isSuffixOf line

def dropColon (field : Text) : Text :=
  if field.getLast? = some ':' then field.dropLast else field

/-- The field behind `from`. -/
def sourceField {AddressError : Type} : List Text → Except (HeaderError AddressError) (Option Text)
  | [] => .ok none
  | field :: rest =>
      if field = "from".toList then
        match rest with
        | [] => .error .stopIteration
        | source :: _ => .ok (some (dropColon (strip source)))
      else sourceField rest

section Parsers

variable {Address AddressError : Type} (ipAddress : Text → Except AddressError Address)

def parseHeaderLine (header : Text) :
    Except (HeaderError AddressError) (Option Address × Address) := do
  let fields := (words header).map fun field => dropColon (strip field)
  match fields[2]? with
  | none => .error .indexError
  | some field =>
      let destination ← (ipAddress ((field.dropWhile (· == '(')).rdropWhile (· == ')'))).mapError
        .address
      match ← sourceField (fields.drop 3) with
      | none => return (none, destination)
      | some source => return (some (← (ipAddress source).mapError .address), destination)

/-- `parse_ping_header`, with the lines that it leaves to the footer. -/
def parsePingHeader (lines : List Text) :
    Except (HeaderError AddressError) (Option Address × Address) × List Text :=
  match findLine isHeader lines with
  | none => (.error .notFound, [])
  | some (header, rest) => (parseHeaderLine ipAddress header, rest)

/-- What one field of the footer changes. -/
def countField (counts : FooterCounts) (field : Text) : FooterCounts :=
  if contains "transmitted".toList field then
    { counts with transmitted := (findInteger field).getD counts.transmitted }
  else if contains "received".toList field then
    { counts with received := (findInteger field).getD counts.received }
  else if contains "error".toList field then
    { counts with errors := (findInteger field).getD counts.errors }
  else counts

def parsePingFooter (lines : List Text) : Except FooterError FooterCounts :=
  match findLine isFooter lines with
  | none => .error .notFound
  | some (_, []) => .error .stopIteration
  | some (_, footer :: _) => .ok (((strip footer).splitOn ',').foldl countField ⟨0, 0, 0⟩)

/-- The numbers of the first footer of the lines; zeros where it is not parsed. -/
def footerCounts (lines : List Text) : FooterCounts :=
  match parsePingFooter lines with
  | .ok counts => counts
  | .error _ => ⟨0, 0, 0⟩

def parsePingStatistics (output : Text) (beginInterval endInterval : Option ℚ) :
    PingStatistics Address :=
  let lines := output.splitOn '\n'
  let (header, rest) := parsePingHeader ipAddress lines
  let counts := footerCounts rest
  { source := header.toOption.bind Prod.fst
    destination := header.toOption.map Prod.snd
    transmitted := counts.transmitted
    received := counts.received
    undelivered := counts.errors
    beginInterval
    endInterval }

end Parsers

/-! ### The lines that are left to the footer -/

/-- The lines behind the first header; none of them without a header. -/
def afterHeader (lines : List Text) : List Text :=
  match findLine isHeader lines with
  | none => []
  | some (_, rest) => rest

theorem findLine_append_of_mem {accepts : Text → Bool} {before : List Text} (behind : List Text)
    (present : ∃ line ∈ before, accepts line = true) :
    ∃ header rest, rest <:+ before ∧
      findLine accepts (before ++ behind) = some (header, rest ++ behind) := by
  induction before with
  | nil => obtain ⟨line, member, -⟩ := present; cases member
  | cons line before inductionHypothesis =>
      by_cases accepted : accepts line = true
      · exact ⟨line, before, List.suffix_cons line before, if_pos accepted⟩
      · have presentRest : ∃ line ∈ before, accepts line = true := by
          obtain ⟨other, member, otherAccepted⟩ := present
          rcases List.mem_cons.mp member with rfl | member
          · exact absurd otherAccepted accepted
          · exact ⟨other, member, otherAccepted⟩
        obtain ⟨header, rest, suffix, found⟩ := inductionHypothesis presentRest
        refine ⟨header, rest, suffix.trans (List.suffix_cons line before), ?_⟩
        rw [List.cons_append, findLine, if_neg accepted, found]

theorem findLine_append_of_forall {accepts : Text → Bool} {before : List Text}
    (behind : List Text) (absent : ∀ line ∈ before, accepts line = false) :
    findLine accepts (before ++ behind) = findLine accepts behind := by
  induction before with
  | nil => rfl
  | cons line before inductionHypothesis =>
      have refused : ¬accepts line = true := by
        rw [absent line List.mem_cons_self]
        exact Bool.false_ne_true
      rw [List.cons_append, findLine, if_neg refused]
      exact inductionHypothesis fun other member => absent other (List.mem_cons_of_mem _ member)

/-! ### The footer that ping writes -/

/-- A footer: the host, the numbers and the fields between and behind them. -/
structure Footer where
  host : Text
  transmitted : ℕ
  received : ℕ
  between : List Text
  errors : Option ℕ
  behind : List Text

/-- A field that names none of the numbers. -/
structure Quiet (field : Text) : Prop where
  noComma : ',' ∉ field
  noNewline : '\n' ∉ field
  noTransmitted : contains "transmitted".toList field = false
  noReceived : contains "received".toList field = false
  noError : contains "error".toList field = false

namespace Footer

def transmittedField (footer : Footer) : Text :=
  Nat.toDigits 10 footer.transmitted ++ " packets transmitted".toList

def receivedField (footer : Footer) : Text :=
  " ".toList ++ Nat.toDigits 10 footer.received ++ " received".toList

def errorField (errors : ℕ) : Text := " +".toList ++ Nat.toDigits 10 errors ++ " errors".toList

/-- The fields behind the first one. -/
def otherFields (footer : Footer) : List Text :=
  footer.receivedField :: (footer.between ++ footer.errors.toList.map errorField ++ footer.behind)

/-- The line with the host, and the one with the numbers. -/
def lines (footer : Footer) : List Text :=
  ["--- ".toList ++ footer.host ++ " ping statistics ---".toList,
    [','].intercalate (footer.transmittedField :: footer.otherFields)]

structure WellFormed (footer : Footer) : Prop where
  host : '\n' ∉ footer.host
  between : ∀ field ∈ footer.between, Quiet field
  behind : ∀ field ∈ footer.behind, Quiet field

def counts (footer : Footer) : FooterCounts :=
  ⟨footer.transmitted, footer.received, footer.errors.getD 0⟩

end Footer

/-! ### The fields of a footer -/

theorem countField_quiet (counts : FooterCounts) {field : Text} (quiet : Quiet field) :
    countField counts field = counts := by
  simp only [countField, quiet.noTransmitted, quiet.noReceived, quiet.noError, if_false,
    Bool.false_eq_true]

/-- A character beside a number that is none of its digits. -/
theorem notMem_numbered {left right : Text} (number : ℕ) {character : Char}
    (noDigit : character.isDigit = false) (notLeft : character ∉ left)
    (notRight : character ∉ right) : character ∉ left ++ Nat.toDigits 10 number ++ right := by
  intro member
  rw [List.mem_append, List.mem_append] at member
  rcases member with (inLeft | inDigits) | inRight
  · exact notLeft inLeft
  · rw [Nat.isDigit_of_mem_toDigits (by decide) (by decide) inDigits] at noDigit
    cases noDigit
  · exact notRight inRight

theorem countField_transmittedField (counts : FooterCounts) (footer : Footer) :
    countField counts footer.transmittedField =
      { counts with transmitted := footer.transmitted } := by
  have named : contains "transmitted".toList footer.transmittedField = true :=
    contains_iff.mpr (List.suffix_append_of_suffix ⟨" packets ".toList, by decide⟩).isInfix
  have found : findInteger footer.transmittedField = some footer.transmitted := by
    rw [Footer.transmittedField, ← List.nil_append (Nat.toDigits 10 footer.transmitted)]
    exact findInteger_append _ rfl (by decide)
  simp only [countField, named, found, if_true, Option.getD_some]

theorem countField_receivedField (counts : FooterCounts) (footer : Footer) :
    countField counts footer.receivedField = { counts with received := footer.received } := by
  have noTransmitted : contains "transmitted".toList footer.receivedField = false :=
    not_contains_of_notMem (by decide : 't' ∈ _)
      (notMem_numbered _ (by decide) (by decide) (by decide))
  have named : contains "received".toList footer.receivedField = true :=
    contains_iff.mpr (List.suffix_append_of_suffix ⟨" ".toList, by decide⟩).isInfix
  have found : findInteger footer.receivedField = some footer.received :=
    findInteger_append _ (by decide) (by decide)
  simp only [countField, noTransmitted, named, found, if_true, if_false, Bool.false_eq_true,
    Option.getD_some]

theorem countField_errorField (counts : FooterCounts) (errors : ℕ) :
    countField counts (Footer.errorField errors) = { counts with errors } := by
  have noTransmitted : contains "transmitted".toList (Footer.errorField errors) = false :=
    not_contains_of_notMem (by decide : 't' ∈ _)
      (notMem_numbered _ (by decide) (by decide) (by decide))
  have noReceived : contains "received".toList (Footer.errorField errors) = false :=
    not_contains_of_notMem (by decide : 'c' ∈ _)
      (notMem_numbered _ (by decide) (by decide) (by decide))
  have named : contains "error".toList (Footer.errorField errors) = true :=
    contains_iff.mpr (List.infix_append_of_infix_right ⟨" ".toList, "s".toList, by decide⟩)
  have found : findInteger (Footer.errorField errors) = some errors :=
    findInteger_append _ (by decide) (by decide)
  simp only [countField, noTransmitted, noReceived, named, found, if_true, if_false,
    Bool.false_eq_true, Option.getD_some]

theorem foldl_countField_quiet (counts : FooterCounts) {fields : List Text}
    (quiet : ∀ field ∈ fields, Quiet field) : fields.foldl countField counts = counts := by
  induction fields with
  | nil => rfl
  | cons field fields inductionHypothesis =>
      rw [List.foldl_cons, countField_quiet counts (quiet field List.mem_cons_self)]
      exact inductionHypothesis fun other member => quiet other (List.mem_cons_of_mem _ member)

/-- The numbers of the footer are counted from its fields. -/
theorem foldl_countField {footer : Footer} (wellFormed : footer.WellFormed) :
    (footer.transmittedField :: footer.otherFields).foldl countField ⟨0, 0, 0⟩ =
      footer.counts := by
  rw [List.foldl_cons, countField_transmittedField, Footer.otherFields, List.foldl_cons,
    countField_receivedField, List.foldl_append, List.foldl_append,
    foldl_countField_quiet _ wellFormed.between, foldl_countField_quiet _ wellFormed.behind]
  unfold Footer.counts
  cases footer.errors with
  | none => rfl
  | some errors => exact countField_errorField _ errors

/-- Blanks behind a field change nothing in what is counted. -/
def Stable (field : Text) : Prop :=
  ∀ counts, countField counts (rstrip field) = countField counts field

theorem stable_quiet {field : Text} (quiet : Quiet field) : Stable field := by
  intro counts
  have inside : rstrip field <+: field := List.rdropWhile_prefix _ _
  have strippedQuiet : Quiet (rstrip field) := by
    constructor
    · exact fun member => quiet.noComma (inside.subset member)
    · exact fun member => quiet.noNewline (inside.subset member)
    · exact contains_of_prefix inside quiet.noTransmitted
    · exact contains_of_prefix inside quiet.noReceived
    · exact contains_of_prefix inside quiet.noError
  rw [countField_quiet counts quiet, countField_quiet counts strippedQuiet]

/-- Every field behind the first one is stable and without commas. -/
theorem otherFields_stable {footer : Footer} (wellFormed : footer.WellFormed) {field : Text}
    (member : field ∈ footer.otherFields) : Stable field ∧ ',' ∉ field ∧ '\n' ∉ field := by
  have ends : ∀ (left : Text) (number : ℕ) (right : Text) (last : Char),
      isSpace last = false → Stable (left ++ Nat.toDigits 10 number ++ (right ++ [last])) := by
    intro left number right last solid counts
    rw [← List.append_assoc, rstrip_append_cons solid]
    rfl
  rw [Footer.otherFields, List.mem_cons, List.mem_append, List.mem_append] at member
  rcases member with rfl | (inBetween | isError) | inBehind
  · exact ⟨ends _ _ " receive".toList 'd' (by decide),
      notMem_numbered _ (by decide) (by decide) (by decide),
      notMem_numbered _ (by decide) (by decide) (by decide)⟩
  · have quiet := wellFormed.between field inBetween
    exact ⟨stable_quiet quiet, quiet.noComma, quiet.noNewline⟩
  · obtain ⟨errors, -, rfl⟩ := List.mem_map.mp isError
    exact ⟨ends _ _ " error".toList 's' (by decide),
      notMem_numbered _ (by decide) (by decide) (by decide),
      notMem_numbered _ (by decide) (by decide) (by decide)⟩
  · have quiet := wellFormed.behind field inBehind
    exact ⟨stable_quiet quiet, quiet.noComma, quiet.noNewline⟩

/-! ### The first footer -/

/-- The line with the numbers begins with a digit. -/
theorem numbers_eq_cons (footer : Footer) :
    ∃ digit rest, digit.isDigit = true ∧
      [','].intercalate (footer.transmittedField :: footer.otherFields) = digit :: rest := by
  have others : footer.otherFields ≠ [] := List.cons_ne_nil _ _
  obtain ⟨digit, digits, shape⟩ :=
    List.exists_cons_of_ne_nil (@Nat.toDigits_ne_nil footer.transmitted 10)
  have isDigit : digit.isDigit = true :=
    Nat.isDigit_of_mem_toDigits (by decide) (by decide) (shape ▸ List.mem_cons_self)
  rw [List.intercalate_cons_of_ne_nil others, Footer.transmittedField, shape]
  exact ⟨digit, _, isDigit, rfl⟩

/-- The line with the numbers is split into its fields again, but for blanks behind it. -/
theorem foldl_countField_line {footer : Footer} (wellFormed : footer.WellFormed) :
    ((strip ([','].intercalate (footer.transmittedField :: footer.otherFields))).splitOn ',').foldl
      countField ⟨0, 0, 0⟩ = footer.counts := by
  have others : footer.otherFields ≠ [] := List.cons_ne_nil _ _
  have noBlank : lstrip ([','].intercalate (footer.transmittedField :: footer.otherFields)) =
      [','].intercalate (footer.transmittedField :: footer.otherFields) := by
    obtain ⟨digit, rest, isDigit, shape⟩ := numbers_eq_cons footer
    rw [shape]
    refine lstrip_eq_self fun character same => ?_
    rw [← Option.some.inj same]
    exact isSpace_of_isDigit isDigit
  have noComma : ',' ∉ footer.transmittedField :=
    notMem_numbered _ (by decide) (List.not_mem_nil) (by decide)
  rw [strip, noBlank, ← foldl_countField wellFormed]
  -- Only the last field may lose blanks, which count nothing.
  have stable := fun field member => @otherFields_stable footer wellFormed field member
  obtain ⟨fields, last, split⟩ := (List.eq_nil_or_concat footer.otherFields).resolve_left others
  rw [List.concat_eq_append] at split
  rw [split] at stable ⊢
  have noCommas : ∀ field ∈ footer.transmittedField :: fields ++ [last], ',' ∉ field := by
    intro field member
    rw [List.cons_append, List.mem_cons] at member
    rcases member with rfl | member
    · exact noComma
    · exact (stable field member).2.1
  rw [← List.cons_append, splitOn_rstrip (by decide) (List.cons_ne_nil _ _) noCommas,
    List.foldl_append, List.foldl_append]
  exact (stable last (by simp)).1 _

theorem Footer.counts_iff (footer : Footer) (counts : FooterCounts) :
    ((counts.transmitted : ℤ) = footer.transmitted ∧ (counts.received : ℤ) = footer.received ∧
      (counts.errors : ℤ) = (footer.errors.getD 0 : ℕ)) ↔ counts = footer.counts := by
  rw [Int.natCast_inj, Int.natCast_inj, Int.natCast_inj, Footer.counts, FooterCounts.mk.injEq]

theorem newline_notMem_lines {footer : Footer} (wellFormed : footer.WellFormed) {line : Text}
    (member : line ∈ footer.lines) : '\n' ∉ line := by
  rw [Footer.lines, List.mem_cons, List.mem_singleton] at member
  rcases member with rfl | rfl
  · intro inside
    rw [List.mem_append, List.mem_append] at inside
    rcases inside with (inFront | inHost) | inBack
    · exact absurd inFront (by decide)
    · exact wellFormed.host inHost
    · exact absurd inBack (by decide)
  · refine notMem_intercalate (by decide) fun field member => ?_
    rcases List.mem_cons.mp member with rfl | isOther
    · exact notMem_numbered _ (by decide) List.not_mem_nil (by decide)
    · exact (otherFields_stable wellFormed isOther).2.2

theorem isFooter_line (host : Text) :
    isFooter ("--- ".toList ++ host ++ " ping statistics ---".toList) = true := by
  rw [isFooter, Bool.and_eq_true, List.isPrefixOf_iff_prefix, List.isSuffixOf_iff_suffix,
    List.append_assoc]
  exact ⟨List.prefix_append _ _, List.suffix_append_of_suffix (List.suffix_append _ _)⟩

/-- Neither line of a footer is taken for a header. -/
theorem footer_not_header {footer : Footer} {line : Text} (member : line ∈ footer.lines) :
    isHeader line = false := by
  have firstCharacter : ∀ (character : Char) (rest : Text), character ≠ 'P' →
      isHeader (character :: rest) = false := by
    intro character rest other
    have header : "PING ".toList = ['P', 'I', 'N', 'G', ' '] := by decide
    rw [isHeader, header, List.isPrefixOf_cons_cons, beq_eq_false_iff_ne.mpr (Ne.symm other)]
    rfl
  rw [Footer.lines, List.mem_cons, List.mem_singleton] at member
  rcases member with rfl | rfl
  · exact firstCharacter '-' _ (by decide)
  · obtain ⟨digit, rest, isDigit, shape⟩ := numbers_eq_cons footer
    rw [shape]
    refine firstCharacter digit _ ?_
    rintro rfl
    exact absurd isDigit (by decide)

theorem footerCounts_append {before : List Text} {footer : Footer} (after : List Text)
    (wellFormed : footer.WellFormed) (first : ∀ line ∈ before, isFooter line = false) :
    footerCounts (before ++ (footer.lines ++ after)) = footer.counts := by
  have found : findLine isFooter (before ++ (footer.lines ++ after)) =
      some ("--- ".toList ++ footer.host ++ " ping statistics ---".toList,
        [','].intercalate (footer.transmittedField :: footer.otherFields) :: after) := by
    rw [findLine_append_of_forall _ first]
    exact if_pos (isFooter_line footer.host)
  rw [footerCounts, parsePingFooter, found]
  exact foldl_countField_line wellFormed

theorem parsePingHeader_snd {Address AddressError : Type}
    (ipAddress : Text → Except AddressError Address) (lines : List Text) :
    (parsePingHeader ipAddress lines).2 = afterHeader lines := by
  unfold parsePingHeader afterHeader
  cases findLine isHeader lines <;> rfl

/-- The footer itself is not reached where no header stands in front of it. -/
theorem afterHeader_append {before after : List Text} {footer : Footer}
    (absent : ¬∃ line ∈ before, isHeader line = true) :
    afterHeader (before ++ (footer.lines ++ after)) = afterHeader after := by
  have noHeader : ∀ line ∈ before ++ footer.lines, isHeader line = false := by
    intro line member
    rcases List.mem_append.mp member with inBefore | inFooter
    · exact Bool.eq_false_iff.mpr fun isHeader => absent ⟨line, inBefore, isHeader⟩
    · exact footer_not_header inFooter
  rw [afterHeader, ← List.append_assoc, findLine_append_of_forall _ noHeader]
  rfl

section Result

variable {Address AddressError : Type} (ipAddress : Text → Except AddressError Address)
  {before after : List Text} {footer : Footer} (beginInterval endInterval : Option ℚ)

/-- The numbers of the statistics are those of the footer behind the first header. -/
theorem parsePingStatistics_counts (linesPlain : ∀ line ∈ before ++ after, '\n' ∉ line)
    (wellFormed : footer.WellFormed) :
    let counts := footerCounts (afterHeader (before ++ (footer.lines ++ after)))
    let statistics := parsePingStatistics ipAddress
      (['\n'].intercalate (before ++ footer.lines ++ after)) beginInterval endInterval
    statistics.transmitted = counts.transmitted ∧ statistics.received = counts.received ∧
      statistics.undelivered = counts.errors := by
  have split : (['\n'].intercalate (before ++ footer.lines ++ after)).splitOn '\n' =
      before ++ (footer.lines ++ after) := by
    rw [List.append_assoc]
    refine List.splitOn_intercalate '\n' (fun line member => ?_) (by simp [Footer.lines])
    rw [List.mem_append, List.mem_append] at member
    rcases member with inBefore | inFooter | inAfter
    · exact linesPlain line (List.mem_append_left _ inBefore)
    · exact newline_notMem_lines wellFormed inFooter
    · exact linesPlain line (List.mem_append_right _ inAfter)
  rw [← split, ← parsePingHeader_snd ipAddress]
  exact ⟨rfl, rfl, rfl⟩

/-- **The first footer is counted exactly where a header stands in front of it**, or where the
footer behind the first header behind it has the same numbers. -/
theorem parsePingStatistics_footer_iff (linesPlain : ∀ line ∈ before ++ after, '\n' ∉ line)
    (wellFormed : footer.WellFormed) (first : ∀ line ∈ before, isFooter line = false) :
    let statistics := parsePingStatistics ipAddress
      (['\n'].intercalate (before ++ footer.lines ++ after)) beginInterval endInterval
    (statistics.transmitted = footer.transmitted ∧ statistics.received = footer.received ∧
        statistics.undelivered = (footer.errors.getD 0 : ℕ)) ↔
      (∃ line ∈ before, isHeader line = true) ∨ footerCounts (afterHeader after) = footer.counts := by
  intro statistics
  obtain ⟨transmitted, received, undelivered⟩ :=
    parsePingStatistics_counts ipAddress beginInterval endInterval linesPlain wellFormed
  rw [transmitted, received, undelivered, footer.counts_iff]
  by_cases present : ∃ line ∈ before, isHeader line = true
  · obtain ⟨header, rest, suffix, found⟩ := findLine_append_of_mem (footer.lines ++ after) present
    have reached : afterHeader (before ++ (footer.lines ++ after)) =
        rest ++ (footer.lines ++ after) := by
      rw [afterHeader, found]
    have same := footerCounts_append after wellFormed fun line member =>
      first line (suffix.subset member)
    rw [reached]
    exact ⟨fun _ => .inl present, fun _ => same⟩
  · rw [afterHeader_append present]
    exact ⟨.inr, fun either => either.resolve_left present⟩

end Result

/-- A footer with a field behind its numbers. -/
def halfLost : Footer := ⟨"example.org".toList, 2, 1, [], none, [" 50% packet loss".toList]⟩

theorem halfLost_wellFormed : halfLost.WellFormed where
  host := by decide
  between := List.forall_mem_nil _
  behind := List.forall_mem_singleton.mpr
    ⟨by decide, by decide, not_contains_of_notMem (by decide : 'm' ∈ _) (by decide),
      not_contains_of_notMem (by decide : 'v' ∈ _) (by decide),
      not_contains_of_notMem (by decide : 'r' ∈ _) (by decide)⟩

theorem parsePingStatistics_footer_iff_halfLost :
    let statistics := parsePingStatistics (fun text => (.ok text : Except Unit Text))
      (['\n'].intercalate (["PING example.org".toList] ++ halfLost.lines ++ [])) none none
    (statistics.transmitted = halfLost.transmitted ∧ statistics.received = halfLost.received ∧
        statistics.undelivered = (halfLost.errors.getD 0 : ℕ)) ↔
      (∃ line ∈ ["PING example.org".toList], isHeader line = true) ∨
        footerCounts (afterHeader []) = halfLost.counts :=
  parsePingStatistics_footer_iff _ none none
    (List.forall_mem_singleton.mpr (by decide)) halfLost_wellFormed
    (List.forall_mem_singleton.mpr (by decide))

/-- Without a header the search for one uses up the footer. -/
theorem halfLost_not_counted :
    ¬∀ (before after : List Text) (footer : Footer),
      (∀ line ∈ before ++ after, '\n' ∉ line) → footer.WellFormed →
      (∀ line ∈ before, isFooter line = false) →
      (parsePingStatistics (fun text => (.ok text : Except Unit Text))
        (['\n'].intercalate (before ++ footer.lines ++ after)) none none).transmitted =
          footer.transmitted := by
  intro claimed
  have counted := claimed [] [] halfLost (List.forall_mem_nil _) halfLost_wellFormed
    (List.forall_mem_nil _)
  have noLines : ∀ line ∈ ([] ++ [] : List Text), '\n' ∉ line := List.forall_mem_nil _
  obtain ⟨transmitted, -, -⟩ := parsePingStatistics_counts
    (fun text => (.ok text : Except Unit Text)) none none noLines halfLost_wellFormed
  have noHeader : ¬∃ line ∈ ([] : List Text), isHeader line = true := by simp
  rw [transmitted, afterHeader_append noHeader, Int.natCast_inj] at counted
  cases counted

end Tobiko.Shell.Ping
