import Tobiko.Foundation.KeyOrder
import Tobiko.Foundation.Text

/-!
Contract: the headers of HTTP responses, as `parse_headers` of `tobiko/shell/curl/_process.py` reads
them.

Owns: the loop over the lines with its header under construction, and which texts are read as which
blocks.

Does not own: the lower case of a text, integers, and the command that prints the headers.
-/

namespace Tobiko.Shell.Curl

open Tobiko.Foundation

structure CurlHeader where
  headLine : Option Text
  entries : Dict Text Text

inductive HeaderError where
  /-- Invalid line {line_number} in header: {line} -/
  | invalidLine (lineNumber : Nat) (line headersText : Text)
  | indexError
  deriving DecidableEq

/-- The text of the error. -/
def HeaderError.message : HeaderError → Text
  | .invalidLine lineNumber line headersText =>
      "Invalid line ".toList ++ Nat.toDigits 10 lineNumber ++ " in header: ".toList ++ line ++
        "\n\"\"".toList ++ headersText
  | .indexError => "list index out of range".toList

/-- `content_length`, with what `int` makes of a text. -/
def CurlHeader.contentLength {Number : Type} (int : Text → Number) (header : CurlHeader) :
    Option Number :=
  (header.entries.get? "content-length".toList).map int

/-- The variables of the loop. -/
structure HeaderState where
  headers : List CurlHeader
  entries : Dict Text Text
  lineNumber : Nat
  headLine : Option Text

def HeaderState.init : HeaderState := ⟨[], .empty, 0, none⟩

section Parser

variable (lower : Text → Text)

/-- The body of the loop. -/
def parseHeaderLine (headersText : Text) (state : HeaderState) (line : Text) :
    Except HeaderError HeaderState :=
  let line := Text.strip line
  let lineNumber := state.lineNumber + 1
  if line = [] then
    if state.entries.keys ≠ [] then
      .ok ⟨state.headers ++ [⟨state.headLine, state.entries⟩], .empty, lineNumber, none⟩
    else .ok { state with lineNumber := lineNumber }
  else
    match Text.splitFirst ':' line with
    | some (key, value) =>
        .ok { state with
          entries := state.entries.set (Text.strip (lower key)) (Text.strip value)
          lineNumber := lineNumber }
    | none =>
        if state.entries.keys = [] then
          .ok { state with headLine := some line, lineNumber := lineNumber }
        else .error (.invalidLine lineNumber line headersText)

/-- What follows the loop. -/
def finishHeaders (state : HeaderState) : List CurlHeader :=
  if state.entries.keys ≠ [] then state.headers ++ [⟨state.headLine, state.entries⟩]
  else state.headers

def parseHeaders (headersText : Text) : Except HeaderError (List CurlHeader) :=
  match (Text.splitLines headersText).foldlM (parseHeaderLine lower headersText) .init with
  | .error error => .error error
  | .ok state => .ok (finishHeaders state)

/-- `list_url_headers(...)[-1]` of the text that the command prints. -/
def getUrlHeader (headersText : Text) : Except HeaderError CurlHeader :=
  match parseHeaders lower headersText with
  | .error error => .error error
  | .ok headers => headers.getLast?.elim (.error .indexError) .ok

end Parser

/-! ### Blocks -/

/-- A line without blanks around it. -/
structure IsPart (text : Text) : Prop where
  oneLine : text.any Text.isLineBreak = false
  trimmed : Text.Trimmed text

structure IsName (name : Text) : Prop extends IsPart name where
  nonempty : name ≠ []
  noColon : ':' ∉ name

/-- The header of a response: a status line, and entries whose names differ in more than case. -/
structure HeaderBlock (lower : Text → Text) where
  statusLine : Text
  entries : List (Text × Text)
  isStatus : IsName statusLine
  nonempty : entries ≠ []
  names : ∀ entry ∈ entries, IsName entry.1
  values : ∀ entry ∈ entries, IsPart entry.2
  unique : (entries.map fun entry => lower entry.1).Nodup

/-- `name: value` -/
def entryLine (entry : Text × Text) : Text := entry.1 ++ ':' :: ' ' :: entry.2

namespace HeaderBlock

variable {lower : Text → Text}

def lines (block : HeaderBlock lower) : List Text :=
  block.statusLine :: block.entries.map entryLine

/-- The block with its names in lower case. -/
def header (block : HeaderBlock lower) : CurlHeader where
  headLine := some block.statusLine
  entries := ⟨block.entries.map fun entry => (lower entry.1, entry.2), by
    rw [List.map_map]
    exact block.unique⟩

end HeaderBlock

/-- Lines of nothing but white space. -/
def AreBlank (lines : List Text) : Prop :=
  ∀ line ∈ lines, Text.IsBlank line ∧ line.any Text.isLineBreak = false

/-- The lines of blocks that are separated by blank lines. -/
inductive Rendering {lower : Text → Text} : List (HeaderBlock lower) → List Text → Prop
  | last (block : HeaderBlock lower) {blanks : List Text} (areBlank : AreBlank blanks) :
      Rendering [block] (block.lines ++ blanks)
  | next (block : HeaderBlock lower) {blanks : List Text} (areBlank : AreBlank blanks)
      (separates : blanks ≠ []) {blocks : List (HeaderBlock lower)} {lines : List Text}
      (rendering : Rendering blocks lines) :
      Rendering (block :: blocks) (block.lines ++ (blanks ++ lines))

/-! ### Steps of the loop -/

section Steps

variable {lower : Text → Text} {headersText : Text} {state : HeaderState}

theorem strip_eq_self {text : Text} (trimmed : Text.Trimmed text) : Text.strip text = text := by
  have noBlank : Text.IsBlank [] := fun _ member => absurd member List.not_mem_nil
  have padded := Text.strip_padded noBlank noBlank trimmed
  rwa [List.nil_append, List.append_nil] at padded

theorem parse_blank_empty {line : Text} (isBlank : Text.IsBlank line)
    (empty : state.entries.keys = []) : parseHeaderLine lower headersText state line =
      .ok { state with lineNumber := state.lineNumber + 1 } := by
  unfold parseHeaderLine
  dsimp only
  rw [if_pos (Text.strip_eq_nil isBlank), if_neg (not_not.mpr empty)]

theorem parse_blank_entries {line : Text} (isBlank : Text.IsBlank line)
    (entries : state.entries.keys ≠ []) : parseHeaderLine lower headersText state line =
      .ok ⟨state.headers ++ [⟨state.headLine, state.entries⟩], .empty, state.lineNumber + 1,
        none⟩ := by
  unfold parseHeaderLine
  dsimp only
  rw [if_pos (Text.strip_eq_nil isBlank), if_pos entries]

theorem parse_status {line : Text} (isStatus : IsName line) (empty : state.entries.keys = []) :
    parseHeaderLine lower headersText state line =
      .ok { state with headLine := some line, lineNumber := state.lineNumber + 1 } := by
  unfold parseHeaderLine
  dsimp only
  rw [strip_eq_self isStatus.trimmed, if_neg isStatus.nonempty,
    Text.splitFirst_eq_none isStatus.noColon]
  dsimp only
  rw [if_pos empty]

/-- The name starts the line, and the value or the colon ends it. -/
theorem strip_entryLine {entry : Text × Text} (isName : IsName entry.1) (isValue : IsPart entry.2) :
    ∃ rest, Text.strip (entryLine entry) = entry.1 ++ ':' :: rest ∧
      Text.strip rest = entry.2 := by
  have noBlank : Text.IsBlank [] := fun _ member => absurd member List.not_mem_nil
  have oneBlank : Text.IsBlank [' '] := by decide
  have starts : ∀ (rest : Text) character,
      (entry.1 ++ rest).head? = some character → Text.isSpace character = false := by
    intro rest character same
    apply isName.trimmed.first character
    obtain ⟨first, name, shape⟩ := List.exists_cons_of_ne_nil isName.nonempty
    rw [shape] at same ⊢
    exact same
  by_cases noValue : entry.2 = []
  · refine ⟨[], ?_, ?_⟩
    · have trimmed : Text.Trimmed (entry.1 ++ [':']) := by
        refine ⟨starts [':'], fun character same => ?_⟩
        rw [List.getLast?_concat] at same
        cases same
        rfl
      have padded := Text.strip_padded noBlank oneBlank trimmed
      rw [List.nil_append, List.append_assoc] at padded
      unfold entryLine
      rw [noValue]
      exact padded
    · rw [noValue]
      rfl
  · refine ⟨' ' :: entry.2, ?_, ?_⟩
    · apply strip_eq_self
      refine ⟨starts (':' :: ' ' :: entry.2), fun character same => ?_⟩
      apply isValue.trimmed.last character
      obtain ⟨first, value, shape⟩ := List.exists_cons_of_ne_nil noValue
      unfold entryLine at same
      rw [List.getLast?_append, shape, List.getLast?_cons_cons, List.getLast?_cons_cons] at same
      rw [shape]
      cases last : (first :: value).getLast? with
      | none => cases List.getLast?_eq_none_iff.mp last
      | some found =>
          rw [last] at same
          exact same
    · have padded := Text.strip_padded oneBlank noBlank isValue.trimmed
      rw [List.append_nil] at padded
      exact padded

theorem parse_entry (lowerKeeps : ∀ text, Text.Trimmed text → Text.Trimmed (lower text))
    {entry : Text × Text} (isName : IsName entry.1) (isValue : IsPart entry.2) :
    parseHeaderLine lower headersText state (entryLine entry) =
      .ok { state with
        entries := state.entries.set (lower entry.1) entry.2
        lineNumber := state.lineNumber + 1 } := by
  obtain ⟨rest, stripped, value⟩ := strip_entryLine isName isValue
  have nonempty : entry.1 ++ ':' :: rest ≠ [] := by
    intro isNil
    cases (List.append_eq_nil_iff.mp isNil).2
  unfold parseHeaderLine
  dsimp only
  rw [stripped, if_neg nonempty, Text.splitFirst_append rest isName.noColon]
  dsimp only
  rw [value, strip_eq_self (lowerKeeps _ isName.trimmed)]

end Steps

/-! ### Runs of the loop -/

section Runs

variable {lower : Text → Text} {headersText : Text}

theorem foldlM_ok {State Line : Type} {step : State → Line → Except HeaderError State}
    {line : Line} {lines : List Line} {state next : State} (stepped : step state line = .ok next) :
    (line :: lines).foldlM step state = lines.foldlM step next := by
  rw [List.foldlM_cons, stepped]
  rfl

theorem foldlM_append_ok {State Line : Type} {step : State → Line → Except HeaderError State}
    {first second : List Line} {state next : State} (ran : first.foldlM step state = .ok next) :
    (first ++ second).foldlM step state = second.foldlM step next := by
  rw [List.foldlM_append, ran]
  rfl

theorem run_entries (lowerKeeps : ∀ text, Text.Trimmed text → Text.Trimmed (lower text))
    {entries : List (Text × Text)} (names : ∀ entry ∈ entries, IsName entry.1)
    (values : ∀ entry ∈ entries, IsPart entry.2) (state : HeaderState) :
    (entries.map entryLine).foldlM (parseHeaderLine lower headersText) state =
      .ok { state with
        entries := (entries.map fun entry => (lower entry.1, entry.2)).foldl
          (fun dict pair => dict.set pair.1 pair.2) state.entries
        lineNumber := state.lineNumber + entries.length } := by
  induction entries generalizing state with
  | nil => rfl
  | cons entry entries inductionHypothesis =>
      have first : parseHeaderLine lower headersText state (entryLine entry) = .ok _ :=
        parse_entry lowerKeeps (names entry List.mem_cons_self) (values entry List.mem_cons_self)
      rw [List.map_cons, foldlM_ok first,
        inductionHypothesis (fun other member => names other (List.mem_cons_of_mem _ member))
          fun other member => values other (List.mem_cons_of_mem _ member)]
      dsimp only
      rw [List.map_cons, List.foldl_cons, List.length_cons, Nat.add_right_comm, Nat.add_assoc]

/-- A block leaves its header under construction. -/
theorem run_block (lowerKeeps : ∀ text, Text.Trimmed text → Text.Trimmed (lower text))
    (block : HeaderBlock lower) {state : HeaderState} (empty : state.entries = .empty) :
    block.lines.foldlM (parseHeaderLine lower headersText) state =
      .ok ⟨state.headers, block.header.entries, state.lineNumber + block.lines.length,
        block.header.headLine⟩ := by
  have noKeys : state.entries.keys = [] := by
    rw [empty]
    rfl
  have entries : (block.entries.map fun entry => (lower entry.1, entry.2)).foldl
      (fun dict pair => dict.set pair.1 pair.2) .empty = block.header.entries :=
    Dict.eq_of_entries (Dict.entries_foldl_set block.header.entries.distinct)
  unfold HeaderBlock.lines
  rw [foldlM_ok (parse_status block.isStatus noKeys),
    run_entries lowerKeeps block.names block.values]
  dsimp only
  rw [empty, entries, List.length_cons, List.length_map, Nat.add_assoc, Nat.add_comm 1]
  rfl

theorem run_blank_empty {blanks : List Text} (areBlank : AreBlank blanks) {state : HeaderState}
    (empty : state.entries = .empty) :
    blanks.foldlM (parseHeaderLine lower headersText) state =
      .ok { state with lineNumber := state.lineNumber + blanks.length } := by
  induction blanks generalizing state with
  | nil => rfl
  | cons blank blanks inductionHypothesis =>
      have noKeys : state.entries.keys = [] := by
        rw [empty]
        rfl
      have others : AreBlank blanks := fun other member => areBlank other (List.mem_cons_of_mem _ member)
      rw [foldlM_ok (parse_blank_empty (areBlank blank List.mem_cons_self).1 noKeys),
        @inductionHypothesis others { state with lineNumber := state.lineNumber + 1 } empty]
      dsimp only
      rw [List.length_cons, Nat.add_right_comm, Nat.add_assoc]

theorem keys_header (block : HeaderBlock lower) : block.header.entries.keys ≠ [] := by
  intro noKeys
  have noEntries : block.entries.map (fun entry => (lower entry.1, entry.2)) = [] :=
    List.map_eq_nil_iff.mp noKeys
  exact block.nonempty (List.map_eq_nil_iff.mp noEntries)

/-- The first of several blank lines ends the header. -/
theorem run_blank_entries {blanks : List Text} (areBlank : AreBlank blanks) (separates : blanks ≠ [])
    (block : HeaderBlock lower) (headers : List CurlHeader) (lineNumber : Nat) :
    blanks.foldlM (parseHeaderLine lower headersText)
        ⟨headers, block.header.entries, lineNumber, block.header.headLine⟩ =
      .ok ⟨headers ++ [block.header], .empty, lineNumber + blanks.length, none⟩ := by
  cases blanks with
  | nil => exact absurd rfl separates
  | cons blank blanks =>
      have others : AreBlank blanks := fun other member => areBlank other (List.mem_cons_of_mem _ member)
      rw [foldlM_ok (parse_blank_entries (areBlank blank List.mem_cons_self).1 (keys_header block)),
        run_blank_empty others rfl]
      dsimp only
      rw [List.length_cons, Nat.add_assoc, Nat.add_comm 1]

/-- **What the loop and its end make of blocks: a header for each, behind those there are.** -/
theorem run_blocks (lowerKeeps : ∀ text, Text.Trimmed text → Text.Trimmed (lower text))
    {blocks : List (HeaderBlock lower)} {lines : List Text} (rendering : Rendering blocks lines)
    {state : HeaderState} (empty : state.entries = .empty) :
    ∃ last, lines.foldlM (parseHeaderLine lower headersText) state = .ok last ∧
      finishHeaders last = state.headers ++ blocks.map HeaderBlock.header := by
  induction rendering generalizing state with
  | @last block blanks areBlank =>
      rw [foldlM_append_ok (run_block lowerKeeps block empty)]
      by_cases noBlanks : blanks = []
      · rw [noBlanks]
        refine ⟨_, rfl, ?_⟩
        unfold finishHeaders
        rw [if_pos (keys_header block)]
        rfl
      · refine ⟨_, run_blank_entries areBlank noBlanks block _ _, ?_⟩
        unfold finishHeaders
        exact if_neg fun keys => keys rfl
  | @next block blanks areBlank separates blocks lines rendering inductionHypothesis =>
      rw [foldlM_append_ok (run_block lowerKeeps block empty),
        foldlM_append_ok (run_blank_entries areBlank separates block _ _)]
      obtain ⟨last, ran, finished⟩ := @inductionHypothesis
        ⟨state.headers ++ [block.header], .empty, _, none⟩ rfl
      refine ⟨last, ran, ?_⟩
      rw [finished, List.map_cons, List.append_assoc, List.singleton_append]

end Runs

/-! ### Texts of blocks -/

section Texts

variable {lower : Text → Text}

theorem oneLine_block (block : HeaderBlock lower) :
    ∀ line ∈ block.lines, line.any Text.isLineBreak = false := by
  intro line member
  obtain rfl | inEntries := List.mem_cons.mp member
  · exact block.isStatus.oneLine
  · obtain ⟨entry, isEntry, rfl⟩ := List.mem_map.mp inEntries
    unfold entryLine
    rw [List.any_append, (block.names entry isEntry).oneLine, List.any_cons, List.any_cons,
      (block.values entry isEntry).oneLine]
    rfl

/-- The lines of a rendering are lines. -/
theorem Rendering.oneLine {blocks : List (HeaderBlock lower)} {lines : List Text}
    (rendering : Rendering blocks lines) : ∀ line ∈ lines, line.any Text.isLineBreak = false := by
  induction rendering with
  | last block areBlank =>
      intro line member
      obtain inBlock | inBlanks := List.mem_append.mp member
      · exact oneLine_block block line inBlock
      · exact (areBlank line inBlanks).2
  | next block areBlank _ _ inductionHypothesis =>
      intro line member
      rw [List.mem_append, List.mem_append] at member
      obtain inBlock | inBlanks | later := member
      · exact oneLine_block block line inBlock
      · exact (areBlank line inBlanks).2
      · exact inductionHypothesis line later

theorem Rendering.getLast {blocks : List (HeaderBlock lower)} {lines : List Text}
    (rendering : Rendering blocks lines) : ∃ final, blocks.getLast? = some final := by
  cases rendering with
  | last block => exact ⟨block, rfl⟩
  | next block => exact ⟨_, List.getLast?_cons⟩

end Texts

/-- **A text of blocks is read as these blocks, and the header of its URL is the last one.** -/
theorem parseHeaders_blocks (lower : Text → Text)
    (lowerKeeps : ∀ text, Text.Trimmed text → Text.Trimmed (lower text))
    (blocks : List (HeaderBlock lower)) (lines : List Text) (rendering : Rendering blocks lines)
    (headersText : Text) (hasLines : Text.splitLines headersText = lines) :
    parseHeaders lower headersText = .ok (blocks.map HeaderBlock.header) ∧
      ∃ final, blocks.getLast? = some final ∧ getUrlHeader lower headersText = .ok final.header := by
  obtain ⟨last, ran, finished⟩ :=
    @run_blocks lower headersText lowerKeeps blocks lines rendering .init rfl
  have parsed : parseHeaders lower headersText = .ok (blocks.map HeaderBlock.header) := by
    unfold parseHeaders
    rw [hasLines, ran]
    dsimp only
    rw [finished]
    rfl
  obtain ⟨final, isLast⟩ := rendering.getLast
  refine ⟨parsed, final, isLast, ?_⟩
  unfold getUrlHeader
  rw [parsed]
  dsimp only
  rw [List.getLast?_map, isLast]
  rfl

/-- The length of a content is that of its block, in whichever case it is named. -/
theorem contentLength_header {lower : Text → Text} {Number : Type} (int : Text → Number)
    (block : HeaderBlock lower) {entry : Text × Text} (isEntry : entry ∈ block.entries)
    (named : lower entry.1 = "content-length".toList) :
    block.header.contentLength int = some (int entry.2) := by
  have found : block.header.entries.get? "content-length".toList = some entry.2 := by
    rw [← Dict.mem_entries_iff, ← named]
    exact List.mem_map.mpr ⟨entry, isEntry, rfl⟩
  unfold CurlHeader.contentLength
  rw [found]
  rfl

/-- `str.lower` of ASCII. -/
def asciiLower (text : Text) : Text := text.map Char.toLower

theorem isSpace_toLower {character : Char} (solid : Text.isSpace character = false) :
    Text.isSpace character.toLower = false := by
  unfold Char.toLower
  split
  · rename_i isUpper
    have range : 65 ≤ character.toNat ∧ character.toNat ≤ 90 := by
      simpa [UInt32.le_iff_toNat_le] using isUpper
    have lowered : (character.val + ('a'.val - 'A'.val)).toNat = character.toNat + 32 := by
      rw [UInt32.toNat_add, Char.toNat_val]
      simp
      omega
    simp only [Text.isSpace, Char.toNat, lowered, Bool.or_eq_false_iff, Bool.and_eq_false_iff,
      decide_eq_false_iff_not, beq_eq_false_iff_ne]
    change 65 ≤ character.val.toNat ∧ character.val.toNat ≤ 90 at range
    omega
  · exact solid

theorem asciiLower_keeps (text : Text) (trimmed : Text.Trimmed text) :
    Text.Trimmed (asciiLower text) := by
  constructor
  · intro character same
    unfold asciiLower at same
    rw [List.head?_map] at same
    obtain ⟨original, isFirst, rfl⟩ := Option.map_eq_some_iff.mp same
    exact isSpace_toLower (trimmed.first original isFirst)
  · intro character same
    unfold asciiLower at same
    rw [List.getLast?_map] at same
    obtain ⟨original, isLast, rfl⟩ := Option.map_eq_some_iff.mp same
    exact isSpace_toLower (trimmed.last original isLast)

theorem isPart_of_ends {text : Text} (oneLine : text.any Text.isLineBreak = false)
    (first : text.head?.any Text.isSpace = false) (last : text.getLast?.any Text.isSpace = false) :
    IsPart text :=
  ⟨oneLine, Text.trimmed_of_ends first last⟩

/-- A response that leads to another address. -/
def redirectBlock : HeaderBlock asciiLower where
  statusLine := "HTTP/1.1 302 Found".toList
  entries := [("Location".toList, "http://example.org:8080/".toList)]
  isStatus := ⟨isPart_of_ends rfl rfl rfl, by decide, by decide⟩
  nonempty := by decide
  names := by
    rw [List.forall_mem_singleton]
    exact ⟨isPart_of_ends rfl rfl rfl, by decide, by decide⟩
  values := by
    rw [List.forall_mem_singleton]
    exact isPart_of_ends rfl rfl rfl
  unique := by decide

/-- The final response. -/
def finalBlock : HeaderBlock asciiLower where
  statusLine := "HTTP/1.1 200 OK".toList
  entries := [("Content-Length".toList, "42".toList), ("X-Empty".toList, [])]
  isStatus := ⟨isPart_of_ends rfl rfl rfl, by decide, by decide⟩
  nonempty := by decide
  names := by
    rw [List.forall_mem_cons, List.forall_mem_singleton]
    exact ⟨⟨isPart_of_ends rfl rfl rfl, by decide, by decide⟩,
      ⟨isPart_of_ends rfl rfl rfl, by decide, by decide⟩⟩
  values := by
    rw [List.forall_mem_cons, List.forall_mem_singleton]
    exact ⟨isPart_of_ends rfl rfl rfl, isPart_of_ends rfl rfl rfl⟩
  unique := by decide

/-- The text of a redirection, as it is printed. -/
def redirectText : Text :=
  Text.endedText ['\r', '\n'] (redirectBlock.lines ++ ([[]] ++ (finalBlock.lines ++ [[]])))

theorem parseHeaders_redirect :
    parseHeaders asciiLower redirectText = .ok [redirectBlock.header, finalBlock.header] := by
  have noBlanks : AreBlank [[]] := by
    unfold AreBlank
    decide
  have rendering : Rendering [redirectBlock, finalBlock]
      (redirectBlock.lines ++ ([[]] ++ (finalBlock.lines ++ [[]]))) :=
    Rendering.next redirectBlock noBlanks (by decide) (Rendering.last finalBlock noBlanks)
  exact (parseHeaders_blocks asciiLower asciiLower_keeps _ _ rendering redirectText
    (Text.splitLines_endedText (Or.inr rfl) rendering.oneLine)).1

end Tobiko.Shell.Curl
