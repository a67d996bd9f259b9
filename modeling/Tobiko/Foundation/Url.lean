import Tobiko.Foundation.Text

/-!
Contract: uniform resource locators, as Python's `urllib.parse.urlparse` reads them.

Owns: the split of a text into scheme, netloc, path, parameters, query and fragment, the user name,
host name and port of a netloc, and what is read from `scheme://netloc` and from `scheme:///path`;
how the reading of an address fails.

Does not own: the lower case of a text, and which addresses there are.
-/

namespace Tobiko.Foundation

/-- How `netaddr.IPAddress` fails: `AddrFormatError` is no `ValueError`. -/
inductive AddressError where
  | addrFormatError
  | valueError
  deriving DecidableEq

namespace Url

/-- The colon of a netloc behind which the port is, where there are several outside of brackets. -/
inductive PortColon where
  | first
  | last
  deriving DecidableEq

/-- What the grammar leaves open. The library takes the first colon. -/
structure Rules where
  portColon : PortColon
  /-- `str.lower` of a text that is not ASCII. -/
  lower : Text → Text
  /-- Whether a text in brackets is an address. -/
  isAddress : Text → Bool
  /-- Whether a netloc that is not ASCII normalizes to one without other delimiters. -/
  isNormal : Text → Bool

/-- These are all of them `ValueError`. -/
inductive Error where
  /-- Invalid IPv6 URL -/
  | invalidIpv6Url
  | invalidAddress
  /-- netloc contains invalid characters under NFKC normalization -/
  | invalidNetloc
  /-- Port could not be cast to integer value -/
  | invalidPort
  /-- Port out of range 0-65535 -/
  | portOutOfRange
  deriving DecidableEq

end Url

/-- `ParseResult` -/
structure Url where
  scheme : Text
  netloc : Text
  path : Text
  params : Text
  query : Text
  fragment : Text
  deriving DecidableEq

namespace Url

/-! ### The parser -/

def isControlOrSpace (character : Char) : Bool := character.toNat ≤ 0x20

/-- A tabulator or an end of line. -/
def isRemoved (character : Char) : Bool :=
  character = '\t' || character = '\r' || character = '\n'

def clean (text : Text) : Text := (text.dropWhile isControlOrSpace).filter (!isRemoved ·)

def isSchemeCharacter (character : Char) : Bool :=
  character.isAlphanum || character = '+' || character = '-' || character = '.'

def isScheme (text : Text) : Bool := text.head?.any Char.isAlpha && text.all isSchemeCharacter

/-- The scheme, and what is behind its colon. -/
def splitScheme (text : Text) : Text × Text :=
  match Text.splitFirst ':' text with
  | some (scheme, rest) => if isScheme scheme then (scheme.map Char.toLower, rest) else ([], text)
  | none => ([], text)

def isDelimiter (character : Char) : Bool :=
  character = '/' || character = '?' || character = '#'

/-- The netloc behind two slashes, up to the first delimiter. -/
def splitNetloc : Text → Text × Text
  | '/' :: '/' :: text => (text.takeWhile (!isDelimiter ·), text.dropWhile (!isDelimiter ·))
  | text => ([], text)

/-- `text.split(mark, 1)`, with nothing behind a mark that is not there. -/
def splitMark (mark : Char) (text : Text) : Text × Text := (Text.splitFirst mark text).getD (text, [])

/-- The schemes whose paths may have parameters. -/
def usesParams : List Text :=
  ["", "ftp", "hdl", "prospero", "http", "imap", "https", "shttp", "rtsp", "rtsps", "rtspu", "sip",
    "sips", "mms", "sftp", "tel"].map String.toList

/-- The path, and its parameters behind the first semicolon of the last part. -/
def splitParams (text : Text) : Text × Text :=
  match Text.splitLast '/' text with
  | some (dir, name) => (dir ++ '/' :: (splitMark ';' name).1, (splitMark ';' name).2)
  | none => splitMark ';' text

/-- `netloc.partition('[')[2].partition(']')[0]` -/
def bracketedHost (netloc : Text) : Text := (splitMark ']' (splitMark '[' netloc).2).1

def isAscii (text : Text) : Bool := text.all fun character => character.toNat < 0x80

/-- What raises for a netloc. -/
def checkNetloc (rules : Rules) (netloc : Text) : Except Error Unit :=
  if decide ('[' ∈ netloc) ≠ decide (']' ∈ netloc) then .error .invalidIpv6Url
  else if '[' ∈ netloc ∧ ¬rules.isAddress (bracketedHost netloc) then .error .invalidAddress
  else if ¬isAscii netloc ∧ ¬rules.isNormal netloc then .error .invalidNetloc
  else .ok ()

/-- `urlparse` -/
def parse (rules : Rules) (text : Text) : Except Error Url :=
  let schemed := splitScheme (clean text)
  let located := splitNetloc schemed.2
  match checkNetloc rules located.1 with
  | .error error => .error error
  | .ok () =>
      let fragmented := splitMark '#' located.2
      let queried := splitMark '?' fragmented.1
      let path := if schemed.1 ∈ usesParams then splitParams queried.1 else (queried.1, [])
      .ok ⟨schemed.1, located.1, path.1, path.2, queried.2, fragmented.2⟩

/-! ### The parts of a netloc -/

/-- The user information, and the host and the port behind it. -/
def splitUser (netloc : Text) : Option Text × Text :=
  match Text.splitLast '@' netloc with
  | some (user, host) => (some user, host)
  | none => (none, netloc)

/-- `username` -/
def username (url : Url) : Option Text := (splitUser url.netloc).1.map fun user => (splitMark ':' user).1

/-- The text of the host, and that of the port, which is empty if there is none. -/
def splitPort (portColon : PortColon) (hostinfo : Text) : Text × Text :=
  if '[' ∈ hostinfo then
    let bracketed := splitMark ']' (splitMark '[' hostinfo).2
    (bracketed.1, (splitMark ':' bracketed.2).2)
  else
    match portColon with
    | .first => splitMark ':' hostinfo
    | .last => (Text.splitLast ':' hostinfo).getD (hostinfo, [])

def lowerText (rules : Rules) (text : Text) : Text :=
  if isAscii text then text.map Char.toLower else rules.lower text

/-- The lower case of a host, but for the zone of an address. -/
def lowerHost (rules : Rules) (host : Text) : Text :=
  match Text.splitFirst '%' host with
  | some (address, zone) => lowerText rules address ++ '%' :: zone
  | none => lowerText rules host

/-- `hostname` -/
def hostname (rules : Rules) (url : Url) : Option Text :=
  let host := (splitPort rules.portColon (splitUser url.netloc).2).1
  if host = [] then none else some (lowerHost rules host)

def parsePort (text : Text) : Except Error (Option Nat) :=
  if text = [] then .ok none
  else if text.all Char.isDigit then
    if Text.ofDigits text ≤ 65535 then .ok (some (Text.ofDigits text)) else .error .portOutOfRange
  else .error .invalidPort

/-- `port` -/
def port (rules : Rules) (url : Url) : Except Error (Option Nat) :=
  parsePort (splitPort rules.portColon (splitUser url.netloc).2).2

/-! ### Marks -/

theorem splitMark_append {mark : Char} {left : Text} (right : Text) (absent : mark ∉ left) :
    splitMark mark (left ++ mark :: right) = (left, right) := by
  rw [splitMark, Text.splitFirst_append right absent]
  rfl

theorem splitMark_absent {mark : Char} {text : Text} (absent : mark ∉ text) :
    splitMark mark text = (text, []) := by
  rw [splitMark, Text.splitFirst_eq_none absent]
  rfl

theorem splitMark_fst (mark : Char) (text : Text) :
    (splitMark mark text).1 = text.takeWhile (· ≠ mark) := by
  induction text with
  | nil => rfl
  | cons character text inductionHypothesis =>
      rw [List.takeWhile_cons]
      by_cases same : character = mark
      · have stopped : splitMark mark (character :: text) = ([], text) := by
          rw [same]
          exact splitMark_append text List.not_mem_nil
        rw [stopped, if_neg (by simp [same])]
      · have passed : (splitMark mark (character :: text)).1 =
            character :: (splitMark mark text).1 := by
          unfold splitMark
          rw [Text.splitFirst, if_neg same]
          cases Text.splitFirst mark text with
          | none => rfl
          | some parts => rfl
        rw [passed, if_pos (by simp [same]), inductionHypothesis]

/-! ### Texts of a scheme and two slashes -/

/-- A scheme in lower case. -/
structure IsLowerScheme (scheme : Text) : Prop where
  isScheme : isScheme scheme = true
  lower : scheme.map Char.toLower = scheme

theorem colon_notMem_scheme {scheme : Text} (isScheme : isScheme scheme = true) :
    ':' ∉ scheme := by
  intro member
  have ofScheme := List.all_eq_true.mp (Bool.and_eq_true_iff.mp isScheme).2 ':' member
  exact absurd ofScheme (by decide)

theorem filter_scheme {scheme : Text} (allowed : scheme.all isSchemeCharacter = true) :
    scheme.filter (!isRemoved ·) = scheme := by
  rw [List.filter_eq_self]
  intro character member
  have ofScheme := List.all_eq_true.mp allowed character member
  cases removed : isRemoved character with
  | false => rfl
  | true =>
      have named : (character = '\t' ∨ character = '\r') ∨ character = '\n' := by
        simpa [isRemoved] using removed
      obtain (rfl | rfl) | rfl := named <;> exact absurd ofScheme (by decide)

theorem clean_scheme {scheme : Text} (isScheme : isScheme scheme = true) (rest : Text) :
    clean (scheme ++ rest) = scheme ++ rest.filter (!isRemoved ·) := by
  obtain ⟨alpha, allowed⟩ := Bool.and_eq_true_iff.mp isScheme
  cases scheme with
  | nil => cases alpha
  | cons first scheme =>
      have solid : isControlOrSpace first = false := by
        rw [isControlOrSpace, decide_eq_false_iff_not]
        have isLetter : (decide (first.val ≥ 'A'.val ∧ first.val ≤ 'Z'.val) ||
            (decide (first.val ≥ 'a'.val) && decide (first.val ≤ 'z'.val))) = true := alpha
        have range : (65 ≤ first.toNat ∧ first.toNat ≤ 90) ∨
            (97 ≤ first.toNat ∧ first.toNat ≤ 122) := by
          simpa [UInt32.le_iff_toNat_le] using isLetter
        omega
      unfold clean
      rw [List.cons_append, List.dropWhile_cons_of_neg (by rw [solid]; exact Bool.false_ne_true),
        ← List.cons_append, List.filter_append, filter_scheme allowed]

theorem splitScheme_append {scheme : Text} (isLowerScheme : IsLowerScheme scheme) (rest : Text) :
    splitScheme (scheme ++ ':' :: rest) = (scheme, rest) := by
  rw [splitScheme, Text.splitFirst_append rest (colon_notMem_scheme isLowerScheme.isScheme)]
  dsimp only
  rw [if_pos isLowerScheme.isScheme, isLowerScheme.lower]

/-- What is parsed behind the scheme. -/
theorem splitScheme_clean {scheme : Text} (isLowerScheme : IsLowerScheme scheme) (rest : Text) :
    splitScheme (clean (scheme ++ "://".toList ++ rest)) =
      (scheme, '/' :: '/' :: rest.filter (!isRemoved ·)) := by
  rw [List.append_assoc, clean_scheme isLowerScheme.isScheme, List.filter_append]
  exact splitScheme_append isLowerScheme _

/-- ASCII that a parser neither takes away nor stops at. -/
def isNetlocCharacter (character : Char) : Bool :=
  character.toNat < 0x80 && !isRemoved character && !isDelimiter character

theorem splitNetloc_plain {netloc : Text} (plain : netloc.all isNetlocCharacter = true) :
    splitNetloc ('/' :: '/' :: netloc.filter (!isRemoved ·)) = (netloc, []) := by
  have split : ∀ character ∈ netloc,
      (character.toNat < 0x80 ∧ (!isRemoved character) = true) ∧ (!isDelimiter character) = true := by
    intro character member
    have isPlain := List.all_eq_true.mp plain character member
    unfold isNetlocCharacter at isPlain
    rwa [Bool.and_eq_true, Bool.and_eq_true, decide_eq_true_eq] at isPlain
  have kept : netloc.filter (!isRemoved ·) = netloc :=
    List.filter_eq_self.mpr fun character member => (split character member).1.2
  have within : ∀ character ∈ netloc, (!isDelimiter character) = true :=
    fun character member => (split character member).2
  rw [kept, splitNetloc, List.takeWhile_eq_self_iff.mpr within, List.dropWhile_eq_nil_iff.mpr within]

/-- **A netloc without delimiters is read back, where nothing of it raises.** -/
theorem parse_netloc {rules : Rules} {scheme netloc : Text} (isLowerScheme : IsLowerScheme scheme)
    (plain : netloc.all isNetlocCharacter = true) (checked : checkNetloc rules netloc = .ok ()) :
    parse rules (scheme ++ "://".toList ++ netloc) = .ok ⟨scheme, netloc, [], [], [], []⟩ := by
  unfold parse
  dsimp only
  rw [splitScheme_clean isLowerScheme, splitNetloc_plain plain]
  dsimp only
  rw [checked]
  have noPath : (if scheme ∈ usesParams then splitParams (splitMark '?' (splitMark '#' []).1).1
      else ((splitMark '?' (splitMark '#' []).1).1, [])) = ([], []) := ite_self _
  dsimp only
  rw [noPath]
  rfl

theorem isAscii_netloc {netloc : Text} (plain : netloc.all isNetlocCharacter = true) :
    isAscii netloc = true := by
  unfold isAscii
  rw [List.all_eq_true] at plain ⊢
  intro character member
  have isPlain := plain character member
  unfold isNetlocCharacter at isPlain
  exact (Bool.and_eq_true_iff.mp (Bool.and_eq_true_iff.mp isPlain).1).1

theorem checkNetloc_unbracketed (rules : Rules) {netloc : Text}
    (plain : netloc.all isNetlocCharacter = true) (noOpen : '[' ∉ netloc) (noClose : ']' ∉ netloc) :
    checkNetloc rules netloc = .ok () := by
  unfold checkNetloc
  rw [if_neg (by simp [noOpen, noClose]), if_neg fun both => noOpen both.1,
    if_neg fun both => both.1 (isAscii_netloc plain)]

theorem checkNetloc_nil (rules : Rules) : checkNetloc rules [] = .ok () := rfl

/-- What is left of a path. -/
def readPath (path : Text) : Text :=
  ((path.filter (!isRemoved ·)).takeWhile (· ≠ '#')).takeWhile (· ≠ '?')

theorem parse_path (rules : Rules) {scheme : Text} (isLowerScheme : IsLowerScheme scheme)
    (noParams : scheme ∉ usesParams) (path : Text) :
    ∃ url, parse rules (scheme ++ "://".toList ++ '/' :: path) = .ok url ∧
      url.netloc = [] ∧ url.path = readPath ('/' :: path) := by
  have split : splitNetloc ('/' :: '/' :: ('/' :: path).filter (!isRemoved ·)) =
      ([], ('/' :: path).filter (!isRemoved ·)) := by
    rw [List.filter_cons_of_pos rfl]
    rfl
  unfold parse
  dsimp only
  rw [splitScheme_clean isLowerScheme, split]
  dsimp only
  rw [checkNetloc_nil]
  refine ⟨_, rfl, rfl, ?_⟩
  dsimp only
  rw [if_neg noParams, splitMark_fst, splitMark_fst]
  rfl

/-- A character that is kept in a path. -/
def isPlainPath (character : Char) : Bool :=
  !isRemoved character && character ≠ '#' && character ≠ '?'

/-- A path is read back exactly where the parser takes nothing away. -/
theorem readPath_eq_self_iff (path : Text) : readPath path = path ↔ path.all isPlainPath = true := by
  rw [List.all_eq_true]
  constructor
  · intro same character member
    have kept : character ∈ readPath path := same.symm ▸ member
    have noQuery := List.mem_takeWhile_imp kept
    have inFragment := (List.takeWhile_sublist _).subset kept
    have noFragment := List.mem_takeWhile_imp inFragment
    have clean := (List.mem_filter.mp ((List.takeWhile_sublist _).subset inFragment)).2
    unfold isPlainPath
    rw [Bool.and_eq_true, Bool.and_eq_true]
    exact ⟨⟨clean, noFragment⟩, noQuery⟩
  · intro plain
    have split : ∀ character ∈ path, ((!isRemoved character) = true ∧
        decide (character ≠ '#') = true) ∧ decide (character ≠ '?') = true := by
      intro character member
      have isPlain := plain character member
      unfold isPlainPath at isPlain
      rwa [Bool.and_eq_true, Bool.and_eq_true] at isPlain
    unfold readPath
    rw [List.filter_eq_self.mpr fun character member => (split character member).1.1,
      List.takeWhile_eq_self_iff.mpr fun character member => (split character member).1.2,
      List.takeWhile_eq_self_iff.mpr fun character member => (split character member).2]

/-! ### Hosts -/

/-- What the text of a host or of a port may have. -/
def isHostCharacter (character : Char) : Bool :=
  isNetlocCharacter character && character ≠ '@' && character ≠ '[' && character ≠ ']'

theorem isHostCharacter_of_isDigit {character : Char} (digit : character.isDigit = true) :
    isHostCharacter character = true := by
  have range : 48 ≤ character.toNat ∧ character.toNat ≤ 57 := by
    simpa [Char.isDigit, UInt32.le_iff_toNat_le] using digit
  have other : ∀ mark : Char, mark.isDigit = false → character ≠ mark := by
    rintro mark noDigit rfl
    rw [digit] at noDigit
    cases noDigit
  have ascii : character.toNat < 0x80 := by omega
  simp only [isHostCharacter, isNetlocCharacter, isRemoved, isDelimiter, Bool.and_eq_true,
    Bool.not_eq_true', Bool.or_eq_false_iff, decide_eq_true_eq, decide_eq_false_iff_not]
  exact ⟨⟨⟨⟨⟨ascii, ⟨other '\t' rfl, other '\r' rfl⟩, other '\n' rfl⟩,
    ⟨other '/' rfl, other '?' rfl⟩, other '#' rfl⟩, other '@' rfl⟩, other '[' rfl⟩, other ']' rfl⟩

theorem isHost_hostPort {host : Text} (isHost : host.all isHostCharacter = true) (port : Nat) :
    (host ++ ':' :: Nat.toDigits 10 port).all isHostCharacter = true := by
  have digits : (Nat.toDigits 10 port).all isHostCharacter = true := by
    rw [List.all_eq_true]
    intro digit member
    exact isHostCharacter_of_isDigit (Nat.isDigit_of_mem_toDigits (by decide) (by decide) member)
  rw [List.all_append, isHost, List.all_cons, digits]
  rfl

theorem plain_of_isHost {host : Text} (isHost : host.all isHostCharacter = true) :
    host.all isNetlocCharacter = true := by
  rw [List.all_eq_true] at isHost ⊢
  intro character member
  have allowed := isHost character member
  unfold isHostCharacter at allowed
  rw [Bool.and_eq_true, Bool.and_eq_true, Bool.and_eq_true] at allowed
  exact allowed.1.1.1

theorem notMem_of_isHost {host : Text} (isHost : host.all isHostCharacter = true) {mark : Char}
    (noHost : isHostCharacter mark = false) : mark ∉ host := by
  intro member
  have allowed := List.all_eq_true.mp isHost mark member
  rw [noHost] at allowed
  cases allowed

theorem splitUser_absent {netloc : Text} (noUser : '@' ∉ netloc) :
    splitUser netloc = (none, netloc) := by
  unfold splitUser
  rw [Text.splitLast_eq_none noUser]

theorem splitUser_append {host : Text} (user : Text) (absent : '@' ∉ host) :
    splitUser (user ++ '@' :: host) = (some user, host) := by
  unfold splitUser
  rw [Text.splitLast_append user absent]

/-- The only colon is the one of the port. -/
theorem splitPort_host {portColon : PortColon} {host port : Text} (noOpen : '[' ∉ host ++ ':' :: port)
    (noColon : ':' ∉ host) (noPortColon : ':' ∉ port) :
    splitPort portColon (host ++ ':' :: port) = (host, port) := by
  unfold splitPort
  rw [if_neg noOpen]
  cases portColon with
  | first => exact splitMark_append port noColon
  | last =>
      dsimp only
      rw [Text.splitLast_append host noPortColon]
      rfl

/-- The last colon is the one of the port. -/
theorem splitPort_last {host port : Text} (noOpen : '[' ∉ host ++ ':' :: port)
    (noPortColon : ':' ∉ port) : splitPort .last (host ++ ':' :: port) = (host, port) := by
  unfold splitPort
  rw [if_neg noOpen]
  dsimp only
  rw [Text.splitLast_append host noPortColon]
  rfl

/-- The first of several colons leaves others in the port. -/
theorem splitPort_first {host port : Text} (noOpen : '[' ∉ host ++ ':' :: port)
    (colon : ':' ∈ host) : ':' ∈ (splitPort .first (host ++ ':' :: port)).2 := by
  obtain ⟨left, right, rfl, absent⟩ := List.eq_append_cons_of_mem colon
  have split : splitPort .first (left ++ ':' :: right ++ ':' :: port) =
      (left, right ++ ':' :: port) := by
    unfold splitPort
    rw [if_neg noOpen, List.append_assoc, List.cons_append]
    exact splitMark_append _ absent
  rw [split]
  exact List.mem_append_right right List.mem_cons_self

theorem splitPort_none {portColon : PortColon} {host : Text} (noOpen : '[' ∉ host)
    (noColon : ':' ∉ host) : splitPort portColon host = (host, []) := by
  unfold splitPort
  rw [if_neg noOpen]
  cases portColon with
  | first => exact splitMark_absent noColon
  | last =>
      dsimp only
      rw [Text.splitLast_eq_none noColon]
      rfl

theorem splitPort_bracketed {portColon : PortColon} {address : Text} (noClose : ']' ∉ address) :
    splitPort portColon ('[' :: (address ++ [']'])) = (address, []) := by
  have opened : splitMark '[' ('[' :: (address ++ [']'])) = ([], address ++ [']']) :=
    splitMark_append (address ++ [']']) List.not_mem_nil
  have closed : splitMark ']' (address ++ [']']) = (address, []) := splitMark_append [] noClose
  unfold splitPort
  rw [if_pos List.mem_cons_self, opened]
  dsimp only
  rw [closed]
  rfl

/-! ### Ports -/

theorem parsePort_toDigits {number : Nat} (inRange : number ≤ 65535) :
    parsePort (Nat.toDigits 10 number) = .ok (some number) := by
  have allDigits : (Nat.toDigits 10 number).all Char.isDigit = true := by
    rw [List.all_eq_true]
    intro digit member
    exact Nat.isDigit_of_mem_toDigits (by decide) (by decide) member
  unfold parsePort
  rw [if_neg Nat.toDigits_ne_nil, if_pos allDigits, Text.ofDigits_toDigits, if_pos inRange]

/-- A colon is no digit. -/
theorem parsePort_colon {text : Text} (member : ':' ∈ text) :
    parsePort text = .error .invalidPort := by
  have nonempty : text ≠ [] := List.ne_nil_of_mem member
  have notDigits : ¬text.all Char.isDigit = true := by
    intro allDigits
    exact absurd (List.all_eq_true.mp allDigits ':' member) (by decide)
  unfold parsePort
  rw [if_neg nonempty, if_neg notDigits]

theorem notMem_toDigits {number : Nat} {character : Char} (noDigit : character.isDigit = false) :
    character ∉ Nat.toDigits 10 number := by
  intro member
  have digit := Nat.isDigit_of_mem_toDigits (by decide) (by decide) member
  rw [noDigit] at digit
  cases digit

/-- The rules of the library, on texts in ASCII, with one address of IPv6. -/
def libraryRules : Rules where
  portColon := .first
  lower text := text
  isAddress text := text = "::1".toList
  isNormal _ := true

end Url

end Tobiko.Foundation
