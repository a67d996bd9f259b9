import Mathlib.Data.List.Basic

/-!
Contract: the lexer of `shlex` for POSIX shells, with `whitespace_split`.

Owns: the states of the lexer, the tokens of a text, how words and quoted texts are read, that
a text which begins with a quote is not read as itself, and that the tokens come to an end.

Does not own: how a text is quoted.
-/

namespace Tobiko.Foundation.Shlex

/-- The `state` of the lexer: between the tokens, in a word, in quotes, after a backslash, or
past the end of the text. -/
inductive LexState where
  | blank
  | word
  | quotes (mark : Char)
  | escape
  | past
  deriving DecidableEq

inductive LexError where
  /-- `ValueError("No closing quotation")` -/
  | noClosingQuotation
  /-- `ValueError("No escaped character")` -/
  | noEscapedCharacter
  deriving DecidableEq

def isWhitespace (character : Char) : Bool := character ∈ [' ', '\t', '\r', '\n']

def isQuote (character : Char) : Bool := character ∈ ['\'', '"']

/-- What is left of the text after `instream.readline()`. -/
def readline : List Char → List Char
  | [] => []
  | character :: rest => if character = '\n' then rest else readline rest

/-- What `read_token` returns, with the state and the text that it leaves. -/
structure Token where
  text : Option (List Char)
  state : LexState
  rest : List Char
  deriving DecidableEq

def emit (token : List Char) (quoted : Bool) (state : LexState) (rest : List Char) : Token :=
  ⟨if token = [] ∧ quoted = false then none else some token, state, rest⟩

/-- `read_token`; while `skipping`, the rest of a comment's line is being read. In a word all
characters count that are not treated otherwise, as with `whitespace_split`. -/
def readToken (skipping : Bool) (state : LexState) (token : List Char) (quoted : Bool)
    (escapedState : LexState) : List Char → Except LexError Token
  | [] =>
      match state with
      | .quotes _ => .error .noClosingQuotation
      | .escape => .error .noEscapedCharacter
      | .past => .ok (emit [] quoted .past [])
      | .blank => .ok (emit token quoted .past [])
      | .word => .ok (emit token quoted .past [])
  | character :: rest =>
      if skipping then
        readToken (character != '\n') state token quoted escapedState rest
      else
        match state with
        | .past => .ok (emit [] quoted .past rest)
        | .blank =>
            if isWhitespace character then
              if token ≠ [] ∨ quoted then .ok (emit token quoted .blank rest)
              else readToken false .blank token quoted escapedState rest
            else if character = '#' then readToken true .blank token quoted escapedState rest
            else if character = '\\' then readToken false .escape token quoted .word rest
            else if isQuote character then
              readToken false (.quotes character) token quoted escapedState rest
            else readToken false .word [character] quoted escapedState rest
        | .quotes mark =>
            if character = mark then readToken false .word token true escapedState rest
            else if character = '\\' ∧ mark = '"' then
              readToken false .escape token true (.quotes mark) rest
            else readToken false (.quotes mark) (token ++ [character]) true escapedState rest
        | .escape =>
            match escapedState with
            | .quotes mark =>
                if character ≠ '\\' ∧ character ≠ mark then
                  readToken false (.quotes mark) (token ++ ['\\', character]) quoted (.quotes mark)
                    rest
                else readToken false (.quotes mark) (token ++ [character]) quoted (.quotes mark)
                  rest
            | other => readToken false other (token ++ [character]) quoted other rest
        | .word =>
            if isWhitespace character then
              if token ≠ [] ∨ quoted then .ok (emit token quoted .blank rest)
              else readToken false .blank token quoted escapedState rest
            else if character = '#' then
              if token ≠ [] ∨ quoted then .ok (emit token quoted .blank (readline rest))
              else readToken true .blank token quoted escapedState rest
            else if isQuote character then
              readToken false (.quotes character) token quoted escapedState rest
            else if character = '\\' then readToken false .escape token quoted .word rest
            else readToken false .word (token ++ [character]) quoted escapedState rest

section Equations

variable (skipping : Bool) (state : LexState) (token : List Char) (quoted : Bool)
  (escapedState : LexState)

theorem readToken_nil : readToken skipping state token quoted escapedState [] =
    match state with
    | .quotes _ => .error .noClosingQuotation
    | .escape => .error .noEscapedCharacter
    | .past => .ok (emit [] quoted .past [])
    | .blank => .ok (emit token quoted .past [])
    | .word => .ok (emit token quoted .past []) :=
  rfl

/-- What one character does. -/
theorem readToken_cons (character : Char) (rest : List Char) :
    readToken skipping state token quoted escapedState (character :: rest) =
    if skipping then
      readToken (character != '\n') state token quoted escapedState rest
    else
      match state with
      | .past => .ok (emit [] quoted .past rest)
      | .blank =>
          if isWhitespace character then
            if token ≠ [] ∨ quoted then .ok (emit token quoted .blank rest)
            else readToken false .blank token quoted escapedState rest
          else if character = '#' then readToken true .blank token quoted escapedState rest
          else if character = '\\' then readToken false .escape token quoted .word rest
          else if isQuote character then
            readToken false (.quotes character) token quoted escapedState rest
          else readToken false .word [character] quoted escapedState rest
      | .quotes mark =>
          if character = mark then readToken false .word token true escapedState rest
          else if character = '\\' ∧ mark = '"' then
            readToken false .escape token true (.quotes mark) rest
          else readToken false (.quotes mark) (token ++ [character]) true escapedState rest
      | .escape =>
          match escapedState with
          | .quotes mark =>
              if character ≠ '\\' ∧ character ≠ mark then
                readToken false (.quotes mark) (token ++ ['\\', character]) quoted (.quotes mark)
                  rest
              else readToken false (.quotes mark) (token ++ [character]) quoted (.quotes mark)
                rest
          | other => readToken false other (token ++ [character]) quoted other rest
      | .word =>
          if isWhitespace character then
            if token ≠ [] ∨ quoted then .ok (emit token quoted .blank rest)
            else readToken false .blank token quoted escapedState rest
          else if character = '#' then
            if token ≠ [] ∨ quoted then .ok (emit token quoted .blank (readline rest))
            else readToken true .blank token quoted escapedState rest
          else if isQuote character then
            readToken false (.quotes character) token quoted escapedState rest
          else if character = '\\' then readToken false .escape token quoted .word rest
          else readToken false .word (token ++ [character]) quoted escapedState rest :=
  rfl

end Equations

/-- The tokens up to the end of the text. It ends in `none` when `fuel` does not suffice. -/
def readTokens : Nat → LexState → List Char → Option (Except LexError (List (List Char)))
  | 0, _, _ => none
  | fuel + 1, state, text =>
      match readToken false state [] false .blank text with
      | .error error => some (.error error)
      | .ok token =>
          match token.text with
          | none => some (.ok [])
          | some word =>
              (readTokens fuel token.state token.rest).map fun tokens =>
                tokens.map fun words => word :: words

/-- `list(shlex.shlex(text, posix=True))`, with `whitespace_split` set. -/
def split (fuel : Nat) (text : List Char) : Option (Except LexError (List (List Char))) :=
  readTokens fuel .blank text

/-! ### Words -/

/-- A character that is read as itself outside quotes. -/
def IsPlain (character : Char) : Prop :=
  isWhitespace character = false ∧ character ≠ '#' ∧ isQuote character = false ∧
    character ≠ '\\'

section Reading

variable {token text rest : List Char} {quoted : Bool} {escapedState : LexState}

theorem readToken_word (plain : ∀ character ∈ text, IsPlain character) :
    readToken false .word token quoted escapedState (text ++ rest) =
      readToken false .word (token ++ text) quoted escapedState rest := by
  induction text generalizing token with
  | nil => rw [List.nil_append, List.append_nil]
  | cons character text inductionHypothesis =>
      obtain ⟨noSpace, noComment, noQuote, noEscape⟩ := plain character List.mem_cons_self
      rw [List.cons_append, readToken_cons]
      simp only [noSpace, noComment, noQuote, noEscape, if_false, Bool.false_eq_true]
      rw [inductionHypothesis fun other member => plain other (List.mem_cons_of_mem _ member),
        List.append_assoc]
      rfl

theorem readToken_plain {character : Char} (plain : ∀ other ∈ character :: text, IsPlain other) :
    readToken false .blank [] quoted escapedState (character :: text ++ rest) =
      readToken false .word (character :: text) quoted escapedState rest := by
  obtain ⟨noSpace, noComment, noQuote, noEscape⟩ := plain character List.mem_cons_self
  rw [List.cons_append, readToken_cons]
  simp only [noSpace, noComment, noQuote, noEscape, if_false, Bool.false_eq_true]
  exact readToken_word fun other member => plain other (List.mem_cons_of_mem _ member)

/-! ### Single quotes -/

theorem readToken_closing {mark : Char} :
    readToken false (.quotes mark) token quoted escapedState (mark :: rest) =
      readToken false .word token true escapedState rest := by
  rw [readToken_cons]
  simp only [if_true, if_false, Bool.false_eq_true]

theorem readToken_opening {mark : Char} (isMark : isQuote mark = true) :
    readToken false .word token quoted escapedState (mark :: rest) =
      readToken false (.quotes mark) token quoted escapedState rest := by
  have choice : mark = '\'' ∨ mark = '"' := by simpa [isQuote] using isMark
  rw [readToken_cons]
  rcases choice with rfl | rfl
  · rfl
  · rfl

theorem readToken_first_quote :
    readToken false .blank token quoted escapedState ('\'' :: rest) =
      readToken false (.quotes '\'') token quoted escapedState rest :=
  rfl

theorem readToken_single_quoted {character : Char} (other : character ≠ '\'') :
    readToken false (.quotes '\'') token quoted escapedState (character :: rest) =
      readToken false (.quotes '\'') (token ++ [character]) true escapedState rest := by
  have noEscape : ¬(character = '\\' ∧ '\'' = '"') := fun both => absurd both.2 (by decide)
  rw [readToken_cons]
  simp only [other, noEscape, if_false, Bool.false_eq_true]

theorem readToken_double_quoted {character : Char} (noEscape : character ≠ '\\')
    (other : character ≠ '"') :
    readToken false (.quotes '"') token quoted escapedState (character :: rest) =
      readToken false (.quotes '"') (token ++ [character]) true escapedState rest := by
  rw [readToken_cons]
  simp only [other, noEscape, false_and, if_false, Bool.false_eq_true]

/-! ### The end of a token -/

theorem emit_present {state : LexState} (present : token ≠ [] ∨ quoted = true) :
    emit token quoted state rest = ⟨some token, state, rest⟩ := by
  have notEmpty : ¬(token = [] ∧ quoted = false) := by
    rintro ⟨empty, unquoted⟩
    rcases present with nonempty | isQuoted
    · exact nonempty empty
    · rw [isQuoted] at unquoted
      cases unquoted
  rw [emit, if_neg notEmpty]

theorem readToken_end (present : token ≠ [] ∨ quoted = true) :
    readToken false .word token quoted escapedState [] = .ok ⟨some token, .past, []⟩ := by
  rw [readToken_nil, emit_present present]

theorem readToken_space (present : token ≠ [] ∨ quoted = true) :
    readToken false .word token quoted escapedState (' ' :: rest) =
      .ok ⟨some token, .blank, rest⟩ := by
  have isSpace : isWhitespace ' ' = true := by decide
  rw [readToken_cons]
  simp only [isSpace, present, emit_present present, if_true, if_false, Bool.false_eq_true]

/-! ### Texts that begin with a quote -/

/-- Where a token has begun, so that a blank outside quotes ends it. -/
def InToken (token : List Char) (quoted : Bool) (escapedState : LexState) : LexState → Prop
  | .word => token ≠ [] ∨ quoted = true
  | .quotes mark => isQuote mark = true
  | .escape => escapedState = .word ∨ ∃ mark, isQuote mark = true ∧ escapedState = .quotes mark
  | .blank => False
  | .past => False

/-- The backslash that is read before its effect is known. -/
def pending : LexState → Nat
  | .escape => 1
  | _ => 0

/-- What one character does within a token: it ends the token, or it is put to the token, with
a backslash before it at most, or it is left out and is no blank. -/
theorem readToken_within {state : LexState} (within : InToken token quoted escapedState state)
    (character : Char) (rest : List Char) :
    (∃ after left, readToken false state token quoted escapedState (character :: rest) =
        .ok ⟨some token, after, left⟩) ∨
      ∃ nextState read nextQuoted nextEscaped,
        InToken (token ++ read) nextQuoted nextEscaped nextState ∧
        readToken false state token quoted escapedState (character :: rest) =
          readToken false nextState (token ++ read) nextQuoted nextEscaped rest ∧
        read.length + pending nextState ≤ 1 + pending state ∧
        read.count ' ' = [character].count ' ' := by
  have markCount : ∀ mark, isQuote mark = true → [mark].count ' ' = 0 := by
    intro mark isMark
    have choice : mark = '\'' ∨ mark = '"' := by simpa [isQuote] using isMark
    rcases choice with rfl | rfl <;> decide
  cases state with
  | blank => exact within.elim
  | past => exact within.elim
  | quotes mark =>
      rw [readToken_cons]
      simp only [if_false, Bool.false_eq_true]
      right
      by_cases closes : character = mark
      · subst closes
        rw [if_pos rfl]
        exact ⟨.word, [], true, escapedState, .inr rfl, by rw [List.append_nil],
          by simp [pending], (markCount _ within).symm⟩
      rw [if_neg closes]
      by_cases escapes : character = '\\' ∧ mark = '"'
      · rw [if_pos escapes]
        refine ⟨.escape, [], true, .quotes mark, .inr ⟨mark, within, rfl⟩, by rw [List.append_nil],
          by simp [pending], ?_⟩
        rw [escapes.1]
        decide
      · rw [if_neg escapes]
        exact ⟨.quotes mark, [character], true, escapedState, within, rfl, by simp [pending], rfl⟩
  | escape =>
      rcases within with rfl | ⟨mark, isMark, rfl⟩
      · exact .inr ⟨.word, [character], quoted, .word, .inl (by simp), rfl, by simp [pending], rfl⟩
      · by_cases kept : character ≠ '\\' ∧ character ≠ mark
        · refine .inr ⟨.quotes mark, ['\\', character], quoted, .quotes mark, isMark, ?_,
            by simp [pending], by simp [List.count_cons]⟩
          rw [readToken_cons]
          simp only [if_false, Bool.false_eq_true]
          rw [if_pos kept]
        · refine .inr ⟨.quotes mark, [character], quoted, .quotes mark, isMark, ?_,
            by simp [pending], rfl⟩
          rw [readToken_cons]
          simp only [if_false, Bool.false_eq_true]
          rw [if_neg kept]
  | word =>
      have present : token ≠ [] ∨ quoted = true := within
      rw [readToken_cons]
      simp only [if_false, if_true, Bool.false_eq_true, present, emit_present present]
      by_cases space : isWhitespace character = true
      · rw [if_pos space]
        exact .inl ⟨_, _, rfl⟩
      rw [if_neg space]
      by_cases comment : character = '#'
      · rw [if_pos comment]
        exact .inl ⟨_, _, rfl⟩
      rw [if_neg comment]
      right
      by_cases opens : isQuote character = true
      · rw [if_pos opens]
        exact ⟨.quotes character, [], quoted, escapedState, opens, by rw [List.append_nil],
          by simp [pending], (markCount _ opens).symm⟩
      rw [if_neg opens]
      by_cases escapes : character = '\\'
      · subst escapes
        rw [if_pos rfl]
        exact ⟨.escape, [], quoted, .word, .inl rfl, by rw [List.append_nil], by simp [pending],
          by decide⟩
      · rw [if_neg escapes]
        exact ⟨.word, [character], quoted, escapedState, .inl (by simp), rfl, by simp [pending],
          rfl⟩

theorem readToken_extends {state after : LexState} {word left : List Char}
    (within : InToken token quoted escapedState state)
    (reads : readToken false state token quoted escapedState text =
      .ok ⟨some word, after, left⟩) :
    token <+: word := by
  induction text generalizing state token quoted escapedState with
  | nil =>
      cases state with
      | blank => exact within.elim
      | past => exact within.elim
      | quotes mark => cases reads
      | escape => cases reads
      | word =>
          rw [readToken_end within] at reads
          cases reads
          exact List.prefix_rfl
  | cons character text inductionHypothesis =>
      obtain ⟨next, others, ends⟩ | ⟨nextState, read, nextQuoted, nextEscaped, inside, goesOn, -⟩ :=
        readToken_within within character text
      · rw [ends] at reads
        cases reads
        exact List.prefix_rfl
      · rw [goesOn] at reads
        exact (List.prefix_append _ _).trans (inductionHypothesis inside reads)

/-- A token that is read up to the blank behind `text` is no longer than what was read, and one
that is read past it has one blank more. The induction is on `text`. -/
theorem readToken_length_or_count {state after : LexState} {word left tail : List Char}
    (within : InToken token quoted escapedState state)
    (behind : tail = [] ∨ ∃ more, tail = ' ' :: more)
    (reads : readToken false state token quoted escapedState (text ++ tail) =
      .ok ⟨some word, after, left⟩) :
    word.length ≤ token.length + text.length + pending state ∨
      token.count ' ' + text.count ' ' < word.count ' ' := by
  induction text generalizing state token quoted escapedState with
  | nil =>
      rcases behind with rfl | ⟨more, rfl⟩
      · cases state with
        | blank => exact within.elim
        | past => exact within.elim
        | quotes mark => cases reads
        | escape => cases reads
        | word =>
            rw [List.nil_append, readToken_end within] at reads
            cases reads
            exact .inl (by simp)
      · rw [List.nil_append] at reads
        obtain ⟨next, others, ends⟩ | ⟨nextState, read, nextQuoted, nextEscaped, inside, goesOn, -,
          blanks⟩ := readToken_within within ' ' more
        · rw [ends] at reads
          cases reads
          exact .inl (by simp)
        · rw [goesOn] at reads
          have counted := (readToken_extends inside reads).sublist.count_le ' '
          rw [List.count_append, blanks] at counted
          exact .inr counted
  | cons character text inductionHypothesis =>
      rw [List.cons_append] at reads
      obtain ⟨next, others, ends⟩ | ⟨nextState, read, nextQuoted, nextEscaped, inside, goesOn,
        shorter, blanks⟩ := readToken_within within character (text ++ tail)
      · rw [ends] at reads
        cases reads
        exact .inl (by rw [Nat.add_assoc]; exact Nat.le_add_right _ _)
      · rw [goesOn] at reads
        have split : (character :: text).count ' ' = [character].count ' ' + text.count ' ' := by
          rw [← List.count_append, List.singleton_append]
        rcases inductionHypothesis inside reads with short | long
        · left
          rw [List.length_append] at short
          rw [List.length_cons]
          omega
        · right
          rw [List.count_append, blanks] at long
          omega

/-- **A text that begins with a quote is not read as itself.** The quote is taken away, so the
token would have to end behind the text; it would then have one blank more than the text. -/
theorem readToken_mark_ne {mark : Char} {tail left : List Char} {after : LexState}
    (isMark : isQuote mark = true) (behind : tail = [] ∨ ∃ more, tail = ' ' :: more) :
    readToken false .blank [] false .blank (mark :: text ++ tail) ≠
      .ok ⟨some (mark :: text), after, left⟩ := by
  intro reads
  have opens : readToken false .blank [] false .blank (mark :: text ++ tail) =
      readToken false (.quotes mark) [] false .blank (text ++ tail) := by
    have choice : mark = '\'' ∨ mark = '"' := by simpa [isQuote] using isMark
    rcases choice with rfl | rfl <;> rfl
  have noBlank : mark ≠ ' ' := by
    rintro rfl
    exact absurd isMark (by decide)
  rw [opens] at reads
  have within : InToken [] false .blank (.quotes mark) := isMark
  rcases readToken_length_or_count within behind reads with short | long
  · simp only [List.length_cons, List.length_nil, pending] at short
    omega
  · rw [List.count_cons_of_ne noBlank] at long
    simp at long

end Reading

/-! ### The end of the text -/

theorem length_readline (text : List Char) : (readline text).length ≤ text.length := by
  induction text with
  | nil => exact Nat.le_refl _
  | cons character rest inductionHypothesis =>
      rw [readline]
      split
      · exact Nat.le_succ _
      · exact Nat.le_trans inductionHypothesis (Nat.le_succ _)

/-- A token is read from one character at least, unless the text has none. -/
theorem readToken_length {skipping quoted : Bool} {state escapedState : LexState}
    {token text : List Char} {read : Token}
    (reads : readToken skipping state token quoted escapedState text = .ok read) :
    read.rest.length ≤ text.length - 1 := by
  induction text generalizing skipping state token quoted escapedState with
  | nil =>
      rw [readToken_nil] at reads
      split at reads
      all_goals cases reads
      all_goals exact Nat.le_refl _
  | cons character rest inductionHypothesis =>
      have shorter := length_readline rest
      have goesOn : ∀ {skipping quoted : Bool} {state escapedState : LexState} {token : List Char},
          readToken skipping state token quoted escapedState rest = .ok read →
            read.rest.length ≤ rest.length :=
        fun reads => Nat.le_trans (inductionHypothesis reads) (Nat.sub_le _ _)
      have ends : ∀ {token : List Char} {quoted : Bool} {state : LexState} {left : List Char},
          (.ok (emit token quoted state left) : Except LexError Token) = .ok read →
            left.length ≤ rest.length → read.rest.length ≤ rest.length := by
        intro token quoted state left reads short
        cases reads
        exact short
      rw [List.length_cons, Nat.add_sub_cancel]
      rw [readToken_cons] at reads
      split at reads
      · exact goesOn reads
      · cases state with
        | past => exact ends reads (Nat.le_refl _)
        | blank =>
            simp only at reads
            split_ifs at reads
            · exact ends reads (Nat.le_refl _)
            all_goals exact goesOn reads
        | word =>
            simp only at reads
            split_ifs at reads
            · exact ends reads (Nat.le_refl _)
            · exact goesOn reads
            · exact ends reads shorter
            all_goals exact goesOn reads
        | quotes mark =>
            simp only at reads
            split_ifs at reads
            all_goals exact goesOn reads
        | escape =>
            cases escapedState with
            | quotes mark =>
                simp only at reads
                split_ifs at reads
                all_goals exact goesOn reads
            | blank => exact goesOn reads
            | word => exact goesOn reads
            | escape => exact goesOn reads
            | past => exact goesOn reads

theorem readTokens_isSome {fuel : Nat} {state : LexState} {text : List Char}
    (enough : text.length < fuel) : (readTokens fuel state text).isSome := by
  induction fuel generalizing state text with
  | zero => exact absurd enough (Nat.not_lt_zero _)
  | succ fuel inductionHypothesis =>
      unfold readTokens
      cases reads : readToken false state [] false .blank text with
      | error error => rfl
      | ok token =>
          cases found : token.text with
          | none => simp only [found, Option.isSome_some]
          | some word =>
              simp only [found, Option.isSome_map]
              have shorter := readToken_length reads
              cases text with
              | nil =>
                  -- At the end of the text no token is left.
                  cases state with
                  | quotes mark => cases reads
                  | escape => cases reads
                  | blank => cases reads; cases found
                  | word => cases reads; cases found
                  | past => cases reads; cases found
              | cons character rest =>
                  refine inductionHypothesis ?_
                  simp only [List.length_cons] at shorter enough
                  omega

end Tobiko.Foundation.Shlex
