import EntityQuery.Sql.Word

/-!
# Tokens of statements

The text of a statement is read as a list of `Token`s: words, names in quotes,
texts, blobs, numbers, parameters and signs. Blanks and comments in between mean
nothing (`afterBlank?`). What is no token, such as a name whose quotes are not
closed, is kept as `Token.illegal`.

A NUL ends the text of a statement (`chars`). `scan` reads all tokens; `scanLexemes`
also keeps where each one starts and ends, so that a fault can be shown in the text.
-/

namespace EntityQuery.Sql

/-- A token of a statement. -/
inductive Token where
  /-- A name or a word of the language. -/
  | word (s : String)
  /-- A name in quotes, with the mark that opens them. -/
  | quoted (mark : Char) (s : String)
  | text (s : String)
  /-- A blob, by its digits. -/
  | blob (digits : String)
  /-- A parameter, with the character that marks it as one. -/
  | parameter (s : String)
  | number (n : Nat)
  /-- A number that is not whole, or not in decimal digits. -/
  | decimal (s : String)
  /-- An operator, a parenthesis, a point, a comma or a semicolon. -/
  | sign (s : String)
  /-- What is no token. -/
  | illegal (s : String)
  deriving DecidableEq, Repr

namespace Token

/-- Whether the character starts a blank between tokens. -/
def isSpace (c : Char) : Bool :=
  c == ' ' || c == '\t' || c == '\n' || c == '\x0c' || c == '\r'

/-- Whether the character may start a name: every one beyond ASCII may. -/
def startsName (c : Char) : Bool := c.isAlpha || c == '_' || 0x80 ≤ c.toNat

/-- Whether the character may go on in a name. -/
def continuesName (c : Char) : Bool := startsName c || c.isDigit || c == '$'

/-- Whether the character marks a parameter. -/
def marksParameter (c : Char) : Bool := c == '@' || c == ':' || c == '$' || c == '#'

/-- The text after a comment between marks. -/
def afterComment : List Char → List Char
  | [] => []
  | c :: cs =>
    match c, cs with
    | '*', '/' :: rest => rest
    | _, _ => afterComment cs

/-- The text after the blank or the comment that starts with the character `c`, if
    there is one. A mark of bytes is a blank, and two signs at the very end of a
    text are no comment. -/
def afterBlank? (c : Char) (cs : List Char) : Option (List Char) :=
  if isSpace c then some (cs.dropWhile fun d => isSpace d || d == '\x0b')
  else if c == '\ufeff' then some cs
  else
    match c, cs with
    | '-', '-' :: rest => some (rest.dropWhile (· != '\n'))
    | '/', '*' :: d :: rest => some (afterComment (d :: rest))
    | _, _ => none

/-- What comes before a mark that stands alone, in which a mark that is written
    twice stands for one, and the text after it. -/
def untilMark (mark : Char) : List Char → Option (List Char × List Char)
  | [] => none
  | c :: cs =>
    if c != mark then (untilMark mark cs).map fun (s, rest) => (c :: s, rest)
    else
      match cs with
      | d :: rest =>
        if d == mark then (untilMark mark rest).map fun (s, rest) => (mark :: s, rest)
        else some ([], d :: rest)
      | [] => some ([], [])

/-- What comes before the bracket that closes a name, and the text after it. -/
def untilBracket (cs : List Char) : Option (List Char × List Char) :=
  match cs.dropWhile (· != ']') with
  | _ :: rest => some (cs.takeWhile (· != ']'), rest)
  | [] => none

/-- Whether the character may stand in a number: digits may have marks in between. -/
def isDigitOrMark (c : Char) : Bool := c.isDigit || c == '_'

/-- Whether the character is a hexadecimal digit. -/
def isHexDigit (c : Char) : Bool :=
  c.isDigit || ('a' ≤ c && c ≤ 'f') || ('A' ≤ c && c ≤ 'F')

/-- The text after the part of a number that follows its point. -/
def afterFraction : List Char → List Char
  | '.' :: cs => cs.dropWhile isDigitOrMark
  | cs => cs

/-- The text after the power of a number. -/
def afterPower (cs : List Char) : List Char :=
  match cs with
  | e :: d :: rest =>
    if e == 'e' || e == 'E' then
      if d.isDigit then rest.dropWhile isDigitOrMark
      else
        match rest with
        | f :: rest =>
          if (d == '+' || d == '-') && f.isDigit then rest.dropWhile isDigitOrMark else cs
        | [] => cs
    else cs
  | cs => cs

/-- The text after a number that starts with the character `c`. -/
def afterNumber (c : Char) (cs : List Char) : List Char :=
  match c, cs with
  | '0', x :: h :: rest =>
    if (x == 'x' || x == 'X') && isHexDigit h then
      rest.dropWhile fun d => isHexDigit d || d == '_'
    else afterPower (afterFraction (cs.dropWhile isDigitOrMark))
  | '.', cs => afterPower (cs.dropWhile isDigitOrMark)
  | _, cs => afterPower (afterFraction (cs.dropWhile isDigitOrMark))

/-- The text after a parameter, and whether it is one; `named` if it has a name
    already. A name may have parts between double colons, and a suffix in
    parentheses. -/
def afterParameter (named : Bool) : List Char → List Char × Bool
  | [] => ([], named)
  | c :: cs =>
    if continuesName c then afterParameter true cs
    else if c == '(' && named then
      match cs.dropWhile fun d => !isSpace d && d != '\x0b' && d != ')' with
      | d :: rest => if d == ')' then (rest, true) else (d :: rest, false)
      | [] => ([], false)
    else
      match c, cs with
      | ':', ':' :: rest => afterParameter named rest
      | _, _ => (c :: cs, named)

/-- The signs, each before those that it starts with. -/
def signs : List (List Char) := [
  ['-', '>', '>'], ['-', '>'], ['<', '='], ['<', '>'], ['<', '<'], ['>', '='], ['>', '>'],
  ['=', '='], ['!', '='], ['|', '|'], ['('], [')'], [','], [';'], ['='], ['<'], ['>'], ['*'],
  ['+'], ['-'], ['/'], ['%'], ['&'], ['|'], ['~'], ['.']]

/-- The number that digits spell. -/
def numberOf (digits : List Char) : Nat :=
  digits.foldl (fun n c => 10 * n + (c.toNat - '0'.toNat)) 0

/-- The number that hexadecimal digits spell. -/
def hexNumberOf (digits : List Char) : Nat :=
  digits.foldl (fun n c => 16 * n + (if c.isDigit then c.toNat - '0'.toNat
    else c.toLower.toNat - 'a'.toNat + 10)) 0

/-- Whether the marks in a number each have a digit on both sides. -/
def marksDigits : List Char → Bool
  | [] => true
  | [c] => c != '_'
  | c :: d :: rest =>
    (c != '_' || isHexDigit d) && (d != '_' || isHexDigit c) && marksDigits (d :: rest)

/-- The token that the text of a number is. -/
def ofNumber (s : List Char) : Token :=
  let digits := s.filter (· != '_')
  if !marksDigits s then illegal (String.ofList s)
  else if digits.all Char.isDigit then number (numberOf digits)
  else
    match digits with
    | _ :: x :: hex =>
      if x == 'x' || x == 'X' then number (hexNumberOf hex) else decimal (String.ofList digits)
    | digits => decimal (String.ofList digits)

/-- The beginning of a text that has the given end. -/
def before (cs rest : List Char) : List Char := cs.take (cs.length - rest.length)

/-- Reads a number that starts with the character `c`; what could go on in a name
    may not follow it. -/
def readNumber (c : Char) (cs : List Char) : Token × List Char :=
  let rest := afterNumber c cs
  let after := rest.dropWhile continuesName
  if after.length = rest.length then (ofNumber (c :: before cs rest), rest)
  else (illegal (String.ofList (c :: before cs after)), after)

/-- Reads a parameter that starts with the character `c`. -/
def readParameter (c : Char) (cs : List Char) : Token × List Char :=
  if c == '?' then
    (parameter (String.ofList (c :: cs.takeWhile Char.isDigit)), cs.dropWhile Char.isDigit)
  else
    let (rest, legal) := afterParameter false cs
    let s := String.ofList (c :: before cs rest)
    (if legal then parameter s else illegal s, rest)

/-- Reads what stands between quotes of which `c` opens the first. -/
def readQuoted (c : Char) (cs : List Char) : Token × List Char :=
  match if c == '[' then untilBracket cs else untilMark c cs with
  | some (s, rest) =>
    (if c == '\'' then text (String.ofList s) else quoted c (String.ofList s), rest)
  | none => (illegal (String.ofList (c :: cs)), [])

/-- Reads a blob; its digits come in pairs. -/
def readBlob (c : Char) (cs : List Char) : Token × List Char :=
  let digits := (cs.drop 1).takeWhile isHexDigit
  match ((cs.drop 1).dropWhile isHexDigit).dropWhile (· != '\'') with
  | _ :: rest =>
    let closed : Bool := (cs.drop 1).length = digits.length + 1 + rest.length
    if closed && 2 * (digits.length / 2) = digits.length then (blob (String.ofList digits), rest)
    else (illegal (String.ofList (c :: before cs rest)), rest)
  | [] => (illegal (String.ofList (c :: cs)), [])

/-- Reads a sign. -/
def readSign (c : Char) (cs : List Char) : Token × List Char :=
  match signs.find? (·.isPrefixOf (c :: cs)) with
  | some s => (sign (String.ofList s), cs.drop (s.length - 1))
  | none => (illegal (String.ofList [c]), cs)

/-- Whether a text after the character `c` starts a blob. -/
def startsBlob (c : Char) (cs : List Char) : Bool :=
  (c == 'x' || c == 'X') && cs.head? == some '\''

/-- Whether the character is a mark that opens quotes. -/
def opensQuotes (c : Char) : Bool := c == '"' || c == '\x60' || c == '[' || c == '\''

/-- The token at the start of a text that begins with the character `c`, and the
    rest of the text. -/
def read (c : Char) (cs : List Char) : Token × List Char :=
  if startsBlob c cs then readBlob c cs
  else if startsName c then
    (word (String.ofList (c :: cs.takeWhile continuesName)), cs.dropWhile continuesName)
  else if c.isDigit || (c == '.' && cs.head?.any Char.isDigit) then readNumber c cs
  else if marksParameter c || c == '?' then readParameter c cs
  else if opensQuotes c then readQuoted c cs
  else readSign c cs

theorem length_dropWhile_le {α : Type} (p : α → Bool) (l : List α) :
    (l.dropWhile p).length ≤ l.length :=
  (List.dropWhile_sublist p).length_le

theorem length_afterComment_le (cs : List Char) : (afterComment cs).length ≤ cs.length := by
  induction cs with
  | nil => exact Nat.le_refl _
  | cons c cs ih =>
    simp only [afterComment]
    split
    · simp only [List.length_cons]
      omega
    · exact Nat.le_succ_of_le ih

/-- Passing over a blank shortens the text. -/
theorem length_afterBlank?_le {c : Char} {cs rest : List Char} (h : afterBlank? c cs = some rest) :
    rest.length ≤ cs.length := by
  simp only [afterBlank?] at h
  split at h
  · cases h
    exact length_dropWhile_le ..
  · split at h
    · cases h
      exact Nat.le_refl _
    · split at h
      · cases h
        exact Nat.le_succ_of_le (length_dropWhile_le ..)
      · cases h
        exact Nat.le_succ_of_le (length_afterComment_le _)
      · cases h

theorem length_untilMark_le {mark : Char} {cs s rest : List Char}
    (h : untilMark mark cs = some (s, rest)) : rest.length ≤ cs.length := by
  fun_induction untilMark mark cs generalizing s rest with
  | case1 => cases h
  | case2 c cs _ ih =>
    obtain ⟨⟨s', rest'⟩, h', he⟩ := Option.map_eq_some_iff.1 h
    cases he
    exact Nat.le_succ_of_le (ih h')
  | case3 c _ d rest' _ ih =>
    obtain ⟨⟨s', rest''⟩, h', he⟩ := Option.map_eq_some_iff.1 h
    cases he
    have := ih h'
    simp only [List.length_cons]
    omega
  | case4 =>
    cases h
    exact Nat.le_succ _
  | case5 =>
    cases h
    exact Nat.zero_le _

theorem length_untilBracket_le {cs s rest : List Char} (h : untilBracket cs = some (s, rest)) :
    rest.length ≤ cs.length := by
  simp only [untilBracket] at h
  split at h
  · next r hr =>
    cases h
    have := length_dropWhile_le (· != ']') cs
    rw [hr, List.length_cons] at this
    exact Nat.le_of_succ_le this
  · cases h

theorem length_afterFraction_le (cs : List Char) : (afterFraction cs).length ≤ cs.length := by
  simp only [afterFraction]
  split
  · exact Nat.le_succ_of_le (length_dropWhile_le ..)
  · exact Nat.le_refl _

theorem length_afterPower_le (cs : List Char) : (afterPower cs).length ≤ cs.length := by
  simp only [afterPower]
  split
  · next e d rest =>
    split
    · split
      · exact Nat.le_succ_of_le (Nat.le_succ_of_le (length_dropWhile_le ..))
      · split
        · next f rest' =>
          split
          · have := length_dropWhile_le isDigitOrMark rest'
            simp only [List.length_cons]
            omega
          · exact Nat.le_refl _
        · exact Nat.le_refl _
    · exact Nat.le_refl _
  · exact Nat.le_refl _

theorem length_afterNumber_le (c : Char) (cs : List Char) :
    (afterNumber c cs).length ≤ cs.length := by
  have plain (cs : List Char) :
      (afterPower (afterFraction (cs.dropWhile isDigitOrMark))).length ≤ cs.length :=
    Nat.le_trans (length_afterPower_le _)
      (Nat.le_trans (length_afterFraction_le _) (length_dropWhile_le ..))
  simp only [afterNumber]
  split
  · split
    · exact Nat.le_succ_of_le (Nat.le_succ_of_le (length_dropWhile_le ..))
    · exact plain _
  · exact Nat.le_trans (length_afterPower_le _) (length_dropWhile_le ..)
  · exact plain _

theorem length_afterParameter_le (named : Bool) (cs : List Char) :
    (afterParameter named cs).1.length ≤ cs.length := by
  fun_induction afterParameter named cs with
  | case1 => exact Nat.le_refl _
  | case2 _ _ _ _ ih => exact Nat.le_succ_of_le ih
  | case3 _ _ cs _ _ d rest h =>
    have := length_dropWhile_le (fun d => !isSpace d && d != '\x0b' && d != ')') cs
    rw [h, List.length_cons] at this
    exact Nat.le_succ_of_le (Nat.le_of_succ_le this)
  | case4 _ _ cs _ _ d rest h =>
    have := length_dropWhile_le (fun d => !isSpace d && d != '\x0b' && d != ')') cs
    rw [h] at this
    exact Nat.le_succ_of_le this
  | case5 => exact Nat.zero_le _
  | case6 named rest _ _ ih =>
    simp only [List.length_cons] at ih ⊢
    omega
  | case7 => exact Nat.le_refl _

/-- Reading a token never lengthens the rest. -/
theorem length_read_le (c : Char) (cs : List Char) : (read c cs).2.length ≤ cs.length := by
  simp only [read]
  split
  · simp only [readBlob]
    split
    · next d rest h =>
      have h₁ := length_dropWhile_le (· != '\'') ((cs.drop 1).dropWhile isHexDigit)
      have h₂ := length_dropWhile_le isHexDigit (cs.drop 1)
      rw [h, List.length_cons] at h₁
      rw [List.length_drop] at h₂
      split <;> (simp only; omega)
    · exact Nat.zero_le _
  · split
    · exact length_dropWhile_le ..
    · split
      · simp only [readNumber]
        split
        · exact length_afterNumber_le ..
        · exact Nat.le_trans (length_dropWhile_le ..) (length_afterNumber_le ..)
      · split
        · simp only [readParameter]
          split
          · exact length_dropWhile_le ..
          · exact length_afterParameter_le ..
        · split
          · simp only [readQuoted]
            split
            · next s rest h =>
              split at h
              · exact length_untilBracket_le h
              · exact length_untilMark_le h
            · exact Nat.zero_le _
          · simp only [readSign]
            split
            · rw [List.length_drop]
              exact Nat.sub_le ..
            · exact Nat.le_refl _

end Token

/-- A token with the text from its start on, and the text after it. -/
structure Lexeme where
  token : Token
  start : List Char
  rest : List Char

/-- The text of a lexeme. -/
def Lexeme.text (l : Lexeme) : String := String.ofList (Token.before l.start l.rest)

/-- How many bytes a text has before its part from a place on. -/
def offsetOf (text part : List Char) : Nat :=
  (String.ofList text).utf8ByteSize - (String.ofList part).utf8ByteSize

/-- The characters of the text of a statement. -/
def chars (sql : String) : List Char := sql.toList.takeWhile (· != '\x00')

/-- The tokens of a text. -/
def scan : List Char → List Token
  | [] => []
  | c :: cs =>
    match _h : Token.afterBlank? c cs with
    | some rest => scan rest
    | none => (Token.read c cs).1 :: scan (Token.read c cs).2
  termination_by cs => cs.length
  decreasing_by
    · exact Nat.lt_succ_of_le (Token.length_afterBlank?_le _h)
    · exact Nat.lt_succ_of_le (Token.length_read_le c cs)

/-- The lexemes of a text. -/
def scanLexemes : List Char → List Lexeme
  | [] => []
  | c :: cs =>
    match _h : Token.afterBlank? c cs with
    | some rest => scanLexemes rest
    | none => ⟨(Token.read c cs).1, c :: cs, (Token.read c cs).2⟩ :: scanLexemes (Token.read c cs).2
  termination_by cs => cs.length
  decreasing_by
    · exact Nat.lt_succ_of_le (Token.length_afterBlank?_le _h)
    · exact Nat.lt_succ_of_le (Token.length_read_le c cs)

/-- The lexemes of a statement. Semicolons before it mean nothing. -/
def lexemes (sql : String) : List Lexeme :=
  (scanLexemes (chars sql)).dropWhile (·.token == .sign ";")

/-- The tokens of a statement. -/
def tokens (sql : String) : List Token := (lexemes sql).map (·.token)

/-- Where a lexeme starts in a statement, in bytes. -/
def Lexeme.offset (sql : String) (l : Lexeme) : Nat := offsetOf (chars sql) l.start

/-- The text after a lexeme of a statement. -/
def Lexeme.after (sql : String) (l : Lexeme) : String :=
  String.ofList (sql.toList.drop ((chars sql).length - l.rest.length))

/-- The tokens of a text are those of its lexemes. -/
theorem map_token_scanLexemes (cs : List Char) : (scanLexemes cs).map (·.token) = scan cs := by
  fun_induction scan cs with
  | case1 => simp [scanLexemes]
  | case2 c cs rest h ih =>
    rw [scanLexemes]
    split <;> simp_all
  | case3 c cs h ih =>
    rw [scanLexemes]
    split <;> simp_all

/-- The name that a token is. -/
def Token.name? : Token → Option String
  | word s => if isReserved s then none else some s
  | quoted _ s => some s
  | _ => none

/-- The name that a token is where a text may stand for one. -/
def Token.anyName? : Token → Option String
  | text s => some s
  | t => t.name?

/-- Whether a token is the given word of the language, which is in lower case. -/
def Token.isWord (w : String) : Token → Bool
  | word s => folded s == w
  | _ => false

end EntityQuery.Sql
