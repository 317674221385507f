import TextAdventure.Lua.Value

/-! The tokens of Lua source. A place where the source has no token is a token too, with the fault
that it stands for: a program is only refused for it when its reader comes that far. -/

namespace TextAdventure.Lua

/-- The words and symbols with a meaning of their own. -/
inductive Mark where
  | andWord | breakWord | doWord | elseWord | elseifWord | endWord | falseWord | forWord
  | functionWord | gotoWord | ifWord | inWord | localWord | nilWord | notWord | orWord
  | repeatWord | returnWord | thenWord | trueWord | untilWord | whileWord
  | plus | minus | star | slash | slashes | percent | caret | hash
  | equal | notEqual | less | lessEqual | greater | greaterEqual | assign
  | parenOpen | parenClose | braceOpen | braceClose | bracketOpen | bracketClose
  | semicolon | colon | comma | dot | dots | ellipsis
deriving DecidableEq

namespace Mark

def spelling : Mark → Bytes
  | andWord => "and"
  | breakWord => "break"
  | doWord => "do"
  | elseWord => "else"
  | elseifWord => "elseif"
  | endWord => "end"
  | falseWord => "false"
  | forWord => "for"
  | functionWord => "function"
  | gotoWord => "goto"
  | ifWord => "if"
  | inWord => "in"
  | localWord => "local"
  | nilWord => "nil"
  | notWord => "not"
  | orWord => "or"
  | repeatWord => "repeat"
  | returnWord => "return"
  | thenWord => "then"
  | trueWord => "true"
  | untilWord => "until"
  | whileWord => "while"
  | plus => "+"
  | minus => "-"
  | star => "*"
  | slash => "/"
  | slashes => "//"
  | percent => "%"
  | caret => "^"
  | hash => "#"
  | equal => "=="
  | notEqual => "~="
  | less => "<"
  | lessEqual => "<="
  | greater => ">"
  | greaterEqual => ">="
  | assign => "="
  | parenOpen => "("
  | parenClose => ")"
  | braceOpen => "\x7b"
  | braceClose => "\x7d"
  | bracketOpen => "["
  | bracketClose => "]"
  | semicolon => ";"
  | colon => ":"
  | comma => ","
  | dot => "."
  | dots => ".."
  | ellipsis => "..."

def words : List Mark :=
  [andWord, breakWord, doWord, elseWord, elseifWord, endWord, falseWord, forWord, functionWord,
    gotoWord, ifWord, inWord, localWord, nilWord, notWord, orWord, repeatWord, returnWord, thenWord,
    trueWord, untilWord, whileWord]

/-- The symbols, each before those that it starts with. -/
def symbols : List Mark :=
  [ellipsis, dots, dot, equal, assign, notEqual, lessEqual, less, greaterEqual, greater, slashes,
    slash, plus, minus, star, percent, caret, hash, parenOpen, parenClose, braceOpen, braceClose,
    bracketOpen, bracketClose, semicolon, colon, comma]

/-- The symbol that the source starts with. -/
def symbol? (source : Bytes) : Option Mark :=
  symbols.find? fun mark => mark.spelling.isPrefixOf source

end Mark

/-- Why there is no token. -/
inductive LexicalFault where
  | unfinishedString
  | unfinishedLong (what : String) (line : Nat)
  | badEscape
  | escapeTooLarge
  | malformedNumber
  | badDelimiter
deriving DecidableEq

def LexicalFault.message : LexicalFault → Bytes
  | unfinishedString => "unfinished string"
  | unfinishedLong what line =>
    "unfinished long " ++ (what : Bytes) ++ " (starting at line " ++
      Bytes.ofAscii (Text.ofNat line) ++ ")"
  | badEscape => "invalid escape sequence"
  | escapeTooLarge => "decimal escape too large"
  | malformedNumber => "malformed number"
  | badDelimiter => "invalid long string delimiter"

inductive Token where
  | mark (m : Mark)
  | name (n : Bytes)
  | text (bytes : Bytes)
  | number (n : Number)
  | eof
  /-- A character that has no meaning. -/
  | stray
  | fault (f : LexicalFault)
deriving DecidableEq

/-- A token, how messages show it, and the line where it ends. A zero byte is not shown. -/
structure Lexeme where
  token : Token
  shown : Bytes
  line : Nat
deriving DecidableEq

namespace Lexeme

/-- Messages show tokens as they are written, between single quotes, and up to the first zero
byte. -/
def cite (written : Bytes) : Bytes := "'" ++ shownName written ++ "'"

def atEnd : Bytes := "<eof>"

/-- A line may end in a line feed, in a carriage return, or in both. -/
def isBreak (b : UInt8) : Bool := b == 10 || b == 13

/-- What follows the end of a line that starts with `b`. -/
def afterBreak (b : UInt8) : Bytes → Bytes
  | c :: rest => if isBreak c && c != b then rest else c :: rest
  | [] => []

def isLetter (b : UInt8) : Bool :=
  (65 ≤ b && b ≤ 90) || (97 ≤ b && b ≤ 122) || b == 95

def isNamePart (b : UInt8) : Bool := isLetter b || Number.isDigit b

/-- The character of an escape with one letter. -/
def shortEscape? (letter : UInt8) : Option UInt8 :=
  if letter == 97 then some 7
  else if letter == 98 then some 8
  else if letter == 102 then some 12
  else if letter == 110 then some 10
  else if letter == 114 then some 13
  else if letter == 116 then some 9
  else if letter == 118 then some 11
  else if letter == 92 || letter == 34 || letter == 39 then some letter
  else none

/-- The rest of a quoted string, whose bytes so far are `done` in reverse, its opening quote among
them. Each round reads a byte or an escape; `fuel` bounds the rounds. -/
def quoted (quote : UInt8) : Nat → Nat → Bytes → Bytes → Lexeme × Bytes
  | 0, line, _, rest => (⟨.fault .unfinishedString, atEnd, line⟩, rest)
  | _ + 1, line, _, [] => (⟨.fault .unfinishedString, atEnd, line⟩, [])
  | fuel + 1, line, done, b :: rest =>
    let fault (f : LexicalFault) (more : Bytes) : Lexeme × Bytes :=
      (⟨.fault f, cite (done.reverse ++ more), line⟩, rest)
    if b == quote then
      let bytes := done.reverse
      (⟨.text (bytes.drop 1), cite (bytes ++ [quote]), line⟩, rest)
    else if isBreak b then fault .unfinishedString []
    else if b == 92 then
      match rest with
      | [] => quoted quote fuel line done []
      | c :: after =>
        match shortEscape? c with
        | some byte => quoted quote fuel line (byte :: done) after
        | none =>
          if isBreak c then quoted quote fuel (line + 1) (10 :: done) (afterBreak c after)
          else if Number.isDigit c then
            let digits := (rest.take 3).takeWhile Number.isDigit
            let value := Number.digitsValue 10 digits
            let after := rest.drop digits.length
            if value < 256 then quoted quote fuel line (value.toUInt8 :: done) after
            else fault .escapeTooLarge (92 :: digits ++ after.take 1)
          else fault .badEscape [92, c]
    else quoted quote fuel line (b :: done) rest

/-- The level of a long bracket that starts with `[`: the number of its equals signs. Gives what
follows the bracket, too. -/
def longBracket? : Bytes → Option (Nat × Bytes)
  | 91 :: rest =>
    let signs := rest.takeWhile (· == 61)
    match rest.drop signs.length with
    | 91 :: rest => some (signs.length, rest)
    | _ => none
  | _ => none

/-- The bytes up to the long bracket `close`, in which every end of a line is a line feed; with the
line where it closes and what follows. -/
def long? (close : Bytes) : Nat → Nat → Bytes → Bytes → Option Bytes × Nat × Bytes
  | 0, line, _, rest => (none, line, rest)
  | _ + 1, line, _, [] => (none, line, [])
  | fuel + 1, line, done, b :: rest =>
    if close.isPrefixOf (b :: rest) then
      (some done.reverse, line, (b :: rest).drop close.length)
    else if isBreak b then long? close fuel (line + 1) (10 :: done) (afterBreak b rest)
    else long? close fuel line (b :: done) rest

/-- Reads what stands in long brackets, a string or a comment. An end of line right after the
opening bracket does not count. -/
def long (what : String) (level line : Nat) (rest : Bytes) : Lexeme × Bytes :=
  let close : Bytes := 93 :: List.replicate level 61 ++ [93]
  let (start, rest) : Nat × Bytes :=
    match rest with
    | b :: after => if isBreak b then (line + 1, afterBreak b after) else (line, rest)
    | [] => (line, [])
  match long? close (rest.length + 1) start [] rest with
  | (some bytes, last, rest) =>
    let opening : Bytes := 91 :: List.replicate level 61 ++ [91]
    (⟨.text bytes, cite (opening ++ bytes ++ close), last⟩, rest)
  | (none, last, rest) => (⟨.fault (.unfinishedLong what line), atEnd, last⟩, rest)

/-- What a numeral takes of the source: digits, points, and exponents with their signs, and one
letter after them, which makes it malformed. -/
def numeral (exponents : Bytes) (afterExponent : Bool) : Bytes → Bytes
  | [] => []
  | b :: rest =>
    if afterExponent && (b == 43 || b == 45) then b :: numeral exponents false rest
    else if exponents.contains b then b :: numeral exponents true rest
    else if Number.isHexDigit b || b == 46 then b :: numeral exponents false rest
    else if isLetter b then [b]
    else []

/-- The token that starts with `b`, which is neither blank nor the start of a comment. -/
def read (line : Nat) (b : UInt8) (rest : Bytes) : Lexeme × Bytes :=
  let source := b :: rest
  if isLetter b then
    let name := source.takeWhile isNamePart
    let token : Token :=
      match Mark.words.find? fun mark => mark.spelling = name with
      | some mark => .mark mark
      | none => .name name
    (⟨token, cite name, line⟩, source.dropWhile isNamePart)
  else if Number.isDigit b || (b == 46 && (rest.head?.map Number.isDigit).getD false) then
    let hexadecimal : Bool :=
      match rest with
      | 120 :: _ | 88 :: _ => b == 48
      | _ => false
    let written :=
      if hexadecimal then source.take 2 ++ numeral [112, 80] false (source.drop 2)
      else numeral [101, 69] false source
    let token : Token :=
      match Number.read? written with
      | some n => .number n
      | none => .fault .malformedNumber
    (⟨token, cite written, line⟩, source.drop written.length)
  else if b == 39 || b == 34 then quoted b (rest.length + 1) line [b] rest
  else
    let signs := rest.takeWhile (· == 61)
    match longBracket? source with
    | some (level, after) => long "string" level line after
    | none =>
      if b == 91 && signs ≠ [] then (⟨.fault .badDelimiter, cite (b :: signs), line⟩, rest)
      else match Mark.symbol? source with
      | some mark =>
        (⟨.mark mark, cite mark.spelling, line⟩, source.drop mark.spelling.length)
      | none =>
        let written : Bytes :=
          if 32 ≤ b && b < 127 then [b]
          else "<\\" ++ Bytes.ofAscii (Text.ofNat b.toNat) ++ ">"
        (⟨.stray, if b = 0 then [] else cite written, line⟩, rest)

/-- The tokens of the source from `line` on, the end among them. Each round reads a token, a comment
or a blank; `fuel` bounds the rounds. -/
def readFrom : Nat → Nat → Bytes → List Lexeme
  | 0, line, _ => [⟨.eof, atEnd, line⟩]
  | _ + 1, line, [] => [⟨.eof, atEnd, line⟩]
  | fuel + 1, line, b :: rest =>
    if isBreak b then readFrom fuel (line + 1) (afterBreak b rest)
    else if Number.isSpace b then readFrom fuel line rest
    else if b == 45 && rest.head? == some 45 then
      let comment := rest.drop 1
      match longBracket? comment with
      | some (level, after) =>
        let (lexeme, rest) := long "comment" level line after
        match lexeme.token with
        | .text _ => readFrom fuel lexeme.line rest
        | _ => [lexeme]
      | none => readFrom fuel line (comment.dropWhile fun c => !isBreak c)
    else
      let (lexeme, rest) := read line b rest
      match lexeme.token with
      | .fault _ => [lexeme]
      | _ => lexeme :: readFrom fuel lexeme.line rest

/-- The tokens of a program, up to its end or to its first fault. -/
def readAll (source : Bytes) : List Lexeme := readFrom (source.length + 1) 1 source

end Lexeme

end TextAdventure.Lua
