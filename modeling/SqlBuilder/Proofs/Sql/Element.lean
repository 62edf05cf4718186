import SqlBuilder.Proofs.Sql.Region
import SqlBuilder.Proofs.Spelling

/-!
# Lexical elements of SQL

The lexical structure of SQL as PostgreSQL has it, described without a scanner: what the elements
are (words, numbers, parameters, literals with and without escapes, quoted names, comments,
dollar-quoted literals) and which of them stands at the beginning of a text. An element is as long
as it can be. Every text is a sequence of elements in exactly one way (`exists_lexes`,
`Lexes.unique`). An element that is never closed reaches to the end of the text.
-/

namespace SqlBuilder.Sql

/-! ### Words and numbers -/

/-- Whether the character begins a word: a letter, `_`, or anything outside of ASCII. -/
def startsWord (c : Char) : Bool := c == '_' || c.isAlpha || decide (128 ≤ c.toNat)

/-- Whether the character goes on with a word. -/
def continuesWord (c : Char) : Bool := startsWord c || c.isDigit || c == '$'

/-- The letter in front of a literal with escapes. -/
def marksEscapes (c : Char) : Bool := c == 'E' || c == 'e'

/-- Digits, with at most one underscore between two of them. -/
inductive Digits (digit : Char → Bool) : List Char → Prop
  | one {d : Char} (h : digit d) : Digits digit [d]
  | cons {d : Char} {ds : List Char} (h : digit d) (more : Digits digit ds) :
      Digits digit (d :: ds)
  | underscore {d : Char} {ds : List Char} (h : digit d) (more : Digits digit ds) :
      Digits digit (d :: '_' :: ds)

def isHexDigit (c : Char) : Bool :=
  c.isDigit || ('a' ≤ c && c ≤ 'f') || ('A' ≤ c && c ≤ 'F')

def isOctalDigit (c : Char) : Bool := '0' ≤ c && c ≤ '7'

def isBinaryDigit (c : Char) : Bool := c == '0' || c == '1'

/-- The number systems besides the decimal one, by the letter behind the leading zero. -/
def radix? : Char → Option (Char → Bool)
  | 'x' | 'X' => some isHexDigit
  | 'o' | 'O' => some isOctalDigit
  | 'b' | 'B' => some isBinaryDigit
  | _ => none

/-- Decimal digits with or without a point. -/
inductive Mantissa : List Char → Prop
  | integer {ds : List Char} (whole : Digits Char.isDigit ds) : Mantissa ds
  | point {ds : List Char} (whole : Digits Char.isDigit ds) : Mantissa (ds ++ ['.'])
  | fraction {ds fs : List Char} (whole : Digits Char.isDigit ds)
      (parts : Digits Char.isDigit fs) : Mantissa (ds ++ '.' :: fs)
  | parts {fs : List Char} (parts : Digits Char.isDigit fs) : Mantissa ('.' :: fs)

/-- A numeric constant. -/
inductive Number : List Char → Prop
  | plain {cs : List Char} (mantissa : Mantissa cs) : Number cs
  | exponent {cs sign ds : List Char} {e : Char} (mantissa : Mantissa cs) (mark : marksEscapes e)
      (signed : sign ∈ [[], ['+'], ['-']]) (digits : Digits Char.isDigit ds) :
      Number (cs ++ e :: (sign ++ ds))
  | radix {r : Char} {digit : Char → Bool} {ds : List Char} (letter : radix? r = some digit)
      (digits : Digits digit ds) : Number ('0' :: r :: ds)
  | radixUnderscore {r : Char} {digit : Char → Bool} {ds : List Char}
      (letter : radix? r = some digit) (digits : Digits digit ds) :
      Number ('0' :: r :: '_' :: ds)

/-- A numeric constant in front of a text; its point is not the first one of two dots. -/
def NumberAt (cs rest : List Char) : Prop :=
  Number cs ∧ (cs.getLast? = some '.' → rest.head? ≠ some '.')

/-- As long as it can be. -/
def Longest (P : (taken rest : List Char) → Prop) (taken rest : List Char) : Prop :=
  P taken rest ∧ ∀ more rest', rest = more ++ rest' → P (taken ++ more) rest' → more = []

/-! ### Line ends and gaps -/

def isNewline (c : Char) : Bool := c == '\n' || c == '\r'

def isSpace (c : Char) : Bool :=
  c == ' ' || c == '\t' || c == '\x0b' || c == '\x0c' || isNewline c

/-- What ends a line: a newline, a carriage return, both in this order, or the end of the
text. -/
inductive LineEnd : (ending rest : List Char) → Prop
  | text : LineEnd [] []
  | newline (rest : List Char) : LineEnd ['\n'] rest
  | both (rest : List Char) : LineEnd ['\r', '\n'] rest
  | carriageReturn {rest : List Char} (alone : rest.head? ≠ some '\n') : LineEnd ['\r'] rest

/-- White space and comments on lines of their own. -/
inductive Blank : List Char → Prop
  | nil : Blank []
  | space {c : Char} {cs : List Char} (h : isSpace c) (more : Blank cs) : Blank (c :: cs)
  | comment {body cs : List Char} {c : Char} (inside : ∀ d ∈ body, isNewline d = false)
      (ends : isNewline c) (more : Blank cs) : Blank ('-' :: '-' :: (body ++ c :: cs))

/-- What may stand between the parts of a literal: something blank with a line end in it. -/
def Gap (cs : List Char) : Prop := Blank cs ∧ ∃ c ∈ cs, isNewline c

/-- The text behind a literal goes on with it. -/
def GoesOn (rest : List Char) : Prop := ∃ gap more, Gap gap ∧ rest = gap ++ '\'' :: more

/-- The parts of a literal behind its first one, each with the gap in front of it. -/
abbrev Parts := List (List Char × List Char)

def Parts.chars (parts : Parts) : List Char :=
  parts.flatMap fun part => part.1 ++ '\'' :: part.2

/-- The parts of a literal with escapes, behind its opening quotation mark. -/
inductive Escaped : (body : List Char) → (parts : Parts) → (rest : List Char) → Prop
  | last {body rest : List Char} (quoted : Quoted '\'' true body rest) (ends : ¬ GoesOn rest) :
      Escaped body [] rest
  | more {body gap next rest : List Char} {parts : Parts}
      (quoted : Quoted '\'' true body (gap ++ '\'' :: (next ++ parts.chars ++ rest)))
      (blank : Gap gap) (others : Escaped next parts rest) :
      Escaped body ((gap, next) :: parts) rest

/-! ### Elements -/

/-- The tag of a dollar-quoted literal: a word without dollar signs, or nothing. -/
structure WordTag (tag : List Char) : Prop where
  chars : ∀ c ∈ tag, continuesWord c ∧ c ≠ '$'
  first : ∀ c, tag.head? = some c → startsWord c

/-- The text after a dollar sign completes the opening of a dollar-quoted literal. -/
def OpensDollarQuote (after : List Char) : Prop :=
  ∃ tag rest, WordTag tag ∧ after = tag ++ '$' :: rest

/-- A lexical element. -/
inductive Element
  | word (chars : List Char)
  | number (chars : List Char)
  | parameter (n : Numeral)
  | literal (body : List Char)
  | escapeLiteral (mark : Char) (body : List Char) (parts : Parts)
  | quotedName (body : List Char)
  | lineComment (body ending : List Char)
  | blockComment (body : List Char)
  | dollarQuoted (tag body : List Char)
  | dots
  | other (c : Char)

namespace Element

/-- The text of an element. -/
def chars : Element → List Char
  | .word cs => cs
  | .number cs => cs
  | .parameter n => '$' :: n.digits
  | .literal body => '\'' :: body
  | .escapeLiteral mark body parts => mark :: '\'' :: (body ++ parts.chars)
  | .quotedName body => '"' :: body
  | .lineComment body ending => '-' :: '-' :: (body ++ ending)
  | .blockComment body => '/' :: '*' :: body
  | .dollarQuoted tag body => dollarMark tag ++ body
  | .dots => ['.', '.']
  | .other c => [c]

/-- The element stands at the beginning of its own text followed by `rest`. -/
inductive At : Element → (rest : List Char) → Prop
  | word {c : Char} {cs rest : List Char} (first : startsWord c)
      (more : ∀ d ∈ cs, continuesWord d) (longest : rest.head?.any continuesWord = false)
      (plain : marksEscapes c → cs = [] → rest.head? ≠ some '\'') : At (.word (c :: cs)) rest
  | number {cs rest : List Char} (longest : Longest NumberAt cs rest) : At (.number cs) rest
  | parameter {n : Numeral} {rest : List Char} (longest : rest.head?.any Char.isDigit = false) :
      At (.parameter n) rest
  | literal {body rest : List Char} (quoted : Quoted '\'' false body rest) :
      At (.literal body) rest
  | escapeLiteral {mark : Char} {body rest : List Char} {parts : Parts}
      (marks : marksEscapes mark) (escaped : Escaped body parts rest) :
      At (.escapeLiteral mark body parts) rest
  | quotedName {body rest : List Char} (quoted : Quoted '"' false body rest) :
      At (.quotedName body) rest
  | lineComment {body ending rest : List Char} (inside : ∀ c ∈ body, isNewline c = false)
      (ends : LineEnd ending rest) : At (.lineComment body ending) rest
  | blockComment {body rest : List Char} (commented : Commented 0 body rest) :
      At (.blockComment body) rest
  | dollarQuoted {tag body rest : List Char} (isTag : WordTag tag)
      (through : Through (dollarMark tag) body rest) : At (.dollarQuoted tag body) rest
  | dots (rest : List Char) : At .dots rest
  | other {c : Char} {rest : List Char} (word : startsWord c = false) (digit : c.isDigit = false)
      (quote : c ≠ '\'') (name : c ≠ '"') (line : c = '-' → rest.head? ≠ some '-')
      (block : c = '/' → rest.head? ≠ some '*')
      (point : c = '.' → rest.head?.any Char.isDigit = false ∧ rest.head? ≠ some '.')
      (dollar : c = '$' → rest.head?.any Char.isDigit = false ∧ ¬ OpensDollarQuote rest) :
      At (.other c) rest

end Element

/-- The text is the sequence of the elements. -/
inductive Lexes : (text : List Char) → List Element → Prop
  | nil : Lexes [] []
  | cons {e : Element} {rest : List Char} {es : List Element} (first : e.At rest)
      (more : Lexes rest es) : Lexes (e.chars ++ rest) (e :: es)

end SqlBuilder.Sql
