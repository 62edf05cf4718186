import SqlBuilder.Sql.Region

/-!
# Placeholders in SQL text

`Sql.scan` goes through SQL text once and gives each character its role: text, the dollar sign
of a placeholder with its digits, or one of those digits. A dollar sign starts a placeholder
when it stands outside every lexical region, does not continue an identifier and is followed by
a digit. `Sql.tokens` collects the roles into runs of text and placeholders.
-/

namespace SqlBuilder.Sql

/-- The role of one character of SQL text. -/
inductive Role
  | text
  /-- The dollar sign of a placeholder with the given digits. -/
  | placeholder (digits : List Char)
  /-- A digit of the placeholder before it. -/
  | digit
  deriving DecidableEq

/-- What the scanner is inside of, and for how many more characters. -/
inductive Inside
  | code
  | region (left : Nat)
  | number (left : Nat)

/-- The region or number that opens at the first character of `c :: after`. -/
def opening (before : List Char) (c : Char) (after : List Char) : Role × Inside :=
  if c == '\'' then (.text, .region (quotedLength '\'' (opensEscapes before) after))
  else if c == '"' then (.text, .region (quotedLength '"' false after))
  else if c == '-' && after.head? == some '-' then (.text, .region (lineLength after))
  else if c == '/' && after.head? == some '*' then
    (.text, .region (1 + blockLength 0 (after.drop 1)))
  else if c == '$' then
    if before.head?.any continuesIdent then (.text, .code)
    else
      let digits := after.takeWhile Char.isDigit
      if digits.isEmpty then (.text, .region ((dollarQuotedLength? after).getD 0))
      else (.placeholder digits, .number digits.length)
  else (.text, .code)

/-- The role of every character; `before` is the text already passed, nearest first. -/
def scan (before : List Char) : Inside → List Char → List (Char × Role)
  | _, [] => []
  | .region (left + 1), c :: rest => (c, .text) :: scan (c :: before) (.region left) rest
  | .number (left + 1), c :: rest => (c, .digit) :: scan (c :: before) (.number left) rest
  | _, c :: rest =>
    let (role, inside) := opening before c rest
    (c, role) :: scan (c :: before) inside rest

/-- A run of text or one placeholder. -/
inductive Token
  | text (run : List Char)
  | placeholder (digits : List Char)
  deriving DecidableEq

/-- Puts a character in front of the tokens after it. -/
def Token.extend (c : Char) : List Token → List Token
  | .text run :: rest => .text (c :: run) :: rest
  | rest => .text [c] :: rest

/-- The tokens of characters with their roles. -/
def collect : List (Char × Role) → List Token
  | [] => []
  | (c, .text) :: rest => Token.extend c (collect rest)
  | (_, .placeholder digits) :: rest => .placeholder digits :: collect rest
  | (_, .digit) :: rest => collect rest

/-- The tokens of SQL text. -/
def tokens (sql : String) : List Token := collect (scan [] .code sql.toList)

theorem scan_fst (before : List Char) (inside : Inside) (sql : List Char) :
    (scan before inside sql).map Prod.fst = sql := by
  induction sql generalizing before inside with
  | nil => simp [scan]
  | cons c rest ih =>
    match inside with
    | .code => simp [scan, ih]
    | .region 0 => simp [scan, ih]
    | .region (left + 1) => simp [scan, ih]
    | .number 0 => simp [scan, ih]
    | .number (left + 1) => simp [scan, ih]

end SqlBuilder.Sql
