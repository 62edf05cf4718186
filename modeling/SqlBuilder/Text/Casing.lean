import SqlBuilder.Text.Letter

/-!
# Naming conventions

A name is a sequence of words. Characters that are neither letters nor numbers separate words,
and so do changes of case: a word ends before a capital that follows a lower-case letter, and
before the last capital of a run that goes on in lower case, as in `XMLHttp`. Numbers and
letters without case start no word and keep the case of what precedes them.
-/

namespace SqlBuilder.Text

/-- The parts of a text between the characters that satisfy `separates`. -/
def splitWhere (separates : Char → Bool) : List Char → List (List Char)
  | [] => [[]]
  | c :: rest =>
    if separates c then [] :: splitWhere separates rest
    else
      match splitWhere separates rest with
      | part :: parts => (c :: part) :: parts
      | [] => [[c]]

/-- The case of the word so far. -/
inductive WordCase
  | unknown
  | lower
  | upper
  deriving DecidableEq

/-- The case once a character has joined the word. -/
def WordCase.after (case : WordCase) (c : Char) : WordCase :=
  if isLower c then .lower else if isUpper c then .upper else case

/-- The words of a text without separators; `word` is the word so far, back to front. -/
def wordsFrom (case : WordCase) (word : List Char) : List Char → List (List Char)
  | [] => []
  | [c] => [(c :: word).reverse]
  | c :: next :: rest =>
    if case.after c = .lower && isUpper next then
      (c :: word).reverse :: wordsFrom .unknown [] (next :: rest)
    else if case = .upper && isUpper c && isLower next then
      word.reverse :: wordsFrom .unknown [c] (next :: rest)
    else wordsFrom (case.after c) (c :: word) (next :: rest)

/-- The words of a text. -/
def words (text : List Char) : List (List Char) :=
  (splitWhere (fun c => !isAlphanumeric c) text).flatMap (wordsFrom .unknown [])

/-- A word in lower case; a capital sigma at its end becomes the final form. -/
def lowerWord : List Char → List Char
  | [] => []
  | ['Σ'] => ['ς']
  | c :: rest => toLower c ++ lowerWord rest

/-- A word with a capital first character, the rest in lower case. -/
def capitalWord : List Char → List Char
  | [] => []
  | c :: rest => toUpper c ++ lowerWord rest

/-- The words in lower case with `_` between them. -/
def snakeCase (text : List Char) : List Char :=
  ((words text).map lowerWord).intersperse ['_'] |>.flatten

/-- The words one after the other, all but the first with a capital. -/
def camelCase (text : List Char) : List Char :=
  match words text with
  | [] => []
  | first :: rest => lowerWord first ++ rest.flatMap capitalWord

/-- Changes each part of a dotted key; a key with a quotation mark in it stays as it is. -/
def mapKeyParts (f : List Char → List Char) (key : String) : String :=
  let cs := key.toList
  if cs.contains '"' then key
  else String.ofList (((splitWhere (· == '.') cs).map f).intersperse ['.']).flatten

/-- A key in snake case, part by part. -/
def snakeCaseKey : String → String := mapKeyParts snakeCase

/-- A key in camel case, part by part. -/
def camelCaseKey : String → String := mapKeyParts camelCase

end SqlBuilder.Text
