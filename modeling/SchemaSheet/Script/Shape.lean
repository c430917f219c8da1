import SchemaSheet.Script.Pattern
import SchemaSheet.Token.Basic

/-!
# Shapes of script parts

The patterns of the pieces that a script consists of, over the many dialects
that it may be written in.
-/

namespace SchemaSheet

namespace Script

open Pattern

/-- A letter that a name may begin with: Latin letters up to `ü`, with the
letters that differ from them in case only. -/
def isNameStart (char : Character) : Bool :=
  char.isIn fun char =>
    char.isAlpha || ('À' ≤ char && char ≤ 'Ü')
      || ('à' ≤ char && char ≤ 'ü' && char != '÷')
      || char == 'ı' || char == 'İ' || char == 'ſ' || char == '\u212a'
      || char == '\u212b'

/-- A digit of a number in base sixteen. -/
def isHexDigit (char : Character) : Bool :=
  isDigit char || char.isIn fun char =>
    ('A' ≤ char && char ≤ 'F') || ('a' ≤ char && char ≤ 'f')

/-- The acute accent, a quote of names in some scripts. -/
def acute : Character := '´'

def lineRest : Pattern :=
  both (shortRun (· != '\n'))
    (choice [literally "\r\n", exactly '\r', exactly '\n', textEnd])

def lineCommentStart : Pattern :=
  either (literally "--") (literally "# ")

/-- Anything between two quotes, a doubled quote included. -/
def doubling (quote : Character) : Pattern :=
  sequence [exactly quote,
    often (either (literally [quote, quote]) (one (· != quote))),
    exactly quote]

/-- Anything between two quotes, a doubled quote or one after a backslash
included. -/
def escaping (quote : Character) : Pattern :=
  sequence [exactly quote,
    often (choice [literally [quote, quote], literally ['\\', quote],
      one (· != quote)]),
    exactly quote]

/-- A name that is written without quotes. -/
def bareName : Pattern := both (one isNameStart) (run isWordChar)

/-- What a number may neither begin with nor be followed by. -/
def notNameStart : Pattern :=
  isNotNext (one fun char => char == '_' || isNameStart char)

def sign : Pattern := optional (exactly '-')

def digits : Pattern := someOf isDigit

def keyPhrase (spellings : List Text) : Pattern :=
  both (phrase spellings) wordEdge

def oneOf (spellings : List Text) : Pattern := choice (spellings.map word)

def leading (spellings : List Text) : Pattern :=
  optional (choice (spellings.map fun spelling => both (word spelling) blanks))

/-- Names that are followed by a point, follow one, or are followed by a
parenthesis are never keywords. -/
def namePatterns : List Pattern :=
  [sequence [choice [exactly '@', literally "##", exactly '#'],
      one isNameStart, someOf isWordChar],
    both bareName (isNext (sequence
      [run isBlank, exactly '.', isNotNext (one isDigit)])),
    both (isBefore (· == some (.of '.'))) bareName,
    both bareName (isNext (exactly '('))]

/-- Numbers and quoted pieces. -/
def literalPatterns : List Pattern :=
  [sequence [sign, exactly '0', letter 'X', someOf isHexDigit],
    sequence [sign, digits, optional (both (exactly '.') digits), letter 'E',
      sign, digits],
    sequence [notNameStart, sign,
      either (sequence [digits, exactly '.', run isDigit])
        (both (exactly '.') digits),
      notNameStart],
    sequence [notNameStart, sign, digits, notNameStart],
    escaping '\'',
    escaping '"',
    either (literally "\"\"")
      (sequence [exactly '"', shortRun (· != '\n'), one (· != '\\'),
        exactly '"']),
    sequence [
      isBefore fun before =>
        !before.any fun char => isWordChar char || char == ']' || char == ')',
      exactly '[', someOf (fun char => char != '[' && char != ']'),
      exactly ']']]

/-- A word that joins tables, with the words that qualify it. -/
def join : Pattern :=
  sequence [
    optional (either
      (both (leading ["LEFT", "RIGHT", "FULL"])
        (leading ["INNER", "OUTER", "STRAIGHT"]))
      (leading ["CROSS", "NATURAL"])),
    word "JOIN", wordEdge]

/-- The end of a block, with the word for the kind of the block. -/
def blockEnd : Pattern :=
  sequence [word "END",
    optional (both blanks (oneOf ["IF", "LOOP", "WHILE", "FOR", "CASE"])),
    wordEdge]

/-- Phrases of several words that are one part, between the ones that have a
role of their own. -/
def sortingPhrases : List Pattern :=
  [sequence [oneOf ["ASC", "DESC"],
      optional (sequence [blanks, word "NULLS", blanks,
        oneOf ["FIRST", "LAST"]]),
      wordEdge],
    sequence [word "NULLS", blanks, oneOf ["FIRST", "LAST"], wordEdge],
    keyPhrase ["UNION", "ALL"]]

/-- A creation, with the words for replacing what exists. -/
def creation : Pattern :=
  sequence [word "CREATE",
    optional (sequence [blanks, phrase ["OR", "REPLACE"]]),
    wordEdge]

/-- Further phrases of several words that are one part. -/
def plainPhrases : List Pattern :=
  [keyPhrase ["DOUBLE", "PRECISION"], keyPhrase ["GROUP", "BY"],
    keyPhrase ["ORDER", "BY"], keyPhrase ["PRIMARY", "KEY"],
    keyPhrase ["HANDLER", "FOR"]]

def batchCount : Pattern :=
  sequence [word "GO", one isBlank, digits, wordEdge]

/-- Comparisons and calls that consist of several words. -/
def longPhrases : List Pattern :=
  [sequence [phrase ["LATERAL", "VIEW"], blanks,
      oneOf ["EXPLODE", "INLINE", "PARSE_URL_TUPLE", "POSEXPLODE", "STACK"],
      wordEdge],
    sequence [oneOf ["AT", "WITH'"], blanks, phrase ["TIME", "ZONE"], blanks,
      exactly '\'', someOf (· != '\''), exactly '\''],
    sequence [leading ["NOT"],
      oneOf ["LIKE", "ILIKE", "RLIKE"], wordEdge],
    sequence [leading ["NOT"], word "REGEXP",
      optional (both blanks (word "BINARY")), wordEdge]]

def operatorPatterns : List Pattern :=
  [choice [literally "->>", literally "->", literally "#>>", literally "#>",
      literally "@>", literally "<@", literally "?|", exactly '?',
      literally "?&", exactly '-', literally "#-"],
    someOf ("<>=~!" : Text).contains,
    someOf ("+/@#%^&|-" : Text).contains]

end Script

end SchemaSheet
