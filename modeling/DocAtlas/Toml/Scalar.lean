-- SUMMARY: TOML scalars: the four kinds of strings, integers, floats, dates and times.
import DocAtlas.Toml.Reader
import DocAtlas.Toml.Value

/-! # TOML scalars

One reader for each kind of scalar. Which one applies follows from the first
character of a value, except for numbers and dates, which are tried in turn. -/

namespace DocAtlas.Toml

open Number (Binary64)
open Reader

/-! ## Strings -/

namespace Strings

/-- A character that stands for itself between double quotes. -/
def isBasicChar (c : Char) : Bool :=
  isCommentChar c && c != '"' && c != '\\'

/-- A character that stands for itself between single quotes. -/
def isLiteralChar (c : Char) : Bool := isCommentChar c && c != '\''

/-- The character with the code given by exactly `n` hexadecimal digits. -/
def code (n : Nat) : Reader Char := do
  let start := (← get).pos
  let digits ← exactly n Text.isHexDigit
  let value := Text.numeral 16 digits
  if value < 0xD800 ∨ (0xDFFF < value ∧ value < 0x110000) then return Char.ofNat value
  else missAt start "value is out of range"

/-- What follows a backslash. -/
def escapeCode : Reader Char := do
  match ← satisfy (fun _ => true) with
  | 'b' => pure '\x08'
  | 'f' => pure '\x0c'
  | 'n' => pure '\n'
  | 'r' => pure '\r'
  | 't' => pure '\t'
  | '\\' => pure '\\'
  | '"' => pure '"'
  | 'u' => label "unicode 4-digit hex code" (commit (code 4))
  | 'U' => label "unicode 8-digit hex code" (commit (code 8))
  | _ =>
    expecting ["`b`", "`f`", "`n`", "`r`", "`t`", "`u`", "`U`", "`\\`", "`\"`"]
      (label "escape sequence" (commit miss))

def escaped : Reader Char := char '\\' *> escapeCode

/-- A string between double quotes, on one line. -/
def basic : Reader String := do
  let _ ← char '"'
  let cs ← many (orElse (satisfy isBasicChar) escaped)
  label "basic string" (commit (discard (char '"')))
  return String.ofList cs

/-- A string between single quotes, on one line and without escapes. -/
def plain : Reader String := label "literal string" do
  let _ ← char '\''
  let cs ← takeWhile isLiteralChar
  commit (discard (char '\''))
  return String.ofList cs

/-- One or two quotes, when what follows them passes `after`. -/
def quotes (quote : Char) (after : Reader Unit) : Reader (List Char) :=
  orElse (char quote *> char quote *> ahead after *> pure [quote, quote])
    (char quote *> ahead after *> pure [quote])

/-- The body of a string over several lines: quotes inside it stand in ones and twos, and up to two
may stand before the closing three. -/
def body (quote : Char) (content : Reader (List Char)) (close : Reader Unit) :
    Reader (List Char) := do
  let start ← many content
  let middle ← many do
    let q ← quotes quote (discard (satisfy (· != quote)))
    return q ++ (← many content).flatten
  let last ← option? (quotes quote close)
  return start.flatten ++ middle.flatten ++ last.getD []

/-- A backslash at the end of a line: the line end and all blanks after it are dropped. -/
def continuedLine : Reader Unit := do
  let _ ← char '\\'
  let _ ← spaces
  newline
  blankLines

/-- A string between three double quotes each. -/
def basicLines : Reader String := label "multiline basic string" do
  literal "\"\"\""
  let _ ← option? newline
  let content : Reader (List Char) :=
    orElse ((fun c => [c]) <$> satisfy isBasicChar)
      (orElse (continuedLine *> pure [])
        (orElse ((fun c => [c]) <$> escaped) (newline *> pure ['\n'])))
  let cs ← commit (body '"' content (literal "\"\"\""))
  commit (literal "\"\"\"")
  return String.ofList cs

/-- A string between three single quotes each, without escapes. -/
def plainLines : Reader String := label "multiline literal string" do
  literal "'''"
  let _ ← option? newline
  let content : Reader (List Char) :=
    orElse ((fun c => [c]) <$> satisfy isLiteralChar) (newline *> pure ['\n'])
  let cs ← commit (body '\'' content (literal "'''"))
  commit (literal "'''")
  return String.ofList cs

def any : Reader String := orElse basicLines (orElse basic (orElse plainLines plain))

end Strings

/-! ## Numbers -/

namespace Numbers

def isDigitBelow (base : Nat) (c : Char) : Bool :=
  match Text.hexValue? c with
  | some v => v < base
  | none => false

/-- Digits with single underscores between them. -/
def digits (base : Nat) : Reader (List Char) := do
  let first ← satisfy (isDigitBelow base)
  let rest ← many (orElse (satisfy (isDigitBelow base))
    (char '_' *> expecting ["digit"] (commit (satisfy (isDigitBelow base)))))
  return first :: rest

def sign : Reader Bool := do
  match ← option? (satisfy fun c => c = '+' || c = '-') with
  | some '-' => return true
  | _ => return false

/-- A decimal integer: its sign and its digits, which start with no zero but a lone one. -/
def decimal : Reader (Bool × List Char) := label "integer" do
  let negative ← sign
  match ← peek? with
  | some '0' => let zero ← char '0'; return (negative, [zero])
  | _ => return (negative, ← digits 10)

/-- The least natural that is too large for an integer: integers have 64 bits, one for the sign. -/
def integerLimit : Int := 0x8000000000000000

def checked (start : Nat) (n : Int) : Reader Scalar :=
  if n < -integerLimit then commit (missAt start "number too small to fit in target type")
  else if integerLimit ≤ n then commit (missAt start "number too large to fit in target type")
  else return .integer n

/-- An integer after a mark for its base. -/
def based (mark name : String) (base : Nat) : Reader Scalar := do
  let start := (← get).pos
  let cs ← label name (literal mark *> commit (digits base))
  checked start (Text.numeral base cs)

def integer : Reader Scalar := do
  let start := (← get).pos
  match (← get).rest with
  | '0' :: 'x' :: _ => based "0x" "hexadecimal integer" 16
  | '0' :: 'o' :: _ => based "0o" "octal integer" 8
  | '0' :: 'b' :: _ => based "0b" "binary integer" 2
  | _ =>
    let (negative, cs) ← decimal
    let n : Int := Text.numeral 10 cs
    checked start (if negative then -n else n)

/-- The exponent of a float. -/
def exponent : Reader Int := do
  let _ ← satisfy fun c => c = 'e' || c = 'E'
  let negative ← sign
  let cs ← commit (digits 10)
  let n : Int := Text.numeral 10 cs
  return if negative then -n else n

/-- The digits after the decimal point. -/
def fraction : Reader (List Char) := char '.' *> expecting ["digit"] (commit (digits 10))

/-- A float with a fraction, an exponent or both. Too large a positive number is refused. -/
def ordinary : Reader Binary64 := do
  let start := (← get).pos
  let (negative, whole) ← decimal
  let (frac, exp) ← orElse ((fun e => ([], e)) <$> exponent) do
    let frac ← fraction
    return (frac, (← option? exponent).getD 0)
  let x := Binary64.ofDecimal negative (Text.numeral 10 (whole ++ frac)) (exp - frac.length)
  if x = .infinite false then fun _ => .error { pos := start, final := true } else return x

def special : Reader Binary64 := do
  let negative ← sign
  orElse (literal "inf" *> pure (.infinite negative)) (literal "nan" *> pure .nan)

def float : Reader Scalar :=
  label "floating-point number" (.float <$> orElse ordinary special)

end Numbers

/-! ## Dates and times -/

namespace Moments

/-- A number of two digits between the bounds. -/
def two (lo hi : Nat) : Reader Nat := do
  let start := (← get).pos
  let n := Text.numeral 10 (← exactly 2 Char.isDigit)
  if lo ≤ n ∧ n ≤ hi then return n else missAt start "value is out of range"

def daysOf (year month : Nat) : Nat :=
  if month = 2 then
    if year % 4 = 0 ∧ (year % 100 ≠ 0 ∨ year % 400 = 0) then 29 else 28
  else if month = 4 ∨ month = 6 ∨ month = 9 ∨ month = 11 then 30
  else 31

/-- A number padded with zeros to the given width. -/
def padded (width n : Nat) : String :=
  let text := toString n
  String.ofList (List.replicate (width - text.length) '0') ++ text

def date : Reader String := do
  let year := Text.numeral 10 (← exactly 4 Char.isDigit)
  let _ ← char '-'
  let month ← commit (two 1 12)
  let _ ← commit (char '-')
  let start := (← get).pos
  let day ← commit (two 1 31)
  if daysOf year month < day then commit (missAt start "value is out of range")
  else return padded 4 year ++ "-" ++ padded 2 month ++ "-" ++ padded 2 day

/-- The part after the seconds, to nine places and without trailing zeros. -/
def secondFraction (digits : List Char) : String :=
  match ((digits.take 9).reverse.dropWhile (· = '0')).reverse with
  | [] => ""
  | cs => "." ++ String.ofList cs

def time : Reader String := do
  let hour ← two 0 23
  let _ ← char ':'
  commit do
    let minute ← two 0 59
    let _ ← char ':'
    let second ← two 0 60
    let frac ← option? (char '.' *> takeWhile1 Char.isDigit)
    return padded 2 hour ++ ":" ++ padded 2 minute ++ ":" ++ padded 2 second
      ++ secondFraction (frac.getD [])

def offset : Reader String := label "time offset"
  (orElse (satisfy (fun c => c = 'Z' || c = 'z') *> pure "Z") do
    let s ← satisfy fun c => c = '+' || c = '-'
    commit do
      let hour ← two 0 23
      let _ ← char ':'
      let minute ← two 0 59
      return String.ofList [s] ++ padded 2 hour ++ ":" ++ padded 2 minute)

def datetime : Reader Scalar :=
  orElse
    (label "date-time" do
      let day ← date
      let rest ← option? do
        let _ ← satisfy fun c => c = 'T' || c = 't' || c = ' '
        let t ← time
        return "T" ++ t ++ (← option? offset).getD ""
      return .datetime (day ++ rest.getD ""))
    (label "time" (.datetime <$> time))

end Moments

/-! ## Scalars -/

namespace Scalar

/-- What is said of a value that starts like no other: a string was meant. -/
def asString (r : Reader Scalar) : Reader Scalar :=
  expecting ["`\"`", "`'`"] (label "string" r)

/-- Any scalar, told by its first character. -/
def read : Reader Scalar := do
  match ← peek? with
  | none => miss
  | some c =>
    if c = '"' || c = '\'' then .string <$> Strings.any
    else if c = '+' || c = '-' || c.isDigit then
      orElse Moments.datetime (orElse Numbers.float Numbers.integer)
    else if c = '_' then expecting ["leading digit"] Numbers.integer
    else if c = '.' then expecting ["leading digit"] Numbers.float
    else if c = 't' then asString (commit (literal "true") *> pure (.boolean true))
    else if c = 'f' then asString (commit (literal "false") *> pure (.boolean false))
    else if c = 'i' then asString (literal "inf" *> pure (.float (.infinite false)))
    else if c = 'n' then asString (literal "nan" *> pure (.float .nan))
    else asString miss

end Scalar

end DocAtlas.Toml
