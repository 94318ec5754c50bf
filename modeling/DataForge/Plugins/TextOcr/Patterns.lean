import DataForge.Foundation.Backtracking
import DataForge.Foundation.Features
import DataForge.Plugins.TextOcr.Pii

namespace DataForge.Plugins.TextOcr.Patterns

open DataForge.Foundation.Strings
open DataForge.Foundation.Features
open DataForge.Foundation.Backtracking
open DataForge.Foundation.Backtracking.Regex
open DataForge.Domain.TextOcr
open DataForge.Plugins.TextOcr.Pii

section Classes

/-- `\d`: a decimal digit of any script. -/
def isDigit (c : Char) : Bool := (decimalDigit c).isSome

/-- `\w`. -/
def isWord (isAlnum : Char → Bool) (c : Char) : Bool := isAlnum c || c = '_'

/-- `\b`. -/
def boundary (isAlnum : Char → Bool) : Regex :=
  look fun before after => before.any (isWord isAlnum) != after.any (isWord isAlnum)

/-- The letter that a character stands for where case is ignored; four letters beyond
ASCII fold to one of ASCII. -/
def foldCase (c : Char) : Char :=
  if c.toNat = 0x130 ∨ c.toNat = 0x131 then 'i'
  else if c.toNat = 0x17f then 's'
  else if c.toNat = 0x212a then 'k'
  else c.toLower

def isLower (c : Char) : Bool := 'a' ≤ c && c ≤ 'z'

def isUpper (c : Char) : Bool := 'A' ≤ c && c ≤ 'Z'

def isAsciiDigit (c : Char) : Bool := '0' ≤ c && c ≤ '9'

/-- `[A-Z]` where case is ignored. -/
def isLetter (c : Char) : Bool := isLower (foldCase c)

def oneOf (cs : String) : Regex := char fun c => decide (c ∈ cs.toList)

/-- A word where case is ignored. -/
def keyword (word : String) : Regex := all (word.toList.map fun c => char fun x => foldCase x = c)

def space : Regex := char isSpace

def digit : Regex := char isDigit

end Classes

section Patterns

variable (isAlnum : Char → Bool)

def secretPattern : Regex :=
  all [boundary isAlnum,
    any [keyword "token", keyword "secret", keyword "password",
      all [keyword "api", opt (oneOf "_-"), keyword "key"]],
    star space, oneOf ":=", star space, opt (oneOf "'\""),
    plus (char fun c => !(decide (c ∈ "'\",\x7d".toList) || isSpace c))]

def emailPattern : Regex :=
  all [boundary isAlnum,
    plus (char fun c => isUpper c || isLower c || isAsciiDigit c || decide (c ∈ "._%+-".toList)),
    oneOf "@",
    plus (char fun c => isUpper c || isLower c || isAsciiDigit c || decide (c ∈ ".-".toList)),
    oneOf ".", atLeast 2 (char fun c => isUpper c || isLower c), boundary isAlnum]

def passportPattern : Regex :=
  all [boundary isAlnum, opt (all [keyword "passport", star space, opt (oneOf ":#-"), star space]),
    upTo 2 (char isLetter), copies 4 digit, opt (char fun c => isSpace c || c = '-'),
    copies 6 digit, boundary isAlnum]

def paymentCardPattern : Regex :=
  all [boundary isAlnum, between 12 6 (seq digit (opt (oneOf " -"))), digit, boundary isAlnum]

def bankAccountPattern : Regex :=
  all [boundary isAlnum, any [keyword "account", keyword "acct", keyword "iban"],
    star (char fun c => decide (c ∈ ":#-".toList) || isSpace c),
    between 8 26 (char fun c => isLetter c || isAsciiDigit c), boundary isAlnum]

/-- The separators of a phone number. -/
def isSeparator (c : Char) : Bool := isSpace c || decide (c ∈ "().-".toList)

/-- One digit with the plus sign before it and the separators after it. -/
def phoneUnit : Regex := all [opt (oneOf "+"), digit, star (char isSeparator)]

def phonePattern : Regex :=
  all [look fun before _ => !before.any fun c => isDigit c || c = '.',
    atLeast 9 phoneUnit, digit, look fun _ after => !after.any isDigit]

def pattern : PiiCategory → Regex
  | .secret => secretPattern isAlnum
  | .email => emailPattern isAlnum
  | .passport => passportPattern isAlnum
  | .paymentCard => paymentCardPattern isAlnum
  | .bankAccount => bankAccountPattern isAlnum
  | .phone => phonePattern

/-- The engine with the patterns of the module; `isAlnum` is `str.isalnum`. -/
def engine : PatternEngine where
  finditer category text :=
    ((pattern isAlnum category).finditer text).map fun m => (m.1.place, m.2.place)
  digit := decimalDigit

end Patterns

/-- The letters and digits of ASCII. -/
def isAsciiAlnum (c : Char) : Bool := isUpper c || isLower c || isAsciiDigit c

example : (detectPii (engine isAsciiAlnum) "card 4111-1111-1111-1111, a@b.co".toList) =
    ([(.email, 1), (.paymentCard, 1)],
      "card [REDACTED_PAYMENT_CARD], [REDACTED_EMAIL]".toList) := by
  decide +kernel

end DataForge.Plugins.TextOcr.Patterns
