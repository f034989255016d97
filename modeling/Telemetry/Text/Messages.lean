/-
# Texts in messages

How a text stands in a message for people. A quoted text stands between double
quotes, with the quote, the backslash and four control characters escaped by a
backslash, and the code point in hexadecimal for every other character that is
unprintable or extends the one before. An inert text is one that a
terminal only shows: the characters that ring, move or delete, or that begin a
control sequence, are written by their code points, and other characters stay,
line ends and tabs with them. Of a message that is written in lines the first one
says what happened.

Key definitions: `quoted`, `inert`, `firstLine`.
-/
import Telemetry.Text.Unprintable
import Telemetry.Text.Extending

namespace Telemetry

/-- The form of one character between the quotes. -/
def quotedChar (c : Char) : List Char :=
  if c = '"' then ['\\', '"']
  else if c = '\\' then ['\\', '\\']
  else if c = '\n' then ['\\', 'n']
  else if c = '\r' then ['\\', 'r']
  else if c = '\t' then ['\\', 't']
  else if c = '\x00' then ['\\', '0']
  else if isExtending c || isUnprintable c then
    ['\\', 'u', '\x7b'] ++ Nat.toDigits 16 c.toNat ++ ['\x7d']
  else [c]

/-- The text between double quotes. -/
def quoted (s : String) : String :=
  String.ofList ('"' :: s.toList.flatMap quotedChar ++ ['"'])

/-- The ASCII characters on which a terminal would act in a way that hides or
forges text: the bell, the backspace, the form feed, the escape and the delete. -/
def steeringAscii : List Char := ['\x07', '\x08', '\x0c', '\x1b', '\x7f']

/-- Whether the character is one of the controls after ASCII. -/
def isLateControl (c : Char) : Bool := 0x80 ≤ c.toNat && c.toNat ≤ 0x9F

/-- A character of inert text. -/
def inertChar (c : Char) : List Char :=
  if steeringAscii.contains c then
    ['\\', 'x', Nat.digitChar (c.toNat / 16), Nat.digitChar (c.toNat % 16)]
  else if isLateControl c then
    ['\\', 'u', '\x7b'] ++ Nat.toDigits 16 c.toNat ++ ['\x7d']
  else [c]

/-- The text with the characters that steer a terminal written by number. -/
def inert (s : String) : String := String.ofList (s.toList.flatMap inertChar)

/-- The first line; all of the text if no line ends in it. A line ends with a line
feed, or with a carriage return and a line feed, and the end is no part of it. A
carriage return elsewhere is a character like any other. -/
def firstLine (s : String) : String :=
  match s.toList.span (· != '\n') with
  | (_, []) => s
  | (line, _ :: _) =>
    String.ofList (if line.getLast? = some '\r' then line.dropLast else line)

end Telemetry
