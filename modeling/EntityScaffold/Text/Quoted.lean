import EntityScaffold.Text.Printable
/-!
# Quoted text in messages

A message shows a text between quotes so that its ends and its invisible characters can be seen.  Single
quotes are used unless the text holds some and no double quote.  The quote in use and the backslash are
escaped by a backslash; line feed, carriage return and tab have escapes of their own; every other
unprintable character is written by its code in two, four or eight hexadecimal digits.
-/

namespace EntityScaffold.Text

/-- The lowest `count` hexadecimal digits of `n`, in small letters. -/
def hexDigits : (count n : Nat) → List Char
  | 0, _ => []
  | count + 1, n =>
    let d := n / Nat.pow 16 count % 16
    Char.ofNat (if d < 10 then 48 + d else 87 + d) :: hexDigits count n

/-- An unprintable character by its code. -/
def escapedCode (c : Char) : List Char :=
  let n := c.toNat
  if n < 0x100 then '\\' :: 'x' :: hexDigits 2 n
  else if n < 0x10000 then '\\' :: 'u' :: hexDigits 4 n
  else '\\' :: 'U' :: hexDigits 8 n

/-- One character of a quoted text. -/
def quotedChar (quote c : Char) : List Char :=
  if c == quote || c == '\\' then ['\\', c]
  else if c == '\n' then ['\\', 'n']
  else if c == '\r' then ['\\', 'r']
  else if c == '\t' then ['\\', 't']
  else if isPrintable c then [c]
  else escapedCode c

/-- The quote for a text. -/
def quoteFor (cs : List Char) : Char :=
  if cs.contains '\'' && !cs.contains '"' then '"' else '\''

/-- A text between quotes. -/
def quoted (s : String) : String :=
  let quote := quoteFor s.toList
  String.ofList (quote :: s.toList.flatMap (quotedChar quote) ++ [quote])

end EntityScaffold.Text
