/-!
# Texts as string literals

`quote` writes a text as a double-quoted string literal on one line, so that it can be put into a
program wherever a value is expected.
-/

namespace ScriptHost.ProtoScript

/-- A hexadecimal digit in lower case. -/
def hexDigit (n : Nat) : Char := if n < 10 then Char.ofNat (48 + n) else Char.ofNat (87 + n)

/-- How one character is written inside a literal: quotes, backslashes, line ends and control
characters as escapes, all others as themselves. -/
def quoteChar (c : Char) : List Char :=
  if c = '"' then ['\\', '"']
  else if c = '\\' then ['\\', '\\']
  else if c = '\n' then ['\\', 'n']
  else if c = '\r' then ['\\', 'r']
  else if c.toNat = 0x2028 then "\\u2028".toList
  else if c.toNat = 0x2029 then "\\u2029".toList
  else if c.toNat < 0x20 then
    ['\\', 'u', '0', '0', hexDigit (c.toNat / 16), hexDigit (c.toNat % 16)]
  else [c]

/-- A text as a double-quoted string literal. -/
def quote (s : String) : String :=
  String.ofList ('"' :: s.toList.flatMap quoteChar ++ ['"'])

/-- The statement that gives a variable the value of a whole program.  The program is evaluated in the
global scope, so its variables are global and its last value counts. -/
def assignment (variableName program : String) : String :=
  variableName ++ " = (0, eval)(" ++ quote program ++ ");"

end ScriptHost.ProtoScript
