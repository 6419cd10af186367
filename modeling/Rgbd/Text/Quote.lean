import Rgbd.Text.Unicode

/-!
Strings quoted for diagnostics.

A quoted string stands between double quotes. The quote and the backslash are escaped
with a backslash, and so are tab, carriage return, line feed and the null character
(`\t`, `\r`, `\n`, `\0`). A grapheme extender, which would otherwise join the quote or
the character before it, and an unprintable character are written `\u` followed by their
lowercase hexadecimal code in braces. Every other character stands as it is.
-/

namespace Rgbd.Text

def hexDigits (n : Nat) : String :=
  String.ofList (Nat.toDigits 16 n)

def escapeChar (c : Char) : String :=
  if c = '\x00' then "\\0"
  else if c = '\t' then "\\t"
  else if c = '\r' then "\\r"
  else if c = '\n' then "\\n"
  else if c = '\\' then "\\\\"
  else if c = '"' then "\\\""
  else if isGraphemeExtend c || !isPrintable c then "\\u\x7b" ++ hexDigits c.toNat ++ "\x7d"
  else c.toString

def quoted (s : String) : String :=
  "\"" ++ String.join (s.toList.map escapeChar) ++ "\""

end Rgbd.Text
