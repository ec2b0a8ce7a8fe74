import DocTable.Text.Hidden
import DocTable.Text.Hex

/-!
Quoted text: a text between double quotes in which every character can be seen. Quotes, backslashes
and the common controls have short forms; any other character that does not show is written by its
code point.
-/

namespace DocTable.Text.Quoted

def escape (c : Char) : List Char :=
  if c = '"' then ['\\', '"']
  else if c = '\\' then ['\\', '\\']
  else if c = '\n' then ['\\', 'n']
  else if c = '\r' then ['\\', 'r']
  else if c = '\t' then ['\\', 't']
  else if c.toNat = 0 then ['\\', '0']
  else if isHidden c then "\\u\x7b".toList ++ Hex.ofNat c.toNat ++ ['\x7d']
  else [c]

def encode (s : String) : String :=
  String.ofList ('"' :: s.toList.flatMap escape ++ ['"'])

end DocTable.Text.Quoted
