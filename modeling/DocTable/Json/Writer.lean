import DocTable.Json.Basic
import DocTable.Number.Digits
import DocTable.Number.Layout
import DocTable.Text.Hex

/-!
Writing JSON, on one line without blanks or indented by two spaces. Strings escape what JSON
demands and nothing else; numbers that are not finite are written as `null`.
-/

namespace DocTable

/-- Numbers in JSON: positional from 10^-5 on and below 10^16, always with a point. -/
def Layout.json : Layout := ⟨fun e => -5 ≤ e && e ≤ 15, true, .toEven⟩

namespace Json

def floatText {format : BinaryFormat} (x : BinaryFloat format) : List Char :=
  (Layout.json.render? x).getD "null".toList

def escape (c : Char) : List Char :=
  if c = '"' then ['\\', '"']
  else if c = '\\' then ['\\', '\\']
  else if c = '\x08' then ['\\', 'b']
  else if c = '\x0c' then ['\\', 'f']
  else if c = '\n' then ['\\', 'n']
  else if c = '\r' then ['\\', 'r']
  else if c = '\t' then ['\\', 't']
  else if c.toNat < 0x20 then '\\' :: 'u' :: '0' :: '0' :: Hex.ofByte (UInt8.ofNat c.toNat)
  else [c]

def quote (s : String) : List Char := '"' :: s.toList.flatMap escape ++ ['"']

mutual

def compact : Json → List Char
  | null => "null".toList
  | bool b => if b then "true".toList else "false".toList
  | integer n => Digits.ofInt n
  | float x => floatText x
  | single x => floatText x
  | string s => quote s
  | array items => '[' :: compactItems items ++ [']']
  | object entries => '{' :: compactEntries entries ++ ['}']

def compactItems : List Json → List Char
  | [] => []
  | [v] => compact v
  | v :: rest => compact v ++ ',' :: compactItems rest

def compactEntries : List (String × Json) → List Char
  | [] => []
  | [(name, v)] => quote name ++ ':' :: compact v
  | (name, v) :: rest => quote name ++ ':' :: compact v ++ ',' :: compactEntries rest

end

def newLine (depth : Nat) : List Char := '\n' :: List.replicate (2 * depth) ' '

mutual

/-- The value over several lines, one item or entry a line; empty arrays and objects stay on one. -/
def pretty (depth : Nat) : Json → List Char
  | array [] => ['[', ']']
  | array items => '[' :: prettyItems (depth + 1) items ++ newLine depth ++ [']']
  | object [] => ['{', '}']
  | object entries => '{' :: prettyEntries (depth + 1) entries ++ newLine depth ++ ['}']
  | null => "null".toList
  | bool b => if b then "true".toList else "false".toList
  | integer n => Digits.ofInt n
  | float x => floatText x
  | single x => floatText x
  | string s => quote s

def prettyItems (depth : Nat) : List Json → List Char
  | [] => []
  | [v] => newLine depth ++ pretty depth v
  | v :: rest => newLine depth ++ pretty depth v ++ ',' :: prettyItems depth rest

def prettyEntries (depth : Nat) : List (String × Json) → List Char
  | [] => []
  | [(name, v)] => newLine depth ++ quote name ++ ':' :: ' ' :: pretty depth v
  | (name, v) :: rest =>
    newLine depth ++ quote name ++ ':' :: ' ' :: pretty depth v ++ ',' :: prettyEntries depth rest

end

def compactText (v : Json) : String := String.ofList v.compact

def prettyText (v : Json) : String := String.ofList (v.pretty 0)

end Json

end DocTable
