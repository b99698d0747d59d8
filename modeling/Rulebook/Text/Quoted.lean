import Rulebook.Text.Hex
import Rulebook.Text.Quoted.Table

/-!
Quoted texts: between double quotes, with everything visible. Quotes, backslashes and four controls
have short escapes; other characters that do not show are written by their number.
-/

namespace Rulebook.Text.Quoted

def isHidden (c : Char) : Bool :=
  if ' ' ≤ c && c ≤ '~' then false else CodePointRange.anyContains hiddenRanges c

def numbered (c : Char) : List Char :=
  '\\' :: 'u' :: '\x7b' :: (Hex.digits c.toNat ++ ['\x7d'])

def quoteChar (c : Char) : List Char :=
  if c = '\x00' then ['\\', '0']
  else if c = '\t' then ['\\', 't']
  else if c = '\n' then ['\\', 'n']
  else if c = '\r' then ['\\', 'r']
  else if c = '"' then ['\\', '"']
  else if c = '\\' then ['\\', '\\']
  else if isHidden c then numbered c
  else [c]

def quote (s : String) : String := String.ofList ('"' :: (s.toList.flatMap quoteChar ++ ['"']))

end Rulebook.Text.Quoted
