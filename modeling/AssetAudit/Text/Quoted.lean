import AssetAudit.Text.Basic
import AssetAudit.Unicode.Printable

/-!
# Quoted texts

A text is shown between single quotes, or between double quotes when it holds a single quote and
no double one. What is not printable is shown by its code.
-/
namespace AssetAudit.Text

def quoteMark (s : Text) : Char :=
  if s.contains '\'' && !s.contains '"' then '"' else '\''

def quotedChar (mark c : Char) : Text :=
  if c == mark || c == '\\' then ['\\', c]
  else if c == '\t' then ['\\', 't']
  else if c == '\n' then ['\\', 'n']
  else if c == '\r' then ['\\', 'r']
  else if Unicode.isPrintable c.toNat then [c]
  else if c.toNat < 256 then '\\' :: 'x' :: hex 2 c.toNat
  else if c.toNat < 65536 then '\\' :: 'u' :: hex 4 c.toNat
  else '\\' :: 'U' :: hex 8 c.toNat

def quoted (s : Text) : Text :=
  quoteMark s :: s.flatMap (quotedChar (quoteMark s)) ++ [quoteMark s]

end AssetAudit.Text
