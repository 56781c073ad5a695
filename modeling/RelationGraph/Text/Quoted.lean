import RelationGraph.Text.Case
import RelationGraph.Text.GlyphTable

set_option autoImplicit false

namespace RelationGraph.Text

def isVisible (c : Char) : Bool :=
  c = ' ' || (!inRanges hiddenRanges c && !inRanges extendingRanges c)

def quoteChar (c : Char) : List Char :=
  if c = '\x00' then ['\\', '0']
  else if c = '\t' then ['\\', 't']
  else if c = '\n' then ['\\', 'n']
  else if c = '\r' then ['\\', 'r']
  else if c = '"' then ['\\', '"']
  else if c = '\\' then ['\\', '\\']
  else if isVisible c then [c]
  else ['\\', 'u', '\x7b'] ++ Nat.toDigits 16 c.toNat ++ ['\x7d']

def quoted (text : String) : String :=
  String.ofList ('"' :: text.toList.flatMap quoteChar ++ ['"'])

end RelationGraph.Text
