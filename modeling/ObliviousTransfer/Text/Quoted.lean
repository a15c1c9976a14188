import ObliviousTransfer.Text.Visible

/-!
Characters and texts between quotes, with an escape for everything that a
reader could not see or would take for a quote.
-/

namespace ObliviousTransfer.Text

def codePointEscape (character : Char) : List Char :=
  ['\\', 'u', '\x7b'] ++ Nat.toDigits 16 character.toNat ++ ['\x7d']

def escape (quote character : Char) : List Char :=
  if character = '\x00' then ['\\', '0']
  else if character = '\t' then ['\\', 't']
  else if character = '\r' then ['\\', 'r']
  else if character = '\n' then ['\\', 'n']
  else if character = '\\' ∨ character = quote then ['\\', character]
  else if isCombining character || isInvisible character then codePointEscape character
  else [character]

def quoteWith (quote : Char) (text : List Char) : String :=
  String.ofList (quote :: text.flatMap (escape quote) ++ [quote])

def quotedCharacter (character : Char) : String := quoteWith '\x27' [character]

def quotedText (text : List Char) : String := quoteWith '\x22' text

end ObliviousTransfer.Text
