import ObliviousTransfer.Bytes.Octets

/-!
Texts as bytes in UTF-8.
-/

namespace ObliviousTransfer

def utf8 (text : String) : List Byte := text.toUTF8.toList

def utf8Length : List Char → Nat
  | [] => 0
  | character :: rest => character.utf8Size + utf8Length rest

def leadByte (character : Char) : Byte := (String.utf8EncodeChar character).headD 0

end ObliviousTransfer
