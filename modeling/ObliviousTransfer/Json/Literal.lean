import ObliviousTransfer.Bytes.Hex
import ObliviousTransfer.Json.Fault

/-!
String literals and numbers. A string is read one character at a time by a
machine that remembers where in an escape it stands.
-/

namespace ObliviousTransfer.Json

/-- Where the reader of a string stands. `leading` is the first half of a surrogate pair. -/
inductive StringState where
  | plain
  | escape
  | hex (leading : Option Nat) (count value : Nat)
  | pairBackslash (leading : Nat)
  | pairLetter (leading : Nat)

def simpleEscape? : Char → Option Char
  | '\x22' => some '\x22'
  | '\\' => some '\\'
  | '/' => some '/'
  | 'b' => some '\x08'
  | 'f' => some '\x0c'
  | 'n' => some '\n'
  | 'r' => some '\r'
  | 't' => some '\t'
  | _ => none

def isLeadingSurrogate (code : Nat) : Bool := 0xd800 ≤ code && code ≤ 0xdbff

def isTrailingSurrogate (code : Nat) : Bool := 0xdc00 ≤ code && code ≤ 0xdfff

def joinSurrogates (leading trailing : Nat) : Char :=
  Char.ofNat ((leading - 0xd800) * 0x400 + (trailing - 0xdc00) + 0x10000)

/-- What four hexadecimal digits lead to: a character and the next state. A reader that only skips
a string does not ask for pairs. -/
def afterHex (strict : Bool) (leading : Option Nat) (code : Nat) :
    Except GrammarFault (Option Char × StringState) :=
  if strict then
    match leading with
    | none =>
        if isTrailingSurrogate code then .error .loneSurrogate
        else if isLeadingSurrogate code then .ok (none, .pairBackslash code)
        else .ok (some (Char.ofNat code), .plain)
    | some leading =>
        if isTrailingSurrogate code then .ok (some (joinSurrogates leading code), .plain)
        else .error .loneSurrogate
  else .ok (none, .plain)

/-- Reads the rest of a string after its opening quote. An escape that is cut off is a fault of the
end of the input only if fewer than four bytes are left for its digits. -/
def readString (strict : Bool) :
    StringState → List Char → Except GrammarFault (List Char × List Char)
  | _, [] => .error .endInString
  | .plain, character :: rest =>
      if character = '\x22' then .ok ([], rest)
      else if character = '\\' then readString strict .escape rest
      else if character.toNat < 0x20 then .error .controlCharacter
      else do
        let (text, rest) ← readString strict .plain rest
        .ok (character :: text, rest)
  | .escape, character :: rest =>
      if character = 'u' then readString strict (.hex none 0 0) rest
      else
        match simpleEscape? character with
        | none => .error .badEscape
        | some meant => do
            let (text, rest) ← readString strict .plain rest
            .ok (meant :: text, rest)
  | .hex leading count value, character :: rest =>
      match Hex.digitValue? character with
      | none =>
          if 4 ≤ count + utf8Length (character :: rest) then .error .badEscape
          else .error .endInString
      | some digit =>
          if count < 3 then readString strict (.hex leading (count + 1) (16 * value + digit)) rest
          else do
            let (meant, state) ← afterHex strict leading (16 * value + digit)
            let (text, rest) ← readString strict state rest
            .ok (meant.toList ++ text, rest)
  | .pairBackslash leading, character :: rest =>
      if character = '\\' then readString strict (.pairLetter leading) rest
      else .error .surrogateCutShort
  | .pairLetter leading, character :: rest =>
      if character = 'u' then readString strict (.hex (some leading) 0 0) rest
      else .error .surrogateCutShort

def readText (input : List Char) : Except GrammarFault (List Char × List Char) :=
  readString true .plain input

def skipText (input : List Char) : Except GrammarFault (List Char) :=
  (readString false .plain input).map Prod.snd

def significandLimit : Nat := 0xffffffffffffffff

/-- Takes digits into a significand as long as they fit; gives how many did and those left over. -/
def takeDigits (significand count : Nat) : List Char → Nat × Nat × List Char
  | [] => (significand, count, [])
  | digit :: rest =>
      let next := 10 * significand + (digit.toNat - '0'.toNat)
      if significandLimit < next then (significand, count, digit :: rest)
      else takeDigits next (count + 1) rest

def powerOfTen (exponent : Nat) : Float := Float.ofScientific 1 false exponent

/-- Scales a double by a power of ten in steps of at most `10 ^ 308`. -/
def scale (value : Float) : Nat → Int → Except GrammarFault Float
  | 0, _ => .ok value
  | fuel + 1, exponent =>
      if exponent.natAbs ≤ 308 then
        if 0 ≤ exponent then
          let scaled := value * powerOfTen exponent.natAbs
          if scaled.isInf then .error .numberOutOfRange else .ok scaled
        else .ok (value / powerOfTen exponent.natAbs)
      else if value == 0 then .ok value
      else if 0 ≤ exponent then .error .numberOutOfRange
      else scale (value / powerOfTen 308) fuel (exponent + 308)

/-- Five steps bring every significand down to zero. -/
def floating (negative : Bool) (significand : Nat) (exponent : Int) :
    Except GrammarFault Found := do
  let value ← scale (Float.ofNat significand) 5 exponent
  .ok (.floating (if negative then -value else value).toBits)

def readExponent (negative : Bool) (significand : Nat) (start : Int) (input : List Char) :
    Except GrammarFault (Found × List Char) :=
  let (down, input) := match input with
    | '+' :: rest => (false, rest)
    | '-' :: rest => (true, rest)
    | _ => (false, input)
  let digits := input.takeWhile Char.isDigit
  let rest := input.dropWhile Char.isDigit
  if digits = [] then
    if input = [] then .error .endInValue else .error .badNumber
  else do
    let exponent := (String.ofList digits).toNat?.getD 0
    let found ←
      if exponent < 0x80000000 then
        floating negative significand (if down then start - exponent else start + exponent)
      else if significand ≠ 0 ∧ !down then .error .numberOutOfRange
      else floating negative 0 0
    .ok (found, rest)

def readFractionEnd (negative : Bool) (significand : Nat) (exponent : Int) (input : List Char) :
    Except GrammarFault (Found × List Char) :=
  match input with
  | 'e' :: rest => readExponent negative significand exponent rest
  | 'E' :: rest => readExponent negative significand exponent rest
  | _ => do
      let found ← floating negative significand exponent
      .ok (found, input)

def readFraction (negative : Bool) (significand : Nat) (exponent : Int) (input : List Char) :
    Except GrammarFault (Found × List Char) :=
  let digits := input.takeWhile Char.isDigit
  let rest := input.dropWhile Char.isDigit
  if digits = [] then
    if input = [] then .error .endInValue else .error .badNumber
  else
    let (significand, places, _) := takeDigits significand 0 digits
    readFractionEnd negative significand (exponent - places) rest

def integer (negative : Bool) (value : Nat) : Found :=
  if negative then
    if value = 0 ∨ 0x8000000000000000 < value then .floating (-(Float.ofNat value)).toBits
    else .integer (-(value : Int))
  else .integer value

def readNumber (negative : Bool) (input : List Char) : Except GrammarFault (Found × List Char) :=
  let digits := input.takeWhile Char.isDigit
  let rest := input.dropWhile Char.isDigit
  match digits with
  | [] => if input = [] then .error .endInValue else .error .badNumber
  | first :: more =>
      if first = '0' ∧ more ≠ [] then .error .badNumber
      else
        let (significand, _, dropped) := takeDigits 0 0 digits
        match rest with
        | '.' :: after => readFraction negative significand dropped.length after
        | _ =>
            if dropped = [] ∧ rest.head? ≠ some 'e' ∧ rest.head? ≠ some 'E' then
              .ok (integer negative significand, rest)
            else readFractionEnd negative significand dropped.length rest

end ObliviousTransfer.Json
