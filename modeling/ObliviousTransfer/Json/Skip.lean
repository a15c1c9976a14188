import ObliviousTransfer.Json.Literal

/-!
Passing over a value that nobody asked for. The value must be well-formed, but
its numbers may have any exponent and its strings any surrogates.
-/

namespace ObliviousTransfer.Json

def isBlank (character : Char) : Bool :=
  character = ' ' || character = '\n' || character = '\t' || character = '\r'

def dropBlanks (input : List Char) : List Char := input.dropWhile isBlank

def readWord : List Char → List Char → Except GrammarFault (List Char)
  | [], input => .ok input
  | _ :: _, [] => .error .endInValue
  | letter :: letters, character :: rest =>
      if character = letter then readWord letters rest else .error .wordExpected

def skipExponent (input : List Char) : Except GrammarFault (List Char) :=
  let input := match input with
    | '+' :: rest => rest
    | '-' :: rest => rest
    | _ => input
  if input.takeWhile Char.isDigit = [] then .error .badNumber
  else .ok (input.dropWhile Char.isDigit)

def skipFractionEnd : List Char → Except GrammarFault (List Char)
  | 'e' :: rest => skipExponent rest
  | 'E' :: rest => skipExponent rest
  | input => .ok input

def skipNumber (input : List Char) : Except GrammarFault (List Char) :=
  let digits := input.takeWhile Char.isDigit
  if digits = [] ∨ (digits.head? = some '0' ∧ digits ≠ ['0']) then .error .badNumber
  else
    match input.dropWhile Char.isDigit with
    | '.' :: rest =>
        if rest.takeWhile Char.isDigit = [] then .error .badNumber
        else skipFractionEnd (rest.dropWhile Char.isDigit)
    | rest => skipFractionEnd rest

inductive Frame where
  | list
  | object

def Frame.closing : Frame → Char
  | .list => ']'
  | .object => '\x7d'

def Frame.cutShort : Frame → GrammarFault
  | .list => .endInList
  | .object => .endInObject

def Frame.commaExpected : Frame → GrammarFault
  | .list => .listCommaExpected
  | .object => .objectCommaExpected

inductive Awaiting where
  | value
  | key
  | separator

def Frame.awaiting : Frame → Awaiting
  | .list => .value
  | .object => .key

/-- Passes over one value with all its frames. Every step takes at least one character, so a fuel
of one more than the length of the input is enough. -/
def skipFrom : Nat → Awaiting → List Frame → List Char → Except GrammarFault (List Char)
  | 0, _, _, _ => .error .endInValue
  | _ + 1, .separator, [], input => .ok input
  | fuel + 1, .separator, frame :: outer, input =>
      match dropBlanks input with
      | [] => .error frame.cutShort
      | character :: rest =>
          if character = ',' then skipFrom fuel frame.awaiting (frame :: outer) rest
          else if character = frame.closing then skipFrom fuel .separator outer rest
          else .error frame.commaExpected
  | fuel + 1, .key, frames, input =>
      match dropBlanks input with
      | [] => .error .endInObject
      | '\x22' :: rest => do
          let rest ← skipText rest
          match dropBlanks rest with
          | [] => .error .endInObject
          | ':' :: rest => skipFrom fuel .value frames rest
          | _ => .error .colonExpected
      | _ => .error .keyExpected
  | fuel + 1, .value, frames, input =>
      let enter (frame : Frame) (rest : List Char) : Except GrammarFault (List Char) :=
        match dropBlanks rest with
        | [] => .error frame.cutShort
        | character :: after =>
            if character = frame.closing then skipFrom fuel .separator frames after
            else skipFrom fuel frame.awaiting (frame :: frames) rest
      match dropBlanks input with
      | [] => .error .endInValue
      | 'n' :: rest => do skipFrom fuel .separator frames (← readWord ['u', 'l', 'l'] rest)
      | 't' :: rest => do skipFrom fuel .separator frames (← readWord ['r', 'u', 'e'] rest)
      | 'f' :: rest => do skipFrom fuel .separator frames (← readWord ['a', 'l', 's', 'e'] rest)
      | '-' :: rest => do skipFrom fuel .separator frames (← skipNumber rest)
      | '\x22' :: rest => do skipFrom fuel .separator frames (← skipText rest)
      | '[' :: rest => enter .list rest
      | '\x7b' :: rest => enter .object rest
      | character :: rest =>
          if character.isDigit then do
            skipFrom fuel .separator frames (← skipNumber (character :: rest))
          else .error .valueExpected

def skipValue (input : List Char) : Except GrammarFault (List Char) :=
  skipFrom (input.length + 1) .value [] input

end ObliviousTransfer.Json
