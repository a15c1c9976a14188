import ObliviousTransfer.Protocol.Oracle

/-!
Programs on a row of oracles. What an oracle has been fed is read off the lines of
the program, from the last one back to a reset or a digest of that oracle. A copy
is traced back to the oracle that it was made of.
-/

namespace ObliviousTransfer.Oracle

structure Line where
  place : Nat
  instruction : Instruction

def countBack : List Line → Nat
  | [] => 1
  | line :: earlier =>
      match line.instruction with
      | .duplicate =>
          if line.place < countBack earlier then countBack earlier + 1 else countBack earlier
      | _ => countBack earlier

/-- The inputs of the oracle at a place since it was last cleared, the newest line first. -/
def fedBack : List Line → Nat → List (List Byte)
  | [], _ => []
  | line :: earlier, place =>
      match line.instruction with
      | .absorb input =>
          if line.place = place then fedBack earlier place ++ [input] else fedBack earlier place
      | .extract => fedBack earlier place
      | .reset => if line.place = place then [] else fedBack earlier place
      | .digest input => if line.place = place then [input] else fedBack earlier place
      | .duplicate => fedBack earlier (if place = countBack earlier then line.place else place)

def count (program : List Line) : Nat := countBack program.reverse

def fed (program : List Line) (place : Nat) : List (List Byte) := fedBack program.reverse place

def answer (hash : List Byte → Pad) (program : List Line) (line : Line) : Option Answer :=
  if line.place < count program then
    some (match line.instruction with
      | .absorb _ => .none
      | .extract => .output (hash (fed program line.place).flatten)
      | .reset => .none
      | .digest input => .output (hash input)
      | .duplicate => .index (count program))
  else none

theorem count_append_line (program : List Line) (line : Line) :
    count (program ++ [line]) =
      match line.instruction with
      | .duplicate => if line.place < count program then count program + 1 else count program
      | _ => count program := by
  rw [count, List.reverse_concat]
  rfl

theorem fed_append_line (program : List Line) (line : Line) (place : Nat) :
    fed (program ++ [line]) place =
      match line.instruction with
      | .absorb input =>
          if line.place = place then fed program place ++ [input] else fed program place
      | .extract => fed program place
      | .reset => if line.place = place then [] else fed program place
      | .digest input => if line.place = place then [input] else fed program place
      | .duplicate => fed program (if place = count program then line.place else place) := by
  rw [fed, List.reverse_concat]
  rfl

theorem fed_append_other {program : List Line} {line : Line} {place : Nat}
    (other : line.place ≠ place) (present : place < count program) :
    fed (program ++ [line]) place = fed program place := by
  obtain ⟨on, instruction⟩ := line
  rw [fed_append_line]
  cases instruction with
  | absorb input => exact if_neg other
  | extract => rfl
  | reset => exact if_neg other
  | digest input => exact if_neg other
  | duplicate => exact congrArg (fed program) (if_neg (Nat.ne_of_lt present))

/-- Two programs that have fed the same bytes to every oracle. -/
structure Alike (left right : List Line) : Prop where
  same_count : count left = count right
  same_bytes : ∀ place, (fed left place).flatten = (fed right place).flatten

namespace Alike

variable {left right : List Line} (alike : Alike left right)
include alike

theorem append_line (line : Line) : Alike (left ++ [line]) (right ++ [line]) := by
  obtain ⟨on, instruction⟩ := line
  constructor
  · rw [count_append_line, count_append_line, alike.same_count]
  · intro place
    rw [fed_append_line, fed_append_line, alike.same_count]
    cases instruction with
    | absorb input =>
        by_cases here : on = place
        · simp only [if_pos here, List.flatten_append, alike.same_bytes]
        · simp only [if_neg here, alike.same_bytes]
    | extract => exact alike.same_bytes place
    | reset => simp only [apply_ite List.flatten, alike.same_bytes]
    | digest input => simp only [apply_ite List.flatten, alike.same_bytes]
    | duplicate => exact alike.same_bytes _

theorem append (later : List Line) : Alike (left ++ later) (right ++ later) := by
  induction later generalizing left right with
  | nil =>
      rw [List.append_nil, List.append_nil]
      exact alike
  | cons line later ih =>
      have longer := ih (alike.append_line line)
      rw [List.append_assoc, List.append_assoc] at longer
      exact longer

theorem answer_eq (hash : List Byte → Pad) (line : Line) :
    answer hash left line = answer hash right line := by
  rw [answer, answer, alike.same_count, alike.same_bytes]

end Alike

def absorbs (place : Nat) (parts : List (List Byte)) : List Line :=
  parts.map fun part => ⟨place, .absorb part⟩

theorem count_append_absorbs (program : List Line) (place : Nat) (parts : List (List Byte)) :
    count (program ++ absorbs place parts) = count program := by
  induction parts generalizing program with
  | nil => exact congrArg count (List.append_nil program)
  | cons part parts ih =>
      have first := count_append_line program ⟨place, .absorb part⟩
      have rest := ih (program ++ [⟨place, .absorb part⟩])
      rw [List.append_assoc, first] at rest
      exact rest

theorem fed_append_absorbs (program : List Line) (on : Nat) (parts : List (List Byte))
    (place : Nat) :
    fed (program ++ absorbs on parts) place =
      if on = place then fed program place ++ parts else fed program place := by
  induction parts generalizing program with
  | nil =>
      have same := congrArg (fed · place) (List.append_nil program)
      rw [List.append_nil, ite_self]
      exact same
  | cons part parts ih =>
      have first := fed_append_line program ⟨on, .absorb part⟩ place
      have rest := ih (program ++ [⟨on, .absorb part⟩])
      rw [List.append_assoc, first] at rest
      refine rest.trans ?_
      by_cases here : on = place
      · simp only [if_pos here, List.append_assoc, List.singleton_append]
      · simp only [if_neg here]

theorem alike_absorbs (program : List Line) (on : Nat) (parts : List (List Byte)) :
    Alike (program ++ absorbs on parts) (program ++ [⟨on, .absorb parts.flatten⟩]) := by
  constructor
  · rw [count_append_absorbs, count_append_line]
  · intro place
    rw [fed_append_absorbs, fed_append_line]
    by_cases here : on = place
    · simp only [if_pos here, List.flatten_append, List.flatten_singleton]
    · simp only [if_neg here]

end ObliviousTransfer.Oracle
