import ObliviousTransfer.Proofs.Hash.Streaming
import ObliviousTransfer.Proofs.Oracle.Program

/-!
What programs on a row of oracles return. An oracle may keep all that it is fed,
or only what an incremental hash needs of it: as long as its operations keep it in
step with the bytes that it was fed, every program returns the same, which is told
by the hash of those bytes alone.
-/

namespace ObliviousTransfer

/-- A hash that is fed in parts, on states of some kind. -/
structure Accumulator (State : Type) where
  absorb : State → List Byte → State
  extract : State → Pad
  reset : State → State

namespace Accumulator

variable {State : Type}

def digest (accumulator : Accumulator State) (state : State) (input : List Byte) : Pad × State :=
  let fed := accumulator.absorb (accumulator.reset state) input
  (accumulator.extract fed, fed)

/-- Runs an instruction on the state at a place of the row. A copy is put at the end. -/
def perform (accumulator : Accumulator State) (row : List State) (place : Nat)
    (instruction : Oracle.Instruction) : Option (Oracle.Answer × List State) :=
  match row[place]? with
  | none => none
  | some state =>
      match instruction with
      | .absorb input => some (.none, row.set place (accumulator.absorb state input))
      | .extract => some (.output (accumulator.extract state), row)
      | .reset => some (.none, row.set place (accumulator.reset state))
      | .digest input =>
          let (pad, fed) := accumulator.digest state input
          some (.output pad, row.set place fed)
      | .duplicate => some (.index row.length, row ++ [state])

/-- The operations keep the states in step with the bytes fed, whose hash is read off them. -/
structure Follows (accumulator : Accumulator State) (hash : List Byte → Pad)
    (Holds : State → List Byte → Prop) : Prop where
  reset : ∀ state bytes, Holds state bytes → Holds (accumulator.reset state) []
  absorb : ∀ state bytes input, Holds state bytes →
    Holds (accumulator.absorb state input) (bytes ++ input)
  extract : ∀ state bytes, Holds state bytes → accumulator.extract state = hash bytes

theorem Follows.digest {accumulator : Accumulator State} {hash : List Byte → Pad}
    {Holds : State → List Byte → Prop} (follows : Follows accumulator hash Holds)
    {state : State} {bytes : List Byte} (holds : Holds state bytes) (input : List Byte) :
    (accumulator.digest state input).1 = hash input ∧
      Holds (accumulator.digest state input).2 input := by
  have fed := follows.absorb _ [] input (follows.reset state bytes holds)
  exact ⟨follows.extract _ input fed, fed⟩

end Accumulator

namespace Oracle

section Rows

variable {State : Type}
  (perform : List State → Nat → Instruction → Option (Answer × List State))

def step (row : List State) (line : Line) : List State :=
  match perform row line.place line.instruction with
  | some (_, next) => next
  | none => row

def after (row : List State) (program : List Line) : List State := program.foldl (step perform) row

def returns (row : List State) (line : Line) : Option Answer :=
  (perform row line.place line.instruction).map Prod.fst

theorem after_append (row : List State) (before later : List Line) :
    after perform row (before ++ later) = after perform (after perform row before) later :=
  List.foldl_append

/-- What a row does that starts with one fresh oracle, whatever program was run on it. -/
structure ProgramLaw (hash : List Byte → Pad) (fresh : State) : Prop where
  size : ∀ program, (after perform [fresh] program).length = count program
  answers : ∀ program line,
    returns perform (after perform [fresh] program) line = answer hash program line
  extract_inert : ∀ before place later,
    after perform [fresh] (before ++ ⟨place, .extract⟩ :: later) =
      after perform [fresh] (before ++ later)
  copies : ∀ program place, place < count program →
    (after perform [fresh] (program ++ [⟨place, .duplicate⟩]))[count program]? =
      (after perform [fresh] program)[place]?
  isolated : ∀ program later place, place < count program →
    (∀ line ∈ later, line.place ≠ place) →
    (after perform [fresh] (program ++ later))[place]? = (after perform [fresh] program)[place]?
  rechunked : ∀ before place parts later line,
    returns perform (after perform [fresh] (before ++ absorbs place parts ++ later)) line =
      returns perform
        (after perform [fresh] (before ++ [⟨place, .absorb parts.flatten⟩] ++ later)) line

end Rows

section Tracking

variable {State : Type} {accumulator : Accumulator State} {hash : List Byte → Pad}
  {Holds : State → List Byte → Prop} {row : List State} {program : List Line}

/-- Every oracle of the row holds what the program has fed to it. -/
structure Tracks (Holds : State → List Byte → Prop) (row : List State) (program : List Line) :
    Prop where
  size : row.length = count program
  holds : ∀ place state, row[place]? = some state → Holds state (fed program place).flatten

theorem Tracks.start {fresh : State} (holds : Holds fresh []) : Tracks Holds [fresh] [] where
  size := rfl
  holds := by
    intro place state found
    cases place with
    | zero =>
        cases found
        exact holds
    | succ place => cases found

theorem Tracks.present_lt (tracks : Tracks Holds row program) {place : Nat} {state : State}
    (found : row[place]? = some state) : place < count program := by
  obtain ⟨present, _⟩ := List.getElem?_eq_some_iff.mp found
  rw [← tracks.size]
  exact present

theorem Tracks.set (tracks : Tracks Holds row program) {line : Line} {state : State}
    (size : count (program ++ [line]) = count program)
    (updated : Holds state (fed (program ++ [line]) line.place).flatten) :
    Tracks Holds (row.set line.place state) (program ++ [line]) where
  size := by rw [List.length_set, tracks.size, size]
  holds := by
    intro place other found
    by_cases here : line.place = place
    · subst here
      obtain ⟨_, same⟩ := List.getElem?_eq_some_iff.mp found
      rw [List.getElem_set_self] at same
      rw [← same]
      exact updated
    · rw [List.getElem?_set_ne here] at found
      rw [fed_append_other here (tracks.present_lt found)]
      exact tracks.holds place other found

theorem Tracks.keep (tracks : Tracks Holds row program) {line : Line}
    (size : count (program ++ [line]) = count program)
    (unfed : ∀ place, place < count program → fed (program ++ [line]) place = fed program place) :
    Tracks Holds row (program ++ [line]) where
  size := tracks.size.trans size.symm
  holds := by
    intro place state found
    rw [unfed place (tracks.present_lt found)]
    exact tracks.holds place state found

theorem Tracks.duplicate (tracks : Tracks Holds row program) {place : Nat} {state : State}
    (found : row[place]? = some state) :
    Tracks Holds (row ++ [state]) (program ++ [⟨place, .duplicate⟩]) where
  size := by
    rw [List.length_append, tracks.size, count_append_line]
    exact (if_pos (tracks.present_lt found)).symm
  holds := by
    intro other copy foundOther
    rw [fed_append_line]
    by_cases newest : other = count program
    · rw [newest, ← tracks.size, List.getElem?_concat_length] at foundOther
      cases foundOther
      simp only [if_pos newest]
      exact tracks.holds place state found
    · have bound : other < (row ++ [state]).length :=
        (List.getElem?_eq_some_iff.mp foundOther).1
      rw [List.length_append, List.length_singleton, tracks.size] at bound
      have old : other < row.length := by
        rw [tracks.size]
        omega
      rw [List.getElem?_append_left old] at foundOther
      simp only [if_neg newest]
      exact tracks.holds other copy foundOther

theorem step_absent {line : Line} (absent : row[line.place]? = none) :
    step accumulator.perform row line = row := by
  rw [step, Accumulator.perform, absent]

theorem Tracks.step (follows : accumulator.Follows hash Holds) (tracks : Tracks Holds row program)
    (line : Line) : Tracks Holds (step accumulator.perform row line) (program ++ [line]) := by
  cases found : row[line.place]? with
  | none =>
      have absent : count program ≤ line.place := by
        rw [← tracks.size]
        exact List.getElem?_eq_none_iff.mp found
      rw [step_absent found]
      apply tracks.keep
      · rw [count_append_line]
        cases line.instruction with
        | duplicate => exact if_neg (Nat.not_lt_of_le absent)
        | _ => rfl
      · intro place present
        exact fed_append_other (Nat.ne_of_gt (Nat.lt_of_lt_of_le present absent)) present
  | some state =>
      obtain ⟨place, instruction⟩ := line
      have holds := tracks.holds place state found
      rw [Oracle.step, Accumulator.perform, found]
      cases instruction with
      | absorb input =>
          apply tracks.set (count_append_line program _)
          rw [fed_append_line]
          simp only [↓reduceIte, List.flatten_append, List.flatten_singleton]
          exact follows.absorb state _ input holds
      | extract =>
          exact tracks.keep (count_append_line program _) fun place _ =>
            fed_append_line program _ place
      | reset =>
          apply tracks.set (count_append_line program _)
          rw [fed_append_line]
          simp only [↓reduceIte]
          exact follows.reset state _ holds
      | digest input =>
          apply tracks.set (count_append_line program _)
          rw [fed_append_line]
          simp only [↓reduceIte, List.flatten_singleton]
          exact (follows.digest holds input).2
      | duplicate => exact tracks.duplicate found

theorem Tracks.after (follows : accumulator.Follows hash Holds)
    (tracks : Tracks Holds row program) (later : List Line) :
    Tracks Holds (after accumulator.perform row later) (program ++ later) := by
  induction later generalizing row program with
  | nil =>
      rw [List.append_nil]
      exact tracks
  | cons line later ih =>
      have longer := ih (tracks.step follows line)
      rw [List.append_assoc] at longer
      exact longer

theorem Tracks.returns_eq (follows : accumulator.Follows hash Holds)
    (tracks : Tracks Holds row program) (line : Line) :
    returns accumulator.perform row line = answer hash program line := by
  cases found : row[line.place]? with
  | none =>
      have absent : count program ≤ line.place := by
        rw [← tracks.size]
        exact List.getElem?_eq_none_iff.mp found
      rw [returns, Accumulator.perform, found, answer, if_neg (Nat.not_lt_of_le absent)]
      rfl
  | some state =>
      obtain ⟨place, instruction⟩ := line
      have holds := tracks.holds place state found
      rw [returns, Accumulator.perform, found, answer, if_pos (tracks.present_lt found)]
      cases instruction with
      | absorb input => rfl
      | extract => exact congrArg (fun pad => some (Answer.output pad)) (follows.extract state _ holds)
      | reset => rfl
      | digest input =>
          exact congrArg (fun pad => some (Answer.output pad)) (follows.digest holds input).1
      | duplicate => exact congrArg (fun size => some (Answer.index size)) tracks.size

theorem step_other {line : Line} {place : Nat} (other : line.place ≠ place)
    (present : place < row.length) : (step accumulator.perform row line)[place]? = row[place]? := by
  cases found : row[line.place]? with
  | none => rw [step_absent found]
  | some state =>
      obtain ⟨on, instruction⟩ := line
      rw [step, Accumulator.perform, found]
      cases instruction with
      | absorb input => exact List.getElem?_set_ne other
      | extract => rfl
      | reset => exact List.getElem?_set_ne other
      | digest input => exact List.getElem?_set_ne other
      | duplicate => exact List.getElem?_append_left present

theorem after_other {place : Nat} {later : List Line} (others : ∀ line ∈ later, line.place ≠ place)
    (present : place < row.length) : (after accumulator.perform row later)[place]? = row[place]? := by
  induction later generalizing row with
  | nil => rfl
  | cons line later ih =>
      have kept : (step accumulator.perform row line)[place]? = row[place]? :=
        step_other (others line List.mem_cons_self) present
      have stillPresent : place < (step accumulator.perform row line).length := by
        rw [List.getElem?_eq_getElem present] at kept
        exact (List.getElem?_eq_some_iff.mp kept).1
      have rest := ih (fun line member => others line (List.mem_cons_of_mem _ member)) stillPresent
      exact rest.trans kept

theorem step_extract (place : Nat) : step accumulator.perform row ⟨place, .extract⟩ = row := by
  cases found : row[place]? with
  | none => exact step_absent found
  | some state => rw [step, Accumulator.perform, found]

theorem step_duplicate {place : Nat} (present : place < row.length) :
    step accumulator.perform row ⟨place, .duplicate⟩ = row ++ [row[place]] := by
  rw [step, Accumulator.perform, List.getElem?_eq_getElem present]

theorem program_law_of_follows (follows : accumulator.Follows hash Holds) {fresh : State}
    (holds : Holds fresh []) : ProgramLaw accumulator.perform hash fresh := by
  have tracks (program : List Line) :
      Tracks Holds (after accumulator.perform [fresh] program) program :=
    (Tracks.start holds).after follows program
  have answers (program : List Line) (line : Line) :
      returns accumulator.perform (after accumulator.perform [fresh] program) line =
        answer hash program line :=
    (tracks program).returns_eq follows line
  have present {program : List Line} {place : Nat} (counted : place < count program) :
      place < (after accumulator.perform [fresh] program).length := by
    rw [(tracks program).size]
    exact counted
  constructor
  case size => exact fun program => (tracks program).size
  case answers => exact answers
  case extract_inert =>
    intro before place later
    rw [after_append, after_append, after, List.foldl_cons, step_extract]
    rfl
  case copies =>
    intro program place counted
    have copied : after accumulator.perform [fresh] (program ++ [⟨place, .duplicate⟩]) =
        after accumulator.perform [fresh] program ++ [_] :=
      (after_append _ _ program _).trans (step_duplicate (present counted))
    rw [copied, ← (tracks program).size, List.getElem?_concat_length,
      List.getElem?_eq_getElem (present counted)]
  case isolated =>
    intro program later place counted others
    rw [after_append]
    exact after_other others (present counted)
  case rechunked =>
    intro before place parts later line
    rw [answers, answers]
    exact ((alike_absorbs before place parts).append later).answer_eq hash line

end Tracking

/-- Oracles that keep all that they are fed. -/
def accumulator [KeyedHash] : Accumulator Oracle := ⟨absorb, extract, reset⟩

theorem perform_eq [KeyedHash] : perform = accumulator.perform := by
  funext row place instruction
  rw [perform, Accumulator.perform]
  cases row[place]? with
  | none => rfl
  | some oracle => cases instruction <;> rfl

theorem follows_fed [KeyedHash] (key : Octets nonceBytes) :
    accumulator.Follows (KeyedHash.hash key) fun oracle bytes => oracle = ⟨key, bytes⟩ where
  reset := by
    rintro _ bytes rfl
    rfl
  absorb := by
    rintro _ bytes input rfl
    rfl
  extract := by
    rintro _ bytes rfl
    rfl

end Oracle

namespace Blake3.Hasher

/-- Oracles that keep one chunk under way and the tops of the subtrees before it. -/
def accumulator : Accumulator Hasher := ⟨absorb, extract, reset⟩

theorem follows_fed (key : Octets nonceBytes) :
    accumulator.Follows (keyedHash key) (Holds (keyChain key)) where
  reset := fun _ _ holds => holds.reset
  absorb := fun _ _ input holds => holds.absorb input
  extract := fun _ _ holds => holds.extract

end Blake3.Hasher

/-- Whatever program was run on a row of oracles under a nonce, each returns the keyed hash of what
it was fed since it was last cleared; the incremental hash returns the same. -/
theorem oracle_program_law (nonce : Octets nonceBytes) :
    (∃ oracle, Oracle.keyed nonce.bytes = .ok oracle ∧
      Oracle.ProgramLaw Oracle.perform (Blake3.keyedHash nonce) oracle) ∧
    Oracle.ProgramLaw Blake3.Hasher.accumulator.perform (Blake3.keyedHash nonce)
      (Blake3.Hasher.keyed nonce) := by
  constructor
  · refine ⟨⟨nonce, []⟩, ?_, ?_⟩
    · rw [Oracle.keyed, Octets.of_list_bytes]
    · rw [Oracle.perform_eq]
      exact Oracle.program_law_of_follows (Oracle.follows_fed nonce) rfl
  · exact Oracle.program_law_of_follows (Blake3.Hasher.follows_fed nonce)
      (Blake3.Hasher.holds_start _)

end ObliviousTransfer
