import ObliviousTransfer.Command.Run

/-!
Plans carried out on any file system. What a system answers is arbitrary: a
file may be missing, unreadable or hold any text. A tree of files is one such
system. A plan that only makes directories takes no tape, so what follows it can
be carried out on its own.
-/

namespace ObliviousTransfer.Command

/-- How the steps of a plan are answered. To ask changes nothing. -/
structure FileSystem (State : Type) where
  makeDirectory : State → String → Except FileFault Unit × State
  isDirectory : State → String → Bool
  readFile : State → String → Except FileFault String
  writeFile : State → String → String → Except FileFault Unit × State

def FileSystem.ofTree : FileSystem FileTree where
  makeDirectory tree path := Plan.applyChange tree (tree.makeDirectory path)
  isDirectory tree path := tree.isDirectory path
  readFile tree path := tree.read path
  writeFile tree path text := Plan.applyChange tree (tree.write path text)

namespace Plan

variable {Value Next State : Type}

def carryOut (system : FileSystem State) (tapes : Nat → Tape) (used : Nat) :
    Plan Value → State → Value × State
  | .done value, state => (value, state)
  | .makeDirectory path next, state =>
      let (outcome, changed) := system.makeDirectory state path
      (next outcome).carryOut system tapes used changed
  | .isDirectory path next, state =>
      (next (system.isDirectory state path)).carryOut system tapes used state
  | .readFile path next, state =>
      (next (system.readFile state path)).carryOut system tapes used state
  | .writeFile path text next, state =>
      let (outcome, changed) := system.writeFile state path text
      (next outcome).carryOut system tapes used changed
  | .freshTape next, state => (next (tapes used)).carryOut system tapes (used + 1) state

theorem run_from_eq_carry_out (tapes : Nat → Tape) (used : Nat) (plan : Plan Value)
    (tree : FileTree) :
    plan.runFrom tapes used tree = plan.carryOut FileSystem.ofTree tapes used tree := by
  induction plan generalizing used tree with
  | done value => rfl
  | makeDirectory path next ih => exact ih _ _ _
  | isDirectory path next ih => exact ih _ _ _
  | readFile path next ih => exact ih _ _ _
  | writeFile path text next ih => exact ih _ _ _
  | freshTape next ih => exact ih _ _ _

def DirectoriesOnly : Plan Value → Prop
  | .done _ => True
  | .makeDirectory _ next => ∀ outcome, (next outcome).DirectoriesOnly
  | .isDirectory _ next => ∀ answer, (next answer).DirectoriesOnly
  | .readFile _ _ => False
  | .writeFile _ _ _ => False
  | .freshTape _ => False

theorem directories_only_and_then {plan : Plan Value} {follow : Value → Plan Next}
    (first : plan.DirectoriesOnly) (second : ∀ value, (follow value).DirectoriesOnly) :
    (plan.andThen follow).DirectoriesOnly := by
  induction plan with
  | done value => exact second value
  | makeDirectory path next ih => exact fun outcome => ih outcome (first outcome)
  | isDirectory path next ih => exact fun answer => ih answer (first answer)
  | readFile path next ih => exact first.elim
  | writeFile path text next ih => exact first.elim
  | freshTape next ih => exact first.elim

theorem directories_only_unless (path : String) (fault : FileFault) :
    (unlessDirectory path fault).DirectoriesOnly := by
  intro answer
  cases answer <;> trivial

theorem directories_only_make_all (paths : List String) : (makeAll paths).DirectoriesOnly := by
  induction paths with
  | nil => trivial
  | cons path outer ih =>
      -- Only a missing parent makes the plan go on with the outer paths.
      intro outcome
      cases outcome with
      | ok _ => trivial
      | error fault =>
          cases fault with
          | notFound =>
              refine directories_only_and_then ih fun made => ?_
              cases made with
              | error fault => trivial
              | ok _ =>
                  intro again
                  cases again with
                  | ok _ => trivial
                  | error fault => exact directories_only_unless path fault
          | _ => exact directories_only_unless path _

theorem directories_only_make (path : String) : (makeDirectories path).DirectoriesOnly :=
  directories_only_make_all _

theorem carry_out_map (system : FileSystem State) (tapes : Nat → Tape) (used : Nat)
    (plan : Plan Value) (change : Value → Next) (state : State) :
    (plan.map change).carryOut system tapes used state =
      (change (plan.carryOut system tapes used state).1,
        (plan.carryOut system tapes used state).2) := by
  induction plan generalizing used state with
  | done value => rfl
  | makeDirectory path next ih => exact ih _ _ _
  | isDirectory path next ih => exact ih _ _ _
  | readFile path next ih => exact ih _ _ _
  | writeFile path text next ih => exact ih _ _ _
  | freshTape next ih => exact ih _ _ _

section DirectoriesOnly

variable {plan : Plan Value} (directoriesOnly : plan.DirectoriesOnly)
  (system : FileSystem State) (tapes : Nat → Tape) (used : Nat) (state : State)

include directoriesOnly

theorem carry_out_and_then (follow : Value → Plan Next) :
    (plan.andThen follow).carryOut system tapes used state =
      (follow (plan.carryOut system tapes used state).1).carryOut system tapes used
        (plan.carryOut system tapes used state).2 := by
  induction plan generalizing state with
  | done value => rfl
  | makeDirectory path next ih => exact ih _ (directoriesOnly _) _
  | isDirectory path next ih => exact ih _ (directoriesOnly _) _
  | readFile path next ih => exact directoriesOnly.elim
  | writeFile path text next ih => exact directoriesOnly.elim
  | freshTape next ih => exact directoriesOnly.elim

/-- What the making of each directory keeps is kept by the whole plan. -/
theorem carry_out_invariant {Kept : State → Prop}
    (made : ∀ path before, Kept before → Kept (system.makeDirectory before path).2)
    (start : Kept state) : Kept (plan.carryOut system tapes used state).2 := by
  induction plan generalizing state with
  | done value => exact start
  | makeDirectory path next ih => exact ih _ (directoriesOnly _) _ (made path state start)
  | isDirectory path next ih => exact ih _ (directoriesOnly _) _ start
  | readFile path next ih => exact directoriesOnly.elim
  | writeFile path text next ih => exact directoriesOnly.elim
  | freshTape next ih => exact directoriesOnly.elim

end DirectoriesOnly

theorem carry_out_make_existing {system : FileSystem State} {path : String} {state : State}
    (refused : system.makeDirectory state path = (.error .alreadyExists, state))
    (there : system.isDirectory state path = true) (tapes : Nat → Tape) (used : Nat) :
    (makeDirectories path).carryOut system tapes used state = (.ok (), state) := by
  simp only [makeDirectories, Path.ancestors, makeAll, unlessDirectory, carryOut, refused, there]

end Plan

structure Call where
  destination : String
  command : Command
  tapes : Nat → Tape

/-- The report of a call, and the files after it. -/
def Call.perform [KeyedHash] {State : Type} (system : FileSystem State) (call : Call)
    (state : State) : Report × State :=
  ((plan call.destination call.command).map Report.ofLines).carryOut system call.tapes 0 state

theorem Call.perform_eq [KeyedHash] {State : Type} (system : FileSystem State) (call : Call)
    (state : State) :
    let carried := (plan call.destination call.command).carryOut system call.tapes 0 state
    call.perform system state = (.ofLines carried.1, carried.2) :=
  Plan.carry_out_map system call.tapes 0 _ _ state

/-- A command line that can be read is carried out as the call that it says. -/
theorem plan_arguments_run [KeyedHash] {environment : Environment} {arguments : List String}
    {destination : String} {command : Command}
    (parsed : program.parse environment arguments = .ok (.run ((destination, ()), command)))
    (tapes : Nat → Tape) (tree : FileTree) :
    (planArguments environment arguments).runOn tapes tree =
      Call.perform FileSystem.ofTree ⟨destination, command, tapes⟩ tree := by
  rw [planArguments, parsed]
  exact Plan.run_from_eq_carry_out tapes 0 _ tree

end ObliviousTransfer.Command
