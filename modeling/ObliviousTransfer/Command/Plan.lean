import ObliviousTransfer.Command.FileTree
import ObliviousTransfer.Protocol.Tape

/-!
Plans: what a command does with files and random tapes, step by step, each step
chosen by what the steps before it gave. A plan can be carried out on a disk,
or on a tree of files that is a value.
-/

namespace ObliviousTransfer.Command

inductive Plan (Value : Type) where
  | done (value : Value)
  | makeDirectory (path : String) (next : Except FileFault Unit → Plan Value)
  | isDirectory (path : String) (next : Bool → Plan Value)
  | readFile (path : String) (next : Except FileFault String → Plan Value)
  | writeFile (path text : String) (next : Except FileFault Unit → Plan Value)
  /-- Takes a tape on which nothing has been drawn. -/
  | freshTape (next : Tape → Plan Value)

namespace Plan

variable {Value Next : Type}

def andThen (plan : Plan Value) (follow : Value → Plan Next) : Plan Next :=
  match plan with
  | .done value => follow value
  | .makeDirectory path next => .makeDirectory path fun outcome => (next outcome).andThen follow
  | .isDirectory path next => .isDirectory path fun answer => (next answer).andThen follow
  | .readFile path next => .readFile path fun outcome => (next outcome).andThen follow
  | .writeFile path text next => .writeFile path text fun outcome => (next outcome).andThen follow
  | .freshTape next => .freshTape fun tape => (next tape).andThen follow

def map (change : Value → Next) (plan : Plan Value) : Plan Next :=
  plan.andThen fun value => .done (change value)

/-- A directory that is already there is as good as a new one. -/
def unlessDirectory (path : String) (fault : FileFault) : Plan (Except FileFault Unit) :=
  .isDirectory path fun
    | true => .done (.ok ())
    | false => .done (.error fault)

/-- Makes the first of the paths a directory. Where it lacks a parent, the others, which lead to it,
are made first, and what was made stays. -/
def makeAll : List String → Plan (Except FileFault Unit)
  | [] => .done (.ok ())
  | path :: outer => .makeDirectory path fun
      | .ok _ => .done (.ok ())
      | .error .notFound => (makeAll outer).andThen fun
          | .error fault => .done (.error fault)
          | .ok _ => .makeDirectory path fun
              | .ok _ => .done (.ok ())
              | .error fault => unlessDirectory path fault
      | .error fault => unlessDirectory path fault

def makeDirectories (path : String) : Plan (Except FileFault Unit) := makeAll (Path.ancestors path)

/-- What a tree answers to a change, and the tree after it. A change that it refuses has not
begun. -/
def applyChange (tree : FileTree) (change : Except FileFault FileTree) :
    Except FileFault Unit × FileTree :=
  match change with
  | .ok changed => (.ok (), changed)
  | .error fault => (.error fault, tree)

/-- Carries a plan out on a tree, with the tapes from some place of a supply on. -/
def runFrom (tapes : Nat → Tape) (used : Nat) : Plan Value → FileTree → Value × FileTree
  | .done value, tree => (value, tree)
  | .makeDirectory path next, tree =>
      let (outcome, changed) := applyChange tree (tree.makeDirectory path)
      (next outcome).runFrom tapes used changed
  | .isDirectory path next, tree => (next (tree.isDirectory path)).runFrom tapes used tree
  | .readFile path next, tree => (next (tree.read path)).runFrom tapes used tree
  | .writeFile path text next, tree =>
      let (outcome, changed) := applyChange tree (tree.write path text)
      (next outcome).runFrom tapes used changed
  | .freshTape next, tree => (next (tapes used)).runFrom tapes (used + 1) tree

def runOn (plan : Plan Value) (tapes : Nat → Tape) (tree : FileTree) : Value × FileTree :=
  plan.runFrom tapes 0 tree

end Plan

end ObliviousTransfer.Command
