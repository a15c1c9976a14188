import Mathlib.Tactic.SplitIfs
import ObliviousTransfer.Proofs.Command.FileSystem

/-!
Trees of files. A file that is written is read back, and whatever lies at
another place stays; what leads to a place still leads there. Making a
directory changes no file.
-/

namespace ObliviousTransfer

namespace Path

theorem of_string_names (text : String) :
    (ofString text).names = ((text.toList.splitOn '/').map String.ofList).filter (· ≠ "") := by
  simp only [ofString, String.Slice.toString_eq]
  exact congrArg (List.filter _) String.toList_split_char

theorem join_names (directory : String) {file : String} (nonempty : file ≠ "")
    (plain : '/' ∉ file.toList) :
    (ofString (join directory file)).names = (ofString directory).names ++ [file] := by
  have alone : file.toList.splitOn '/' = [file.toList] := List.splitOn_eq_singleton plain
  rw [of_string_names, of_string_names, join]
  by_cases slash : directory.toList.getLast? = some '/'
  · obtain ⟨front, ends⟩ := List.getLast?_eq_some_iff.mp slash
    simp [ends, List.splitOn_append_cons_self, alone, nonempty]
  · simp [if_neg slash, List.splitOn_append_cons_self, alone, nonempty]

def underDots : Nat → String → String
  | 0, path => path
  | count + 1, path => "./" ++ underDots count path

theorem under_dots_size (count : Nat) (path : String) :
    (underDots count path).utf8ByteSize = 2 * count + path.utf8ByteSize := by
  induction count with
  | zero => simp [underDots]
  | succ count ih =>
      rw [underDots, String.utf8ByteSize_append, ih]
      have dot : "./".utf8ByteSize = 2 := by decide
      omega

theorem under_dots_names (count : Nat) (path : String) :
    (ofString (underDots count path)).names =
      List.replicate count "." ++ (ofString path).names := by
  induction count with
  | zero => rfl
  | succ count ih =>
      have split : (underDots (count + 1) path).toList.splitOn '/' =
          ['.'] :: (underDots count path).toList.splitOn '/' := by
        rw [underDots, String.toList_append]
        exact List.splitOn_append_cons_self ['.'] _
      rw [List.replicate_succ, List.cons_append, ← ih, of_string_names, of_string_names, split]
      rfl

theorem under_dots_relative {path : String} (relative : (ofString path).fromRoot = false)
    (count : Nat) : (ofString (underDots count path)).fromRoot = false := by
  cases count with
  | zero => exact relative
  | succ count =>
      simp only [ofString, underDots, String.toList_append]
      rfl

theorem under_dots_nonempty {path : String} (nonempty : path ≠ "") (count : Nat) :
    underDots count path ≠ "" := by
  cases count with
  | zero => exact nonempty
  | succ count =>
      rw [underDots, ne_eq, String.append_eq_empty_iff]
      exact fun empty => absurd empty.1 (by decide)

theorem join_append {directory : String} (nonempty : directory ≠ "") (front file : String) :
    join (front ++ directory) file = front ++ join directory file := by
  have last : (front ++ directory).toList.getLast? = directory.toList.getLast? := by
    rw [String.toList_append, List.getLast?_append,
      List.getLast?_eq_some_getLast (mt String.toList_eq_nil_iff.mp nonempty), Option.some_or]
  rw [join, join, last]
  split_ifs
  · rw [String.append_assoc]
  · rw [String.append_assoc, String.append_assoc, String.append_assoc]

theorem join_under_dots {directory : String} (nonempty : directory ≠ "") (count : Nat)
    (file : String) :
    join (underDots count directory) file = underDots count (join directory file) := by
  induction count with
  | zero => rfl
  | succ count ih =>
      rw [underDots, underDots, join_append (under_dots_nonempty nonempty count), ih]

end Path

namespace FileTree

variable {tree : FileTree} {place : Place} {path : String}

theorem lookup_filter_other {entries : List (Place × Entry)} {other : Place}
    (different : other ≠ place) :
    (entries.filter fun kept => kept.1 ≠ place).lookup other = entries.lookup other := by
  induction entries with
  | nil => rfl
  | cons entry rest ih =>
      obtain ⟨own, value⟩ := entry
      by_cases same : own = place
      · have unlike : (other == own) = false := by simpa [same] using different
        rw [List.filter_cons_of_neg (by simpa using same), ih, List.lookup_cons, unlike]
      · rw [List.filter_cons_of_pos (by simpa using same), List.lookup_cons, List.lookup_cons, ih]

theorem entry_put_same (nonempty : place ≠ []) (entry : Entry) :
    FileTree.entry? (tree.put place entry) place = some entry := by
  unfold entry?
  rw [if_neg nonempty]
  exact List.lookup_cons_self

theorem entry_put_other {other : Place} (different : other ≠ place) (entry : Entry) :
    FileTree.entry? (tree.put place entry) other = tree.entry? other := by
  have unlike : (other == place) = false := by simpa using different
  simp only [put, entry?, List.lookup_cons, unlike, lookup_filter_other different]

theorem enter_ok_iff {name : String} {next : Place} :
    tree.enter place name = .ok next ↔
      if name = "." then next = place
      else if name = ".." then next = place.dropLast
      else name.utf8ByteSize ≤ longestName ∧ tree.entry? (place ++ [name]) = some .directory ∧
        next = place ++ [name] := by
  rw [enter]
  split_ifs with dot dots long
  · rw [Except.ok.injEq, eq_comm]
  · rw [Except.ok.injEq, eq_comm]
  · simp [Nat.not_le.mpr long]
  · cases tree.entry? (place ++ [name]) with
    | none => simp
    | some entry => cases entry <;> simp [Nat.not_lt.mp long, eq_comm]

theorem target_some_iff :
    tree.target path = .ok (some place) ↔
      path.utf8ByteSize ≤ longestPath ∧ ∃ last directory,
        (Path.ofString path).names.getLast? = some last ∧
          tree.walk (tree.startOf (Path.ofString path)) (Path.ofString path).names.dropLast =
            .ok directory ∧
          (last ≠ "." ∧ last ≠ "..") ∧ last.utf8ByteSize ≤ longestName ∧
          place = directory ++ [last] := by
  simp only [target]
  generalize Path.ofString path = parsed
  by_cases long : longestPath < path.utf8ByteSize
  · simp [long, Nat.not_le.mpr long]
  rw [if_neg long]
  cases parsed.names.getLast? with
  | none =>
      dsimp only
      split_ifs <;> simp
  | some last =>
      cases tree.walk (tree.startOf parsed) parsed.names.dropLast with
      | error fault => simp [bind, Except.bind]
      | ok directory =>
          simp only [bind, Except.bind]
          split_ifs with dots size
          · rcases dots with rfl | rfl <;> simp
          · simp [Nat.not_le.mpr size]
          · simp [Nat.not_lt.mp long, Nat.not_lt.mp size, not_or.mp dots, eq_comm]

/-- How each operation starts: there has to be a place of the right kind. -/
theorem at_target_ok_iff {Value : Type} {otherwise : FileFault}
    {act : Place → Except FileFault Value} {value : Value} :
    (do
      match ← tree.target path with
      | none => .error otherwise
      | some place => act place) = .ok value ↔
      ∃ place, tree.target path = .ok (some place) ∧ act place = .ok value := by
  cases tree.target path with
  | error fault => simp [bind, Except.bind]
  | ok found => cases found <;> simp [bind, Except.bind]

theorem write_ok_iff {text : String} {changed : FileTree} :
    tree.write path text = .ok changed ↔
      ∃ place, tree.target path = .ok (some place) ∧ tree.entry? place ≠ some .directory ∧
        tree.put place (.file text) = changed := by
  refine at_target_ok_iff.trans (exists_congr fun place => and_congr_right fun _ => ?_)
  cases tree.entry? place with
  | none => simp
  | some entry => cases entry <;> simp

theorem write_too_long (long : longestPath < path.utf8ByteSize) (text : String) :
    tree.write path text = .error .nameTooLong := by
  rw [write, target, if_pos long]
  rfl

theorem read_ok_iff {text : String} :
    tree.read path = .ok text ↔
      ∃ place, tree.target path = .ok (some place) ∧ tree.entry? place = some (.file text) := by
  refine at_target_ok_iff.trans (exists_congr fun place => and_congr_right fun _ => ?_)
  cases tree.entry? place with
  | none => simp
  | some entry => cases entry <;> simp

theorem make_directory_ok_iff {changed : FileTree} :
    tree.makeDirectory path = .ok changed ↔
      ∃ place, tree.target path = .ok (some place) ∧ tree.entry? place = none ∧
        tree.put place .directory = changed := by
  refine at_target_ok_iff.trans (exists_congr fun place => and_congr_right fun _ => ?_)
  cases tree.entry? place <;> simp

theorem walk_dots (count : Nat) (names : List String) :
    tree.walk place (List.replicate count "." ++ names) = tree.walk place names := by
  induction count with
  | zero => rfl
  | succ count ih =>
      rw [List.replicate_succ, List.cons_append, walk, enter, if_pos rfl]
      exact ih

theorem start_under_dots (relative : (Path.ofString path).fromRoot = false) (count : Nat) :
    tree.startOf (Path.ofString (Path.underDots count path)) =
      tree.startOf (Path.ofString path) := by
  rw [startOf, startOf, Path.under_dots_relative relative, relative]

section UnderDots

variable {count : Nat} (relative : (Path.ofString path).fromRoot = false)
  (named : (Path.ofString path).names ≠ [])

include relative named

/-- Single dots in front of a path do not matter until it is too long. -/
theorem target_under_dots (short : 2 * count + path.utf8ByteSize ≤ longestPath) :
    tree.target (Path.underDots count path) = tree.target path := by
  have sizes : ¬longestPath < (Path.underDots count path).utf8ByteSize ∧
      ¬longestPath < path.utf8ByteSize := by
    rw [Path.under_dots_size]
    omega
  have last : (List.replicate count "." ++ (Path.ofString path).names).getLast? =
      (Path.ofString path).names.getLast? := by
    rw [List.getLast?_append, List.getLast?_eq_some_getLast named, Option.some_or]
  simp only [target, if_neg sizes.1, if_neg sizes.2, start_under_dots relative,
    Path.under_dots_names, last, List.dropLast_append_of_ne_nil named, walk_dots,
    Path.under_dots_relative relative, relative]

theorem is_directory_under_dots (short : 2 * count + path.utf8ByteSize ≤ longestPath) :
    tree.isDirectory (Path.underDots count path) = tree.isDirectory path := by
  have sizes : (Path.underDots count path).utf8ByteSize ≤ longestPath ∧
      path.utf8ByteSize ≤ longestPath := by
    rw [Path.under_dots_size]
    omega
  have proper : Path.ofString (Path.underDots count path) ≠ ⟨false, []⟩ ∧
      Path.ofString path ≠ ⟨false, []⟩ := by
    constructor
    · intro same
      have names := congrArg Path.names same
      rw [Path.under_dots_names, List.append_eq_nil_iff] at names
      exact named names.2
    · exact fun same => named (congrArg Path.names same)
  simp only [isDirectory, sizes.1, sizes.2, start_under_dots relative, Path.under_dots_names,
    walk_dots, ne_eq, proper.1, proper.2]

end UnderDots

theorem walk_concat {front : List String} {last : String} {final : Place}
    (walked : tree.walk place (front ++ [last]) = .ok final) :
    ∃ directory, tree.walk place front = .ok directory ∧ tree.enter directory last = .ok final := by
  induction front generalizing place with
  | nil =>
      refine ⟨place, rfl, ?_⟩
      cases entered : tree.enter place last with
      | error fault => simp [walk, entered, bind, Except.bind] at walked
      | ok next => simpa [walk, entered, bind, Except.bind] using walked
  | cons name rest ih =>
      rw [List.cons_append, walk] at walked
      rw [walk]
      cases entered : tree.enter place name with
      | error fault =>
          rw [entered] at walked
          cases walked
      | ok next =>
          rw [entered] at walked
          exact ih walked

theorem target_of_directory (there : tree.isDirectory path = true) :
    ∃ found, tree.target path = .ok found ∧
      ∀ place, found = some place → tree.entry? place = some .directory := by
  simp only [isDirectory, Bool.and_eq_true, decide_eq_true_iff] at there
  simp only [target]
  generalize Path.ofString path = parsed at there ⊢
  obtain ⟨⟨short, named⟩, walkable⟩ := there
  rw [if_neg (Nat.not_lt.mpr short)]
  cases found : parsed.names.getLast? with
  | none =>
      -- Without names a path is a directory only if it is that of the root.
      have rooted : parsed.fromRoot = true := by
        obtain ⟨fromRoot, names⟩ := parsed
        cases List.getLast?_eq_none_iff.mp found
        cases fromRoot with
        | false => exact absurd rfl named
        | true => rfl
      exact ⟨none, if_pos rooted, fun _ wrong => nomatch wrong⟩
  | some last =>
      obtain ⟨front, split⟩ := List.getLast?_eq_some_iff.mp found
      cases walked : tree.walk (tree.startOf parsed) parsed.names with
      | error fault =>
          rw [walked] at walkable
          cases walkable
      | ok final =>
          rw [split] at walked
          obtain ⟨directory, reached, entered⟩ := walk_concat walked
          rw [enter_ok_iff] at entered
          rw [split, List.dropLast_concat, reached]
          dsimp only [bind, Except.bind]
          by_cases dots : last = "." ∨ last = ".."
          · exact ⟨none, if_pos dots, fun _ wrong => nomatch wrong⟩
          · obtain ⟨dot, dotDot⟩ := not_or.mp dots
            rw [if_neg dot, if_neg dotDot] at entered
            obtain ⟨size, isDirectory, -⟩ := entered
            refine ⟨some (directory ++ [last]), ?_, ?_⟩
            · rw [if_neg dots, if_neg (Nat.not_lt.mpr size)]
            · rintro place same
              cases same
              exact isDirectory

theorem make_existing_directory (there : tree.isDirectory path = true) :
    tree.makeDirectory path = .error .alreadyExists := by
  obtain ⟨found, reached, directory⟩ := target_of_directory there
  rw [makeDirectory, reached]
  cases found with
  | none => rfl
  | some place =>
      dsimp only [bind, Except.bind]
      rw [directory place rfl]

/-- What a path leads to by way of directories, it leads to in the other tree too. -/
structure KeepsDirectories (before after : FileTree) : Prop where
  working_place : after.workingPlace = before.workingPlace
  directory : ∀ place, before.entry? place = some .directory →
    after.entry? place = some .directory

namespace KeepsDirectories

variable {before after : FileTree} (keeps : KeepsDirectories before after)

include keeps

theorem enter {name : String} {next : Place} (entered : before.enter place name = .ok next) :
    after.enter place name = .ok next := by
  rw [enter_ok_iff] at entered ⊢
  split_ifs at entered ⊢
  · exact entered
  · exact entered
  · exact ⟨entered.1, keeps.directory _ entered.2.1, entered.2.2⟩

theorem walk {names : List String} {last : Place} (walked : before.walk place names = .ok last) :
    after.walk place names = .ok last := by
  induction names generalizing place with
  | nil => exact walked
  | cons name rest ih =>
      rw [FileTree.walk] at walked ⊢
      cases entered : before.enter place name with
      | error fault =>
          rw [entered] at walked
          cases walked
      | ok next =>
          rw [entered] at walked
          rw [keeps.enter entered]
          exact ih walked

theorem target (reached : before.target path = .ok (some place)) :
    after.target path = .ok (some place) := by
  rw [target_some_iff] at reached ⊢
  obtain ⟨short, last, directory, found, walked, rest⟩ := reached
  have start : after.startOf (Path.ofString path) = before.startOf (Path.ofString path) := by
    rw [startOf, startOf, keeps.working_place]
  rw [start]
  exact ⟨short, last, directory, found, keeps.walk walked, rest⟩

theorem trans {later : FileTree} (keepsLater : KeepsDirectories after later) :
    KeepsDirectories before later where
  working_place := keepsLater.working_place.trans keeps.working_place
  directory place found := keepsLater.directory place (keeps.directory place found)

end KeepsDirectories

theorem put_file_keeps (notDirectory : tree.entry? place ≠ some .directory) (text : String) :
    KeepsDirectories tree (tree.put place (.file text)) where
  working_place := rfl
  directory := by
    intro other found
    have different : other ≠ place := by
      rintro rfl
      exact notDirectory found
    rw [entry_put_other different, found]

theorem target_last (reached : tree.target path = .ok (some place)) :
    place.getLast? = (Path.ofString path).names.getLast? := by
  obtain ⟨-, last, directory, found, -, -, -, rfl⟩ := target_some_iff.mp reached
  rw [found, List.getLast?_concat]

theorem target_nonempty (reached : tree.target path = .ok (some place)) : place ≠ [] := by
  obtain ⟨-, last, directory, -, -, -, -, rfl⟩ := target_some_iff.mp reached
  exact List.concat_ne_nil last directory

section Writing

variable {changed : FileTree} {text : String} (written : tree.write path text = .ok changed)

include written

theorem read_written : changed.read path = .ok text := by
  obtain ⟨place, reached, notDirectory, rfl⟩ := write_ok_iff.mp written
  exact read_ok_iff.mpr ⟨place, (put_file_keeps notDirectory text).target reached,
    entry_put_same (target_nonempty reached) _⟩

theorem read_other {other old : String} (read : tree.read other = .ok old)
    (different : (Path.ofString other).names.getLast? ≠ (Path.ofString path).names.getLast?) :
    changed.read other = .ok old := by
  obtain ⟨place, reached, notDirectory, rfl⟩ := write_ok_iff.mp written
  obtain ⟨otherPlace, otherReached, found⟩ := read_ok_iff.mp read
  have apart : otherPlace ≠ place := by
    rintro rfl
    exact different ((target_last otherReached).symm.trans (target_last reached))
  refine read_ok_iff.mpr ⟨otherPlace, (put_file_keeps notDirectory text).target otherReached, ?_⟩
  rw [entry_put_other apart, found]

end Writing

def Writable (tree : FileTree) (path : String) : Prop :=
  ∀ text, ∃ changed, tree.write path text = .ok changed

theorem writable_iff :
    tree.Writable path ↔
      ∃ place, tree.target path = .ok (some place) ∧ tree.entry? place ≠ some .directory := by
  constructor
  · intro writable
    obtain ⟨_, written⟩ := writable ""
    obtain ⟨place, reached, notDirectory, -⟩ := write_ok_iff.mp written
    exact ⟨place, reached, notDirectory⟩
  · rintro ⟨place, reached, notDirectory⟩ text
    exact ⟨_, write_ok_iff.mpr ⟨place, reached, notDirectory, rfl⟩⟩

theorem Writable.after_write {other text : String} {changed : FileTree}
    (writable : tree.Writable other) (written : tree.write path text = .ok changed) :
    changed.Writable other := by
  obtain ⟨place, reached, notDirectory, rfl⟩ := write_ok_iff.mp written
  obtain ⟨otherPlace, otherReached, otherNotDirectory⟩ := writable_iff.mp writable
  refine writable_iff.mpr ⟨otherPlace, (put_file_keeps notDirectory text).target otherReached, ?_⟩
  by_cases same : otherPlace = place
  · rw [same, entry_put_same (target_nonempty reached)]
    exact fun wrong => nomatch wrong
  · rwa [entry_put_other same]

/-- The same files with the same texts, while directories may differ. -/
def SameFiles (before after : FileTree) : Prop :=
  ∀ place text, after.entry? place = some (.file text) ↔ before.entry? place = some (.file text)

theorem make_directory_same_files {changed : FileTree}
    (made : tree.makeDirectory path = .ok changed) : SameFiles tree changed := by
  obtain ⟨place, reached, free, rfl⟩ := make_directory_ok_iff.mp made
  intro other text
  by_cases same : other = place
  · rw [same, entry_put_same (target_nonempty reached), free]
    simp
  · rw [entry_put_other same]

theorem make_directory_keeps {changed : FileTree} (made : tree.makeDirectory path = .ok changed) :
    KeepsDirectories tree changed := by
  obtain ⟨place, reached, free, rfl⟩ := make_directory_ok_iff.mp made
  refine ⟨rfl, fun other found => ?_⟩
  by_cases same : other = place
  · rw [same, entry_put_same (target_nonempty reached)]
  · rw [entry_put_other same, found]

structure Untouched (before after : FileTree) : Prop where
  same_files : before.SameFiles after
  keeps_directories : KeepsDirectories before after

namespace Untouched

theorem refl (tree : FileTree) : tree.Untouched tree where
  same_files := fun _ _ => Iff.rfl
  keeps_directories := ⟨rfl, fun _ found => found⟩

theorem trans {before middle after : FileTree} (first : before.Untouched middle)
    (second : middle.Untouched after) : before.Untouched after where
  same_files place text := (second.same_files place text).trans (first.same_files place text)
  keeps_directories := first.keeps_directories.trans second.keeps_directories

end Untouched

theorem make_directory_untouched {changed : FileTree}
    (made : tree.makeDirectory path = .ok changed) : tree.Untouched changed :=
  ⟨make_directory_same_files made, make_directory_keeps made⟩

end FileTree

namespace Command

theorem Plan.make_directories_untouched (tapes : Nat → Tape) (used : Nat) (path : String)
    (tree : FileTree) :
    tree.Untouched ((makeDirectories path).carryOut .ofTree tapes used tree).2 := by
  apply carry_out_invariant (directories_only_make path)
  · intro path before untouched
    dsimp only [FileSystem.ofTree]
    cases made : before.makeDirectory path with
    | error fault => exact untouched
    | ok changed => exact untouched.trans (FileTree.make_directory_untouched made)
  · exact .refl tree

end Command

end ObliviousTransfer
