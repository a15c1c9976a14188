/-!
Computations that stop at their first fault: what a sequence of steps gives, and
when it gives a value.
-/

namespace ObliviousTransfer

theorem except_bind_ok_iff {Fault Value Next : Type} {result : Except Fault Value}
    {next : Value → Except Fault Next} {value : Next} :
    (result >>= next) = .ok value ↔ ∃ middle, result = .ok middle ∧ next middle = .ok value := by
  cases result with
  | error fault => exact ⟨fun same => (nomatch same), fun ⟨_, same, _⟩ => nomatch same⟩
  | ok middle =>
      exact ⟨fun same => ⟨middle, rfl, same⟩, fun ⟨_, same, rest⟩ => Except.ok.inj same ▸ rest⟩

theorem except_map_error_ok_iff {Fault Other Value : Type} {result : Except Fault Value}
    {change : Fault → Other} {value : Value} :
    result.mapError change = .ok value ↔ result = .ok value := by
  cases result with
  | error fault => exact ⟨fun same => (nomatch same), fun same => nomatch same⟩
  | ok other => exact ⟨fun same => congrArg _ (Except.ok.inj same), fun same => congrArg _
      (Except.ok.inj same)⟩

theorem option_elim_ok_iff {Fault Value : Type} {found : Option Value} {fault : Fault}
    {value : Value} : found.elim (.error fault) Except.ok = .ok value ↔ found = some value := by
  cases found with
  | none => exact ⟨fun same => (nomatch same), fun same => nomatch same⟩
  | some other =>
      exact ⟨fun same => congrArg some (Except.ok.inj same), fun same => congrArg Except.ok
        (Option.some.inj same)⟩

theorem except_to_option_iff {Fault Value : Type} {result : Except Fault Value} {value : Value} :
    result.toOption = some value ↔ result = .ok value := by
  cases result with
  | error fault => exact ⟨fun same => (nomatch same), fun same => nomatch same⟩
  | ok other => exact ⟨fun same => congrArg Except.ok (Option.some.inj same), fun same =>
      congrArg some (Except.ok.inj same)⟩

theorem except_map_bind {Fault Value Middle Next : Type} (result : Except Fault Value)
    (change : Value → Middle) (next : Middle → Except Fault Next) :
    (result.map change).bind next = result.bind fun value => next (change value) := by
  cases result <;> rfl

theorem except_bind_map {Fault Value Middle Next : Type} (result : Except Fault Value)
    (next : Value → Except Fault Middle) (change : Middle → Next) :
    (result.bind next).map change = result.bind fun value => (next value).map change := by
  cases result <;> rfl

theorem except_bind_eq {Fault Value Next : Type} (result : Except Fault Value)
    (next : Value → Except Fault Next) : (result >>= next) = result.bind next := rfl

end ObliviousTransfer
