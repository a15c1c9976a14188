import ObliviousTransfer.Proofs.Json.Values

/-!
Texts that were cut short. Every reader takes its input from the front and leaves the
end of it, and an object is read up to its closing brace. The front part of a record
that was being written has no such brace, so it is not read as a record.
-/

namespace ObliviousTransfer.Json

variable {FieldFault Value Other Record Slots : Type}

theorem drop_blanks_suffix (input : List Char) : dropBlanks input <:+ input :=
  List.dropWhile_suffix _

theorem dropped_suffix {input rest : List Char} {character : Char}
    (dropped : dropBlanks input = character :: rest) : rest <:+ input := by
  have front := drop_blanks_suffix input
  rw [dropped] at front
  exact (List.suffix_cons character rest).trans front

theorem read_string_suffix {strict : Bool} {state : StringState} {input text rest : List Char}
    (read : readString strict state input = .ok (text, rest)) : rest <:+ input := by
  induction input generalizing state text with
  | nil => cases state <;> cases read
  | cons character input ih =>
      have later {state : StringState} {text : List Char}
          (read : readString strict state input = .ok (text, rest)) : rest <:+ character :: input :=
        (ih read).trans (List.suffix_cons character input)
      -- The text so far is put in front of what the rest of the reader gives.
      have joined {state : StringState} {text : List Char}
          {front : List Char × List Char → Except GrammarFault (List Char × List Char)}
          (read : (readString strict state input >>= front) = .ok (text, rest))
          (keeps : ∀ part after, front (part, after) = .ok (text, rest) → after = rest) :
          rest <:+ character :: input := by
        obtain ⟨⟨part, after⟩, read, same⟩ := except_bind_ok_iff.mp read
        cases keeps part after same
        exact later read
      cases state with
      | plain =>
          simp only [readString] at read
          split_ifs at read
          · cases read
            exact List.suffix_cons character _
          · exact later read
          · exact joined read fun _ _ same => by cases same; rfl
      | escape =>
          simp only [readString] at read
          split_ifs at read
          · exact later read
          · split at read
            · cases read
            · exact joined read fun _ _ same => by cases same; rfl
      | hex leading count value =>
          simp only [readString] at read
          split at read
          · split_ifs at read
          · split_ifs at read
            · exact later read
            · obtain ⟨⟨_, _⟩, _, read⟩ := except_bind_ok_iff.mp read
              exact joined read fun _ _ same => by cases same; rfl
      | pairBackslash leading =>
          simp only [readString] at read
          split_ifs at read
          exact later read
      | pairLetter leading =>
          simp only [readString] at read
          split_ifs at read
          exact later read

theorem skip_text_suffix {input rest : List Char} (skipped : skipText input = .ok rest) :
    rest <:+ input := by
  rw [skipText] at skipped
  cases read : readString false .plain input with
  | error fault =>
      rw [read] at skipped
      cases skipped
  | ok pair =>
      rw [read] at skipped
      cases skipped
      exact read_string_suffix read

theorem read_word_suffix {letters input rest : List Char}
    (read : readWord letters input = .ok rest) : rest <:+ input := by
  induction letters generalizing input with
  | nil =>
      cases read
      exact List.suffix_refl _
  | cons letter letters ih =>
      cases input with
      | nil => cases read
      | cons character input =>
          rw [readWord] at read
          split_ifs at read
          exact (ih read).trans (List.suffix_cons character input)

theorem skip_exponent_suffix {input rest : List Char} (skipped : skipExponent input = .ok rest) :
    rest <:+ input := by
  simp only [skipExponent] at skipped
  split_ifs at skipped
  cases skipped
  refine (List.dropWhile_suffix _).trans ?_
  split
  · exact List.suffix_cons _ _
  · exact List.suffix_cons _ _
  · exact List.suffix_refl _

theorem skip_fraction_end_suffix {input rest : List Char}
    (skipped : skipFractionEnd input = .ok rest) : rest <:+ input := by
  unfold skipFractionEnd at skipped
  split at skipped
  · exact (skip_exponent_suffix skipped).trans (List.suffix_cons _ _)
  · exact (skip_exponent_suffix skipped).trans (List.suffix_cons _ _)
  · cases skipped
    exact List.suffix_refl _

theorem skip_number_suffix {input rest : List Char} (skipped : skipNumber input = .ok rest) :
    rest <:+ input := by
  simp only [skipNumber] at skipped
  split_ifs at skipped
  have digits : input.dropWhile Char.isDigit <:+ input := List.dropWhile_suffix _
  split at skipped
  · next found =>
    rw [found] at digits
    split_ifs at skipped
    exact (skip_fraction_end_suffix skipped).trans ((List.dropWhile_suffix _).trans
      ((List.suffix_cons _ _).trans digits))
  · exact (skip_fraction_end_suffix skipped).trans digits

theorem skip_from_suffix {fuel : Nat} {awaiting : Awaiting} {frames : List Frame}
    {input rest : List Char} (skipped : skipFrom fuel awaiting frames input = .ok rest) :
    rest <:+ input := by
  induction fuel generalizing awaiting frames input with
  | zero => cases awaiting <;> cases skipped
  | succ fuel ih =>
      cases awaiting with
      | separator =>
          cases frames with
          | nil =>
              cases skipped
              exact List.suffix_refl _
          | cons frame outer =>
              simp only [skipFrom] at skipped
              split at skipped
              · cases skipped
              · next found =>
                split_ifs at skipped
                · exact (ih skipped).trans (dropped_suffix found)
                · exact (ih skipped).trans (dropped_suffix found)
      | key =>
          simp only [skipFrom] at skipped
          split at skipped
          · cases skipped
          · next found =>
            obtain ⟨name, named, skipped⟩ := except_bind_ok_iff.mp skipped
            have front := (skip_text_suffix named).trans (dropped_suffix found)
            split at skipped
            · cases skipped
            · next colon => exact (ih skipped).trans ((dropped_suffix colon).trans front)
            · cases skipped
          · cases skipped
      | value =>
          have entered {frame : Frame} {character : Char} {body after : List Char}
              (found : dropBlanks body = character :: after)
              (skipped : (if character = frame.closing then skipFrom fuel .separator frames after
                else skipFrom fuel frame.awaiting (frame :: frames) body) = .ok rest) :
              rest <:+ body := by
            split_ifs at skipped
            · exact (ih skipped).trans (dropped_suffix found)
            · exact ih skipped
          have passed {part : List Char → Except GrammarFault (List Char)} {body : List Char}
              (takes : ∀ {after}, part body = .ok after → after <:+ body)
              (skipped : (do skipFrom fuel .separator frames (← part body)) = .ok rest) :
              rest <:+ body := by
            obtain ⟨after, skippedPart, skipped⟩ := except_bind_ok_iff.mp skipped
            exact (ih skipped).trans (takes skippedPart)
          simp only [skipFrom] at skipped
          split at skipped
          · cases skipped
          · next found => exact (passed read_word_suffix skipped).trans (dropped_suffix found)
          · next found => exact (passed read_word_suffix skipped).trans (dropped_suffix found)
          · next found => exact (passed read_word_suffix skipped).trans (dropped_suffix found)
          · next found => exact (passed skip_number_suffix skipped).trans (dropped_suffix found)
          · next found => exact (passed skip_text_suffix skipped).trans (dropped_suffix found)
          · next found =>
            split at skipped
            · cases skipped
            · next inside => exact (entered inside skipped).trans (dropped_suffix found)
          · next found =>
            split at skipped
            · cases skipped
            · next inside => exact (entered inside skipped).trans (dropped_suffix found)
          · next character body _ _ _ _ _ _ _ found =>
            split_ifs at skipped
            have front := drop_blanks_suffix input
            rw [found] at front
            exact (passed skip_number_suffix skipped).trans front

theorem skip_value_suffix {input rest : List Char} (skipped : skipValue input = .ok rest) :
    rest <:+ input :=
  skip_from_suffix skipped

theorem read_colon_suffix {input rest : List Char} (read : readColon input = .ok rest) :
    rest <:+ input := by
  rw [readColon] at read
  split at read
  · cases read
  · next found =>
    split_ifs at read
    cases read
    exact dropped_suffix found

def Format.TakesFront (format : Format FieldFault Value) : Prop :=
  ∀ input value rest, format.read input = .ok (value, rest) → rest <:+ input

theorem Format.text_takes_front (encode : Value → List Char)
    (decode : List Char → Except FieldFault Value) : (Format.text encode decode).TakesFront := by
  intro input value rest read
  simp only [Format.text] at read
  split at read
  · next found =>
    obtain ⟨⟨text, after⟩, taken, decoded⟩ := except_bind_ok_iff.mp read
    simp only [] at decoded
    split at decoded
    · cases decoded
      exact (read_string_suffix (except_map_error_ok_iff.mp taken)).trans (dropped_suffix found)
    · cases decoded
  · exact absurd read (refuse_ne_ok _ _ _)

namespace Fields

def TakesFront : {Record Slots : Type} → Fields FieldFault Record Slots → Prop
  | _, _, .nil => True
  | _, _, .field _ format rest => format.TakesFront ∧ rest.TakesFront

theorem read_member_suffix {fields : Fields FieldFault Record Slots} (takes : fields.TakesFront)
    {key input rest : List Char} {slots next : Slots}
    (member : fields.readMember? key input slots = some (.ok (next, rest))) : rest <:+ input := by
  induction fields with
  | nil => cases member
  | field name format others ih =>
      obtain ⟨slot, slots⟩ := slots
      simp only [readMember?] at member
      split_ifs at member with named
      · cases slot with
        | some value => cases member
        | none =>
            obtain ⟨after, colon, read⟩ := except_bind_ok_iff.mp (Option.some.inj member)
            obtain ⟨⟨value, left⟩, found, same⟩ := except_bind_ok_iff.mp read
            cases same
            exact (takes.1 _ _ _ found).trans
              (read_colon_suffix (except_map_error_ok_iff.mp colon))
      · obtain ⟨outcome, later, same⟩ := Option.map_eq_some_iff.mp member
        cases outcome with
        | error fault => cases same
        | ok pair =>
            cases same
            exact ih takes.2 later

/-- Where there is no next key there is a brace. -/
theorem next_key_takes {first : Bool} {input rest : List Char} {key : Option (List Char)}
    (read : nextKey first input = .ok (key, rest)) :
    rest <:+ input ∧ (key = none → '\x7d' ∈ input) := by
  have named {after left name : List Char} (front : '\x22' :: after <:+ input)
      (text : readText after = .ok (name, left)) (same : some name = key ∧ left = rest) :
      rest <:+ input ∧ (key = none → '\x7d' ∈ input) := by
    obtain ⟨rfl, rfl⟩ := same
    exact ⟨((read_string_suffix text).trans (List.suffix_cons _ _)).trans front,
      fun wrong => nomatch wrong⟩
  simp only [nextKey] at read
  have front := drop_blanks_suffix input
  split at read
  · cases read
  · next found =>
    cases read
    rw [found] at front
    exact ⟨(List.suffix_cons _ _).trans front, fun _ => front.subset List.mem_cons_self⟩
  · next found =>
    rw [found] at front
    split_ifs at read
    · split at read
      · next quoted =>
        obtain ⟨⟨name, after⟩, text, same⟩ := except_bind_ok_iff.mp read
        cases same
        rw [quoted] at front
        exact named front text ⟨rfl, rfl⟩
      · cases read
      · cases read
    · split at read
      · cases read
      · have behind := (drop_blanks_suffix _).trans ((List.suffix_cons _ _).trans front)
        split at read
        · next quoted =>
          obtain ⟨⟨name, after⟩, text, same⟩ := except_bind_ok_iff.mp read
          cases same
          rw [quoted] at behind
          exact named behind text ⟨rfl, rfl⟩
        · cases read
        · cases read

theorem brace_of_read_members {fields : Fields FieldFault Record Slots}
    (takes : fields.TakesFront) {fuel : Nat} {first : Bool} {slots : Slots}
    {input rest : List Char} {record : Record}
    (read : fields.readMembers fuel first slots input = .ok (record, rest)) : '\x7d' ∈ input := by
  induction fuel generalizing first slots input with
  | zero => cases read
  | succ fuel ih =>
      obtain ⟨⟨key, after⟩, found, step⟩ := except_bind_ok_iff.mp read
      obtain ⟨front, brace⟩ := next_key_takes (except_map_error_ok_iff.mp found)
      cases key with
      | none => exact brace rfl
      | some key =>
          simp only [] at step
          split at step
          · next outcome member =>
            obtain ⟨⟨next, left⟩, same, more⟩ := except_bind_ok_iff.mp step
            exact front.subset ((read_member_suffix takes (same ▸ member)).subset (ih more))
          · obtain ⟨_, colon, step⟩ := except_bind_ok_iff.mp step
            obtain ⟨_, value, step⟩ := except_bind_ok_iff.mp step
            have passed := (skip_value_suffix (except_map_error_ok_iff.mp value)).trans
              (read_colon_suffix (except_map_error_ok_iff.mp colon))
            exact front.subset (passed.subset (ih step))

end Fields

/-- The text of an object has its last brace at its end, and no other. -/
def ClosedAtEnd (text : List Char) : Prop :=
  ∃ body, text = '\x7b' :: (body ++ ['\x7d']) ∧ '\x7d' ∉ body

def Fields.Unbraced : {Record Slots : Type} → Fields FieldFault Record Slots → Record → Prop
  | _, _, .nil, _ => True
  | _, _, .field name format rest, (value, values) =>
      '\x7d' ∉ name.toList ∧ (∀ layout depth, '\x7d' ∉ format.write layout depth value) ∧
        rest.Unbraced values

theorem line_break_unbraced (layout : Layout) (depth : Nat) :
    '\x7d' ∉ layout.lineBreak depth := by
  intro brace
  exact absurd (line_break_blank layout depth _ brace) (by decide)

theorem Fields.joined_unbraced {fields : Fields FieldFault Record Slots} {record : Record}
    (unbraced : fields.Unbraced record) (layout : Layout) (depth : Nat) (first : Bool) :
    '\x7d' ∉ joined first (fields.lines layout depth record) := by
  induction fields generalizing first with
  | nil => exact List.not_mem_nil
  | field name format rest ih =>
      obtain ⟨value, values⟩ := record
      obtain ⟨named, written, others⟩ := unbraced
      have afterColon : '\x7d' ∉ layout.afterColon := fun brace =>
        absurd (after_colon_blank layout _ brace) (by decide)
      have comma : '\x7d' ∉ (if first then [] else [',']) := by cases first <;> decide
      change '\x7d' ∉ (if first then [] else [',']) ++ (layout.lineBreak depth ++
        (quoted name.toList ++ ':' :: (layout.afterColon ++ format.write layout depth value))) ++
          joined false (rest.lines layout depth values)
      simp only [quoted, List.mem_append, List.mem_cons, not_or, List.not_mem_nil,
        not_false_eq_true, and_true]
      exact ⟨⟨comma, line_break_unbraced layout depth, ⟨by decide, named, by decide⟩, by decide,
        afterColon, written layout depth⟩, ih others false⟩

theorem Format.record_closed (name : String) {fields : Fields FieldFault Record Slots}
    {record : Record} (unbraced : fields.Unbraced record) (layout : Layout) (depth : Nat) :
    ClosedAtEnd ((Format.record name fields).write layout depth record) := by
  refine ⟨Fields.joined true (fields.lines layout (depth + 1) record) ++ layout.lineBreak depth,
    ?_, ?_⟩
  · rw [← Fields.intercalate_eq_joined]
    rfl
  · rw [List.mem_append, not_or]
    exact ⟨Fields.joined_unbraced unbraced layout (depth + 1) true,
      line_break_unbraced layout depth⟩

/-- Of the text of the value only the whole can be read. -/
def Format.ReadsWhole (format : Format FieldFault Value) (value : Value) : Prop :=
  ∀ layout front read, front <+: format.encode layout value → format.decode front = .ok read →
    front = format.encode layout value

theorem Format.record_reads_whole (name : String) {fields : Fields FieldFault Record Slots}
    (takes : fields.TakesFront) {record : Record} (unbraced : fields.Unbraced record) :
    (Format.record name fields).ReadsWhole record := by
  intro layout front value isFront decoded
  obtain ⟨⟨_, rest⟩, read, -⟩ := except_bind_ok_iff.mp decoded
  obtain ⟨body, text, unbraced⟩ := Format.record_closed name unbraced layout 0
  rw [encode, text] at isFront ⊢
  cases front with
  | nil => exact absurd read (refuse_ne_ok (.record name) [] _)
  | cons character front =>
      obtain ⟨rfl, early⟩ := List.cons_prefix_cons.mp isFront
      have brace : '\x7d' ∈ front := Fields.brace_of_read_members takes read
      rcases List.prefix_concat_iff.mp early with whole | early
      · rw [whole]
      · exact absurd (early.subset brace) unbraced

theorem Format.transport_reads_whole {format : Format FieldFault Value} {forth : Value → Other}
    {back : Other → Value} {value : Other} (readsWhole : format.ReadsWhole (back value)) :
    (format.transport forth back).ReadsWhole value := by
  intro layout front read isFront decoded
  obtain ⟨inner, taken⟩ : ∃ inner, format.decode front = .ok inner := by
    obtain ⟨⟨_, rest⟩, read, ends⟩ := except_bind_ok_iff.mp decoded
    simp only [] at ends
    split_ifs at ends with blank
    change (format.read front).map (fun parts => (forth parts.1, parts.2)) = _ at read
    cases result : format.read front with
    | error fault =>
        rw [result] at read
        cases read
    | ok pair =>
        rw [result] at read
        cases read
        exact ⟨pair.1, except_bind_ok_iff.mpr ⟨pair, result, if_pos blank⟩⟩
  exact readsWhole layout front inner isFront taken

end ObliviousTransfer.Json
