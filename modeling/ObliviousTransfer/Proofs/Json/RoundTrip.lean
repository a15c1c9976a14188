import ObliviousTransfer.Json.Format
import ObliviousTransfer.Proofs.Json.Hexadecimal

/-!
What a format writes it reads back, in either layout and whatever follows, or
refuses with one fault. For a record this needs names that stand for themselves
and differ from each other, and the first field that is refused decides.
-/

namespace ObliviousTransfer.Json

variable {FieldFault Value Other Record Slots : Type}

def Plain (character : Char) : Prop :=
  character ≠ '\x22' ∧ character ≠ '\\' ∧ 0x20 ≤ character.toNat

instance (character : Char) : Decidable (Plain character) :=
  inferInstanceAs (Decidable (_ ∧ _))

def AllBlank (text : List Char) : Prop := ∀ character ∈ text, isBlank character = true

theorem all_blank_nil : AllBlank [] := fun _ member => nomatch member

theorem in_grammar_ok {Result : Type} (value : Result) :
    (inGrammar (.ok value) : Except (Fault FieldFault) Result) = .ok value := rfl

theorem read_text_plain {text : List Char} (plain : ∀ character ∈ text, Plain character)
    (rest : List Char) : readText (text ++ '\x22' :: rest) = .ok (text, rest) := by
  induction text with
  | nil => rfl
  | cons character text ih =>
      obtain ⟨notQuote, notBackslash, visible⟩ := plain character List.mem_cons_self
      have tail := ih fun other member => plain other (List.mem_cons_of_mem _ member)
      rw [readText] at tail ⊢
      rw [List.cons_append, readString, if_neg notQuote, if_neg notBackslash,
        if_neg (Nat.not_lt.mpr visible), tail]
      rfl

theorem drop_blanks_blank {blanks : List Char} (blank : AllBlank blanks) (rest : List Char) :
    dropBlanks (blanks ++ rest) = dropBlanks rest := by
  induction blanks with
  | nil => rfl
  | cons character blanks ih =>
      have first : isBlank character = true := blank character List.mem_cons_self
      have others := ih fun other member => blank other (List.mem_cons_of_mem _ member)
      rw [dropBlanks] at others ⊢
      rw [List.cons_append, List.dropWhile_cons_of_pos first]
      exact others

theorem line_break_blank (layout : Layout) (depth : Nat) :
    AllBlank (layout.lineBreak depth) := by
  intro character member
  cases layout with
  | compact => cases member
  | pretty =>
      rcases List.mem_cons.mp member with newline | space
      · rw [newline]
        rfl
      · rw [List.eq_of_mem_replicate space]
        rfl

theorem after_colon_blank (layout : Layout) : AllBlank layout.afterColon := by
  intro character member
  cases layout with
  | compact => cases member
  | pretty =>
      rw [List.mem_singleton.mp member]
      rfl

/-- Reading the text has one outcome, whatever blanks come before and whatever comes after. -/
def Format.Takes (format : Format FieldFault Value) (text : List Char)
    (outcome : Except (Fault FieldFault) Value) : Prop :=
  ∀ blanks rest, AllBlank blanks →
    format.read (blanks ++ (text ++ rest)) = outcome.map fun value => (value, rest)

def Format.Restores (format : Format FieldFault Value) (value : Value) : Prop :=
  ∀ layout depth blanks rest, AllBlank blanks →
    format.read (blanks ++ (format.write layout depth value ++ rest)) = .ok (value, rest)

/-- Reading the text of the value gives the value back, or always the same fault. -/
def Format.ReadsBack (format : Format FieldFault Value) (value : Value)
    (outcome : Except (Fault FieldFault) Unit) : Prop :=
  ∀ layout depth blanks rest, AllBlank blanks →
    format.read (blanks ++ (format.write layout depth value ++ rest)) =
      outcome.map fun _ => (value, rest)

theorem Format.takes_of_reads_back {format : Format FieldFault Value} {value : Value}
    {outcome : Except (Fault FieldFault) Unit} (readsBack : format.ReadsBack value outcome)
    (layout : Layout) (depth : Nat) :
    format.Takes (format.write layout depth value) (outcome.map fun _ => value) := by
  intro blanks rest blank
  rw [readsBack layout depth blanks rest blank]
  cases outcome <;> rfl

theorem Format.restores_iff_reads_back {format : Format FieldFault Value} {value : Value} :
    format.Restores value ↔ format.ReadsBack value (.ok ()) := Iff.rfl

theorem Format.decode_encode {format : Format FieldFault Value} {value : Value}
    {outcome : Except (Fault FieldFault) Unit} (readsBack : format.ReadsBack value outcome)
    (layout : Layout) :
    format.decode (format.encode layout value) = outcome.map fun _ => value := by
  have read := readsBack layout 0 [] [] all_blank_nil
  rw [List.nil_append, List.append_nil] at read
  rw [decode, encode, read]
  cases outcome <;> rfl

theorem Format.text_takes {encode : Value → List Char}
    {decode : List Char → Except FieldFault Value} {text : List Char}
    (plain : ∀ character ∈ text, Plain character) :
    (Format.text encode decode).Takes (quoted text) ((decode text).mapError .field) := by
  intro blanks rest blank
  have front : dropBlanks (blanks ++ (quoted text ++ rest)) =
      '\x22' :: (text ++ '\x22' :: rest) := by
    rw [quoted, List.cons_append, List.append_assoc, drop_blanks_blank blank]
    rfl
  simp only [Format.text, front, read_text_plain plain]
  simp only [in_grammar_ok, bind, Except.bind]
  cases decode text <;> rfl

theorem Format.text_reads_back {encode : Value → List Char}
    {decode : List Char → Except FieldFault Value} {value : Value}
    {outcome : Except FieldFault Unit} (plain : ∀ character ∈ encode value, Plain character)
    (decodes : decode (encode value) = outcome.map fun _ => value) :
    (Format.text encode decode).ReadsBack value (outcome.mapError .field) := by
  intro layout depth blanks rest blank
  have read := @Format.text_takes _ _ encode decode _ plain blanks rest blank
  rw [decodes] at read
  refine read.trans ?_
  cases outcome <;> rfl

theorem Format.text_restores {encode : Value → List Char}
    {decode : List Char → Except FieldFault Value} {value : Value}
    (plain : ∀ character ∈ encode value, Plain character)
    (decodes : decode (encode value) = .ok value) :
    (Format.text encode decode).Restores value := by
  have succeeds : decode (encode value) =
      (Except.ok () : Except FieldFault Unit).map fun _ => value := decodes
  exact Format.text_reads_back plain succeeds

theorem Format.transport_reads_back {format : Format FieldFault Value} {forth : Value → Other}
    {back : Other → Value} {value : Other} {outcome : Except (Fault FieldFault) Unit}
    (readsBack : format.ReadsBack (back value) outcome) (inverse : forth (back value) = value) :
    (format.transport forth back).ReadsBack value outcome := by
  intro layout depth blanks rest blank
  change (format.read (blanks ++ (format.write layout depth (back value) ++ rest))).map _ = _
  rw [readsBack layout depth blanks rest blank]
  cases outcome with
  | error fault => rfl
  | ok _ =>
      change Except.ok (forth (back value), rest) = _
      rw [inverse]
      rfl

theorem Format.transport_restores {format : Format FieldFault Value} {forth : Value → Other}
    {back : Other → Value} {value : Other} (restores : format.Restores (back value))
    (inverse : forth (back value) = value) : (format.transport forth back).Restores value :=
  Format.transport_reads_back (Format.restores_iff_reads_back.mp restores) inverse

namespace Fields

def names : {Record Slots : Type} → Fields FieldFault Record Slots → List (List Char)
  | _, _, .nil => []
  | _, _, .field name _ rest => name.toList :: rest.names

structure WellNamed (fields : Fields FieldFault Record Slots) : Prop where
  distinct : fields.names.Nodup
  plain : ∀ name ∈ fields.names, ∀ character ∈ name, Plain character

def Restores : {Record Slots : Type} → Fields FieldFault Record Slots → Record → Prop
  | _, _, .nil, _ => True
  | _, _, .field _ format rest, (value, values) => format.Restores value ∧ rest.Restores values

/-- The fields are read back one after the other, up to the first that is refused. -/
def ReadsBack : {Record Slots : Type} → Fields FieldFault Record Slots → Record →
    Except (Fault FieldFault) Unit → Prop
  | _, _, .nil, _, outcome => outcome = .ok ()
  | _, _, .field _ format rest, (value, values), outcome => ∃ first others,
      format.ReadsBack value first ∧ rest.ReadsBack values others ∧
        outcome = first.bind fun _ => others

theorem reads_back_of_restores {fields : Fields FieldFault Record Slots} {record : Record}
    (restores : fields.Restores record) : fields.ReadsBack record (.ok ()) := by
  induction fields with
  | nil => rfl
  | field name format rest ih =>
      obtain ⟨value, values⟩ := record
      exact ⟨.ok (), .ok (), restores.1, ih restores.2, rfl⟩

def full : {Record Slots : Type} → Fields FieldFault Record Slots → Record → Slots
  | _, _, .nil, _ => ()
  | _, _, .field _ _ rest, (value, values) => (some value, rest.full values)

theorem complete_full (fields : Fields FieldFault Record Slots) (record : Record) :
    fields.complete (fields.full record) = .ok record := by
  induction fields with
  | nil => rfl
  | field name format rest ih =>
      obtain ⟨value, values⟩ := record
      change (rest.complete (rest.full values) >>= fun values => _) = _
      rw [ih]
      rfl

def joined (first : Bool) : List (List Char) → List Char
  | [] => []
  | line :: lines => (if first then [] else [',']) ++ line ++ joined false lines

theorem intercalate_eq_joined (lines : List (List Char)) :
    [','].intercalate lines = joined true lines := by
  have after (lines : List (List Char)) (line : List Char) :
      [','].intercalate (line :: lines) = line ++ joined false lines := by
    induction lines generalizing line with
    | nil => simp [joined]
    | cons other lines ih =>
        rw [List.intercalate_cons_cons, ih, joined]
        simp
  cases lines with
  | nil => rfl
  | cons line lines => exact after lines line

theorem joined_length (first : Bool) {lines : List (List Char)}
    (filled : ∀ line ∈ lines, line ≠ []) : lines.length ≤ (joined first lines).length := by
  induction lines generalizing first with
  | nil => exact Nat.zero_le _
  | cons line lines ih =>
      have some : 0 < line.length := List.length_pos_iff.mpr (filled line List.mem_cons_self)
      have others := ih false fun other member => filled other (List.mem_cons_of_mem _ member)
      simp only [joined, List.length_append, List.length_cons]
      omega

section Reading

variable {fields : Fields FieldFault Record Slots} {slots next : Slots}

theorem next_key_end (first : Bool) {blanks : List Char} (blank : AllBlank blanks)
    (rest : List Char) : nextKey first (blanks ++ '\x7d' :: rest) = .ok (none, rest) := by
  rw [nextKey, drop_blanks_blank blank]
  rfl

theorem next_key_member (first : Bool) {before blanks : List Char} (beforeBlank : AllBlank before)
    (blank : AllBlank blanks) {name : List Char}
    (plain : ∀ character ∈ name, Plain character) (rest : List Char) :
    nextKey first (before ++ ((if first then [] else [',']) ++
      (blanks ++ (quoted name ++ rest)))) = .ok (some name, rest) := by
  have text := read_text_plain plain rest
  have opened : dropBlanks (blanks ++ (quoted name ++ rest)) =
      '\x22' :: (name ++ '\x22' :: rest) := by
    rw [drop_blanks_blank blank, quoted, List.cons_append, List.append_assoc]
    rfl
  rw [nextKey, drop_blanks_blank beforeBlank]
  cases first with
  | true =>
      rw [if_pos rfl, List.nil_append, opened]
      change (readText (name ++ '\x22' :: rest) >>= _) = _
      rw [text]
      rfl
  | false =>
      have comma : dropBlanks (',' :: (blanks ++ (quoted name ++ rest))) =
          ',' :: (blanks ++ (quoted name ++ rest)) := rfl
      rw [if_neg Bool.false_ne_true, List.singleton_append, comma]
      simp only [Char.isValue, Char.reduceEq, imp_self, Bool.false_eq_true, if_false, if_true, opened,
        List.cons.injEq, false_and, implies_true, text]
      rfl

theorem read_colon_blank {blanks : List Char} (blank : AllBlank blanks) (rest : List Char) :
    readColon (blanks ++ ':' :: rest) = .ok rest := by
  rw [readColon, drop_blanks_blank blank]
  rfl

/-- Reading a member whose field has been given none leaves the record one field fuller, unless its
value is refused. -/
theorem read_member_first (name : String) {format : Format FieldFault Value}
    (rest : Fields FieldFault Record Slots) {text : List Char}
    {outcome : Except (Fault FieldFault) Value} (takes : format.Takes text outcome)
    {beforeColon beforeValue : List Char} (colonBlank : AllBlank beforeColon)
    (valueBlank : AllBlank beforeValue) (slots : Slots) (after : List Char) :
    (Fields.field name format rest).readMember? name.toList
      (beforeColon ++ ':' :: (beforeValue ++ (text ++ after))) (none, slots) =
      some (outcome.map fun value => ((some value, slots), after)) := by
  rw [readMember?, if_pos rfl]
  simp only [read_colon_blank colonBlank, in_grammar_ok, bind, Except.bind,
    takes beforeValue after valueBlank]
  cases outcome <;> rfl

theorem read_member_later {name : String} {format : Format FieldFault Value}
    {rest : Fields FieldFault Record Slots} {key : List Char} (other : key ≠ name.toList)
    (slot : Option Value) (slots : Slots) (input : List Char) :
    (Fields.field name format rest).readMember? key input (slot, slots) =
      (rest.readMember? key input slots).map fun outcome =>
        outcome.map fun (slots, input) => ((slot, slots), input) :=
  if_neg other

theorem read_members_known {key rest : List Char} {input after : List Char} {first : Bool}
    (found : nextKey first input = .ok (some key, rest))
    (member : fields.readMember? key rest slots = some (.ok (next, after))) (fuel : Nat) :
    fields.readMembers (fuel + 1) first slots input =
      fields.readMembers fuel false next after := by
  rw [readMembers, found]
  simp only [in_grammar_ok, bind, Except.bind, member]

theorem read_members_refused {key rest : List Char} {input : List Char} {first : Bool}
    {fault : Fault FieldFault} (found : nextKey first input = .ok (some key, rest))
    (member : fields.readMember? key rest slots = some (.error fault)) (fuel : Nat) :
    fields.readMembers (fuel + 1) first slots input = .error fault := by
  rw [readMembers, found]
  simp only [in_grammar_ok, bind, Except.bind, member]

theorem read_members_end {rest : List Char} {input : List Char} {first : Bool}
    (found : nextKey first input = .ok (none, rest)) (fuel : Nat) :
    fields.readMembers (fuel + 1) first slots input =
      (fields.complete slots).map fun record => (record, rest) := by
  rw [readMembers, found]
  change (fields.complete slots >>= _) = _
  cases fields.complete slots <;> rfl

end Reading

/-- A part of the fields is read as by itself, with its slots put among those of the others. -/
def Embeds {Whole WholeSlots : Type} (whole : Fields FieldFault Whole WholeSlots)
    (part : Fields FieldFault Record Slots) (embed : Slots → WholeSlots) : Prop :=
  ∀ key ∈ part.names, ∀ input slots, whole.readMember? key input (embed slots) =
    (part.readMember? key input slots).map fun outcome =>
      outcome.map fun (slots, input) => (embed slots, input)

def lines (layout : Layout) (depth : Nat) (fields : Fields FieldFault Record Slots)
    (record : Record) : List (List Char) :=
  (fields.members layout depth record).map fun member => layout.lineBreak depth ++ member

theorem read_members_lines {Whole WholeSlots : Type} {whole : Fields FieldFault Whole WholeSlots}
    {fields : Fields FieldFault Record Slots} {embed : Slots → WholeSlots}
    (embeds : Embeds whole fields embed) (named : fields.WellNamed) {record : Record}
    {outcome : Except (Fault FieldFault) Unit} (readsBack : fields.ReadsBack record outcome)
    {all : Whole} (complete : whole.complete (embed (fields.full record)) = .ok all)
    (layout : Layout) (depth : Nat) (first : Bool) (rest : List Char) {fuel : Nat}
    (enough : fields.count < fuel) :
    whole.readMembers fuel first (embed fields.empty)
      (joined first (fields.lines layout (depth + 1) record) ++
        (layout.lineBreak depth ++ '\x7d' :: rest)) = outcome.map fun _ => (all, rest) := by
  induction fields generalizing first fuel outcome with
  | nil =>
      obtain ⟨fuel, rfl⟩ := Nat.exists_eq_succ_of_ne_zero (Nat.ne_zero_of_lt enough)
      cases readsBack
      refine (read_members_end (next_key_end first (line_break_blank layout depth) rest) fuel).trans ?_
      rw [complete]
      rfl
  | field name format others ih =>
      obtain ⟨fuel, rfl⟩ := Nat.exists_eq_succ_of_ne_zero (Nat.ne_zero_of_lt enough)
      obtain ⟨value, values⟩ := record
      obtain ⟨valueOutcome, othersOutcome, valueReadsBack, othersReadBack, rfl⟩ := readsBack
      obtain ⟨fresh, distinct⟩ := List.nodup_cons.mp named.distinct
      have plain := named.plain name.toList List.mem_cons_self
      have othersNamed : others.WellNamed :=
        ⟨distinct, fun other member => named.plain other (List.mem_cons_of_mem _ member)⟩
      -- The fields after this one see an object that has given it already.
      have othersEmbed : Embeds whole others fun slots => embed (some value, slots) := by
        intro key member input slots
        have other : key ≠ name.toList := fun same => fresh (same ▸ member)
        rw [embeds key (List.mem_cons_of_mem _ member), read_member_later other, Option.map_map]
        congr 1
        funext outcome
        cases outcome <;> rfl
      let after := joined false (others.lines layout (depth + 1) values) ++
        (layout.lineBreak depth ++ '\x7d' :: rest)
      have takes := Format.takes_of_reads_back valueReadsBack layout (depth + 1)
      have member := embeds name.toList List.mem_cons_self
        (':' :: (layout.afterColon ++ (format.write layout (depth + 1) value ++ after)))
        (none, others.empty)
      have read := read_member_first name others takes all_blank_nil
        (after_colon_blank layout) others.empty after
      rw [List.nil_append] at read
      rw [read] at member
      have found := next_key_member first all_blank_nil (line_break_blank layout (depth + 1)) plain
        (':' :: (layout.afterColon ++ (format.write layout (depth + 1) value ++ after)))
      rw [List.nil_append] at found
      have split : joined first ((Fields.field name format others).lines layout (depth + 1)
          (value, values)) ++ (layout.lineBreak depth ++ '\x7d' :: rest) =
          (if first then [] else [',']) ++ (layout.lineBreak (depth + 1) ++ (quoted name.toList ++
            ':' :: (layout.afterColon ++ (format.write layout (depth + 1) value ++ after)))) := by
        simp only [lines, members, List.map_cons, joined, after, List.append_assoc,
          List.cons_append]
      rw [split]
      cases valueOutcome with
      | error fault => exact read_members_refused found member fuel
      | ok _ =>
          have tail := ih othersEmbed othersNamed othersReadBack complete false
            (Nat.lt_of_succ_lt_succ enough)
          exact (read_members_known found member fuel).trans tail

theorem embeds_self (fields : Fields FieldFault Record Slots) : Embeds fields fields id := by
  intro key _ input slots
  change fields.readMember? key input slots = _
  cases fields.readMember? key input slots with
  | none => rfl
  | some outcome => cases outcome <;> rfl

theorem lines_filled (fields : Fields FieldFault Record Slots) (record : Record)
    (layout : Layout) (depth : Nat) : ∀ line ∈ fields.lines layout depth record, line ≠ [] := by
  induction fields with
  | nil => exact fun _ member => nomatch member
  | field name format rest ih =>
      obtain ⟨value, values⟩ := record
      intro line member
      rcases List.mem_cons.mp member with first | later
      · rw [first]
        exact List.append_ne_nil_of_right_ne_nil _ (List.cons_ne_nil _ _)
      · exact ih values line later

theorem lines_length (fields : Fields FieldFault Record Slots) (record : Record)
    (layout : Layout) (depth : Nat) :
    (fields.lines layout depth record).length = fields.count := by
  induction fields with
  | nil => rfl
  | field name format rest ih =>
      obtain ⟨value, values⟩ := record
      exact congrArg (· + 1) (ih values)

end Fields

theorem Format.record_reads_back {name : String} {fields : Fields FieldFault Record Slots}
    (named : fields.WellNamed) {record : Record} {outcome : Except (Fault FieldFault) Unit}
    (readsBack : fields.ReadsBack record outcome) :
    (Format.record name fields).ReadsBack record outcome := by
  intro layout depth blanks rest blank
  have text : (Format.record name fields).write layout depth record ++ rest =
      '\x7b' :: (Fields.joined true (fields.lines layout (depth + 1) record) ++
        (layout.lineBreak depth ++ '\x7d' :: rest)) := by
    change '\x7b' :: ([','].intercalate (fields.lines layout (depth + 1) record) ++
      layout.lineBreak depth ++ ['\x7d']) ++ rest = _
    rw [Fields.intercalate_eq_joined]
    simp
  have enough : fields.count ≤
      (Fields.joined true (fields.lines layout (depth + 1) record)).length := by
    rw [← fields.lines_length record layout (depth + 1)]
    exact Fields.joined_length true (fields.lines_filled record layout (depth + 1))
  have front (body : List Char) : dropBlanks (blanks ++ '\x7b' :: body) = '\x7b' :: body :=
    drop_blanks_blank blank _
  rw [text]
  simp only [Format.record, front]
  apply Fields.read_members_lines fields.embeds_self named readsBack (fields.complete_full record)
  rw [List.length_append]
  omega

theorem Format.record_restores {name : String} {fields : Fields FieldFault Record Slots}
    (named : fields.WellNamed) {record : Record} (restores : fields.Restores record) :
    (Format.record name fields).Restores record :=
  Format.record_reads_back named (Fields.reads_back_of_restores restores)

end ObliviousTransfer.Json
