import Mathlib.Data.List.Forall2
import ObliviousTransfer.Proofs.Json.RoundTrip

/-!
Objects as anyone may write them: the members in any order, with blanks wherever
they are allowed and hexadecimal digits of either size. A record is read from
such an object just if each of its fields takes the text of its member, and
what is written for a record is such an object.
-/

namespace ObliviousTransfer.Json

variable {FieldFault Value Other Record Slots : Type}

abbrev Blanks := {text : List Char // AllBlank text}

structure Member where
  beforeKey : Blanks
  key : List Char
  beforeColon : Blanks
  beforeValue : Blanks
  value : List Char
  afterValue : Blanks

namespace Member

def text (member : Member) : List Char :=
  member.beforeKey.val ++ (quoted member.key ++ (member.beforeColon.val ++
    ':' :: (member.beforeValue.val ++ (member.value ++ member.afterValue.val))))

def pair (member : Member) : List Char × List Char := (member.key, member.value)

theorem text_ne_nil (member : Member) : member.text ≠ [] := by
  simp [text, quoted]

end Member

def objectText (members : List Member) : List Char :=
  '\x7b' :: ([','].intercalate (members.map Member.text) ++ ['\x7d'])

/-- The text is a string of the characters, each of which stands for itself. -/
def IsText (content text : List Char) : Prop :=
  text = quoted content ∧ ∀ character ∈ content, Plain character

/-- The text is a string of hexadecimal digits for the bytes, with letters of either size. -/
def IsHex (bytes : List Byte) (text : List Char) : Prop :=
  ∃ digits, text = quoted digits ∧ Hex.Spells digits bytes

/-- The text is an object with the wanted members, in any order, and the value of each is as it
should be. -/
def IsObject (wanted : List (String × (List Char → Prop))) (text : List Char) : Prop :=
  ∃ members pairs, text = objectText members ∧ (members.map Member.pair).Perm pairs ∧
    List.Forall₂ (fun (name, holds) (key, value) => key = name.toList ∧ holds value) wanted pairs

def Stands (holds : List Char → Prop) (text : String) : Prop :=
  ∃ (before after : Blanks) (body : List Char),
    holds body ∧ text.toList = before.val ++ (body ++ after.val)

/-- Every text of the kind is read as the value that is meant, or refused if none is. -/
def Format.Understands (format : Format FieldFault Value) (holds : List Char → Prop)
    (meant : Option Value) : Prop :=
  ∀ text, holds text → ∃ outcome, format.Takes text outcome ∧ outcome.toOption = meant

theorem Format.transport_understands {format : Format FieldFault Value}
    {holds : List Char → Prop} {meant : Option Value} (understands : format.Understands holds meant)
    (forth : Value → Other) (back : Other → Value) :
    (format.transport forth back).Understands holds (meant.map forth) := by
  intro text held
  obtain ⟨outcome, takes, same⟩ := understands text held
  refine ⟨outcome.map forth, ?_, ?_⟩
  · intro blanks rest blank
    change (format.read (blanks ++ (text ++ rest))).map _ = _
    rw [takes blanks rest blank]
    cases outcome <;> rfl
  · rw [← same]
    cases outcome <;> rfl

theorem digit_plain {character : Char} {value : Nat} (bound : value < 16)
    (lower : character.toLower = Hex.digit value) : Plain character := by
  apply Hex.of_lower_digit (fun character _ => Plain character) _ _ bound lower
  · decide
  · decide

theorem digits_plain {digits : List Char} {bytes : List Byte} (spells : Hex.Spells digits bytes) :
    ∀ character ∈ digits, Plain character := by
  induction bytes generalizing digits with
  | nil =>
      rw [Hex.spells_nil spells]
      exact fun _ member => nomatch member
  | cons byte bytes ih =>
      obtain ⟨high, low, others, rfl, first, second, rest⟩ := Hex.spells_cons spells
      intro character member
      simp only [List.mem_cons] at member
      rcases member with rfl | rfl | later
      · exact digit_plain (Hex.high_digit_lt byte) first
      · exact digit_plain (Hex.low_digit_lt byte) second
      · exact ih rest character later

theorem IsHex.is_text {bytes : List Byte} {text : List Char} (hex : IsHex bytes text) :
    ∃ digits, Hex.Spells digits bytes ∧ IsText digits text := by
  obtain ⟨digits, rfl, spells⟩ := hex
  exact ⟨digits, spells, rfl, digits_plain spells⟩

theorem Format.text_understands {encode : Value → List Char}
    {decode : List Char → Except FieldFault Value} (content : List Char) :
    (Format.text encode decode).Understands (IsText content) (decode content).toOption := by
  rintro text ⟨rfl, plain⟩
  refine ⟨_, Format.text_takes plain, ?_⟩
  cases decode content <;> rfl

theorem Format.hex_understands {format : Format FieldFault Value} {bytes : List Byte}
    {meant : Option Value}
    (understands : ∀ digits, Hex.Spells digits bytes → format.Understands (IsText digits) meant) :
    format.Understands (IsHex bytes) meant := by
  intro text hex
  obtain ⟨digits, spells, isText⟩ := hex.is_text
  exact understands digits spells text isText

namespace Fields

def Understands : {Record Slots : Type} → Fields FieldFault Record Slots →
    List (String × (List Char → Prop)) → Slots → Prop
  | _, _, .nil, wanted, _ => wanted = []
  | _, _, .field name format rest, wanted, (slot, slots) => ∃ holds others,
      wanted = (name, holds) :: others ∧ format.Understands holds slot ∧
        rest.Understands others slots

def Takes : {Record Slots : Type} → Fields FieldFault Record Slots →
    List (List Char × List Char) → Slots → Prop
  | _, _, .nil, pairs, _ => pairs = []
  | _, _, .field name format rest, pairs, (slot, slots) => ∃ text others,
      pairs = (name.toList, text) :: others ∧
        (∃ outcome, format.Takes text outcome ∧ outcome.toOption = slot) ∧
        rest.Takes others slots

theorem takes_of_understands {fields : Fields FieldFault Record Slots}
    {wanted : List (String × (List Char → Prop))} {pairs : List (List Char × List Char)}
    {slots : Slots} (understands : fields.Understands wanted slots)
    (hold : List.Forall₂ (fun (name, holds) (key, value) => key = name.toList ∧ holds value)
      wanted pairs) : fields.Takes pairs slots := by
  induction fields generalizing wanted pairs with
  | nil =>
      cases understands
      cases hold
      rfl
  | field name format rest ih =>
      obtain ⟨slot, slots⟩ := slots
      obtain ⟨holds, others, rfl, first, later⟩ := understands
      cases hold with
      | @cons _ pair _ pairs held tail =>
          obtain ⟨key, value⟩ := pair
          obtain ⟨rfl, held⟩ := held
          exact ⟨value, pairs, rfl, first value held, ih later tail⟩

theorem takes_keys {fields : Fields FieldFault Record Slots}
    {pairs : List (List Char × List Char)} {slots : Slots} (takes : fields.Takes pairs slots) :
    pairs.map Prod.fst = fields.names := by
  induction fields generalizing pairs with
  | nil =>
      cases takes
      rfl
  | field name format rest ih =>
      obtain ⟨slot, slots⟩ := slots
      obtain ⟨text, others, rfl, _, later⟩ := takes
      exact congrArg (List.cons name.toList) (ih later)

/-- The slots of an object that has given the members with some keys. -/
def given : {Record Slots : Type} → Fields FieldFault Record Slots → List (List Char) → Slots →
    Slots
  | _, _, .nil, _, _ => ()
  | _, _, .field name _ rest, keys, (slot, slots) =>
      (if name.toList ∈ keys then slot else none, rest.given keys slots)

theorem given_none (fields : Fields FieldFault Record Slots) (slots : Slots) :
    fields.given [] slots = fields.empty := by
  induction fields with
  | nil => rfl
  | field name format rest ih =>
      obtain ⟨slot, slots⟩ := slots
      simp only [given, empty, List.not_mem_nil, if_false, ih]

theorem given_all {fields : Fields FieldFault Record Slots} {keys : List (List Char)}
    (all : ∀ name ∈ fields.names, name ∈ keys) (slots : Slots) : fields.given keys slots = slots := by
  induction fields with
  | nil => rfl
  | field name format rest ih =>
      obtain ⟨slot, slots⟩ := slots
      have first : name.toList ∈ keys := all _ List.mem_cons_self
      have later := ih (fun other member => all other (List.mem_cons_of_mem _ member)) slots
      simp only [given, if_pos first, later]

theorem given_other {fields : Fields FieldFault Record Slots} {key : List Char}
    (other : key ∉ fields.names) (keys : List (List Char)) (slots : Slots) :
    fields.given (key :: keys) slots = fields.given keys slots := by
  induction fields with
  | nil => rfl
  | field name format rest ih =>
      obtain ⟨slot, slots⟩ := slots
      rw [names, List.mem_cons, not_or] at other
      have differs : name.toList ≠ key := Ne.symm other.1
      simp only [given, List.mem_cons, differs, false_or, ih other.2]

theorem read_member_given {fields : Fields FieldFault Record Slots}
    {pairs : List (List Char × List Char)} {slots : Slots} (takes : fields.Takes pairs slots)
    (distinct : fields.names.Nodup) {member : Member} (wanted : member.pair ∈ pairs)
    {keys : List (List Char)} (fresh : member.key ∉ keys) :
    ∃ outcome : Except (Fault FieldFault) Unit,
      (∀ fault, outcome = .error fault → (fields.complete slots).toOption = none) ∧
      ∀ after, fields.readMember? member.key (member.beforeColon.val ++
          ':' :: (member.beforeValue.val ++ (member.value ++ after))) (fields.given keys slots) =
        some (outcome.map fun _ => (fields.given (member.key :: keys) slots, after)) := by
  induction fields generalizing pairs with
  | nil =>
      cases takes
      cases wanted
  | field name format rest ih =>
      obtain ⟨slot, slots⟩ := slots
      obtain ⟨text, others, rfl, ⟨outcome, first, rfl⟩, later⟩ := takes
      obtain ⟨absent, distinct⟩ := List.nodup_cons.mp distinct
      rcases List.mem_cons.mp wanted with same | further
      · obtain ⟨key, value⟩ := Prod.mk.inj same
        have empty : (Fields.field name format rest).given keys (outcome.toOption, slots) =
            (none, rest.given keys slots) := by
          rw [given, if_neg (key ▸ fresh)]
        have filled : (Fields.field name format rest).given (member.key :: keys)
            (outcome.toOption, slots) = (outcome.toOption, rest.given keys slots) := by
          rw [given, key, if_pos List.mem_cons_self, given_other absent]
        refine ⟨outcome.map fun _ => (), ?_, ?_⟩
        · intro fault refused
          cases outcome with
          | error other => rfl
          | ok other => cases refused
        · intro after
          rw [empty, filled, key, value, read_member_first name rest first
            member.beforeColon.property member.beforeValue.property]
          cases outcome <;> rfl
      · have known : member.key ∈ rest.names := by
          rw [← takes_keys later]
          exact List.mem_map_of_mem further
        have other : member.key ≠ name.toList := fun same => absent (same ▸ known)
        obtain ⟨read, fails, reads⟩ := ih later distinct further
        have kept : (Fields.field name format rest).given (member.key :: keys)
            (outcome.toOption, slots) =
            (if name.toList ∈ keys then outcome.toOption else none,
              rest.given (member.key :: keys) slots) := by
          simp only [given, List.mem_cons, Ne.symm other, false_or]
        refine ⟨read, ?_, ?_⟩
        · intro fault refused
          have missing := fails fault refused
          cases outcome with
          | error other => rfl
          | ok value =>
              change (rest.complete slots >>= fun values => _).toOption = none
              cases complete : rest.complete slots with
              | error fault => rfl
              | ok values =>
                  rw [complete] at missing
                  cases missing
        · intro after
          rw [kept, given, read_member_later other, reads after]
          cases read <;> rfl

theorem read_members_cons {fields : Fields FieldFault Record Slots} {member : Member}
    {slots next : Slots} {read : Except (Fault FieldFault) Unit}
    (plain : ∀ character ∈ member.key, Plain character)
    (reads : ∀ after, fields.readMember? member.key (member.beforeColon.val ++
        ':' :: (member.beforeValue.val ++ (member.value ++ after))) slots =
      some (read.map fun _ => (next, after)))
    {blanks : List Char} (blank : AllBlank blanks) (members : List Member) (first : Bool)
    (rest : List Char) (fuel : Nat) :
    fields.readMembers (fuel + 1) first slots
        (blanks ++ (joined first ((member :: members).map Member.text) ++ rest)) =
      read.bind fun _ => fields.readMembers fuel false next
        (member.afterValue.val ++ (joined false (members.map Member.text) ++ rest)) := by
  have found := next_key_member first blank member.beforeKey.property plain
    (member.beforeColon.val ++ ':' :: (member.beforeValue.val ++ (member.value ++
      (member.afterValue.val ++ (joined false (members.map Member.text) ++ rest)))))
  simp only [List.map_cons, joined, Member.text, List.append_assoc, List.cons_append]
  cases read with
  | error fault => exact read_members_refused found (reads _) fuel
  | ok _ => exact read_members_known found (reads _) fuel

theorem key_not_given {pairs done later : List (List Char × List Char)}
    {pair : List Char × List Char} (order : (done ++ pair :: later).Perm pairs)
    (distinct : (pairs.map Prod.fst).Nodup) : pair.1 ∉ done.map Prod.fst := by
  have ahead := (order.map Prod.fst).nodup_iff.mpr distinct
  rw [List.map_append, List.map_cons] at ahead
  intro again
  exact (List.nodup_append.mp ahead).2.2 _ again _ List.mem_cons_self rfl

/-- Members that follow on each other fill the slots of their fields, up to the first that is
refused. -/
theorem read_members_given {fields : Fields FieldFault Record Slots}
    {pairs : List (List Char × List Char)} {slots : Slots} (takes : fields.Takes pairs slots)
    (named : fields.WellNamed) {members : List Member} {done : List (List Char × List Char)}
    (order : (done ++ members.map Member.pair).Perm pairs) (first : Bool) :
    ∃ outcome : Except (Fault FieldFault) Record,
      outcome.toOption = (fields.complete slots).toOption ∧
      ∀ blanks rest fuel, AllBlank blanks → members.length < fuel →
        fields.readMembers fuel first (fields.given (done.map Prod.fst) slots)
            (blanks ++ (joined first (members.map Member.text) ++ '\x7d' :: rest)) =
          outcome.map fun record => (record, rest) := by
  have keys : pairs.map Prod.fst = fields.names := takes_keys takes
  induction members generalizing done first with
  | nil =>
      have all : ∀ name ∈ fields.names, name ∈ done.map Prod.fst := by
        intro name member
        rw [List.map_nil, List.append_nil] at order
        rw [← keys] at member
        exact (order.map Prod.fst).mem_iff.mpr member
      refine ⟨fields.complete slots, rfl, ?_⟩
      intro blanks rest fuel blank enough
      obtain ⟨fuel, rfl⟩ := Nat.exists_eq_succ_of_ne_zero (Nat.ne_zero_of_lt enough)
      rw [given_all all]
      exact read_members_end (next_key_end first blank rest) fuel
  | cons member members ih =>
      have wanted : member.pair ∈ pairs :=
        order.mem_iff.mp (List.mem_append_right done List.mem_cons_self)
      have known : member.key ∈ fields.names := keys ▸ List.mem_map_of_mem wanted
      have fresh : member.key ∉ done.map Prod.fst := key_not_given order (keys ▸ named.distinct)
      obtain ⟨read, fails, reads⟩ := read_member_given takes named.distinct wanted fresh
      have step {blanks : List Char} (blank : AllBlank blanks) :=
        read_members_cons (named.plain _ known) reads blank members first
      cases read with
      | error fault =>
          refine ⟨.error fault, (fails fault rfl).symm, ?_⟩
          intro blanks rest fuel blank enough
          obtain ⟨fuel, rfl⟩ := Nat.exists_eq_succ_of_ne_zero (Nat.ne_zero_of_lt enough)
          exact step blank _ fuel
      | ok _ =>
          have moved : (member.pair :: done ++ members.map Member.pair).Perm pairs :=
            List.perm_middle.symm.trans order
          obtain ⟨outcome, same, later⟩ := ih moved false
          refine ⟨outcome, same, ?_⟩
          intro blanks rest fuel blank enough
          obtain ⟨fuel, rfl⟩ := Nat.exists_eq_succ_of_ne_zero (Nat.ne_zero_of_lt enough)
          refine (step blank _ fuel).trans ?_
          exact later _ rest fuel member.afterValue.property (Nat.lt_of_succ_lt_succ enough)

end Fields

/-- A record is read from an object with a member for each of its fields just if every field takes
its member. -/
theorem Format.record_understands {name : String} {fields : Fields FieldFault Record Slots}
    (named : fields.WellNamed) {wanted : List (String × (List Char → Prop))} {slots : Slots}
    (understands : fields.Understands wanted slots) :
    (Format.record name fields).Understands (IsObject wanted) (fields.complete slots).toOption := by
  rintro text ⟨members, pairs, rfl, order, hold⟩
  have takes := Fields.takes_of_understands understands hold
  have begun : ([] ++ members.map Member.pair).Perm pairs := order
  obtain ⟨outcome, same, reads⟩ := Fields.read_members_given takes named begun true
  refine ⟨outcome, ?_, same⟩
  intro blanks rest blank
  have front (body : List Char) : dropBlanks (blanks ++ '\x7b' :: body) = '\x7b' :: body :=
    drop_blanks_blank blank _
  have shape : objectText members ++ rest =
      '\x7b' :: (Fields.joined true (members.map Member.text) ++ '\x7d' :: rest) := by
    rw [objectText, Fields.intercalate_eq_joined]
    simp
  have enough : members.length ≤ (Fields.joined true (members.map Member.text)).length := by
    rw [← members.length_map (f := Member.text)]
    apply Fields.joined_length
    intro line listed
    obtain ⟨member, _, rfl⟩ := List.mem_map.mp listed
    exact member.text_ne_nil
  rw [shape]
  simp only [Format.record, front]
  rw [← fields.given_none slots]
  apply reads [] rest _ all_blank_nil
  rw [List.length_append]
  omega

/-- In every layout the value is written as a text of the kind. -/
def Format.Writes (format : Format FieldFault Value) (holds : List Char → Prop) (value : Value) :
    Prop :=
  ∀ layout depth, holds (format.write layout depth value)

theorem Format.transport_writes {format : Format FieldFault Value} {holds : List Char → Prop}
    {forth : Value → Other} {back : Other → Value} {value : Other}
    (writes : format.Writes holds (back value)) : (format.transport forth back).Writes holds value :=
  writes

def Fields.Writes : {Record Slots : Type} → Fields FieldFault Record Slots →
    List (String × (List Char → Prop)) → Record → Prop
  | _, _, .nil, wanted, _ => wanted = []
  | _, _, .field name format rest, wanted, (value, values) => ∃ holds others,
      wanted = (name, holds) :: others ∧ format.Writes holds value ∧ rest.Writes others values

/-- The lines of a record are members; blanks after the last line count as part of it. -/
theorem Fields.lines_written {fields : Fields FieldFault Record Slots}
    {wanted : List (String × (List Char → Prop))} {record : Record}
    (writes : fields.Writes wanted record) (some : wanted ≠ []) (layout : Layout) (depth : Nat)
    (after : Blanks) : ∃ members : List Member,
      (∀ first, joined first (fields.lines layout depth record) ++ after.val =
        joined first (members.map Member.text)) ∧
      List.Forall₂ (fun (name, holds) (key, value) => key = name.toList ∧ holds value) wanted
        (members.map Member.pair) := by
  induction fields generalizing wanted with
  | nil => exact absurd writes some
  | field name format rest ih =>
      obtain ⟨value, values⟩ := record
      obtain ⟨holds, others, rfl, first, later⟩ := writes
      let member (after : Blanks) : Member :=
        ⟨⟨layout.lineBreak depth, line_break_blank layout depth⟩, name.toList, ⟨[], all_blank_nil⟩,
          ⟨layout.afterColon, after_colon_blank layout⟩, format.write layout depth value, after⟩
      cases rest with
      | nil =>
          cases later
          refine ⟨[member after], ?_, .cons ⟨rfl, first layout depth⟩ .nil⟩
          intro isFirst
          simp [member, Member.text, lines, members, joined]
      | field next nextFormat further =>
          have more : others ≠ [] := by
            obtain ⟨_, _, rfl, _⟩ := later
            exact List.cons_ne_nil _ _
          obtain ⟨members, spelled, hold⟩ := ih later more
          refine ⟨member ⟨[], all_blank_nil⟩ :: members, ?_, .cons ⟨rfl, first layout depth⟩ hold⟩
          intro isFirst
          rw [List.map_cons, joined, ← spelled false]
          simp [member, Member.text, lines, Fields.members, joined]

theorem Format.record_writes {name : String} {fields : Fields FieldFault Record Slots}
    {wanted : List (String × (List Char → Prop))} {record : Record}
    (writes : fields.Writes wanted record) (some : wanted ≠ []) :
    (Format.record name fields).Writes (IsObject wanted) record := by
  intro layout depth
  obtain ⟨members, spelled, hold⟩ := Fields.lines_written writes some layout (depth + 1)
    ⟨layout.lineBreak depth, line_break_blank layout depth⟩
  refine ⟨members, _, ?_, .refl _, hold⟩
  rw [objectText, Fields.intercalate_eq_joined, ← spelled true, ← Fields.intercalate_eq_joined]
  rfl

theorem Format.decode_of_stands {format : Format FieldFault Value} {holds : List Char → Prop}
    {meant : Option Value} (understands : format.Understands holds meant) {text : String}
    (stands : Stands holds text) : (format.decode text.toList).toOption = meant := by
  obtain ⟨before, after, body, held, spelled⟩ := stands
  obtain ⟨outcome, takes, same⟩ := understands body held
  have blank : dropBlanks after.val = [] := by
    have dropped := drop_blanks_blank after.property []
    rwa [List.append_nil] at dropped
  rw [spelled, Format.decode, takes before.val after.val before.property, ← same]
  cases outcome with
  | error fault => rfl
  | ok value =>
      change (if dropBlanks after.val = [] then Except.ok value else _).toOption = _
      rw [if_pos blank]

end ObliviousTransfer.Json
