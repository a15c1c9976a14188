import ObliviousTransfer.Proofs.Setup.Acceptance
import ObliviousTransfer.Proofs.Setup.Persistence

/-!
What comes of a setup that is saved and loaded. The identity is the only point
that is written and not read, so a setup comes back unless it holds the
identity. A setup that was loaded from any text holds no identity: writing it
gives a text that stands for it and stays as it is when loaded and written anew.
-/

namespace ObliviousTransfer

namespace Json

variable {Value : Type} {format : Format FieldFault Value}

/-- The text that is written for what a text says. -/
def normalise (format : Format FieldFault Value) (layout : Layout) (text : String) :
    Except Failure String :=
  (load format text).map (save format layout)

def Format.Stable (format : Format FieldFault Value) : Prop :=
  ∀ value, format.Yields value → format.Restores value

theorem normalise_stable (stable : format.Stable) {text : String} {value : Value}
    (loaded : load format text = .ok value) (layout : Layout) :
    ∃ normal, normalise format layout text = .ok normal ∧ load format normal = .ok value ∧
      normalise format layout normal = .ok normal := by
  have again : load format (save format layout value) = .ok value :=
    load_save (stable value (yields_of_load loaded)) layout
  refine ⟨save format layout value, ?_, again, ?_⟩
  · rw [normalise, loaded]
    rfl
  · rw [normalise, again]
    rfl

end Json

namespace SenderSetup

theorem format_reads_back (setup : SenderSetup) : format.ReadsBack setup
    (if setup.publicKey = .identity ∨ setup.secretKey = .identity then
      .error (.field (.encoding .pointForm)) else .ok ()) := by
  apply Json.Format.transport_reads_back
  · apply Json.Format.record_reads_back ⟨by decide, by simp [Json.Fields.names, Json.Plain]⟩
    refine ⟨.ok (), _, Json.scalar_restores setup.secret,
      ⟨_, _, Json.point_reads_back setup.publicKey,
        ⟨_, .ok (), Json.point_reads_back setup.secretKey, rfl, rfl⟩, rfl⟩, ?_⟩
    by_cases publicKey : setup.publicKey = .identity
    · simp [publicKey, Except.bind]
    · by_cases secretKey : setup.secretKey = .identity <;> simp [publicKey, secretKey, Except.bind]
  · rfl

theorem format_stable : format.Stable := by
  intro setup yields
  obtain ⟨⟨secret, publicKey, secretKey, _⟩, fields, rfl⟩ := Json.Format.transport_yields yields
  obtain ⟨_, first, second, _⟩ := Json.Format.record_yields fields
  exact format_restores (Json.point_yields first) (Json.point_yields second)

end SenderSetup

namespace ReceiverSetup

theorem format_reads_back (setup : ReceiverSetup) : format.ReadsBack setup
    (if setup.publicKey = .identity then .error (.field (.encoding .pointForm)) else .ok ()) := by
  apply Json.Format.transport_reads_back
  · apply Json.Format.record_reads_back ⟨by decide, by simp [Json.Fields.names, Json.Plain]⟩
    refine ⟨_, .ok (), Json.point_reads_back setup.publicKey, rfl, ?_⟩
    by_cases publicKey : setup.publicKey = .identity <;> simp [publicKey, Except.bind]
  · rfl

theorem format_stable : format.Stable := by
  intro setup yields
  obtain ⟨⟨publicKey, _⟩, fields, rfl⟩ := Json.Format.transport_yields yields
  obtain ⟨first, _⟩ := Json.Format.record_yields fields
  exact format_restores (Json.point_yields first)

end ReceiverSetup

theorem SenderSetup.load_save_eq (setup : SenderSetup) (layout : Json.Layout) :
    Json.load SenderSetup.format (Json.save SenderSetup.format layout setup) =
      if setup.publicKey = .identity ∨ setup.secretKey = .identity then
        .error (.unreadable (.field (.encoding .pointForm))) else .ok setup := by
  rw [Json.load_save_eq setup.format_reads_back]
  split_ifs <;> rfl

theorem ReceiverSetup.load_save_eq (setup : ReceiverSetup) (layout : Json.Layout) :
    Json.load ReceiverSetup.format (Json.save ReceiverSetup.format layout setup) =
      if setup.publicKey = .identity then
        .error (.unreadable (.field (.encoding .pointForm))) else .ok setup := by
  rw [Json.load_save_eq setup.format_reads_back]
  split_ifs <;> rfl

theorem SenderSetup.Consistent.holds_identity_iff {setup : SenderSetup}
    (consistent : setup.Consistent) :
    setup.publicKey = .identity ∨ setup.secretKey = .identity ↔ setup.secret = 0 := by
  have publicKey : setup.publicKey = .identity ↔ setup.secret = 0 := by
    rw [consistent.publicKey, Point.generator_smul_eq_identity_iff]
  constructor
  · rintro (identity | identity)
    · exact publicKey.mp identity
    · by_contra nonzero
      rw [consistent.secretKey] at identity
      have zero : setup.secret • setup.publicKey = setup.secret • (.identity : Point) := identity
      exact nonzero (publicKey.mp ((Point.scalar_smul_inj nonzero).mp zero))
  · exact fun zero => Or.inl (publicKey.mpr zero)

structure SavedSetupLaw [KeyedHash] (sender : SenderSetup) (receiver : ReceiverSetup) : Prop where
  sender_restored : ∀ layout,
    Json.load SenderSetup.format (Json.save SenderSetup.format layout sender) =
      if sender.publicKey = .identity ∨ sender.secretKey = .identity then
        .error (.unreadable (.field (.encoding .pointForm))) else .ok sender
  created_restored : ∀ context tape message,
    (Setup.create context tape).result = .ok (message, sender) → ∀ layout,
      (Json.load SenderSetup.format (Json.save SenderSetup.format layout sender) = .ok sender ↔
        tape.scalar.1 ≠ 0)
  accepted_restored : ∀ context message,
    (Setup.accept context message).value = .ok receiver → ∀ layout,
      Json.load ReceiverSetup.format (Json.save ReceiverSetup.format layout receiver) = .ok receiver
  sender_normalised : ∀ text layout, Json.load SenderSetup.format text = .ok sender →
    ∃ normal, Json.normalise SenderSetup.format layout text = .ok normal ∧
      Json.load SenderSetup.format normal = .ok sender ∧
      Json.normalise SenderSetup.format layout normal = .ok normal
  receiver_normalised : ∀ text layout, Json.load ReceiverSetup.format text = .ok receiver →
    ∃ normal, Json.normalise ReceiverSetup.format layout text = .ok normal ∧
      Json.load ReceiverSetup.format normal = .ok receiver ∧
      Json.normalise ReceiverSetup.format layout normal = .ok normal
  same_executions : ∀ senderLayout receiverLayout restoredSender restoredReceiver,
    Json.load SenderSetup.format (Json.save SenderSetup.format senderLayout sender) =
      .ok restoredSender →
    Json.load ReceiverSetup.format (Json.save ReceiverSetup.format receiverLayout receiver) =
      .ok restoredReceiver →
    ∀ nonce choice tape, execute nonce restoredSender restoredReceiver choice tape =
      execute nonce sender receiver choice tape

/-- A setup without the identity comes back as it was, and others are not loaded; any text that is
loaded has a normal form, which stands for the same setup. -/
theorem saved_setups_restored [KeyedHash] (sender : SenderSetup) (receiver : ReceiverSetup) :
    SavedSetupLaw sender receiver := by
  constructor
  case sender_restored => exact sender.load_save_eq
  case created_restored =>
    intro context tape message created layout
    have secret : sender.secret = tape.scalar.1 := by
      cases created
      rfl
    have identity := (Setup.created_consistent created).holds_identity_iff
    rw [sender.load_save_eq, ← secret, ne_eq, ← identity]
    split_ifs with holds
    · exact iff_of_false (fun same => nomatch same) (not_not_intro holds)
    · exact iff_of_true rfl holds
  case accepted_restored =>
    intro context message accepted layout
    obtain ⟨publicKey⟩ := receiver
    have decoded := (Setup.accept_ok_iff.mp accepted).key
    rw [ReceiverSetup.load_save_eq, if_neg (decode_point_ne_identity decoded)]
  case sender_normalised =>
    intro text layout loaded
    exact Json.normalise_stable SenderSetup.format_stable loaded layout
  case receiver_normalised =>
    intro text layout loaded
    exact Json.normalise_stable ReceiverSetup.format_stable loaded layout
  case same_executions =>
    intro senderLayout receiverLayout restoredSender restoredReceiver senderLoaded receiverLoaded
      nonce choice tape
    rw [sender.load_save_eq] at senderLoaded
    rw [receiver.load_save_eq] at receiverLoaded
    split_ifs at senderLoaded
    split_ifs at receiverLoaded
    cases senderLoaded
    cases receiverLoaded
    rfl

end ObliviousTransfer
