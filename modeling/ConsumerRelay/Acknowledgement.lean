import ConsumerRelay.SendPackets

/-!
Acknowledgements of sent packets. `onAcknowledgementPacket_cases` says what an acknowledgement
can do to the store: nothing, delete the head of the queue and the slash record, or turn the
record to its retry state. The error branch only closes channels.
-/

set_option autoImplicit false

namespace ConsumerRelay

section
variable (chanCloseInit : String → String → Except String Unit) {α : Type} (packet : Packet α)
  (s : State)

@[simp] theorem onErrorAcknowledgement_empty :
    onErrorAcknowledgement chanCloseInit packet "" s = ⟨s, [], .ok⟩ := by
  simp [onErrorAcknowledgement]

@[simp] theorem onErrorAcknowledgement_state (err : String) :
    (onErrorAcknowledgement chanCloseInit packet err s).state = s := by
  unfold onErrorAcknowledgement
  repeat' split
  all_goals rfl

@[simp] theorem transmitted_onErrorAcknowledgement (err : String) :
    transmitted (onErrorAcknowledgement chanCloseInit packet err s).effects = [] := by
  unfold onErrorAcknowledgement
  repeat' split
  all_goals simp [transmitted, Effect.transmitted?]

theorem onErrorAcknowledgement_effects (err : String) :
    ∀ e ∈ (onErrorAcknowledgement chanCloseInit packet err s).effects,
      ∃ portID channelID, e = .chanCloseInit portID channelID := by
  unfold onErrorAcknowledgement
  repeat' split
  all_goals simp

end

section
variable (chanCloseInit : String → String → Except String Unit) (packet : Packet ConsumerPacketData)
  (s : State)

/-- A V1 or slash-handled result for a slash packet clears the slash record and deletes the head
of the queue. -/
theorem onAcknowledgementPacket_handled {res : UInt8} (hs : packet.data.type = .slashPacket)
    (hr : res = v1Result ∨ res = slashPacketHandledResult) :
    onAcknowledgementPacket chanCloseInit packet (.result [res]) s =
      ⟨s.clearSlashRecord.deleteHeadOfPendingPackets, [], .ok⟩ := by
  rcases hr with rfl | rfl <;>
    simp [onAcknowledgementPacket, hs, Acknowledgement.getResult, Acknowledgement.getError,
      v1Result, slashPacketHandledResult]

/-- The inversion lemma of `OnAcknowledgementPacket`. -/
theorem onAcknowledgementPacket_cases (ack : Acknowledgement) :
    transmitted (onAcknowledgementPacket chanCloseInit packet ack s).effects = [] ∧
    ((onAcknowledgementPacket chanCloseInit packet ack s).state = s ∨
      (packet.data.type = .slashPacket ∧
        (ack = .result [v1Result] ∨ ack = .result [slashPacketHandledResult]) ∧
        (onAcknowledgementPacket chanCloseInit packet ack s).state =
          s.clearSlashRecord.deleteHeadOfPendingPackets) ∨
      (packet.data.type = .slashPacket ∧ ack = .result [slashPacketBouncedResult] ∧
        (onAcknowledgementPacket chanCloseInit packet ack s).state =
          s.updateSlashRecordOnBounce)) := by
  rcases ack with res | err
  · simp only [onAcknowledgementPacket, Acknowledgement.getResult, Acknowledgement.getError]
    rcases res with _ | ⟨b, _ | ⟨b', rest⟩⟩
    · simp [transmitted]
    · have ht : packet.data.type = .slashPacket ∨ packet.data.type = .vscMaturedPacket := by
        cases packet.data.type <;> simp
      rcases ht with ht | ht
      · simp only [ht, reduceCtorEq, if_false]
        repeat' split
        all_goals simp_all [transmitted]
      · simp [ht, transmitted]
    · simp [transmitted]
  · simp [onAcknowledgementPacket, Acknowledgement.getResult, Acknowledgement.getError]

/-- An acknowledgement that fails leaves the store as it was: the result branches change the
store only on their way to nil. -/
theorem onAcknowledgementPacket_state_of_failed {ack : Acknowledgement}
    (h : (onAcknowledgementPacket chanCloseInit packet ack s).outcome ≠ .ok) :
    (onAcknowledgementPacket chanCloseInit packet ack s).state = s := by
  rcases ack with res | err
  · simp only [onAcknowledgementPacket, Acknowledgement.getResult, Acknowledgement.getError,
      onErrorAcknowledgement_empty] at h ⊢
    repeat' split at h
    all_goals simp_all
  · simp [onAcknowledgementPacket, Acknowledgement.getResult, Acknowledgement.getError]

theorem onAcknowledgementPacket_effects (ack : Acknowledgement) :
    ∀ e ∈ (onAcknowledgementPacket chanCloseInit packet ack s).effects,
      ∃ portID channelID, e = .chanCloseInit portID channelID := by
  unfold onAcknowledgementPacket
  repeat' split
  all_goals first | exact onErrorAcknowledgement_effects _ _ _ _ | simp

/-- An acknowledgement keeps the provider channel, the pending changes, the height map, the
outstanding-downtime flags and the next index, and leaves the queue or its tail. -/
theorem onAcknowledgementPacket_frame (ack : Acknowledgement) :
    (onAcknowledgementPacket chanCloseInit packet ack s).state.providerChannel =
      s.providerChannel ∧
    (onAcknowledgementPacket chanCloseInit packet ack s).state.pendingChanges = s.pendingChanges ∧
    (onAcknowledgementPacket chanCloseInit packet ack s).state.heightValsetUpdateId =
      s.heightValsetUpdateId ∧
    (onAcknowledgementPacket chanCloseInit packet ack s).state.outstandingDowntime =
      s.outstandingDowntime ∧
    (onAcknowledgementPacket chanCloseInit packet ack s).state.pendingPackets.nextIdx =
      s.pendingPackets.nextIdx ∧
    List.Sublist (onAcknowledgementPacket chanCloseInit packet ack s).state.queue s.queue := by
  obtain ⟨-, he | ⟨-, -, he⟩ | ⟨-, -, he⟩⟩ :=
    onAcknowledgementPacket_cases chanCloseInit packet s ack <;>
  simp [he, State.queue, List.tail_sublist]

@[simp] theorem onAcknowledgementPacket_providerChannel (ack : Acknowledgement) :
    (onAcknowledgementPacket chanCloseInit packet ack s).state.providerChannel =
      s.providerChannel := (onAcknowledgementPacket_frame chanCloseInit packet s ack).1

@[simp] theorem onAcknowledgementPacket_pendingChanges (ack : Acknowledgement) :
    (onAcknowledgementPacket chanCloseInit packet ack s).state.pendingChanges =
      s.pendingChanges := (onAcknowledgementPacket_frame chanCloseInit packet s ack).2.1

@[simp] theorem onAcknowledgementPacket_heightValsetUpdateId (ack : Acknowledgement) :
    (onAcknowledgementPacket chanCloseInit packet ack s).state.heightValsetUpdateId =
      s.heightValsetUpdateId := (onAcknowledgementPacket_frame chanCloseInit packet s ack).2.2.1

@[simp] theorem onAcknowledgementPacket_outstandingDowntime (ack : Acknowledgement) :
    (onAcknowledgementPacket chanCloseInit packet ack s).state.outstandingDowntime =
      s.outstandingDowntime := (onAcknowledgementPacket_frame chanCloseInit packet s ack).2.2.2.1

@[simp] theorem onAcknowledgementPacket_nextIdx (ack : Acknowledgement) :
    (onAcknowledgementPacket chanCloseInit packet ack s).state.pendingPackets.nextIdx =
      s.pendingPackets.nextIdx :=
  (onAcknowledgementPacket_frame chanCloseInit packet s ack).2.2.2.2.1

end

end ConsumerRelay
