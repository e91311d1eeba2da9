import ConsumerRelay.Relay

/-!
Receipt of VSC packets. `onRecvVSCPacket_cases` lists the four ways the method can end;
`deleteSlashAcks_eq` gives the slash-ack loop in closed form. From them: a rejected packet
changes nothing, an accepted one returns nil whatever its slash acks are, and a run of
accepted packets accumulates last-write-wins updates.
-/

set_option autoImplicit false

namespace ConsumerRelay

section
variable (ccv : Ccv)

/-- The slash-ack loop in closed form: it clears the flags of exactly the acks that decode. -/
theorem deleteSlashAcks_eq (acks : List String) (s : State) :
    deleteSlashAcks ccv acks s =
      { s with outstandingDowntime := fun a =>
          s.outstandingDowntime a && !(decodedSlashAcks ccv acks).contains a } := by
  induction acks generalizing s with
  | nil => simp [deleteSlashAcks, decodedSlashAcks]
  | cons ack acks ih =>
    cases h : ccv.getConsAddrFromBech32 ack with
    | error e => simp [deleteSlashAcks, decodedSlashAcks, h, ih, Except.toOption]
    | ok a =>
      simp only [deleteSlashAcks, h, ih, State.deleteOutstandingDowntime, State.mk.injEq,
        true_and, and_true]
      funext b
      by_cases hb : b = a
      · subst hb; simp [decodedSlashAcks, h, Except.toOption]
      · simp [decodedSlashAcks, h, hb, Except.toOption, Function.update_noteq]

theorem deleteSlashAcks_skip (pre post : List String) (bad : String)
    (h : (ccv.getConsAddrFromBech32 bad).toOption = none) :
    deleteSlashAcks ccv (pre ++ bad :: post) = deleteSlashAcks ccv (pre ++ post) := by
  funext s
  simp [deleteSlashAcks_eq, decodedSlashAcks, List.filterMap_append, h]

@[simp] theorem applyVSCPacket_providerChannel (ctx : Context) (d : ValidatorSetChangePacketData)
    (s : State) : (applyVSCPacket ccv ctx d s).providerChannel = s.providerChannel := by
  simp [applyVSCPacket, deleteSlashAcks_eq]

@[simp] theorem applyVSCPacket_pendingPackets (ctx : Context) (d : ValidatorSetChangePacketData)
    (s : State) : (applyVSCPacket ccv ctx d s).pendingPackets = s.pendingPackets := by
  simp [applyVSCPacket, deleteSlashAcks_eq]

@[simp] theorem applyVSCPacket_slashRecord (ctx : Context) (d : ValidatorSetChangePacketData)
    (s : State) : (applyVSCPacket ccv ctx d s).slashRecord = s.slashRecord := by
  simp [applyVSCPacket, deleteSlashAcks_eq]

@[simp] theorem applyVSCPacket_pendingChanges (ctx : Context) (d : ValidatorSetChangePacketData)
    (s : State) : (applyVSCPacket ccv ctx d s).pendingChanges =
      some (accumulateChanges (s.pendingChanges.getD []) d.validatorUpdates) := by
  simp [applyVSCPacket, deleteSlashAcks_eq]

@[simp] theorem applyVSCPacket_outstandingDowntime (ctx : Context)
    (d : ValidatorSetChangePacketData) (s : State) (a : ConsAddress) :
    (applyVSCPacket ccv ctx d s).outstandingDowntime a =
      (s.outstandingDowntime a && !(decodedSlashAcks ccv d.slashAcks).contains a) := by
  simp [applyVSCPacket, deleteSlashAcks_eq]

@[simp] theorem applyVSCPacket_heightValsetUpdateId (ctx : Context)
    (d : ValidatorSetChangePacketData) (s : State) :
    (applyVSCPacket ccv ctx d s).heightValsetUpdateId = Function.update s.heightValsetUpdateId
      (UInt64.ofNat ctx.blockHeight + 1) (some d.valsetUpdateId) := by
  simp [applyVSCPacket, deleteSlashAcks_eq]

/-- The inversion lemma of `OnRecvVSCPacket`: the packet is invalid, or arrives on another
channel than the provider's, or is applied on the provider channel, or binds the channel. -/
theorem onRecvVSCPacket_cases {α : Type} (ctx : Context) (packet : Packet α)
    (d : ValidatorSetChangePacketData) (s : State) :
    (∃ err, ccv.validate d = .error err ∧
      onRecvVSCPacket ccv ctx packet d s = ⟨s, [], .error (.invalidPacketData err)⟩) ∨
    (ccv.validate d = .ok () ∧ ∃ c, s.providerChannel = some c ∧ c ≠ packet.destinationChannel ∧
      onRecvVSCPacket ccv ctx packet d s =
        ⟨s, [], .panic (.unknownChannel packet.destinationChannel c)⟩) ∨
    (ccv.validate d = .ok () ∧ s.providerChannel = some packet.destinationChannel ∧
      onRecvVSCPacket ccv ctx packet d s = ⟨applyVSCPacket ccv ctx d s, [], .ok⟩) ∨
    (ccv.validate d = .ok () ∧ s.providerChannel = none ∧
      onRecvVSCPacket ccv ctx packet d s =
        ⟨applyVSCPacket ccv ctx d (s.setProviderChannel packet.destinationChannel),
          [.emitEvent (.channelEstablished packet.destinationChannel packet.destinationPort)],
          .ok⟩) := by
  unfold onRecvVSCPacket
  rcases hv : ccv.validate d with err | ⟨⟩
  · exact .inl ⟨err, rfl, rfl⟩
  · rcases hc : s.providerChannel with _ | c
    · exact .inr (.inr (.inr ⟨rfl, rfl, rfl⟩))
    · by_cases he : c = packet.destinationChannel
      · subst he; exact .inr (.inr (.inl ⟨rfl, rfl, by simp⟩))
      · exact .inr (.inl ⟨rfl, c, rfl, he, by simp [he]⟩)

theorem onRecvVSCPacket_state_of_failed {α : Type} {ctx : Context} {packet : Packet α}
    {d : ValidatorSetChangePacketData} {s : State}
    (h : (onRecvVSCPacket ccv ctx packet d s).outcome ≠ .ok) :
    (onRecvVSCPacket ccv ctx packet d s).state = s := by
  rcases onRecvVSCPacket_cases ccv ctx packet d s with
    ⟨_, _, he⟩ | ⟨_, _, _, _, he⟩ | ⟨_, _, he⟩ | ⟨_, _, he⟩ <;> simp_all

/-- A VSC packet that fails validation is rejected with an error and changes nothing. A valid
packet on the provider channel, or on any channel before one is bound, returns nil whatever its
slash acks hold; it maps the next height to its VSC id and clears the outstanding downtime of
exactly the acks that decode, a malformed ack being skipped wherever it stands. -/
theorem onRecvVSCPacket_rejects_or_applies {α : Type} (ctx : Context) (packet : Packet α)
    (d : ValidatorSetChangePacketData) (s : State) :
    (∀ err, ccv.validate d = .error err →
      onRecvVSCPacket ccv ctx packet d s = ⟨s, [], .error (.invalidPacketData err)⟩) ∧
    (ccv.validate d = .ok () →
      (s.providerChannel = none ∨ s.providerChannel = some packet.destinationChannel) →
      (onRecvVSCPacket ccv ctx packet d s).outcome = .ok ∧
      (onRecvVSCPacket ccv ctx packet d s).state.heightValsetUpdateId
        (UInt64.ofNat ctx.blockHeight + 1) = some d.valsetUpdateId ∧
      ∀ a, (onRecvVSCPacket ccv ctx packet d s).state.outstandingDowntime a =
        (s.outstandingDowntime a && !(decodedSlashAcks ccv d.slashAcks).contains a)) ∧
    ∀ pre bad post, (ccv.getConsAddrFromBech32 bad).toOption = none →
      deleteSlashAcks ccv (pre ++ bad :: post) = deleteSlashAcks ccv (pre ++ post) := by
  refine ⟨fun err h => by simp [onRecvVSCPacket, h], fun hv hc => ?_,
    fun pre bad post => deleteSlashAcks_skip ccv pre post bad⟩
  rcases onRecvVSCPacket_cases ccv ctx packet d s with
    ⟨err, h, -⟩ | ⟨-, c, h, hne, -⟩ | ⟨-, -, he⟩ | ⟨-, -, he⟩
  · simp [hv] at h
  · rcases hc with hc | hc <;> simp_all
  · simp [he]
  · simp [he]

def onRecvVSCPackets : State → List (Context × Packet ValidatorSetChangePacketData) → Option State
  | s, [] => some s
  | s, (ctx, packet) :: rest =>
    let c := onRecvVSCPacket ccv ctx packet packet.data s
    if c.outcome = .ok then onRecvVSCPackets c.state rest else none

theorem pendingChanges_of_ok {α : Type} {ctx : Context} {packet : Packet α}
    {d : ValidatorSetChangePacketData} {s : State}
    (h : (onRecvVSCPacket ccv ctx packet d s).outcome = .ok) :
    (onRecvVSCPacket ccv ctx packet d s).state.pendingChanges =
      some (accumulateChanges (s.pendingChanges.getD []) d.validatorUpdates) := by
  rcases onRecvVSCPacket_cases ccv ctx packet d s with
    ⟨_, _, he⟩ | ⟨_, _, _, _, he⟩ | ⟨_, _, he⟩ | ⟨_, _, he⟩ <;> simp_all

theorem onRecvVSCPackets_pendingChanges (s s' : State)
    (calls : List (Context × Packet ValidatorSetChangePacketData))
    (h : onRecvVSCPackets ccv s calls = some s') :
    s'.pendingChanges.getD [] =
      accumulateChanges (s.pendingChanges.getD []) (calls.flatMap (·.2.data.validatorUpdates)) := by
  induction calls generalizing s with
  | nil => simp_all [onRecvVSCPackets, accumulateChanges]
  | cons call rest ih =>
    obtain ⟨ctx, packet⟩ := call
    simp only [onRecvVSCPackets] at h
    split at h
    · rename_i hok
      rw [ih _ h, pendingChanges_of_ok ccv hok, Option.getD_some, List.flatMap_cons,
        accumulateChanges, accumulateChanges, accumulateChanges, List.foldl_append]
    · cases h

/-- From a state with no pending changes, a run of accepted VSC packets leaves pending changes
that hold each validator key of the received batches exactly once, with the power of its last
update in receipt order, and no other key. -/
theorem onRecvVSCPackets_last_write_wins (s s' : State)
    (calls : List (Context × Packet ValidatorSetChangePacketData))
    (h0 : s.pendingChanges.getD [] = []) (h : onRecvVSCPackets ccv s calls = some s') :
    (∀ k, ((s'.pendingChanges.getD []).map (·.pubKey)).count k =
      if k ∈ (calls.flatMap (·.2.data.validatorUpdates)).map (·.pubKey) then 1 else 0) ∧
    ∀ u ∈ s'.pendingChanges.getD [],
      lastPower u.pubKey (calls.flatMap (·.2.data.validatorUpdates)) = some u.power := by
  rw [onRecvVSCPackets_pendingChanges ccv s s' calls h, h0]
  obtain ⟨hn, hk, hp⟩ := accumulateChanges_spec [] (calls.flatMap (·.2.data.validatorUpdates))
    List.nodup_nil
  simp only [List.nil_append] at hk hp
  refine ⟨fun k => ?_, fun u hu => hp u.pubKey ▸ lastPower_of_mem hn hu⟩
  split
  · exact List.count_eq_one_of_mem hn ((hk k).2 ‹_›)
  · exact List.count_eq_zero_of_not_mem (mt (hk k).1 ‹_›)

end

/-- Scenario A of the spec: the updates (V1, 10) and (V2, 20), then (V1, 15). -/
def scenarioA : List (Context × Packet ValidatorSetChangePacketData) :=
  [(⟨1, 0⟩, ⟨"provider", "channel-0", consumerPortID, "channel-0",
      ⟨[⟨⟨[1]⟩, 10⟩, ⟨⟨[2]⟩, 20⟩], 1, []⟩⟩),
   (⟨2, 5⟩, ⟨"provider", "channel-0", consumerPortID, "channel-0", ⟨[⟨⟨[1]⟩, 15⟩], 2, []⟩⟩)]

theorem scenarioA_last_write_wins :
    let s' := (onRecvVSCPackets ccvExample State.empty scenarioA).getD State.empty
    (∀ k, ((s'.pendingChanges.getD []).map (·.pubKey)).count k =
        if k ∈ (scenarioA.flatMap (·.2.data.validatorUpdates)).map (·.pubKey) then 1 else 0) ∧
      ∀ u ∈ s'.pendingChanges.getD [],
        lastPower u.pubKey (scenarioA.flatMap (·.2.data.validatorUpdates)) = some u.power :=
  onRecvVSCPackets_last_write_wins ccvExample State.empty _ scenarioA rfl rfl

example : (onRecvVSCPackets ccvExample State.empty scenarioA).bind (·.pendingChanges) =
    some [⟨⟨[1]⟩, 15⟩, ⟨⟨[2]⟩, 20⟩] := by
  decide

end ConsumerRelay
