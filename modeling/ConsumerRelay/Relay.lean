import ConsumerRelay.Store
import ConsumerRelay.Accumulate

/-!
The methods of `relay.go`: `OnRecvVSCPacket`, `QueueSlashPacket`, `SendPackets`,
`OnAcknowledgementPacket` and `IsChannelClosed`. Each takes the store and returns a `Call`:
the store after the call, what the call did outside the store, and how it returned. Logging
is left out. The answers of the transport and of `PacketSendingPermitted` come from the caller.
-/

set_option autoImplicit false

namespace ConsumerRelay

/-- What a keeper method leaves behind: the store after the call, what it did outside the
store, and how it returned. -/
structure Call where
  state : State
  effects : List Effect
  outcome : Outcome

def deleteSlashAcks (ccv : Ccv) : List String → State → State
  | [], s => s
  | ack :: acks, s =>
    match ccv.getConsAddrFromBech32 ack with
    | .error _ => deleteSlashAcks ccv acks s
    | .ok consAddr => deleteSlashAcks ccv acks (s.deleteOutstandingDowntime consAddr)

/-- What `OnRecvVSCPacket` does once the packet is valid and its channel is the provider's:
accumulate the changes, map the next height to the VSC id, clear the acknowledged flags. -/
def applyVSCPacket (ccv : Ccv) (ctx : Context) (newChanges : ValidatorSetChangePacketData)
    (s : State) : State :=
  let currentValUpdates := s.pendingChanges.getD []
  let s := s.setPendingChanges (accumulateChanges currentValUpdates newChanges.validatorUpdates)
  let s := s.setHeightValsetUpdateID (UInt64.ofNat ctx.blockHeight + 1) newChanges.valsetUpdateId
  deleteSlashAcks ccv newChanges.slashAcks s

def onRecvVSCPacket {α : Type} (ccv : Ccv) (ctx : Context) (packet : Packet α)
    (newChanges : ValidatorSetChangePacketData) (s : State) : Call :=
  match ccv.validate newChanges with
  | .error err => ⟨s, [], .error (.invalidPacketData err)⟩
  | .ok () =>
    match s.providerChannel with
    | some providerChannel =>
      if providerChannel = packet.destinationChannel then
        ⟨applyVSCPacket ccv ctx newChanges s, [], .ok⟩
      else ⟨s, [], .panic (.unknownChannel packet.destinationChannel providerChannel)⟩
    | none =>
      ⟨applyVSCPacket ccv ctx newChanges (s.setProviderChannel packet.destinationChannel),
        [.emitEvent (.channelEstablished packet.destinationChannel packet.destinationPort)], .ok⟩

def queueSlashPacket (validator : Validator) (valsetUpdateID : UInt64) (infraction : Infraction)
    (s : State) : Call :=
  let consAddr := validator.consAddress
  let downtime := infraction == .downtime
  if downtime && s.outstandingDowntime consAddr then ⟨s, [], .ok⟩
  else
    let s := if downtime then s.setOutstandingDowntime consAddr else s
    let slashPacket := newSlashPacketData validator valsetUpdateID infraction
    ⟨s.appendPendingPacket (.slashPacket slashPacket),
      [.emitEvent (.consumerSlashRequest consAddr valsetUpdateID infraction)], .ok⟩

section
variable (v : Validator) (valsetUpdateID : UInt64) (s : State)

theorem queueSlashPacket_downtime_of_flag (h : s.outstandingDowntime v.consAddress = true) :
    queueSlashPacket v valsetUpdateID .downtime s = ⟨s, [], .ok⟩ := by
  simp [queueSlashPacket, h]

theorem queueSlashPacket_downtime_of_not_flag (h : s.outstandingDowntime v.consAddress = false) :
    queueSlashPacket v valsetUpdateID .downtime s =
      ⟨(s.setOutstandingDowntime v.consAddress).appendPendingPacket
          (.slashPacket (newSlashPacketData v valsetUpdateID .downtime)),
        [.emitEvent (.consumerSlashRequest v.consAddress valsetUpdateID .downtime)], .ok⟩ := by
  simp [queueSlashPacket, h]

theorem queueSlashPacket_of_not_downtime {infraction : Infraction}
    (h : infraction ≠ .downtime) :
    queueSlashPacket v valsetUpdateID infraction s =
      ⟨s.appendPendingPacket (.slashPacket (newSlashPacketData v valsetUpdateID infraction)),
        [.emitEvent (.consumerSlashRequest v.consAddress valsetUpdateID infraction)], .ok⟩ := by
  simp [queueSlashPacket, h]

theorem queueSlashPacket_cases (infraction : Infraction) :
    queueSlashPacket v valsetUpdateID infraction s = ⟨s, [], .ok⟩ ∨
    queueSlashPacket v valsetUpdateID infraction s =
      ⟨State.appendPendingPacket
          (if infraction = .downtime then s.setOutstandingDowntime v.consAddress else s)
          (.slashPacket (newSlashPacketData v valsetUpdateID infraction)),
        [.emitEvent (.consumerSlashRequest v.consAddress valsetUpdateID infraction)], .ok⟩ := by
  by_cases hd : infraction = .downtime
  · subst hd
    cases hf : s.outstandingDowntime v.consAddress
    · exact .inr (by simp [queueSlashPacket_downtime_of_not_flag v valsetUpdateID s hf])
    · exact .inl (queueSlashPacket_downtime_of_flag v valsetUpdateID s hf)
  · exact .inr (by simp [queueSlashPacket_of_not_downtime v valsetUpdateID s hd, hd])

end

/-- What the send loop of `SendPackets` leaves: the `SendIBCPacket` calls, `idxsForDeletion`,
and whether it stopped after sending a slash packet, which calls `UpdateSlashRecordOnSend`. -/
structure SendLoop where
  effects : List Effect
  idxsForDeletion : List Nat
  slashSent : Bool

/-- The loop `for _, p := range pending` of `SendPackets`; iteration `i` reads the answers `i`. -/
def sendLoop (channelID : String) : Stream' Attempt → List ConsumerPacketDataWithIdx → SendLoop
  | _, [] => ⟨[], [], false⟩
  | answers, p :: pending =>
    if answers.head.permitted then
      let sent := Effect.sendIBCPacket channelID p answers.head.result
      match answers.head.result with
      | .ok =>
        if p.data.type = .slashPacket then ⟨[sent], [], true⟩
        else
          let rest := sendLoop channelID answers.tail pending
          ⟨sent :: rest.effects, p.idx :: rest.idxsForDeletion, rest.slashSent⟩
      | _ => ⟨[sent], [], false⟩
    else ⟨[], [], false⟩

def sendPackets (ctx : Context) (answers : Stream' Attempt) (s : State) : Call :=
  match s.providerChannel with
  | none => ⟨s, [], .ok⟩
  | some channelID =>
    let loop := sendLoop channelID answers s.queue
    let s := if loop.slashSent then s.updateSlashRecordOnSend ctx else s
    ⟨s.deletePendingDataPackets loop.idxsForDeletion, loop.effects, .ok⟩

def onErrorAcknowledgement {α : Type} (chanCloseInit : String → String → Except String Unit)
    (packet : Packet α) (err : String) (s : State) : Call :=
  if err = "" then ⟨s, [], .ok⟩
  else
    let closed := [Effect.chanCloseInit packet.sourcePort packet.sourceChannel]
    match chanCloseInit packet.sourcePort packet.sourceChannel with
    | .error e => ⟨s, closed, .error (.chanCloseInitFailed packet.sourceChannel e)⟩
    | .ok () =>
      match s.providerChannel with
      | none => ⟨s, closed, .error (.noProposerChannelId packet.sourceChannel)⟩
      | some channelID =>
        if channelID = packet.sourceChannel then ⟨s, closed, .ok⟩
        else
          ⟨s, closed ++ [.chanCloseInit consumerPortID channelID],
            match chanCloseInit consumerPortID channelID with
            | .error e => .error (.chanCloseInit e)
            | .ok () => .ok⟩

def onAcknowledgementPacket (chanCloseInit : String → String → Except String Unit)
    (packet : Packet ConsumerPacketData) (ack : Acknowledgement) (s : State) : Call :=
  match ack.getResult with
  | none => onErrorAcknowledgement chanCloseInit packet ack.getError s
  | some [res] =>
    if packet.data.type = .vscMaturedPacket then ⟨s, [], .ok⟩
    else if res = v1Result then
      onErrorAcknowledgement chanCloseInit packet ack.getError
        s.clearSlashRecord.deleteHeadOfPendingPackets
    else if res = slashPacketHandledResult then
      onErrorAcknowledgement chanCloseInit packet ack.getError
        s.clearSlashRecord.deleteHeadOfPendingPackets
    else if res = slashPacketBouncedResult then
      onErrorAcknowledgement chanCloseInit packet ack.getError s.updateSlashRecordOnBounce
    else ⟨s, [], .error (.unrecognizedAckResult res)⟩
  | some res => ⟨s, [], .error (.ackResultLength res.length)⟩

inductive ChannelState where
  | uninitialized
  | init
  | tryOpen
  | open
  | closed
  | flushing
  | flushComplete
  deriving DecidableEq, Repr

/-- Whether the channel is closed; a channel the channel keeper does not know counts as closed. -/
def isChannelClosed (getChannel : String → String → Option ChannelState) (channelID : String) :
    Bool :=
  match getChannel consumerPortID channelID with
  | none => true
  | some state => state == .closed

end ConsumerRelay
