import Mathlib.Data.Stream.Defs

/-!
The data the consumer's relay code (`x/ccv/consumer/keeper/relay.go`) reads and writes:
validator updates and VSC packet data received from the provider, the slash and
VSC-matured packets queued for the provider, acknowledgements, events and errors.
Byte encodings are out of scope; a payload is kept as the structure it encodes.
-/

set_option autoImplicit false

namespace ConsumerRelay

structure ConsAddress where
  bytes : List UInt8
  deriving DecidableEq, Repr

structure Validator where
  address : List UInt8
  power : Int
  deriving DecidableEq, Repr

def Validator.consAddress (v : Validator) : ConsAddress := ⟨v.address⟩

structure PublicKey where
  bytes : List UInt8
  deriving DecidableEq, Repr

structure ValidatorUpdate where
  pubKey : PublicKey
  power : Int
  deriving DecidableEq, Repr

inductive Infraction where
  | unspecified
  | doubleSign
  | downtime
  deriving DecidableEq, Repr

structure ValidatorSetChangePacketData where
  validatorUpdates : List ValidatorUpdate
  valsetUpdateId : UInt64
  slashAcks : List String
  deriving DecidableEq, Repr

structure SlashPacketData where
  validator : Validator
  valsetUpdateId : UInt64
  infraction : Infraction
  deriving DecidableEq, Repr

def newSlashPacketData (validator : Validator) (valsetUpdateId : UInt64)
    (infraction : Infraction) : SlashPacketData :=
  ⟨validator, valsetUpdateId, infraction⟩

structure VSCMaturedPacketData where
  valsetUpdateId : UInt64
  deriving DecidableEq, Repr

inductive ConsumerPacketDataType where
  | slashPacket
  | vscMaturedPacket
  deriving DecidableEq, Repr

/-- A packet the consumer queues (`ccv.ConsumerPacketData`). The type tag is read off the
payload, so the two cannot disagree. -/
inductive ConsumerPacketData where
  | slashPacket (data : SlashPacketData)
  | vscMaturedPacket (data : VSCMaturedPacketData)
  deriving DecidableEq, Repr

def ConsumerPacketData.type : ConsumerPacketData → ConsumerPacketDataType
  | .slashPacket _ => .slashPacket
  | .vscMaturedPacket _ => .vscMaturedPacket

structure ConsumerPacketDataWithIdx where
  data : ConsumerPacketData
  idx : Nat
  deriving DecidableEq, Repr

namespace ConsumerPacketDataWithIdx

def isSlash (p : ConsumerPacketDataWithIdx) : Bool := p.data.type == .slashPacket

def isDowntimeFor (a : ConsAddress) (p : ConsumerPacketDataWithIdx) : Bool :=
  match p.data with
  | .slashPacket d => d.infraction == .downtime && d.validator.consAddress == a
  | .vscMaturedPacket _ => false

end ConsumerPacketDataWithIdx

structure Packet (α : Type) where
  sourcePort : String
  sourceChannel : String
  destinationPort : String
  destinationChannel : String
  data : α
  deriving DecidableEq, Repr

inductive Acknowledgement where
  | result (res : List UInt8)
  | error (err : String)
  deriving DecidableEq, Repr

def Acknowledgement.getResult : Acknowledgement → Option (List UInt8)
  | .result res => some res
  | .error _ => none

def Acknowledgement.getError : Acknowledgement → String
  | .result _ => ""
  | .error err => err

/-- Modelled from the spec: the result codes `ccv.V1Result`, `ccv.SlashPacketHandledResult` and
`ccv.SlashPacketBouncedResult` are not under src/; the spec names three distinct one-byte codes. -/
def v1Result : UInt8 := 1

@[inherit_doc v1Result]
def slashPacketHandledResult : UInt8 := 2

@[inherit_doc v1Result]
def slashPacketBouncedResult : UInt8 := 3

/-- Modelled from the spec: `ccv.ConsumerPortID`, the port of the consumer end of the channel. -/
def consumerPortID : String := "consumer"

inductive SendResult where
  | ok
  | clientNotActive  -- wraps clienttypes.ErrClientNotActive: the IBC client expired
  | failed (err : String)
  deriving DecidableEq, Repr

inductive Event where
  | channelEstablished (channelID portID : String)
  | consumerSlashRequest (validatorAddress : ConsAddress) (valsetUpdateID : UInt64)
      (infraction : Infraction)
  deriving DecidableEq, Repr

inductive Effect where
  | emitEvent (e : Event)
  | sendIBCPacket (channelID : String) (p : ConsumerPacketDataWithIdx) (result : SendResult)
  | chanCloseInit (portID channelID : String)
  deriving DecidableEq, Repr

def Effect.transmitted? : Effect → Option ConsumerPacketDataWithIdx
  | .sendIBCPacket _ p .ok => some p
  | _ => none

def transmitted (effects : List Effect) : List ConsumerPacketDataWithIdx :=
  effects.filterMap Effect.transmitted?

def Effect.established? : Effect → Option String
  | .emitEvent (.channelEstablished channelID _) => some channelID
  | _ => none

inductive RelayError where
  | invalidPacketData (err : String)
  | unknownChannel (channel expected : String)
  | ackResultLength (len : Nat)
  | unrecognizedAckResult (res : UInt8)
  | chanCloseInitFailed (channel err : String)
  | noProposerChannelId (channel : String)
  | chanCloseInit (err : String)
  deriving DecidableEq, Repr

/-- The texts of the relay's errors, as `relay.go` formats them. -/
def RelayError.message : RelayError → String
  | .invalidPacketData err => "error validating VSCPacket data: " ++ err
  | .unknownChannel channel expected =>
    "VSCPacket received on unknown channel " ++ channel ++ "; expected: " ++ expected
  | .ackResultLength len => "acknowledgement result length must be 1, got " ++ toString len
  | .unrecognizedAckResult res =>
    "unrecognized acknowledgement result: " ++ (Char.ofNat res.toNat).toString
  | .chanCloseInitFailed channel err => "ChanCloseInit(" ++ channel ++ ") failed: " ++ err
  | .noProposerChannelId channel =>
    "recv ErrorAcknowledgement on non-established channel " ++ channel
  | .chanCloseInit err => err

inductive Outcome where
  | ok
  | error (e : RelayError)
  | panic (e : RelayError)
  deriving DecidableEq, Repr

structure Context where
  blockHeight : Nat
  blockTime : Nat
  deriving DecidableEq, Repr

/-- The answers the environment gives at one iteration of the send loop: whether
`PacketSendingPermitted` allows a send, and what `ccv.SendIBCPacket` returns. -/
structure Attempt where
  permitted : Bool
  result : SendResult
  deriving DecidableEq, Repr

/-- The functions of the ccv types package the relay calls that are not under src/:
`ValidatorSetChangePacketData.Validate` and `GetConsAddrFromBech32`. -/
structure Ccv where
  validate : ValidatorSetChangePacketData → Except String Unit
  getConsAddrFromBech32 : String → Except String ConsAddress

/-- The ccv functions of the concrete runs: `Validate` rejects a VSC id of zero, and the one
bech32 string that decodes is "valA", to the address of bytes [1]. -/
def ccvExample : Ccv where
  validate d := if d.valsetUpdateId = 0 then .error "valset update id cannot be equal to zero"
    else .ok ()
  getConsAddrFromBech32 ack := if ack = "valA" then .ok ⟨[1]⟩ else .error "decoding bech32 failed"

def decodedSlashAcks (ccv : Ccv) (acks : List String) : List ConsAddress :=
  acks.filterMap fun ack => (ccv.getConsAddrFromBech32 ack).toOption

end ConsumerRelay
