import Mathlib.Logic.Relation
import ConsumerRelay.SendPackets
import ConsumerRelay.Receive

/-!
The consumer as a system that takes steps in any order: slash packets and VSC-matured packets
are queued, VSC packets arrive, the queue is flushed, and acknowledgements of sent packets come
back, each sent packet acknowledged at most once. The system state adds to the keeper store the
packets in flight and a record of what happened, from which the delivery properties are read.
-/

set_option autoImplicit false

namespace ConsumerRelay

inductive Obs where
  | effect (e : Effect)
  | appended (p : ConsumerPacketDataWithIdx)
  | received (newChanges : ValidatorSetChangePacketData)
  deriving DecidableEq, Repr

def Obs.appended? : Obs → Option ConsumerPacketDataWithIdx
  | .appended p => some p
  | _ => none

def Obs.transmitted? : Obs → Option ConsumerPacketDataWithIdx
  | .effect e => e.transmitted?
  | _ => none

/-- The consumer: its store, the packets sent and not yet acknowledged, and the record. -/
structure Sys where
  keeper : State
  inFlight : List ConsumerPacketDataWithIdx
  log : List Obs

namespace Sys

def init : Sys := ⟨State.empty, [], []⟩

def appended (s : Sys) : List ConsumerPacketDataWithIdx := s.log.filterMap Obs.appended?

def transmitted (s : Sys) : List ConsumerPacketDataWithIdx := s.log.filterMap Obs.transmitted?

def newEntries (before after : PendingPackets) : List ConsumerPacketDataWithIdx :=
  after.entries.filter fun p => before.nextIdx ≤ p.idx

/-- The system after a keeper call: its store, the packets it sent, and its record. -/
def commit (s : Sys) (c : Call) : Sys where
  keeper := c.state
  inFlight := s.inFlight ++ ConsumerRelay.transmitted c.effects
  log := s.log ++ (newEntries s.keeper.pendingPackets c.state.pendingPackets).map .appended ++
    c.effects.map .effect

def noteReceived (s : Sys) (d : ValidatorSetChangePacketData) : Sys :=
  { s with log := s.log ++ [.received d] }

end Sys

/-- The steps of a run. `appendVSCMatured` is what the maturity logic of the keeper does. -/
inductive Action where
  | queueSlashPacket (validator : Validator) (valsetUpdateID : UInt64) (infraction : Infraction)
  | appendVSCMatured (valsetUpdateID : UInt64)
  | onRecvVSCPacket (packet : Packet ValidatorSetChangePacketData)
  | sendPackets (answers : Stream' Attempt)
  | onAcknowledgementPacket (sent : ConsumerPacketDataWithIdx) (packet : Packet ConsumerPacketData)
      (ack : Acknowledgement) (chanCloseInit : String → String → Except String Unit)

/-- One step of the consumer in the block context `ctx`. -/
def step (ccv : Ccv) (ctx : Context) : Action → Sys → Sys
  | .queueSlashPacket validator valsetUpdateID infraction, s =>
    s.commit (queueSlashPacket validator valsetUpdateID infraction s.keeper)
  | .appendVSCMatured valsetUpdateID, s =>
    s.commit ⟨s.keeper.appendPendingPacket (.vscMaturedPacket ⟨valsetUpdateID⟩), [], .ok⟩
  | .onRecvVSCPacket packet, s =>
    let c := onRecvVSCPacket ccv ctx packet packet.data s.keeper
    if c.outcome = .ok then (s.commit c).noteReceived packet.data else s.commit c
  | .sendPackets answers, s => s.commit (sendPackets ctx answers s.keeper)
  | .onAcknowledgementPacket sent packet ack chanCloseInit, s =>
    { s with inFlight := s.inFlight.erase sent }.commit
      (onAcknowledgementPacket chanCloseInit packet ack s.keeper)

/-- The environment's side of a step: `PacketSendingPermitted` refuses the first send while the
slash record waits on a reply, and an acknowledgement is for a packet in flight. In a bounce's
backoff it still lets a flush be permitted, which the code refuses: results over these runs hold
a fortiori of the throttled runs of `Throttle`. -/
def Action.allowed : Action → Sys → Bool
  | .sendPackets answers, s => !s.keeper.waitingOnReply || !answers.head.permitted
  | .onAcknowledgementPacket sent packet _ _, s => sent ∈ s.inFlight && packet.data == sent.data
  | _, _ => true

def Next (ccv : Ccv) (s s' : Sys) : Prop := ∃ ctx a, a.allowed s ∧ step ccv ctx a s = s'

/-- The states of every run from the empty consumer. -/
def Reachable (ccv : Ccv) (s : Sys) : Prop := Relation.ReflTransGen (Next ccv) Sys.init s

def run (ccv : Ccv) : Sys → List (Context × Action) → Option Sys
  | s, [] => some s
  | s, (ctx, a) :: rest => if a.allowed s then run ccv (step ccv ctx a s) rest else none

theorem Reachable.of_run {ccv : Ccv} {s s' : Sys} (l : List (Context × Action))
    (hs : Reachable ccv s) (h : run ccv s l = some s') : Reachable ccv s' := by
  induction l generalizing s with
  | nil => cases h; exact hs
  | cons x rest ih =>
    obtain ⟨ctx, a⟩ := x
    simp only [run] at h
    split at h
    · exact ih (hs.tail ⟨ctx, a, ‹_›, rfl⟩) h
    · cases h

theorem Reachable.induction {ccv : Ccv} (P : Sys → Prop) (h₀ : P Sys.init)
    (h₁ : ∀ s ctx a, Reachable ccv s → P s → a.allowed s → P (step ccv ctx a s)) {s : Sys}
    (hs : Reachable ccv s) : P s := by
  induction hs with
  | refl => exact h₀
  | tail hr hn ih =>
    obtain ⟨ctx, a, ha, rfl⟩ := hn
    exact h₁ _ ctx a hr ih ha

@[simp] theorem step_onRecvVSCPacket_keeper (ccv : Ccv) (ctx : Context)
    (packet : Packet ValidatorSetChangePacketData) (s : Sys) :
    (step ccv ctx (.onRecvVSCPacket packet) s).keeper =
      (onRecvVSCPacket ccv ctx packet packet.data s.keeper).state := by
  simp only [step]; split <;> rfl

namespace Sys

section
variable {s : Sys} {c : Call}

@[simp] theorem commit_keeper : (s.commit c).keeper = c.state := rfl
@[simp] theorem commit_inFlight :
    (s.commit c).inFlight = s.inFlight ++ ConsumerRelay.transmitted c.effects := rfl

theorem newEntries_of_nextIdx {before after : PendingPackets}
    (h : after.nextIdx = before.nextIdx) : newEntries before after = [] :=
  List.filter_eq_nil_iff.2 fun p hp => by simpa [h] using after.lt_nextIdx p hp

theorem newEntries_append (q : PendingPackets) (d : ConsumerPacketData) :
    newEntries q (q.append d) = [⟨d, q.nextIdx⟩] := by
  rw [newEntries, PendingPackets.append_entries, List.filter_append,
    List.filter_eq_nil_iff.2 fun p hp => by simpa using q.lt_nextIdx p hp]
  simp

@[simp] theorem appended_commit :
    (s.commit c).appended =
      s.appended ++ newEntries s.keeper.pendingPackets c.state.pendingPackets := by
  simp [commit, appended, List.filterMap_append, Obs.appended?, Function.comp_def]

@[simp] theorem transmitted_commit :
    (s.commit c).transmitted = s.transmitted ++ ConsumerRelay.transmitted c.effects := by
  simp [commit, transmitted, ConsumerRelay.transmitted, List.filterMap_append, Obs.transmitted?,
    Function.comp_def]

@[simp] theorem appended_setInFlight (inFlight : List ConsumerPacketDataWithIdx) :
    ({ s with inFlight := inFlight } : Sys).appended = s.appended := rfl
@[simp] theorem transmitted_setInFlight (inFlight : List ConsumerPacketDataWithIdx) :
    ({ s with inFlight := inFlight } : Sys).transmitted = s.transmitted := rfl

@[simp] theorem noteReceived_keeper (d : ValidatorSetChangePacketData) :
    (s.noteReceived d).keeper = s.keeper := rfl
@[simp] theorem noteReceived_inFlight (d : ValidatorSetChangePacketData) :
    (s.noteReceived d).inFlight = s.inFlight := rfl
@[simp] theorem appended_noteReceived (d : ValidatorSetChangePacketData) :
    (s.noteReceived d).appended = s.appended := by
  simp [noteReceived, appended, Obs.appended?]
@[simp] theorem transmitted_noteReceived (d : ValidatorSetChangePacketData) :
    (s.noteReceived d).transmitted = s.transmitted := by
  simp [noteReceived, transmitted, Obs.transmitted?]

end

end Sys

end ConsumerRelay
