import ConsumerRelay.System
import ConsumerRelay.Acknowledgement

/-!
The outstanding-downtime guard of `QueueSlashPacket` over every run. The flag of an address is
set exactly when a downtime slash packet for it was appended since the last accepted VSC packet
whose slash acks decode to it: only `QueueSlashPacket` sets a flag and only `OnRecvVSCPacket`
clears one. The guard keeps at most one downtime slash packet per address pending only when the
acknowledgement of that packet arrives before the VSC packet that acks the address; a slash ack
that overtakes the acknowledgement lets a second one in.
-/

set_option autoImplicit false

namespace ConsumerRelay

theorem mem_decodedSlashAcks {ccv : Ccv} {acks : List String} {a : ConsAddress} :
    a ∈ decodedSlashAcks ccv acks ↔ ∃ ack ∈ acks, ccv.getConsAddrFromBech32 ack = .ok a := by
  simp only [decodedSlashAcks, List.mem_filterMap]
  refine exists_congr fun ack => and_congr_right fun _ => ?_
  cases ccv.getConsAddrFromBech32 ack <;> simp [Except.toOption]

namespace Obs

def isDowntimeFor (a : ConsAddress) : Obs → Bool
  | .appended p => p.isDowntimeFor a
  | _ => false

def acks (ccv : Ccv) (a : ConsAddress) : Obs → Bool
  | .received d => (decodedSlashAcks ccv d.slashAcks).contains a
  | _ => false

end Obs

/-- Since the last accepted VSC packet with a slash ack that decodes to `a`, a downtime slash
packet for `a` was appended. -/
def DowntimeSinceAck (ccv : Ccv) (a : ConsAddress) (log : List Obs) : Prop :=
  ∃ pre p post, log = pre ++ .appended p :: post ∧ p.isDowntimeFor a ∧
    ∀ d, .received d ∈ post → ∀ ack ∈ d.slashAcks, ccv.getConsAddrFromBech32 ack ≠ .ok a

section
variable {ccv : Ccv} {a : ConsAddress}

theorem Obs.acks_received_eq_false {d : ValidatorSetChangePacketData} :
    (Obs.received d).acks ccv a = false ↔
      ∀ ack ∈ d.slashAcks, ccv.getConsAddrFromBech32 ack ≠ .ok a := by
  simp [Obs.acks, mem_decodedSlashAcks]

theorem downtimeSinceAck_concat (log : List Obs) (o : Obs) :
    DowntimeSinceAck ccv a (log ++ [o]) ↔
      o.isDowntimeFor a ∨ (DowntimeSinceAck ccv a log ∧ o.acks ccv a = false) := by
  constructor
  · rintro ⟨pre, p, post, he, hp, hr⟩
    rcases List.eq_nil_or_concat' post with rfl | ⟨post, x, rfl⟩
    · obtain ⟨-, ho⟩ := List.append_inj' he rfl
      simp only [List.cons.injEq, and_true] at ho
      exact .inl (ho ▸ hp)
    · rw [← List.cons_append, ← List.append_assoc] at he
      obtain ⟨rfl, ho⟩ := List.append_inj' he rfl
      simp only [List.cons.injEq, and_true] at ho
      subst ho
      refine .inr ⟨⟨pre, p, post, rfl, hp, fun d hd => hr d (List.mem_append_left _ hd)⟩, ?_⟩
      cases o with
      | received d => exact Obs.acks_received_eq_false.2 (hr d (by simp))
      | _ => rfl
  · rintro (h | ⟨⟨pre, p, post, rfl, hp, hr⟩, hn⟩)
    · cases o with
      | appended p => exact ⟨log, p, [], rfl, h, by simp⟩
      | _ => simp [Obs.isDowntimeFor] at h
    · refine ⟨pre, p, post ++ [o], by simp, hp, fun d hd => ?_⟩
      rcases List.mem_append.1 hd with hd | hd
      · exact hr d hd
      · rw [← List.mem_singleton.1 hd] at hn
        exact Obs.acks_received_eq_false.1 hn

theorem downtimeSinceAck_append_of_quiet {l : List Obs}
    (h : ∀ o ∈ l, o.isDowntimeFor a = false ∧ o.acks ccv a = false) (log : List Obs) :
    DowntimeSinceAck ccv a (log ++ l) ↔ DowntimeSinceAck ccv a log := by
  induction l generalizing log with
  | nil => simp
  | cons o l ih =>
    obtain ⟨hd, ha⟩ := h o (List.mem_cons_self _ _)
    rw [← List.singleton_append, ← List.append_assoc,
      ih (fun o' h' => h o' (List.mem_cons_of_mem _ h')), downtimeSinceAck_concat]
    simp [hd, ha]

theorem effects_quiet (es : List Effect) :
    ∀ o ∈ es.map Obs.effect, o.isDowntimeFor a = false ∧ o.acks ccv a = false := by
  simp [Obs.isDowntimeFor, Obs.acks]

end

def DowntimeInv (ccv : Ccv) (s : Sys) : Prop :=
  ∀ a, s.keeper.outstandingDowntime a = true ↔ DowntimeSinceAck ccv a s.log

namespace DowntimeInv

variable {ccv : Ccv} {s : Sys} {c : Call}

theorem commit_frame (hi : DowntimeInv ccv s)
    (hd : c.state.outstandingDowntime = s.keeper.outstandingDowntime)
    (hn : c.state.pendingPackets.nextIdx = s.keeper.pendingPackets.nextIdx) :
    DowntimeInv ccv (s.commit c) := fun a => by
  simp only [Sys.commit, hd, Sys.newEntries_of_nextIdx hn, List.map_nil, List.append_nil]
  rw [downtimeSinceAck_append_of_quiet (effects_quiet c.effects)]
  exact hi a

theorem commit_append (hi : DowntimeInv ccv s) (d : ConsumerPacketData)
    (hp : c.state.pendingPackets = s.keeper.pendingPackets.append d)
    (hd : ∀ a, c.state.outstandingDowntime a = (s.keeper.outstandingDowntime a ||
      ConsumerPacketDataWithIdx.isDowntimeFor a ⟨d, s.keeper.pendingPackets.nextIdx⟩)) :
    DowntimeInv ccv (s.commit c) := fun a => by
  simp only [Sys.commit, hp, Sys.newEntries_append, List.map_cons, List.map_nil]
  rw [downtimeSinceAck_append_of_quiet (effects_quiet c.effects), downtimeSinceAck_concat, hd,
    ← hi a]
  simp [Obs.isDowntimeFor, Obs.acks, or_comm]

theorem commit_received (hi : DowntimeInv ccv s) (d : ValidatorSetChangePacketData)
    (hd : ∀ a, c.state.outstandingDowntime a =
      (s.keeper.outstandingDowntime a && !(decodedSlashAcks ccv d.slashAcks).contains a))
    (hn : c.state.pendingPackets.nextIdx = s.keeper.pendingPackets.nextIdx) :
    DowntimeInv ccv ((s.commit c).noteReceived d) := fun a => by
  simp only [Sys.noteReceived, Sys.commit, hd, Sys.newEntries_of_nextIdx hn, List.map_nil,
    List.append_nil]
  rw [downtimeSinceAck_concat, downtimeSinceAck_append_of_quiet (effects_quiet c.effects), ← hi a]
  simp [Obs.isDowntimeFor, Obs.acks]

theorem step (hi : DowntimeInv ccv s) (ctx : Context) (a : Action) :
    DowntimeInv ccv (step ccv ctx a s) := by
  cases a with
  | queueSlashPacket v id inf =>
    show DowntimeInv ccv (s.commit (queueSlashPacket v id inf s.keeper))
    by_cases hinf : inf = .downtime
    · subst hinf
      cases hf : s.keeper.outstandingDowntime v.consAddress
      · rw [queueSlashPacket_downtime_of_not_flag _ _ _ hf]
        refine hi.commit_append _ rfl fun a => ?_
        by_cases ha : v.consAddress = a
        · subst ha; simp [hf, ConsumerPacketDataWithIdx.isDowntimeFor, newSlashPacketData]
        · simp [ha, Function.update_noteq (Ne.symm ha), ConsumerPacketDataWithIdx.isDowntimeFor,
            newSlashPacketData]
      · rw [queueSlashPacket_downtime_of_flag _ _ _ hf]
        exact hi.commit_frame rfl rfl
    · rw [queueSlashPacket_of_not_downtime _ _ _ hinf]
      exact hi.commit_append _ rfl fun a => by
        simp [hinf, ConsumerPacketDataWithIdx.isDowntimeFor, newSlashPacketData]
  | appendVSCMatured id =>
    exact hi.commit_append _ rfl fun a => by simp [ConsumerPacketDataWithIdx.isDowntimeFor]
  | onRecvVSCPacket packet =>
    simp only [ConsumerRelay.step]
    rcases onRecvVSCPacket_cases ccv ctx packet packet.data s.keeper with
      ⟨_, _, he⟩ | ⟨_, _, _, _, he⟩ | ⟨_, _, he⟩ | ⟨_, _, he⟩ <;> rw [he] <;>
      simp only [reduceCtorEq, if_false, if_true]
    · exact hi.commit_frame rfl rfl
    · exact hi.commit_frame rfl rfl
    · exact hi.commit_received _ (by simp) (by simp)
    · exact hi.commit_received _ (by simp) (by simp)
  | sendPackets answers => exact hi.commit_frame (by simp) (by simp)
  | onAcknowledgementPacket sent packet ack close =>
    exact commit_frame (hi : DowntimeInv ccv { s with inFlight := s.inFlight.erase sent }) (by simp)
      (by simp)

end DowntimeInv

theorem downtimeInv_of_reachable {ccv : Ccv} {s : Sys} (h : Reachable ccv s) :
    DowntimeInv ccv s :=
  Reachable.induction _ (fun a => by simp [DowntimeSinceAck, Sys.init, State.empty])
    (fun _ ctx a _ hi _ => hi.step ctx a) h

/-- The outstanding-downtime guard of a state of the consumer. -/
structure DowntimeGuard (ccv : Ccv) (s : Sys) : Prop where
  flag_iff : ∀ a, s.keeper.outstandingDowntime a = true ↔ DowntimeSinceAck ccv a s.log
  downtime_appends : ∀ v valsetUpdateID, ¬ DowntimeSinceAck ccv v.consAddress s.log →
    queueSlashPacket v valsetUpdateID .downtime s.keeper =
      ⟨(s.keeper.setOutstandingDowntime v.consAddress).appendPendingPacket
          (.slashPacket (newSlashPacketData v valsetUpdateID .downtime)),
        [.emitEvent (.consumerSlashRequest v.consAddress valsetUpdateID .downtime)], .ok⟩
  downtime_dropped : ∀ v valsetUpdateID, DowntimeSinceAck ccv v.consAddress s.log →
    queueSlashPacket v valsetUpdateID .downtime s.keeper = ⟨s.keeper, [], .ok⟩
  other_appends : ∀ v valsetUpdateID infraction, infraction ≠ .downtime →
    queueSlashPacket v valsetUpdateID infraction s.keeper =
      ⟨s.keeper.appendPendingPacket (.slashPacket (newSlashPacketData v valsetUpdateID infraction)),
        [.emitEvent (.consumerSlashRequest v.consAddress valsetUpdateID infraction)], .ok⟩
  send_keeps : ∀ ctx answers,
    (sendPackets ctx answers s.keeper).state.outstandingDowntime = s.keeper.outstandingDowntime
  ack_keeps : ∀ chanCloseInit packet ack,
    (onAcknowledgementPacket chanCloseInit packet ack s.keeper).state.outstandingDowntime =
      s.keeper.outstandingDowntime

/-- Every reachable state of the consumer has the outstanding-downtime guard. -/
theorem downtimeGuard_of_reachable {ccv : Ccv} {s : Sys} (h : Reachable ccv s) :
    DowntimeGuard ccv s := by
  have hi := downtimeInv_of_reachable h
  refine ⟨hi, fun v id hn => ?_, fun v id hd => ?_,
    fun v id inf => queueSlashPacket_of_not_downtime v id s.keeper,
    fun _ _ => sendPackets_outstandingDowntime, fun close packet ack =>
      onAcknowledgementPacket_outstandingDowntime close packet s.keeper ack⟩
  · exact queueSlashPacket_downtime_of_not_flag v id s.keeper
      (Bool.eq_false_iff.2 (mt (hi _).1 hn))
  · exact queueSlashPacket_downtime_of_flag v id s.keeper ((hi _).2 hd)

def validatorA : Validator := ⟨[1], 10⟩

def vscPacketA (slashAcks : List String) : Packet ValidatorSetChangePacketData :=
  ⟨"provider", "channel-0", consumerPortID, "channel-0", ⟨[], 1, slashAcks⟩⟩

/-- A run in which the slash ack for validator A overtakes the acknowledgement of its downtime
slash packet: the channel is bound, a downtime packet for A is queued and sent, the next VSC
packet acks A before the packet's acknowledgement arrives, and A is down again. -/
def slashAckOvertakesRun : List (Context × Action) :=
  [(⟨1, 0⟩, .onRecvVSCPacket (vscPacketA [])),
   (⟨2, 5⟩, .queueSlashPacket validatorA 1 .downtime),
   (⟨2, 5⟩, .sendPackets fun _ => ⟨true, .ok⟩),
   (⟨3, 10⟩, .onRecvVSCPacket (vscPacketA ["valA"])),
   (⟨4, 15⟩, .queueSlashPacket validatorA 2 .downtime)]

theorem downtimeGuard_around_slashAck :
    DowntimeGuard ccvExample ((run ccvExample Sys.init (slashAckOvertakesRun.take 2)).getD Sys.init) ∧
      DowntimeGuard ccvExample
        ((run ccvExample Sys.init (slashAckOvertakesRun.take 4)).getD Sys.init) :=
  ⟨downtimeGuard_of_reachable (Reachable.of_run (slashAckOvertakesRun.take 2) .refl rfl),
    downtimeGuard_of_reachable (Reachable.of_run (slashAckOvertakesRun.take 4) .refl rfl)⟩

example :
    ((run ccvExample Sys.init (slashAckOvertakesRun.take 2)).getD Sys.init).keeper.outstandingDowntime
        validatorA.consAddress = true ∧
      ((run ccvExample Sys.init (slashAckOvertakesRun.take 4)).getD Sys.init).keeper.outstandingDowntime
        validatorA.consAddress = false := by decide

/-! ## At most one pending downtime slash packet per address -/

def State.downtimePackets (s : State) (a : ConsAddress) : List ConsumerPacketDataWithIdx :=
  s.queue.filter (·.isDowntimeFor a)

/-- The VSC packet of an `OnRecvVSCPacket` step arrives after the acknowledgements of the
downtime slash packets for every address it acks: none of them is pending any more. -/
def Action.slashAckOrdered (ccv : Ccv) : Action → Sys → Bool
  | .onRecvVSCPacket packet, s => (decodedSlashAcks ccv packet.data.slashAcks).all fun a =>
      s.keeper.downtimePackets a = []
  | _, _ => true

/-- The states of every run in which no slash ack overtakes the acknowledgement of the slash
packet it answers. -/
def ReachableOrdered (ccv : Ccv) (s : Sys) : Prop :=
  Relation.ReflTransGen
    (fun s s' => ∃ ctx a, a.allowed s ∧ a.slashAckOrdered ccv s ∧ step ccv ctx a s = s')
    Sys.init s

/-- At most one downtime slash packet for an address is pending, and one only while its flag
is set. -/
def State.DowntimeBound (s : State) : Prop :=
  ∀ a, (s.downtimePackets a).length ≤ if s.outstandingDowntime a then 1 else 0

namespace State.DowntimeBound

variable {s s' : State}

theorem of_sublist (hi : s.DowntimeBound) (hq : List.Sublist s'.queue s.queue)
    (hd : s'.outstandingDowntime = s.outstandingDowntime) : s'.DowntimeBound := fun a =>
  hd ▸ ((hq.filter _).length_le).trans (hi a)

theorem queueSlashPacket (hi : s.DowntimeBound) (v : Validator) (valsetUpdateID : UInt64)
    (infraction : Infraction) :
    (ConsumerRelay.queueSlashPacket v valsetUpdateID infraction s).state.DowntimeBound := by
  intro a
  have ha := hi a
  by_cases hinf : infraction = .downtime
  · subst hinf
    cases hf : s.outstandingDowntime v.consAddress
    · rw [queueSlashPacket_downtime_of_not_flag _ _ _ hf]
      by_cases hv : v.consAddress = a
      · subst hv
        simp only [hf] at ha
        simpa [downtimePackets, queue, List.filter_append, ConsumerPacketDataWithIdx.isDowntimeFor,
          newSlashPacketData] using ha
      · simpa [downtimePackets, queue, List.filter_append, ConsumerPacketDataWithIdx.isDowntimeFor,
          newSlashPacketData, hv, Function.update_noteq (Ne.symm hv)] using ha
    · rw [queueSlashPacket_downtime_of_flag _ _ _ hf]
      exact ha
  · rw [queueSlashPacket_of_not_downtime _ _ _ hinf]
    simpa [downtimePackets, queue, List.filter_append, ConsumerPacketDataWithIdx.isDowntimeFor,
      newSlashPacketData, hinf] using ha

end State.DowntimeBound

theorem downtimeBound_step {ccv : Ccv} {s : Sys} (hi : s.keeper.DowntimeBound) {ctx : Context}
    {a : Action} (ho : a.slashAckOrdered ccv s) : (step ccv ctx a s).keeper.DowntimeBound := by
  cases a with
  | queueSlashPacket v id inf => exact hi.queueSlashPacket v id inf
  | appendVSCMatured id =>
    intro a
    simpa [step, State.downtimePackets, State.queue, List.filter_append,
      ConsumerPacketDataWithIdx.isDowntimeFor] using hi a
  | onRecvVSCPacket packet =>
    rw [step_onRecvVSCPacket_keeper]
    rcases onRecvVSCPacket_cases ccv ctx packet packet.data s.keeper with
      ⟨_, _, he⟩ | ⟨_, _, _, _, he⟩ | ⟨_, _, he⟩ | ⟨_, _, he⟩ <;> rw [he]
    · exact hi
    · exact hi
    all_goals
      intro a
      simp only [Action.slashAckOrdered, List.all_eq_true, decide_eq_true_eq] at ho
      have hq : ∀ t : State, t.pendingPackets = s.keeper.pendingPackets →
          t.downtimePackets a = s.keeper.downtimePackets a := fun t ht => by
        simp [State.downtimePackets, State.queue, ht]
      rw [hq _ (by simp)]
      by_cases hm : a ∈ decodedSlashAcks ccv packet.data.slashAcks
      · simp [ho a hm]
      · simpa [hm] using hi a
  | sendPackets answers =>
    exact hi.of_sublist sendPackets_frame.2.2.2.2.2 sendPackets_outstandingDowntime
  | onAcknowledgementPacket sent packet ack close =>
    exact hi.of_sublist (onAcknowledgementPacket_frame close packet s.keeper ack).2.2.2.2.2
      (onAcknowledgementPacket_outstandingDowntime close packet s.keeper ack)

/-- In every run where no VSC packet acks an address while a downtime slash packet for it is
still pending, at most one downtime slash packet per address is pending, counting the one in
flight, and one only while the address is flagged. -/
theorem downtimePackets_le_flag_of_ordered {ccv : Ccv} {s : Sys} (h : ReachableOrdered ccv s)
    (a : ConsAddress) :
    (s.keeper.downtimePackets a).length ≤ if s.keeper.outstandingDowntime a then 1 else 0 := by
  suffices s.keeper.DowntimeBound from this a
  induction h with
  | refl => intro a; simp [State.downtimePackets, State.queue, Sys.init, State.empty]
  | tail _ hn ih =>
    obtain ⟨ctx, a, -, ho, rfl⟩ := hn
    exact downtimeBound_step ih ho

/-- An ordered run: the channel is bound, a downtime slash packet for validator A is queued and
sent, and A is down again before the packet's acknowledgement; the guard drops that call. -/
def downtimePending : Sys :=
  step ccvExample ⟨3, 10⟩ (.queueSlashPacket validatorA 2 .downtime)
    (step ccvExample ⟨2, 5⟩ (.sendPackets fun _ => ⟨true, .ok⟩)
      (step ccvExample ⟨2, 5⟩ (.queueSlashPacket validatorA 1 .downtime)
        (step ccvExample ⟨1, 0⟩ (.onRecvVSCPacket (vscPacketA [])) Sys.init)))

theorem downtimePending_le_flag :
    (downtimePending.keeper.downtimePackets validatorA.consAddress).length ≤
      if downtimePending.keeper.outstandingDowntime validatorA.consAddress then 1 else 0 :=
  downtimePackets_le_flag_of_ordered (show ReachableOrdered ccvExample downtimePending by
    refine .tail (.tail (.tail (.tail .refl ⟨_, _, ?_, ?_, rfl⟩) ⟨_, _, ?_, ?_, rfl⟩)
      ⟨_, _, ?_, ?_, rfl⟩) ⟨_, _, ?_, ?_, rfl⟩
    all_goals rfl) _

example : (downtimePending.keeper.downtimePackets validatorA.consAddress).length = 1 ∧
    downtimePending.inFlight.length = 1 := by decide

theorem slashAckOvertakes_two_downtime_packets :
    ∃ s, Reachable ccvExample s ∧ (s.keeper.downtimePackets validatorA.consAddress).length = 2 :=
  ⟨_, Reachable.of_run slashAckOvertakesRun .refl rfl, rfl⟩

end ConsumerRelay
