import ConsumerRelay.System
import ConsumerRelay.Acknowledgement

/-!
The provider channel binding of `OnRecvVSCPacket` over every run. The first accepted VSC packet
binds the channel it arrives on and emits the channel-established event once; nothing changes
the binding after that. Every packet handed to the transport goes over the bound channel, after
its channel-established event, so an error acknowledgement of a sent packet closes only that
channel.
-/

set_option autoImplicit false

namespace ConsumerRelay

def Obs.established? : Obs → Option String
  | .effect e => e.established?
  | _ => none

def Sys.establishedChannels (s : Sys) : List String := s.log.filterMap Obs.established?

section
variable {s : Sys} {c : Call}

@[simp] theorem Sys.establishedChannels_commit :
    (s.commit c).establishedChannels =
      s.establishedChannels ++ c.effects.filterMap Effect.established? := by
  simp [Sys.commit, Sys.establishedChannels, List.filterMap_append, Obs.established?,
    Function.comp_def]

@[simp] theorem Sys.establishedChannels_noteReceived (d : ValidatorSetChangePacketData) :
    (s.noteReceived d).establishedChannels = s.establishedChannels := by
  simp [Sys.noteReceived, Sys.establishedChannels, Obs.established?]

end

theorem established_of_sends {effects : List Effect}
    (h : ∀ e ∈ effects, ∃ channelID p result, e = .sendIBCPacket channelID p result) :
    effects.filterMap Effect.established? = [] :=
  List.filterMap_eq_nil_iff.2 fun e he => by obtain ⟨_, _, _, rfl⟩ := h e he; rfl

theorem established_of_closes {effects : List Effect}
    (h : ∀ e ∈ effects, ∃ portID channelID, e = .chanCloseInit portID channelID) :
    effects.filterMap Effect.established? = [] :=
  List.filterMap_eq_nil_iff.2 fun e he => by obtain ⟨_, _, rfl⟩ := h e he; rfl

/-- What one step can do to the binding: keep it and emit no channel-established event, or
bind the channel of a valid VSC packet when none is bound and emit the event for it. -/
theorem binding_step_cases (ccv : Ccv) (ctx : Context) (a : Action) (s : Sys) :
    ((step ccv ctx a s).keeper.providerChannel = s.keeper.providerChannel ∧
      (step ccv ctx a s).establishedChannels = s.establishedChannels) ∨
    (∃ packet, a = .onRecvVSCPacket packet ∧ ccv.validate packet.data = .ok () ∧
      s.keeper.providerChannel = none ∧
      (step ccv ctx a s).keeper.providerChannel = some packet.destinationChannel ∧
      (step ccv ctx a s).establishedChannels =
        s.establishedChannels ++ [packet.destinationChannel]) := by
  cases a with
  | queueSlashPacket v id inf =>
    left
    simp only [step, queueSlashPacket]
    split <;> simp [Effect.established?, apply_ite State.providerChannel]
  | appendVSCMatured id => exact .inl (by simp [step])
  | onRecvVSCPacket packet =>
    simp only [step]
    rcases onRecvVSCPacket_cases ccv ctx packet packet.data s.keeper with
      ⟨_, _, he⟩ | ⟨_, _, _, _, he⟩ | ⟨_, _, he⟩ | ⟨hv, hc, he⟩ <;> rw [he] <;>
      simp only [reduceCtorEq, if_false, if_true]
    · exact .inl (by simp)
    · exact .inl (by simp)
    · exact .inl (by simp)
    · exact .inr ⟨packet, rfl, hv, hc, by simp [Effect.established?]⟩
  | sendPackets answers => exact .inl (by simp [step, established_of_sends sendPackets_effects])
  | onAcknowledgementPacket sent packet ack close =>
    refine .inl ⟨by simp [step], ?_⟩
    simp only [step, Sys.establishedChannels_commit, List.append_nil,
      established_of_closes (onAcknowledgementPacket_effects close packet s.keeper ack)]
    rfl

theorem providerChannel_of_reflTransGen {ccv : Ccv} {s s' : Sys} {c : String}
    (hc : s.keeper.providerChannel = some c) (h : Relation.ReflTransGen (Next ccv) s s') :
    s'.keeper.providerChannel = some c := by
  induction h with
  | refl => exact hc
  | tail _ hn ih =>
    obtain ⟨ctx, a, -, rfl⟩ := hn
    rcases binding_step_cases ccv ctx a _ with ⟨he, -⟩ | ⟨-, -, -, hn, -⟩
    · rw [he, ih]
    · simp [ih] at hn

theorem establishedChannels_of_reachable {ccv : Ccv} {s : Sys} (h : Reachable ccv s) :
    s.establishedChannels = s.keeper.providerChannel.toList :=
  Reachable.induction (fun s => s.establishedChannels = s.keeper.providerChannel.toList)
    (by simp [Sys.establishedChannels, Sys.init, State.empty])
    (fun s ctx a _ hi _ => by
      rcases binding_step_cases ccv ctx a s with ⟨hp, he⟩ | ⟨packet, -, -, hn, hp, he⟩
      · rw [hp, he, hi]
      · rw [hp, he, hi, hn]; rfl) h

/-- The binding properties of a state of the consumer. -/
structure Binding (ccv : Ccv) (s : Sys) : Prop where
  established_eq : s.establishedChannels = s.keeper.providerChannel.toList
  accepted_binds_later : ∀ ctx packet s',
    (onRecvVSCPacket ccv ctx packet packet.data s.keeper).outcome = .ok →
    Relation.ReflTransGen (Next ccv) (step ccv ctx (.onRecvVSCPacket packet) s) s' →
    s'.keeper.providerChannel = some packet.destinationChannel
  other_channel : ∀ c ctx packet, s.keeper.providerChannel = some c →
    c ≠ packet.destinationChannel →
    (ccv.validate packet.data = .ok () → onRecvVSCPacket ccv ctx packet packet.data s.keeper =
      ⟨s.keeper, [], .panic (.unknownChannel packet.destinationChannel c)⟩) ∧
    (∀ err, ccv.validate packet.data = .error err →
      onRecvVSCPacket ccv ctx packet packet.data s.keeper =
        ⟨s.keeper, [], .error (.invalidPacketData err)⟩)
  invalid_keeps : ∀ ctx packet err, ccv.validate packet.data = .error err →
    step ccv ctx (.onRecvVSCPacket packet) s = s
  binding_emits : ∀ ctx packet, s.keeper.providerChannel = none →
    ccv.validate packet.data = .ok () →
    (step ccv ctx (.onRecvVSCPacket packet) s).keeper.providerChannel =
      some packet.destinationChannel ∧
    (onRecvVSCPacket ccv ctx packet packet.data s.keeper).effects =
      [.emitEvent (.channelEstablished packet.destinationChannel packet.destinationPort)]

/-- Every reachable state of the consumer has the binding properties. -/
theorem binding_of_reachable {ccv : Ccv} {s : Sys} (h : Reachable ccv s) : Binding ccv s := by
  refine ⟨establishedChannels_of_reachable h, fun ctx packet s' hok hr => ?_,
    fun c ctx packet hc hne => ?_, fun ctx packet err hv => ?_, fun ctx packet hc hv => ?_⟩
  · refine providerChannel_of_reflTransGen ?_ hr
    rw [step_onRecvVSCPacket_keeper]
    rcases onRecvVSCPacket_cases ccv ctx packet packet.data s.keeper with
      ⟨_, _, he⟩ | ⟨_, _, _, _, he⟩ | ⟨_, hc, he⟩ | ⟨_, _, he⟩ <;> rw [he] at hok ⊢ <;>
      simp_all
  · rcases onRecvVSCPacket_cases ccv ctx packet packet.data s.keeper with
      ⟨_, h₁, he⟩ | ⟨h₁, _, h₂, -, he⟩ | ⟨h₁, h₂, -⟩ | ⟨h₁, h₂, -⟩
    · exact ⟨fun h => by simp [h] at h₁, fun _ h => by rw [he, Except.error.inj (h₁.symm.trans h)]⟩
    · obtain rfl : c = _ := Option.some.inj (hc.symm.trans h₂)
      exact ⟨fun _ => he, fun _ h => by simp [h] at h₁⟩
    · exact absurd (Option.some.inj (hc.symm.trans h₂)) hne
    · simp [hc] at h₂
  · simp [step, onRecvVSCPacket, hv, Sys.commit, Sys.newEntries_of_nextIdx]
  · rcases onRecvVSCPacket_cases ccv ctx packet packet.data s.keeper with
      ⟨_, h₁, -⟩ | ⟨-, _, h₂, -⟩ | ⟨-, h₂, -⟩ | ⟨-, -, he⟩
    · simp [hv] at h₁
    · simp [hc] at h₂
    · simp [hc] at h₂
    · simp [he]

def vscPacketOn (channelID : String) (valsetUpdateId : UInt64) :
    Packet ValidatorSetChangePacketData :=
  ⟨"provider", channelID, consumerPortID, channelID, ⟨[], valsetUpdateId, []⟩⟩

def maturedSentRun : List (Context × Action) :=
  [(⟨1, 0⟩, .onRecvVSCPacket (vscPacketOn "channel-0" 1)),
   (⟨1, 0⟩, .appendVSCMatured 1),
   (⟨2, 5⟩, .sendPackets fun _ => ⟨true, .ok⟩)]

def maturedSent : Sys := (run ccvExample Sys.init maturedSentRun).getD Sys.init

theorem binding_maturedSent : Binding ccvExample maturedSent :=
  binding_of_reachable (Reachable.of_run maturedSentRun .refl rfl)

/-- Once a channel is bound, an invalid VSC packet on another channel returns its validation
error: the run binds "channel-0", then a packet with VSC id zero arrives on "channel-1". -/
theorem invalid_packet_on_other_channel_errors :
    ∃ s, Reachable ccvExample s ∧ s.keeper.providerChannel = some "channel-0" ∧
      (onRecvVSCPacket ccvExample ⟨2, 5⟩ (vscPacketOn "channel-1" 0)
          (vscPacketOn "channel-1" 0).data s.keeper).outcome =
        .error (.invalidPacketData "valset update id cannot be equal to zero") :=
  ⟨_, Reachable.of_run ([(⟨1, 0⟩, .onRecvVSCPacket (vscPacketOn "channel-0" 1))]) .refl rfl,
    rfl, rfl⟩

/-! ## The channel of every send -/

/-- Every packet handed to the transport so far went over the provider channel. -/
def Sys.SentOnProvider (s : Sys) : Prop :=
  ∀ c p r, Obs.effect (.sendIBCPacket c p r) ∈ s.log → s.keeper.providerChannel = some c

section
variable {s : Sys} {e : Effect}

theorem Sys.mem_commit_log {c : Call} :
    Obs.effect e ∈ (s.commit c).log ↔ Obs.effect e ∈ s.log ∨ e ∈ c.effects := by
  simp [Sys.commit]

theorem Sys.mem_noteReceived_log {d : ValidatorSetChangePacketData} :
    Obs.effect e ∈ (s.noteReceived d).log ↔ Obs.effect e ∈ s.log := by
  simp [Sys.noteReceived]

end

theorem send_of_step {ccv : Ccv} {ctx : Context} {a : Action} {s : Sys} {c : String}
    {p : ConsumerPacketDataWithIdx} {r : SendResult}
    (h : Obs.effect (.sendIBCPacket c p r) ∈ (step ccv ctx a s).log) :
    Obs.effect (.sendIBCPacket c p r) ∈ s.log ∨ s.keeper.providerChannel = some c := by
  cases a with
  | queueSlashPacket v id inf =>
    simp only [step, Sys.mem_commit_log] at h
    refine h.imp_right fun h => ?_
    rcases queueSlashPacket_cases v id s.keeper inf with he | he <;> simp [he] at h
  | appendVSCMatured id => exact .inl (by simpa [step, Sys.mem_commit_log] using h)
  | onRecvVSCPacket packet =>
    have hn : Effect.sendIBCPacket c p r ∉
        (onRecvVSCPacket ccv ctx packet packet.data s.keeper).effects := by
      rcases onRecvVSCPacket_cases ccv ctx packet packet.data s.keeper with
        ⟨_, _, he⟩ | ⟨_, _, _, _, he⟩ | ⟨_, _, he⟩ | ⟨_, _, he⟩ <;> simp [he]
    simp only [step] at h
    split at h <;> simp only [Sys.mem_noteReceived_log, Sys.mem_commit_log] at h
    all_goals exact .inl (h.resolve_right hn)
  | sendPackets answers =>
    simp only [step, Sys.mem_commit_log] at h
    exact h.imp_right sendPackets_channel
  | onAcknowledgementPacket sent packet ack close =>
    simp only [step, Sys.mem_commit_log] at h
    refine h.imp_right fun h => ?_
    obtain ⟨_, _, he⟩ := onAcknowledgementPacket_effects close packet s.keeper ack _ h
    cases he

theorem sentOnProvider_step {ccv : Ccv} {s : Sys} (hi : s.SentOnProvider) (ctx : Context)
    (a : Action) : (step ccv ctx a s).SentOnProvider := by
  intro c p r h
  have hc : s.keeper.providerChannel = some c := (send_of_step h).elim (hi c p r) id
  rcases binding_step_cases ccv ctx a s with ⟨hp, -⟩ | ⟨-, -, -, hn, -⟩
  · rw [hp, hc]
  · simp [hc] at hn

theorem sentOnProvider_of_reachable {ccv : Ccv} {s : Sys} (h : Reachable ccv s) :
    s.SentOnProvider :=
  Reachable.induction Sys.SentOnProvider (fun _ _ _ h => by simp [Sys.init] at h)
    (fun _ ctx a _ hi _ => sentOnProvider_step hi ctx a) h

/-- In every reachable state, an error acknowledgement of a packet the consumer handed to the
transport, carried back on the port and channel it was sent from, closes exactly that channel,
which is the provider channel, and changes nothing in the store; it returns nil, or the error of
that close. The `ErrNoProposerChannelId` error and the second `ChanCloseInit`, on a provider
channel other than the packet's, are never reached. -/
theorem errorAck_closes_sending_channel {ccv : Ccv} {s : Sys} (h : Reachable ccv s)
    {c : String} {p : ConsumerPacketDataWithIdx} {r : SendResult}
    (hs : Obs.effect (.sendIBCPacket c p r) ∈ s.log) {packet : Packet ConsumerPacketData}
    (hport : packet.sourcePort = consumerPortID) (hchan : packet.sourceChannel = c)
    (chanCloseInit : String → String → Except String Unit) {err : String} (herr : err ≠ "") :
    onAcknowledgementPacket chanCloseInit packet (.error err) s.keeper =
      ⟨s.keeper, [.chanCloseInit consumerPortID c],
        match chanCloseInit consumerPortID c with
        | .error e => .error (.chanCloseInitFailed c e)
        | .ok () => .ok⟩ := by
  have hc := sentOnProvider_of_reachable h c p r hs
  rcases hcl : chanCloseInit consumerPortID c with e | ⟨⟩ <;>
    simp [onAcknowledgementPacket, Acknowledgement.getResult, Acknowledgement.getError,
      onErrorAcknowledgement, herr, hport, hchan, hc, hcl]

theorem errorAck_closes_channel0 :
    onAcknowledgementPacket (fun _ _ => .ok ())
        ⟨consumerPortID, "channel-0", "provider", "channel-0", .vscMaturedPacket ⟨1⟩⟩
        (.error "invalid packet data") maturedSent.keeper =
      ⟨maturedSent.keeper, [.chanCloseInit consumerPortID "channel-0"], .ok⟩ :=
  errorAck_closes_sending_channel
    (Reachable.of_run maturedSentRun .refl rfl : Reachable ccvExample maturedSent)
    (show Obs.effect (.sendIBCPacket "channel-0" ⟨.vscMaturedPacket ⟨1⟩, 0⟩ .ok) ∈ maturedSent.log
      by decide) rfl rfl _ (by decide)

/-! ## Sends come after the binding -/

/-- Every send in the record comes after a channel-established event of its channel. -/
def Sys.SendsAfterEstablished (s : Sys) : Prop :=
  ∀ pre post c p r, s.log = pre ++ Obs.effect (.sendIBCPacket c p r) :: post →
    ∃ portID, Obs.effect (.emitEvent (.channelEstablished c portID)) ∈ pre

theorem Obs.established?_eq_some {o : Obs} {c : String} :
    o.established? = some c ↔ ∃ portID, o = .effect (.emitEvent (.channelEstablished c portID)) := by
  rcases o with ((⟨c', portID⟩ | _) | _ | _) | _ | _ <;>
    simp [Obs.established?, Effect.established?, eq_comm]

theorem mem_log_of_established {s : Sys} {c : String} (h : c ∈ s.establishedChannels) :
    ∃ portID, Obs.effect (.emitEvent (.channelEstablished c portID)) ∈ s.log := by
  obtain ⟨o, ho, he⟩ := List.mem_filterMap.1 h
  obtain ⟨portID, rfl⟩ := Obs.established?_eq_some.1 he
  exact ⟨portID, ho⟩

theorem log_step (ccv : Ccv) (ctx : Context) (a : Action) (s : Sys) :
    ∃ new, (step ccv ctx a s).log = s.log ++ new := by
  cases a <;> simp only [step] <;> try split
  all_goals simp [Sys.commit, Sys.noteReceived]

theorem split_of_append_eq {α : Type} {old new pre post : List α} {x : α}
    (h : old ++ new = pre ++ x :: post) :
    (∃ post', old = pre ++ x :: post') ∨ (old <+: pre ∧ x ∈ new) := by
  rcases List.append_eq_append_iff.1 h with ⟨a, rfl, ha⟩ | ⟨c, rfl, hc⟩
  · -- the old record is a prefix of `pre`
    exact .inr ⟨List.prefix_append _ _, by simp [ha]⟩
  · -- `pre` is a prefix of the old record
    cases c with
    | nil =>
      refine .inr ⟨⟨[], by simp⟩, ?_⟩
      rw [← List.nil_append new, ← hc]
      exact List.mem_cons_self _ _
    | cons y c =>
      obtain ⟨rfl, -⟩ := List.cons.inj hc
      exact .inl ⟨c, rfl⟩

theorem sendsAfterEstablished_step {ccv : Ccv} {s : Sys} (h : Reachable ccv s)
    (hi : s.SendsAfterEstablished) (ctx : Context) (a : Action) :
    (step ccv ctx a s).SendsAfterEstablished := by
  intro pre post c p r hl
  obtain ⟨new, hnew⟩ := log_step ccv ctx a s
  rw [hnew] at hl
  rcases split_of_append_eq hl with ⟨post', hold⟩ | ⟨hpre, hx⟩
  · exact hi pre post' c p r hold
  · -- the send is recorded by this step; its channel was established before it
    have hsend : Obs.effect (.sendIBCPacket c p r) ∈ (step ccv ctx a s).log :=
      hnew ▸ List.mem_append_right _ hx
    obtain ⟨portID, hest⟩ :
        ∃ portID, Obs.effect (.emitEvent (.channelEstablished c portID)) ∈ s.log := by
      rcases send_of_step hsend with hold | hc
      · obtain ⟨pre₀, post₀, hold⟩ := List.append_of_mem hold
        obtain ⟨portID, hp⟩ := hi pre₀ post₀ c p r hold
        exact ⟨portID, hold ▸ List.mem_append_left _ hp⟩
      · exact mem_log_of_established (by simp [establishedChannels_of_reachable h, hc])
    exact ⟨portID, hpre.subset hest⟩

theorem sendsAfterEstablished_of_reachable {ccv : Ccv} {s : Sys} (h : Reachable ccv s) :
    s.SendsAfterEstablished :=
  Reachable.induction Sys.SendsAfterEstablished (fun _ _ _ _ _ h => by simp [Sys.init] at h)
    (fun _ ctx a hr hi _ => sendsAfterEstablished_step hr hi ctx a) h

/-- In every run, each packet the consumer hands to the transport, whatever the transport
answers, goes over a channel for which the channel-established event was emitted earlier in the
run, and that channel is still the provider channel: nothing is sent before the first VSC packet
is accepted, and nothing on another channel. -/
theorem sends_follow_channelEstablished {ccv : Ccv} {s : Sys} (h : Reachable ccv s)
    {pre post : List Obs} {c : String} {p : ConsumerPacketDataWithIdx} {r : SendResult}
    (hl : s.log = pre ++ Obs.effect (.sendIBCPacket c p r) :: post) :
    (∃ portID, Obs.effect (.emitEvent (.channelEstablished c portID)) ∈ pre) ∧
      s.keeper.providerChannel = some c :=
  ⟨sendsAfterEstablished_of_reachable h pre post c p r hl,
    sentOnProvider_of_reachable h c p r (hl ▸ List.mem_append_right _ (List.mem_cons_self _ _))⟩

theorem maturedSent_after_channelEstablished :
    (∃ portID, Obs.effect (.emitEvent (.channelEstablished "channel-0" portID)) ∈
        maturedSent.log.take 3) ∧
      maturedSent.keeper.providerChannel = some "channel-0" :=
  sends_follow_channelEstablished
    (Reachable.of_run maturedSentRun .refl rfl : Reachable ccvExample maturedSent)
    (show maturedSent.log = maturedSent.log.take 3 ++
      [Obs.effect (.sendIBCPacket "channel-0" ⟨.vscMaturedPacket ⟨1⟩, 0⟩ .ok)] by decide)

end ConsumerRelay
