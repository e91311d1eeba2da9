import ConsumerRelay.QueueInvariant

/-!
Head-of-line blocking and reliable delivery of the pending queue, over every run: a slash packet
at the head blocks the queue until the provider handles it, packets leave the queue only once
delivered, and the transmissions follow the queue order.
-/

set_option autoImplicit false

namespace ConsumerRelay

/-- The head-of-line properties of a state of the consumer. -/
structure HeadOfLine (ccv : Ccv) (s : Sys) : Prop where
  slash_inFlight_le_one : (s.inFlight.filter (·.isSlash)).length ≤ 1
  slash_inFlight_head : ∀ p ∈ s.inFlight, p.isSlash →
    s.keeper.queue.head? = some p ∧ s.keeper.waitingOnReply
  record_head : s.keeper.slashRecord.isSome → ∃ p, s.keeper.queue.head? = some p ∧ p.isSlash
  handled_deletes_acked : ∀ ctx sent packet res chanCloseInit,
    (Action.onAcknowledgementPacket sent packet (.result [res]) chanCloseInit).allowed s →
    sent.isSlash → (res = v1Result ∨ res = slashPacketHandledResult) →
    s.keeper.queue.head? = some sent ∧
      (step ccv ctx (.onAcknowledgementPacket sent packet (.result [res]) chanCloseInit)
        s).keeper.queue = s.keeper.queue.tail
  sent_behind_matured : ∀ ctx answers, ∀ p ∈ transmitted (sendPackets ctx answers s.keeper).effects,
    ∃ pre post, s.keeper.queue = pre ++ p :: post ∧ ∀ x ∈ pre, ¬ x.isSlash

/-- Every reachable state of the consumer has the head-of-line properties. -/
theorem headOfLine_of_reachable {ccv : Ccv} {s : Sys} (h : Reachable ccv s) : HeadOfLine ccv s := by
  have hi := queueInv_of_reachable h
  refine ⟨hi.slash_inFlight_le_one, hi.slash_inFlight_head, hi.record_head,
    fun ctx sent packet res close ha hs hres => ?_,
    fun ctx answers p hp => sendPackets_sent_behind_matured hp⟩
  simp only [Action.allowed, Bool.and_eq_true, decide_eq_true_eq, beq_iff_eq] at ha
  refine ⟨(hi.slash_inFlight_head sent ha.1 hs).1, ?_⟩
  have ht : packet.data.type = .slashPacket := ha.2 ▸ ConsumerPacketDataWithIdx.isSlash_iff.1 hs
  simp [step, onAcknowledgementPacket_handled close packet s.keeper ht hres, State.queue]

def allSent : Stream' Attempt := fun _ => ⟨true, .ok⟩

@[simp] theorem allSent_head : allSent.head = ⟨true, .ok⟩ := rfl
@[simp] theorem allSent_tail : allSent.tail = allSent := rfl

/-- A run that binds "channel-0", queues a downtime slash packet and a VSC-matured packet, and
sends the slash packet, which is then in flight. -/
def slashInFlightRun : List (Context × Action) :=
  [(⟨1, 0⟩, .onRecvVSCPacket ⟨"provider", "channel-0", consumerPortID, "channel-0", ⟨[], 1, []⟩⟩),
   (⟨2, 5⟩, .queueSlashPacket ⟨[1], 10⟩ 1 .downtime),
   (⟨2, 5⟩, .appendVSCMatured 1),
   (⟨3, 10⟩, .sendPackets allSent)]

def slashInFlight : Sys := (run ccvExample Sys.init slashInFlightRun).getD Sys.init

def slashPacketA : ConsumerPacketDataWithIdx := ⟨.slashPacket ⟨⟨[1], 10⟩, 1, .downtime⟩, 0⟩

theorem headOfLine_slashInFlight : HeadOfLine ccvExample slashInFlight :=
  headOfLine_of_reachable
    (Reachable.of_run slashInFlightRun (.refl : Reachable ccvExample Sys.init) rfl)

example : slashInFlight.inFlight = [slashPacketA] ∧
    slashInFlight.keeper.queue.head? = some slashPacketA := by decide

/-- The delivery properties of a state of the consumer. -/
structure Delivery (ccv : Ccv) (s : Sys) : Prop where
  transmitted_prefix_appended : List.IsPrefix (mergeRetransmissions s.transmitted) s.appended
  removed_only_delivered : ∀ ctx a, a.allowed s → ∀ p ∈ s.keeper.queue,
    p ∉ (step ccv ctx a s).keeper.queue →
      (∃ answers, a = .sendPackets answers ∧ ¬ p.isSlash ∧
        p ∈ transmitted (sendPackets ctx answers s.keeper).effects) ∨
      (∃ packet res chanCloseInit,
        a = .onAcknowledgementPacket p packet (.result [res]) chanCloseInit ∧
        p.isSlash ∧ (res = v1Result ∨ res = slashPacketHandledResult))
  matured_sent_once : (s.transmitted.filter fun p => !p.isSlash).Nodup

theorem removed_only_delivered {ccv : Ccv} {s : Sys} (hi : QueueInv s) (ctx : Context)
    (a : Action) (ha : a.allowed s) (p : ConsumerPacketDataWithIdx) (hp : p ∈ s.keeper.queue)
    (hn : p ∉ (step ccv ctx a s).keeper.queue) :
    (∃ answers, a = .sendPackets answers ∧ ¬ p.isSlash ∧
      p ∈ transmitted (sendPackets ctx answers s.keeper).effects) ∨
    (∃ packet res chanCloseInit,
      a = .onAcknowledgementPacket p packet (.result [res]) chanCloseInit ∧
      p.isSlash ∧ (res = v1Result ∨ res = slashPacketHandledResult)) := by
  have hd : ∀ k, p ∉ s.keeper.queue.drop k → p ∈ s.keeper.queue.take k := fun k hk =>
    (List.mem_append.1 ((List.take_append_drop k _).symm ▸ hp)).resolve_right hk
  cases queueStep ccv ctx ha with
  | frame hq => exact absurd (by simpa [State.queue, hq] using hp) hn
  | append d hq => exact absurd (by simp only [State.queue] at hp ⊢; simp [hq, hp]) hn
  | sendMatured k _ hk ht hq =>
    have hpk := hd k (by simpa [State.queue, hq] using hn)
    exact .inl ⟨_, rfl, hk p hpk, ht ▸ hpk⟩
  | sendSlash k r _ hk _ _ ht hq =>
    have hpk := hd k (by simpa [State.queue, hq] using hn)
    exact .inl ⟨_, rfl, hk p hpk, by simp [ht, hpk]⟩
  | @ackHandled sent packet res close _ _ hres hm hs hq =>
    obtain ⟨hhead, -⟩ := hi.slash_inFlight_head _ hm hs
    have hps : p = sent := by
      cases hq0 : s.keeper.queue with
      | nil => simp [hq0] at hp
      | cons x xs =>
        simp only [State.queue, hq, PendingPackets.deleteHead_entries] at hn
        simp only [State.queue] at hq0 hp hhead
        simp only [hq0, List.tail_cons, List.head?_cons, Option.some.injEq, List.mem_cons]
          at hn hp hhead
        exact hp.resolve_right hn ▸ hhead
    subst hps
    exact .inr ⟨_, _, _, rfl, hs, hres⟩
  | ackBounced sent _ _ hq => exact absurd (by simpa [State.queue, hq] using hp) hn

/-- Every reachable state of the consumer has the delivery properties. -/
theorem delivery_of_reachable {ccv : Ccv} {s : Sys} (h : Reachable ccv s) : Delivery ccv s := by
  have hi := queueInv_of_reachable h
  obtain ⟨done, hA, hT⟩ := hi.delivered
  have hnd : (mergeRetransmissions s.transmitted).Nodup := by
    rw [hT]
    exact ((hA ▸ hi.nodup_appended).sublist
      ((List.take_sublist _ _).append_left done))
  refine ⟨⟨s.keeper.queue.drop (if s.keeper.slashRecord.isSome then 1 else 0), ?_⟩,
    removed_only_delivered hi, ?_⟩
  · rw [hT, hA, List.append_assoc, List.take_append_drop]
  · rw [← filter_mergeRetransmissions]; exact hnd.filter _

def ackPacket (channelID : String) (p : ConsumerPacketDataWithIdx) : Packet ConsumerPacketData :=
  ⟨consumerPortID, channelID, "provider", channelID, p.data⟩

def ackAction (channelID : String) (close : String → String → Except String Unit)
    (p : ConsumerPacketDataWithIdx) : Action :=
  .onAcknowledgementPacket p (ackPacket channelID p) (.result [v1Result]) close

/-- `slashInFlightRun`, then the provider handles the slash packet and a flush sends the
VSC-matured packet: both have left the queue, delivered. -/
def slashHandledRun : List (Context × Action) :=
  slashInFlightRun ++
    [(⟨4, 15⟩, ackAction "channel-0" (fun _ _ => .ok ()) slashPacketA),
     (⟨5, 20⟩, .sendPackets allSent)]

def slashHandled : Sys := (run ccvExample Sys.init slashHandledRun).getD Sys.init

theorem delivery_slashHandled : Delivery ccvExample slashHandled :=
  delivery_of_reachable
    (Reachable.of_run slashHandledRun (.refl : Reachable ccvExample Sys.init) rfl)

example : slashHandled.keeper.queue = [] ∧ slashHandled.transmitted.length = 2 := by decide

end ConsumerRelay
