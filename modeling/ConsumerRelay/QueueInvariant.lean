import ConsumerRelay.System
import ConsumerRelay.Acknowledgement

/-!
The invariant of the pending queue over every run. At most one slash packet is in flight; one
in flight is the head of the queue and its slash record waits on the reply; a slash record
exists only over a slash packet at the head. The queue is what remains of the appended packets
once a prefix is removed, and the transmitted packets, retransmissions merged, are that prefix
followed by the head slash packet when it has been sent.
-/

set_option autoImplicit false

namespace ConsumerRelay

/-- The packets handed to the transport, each run of retransmissions of one slash packet merged
into its first transmission. -/
def mergeRetransmissions (sent : List ConsumerPacketDataWithIdx) : List ConsumerPacketDataWithIdx :=
  sent.foldl
    (fun merged p => if p.isSlash ∧ merged.getLast? = some p then merged else merged ++ [p]) []

theorem mergeRetransmissions_concat (l : List ConsumerPacketDataWithIdx)
    (p : ConsumerPacketDataWithIdx) :
    mergeRetransmissions (l ++ [p]) =
      if p.isSlash ∧ (mergeRetransmissions l).getLast? = some p then mergeRetransmissions l
      else mergeRetransmissions l ++ [p] := by
  simp only [mergeRetransmissions, List.foldl_append, List.foldl_cons, List.foldl_nil]

theorem mergeRetransmissions_append_of_not_slash (l m : List ConsumerPacketDataWithIdx)
    (h : ∀ p ∈ m, ¬ p.isSlash) : mergeRetransmissions (l ++ m) = mergeRetransmissions l ++ m := by
  induction m generalizing l with
  | nil => simp
  | cons p m ih =>
    rw [← List.singleton_append, ← List.append_assoc, ih _ fun q hq => h q (by simp [hq]),
      mergeRetransmissions_concat, if_neg fun h' => h p (by simp) h'.1, List.append_assoc,
      List.singleton_append]

theorem filter_mergeRetransmissions (l : List ConsumerPacketDataWithIdx) :
    (mergeRetransmissions l).filter (fun p => !p.isSlash) = l.filter (fun p => !p.isSlash) := by
  induction l using List.reverseRecOn with
  | nil => rfl
  | append_singleton l p ih =>
    rw [mergeRetransmissions_concat]
    split
    · rename_i h; simp [ih, h.1]
    · simp [ih]

/-- The invariant of the pending queue. -/
structure QueueInv (s : Sys) : Prop where
  slash_inFlight_le_one : (s.inFlight.filter (·.isSlash)).length ≤ 1
  slash_inFlight_head : ∀ p ∈ s.inFlight, p.isSlash →
    s.keeper.queue.head? = some p ∧ s.keeper.waitingOnReply
  record_head : s.keeper.slashRecord.isSome → ∃ p, s.keeper.queue.head? = some p ∧ p.isSlash
  appended_idx : s.appended.map (·.idx) = List.range s.keeper.pendingPackets.nextIdx
  delivered : ∃ done, s.appended = done ++ s.keeper.queue ∧
    mergeRetransmissions s.transmitted =
      done ++ s.keeper.queue.take (if s.keeper.slashRecord.isSome then 1 else 0)

theorem QueueInv.init : QueueInv Sys.init :=
  ⟨by simp [Sys.init], by simp [Sys.init], by simp [Sys.init, State.empty],
    by simp [Sys.init, Sys.appended, State.empty, PendingPackets.empty],
    ⟨[], by simp [Sys.init, Sys.appended, State.queue, State.empty, PendingPackets.empty],
      by simp [Sys.init, Sys.transmitted, mergeRetransmissions, State.empty]⟩⟩

namespace QueueInv

variable {s s' : Sys}

theorem not_slash_of_not_waiting (hi : QueueInv s) (hw : ¬ s.keeper.waitingOnReply) :
    ∀ p ∈ s.inFlight, ¬ p.isSlash :=
  fun p hp hs => hw (hi.slash_inFlight_head p hp hs).2

theorem take_eq_zero (hi : QueueInv s) (hr : s.keeper.slashRecord.isSome) {k : Nat}
    (hk : ∀ p ∈ s.keeper.queue.take k, ¬ p.isSlash) : k = 0 := by
  obtain ⟨p, hp, hs⟩ := hi.record_head hr
  refine Nat.eq_zero_of_not_pos fun h => hk p ?_ hs
  rw [List.head?_eq_getElem?] at hp
  exact @List.getElem?_mem _ _ 0 _ (by rwa [List.getElem?_take_of_lt h])

theorem nodup_appended (hi : QueueInv s) : s.appended.Nodup :=
  List.Nodup.of_map _ (hi.appended_idx ▸ List.nodup_range _)

end QueueInv

theorem not_slash_of_mem_erase {inFlight : List ConsumerPacketDataWithIdx}
    (h : (inFlight.filter (·.isSlash)).length ≤ 1) {sent : ConsumerPacketDataWithIdx}
    (hm : sent ∈ inFlight) (hs : sent.isSlash) : ∀ p ∈ inFlight.erase sent, ¬ p.isSlash := by
  have hp := ((List.perm_cons_erase hm).filter (·.isSlash)).length_eq
  rw [List.filter_cons_of_pos hs, List.length_cons] at hp
  intro p hp' hps
  have : 0 < ((inFlight.erase sent).filter ConsumerPacketDataWithIdx.isSlash).length :=
    List.length_pos_of_mem (List.mem_filter.2 ⟨hp', hps⟩)
  omega

/-- What one step can do to the queue, the slash record, the packets in flight, and the records
of appended and transmitted packets. -/
inductive QueueStep (ctx : Context) : Action → Sys → Sys → Prop where
  | frame {a : Action} {s s' : Sys} :
      s'.keeper.pendingPackets = s.keeper.pendingPackets →
      s'.keeper.slashRecord = s.keeper.slashRecord → List.Sublist s'.inFlight s.inFlight →
      s'.appended = s.appended → s'.transmitted = s.transmitted → QueueStep ctx a s s'
  | append {a : Action} {s s' : Sys} (d : ConsumerPacketData) :
      s'.keeper.pendingPackets = s.keeper.pendingPackets.append d →
      s'.keeper.slashRecord = s.keeper.slashRecord → s'.inFlight = s.inFlight →
      s'.appended = s.appended ++ [⟨d, s.keeper.pendingPackets.nextIdx⟩] →
      s'.transmitted = s.transmitted → QueueStep ctx a s s'
  | sendMatured {answers : Stream' Attempt} {s s' : Sys} (k : Nat) :
      ¬ s.keeper.waitingOnReply → (∀ p ∈ s.keeper.queue.take k, ¬ p.isSlash) →
      transmitted (sendPackets ctx answers s.keeper).effects = s.keeper.queue.take k →
      s'.keeper.pendingPackets = s.keeper.pendingPackets.dropFront k →
      s'.keeper.slashRecord = s.keeper.slashRecord →
      s'.inFlight = s.inFlight ++ s.keeper.queue.take k → s'.appended = s.appended →
      s'.transmitted = s.transmitted ++ s.keeper.queue.take k →
      QueueStep ctx (.sendPackets answers) s s'
  | sendSlash {answers : Stream' Attempt} {s s' : Sys} (k : Nat) (p : ConsumerPacketDataWithIdx) :
      ¬ s.keeper.waitingOnReply → (∀ p ∈ s.keeper.queue.take k, ¬ p.isSlash) →
      s.keeper.queue[k]? = some p → p.isSlash →
      transmitted (sendPackets ctx answers s.keeper).effects = s.keeper.queue.take k ++ [p] →
      s'.keeper.pendingPackets = s.keeper.pendingPackets.dropFront k →
      s'.keeper.slashRecord = some ⟨true, ctx.blockTime⟩ →
      s'.inFlight = s.inFlight ++ s.keeper.queue.take k ++ [p] → s'.appended = s.appended →
      s'.transmitted = s.transmitted ++ s.keeper.queue.take k ++ [p] →
      QueueStep ctx (.sendPackets answers) s s'
  | ackHandled {sent : ConsumerPacketDataWithIdx} {packet : Packet ConsumerPacketData}
      {res : UInt8} {chanCloseInit : String → String → Except String Unit} {s s' : Sys} :
      (res = v1Result ∨ res = slashPacketHandledResult) → sent ∈ s.inFlight → sent.isSlash →
      s'.keeper.pendingPackets = s.keeper.pendingPackets.deleteHead →
      s'.keeper.slashRecord = none → s'.inFlight = s.inFlight.erase sent →
      s'.appended = s.appended → s'.transmitted = s.transmitted →
      QueueStep ctx (.onAcknowledgementPacket sent packet (.result [res]) chanCloseInit) s s'
  | ackBounced {a : Action} {s s' : Sys} (sent : ConsumerPacketDataWithIdx) :
      sent ∈ s.inFlight → sent.isSlash → s'.keeper.pendingPackets = s.keeper.pendingPackets →
      s'.keeper.slashRecord =
        s.keeper.slashRecord.map (fun r => { r with waitingOnReply := false }) →
      s'.inFlight = s.inFlight.erase sent → s'.appended = s.appended →
      s'.transmitted = s.transmitted → QueueStep ctx a s s'

namespace QueueStep

variable {ctx : Context} {a : Action} {s : Sys} {c : Call}

theorem commit_frame (hp : c.state.pendingPackets = s.keeper.pendingPackets)
    (hr : c.state.slashRecord = s.keeper.slashRecord) (ht : transmitted c.effects = []) :
    QueueStep ctx a s (s.commit c) :=
  .frame hp hr (by simp [ht]) (by simp [hp, Sys.newEntries_of_nextIdx]) (by simp [ht])

theorem commit_append (d : ConsumerPacketData)
    (hp : c.state.pendingPackets = s.keeper.pendingPackets.append d)
    (hr : c.state.slashRecord = s.keeper.slashRecord) (ht : transmitted c.effects = []) :
    QueueStep ctx a s (s.commit c) :=
  .append d hp hr (by simp [ht]) (by simp [hp, Sys.newEntries_append]) (by simp [ht])

end QueueStep

/-- Every allowed step is one of the `QueueStep` shapes. -/
theorem queueStep (ccv : Ccv) (ctx : Context) {a : Action} {s : Sys} (ha : a.allowed s) :
    QueueStep ctx a s (step ccv ctx a s) := by
  cases a with
  | queueSlashPacket v id inf =>
    simp only [step, queueSlashPacket]
    split
    · exact .commit_frame rfl rfl rfl
    · exact .commit_append _ (by split <;> rfl) (by split <;> rfl) rfl
  | appendVSCMatured id => exact .commit_append _ rfl rfl rfl
  | onRecvVSCPacket packet =>
    obtain ⟨hp, hr, ht⟩ :
        (onRecvVSCPacket ccv ctx packet packet.data s.keeper).state.pendingPackets =
          s.keeper.pendingPackets ∧
        (onRecvVSCPacket ccv ctx packet packet.data s.keeper).state.slashRecord =
          s.keeper.slashRecord ∧
        transmitted (onRecvVSCPacket ccv ctx packet packet.data s.keeper).effects = [] := by
      rcases onRecvVSCPacket_cases ccv ctx packet packet.data s.keeper with
        ⟨_, _, he⟩ | ⟨_, _, _, _, he⟩ | ⟨_, _, he⟩ | ⟨_, _, he⟩ <;>
        simp [he, transmitted, Effect.transmitted?]
    simp only [step]
    split
    · exact .frame hp hr (by simp [ht]) (by simp [hp, Sys.newEntries_of_nextIdx])
        (by simp [ht])
    · exact .commit_frame hp hr ht
  | sendPackets answers =>
    show QueueStep ctx _ s (s.commit (sendPackets ctx answers s.keeper))
    by_cases hperm : answers.head.permitted = false
    · rw [sendPackets_of_not_permitted hperm]
      exact .commit_frame rfl rfl rfl
    have hw : ¬ s.keeper.waitingOnReply := by simpa [Action.allowed, hperm] using ha
    cases hc : s.keeper.providerChannel with
    | none => rw [sendPackets_of_unbound hc]; exact .commit_frame rfl rfl rfl
    | some ch =>
      obtain ⟨k, -, hm, -, ⟨failed, hf, he⟩ | ⟨p, hp, hs, -, -, he⟩⟩ :=
        sendPackets_cases ctx answers hc
      · have ht :
            transmitted (sendPackets ctx answers s.keeper).effects = s.keeper.queue.take k := by
          rw [he, transmitted_append, transmitted_sendOk, transmitted_of_passEnds hf,
            List.append_nil]
        exact .sendMatured k hw hm ht (by simp [he]) (by simp [he]) (by simp [ht])
          (by simp [he, Sys.newEntries_of_nextIdx]) (by simp [ht])
      · have ht : transmitted (sendPackets ctx answers s.keeper).effects =
            s.keeper.queue.take k ++ [p] := by
          rw [he, transmitted_append, transmitted_sendOk]; rfl
        exact .sendSlash k p hw hm hp hs ht (by simp [he]) (by simp [he]) (by simp [ht])
          (by simp [he, Sys.newEntries_of_nextIdx]) (by simp [ht])
  | onAcknowledgementPacket sent packet ack close =>
    simp only [Action.allowed, Bool.and_eq_true, decide_eq_true_eq, beq_iff_eq] at ha
    obtain ⟨hm, hd⟩ := ha
    show QueueStep ctx _ s
      ({ s with inFlight := s.inFlight.erase sent }.commit
        (onAcknowledgementPacket close packet ack s.keeper))
    obtain ⟨ht, he | ⟨hs, hr, he⟩ | ⟨hs, hr, he⟩⟩ :=
      onAcknowledgementPacket_cases close packet s.keeper ack
    · exact .frame (by simp [he]) (by simp [he]) (by simp [ht]; exact List.erase_sublist _ _)
        (by simp [he, Sys.newEntries_of_nextIdx]) (by simp [ht])
    · obtain ⟨res, rfl, hres⟩ :
          ∃ res, ack = .result [res] ∧ (res = v1Result ∨ res = slashPacketHandledResult) := by
        rcases hr with h | h <;> exact ⟨_, h, by simp⟩
      exact .ackHandled hres hm (ConsumerPacketDataWithIdx.isSlash_iff.2 (hd ▸ hs))
        (by simp [he]) (by simp [he]) (by simp [ht]) (by simp [he, Sys.newEntries_of_nextIdx])
        (by simp [ht])
    · exact .ackBounced sent hm (ConsumerPacketDataWithIdx.isSlash_iff.2 (hd ▸ hs))
        (by simp [he]) (by simp [he]) (by simp [ht]) (by simp [he, Sys.newEntries_of_nextIdx])
        (by simp [ht])

namespace QueueInv

variable {s s' : Sys}

theorem frame (hi : QueueInv s) (hq : s'.keeper.pendingPackets = s.keeper.pendingPackets)
    (hr : s'.keeper.slashRecord = s.keeper.slashRecord) (hf : List.Sublist s'.inFlight s.inFlight)
    (ha : s'.appended = s.appended) (ht : s'.transmitted = s.transmitted) : QueueInv s' := by
  have hq' : s'.keeper.queue = s.keeper.queue := by simp [State.queue, hq]
  have hw : s'.keeper.waitingOnReply = s.keeper.waitingOnReply := by
    simp [State.waitingOnReply, hr]
  refine ⟨(hf.filter _).length_le.trans hi.slash_inFlight_le_one, fun p hp hs => ?_, ?_, ?_, ?_⟩
  · rw [hq', hw]; exact hi.slash_inFlight_head p (hf.subset hp) hs
  · rw [hr, hq']; exact hi.record_head
  · rw [ha, hq]; exact hi.appended_idx
  · rw [ha, ht, hq', hr]; exact hi.delivered

theorem append (hi : QueueInv s) (d : ConsumerPacketData)
    (hq : s'.keeper.pendingPackets = s.keeper.pendingPackets.append d)
    (hr : s'.keeper.slashRecord = s.keeper.slashRecord) (hf : s'.inFlight = s.inFlight)
    (ha : s'.appended = s.appended ++ [⟨d, s.keeper.pendingPackets.nextIdx⟩])
    (ht : s'.transmitted = s.transmitted) : QueueInv s' := by
  have hq' : s'.keeper.queue = s.keeper.queue ++ [⟨d, s.keeper.pendingPackets.nextIdx⟩] := by
    simp [State.queue, hq]
  have hw : s'.keeper.waitingOnReply = s.keeper.waitingOnReply := by
    simp [State.waitingOnReply, hr]
  have hh : ∀ p, s.keeper.queue.head? = some p → s'.keeper.queue.head? = some p := by
    intro p hp; simp [hq', hp]
  obtain ⟨done, hA, hT⟩ := hi.delivered
  refine ⟨hf ▸ hi.slash_inFlight_le_one, fun p hp hs => ?_, fun h => ?_, ?_, ⟨done, ?_, ?_⟩⟩
  · obtain ⟨h₁, h₂⟩ := hi.slash_inFlight_head p (hf ▸ hp) hs; exact ⟨hh p h₁, hw ▸ h₂⟩
  · obtain ⟨p, h₁, h₂⟩ := hi.record_head (hr ▸ h); exact ⟨p, hh p h₁, h₂⟩
  · rw [ha, hq, List.map_append, hi.appended_idx]; simp [List.range_succ]
  · rw [ha, hq', hA, List.append_assoc]
  · rw [ht, hT, hr, hq']
    split
    · obtain ⟨p, h₁, -⟩ := hi.record_head ‹_›
      cases hq0 : s.keeper.queue with
      | nil => simp [hq0] at h₁
      | cons x xs => simp
    · simp

theorem sendMatured (hi : QueueInv s) (k : Nat) (hw : ¬ s.keeper.waitingOnReply)
    (hk : ∀ p ∈ s.keeper.queue.take k, ¬ p.isSlash)
    (hq : s'.keeper.pendingPackets = s.keeper.pendingPackets.dropFront k)
    (hr : s'.keeper.slashRecord = s.keeper.slashRecord)
    (hf : s'.inFlight = s.inFlight ++ s.keeper.queue.take k) (ha : s'.appended = s.appended)
    (ht : s'.transmitted = s.transmitted ++ s.keeper.queue.take k) : QueueInv s' := by
  have hF := hi.not_slash_of_not_waiting hw
  cases hrec : s.keeper.slashRecord with
  | some r =>
    obtain rfl := hi.take_eq_zero (by simp [hrec]) hk
    exact hi.frame (by rw [hq]; ext1 <;> simp) hr (by simp [hf]) ha (by simp [ht])
  | none =>
    have hq' : s'.keeper.queue = s.keeper.queue.drop k := by simp [State.queue, hq]
    have hns : ∀ p ∈ s'.inFlight, ¬ p.isSlash := by
      intro p hp; rw [hf, List.mem_append] at hp; exact hp.elim (hF p) (hk p)
    obtain ⟨done, hA, hT⟩ := hi.delivered
    refine ⟨by simp [List.filter_eq_nil_iff.2 hns], fun p hp hs => absurd hs (hns p hp),
      by simp [hr, hrec], by rw [ha, hq]; exact hi.appended_idx,
      ⟨done ++ s.keeper.queue.take k, ?_, ?_⟩⟩
    · rw [ha, hA, hq', List.append_assoc, List.take_append_drop]
    · rw [ht, mergeRetransmissions_append_of_not_slash _ _ hk, hT, hr, hrec]; simp

theorem sendSlash (hi : QueueInv s) (ctx : Context) (k : Nat) (p : ConsumerPacketDataWithIdx)
    (hw : ¬ s.keeper.waitingOnReply) (hk : ∀ p ∈ s.keeper.queue.take k, ¬ p.isSlash)
    (hp : s.keeper.queue[k]? = some p) (hs : p.isSlash)
    (hq : s'.keeper.pendingPackets = s.keeper.pendingPackets.dropFront k)
    (hr : s'.keeper.slashRecord = some ⟨true, ctx.blockTime⟩)
    (hf : s'.inFlight = s.inFlight ++ s.keeper.queue.take k ++ [p]) (ha : s'.appended = s.appended)
    (ht : s'.transmitted = s.transmitted ++ s.keeper.queue.take k ++ [p]) : QueueInv s' := by
  have hF := hi.not_slash_of_not_waiting hw
  have hq' : s'.keeper.queue = s.keeper.queue.drop k := by simp [State.queue, hq]
  have hhead : s'.keeper.queue.head? = some p := by rw [hq', List.head?_drop]; exact hp
  have hslash : ∀ x ∈ s'.inFlight, x.isSlash → x = p := by
    intro x hx hxs
    rw [hf, List.mem_append, List.mem_append, List.mem_singleton] at hx
    exact hx.elim (fun h => h.elim (fun h => absurd hxs (hF x h)) (fun h => absurd hxs (hk x h))) id
  obtain ⟨done, hA, hT⟩ := hi.delivered
  refine ⟨?_, fun x hx hxs => hslash x hx hxs ▸ ⟨hhead, by simp [State.waitingOnReply, hr]⟩,
    fun _ => ⟨p, hhead, hs⟩, by rw [ha, hq]; exact hi.appended_idx,
    ⟨done ++ s.keeper.queue.take k, ?_, ?_⟩⟩
  · rw [hf, List.filter_append, List.filter_append,
      List.filter_eq_nil_iff.2 fun x hx => by simpa using hF x hx,
      List.filter_eq_nil_iff.2 fun x hx => by simpa using hk x hx]
    simp [hs]
  · rw [ha, hA, hq', List.append_assoc, List.take_append_drop]
  · have hd : (s.keeper.queue.drop k).take 1 = [p] := by
      rw [List.take_one, List.head?_drop, hp]; rfl
    rw [ht, hr, hq', Option.isSome_some, if_pos rfl, hd, mergeRetransmissions_concat]
    cases hrec : s.keeper.slashRecord with
    | some r =>
      obtain rfl := hi.take_eq_zero (by simp [hrec]) hk
      have hp0 : s.keeper.queue.take 1 = [p] := by simpa using hd
      simp only [hrec, Option.isSome_some, if_true, hp0] at hT
      simp [hT, hs]
    | none =>
      simp only [hrec, Option.isSome_none, Bool.false_eq_true, if_false, List.take_zero,
        List.append_nil] at hT
      have hnd := hA ▸ hi.nodup_appended
      rw [← List.take_append_drop k s.keeper.queue, ← List.append_assoc] at hnd
      have hpd : p ∈ s.keeper.queue.drop k := @List.getElem?_mem _ _ 0 _ (by simpa using hp)
      rw [mergeRetransmissions_append_of_not_slash _ _ hk, hT, if_neg]
      rintro ⟨-, hl⟩
      exact List.disjoint_of_nodup_append hnd (List.mem_of_getLast?_eq_some hl) hpd

theorem ackHandled (hi : QueueInv s) (sent : ConsumerPacketDataWithIdx) (hm : sent ∈ s.inFlight)
    (hs : sent.isSlash) (hq : s'.keeper.pendingPackets = s.keeper.pendingPackets.deleteHead)
    (hr : s'.keeper.slashRecord = none) (hf : s'.inFlight = s.inFlight.erase sent)
    (ha : s'.appended = s.appended) (ht : s'.transmitted = s.transmitted) : QueueInv s' := by
  obtain ⟨hhead, hwait⟩ := hi.slash_inFlight_head sent hm hs
  have hF := not_slash_of_mem_erase hi.slash_inFlight_le_one hm hs
  obtain ⟨tail, hqt⟩ : ∃ tail, s.keeper.queue = sent :: tail := by
    cases hq0 : s.keeper.queue with
    | nil => simp [hq0] at hhead
    | cons x xs => simp [hq0] at hhead; exact ⟨xs, by rw [hhead]⟩
  have hq' : s'.keeper.queue = tail := by simp only [State.queue] at hqt ⊢; simp [hq, hqt]
  have hrec : s.keeper.slashRecord.isSome := by
    unfold State.waitingOnReply at hwait; cases h : s.keeper.slashRecord <;> simp_all
  obtain ⟨done, hA, hT⟩ := hi.delivered
  refine ⟨by simp [hf, List.filter_eq_nil_iff.2 hF], fun p hp hps => absurd hps (hF p (hf ▸ hp)),
    by simp [hr], by rw [ha, hq]; exact hi.appended_idx, ⟨done ++ [sent], ?_, ?_⟩⟩
  · rw [ha, hA, hq', hqt]; simp
  · rw [ht, hT, hr, hq', hrec, hqt]; simp

theorem ackBounced (hi : QueueInv s) (sent : ConsumerPacketDataWithIdx) (hm : sent ∈ s.inFlight)
    (hs : sent.isSlash) (hq : s'.keeper.pendingPackets = s.keeper.pendingPackets)
    (hr : s'.keeper.slashRecord =
      s.keeper.slashRecord.map (fun r => { r with waitingOnReply := false }))
    (hf : s'.inFlight = s.inFlight.erase sent) (ha : s'.appended = s.appended)
    (ht : s'.transmitted = s.transmitted) : QueueInv s' := by
  obtain ⟨hhead, -⟩ := hi.slash_inFlight_head sent hm hs
  have hF := not_slash_of_mem_erase hi.slash_inFlight_le_one hm hs
  have hq' : s'.keeper.queue = s.keeper.queue := by simp [State.queue, hq]
  have hsome : s'.keeper.slashRecord.isSome = s.keeper.slashRecord.isSome := by simp [hr]
  obtain ⟨done, hA, hT⟩ := hi.delivered
  refine ⟨by simp [hf, List.filter_eq_nil_iff.2 hF], fun p hp hps => absurd hps (hF p (hf ▸ hp)),
    fun _ => ⟨sent, hq' ▸ hhead, hs⟩, by rw [ha, hq]; exact hi.appended_idx, ⟨done, ?_, ?_⟩⟩
  · rw [ha, hA, hq']
  · rw [ht, hT, hsome, hq']

/-- Every allowed step keeps the invariant. -/
theorem step (hi : QueueInv s) {ccv : Ccv} {ctx : Context} {a : Action} (ha : a.allowed s) :
    QueueInv (ConsumerRelay.step ccv ctx a s) := by
  cases queueStep ccv ctx ha with
  | frame hq hr hf ha ht => exact hi.frame hq hr hf ha ht
  | append d hq hr hf ha ht => exact hi.append d hq hr hf ha ht
  | sendMatured k hw hk _ hq hr hf ha ht => exact hi.sendMatured k hw hk hq hr hf ha ht
  | sendSlash k p hw hk hp hs _ hq hr hf ha ht =>
    exact hi.sendSlash ctx k p hw hk hp hs hq hr hf ha ht
  | ackHandled _ hm hs hq hr hf ha ht => exact hi.ackHandled _ hm hs hq hr hf ha ht
  | ackBounced sent hm hs hq hr hf ha ht => exact hi.ackBounced sent hm hs hq hr hf ha ht

end QueueInv

theorem queueInv_of_reachable {ccv : Ccv} {s : Sys} (h : Reachable ccv s) : QueueInv s :=
  Reachable.induction QueueInv QueueInv.init (fun _ _ _ _ hi ha => hi.step ha) h

end ConsumerRelay
