import ConsumerRelay.Progress

/-!
The consumer with `PacketSendingPermitted` in the send loop. The slash record changes inside
the loop only when a slash packet is sent, and the loop stops there, so every iteration of a
flush gets the answer the store gives before it. In every throttled run two transmissions of the
same packet are at least the retry delay period apart, and the throttle does not stop the queue
from draining at a block time at which the record waits on a reply or allows a send.
-/

set_option autoImplicit false

namespace ConsumerRelay

theorem mem_mergeRetransmissions {p : ConsumerPacketDataWithIdx} :
    ∀ {l : List ConsumerPacketDataWithIdx}, p ∈ l → p ∈ mergeRetransmissions l := by
  intro l
  induction l using List.reverseRecOn with
  | nil => exact id
  | append_singleton l x ih =>
    intro hp
    rw [mergeRetransmissions_concat]
    rcases List.mem_append.1 hp with hp | hp
    · split <;> simp [ih hp]
    · rw [List.mem_singleton.1 hp]
      split
      · exact List.mem_of_getLast?_eq_some ‹_ ∧ _›.2
      · simp

namespace QueueInv

variable {s : Sys}

theorem nodup_queue (hi : QueueInv s) : s.keeper.queue.Nodup :=
  let ⟨_, hA, _⟩ := hi.delivered
  (hA ▸ hi.nodup_appended).of_append_right

theorem head_of_transmitted (hi : QueueInv s) {p : ConsumerPacketDataWithIdx}
    (ht : p ∈ s.transmitted) (hq : p ∈ s.keeper.queue) :
    s.keeper.slashRecord.isSome ∧ s.keeper.queue.head? = some p := by
  obtain ⟨done, hA, hT⟩ := hi.delivered
  have hm := mem_mergeRetransmissions ht
  rw [hT] at hm
  rcases List.mem_append.1 hm with hd | hd
  · exact absurd hq (List.disjoint_of_nodup_append (hA ▸ hi.nodup_appended) hd)
  · cases hr : s.keeper.slashRecord.isSome
    · simp [hr] at hd
    · cases hq0 : s.keeper.queue with
      | nil => simp [hq0] at hq
      | cons x xs => simp_all

end QueueInv

/-- The answers of a flush are those of `PacketSendingPermitted` for the store at the flush's
block time; any other action is one the environment allows. -/
def Action.throttled (retryDelayPeriod : Nat) (ctx : Context) : Action → Sys → Prop
  | .sendPackets answers, s =>
    ∀ i, (answers i).permitted = s.keeper.packetSendingPermitted retryDelayPeriod ctx
  | a, s => a.allowed s

theorem Action.allowed_of_throttled {retryDelayPeriod : Nat} {ctx : Context} {a : Action}
    {s : Sys} (h : a.throttled retryDelayPeriod ctx s) : a.allowed s := by
  cases a with
  | sendPackets answers =>
    by_cases hw : s.keeper.waitingOnReply
    · have hp : answers.head.permitted = false :=
        (h 0).trans (State.packetSendingPermitted_of_waitingOnReply hw _ _)
      simp [Action.allowed, hp]
    · simp [Action.allowed, hw]
  | _ => exact h

theorem permitted_of_transmitted {ctx : Context} {answers : Stream' Attempt} {s : State}
    (h : transmitted (sendPackets ctx answers s).effects ≠ []) : answers.head.permitted := by
  by_contra hp
  rw [sendPackets_of_not_permitted (by simpa using hp)] at h
  exact h rfl

theorem State.sendTime_le_of_permitted {s : State} {retryDelayPeriod : Nat} {ctx : Context}
    (h : s.packetSendingPermitted retryDelayPeriod ctx) {r : SlashRecord}
    (hr : s.slashRecord = some r) : r.sendTime + retryDelayPeriod ≤ ctx.blockTime := by
  simp_all [State.packetSendingPermitted]

/-- The consumer, and its transmissions stamped with the block time of their flush. -/
structure TimedSys where
  sys : Sys
  sends : List (Nat × ConsumerPacketDataWithIdx)

def TimedSys.init : TimedSys := ⟨Sys.init, []⟩

def TimedSys.step (ccv : Ccv) (ctx : Context) (a : Action) (t : TimedSys) : TimedSys where
  sys := ConsumerRelay.step ccv ctx a t.sys
  sends := t.sends ++ ((ConsumerRelay.step ccv ctx a t.sys).transmitted.drop
    t.sys.transmitted.length).map fun p => (ctx.blockTime, p)

def ThrottledNext (ccv : Ccv) (retryDelayPeriod : Nat) (t t' : TimedSys) : Prop :=
  ∃ ctx a, a.throttled retryDelayPeriod ctx t.sys ∧ t.step ccv ctx a = t'

/-- The states of every run in which each flush reads `PacketSendingPermitted`. -/
def ThrottledReachable (ccv : Ccv) (retryDelayPeriod : Nat) (t : TimedSys) : Prop :=
  Relation.ReflTransGen (ThrottledNext ccv retryDelayPeriod) TimedSys.init t

theorem ThrottledReachable.reachable {ccv : Ccv} {retryDelayPeriod : Nat} {t : TimedSys}
    (h : ThrottledReachable ccv retryDelayPeriod t) : Reachable ccv t.sys := by
  induction h with
  | refl => exact .refl
  | tail _ hn ih =>
    obtain ⟨ctx, a, ha, rfl⟩ := hn
    exact ih.tail ⟨ctx, a, Action.allowed_of_throttled ha, rfl⟩

section
variable {retryDelayPeriod : Nat}

/-- The invariant of throttled runs. -/
structure TimedInv (retryDelayPeriod : Nat) (t : TimedSys) : Prop where
  sends_eq : t.sends.map Prod.snd = t.sys.transmitted
  last_send : ∀ r, t.sys.keeper.slashRecord = some r →
    ∃ p, t.sys.keeper.queue.head? = some p ∧ t.sends.getLast? = some (r.sendTime, p)
  spaced : t.sends.Pairwise fun e f => e.2 = f.2 → e.1 + retryDelayPeriod ≤ f.1

theorem le_of_getLast? {sends : List (Nat × ConsumerPacketDataWithIdx)}
    (h : sends.Pairwise fun e f => e.2 = f.2 → e.1 + retryDelayPeriod ≤ f.1)
    {x e : Nat × ConsumerPacketDataWithIdx} (hx : sends.getLast? = some x) (he : e ∈ sends)
    (heq : e.2 = x.2) : e.1 ≤ x.1 := by
  obtain ⟨ys, rfl⟩ := List.getLast?_eq_some_iff.1 hx
  rcases List.mem_append.1 he with he | he
  · have := (List.pairwise_append.1 h).2.2 e he x (List.mem_singleton_self x) heq
    omega
  · rw [List.mem_singleton.1 he]

theorem spaced_append {sends : List (Nat × ConsumerPacketDataWithIdx)}
    (hs : sends.Pairwise fun e f => e.2 = f.2 → e.1 + retryDelayPeriod ≤ f.1)
    {l : List ConsumerPacketDataWithIdx} (hl : l.Nodup) {τ : Nat}
    (hx : ∀ e ∈ sends, ∀ q ∈ l, e.2 = q → e.1 + retryDelayPeriod ≤ τ) :
    (sends ++ l.map fun p => (τ, p)).Pairwise
      fun e f => e.2 = f.2 → e.1 + retryDelayPeriod ≤ f.1 := by
  refine List.pairwise_append.2 ⟨hs, List.pairwise_map.2 (hl.imp fun hne heq => absurd heq hne),
    fun e he f hf heq => ?_⟩
  obtain ⟨q, hq, rfl⟩ := List.mem_map.1 hf
  exact hx e he q hq heq

namespace TimedInv

variable {t : TimedSys}

theorem earlier_sends (ht : TimedInv retryDelayPeriod t) (hi : QueueInv t.sys) {τ : Nat}
    (hperm : ∀ r, t.sys.keeper.slashRecord = some r → r.sendTime + retryDelayPeriod ≤ τ) :
    ∀ e ∈ t.sends, ∀ q ∈ t.sys.keeper.queue, e.2 = q → e.1 + retryDelayPeriod ≤ τ := by
  intro e he q hq heq
  have hmem : q ∈ t.sys.transmitted := ht.sends_eq ▸ List.mem_map.2 ⟨e, he, heq⟩
  obtain ⟨hr, hhead⟩ := hi.head_of_transmitted hmem hq
  obtain ⟨r, hr⟩ := Option.isSome_iff_exists.1 hr
  obtain ⟨p, hp, hlast⟩ := ht.last_send r hr
  obtain rfl : p = q := Option.some.inj (hp.symm.trans hhead)
  have h₁ := le_of_getLast? ht.spaced hlast he heq
  have h₂ := hperm r hr
  omega

theorem spaced_flush (ht : TimedInv retryDelayPeriod t) (hi : QueueInv t.sys) {ctx : Context} {answers : Stream' Attempt}
    (ha : (Action.sendPackets answers).throttled retryDelayPeriod ctx t.sys)
    {l : List ConsumerPacketDataWithIdx}
    (hl : transmitted (sendPackets ctx answers t.sys.keeper).effects = l)
    (hlq : l.Sublist t.sys.keeper.queue) :
    (t.sends ++ l.map fun p => (ctx.blockTime, p)).Pairwise
      fun e f => e.2 = f.2 → e.1 + retryDelayPeriod ≤ f.1 := by
  refine spaced_append ht.spaced (hi.nodup_queue.sublist hlq) fun e he q hq => ?_
  have hperm : t.sys.keeper.packetSendingPermitted retryDelayPeriod ctx :=
    (ha 0).symm.trans (permitted_of_transmitted (hl ▸ List.ne_nil_of_mem hq))
  exact ht.earlier_sends hi (fun r hr => State.sendTime_le_of_permitted hperm hr) e he q
    (hlq.subset hq)

theorem of_step (ht : TimedInv retryDelayPeriod t) {ccv : Ccv} {ctx : Context} {a : Action}
    (l : List ConsumerPacketDataWithIdx)
    (htr : (ConsumerRelay.step ccv ctx a t.sys).transmitted = t.sys.transmitted ++ l)
    (hlast : ∀ r, (ConsumerRelay.step ccv ctx a t.sys).keeper.slashRecord = some r →
      ∃ p, (ConsumerRelay.step ccv ctx a t.sys).keeper.queue.head? = some p ∧
        (t.sends ++ l.map fun p => (ctx.blockTime, p)).getLast? = some (r.sendTime, p))
    (hsp : (t.sends ++ l.map fun p => (ctx.blockTime, p)).Pairwise
      fun e f => e.2 = f.2 → e.1 + retryDelayPeriod ≤ f.1) :
    TimedInv retryDelayPeriod (t.step ccv ctx a) := by
  have hs : (t.step ccv ctx a).sends = t.sends ++ l.map fun p => (ctx.blockTime, p) := by
    simp [TimedSys.step, htr]
  exact ⟨by simp [hs, ht.sends_eq, TimedSys.step, htr], by rw [hs]; exact hlast,
    by rw [hs]; exact hsp⟩

theorem step (ht : TimedInv retryDelayPeriod t) (hi : QueueInv t.sys) {ccv : Ccv}
    {ctx : Context} {a : Action} (ha : a.throttled retryDelayPeriod ctx t.sys) :
    TimedInv retryDelayPeriod (t.step ccv ctx a) := by
  cases queueStep ccv ctx (Action.allowed_of_throttled ha) with
  | frame hq hr _ _ htr =>
    refine ht.of_step [] (by simp [htr]) (fun r h => ?_) (by simpa using ht.spaced)
    obtain ⟨p, hp, hl⟩ := ht.last_send r (hr ▸ h)
    exact ⟨p, by rw [State.queue_of_pendingPackets hq, hp], by simpa using hl⟩
  | append d hq hr _ _ htr =>
    refine ht.of_step [] (by simp [htr]) (fun r h => ?_) (by simpa using ht.spaced)
    obtain ⟨p, hp, hl⟩ := ht.last_send r (hr ▸ h)
    simp only [State.queue] at hp
    exact ⟨p, by simp [State.queue, hq, hp], by simpa using hl⟩
  | sendMatured k _ hk hl hq hr _ _ htr =>
    refine ht.of_step _ htr (fun r h => ?_) (ht.spaced_flush hi ha hl (List.take_sublist _ _))
    rw [hr] at h
    obtain rfl := hi.take_eq_zero (by simp [h]) hk
    obtain ⟨p, hp, hl⟩ := ht.last_send r h
    simp only [State.queue] at hp
    exact ⟨p, by simp [State.queue, hq, hp], by simpa using hl⟩
  | sendSlash k p _ _ hp _ hl hq hr _ _ htr =>
    have hk : t.sys.keeper.queue.take k ++ [p] = t.sys.keeper.queue.take (k + 1) := by
      rw [List.take_succ, hp]; rfl
    refine ht.of_step _ (htr.trans (List.append_assoc _ _ _)) (fun r h => ?_)
      (ht.spaced_flush hi ha hl (hk ▸ List.take_sublist _ _))
    rw [hr, Option.some.injEq] at h
    subst h
    exact ⟨p, by simpa [State.queue, hq, List.head?_drop] using hp, by simp⟩
  | ackHandled _ _ _ _ hr _ _ htr =>
    exact ht.of_step [] (by simp [htr]) (fun r h => by simp [hr] at h) (by simpa using ht.spaced)
  | ackBounced _ _ _ hq hr _ _ htr =>
    refine ht.of_step [] (by simp [htr]) (fun r h => ?_) (by simpa using ht.spaced)
    rw [hr] at h
    obtain ⟨r₀, h₀, rfl⟩ := Option.map_eq_some'.1 h
    obtain ⟨p, hp, hl⟩ := ht.last_send r₀ h₀
    exact ⟨p, by rw [State.queue_of_pendingPackets hq, hp], by simpa using hl⟩

end TimedInv

theorem timedInv_of_reachable {ccv : Ccv} {t : TimedSys}
    (h : ThrottledReachable ccv retryDelayPeriod t) : TimedInv retryDelayPeriod t := by
  induction h with
  | refl => exact ⟨rfl, by simp [TimedSys.init, Sys.init, State.empty], .nil⟩
  | tail hr hn ih =>
    obtain ⟨ctx, a, ha, rfl⟩ := hn
    exact ih.step (queueInv_of_reachable (ThrottledReachable.reachable hr)) ha

end

/-- In every run in which each flush reads `PacketSendingPermitted`, with any transport results
and any block times, the transmissions stamped with the block time of their flush are the
packets handed to the transport, and two transmissions of the same packet are at least the retry
delay period apart: a slash packet is sent again only once the delay from its last send has
passed. -/
theorem sends_spaced_of_throttled {ccv : Ccv} {retryDelayPeriod : Nat} {t : TimedSys}
    (h : ThrottledReachable ccv retryDelayPeriod t) :
    t.sends.map Prod.snd = t.sys.transmitted ∧
      t.sends.Pairwise fun e f => e.2 = f.2 → e.1 + retryDelayPeriod ≤ f.1 :=
  let hi := timedInv_of_reachable h
  ⟨hi.sends_eq, hi.spaced⟩

/-- A throttled run with a retry delay of 5: the channel is bound, a downtime slash packet is
queued and sent at time 10, the provider bounces it at time 12, and it is sent again at time
15. -/
def bounceRetried : TimedSys :=
  ((((TimedSys.init.step ccvExample ⟨1, 0⟩
    (.onRecvVSCPacket ⟨"provider", "channel-0", consumerPortID, "channel-0", ⟨[], 1, []⟩⟩)).step
    ccvExample ⟨2, 5⟩ (.queueSlashPacket ⟨[1], 10⟩ 1 .downtime)).step
    ccvExample ⟨3, 10⟩ (.sendPackets allSent)).step
    ccvExample ⟨4, 12⟩ (.onAcknowledgementPacket slashPacketA
      (ackPacket "channel-0" slashPacketA) (.result [slashPacketBouncedResult]) fun _ _ => .ok ())).step
    ccvExample ⟨5, 15⟩ (.sendPackets allSent)

theorem bounceRetried_spaced :
    bounceRetried.sends.map Prod.snd = bounceRetried.sys.transmitted ∧
      bounceRetried.sends.Pairwise fun e f => e.2 = f.2 → e.1 + 5 ≤ f.1 :=
  sends_spaced_of_throttled (show ThrottledReachable ccvExample 5 bounceRetried by
    refine .tail (.tail (.tail (.tail (.tail .refl ⟨_, _, ?_, rfl⟩) ⟨_, _, ?_, rfl⟩)
      ⟨_, _, ?_, rfl⟩) ⟨_, _, ?_, rfl⟩) ⟨_, _, ?_, rfl⟩
    exacts [rfl, rfl, fun _ => rfl, rfl, fun _ => rfl])

example : bounceRetried.sends = [(10, slashPacketA), (15, slashPacketA)] := rfl

/-! ## Draining under the throttle -/

/-- At the block time of `ctx`, the slash record waits on a reply, or `PacketSendingPermitted`
allows a send. -/
def Sys.SendableAt (retryDelayPeriod : Nat) (ctx : Context) (s : Sys) : Prop :=
  s.keeper.waitingOnReply ∨ s.keeper.packetSendingPermitted retryDelayPeriod ctx

instance (retryDelayPeriod : Nat) (ctx : Context) :
    DecidablePred (Sys.SendableAt retryDelayPeriod ctx) :=
  fun _ => inferInstanceAs (Decidable (_ ∨ _))

/-- A throttled run that takes the steps of `l` in order. -/
inductive ThrottledRun (ccv : Ccv) (retryDelayPeriod : Nat) :
    List (Context × Action) → TimedSys → TimedSys → Prop where
  | nil (t : TimedSys) : ThrottledRun ccv retryDelayPeriod [] t t
  | cons {ctx : Context} {a : Action} {rest : List (Context × Action)} {t t' : TimedSys} :
      a.throttled retryDelayPeriod ctx t.sys →
      ThrottledRun ccv retryDelayPeriod rest (t.step ccv ctx a) t' →
      ThrottledRun ccv retryDelayPeriod ((ctx, a) :: rest) t t'

section
variable {ccv : Ccv} {retryDelayPeriod : Nat} {ctx : Context}
  {close : String → String → Except String Unit}

theorem sendableAt_step {s : Sys} (hs : s.SendableAt retryDelayPeriod ctx)
    {x : Context × Action} (hx : CooperativeSteps ctx close [x]) :
    (step ccv x.1 x.2 s).SendableAt retryDelayPeriod ctx := by
  rcases hx x (.head _) with rfl | ⟨sent, packet, rfl⟩
  · rcases sendPackets_slashRecord_cases ctx allSent s.keeper with h | h
    · simpa [Sys.SendableAt, State.waitingOnReply, State.packetSendingPermitted, step, h] using hs
    · exact .inl (by simp [step, State.waitingOnReply, h])
  · obtain ⟨-, he | ⟨-, -, he⟩ | ⟨-, hb, -⟩⟩ :=
      onAcknowledgementPacket_cases close packet s.keeper (.result [v1Result])
    · simpa [Sys.SendableAt, step, he] using hs
    · exact .inr (by simp [step, he, State.packetSendingPermitted])
    · simp [v1Result, slashPacketBouncedResult] at hb

theorem throttled_of_sendableAt {s : Sys} (hs : s.SendableAt retryDelayPeriod ctx)
    {x : Context × Action} (hx : CooperativeSteps ctx close [x]) (ha : x.2.allowed s) :
    x.2.throttled retryDelayPeriod x.1 s := by
  rcases hx x (.head _) with rfl | ⟨sent, packet, rfl⟩
  · have hw : s.keeper.waitingOnReply = false := by simpa [Action.allowed] using ha
    simp only [Sys.SendableAt, hw] at hs
    exact fun _ => (hs.resolve_left Bool.false_ne_true).symm
  · exact ha

/-- Cooperative steps in `ctx` from a sendable consumer are a throttled run. -/
theorem throttled_of_cooperative {l : List (Context × Action)} (hl : CooperativeSteps ctx close l) :
    ∀ {t : TimedSys} {s' : Sys}, t.sys.SendableAt retryDelayPeriod ctx → run ccv t.sys l = some s' →
      ∃ t', ThrottledRun ccv retryDelayPeriod l t t' ∧ t'.sys = s' := by
  induction l with
  | nil => exact fun _ h => ⟨_, .nil _, Option.some.inj h⟩
  | cons x rest ih =>
    obtain ⟨ctx', a⟩ := x
    intro t s' hs h
    have hx : CooperativeSteps ctx close [(ctx', a)] :=
      fun y hy => hl y (List.mem_singleton.1 hy ▸ .head _)
    simp only [run] at h
    split at h
    next ha =>
      obtain ⟨t', ht', rfl⟩ := @ih (fun y hy => hl y (.tail _ hy)) (t.step ccv ctx' a) s'
        (sendableAt_step hs hx) h
      exact ⟨t', .cons (throttled_of_sendableAt hs hx ha) ht', rfl⟩
    next => cases h

end

def bounced : TimedSys :=
  (((TimedSys.init.step ccvExample ⟨1, 0⟩
    (.onRecvVSCPacket ⟨"provider", "channel-0", consumerPortID, "channel-0", ⟨[], 1, []⟩⟩)).step
    ccvExample ⟨2, 5⟩ (.queueSlashPacket ⟨[1], 10⟩ 1 .downtime)).step
    ccvExample ⟨3, 10⟩ (.sendPackets allSent)).step
    ccvExample ⟨4, 12⟩ (.onAcknowledgementPacket slashPacketA
      (ackPacket "channel-0" slashPacketA) (.result [slashPacketBouncedResult]) fun _ _ => .ok ())

example : ¬ bounced.sys.SendableAt 5 ⟨4, 12⟩ := by decide

end ConsumerRelay
