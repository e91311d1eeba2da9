import ConsumerRelay.HeadOfLine

/-!
What the consumer can still do from a reachable state. Cooperative steps (flushes the transport
takes whole, V1 acknowledgements of the slash packets sent) empty the queue within two steps per
pending packet. An acknowledgement of the slash packet in flight that is an error, or a result
other than V1, handled or bounced, stalls the consumer for good.
-/

set_option autoImplicit false

namespace ConsumerRelay

theorem sendLoop_allSent_cons (channelID : String) (p : ConsumerPacketDataWithIdx)
    (rest : List ConsumerPacketDataWithIdx) :
    sendLoop channelID allSent (p :: rest) =
      if p.isSlash then ⟨[.sendIBCPacket channelID p .ok], [], true⟩
      else ⟨.sendIBCPacket channelID p .ok :: (sendLoop channelID allSent rest).effects,
        p.idx :: (sendLoop channelID allSent rest).idxsForDeletion,
        (sendLoop channelID allSent rest).slashSent⟩ := by
  by_cases hs : p.isSlash
  · simp [sendLoop, hs, ConsumerPacketDataWithIdx.isSlash_iff.1 hs]
  · simp [sendLoop, hs, mt ConsumerPacketDataWithIdx.isSlash_iff.2 hs]

section
variable (ctx : Context) {s : State} {channelID : String} {p : ConsumerPacketDataWithIdx}
  {rest : List ConsumerPacketDataWithIdx}

theorem sendPackets_allSent_slash (hc : s.providerChannel = some channelID)
    (hq : s.queue = p :: rest) (hs : p.isSlash) :
    sendPackets ctx allSent s =
      ⟨s.updateSlashRecordOnSend ctx, [.sendIBCPacket channelID p .ok], .ok⟩ := by
  simp [sendPackets, hc, hq, sendLoop_allSent_cons, hs]

theorem sendPackets_allSent_matured (hc : s.providerChannel = some channelID)
    (hq : s.queue = p :: rest) (hs : ¬ p.isSlash) :
    (sendPackets ctx allSent s).state.queue.length ≤ rest.length := by
  have hq' : s.pendingPackets.entries = p :: rest := hq
  have hdel : ∀ (t : State) (idxs : List Nat), t.pendingPackets = s.pendingPackets →
      (t.deletePendingDataPackets (p.idx :: idxs)).queue.length ≤ rest.length := by
    intro t idxs ht
    simpa [State.queue, ht, hq'] using List.length_filter_le _ rest
  simp only [sendPackets, hc, hq, sendLoop_allSent_cons, if_neg hs]
  split <;> exact hdel _ _ rfl

end

/-- A slash record that waits on a reply waits on a slash packet in flight. -/
def Sys.AwaitsInFlight (s : Sys) : Prop := s.keeper.waitingOnReply → ∃ p ∈ s.inFlight, p.isSlash

theorem awaitsInFlight_sendPackets {ccv : Ccv} {ctx : Context} {answers : Stream' Attempt}
    {s : Sys} (h : s.AwaitsInFlight) : (step ccv ctx (.sendPackets answers) s).AwaitsInFlight := by
  intro hw
  cases hc : s.keeper.providerChannel with
  | none =>
    simp only [step, Sys.commit_keeper, sendPackets_of_unbound hc] at hw
    obtain ⟨p, hp, hs⟩ := h hw
    exact ⟨p, by simp [step, hp], hs⟩
  | some channelID =>
    obtain ⟨k, -, -, -, ⟨_, -, he⟩ | ⟨p, -, hs, -, -, he⟩⟩ := sendPackets_cases ctx answers hc
    · simp only [step, Sys.commit_keeper, he] at hw
      obtain ⟨p, hp, hs⟩ := h hw
      exact ⟨p, by simp [step, hp], hs⟩
    · exact ⟨p, by simp [step, he, transmitted, Effect.transmitted?], hs⟩

theorem run_append (ccv : Ccv) (s : Sys) (l₁ l₂ : List (Context × Action)) :
    run ccv s (l₁ ++ l₂) = (run ccv s l₁).bind fun s' => run ccv s' l₂ := by
  induction l₁ generalizing s with
  | nil => rfl
  | cons x l₁ ih =>
    simp only [List.cons_append, run]
    split <;> simp [ih]

/-- The steps of a cooperative environment in the context `ctx`: a flush in which every attempt
is permitted and sent, or a V1 acknowledgement of a packet in flight. -/
def CooperativeSteps (ctx : Context) (close : String → String → Except String Unit)
    (l : List (Context × Action)) : Prop :=
  ∀ x ∈ l, x = (ctx, .sendPackets allSent) ∨
    ∃ sent packet, x = (ctx, .onAcknowledgementPacket sent packet (.result [v1Result]) close)

/-- From `s`, cooperative steps empty the queue, at most two per pending packet, and append
nothing; the transmissions, retransmissions merged, are then every packet ever appended, in
append order. -/
def Drains (ccv : Ccv) (ctx : Context) (close : String → String → Except String Unit)
    (s : Sys) : Prop :=
  ∃ l s', run ccv s l = some s' ∧ CooperativeSteps ctx close l ∧
    l.length ≤ 2 * s.keeper.queue.length ∧ s'.keeper.queue = [] ∧ s'.appended = s.appended ∧
    mergeRetransmissions s'.transmitted = s.appended

section
variable (ccv : Ccv) (ctx : Context) (close : String → String → Except String Unit)

theorem sendStep {s : Sys} (hw : ¬ s.keeper.waitingOnReply) :
    (Action.sendPackets allSent).allowed s ∧
    (step ccv ctx (.sendPackets allSent) s).keeper = (sendPackets ctx allSent s.keeper).state ∧
    (step ccv ctx (.sendPackets allSent) s).appended = s.appended := by
  refine ⟨by simpa [Action.allowed] using hw, rfl, ?_⟩
  simp [step, Sys.newEntries_of_nextIdx]

theorem ackStep {s : Sys} {p : ConsumerPacketDataWithIdx} (hp : p ∈ s.inFlight) (hs : p.isSlash)
    (channelID : String) :
    (ackAction channelID close p).allowed s ∧
    (step ccv ctx (ackAction channelID close p) s).keeper =
      s.keeper.clearSlashRecord.deleteHeadOfPendingPackets ∧
    (step ccv ctx (ackAction channelID close p) s).appended = s.appended := by
  have ht : (ackPacket channelID p).data.type = .slashPacket :=
    ConsumerPacketDataWithIdx.isSlash_iff.1 hs
  refine ⟨by simp [ackAction, Action.allowed, hp, ackPacket], ?_, ?_⟩ <;>
    simp [ackAction, step, onAcknowledgementPacket_handled close _ s.keeper ht (.inl rfl),
      Sys.newEntries_of_nextIdx]

theorem drains_of_empty {s : Sys} (h : Reachable ccv s) (hq : s.keeper.queue = []) :
    Drains ccv ctx close s := by
  obtain ⟨done, hA, hT⟩ := (queueInv_of_reachable h).delivered
  refine ⟨[], s, rfl, fun _ h => absurd h (List.not_mem_nil _), Nat.zero_le _, hq, rfl, ?_⟩
  rw [hT, hA, hq]
  simp

/-- One round of cooperative steps from a reachable state with a bound channel and a nonempty
queue: it shortens the queue and keeps what the next round needs. -/
theorem drainRound {s : Sys} (h : Reachable ccv s) {channelID : String}
    (hc : s.keeper.providerChannel = some channelID) (hl : s.AwaitsInFlight)
    {p : ConsumerPacketDataWithIdx} {rest : List ConsumerPacketDataWithIdx}
    (hq : s.keeper.queue = p :: rest) :
    ∃ l s', run ccv s l = some s' ∧ CooperativeSteps ctx close l ∧ l.length ≤ 2 ∧
      s'.keeper.queue.length ≤ rest.length ∧ Reachable ccv s' ∧
      s'.keeper.providerChannel = some channelID ∧ s'.AwaitsInFlight ∧
      s'.appended = s.appended := by
  have hi := queueInv_of_reachable h
  have hq' : s.keeper.pendingPackets.entries = p :: rest := hq
  by_cases hw : s.keeper.waitingOnReply
  · -- the slash packet at the head is in flight: acknowledge it
    obtain ⟨r, hr, hs⟩ := hl hw
    have hhead := (hi.slash_inFlight_head r hr hs).1
    rw [hq, List.head?_cons, Option.some.injEq] at hhead
    subst hhead
    obtain ⟨ha, hk, happ⟩ := ackStep ccv ctx close hr hs channelID
    refine ⟨[(ctx, ackAction channelID close p)], _, by simp [run, ha],
      fun x hx => .inr ⟨_, _, List.mem_singleton.1 hx⟩, by simp, ?_, h.tail ⟨ctx, _, ha, rfl⟩,
      by simp [hk, hc], fun hw' => ?_, happ⟩
    · simp [hk, State.queue, hq']
    · simp [hk, State.waitingOnReply] at hw'
  · obtain ⟨ha, hk, happ⟩ := sendStep ccv ctx hw
    have h₁ : Reachable ccv (step ccv ctx (.sendPackets allSent) s) := h.tail ⟨ctx, _, ha, rfl⟩
    by_cases hs : p.isSlash
    · -- send the slash packet at the head, then acknowledge it
      have he := sendPackets_allSent_slash ctx hc hq hs
      have hp : p ∈ (step ccv ctx (.sendPackets allSent) s).inFlight := by
        simp [step, he, transmitted, Effect.transmitted?]
      obtain ⟨ha₂, hk₂, happ₂⟩ := ackStep ccv ctx close hp hs channelID
      refine ⟨[(ctx, .sendPackets allSent), (ctx, ackAction channelID close p)], _,
        by simp [run, ha, ha₂], ?_, by simp, ?_,
        h₁.tail ⟨ctx, _, ha₂, rfl⟩, by simp [hk₂, hk, he, hc], fun hw' => ?_, happ₂.trans happ⟩
      · intro x hx
        rcases List.mem_pair.1 hx with rfl | rfl
        exacts [.inl rfl, .inr ⟨_, _, rfl⟩]
      · simp [hk₂, hk, he, State.queue, hq']
      · simp [hk₂, State.waitingOnReply] at hw'
    · -- send the VSC-matured packets at the head
      refine ⟨[(ctx, .sendPackets allSent)], _, by simp [run, ha],
        fun x hx => .inl (List.mem_singleton.1 hx),
        by simp, hk ▸ sendPackets_allSent_matured ctx hc hq hs, h₁, by simp [hk, hc],
        awaitsInFlight_sendPackets hl, happ⟩

/-- The drain from a state whose queue holds at most `n` packets, by induction on `n`. -/
theorem drains_of_length_le {channelID : String} (n : Nat) :
    ∀ s : Sys, s.keeper.queue.length ≤ n → Reachable ccv s →
      s.keeper.providerChannel = some channelID → s.AwaitsInFlight → Drains ccv ctx close s := by
  induction n with
  | zero => exact fun s hn h _ _ => drains_of_empty ccv ctx close h (List.eq_nil_of_length_eq_zero
      (Nat.le_zero.1 hn))
  | succ n ih =>
    intro s hn h hc hl
    cases hq : s.keeper.queue with
    | nil => exact drains_of_empty ccv ctx close h hq
    | cons p rest =>
      rw [hq, List.length_cons] at hn
      obtain ⟨l₁, s₁, hr₁, hco₁, hl₁, hlen, h₁, hc₁, hw₁, ha₁⟩ :=
        drainRound ccv ctx close h hc hl hq
      obtain ⟨l₂, s₂, hr₂, hco₂, hl₂, hq₂, ha₂, hT₂⟩ := ih s₁ (by omega) h₁ hc₁ hw₁
      refine ⟨l₁ ++ l₂, s₂, by rw [run_append, hr₁]; exact hr₂,
        fun x hx => (List.mem_append.1 hx).elim (hco₁ x) (hco₂ x), ?_, hq₂, ha₂.trans ha₁,
        ha₁ ▸ hT₂⟩
      rw [List.length_append, hq, List.length_cons]
      omega

end

/-! ## The fatal case -/

/-- The slash record waits on a reply and no slash packet is in flight to bring one. -/
def Sys.Stalled (s : Sys) : Prop := s.keeper.waitingOnReply ∧ ∀ p ∈ s.inFlight, ¬ p.isSlash

theorem stalled_step {ccv : Ccv} {ctx : Context} {a : Action} {s : Sys} (h : s.Stalled)
    (ha : a.allowed s) :
    (step ccv ctx a s).Stalled ∧ (step ccv ctx a s).transmitted = s.transmitted := by
  have hw : ∀ t : Sys, t.keeper.slashRecord = s.keeper.slashRecord → t.keeper.waitingOnReply :=
    fun t ht => by simpa [State.waitingOnReply, ht] using h.1
  cases queueStep ccv ctx ha with
  | frame _ hr hf _ ht => exact ⟨⟨hw _ hr, fun p hp => h.2 p (hf.subset hp)⟩, ht⟩
  | append _ _ hr hf _ ht => exact ⟨⟨hw _ hr, hf ▸ h.2⟩, ht⟩
  | sendMatured _ hnw => exact absurd h.1 hnw
  | sendSlash _ _ hnw => exact absurd h.1 hnw
  | ackHandled _ hm hs => exact absurd hs (h.2 _ hm)
  | ackBounced _ hm hs => exact absurd hs (h.2 _ hm)

theorem stalled_of_reflTransGen {ccv : Ccv} {s s' : Sys} (h : s.Stalled)
    (hr : Relation.ReflTransGen (Next ccv) s s') : s'.Stalled ∧ s'.transmitted = s.transmitted := by
  induction hr with
  | refl => exact ⟨h, rfl⟩
  | tail _ hn ih =>
    obtain ⟨ctx, a, ha, rfl⟩ := hn
    obtain ⟨h', ht⟩ := stalled_step ih.1 ha
    exact ⟨h', ht.trans ih.2⟩

/-- An acknowledgement of the slash packet in flight that is an error, or a result other than
V1, slash-handled or bounced, stalls the consumer for good: in every later state the slash
record waits on a reply, so no send is permitted, and nothing more has been transmitted. -/
theorem unanswered_ack_stalls {ccv : Ccv} {s : Sys} (h : Reachable ccv s) {ctx : Context}
    {sent : ConsumerPacketDataWithIdx} {packet : Packet ConsumerPacketData} {ack : Acknowledgement}
    {close : String → String → Except String Unit}
    (ha : (Action.onAcknowledgementPacket sent packet ack close).allowed s) (hs : sent.isSlash)
    (hack : ∀ res, ack = .result [res] →
      res ≠ v1Result ∧ res ≠ slashPacketHandledResult ∧ res ≠ slashPacketBouncedResult)
    {s' : Sys}
    (hr : Relation.ReflTransGen (Next ccv)
      (step ccv ctx (.onAcknowledgementPacket sent packet ack close) s) s') :
    s'.Stalled ∧ s'.transmitted = s.transmitted := by
  have hi := queueInv_of_reachable h
  simp only [Action.allowed, Bool.and_eq_true, decide_eq_true_eq, beq_iff_eq] at ha
  obtain ⟨ht, hkeep⟩ :
      transmitted (onAcknowledgementPacket close packet ack s.keeper).effects = [] ∧
      (onAcknowledgementPacket close packet ack s.keeper).state = s.keeper := by
    obtain ⟨ht, he | ⟨-, hr', -⟩ | ⟨-, hr', -⟩⟩ :=
      onAcknowledgementPacket_cases close packet s.keeper ack
    · exact ⟨ht, he⟩
    · rcases hr' with rfl | rfl
      exacts [absurd rfl (hack _ rfl).1, absurd rfl (hack _ rfl).2.1]
    · subst hr'
      exact absurd rfl (hack _ rfl).2.2
  have h₀ : (step ccv ctx (.onAcknowledgementPacket sent packet ack close) s).Stalled :=
    ⟨by simpa [step, hkeep] using (hi.slash_inFlight_head sent ha.1 hs).2,
      by simpa [step, ht] using not_slash_of_mem_erase hi.slash_inFlight_le_one ha.1 hs⟩
  obtain ⟨h', ht'⟩ := stalled_of_reflTransGen h₀ hr
  exact ⟨h', ht'.trans (by simp [step, ht])⟩

theorem errorAck_stalls :
    (step ccvExample ⟨4, 15⟩ (.onAcknowledgementPacket slashPacketA
        (ackPacket "channel-0" slashPacketA) (.error "invalid slash packet") fun _ _ => .ok ())
        slashInFlight).Stalled ∧
      (step ccvExample ⟨4, 15⟩ (.onAcknowledgementPacket slashPacketA
        (ackPacket "channel-0" slashPacketA) (.error "invalid slash packet") fun _ _ => .ok ())
        slashInFlight).transmitted = slashInFlight.transmitted :=
  unanswered_ack_stalls
    (Reachable.of_run slashInFlightRun (.refl : Reachable ccvExample Sys.init) rfl) (by decide)
    (by decide) (by intro _ h; cases h) .refl

end ConsumerRelay
