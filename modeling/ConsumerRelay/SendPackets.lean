import ConsumerRelay.Relay

/-!
The send loop of `SendPackets`. `sendLoop_cases` says once what one pass can do: send a run of
VSC-matured packets from the head, then stop at the end of the queue, at a refused permission,
at a failed send, or right after sending a slash packet. Everything else about `SendPackets`
is read off it.
-/

set_option autoImplicit false

namespace ConsumerRelay

theorem ConsumerPacketDataWithIdx.isSlash_iff {p : ConsumerPacketDataWithIdx} :
    p.isSlash ↔ p.data.type = .slashPacket := by
  simp [ConsumerPacketDataWithIdx.isSlash]

@[simp] theorem transmitted_nil : transmitted [] = [] := rfl

@[simp] theorem transmitted_append (e f : List Effect) :
    transmitted (e ++ f) = transmitted e ++ transmitted f := List.filterMap_append ..

@[simp] theorem transmitted_sendOk (channelID : String) (l : List ConsumerPacketDataWithIdx) :
    transmitted (l.map fun p => .sendIBCPacket channelID p .ok) = l := by
  induction l with
  | nil => rfl
  | cons p l ih => simpa [transmitted, Effect.transmitted?] using ih

/-- How a pass that sent no slash packet ends after `k` successful sends: at the end of the
queue, at a refused permission, or at a failed send of `q[k]`, its only failed attempt. -/
def PassEnds (channelID : String) (answers : Stream' Attempt) (q : List ConsumerPacketDataWithIdx)
    (k : Nat) (failed : List Effect) : Prop :=
  (k = q.length ∧ failed = []) ∨ ((answers k).permitted = false ∧ failed = []) ∨
    ∃ p, q[k]? = some p ∧ (answers k).permitted ∧ (answers k).result ≠ .ok ∧
      failed = [.sendIBCPacket channelID p (answers k).result]

theorem transmitted_of_passEnds {channelID : String} {answers : Stream' Attempt}
    {q : List ConsumerPacketDataWithIdx} {k : Nat} {failed : List Effect}
    (h : PassEnds channelID answers q k failed) : transmitted failed = [] := by
  rcases h with ⟨-, rfl⟩ | ⟨-, rfl⟩ | ⟨p, -, -, hr, rfl⟩
  · rfl
  · rfl
  · generalize (answers k).result = r at hr
    cases r <;> simp_all [transmitted, Effect.transmitted?]

theorem PassEnds.cons {channelID : String} {answers : Stream' Attempt}
    {p : ConsumerPacketDataWithIdx} {q : List ConsumerPacketDataWithIdx} {k : Nat}
    {failed : List Effect} (h : PassEnds channelID answers.tail q k failed) :
    PassEnds channelID answers (p :: q) (k + 1) failed := by
  rcases h with ⟨rfl, rfl⟩ | h | ⟨r, hr, h⟩
  · exact .inl ⟨rfl, rfl⟩
  · exact .inr (.inl h)
  · exact .inr (.inr ⟨r, by simpa using hr, h⟩)

theorem sendLoop_of_not_permitted {channelID : String} {answers : Stream' Attempt}
    (h : answers.head.permitted = false) (q : List ConsumerPacketDataWithIdx) :
    sendLoop channelID answers q = ⟨[], [], false⟩ := by
  cases q <;> simp [sendLoop, h]

/-- What one pass of the send loop can do: iteration `i` reads the answers `i`. -/
theorem sendLoop_cases (channelID : String) (answers : Stream' Attempt)
    (q : List ConsumerPacketDataWithIdx) :
    ∃ k ≤ q.length, (∀ p ∈ q.take k, ¬ p.isSlash) ∧
      (∀ i < k, (answers i).permitted ∧ (answers i).result = .ok) ∧
      (sendLoop channelID answers q).idxsForDeletion = (q.take k).map (·.idx) ∧
      ((∃ failed, PassEnds channelID answers q k failed ∧
          (sendLoop channelID answers q).effects =
            (q.take k).map (fun p => .sendIBCPacket channelID p .ok) ++ failed ∧
          (sendLoop channelID answers q).slashSent = false) ∨
        (∃ p, q[k]? = some p ∧ p.isSlash ∧ (answers k).permitted ∧ (answers k).result = .ok ∧
          (sendLoop channelID answers q).effects =
            (q.take k).map (fun p => .sendIBCPacket channelID p .ok) ++
              [.sendIBCPacket channelID p .ok] ∧
          (sendLoop channelID answers q).slashSent = true)) := by
  induction q generalizing answers with
  | nil =>
    exact ⟨0, le_rfl, by simp, by simp, rfl, .inl ⟨[], .inl ⟨rfl, rfl⟩, rfl, rfl⟩⟩
  | cons p ps ih =>
    by_cases hp : answers.head.permitted
    · cases hr : answers.head.result with
      | ok =>
        by_cases hs : p.isSlash
        · refine ⟨0, by simp, by simp, by simp, ?_, .inr ⟨p, by simp, hs, hp, hr, ?_⟩⟩ <;>
            simp [sendLoop, hp, hr, ConsumerPacketDataWithIdx.isSlash_iff.1 hs]
        · obtain ⟨k, hk, hm, ha, hi, hc⟩ := ih answers.tail
          have hs' := mt ConsumerPacketDataWithIdx.isSlash_iff.2 hs
          refine ⟨k + 1, by simpa using hk, by simpa [List.take_succ_cons, hs] using hm,
            fun i hi => ?_, by simp [sendLoop, hp, hr, hs', hi], ?_⟩
          · cases i with
            | zero => exact ⟨hp, hr⟩
            | succ i => exact ha i (by omega)
          · rcases hc with ⟨failed, hf, he, hss⟩ | ⟨r, hr', hrs, hrp, hro, he, hss⟩
            · refine .inl ⟨failed, hf.cons, ?_, ?_⟩ <;> simp [sendLoop, hp, hr, hs', he, hss]
            · refine .inr ⟨r, by simpa using hr', hrs, hrp, hro, ?_, ?_⟩ <;>
                simp [sendLoop, hp, hr, hs', he, hss]
      | clientNotActive | failed _ =>
        refine ⟨0, by simp, by simp, by simp, by simp [sendLoop, hp, hr], .inl
          ⟨[.sendIBCPacket channelID p answers.head.result],
            .inr (.inr ⟨p, by simp, hp, (fun h => by cases hr.symm.trans h), rfl⟩), ?_, ?_⟩⟩ <;>
          simp [sendLoop, hp, hr]
    · exact ⟨0, by simp, by simp, by simp, by simp [sendLoop, hp],
        .inl ⟨[], .inr (.inl ⟨Bool.eq_false_iff.2 hp, rfl⟩), by simp [sendLoop, hp],
          by simp [sendLoop, hp]⟩⟩

section
variable {ctx : Context} {answers : Stream' Attempt} {s : State}

@[simp] theorem sendPackets_of_unbound (h : s.providerChannel = none) :
    sendPackets ctx answers s = ⟨s, [], .ok⟩ := by
  simp [sendPackets, h]

theorem sendPackets_of_not_permitted (h : answers.head.permitted = false) :
    sendPackets ctx answers s = ⟨s, [], .ok⟩ := by
  unfold sendPackets
  split
  · rfl
  · rw [sendLoop_of_not_permitted h]
    cases s
    simp only [State.deletePendingDataPackets, Call.mk.injEq, and_true, if_false]
    congr
    ext1 <;> simp

/-- The inversion lemma of `SendPackets`: a prefix of VSC-matured packets is sent and deleted,
and the pass ends with nothing, a failed send, or a slash packet sent and kept at the head. -/
theorem sendPackets_cases (ctx : Context) (answers : Stream' Attempt) {channelID : String}
    (h : s.providerChannel = some channelID) :
    ∃ k ≤ s.queue.length, (∀ p ∈ s.queue.take k, ¬ p.isSlash) ∧
      (∀ i < k, (answers i).permitted ∧ (answers i).result = .ok) ∧
      ((∃ failed, PassEnds channelID answers s.queue k failed ∧
          sendPackets ctx answers s =
            ⟨{ s with pendingPackets := s.pendingPackets.dropFront k },
              (s.queue.take k).map (fun p => .sendIBCPacket channelID p .ok) ++ failed, .ok⟩) ∨
        (∃ p, s.queue[k]? = some p ∧ p.isSlash ∧ (answers k).permitted ∧
          (answers k).result = .ok ∧ sendPackets ctx answers s =
            ⟨{ s with pendingPackets := s.pendingPackets.dropFront k,
                      slashRecord := some ⟨true, ctx.blockTime⟩ },
              (s.queue.take k).map (fun p => .sendIBCPacket channelID p .ok) ++
                [.sendIBCPacket channelID p .ok], .ok⟩)) := by
  obtain ⟨k, hk, hm, ha, hi, hc⟩ := sendLoop_cases channelID answers s.queue
  refine ⟨k, hk, hm, ha, ?_⟩
  have hd := s.pendingPackets.delete_take k
  simp only [State.queue, List.map_take] at hi hc hd
  rcases hc with ⟨failed, hf, he, hss⟩ | ⟨p, hp, hs, hpa, he, hss⟩
  · exact .inl ⟨failed, hf, by simp [sendPackets, h, State.queue, hi, he, hss, hd]⟩
  · exact .inr ⟨p, hp, hs, hpa, by simp [sendPackets, h, State.queue, hi, he, hss, hd]⟩

/-- `SendPackets` keeps the provider channel, the pending changes, the height map, the
outstanding-downtime flags and the next index, and leaves a suffix of the queue. -/
theorem sendPackets_frame :
    (sendPackets ctx answers s).state.providerChannel = s.providerChannel ∧
    (sendPackets ctx answers s).state.pendingChanges = s.pendingChanges ∧
    (sendPackets ctx answers s).state.heightValsetUpdateId = s.heightValsetUpdateId ∧
    (sendPackets ctx answers s).state.outstandingDowntime = s.outstandingDowntime ∧
    (sendPackets ctx answers s).state.pendingPackets.nextIdx = s.pendingPackets.nextIdx ∧
    List.Sublist (sendPackets ctx answers s).state.queue s.queue := by
  cases hc : s.providerChannel with
  | none => simp [hc]
  | some channelID =>
    obtain ⟨k, -, -, -, ⟨_, _, he⟩ | ⟨_, _, _, _, _, he⟩⟩ :=
      sendPackets_cases ctx answers hc <;>
    simp [he, hc, State.queue, List.drop_sublist]

@[simp] theorem sendPackets_providerChannel :
    (sendPackets ctx answers s).state.providerChannel = s.providerChannel := sendPackets_frame.1

@[simp] theorem sendPackets_pendingChanges :
    (sendPackets ctx answers s).state.pendingChanges = s.pendingChanges := sendPackets_frame.2.1

@[simp] theorem sendPackets_heightValsetUpdateId :
    (sendPackets ctx answers s).state.heightValsetUpdateId = s.heightValsetUpdateId :=
  sendPackets_frame.2.2.1

@[simp] theorem sendPackets_outstandingDowntime :
    (sendPackets ctx answers s).state.outstandingDowntime = s.outstandingDowntime :=
  sendPackets_frame.2.2.2.1

@[simp] theorem sendPackets_nextIdx :
    (sendPackets ctx answers s).state.pendingPackets.nextIdx = s.pendingPackets.nextIdx :=
  sendPackets_frame.2.2.2.2.1

theorem sendPackets_slashRecord_cases (ctx : Context) (answers : Stream' Attempt) (s : State) :
    (sendPackets ctx answers s).state.slashRecord = s.slashRecord ∨
      (sendPackets ctx answers s).state.slashRecord = some ⟨true, ctx.blockTime⟩ := by
  cases hc : s.providerChannel with
  | none => simp [hc]
  | some channelID =>
    obtain ⟨k, -, -, -, ⟨_, -, he⟩ | ⟨p, -, -, -, -, he⟩⟩ := sendPackets_cases ctx answers hc <;>
      simp [he]

theorem sendPackets_effects :
    ∀ e ∈ (sendPackets ctx answers s).effects, ∃ channelID p result,
      e = .sendIBCPacket channelID p result := by
  cases hc : s.providerChannel with
  | none => simp [hc]
  | some channelID =>
    obtain ⟨k, -, -, -, ⟨failed, hf, he⟩ | ⟨p, -, -, -, -, he⟩⟩ :=
      sendPackets_cases ctx answers hc <;>
    simp only [he, List.forall_mem_append, List.forall_mem_map]
    · refine ⟨fun _ _ => ⟨_, _, _, rfl⟩, ?_⟩
      rcases hf with ⟨-, rfl⟩ | ⟨-, rfl⟩ | ⟨p, -, -, -, rfl⟩ <;> simp
    · exact ⟨fun _ _ => ⟨_, _, _, rfl⟩, by simp⟩

theorem sendPackets_channel {c : String} {p : ConsumerPacketDataWithIdx} {r : SendResult}
    (h : .sendIBCPacket c p r ∈ (sendPackets ctx answers s).effects) :
    s.providerChannel = some c := by
  cases hc : s.providerChannel with
  | none => simp [hc] at h
  | some channelID =>
    obtain ⟨k, -, -, -, ⟨failed, hf, he⟩ | ⟨q, -, -, -, -, he⟩⟩ :=
      sendPackets_cases ctx answers hc <;>
      simp only [he, List.mem_append, List.mem_map, List.mem_singleton,
        Effect.sendIBCPacket.injEq] at h
    · rcases hf with ⟨-, rfl⟩ | ⟨-, rfl⟩ | ⟨q, -, -, -, rfl⟩ <;> aesop
    · aesop

/-- `SendPackets` hands a prefix of the queue to the transport in order, each attempt of it
permitted and sent, and stops at the end of the queue, at the first refused permission, at the
first failed send, which is its only failed attempt, or right after sending a slash packet, the
only slash packet of the prefix. It deletes exactly the VSC-matured packets it sent, keeps the
rest in order, and keeps a sent slash packet at the head with the slash record updated once.
Without a provider channel it does nothing. -/
theorem sendPackets_transmits_queue_prefix (ctx : Context) (answers : Stream' Attempt)
    (s : State) :
    (s.providerChannel = none → sendPackets ctx answers s = ⟨s, [], .ok⟩) ∧
    ∀ channelID, s.providerChannel = some channelID →
      ∃ n ≤ s.queue.length, ∃ failed,
        (∀ i < n, (answers i).permitted ∧ (answers i).result = .ok) ∧
        ((∃ p, (s.queue.take n).getLast? = some p ∧ p.isSlash ∧ failed = []) ∨
          PassEnds channelID answers s.queue n failed) ∧
        (sendPackets ctx answers s).effects =
          (s.queue.take n).map (fun p => .sendIBCPacket channelID p .ok) ++ failed ∧
        transmitted (sendPackets ctx answers s).effects = s.queue.take n ∧
        (∀ p ∈ (s.queue.take n).dropLast, ¬ p.isSlash) ∧
        (sendPackets ctx answers s).state.slashRecord =
          (if (s.queue.take n).getLast?.any (·.isSlash) then some ⟨true, ctx.blockTime⟩
            else s.slashRecord) ∧
        s.queue = (s.queue.take n).filter (fun p => !p.isSlash) ++
          (sendPackets ctx answers s).state.queue ∧
        (∀ p, (s.queue.take n).getLast? = some p → p.isSlash →
          (sendPackets ctx answers s).state.queue.head? = some p) ∧
        (sendPackets ctx answers s).state =
          { s with pendingPackets := (sendPackets ctx answers s).state.pendingPackets,
                   slashRecord := (sendPackets ctx answers s).state.slashRecord } ∧
        (sendPackets ctx answers s).state.pendingPackets.nextIdx = s.pendingPackets.nextIdx := by
  refine ⟨sendPackets_of_unbound, fun channelID h => ?_⟩
  obtain ⟨k, hk, hm, ha, ⟨failed, hf, he⟩ | ⟨p, hp, hs, hpp, hpr, he⟩⟩ :=
    sendPackets_cases ctx answers h
  · have hl : ∀ p, (s.queue.take k).getLast? = some p → ¬ p.isSlash :=
      fun p hp => hm p (List.mem_of_getLast?_eq_some hp)
    have hq : (s.queue.take k).filter (fun p => !p.isSlash) = s.queue.take k :=
      List.filter_eq_self.2 fun p hp => by simpa using hm p hp
    refine ⟨k, hk, failed, ha, .inr hf, by rw [he], ?_,
      fun p hp => hm p (List.dropLast_subset _ hp), ?_, ?_, fun p hp hs => absurd hs (hl p hp),
      by rw [he], by rw [he]; rfl⟩
    · rw [he, transmitted_append, transmitted_sendOk, transmitted_of_passEnds hf,
        List.append_nil]
    · rw [he]
      cases hg : (s.queue.take k).getLast? with
      | none => rfl
      | some p => simp [hl p hg]
    · rw [he, hq]; simp [State.queue]
  · have ht : s.queue.take (k + 1) = s.queue.take k ++ [p] := by simp [List.take_succ, hp]
    have hk' : k + 1 ≤ s.queue.length := (List.getElem?_eq_some.1 hp).1
    refine ⟨k + 1, hk', [], fun i hi => ?_, .inl ⟨p, by rw [ht]; simp, hs, rfl⟩,
      by rw [he, ht]; simp, by rw [he, ht, transmitted_append, transmitted_sendOk]; rfl,
      by rw [ht, List.dropLast_concat]; exact hm, by rw [he, ht]; simp [hs], ?_, ?_,
      by rw [he], by rw [he]; rfl⟩
    · rcases Nat.lt_succ_iff_lt_or_eq.1 hi with hi | rfl
      exacts [ha i hi, ⟨hpp, hpr⟩]
    · rw [he, ht, List.filter_append, List.filter_eq_self.2 fun p hp => by simpa using hm p hp]
      simp [hs, State.queue]
    · rintro r hr -
      rw [ht, List.getLast?_concat, Option.some.injEq] at hr
      subst hr
      rw [he]
      simpa [State.queue, List.head?_drop] using hp

theorem split_of_mem_take {q : List ConsumerPacketDataWithIdx} {k : Nat}
    {p : ConsumerPacketDataWithIdx} (hm : ∀ x ∈ q.take k, ¬ x.isSlash) (hp : p ∈ q.take k) :
    ∃ pre post, q = pre ++ p :: post ∧ ∀ x ∈ pre, ¬ x.isSlash := by
  obtain ⟨pre, post, hpre⟩ := List.append_of_mem hp
  refine ⟨pre, post ++ q.drop k, ?_, fun x hx => hm x (by simp [hpre, hx])⟩
  simpa [hpre] using (List.take_append_drop k q).symm

/-- A packet `SendPackets` sends has only VSC-matured packets before it in the queue. -/
theorem sendPackets_sent_behind_matured {p : ConsumerPacketDataWithIdx}
    (hp : p ∈ transmitted (sendPackets ctx answers s).effects) :
    ∃ pre post, s.queue = pre ++ p :: post ∧ ∀ x ∈ pre, ¬ x.isSlash := by
  cases hc : s.providerChannel with
  | none => simp [hc] at hp
  | some channelID =>
    obtain ⟨k, -, hm, -, ⟨failed, hf, he⟩ | ⟨r, hr, -, -, -, he⟩⟩ :=
      sendPackets_cases ctx answers hc
    · rw [he, transmitted_append, transmitted_sendOk, transmitted_of_passEnds hf,
        List.append_nil] at hp
      exact split_of_mem_take hm hp
    · rw [he, transmitted_append, transmitted_sendOk] at hp
      rcases List.mem_append.1 hp with hp | hp
      · exact split_of_mem_take hm hp
      · obtain rfl : p = r := by simpa [transmitted, Effect.transmitted?] using hp
        obtain ⟨hk, hkr⟩ := List.getElem?_eq_some.1 hr
        have hq := List.take_append_drop k s.queue
        rw [List.drop_eq_getElem_cons hk, hkr] at hq
        exact ⟨s.queue.take k, s.queue.drop (k + 1), hq.symm, hm⟩

end

end ConsumerRelay
