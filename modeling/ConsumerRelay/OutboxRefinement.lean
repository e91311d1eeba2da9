import ConsumerRelay.Outbox
import ConsumerRelay.HeadOfLine

/-!
The relay refines the outbox. The outbox of a consumer is read off its store and its record:
the queue, the mode of the slash record, the transmissions, and, as the packets taken, the
appended packets that are no longer queued. From every reachable state, each allowed step of the
relay is a run of outbox steps: a flush sends its VSC-matured packets one outbox step each and
then, maybe, the slash packet at the head; a V1 or slash-handled acknowledgement is the provider
handling that slash packet; a bounce is a bounce; every other step queues one packet or changes
nothing the outbox sees.
-/

set_option autoImplicit false

namespace ConsumerRelay

def State.mode (s : State) : Outbox.Mode :=
  match s.slashRecord with
  | none => .idle
  | some r => if r.waitingOnReply then .waiting else .backoff

/-- The outbox `a` is what the consumer `s` holds. -/
structure Sys.Abstracts (s : Sys) (a : Outbox.St) : Prop where
  appended_eq : s.appended = a.taken ++ a.pending
  queue_eq : s.keeper.queue = a.pending
  mode_eq : s.keeper.mode = a.mode
  transmitted_eq : s.transmitted = a.sent

namespace State

variable {s t : State}

theorem mode_of_slashRecord (h : t.slashRecord = s.slashRecord) : t.mode = s.mode := by
  simp [mode, h]

theorem mode_of_waiting (h : s.waitingOnReply) : s.mode = .waiting := by
  unfold waitingOnReply at h
  unfold mode
  cases hr : s.slashRecord <;> simp_all

theorem mode_ne_waiting (hw : ¬ s.waitingOnReply) : s.mode ≠ .waiting := by
  unfold waitingOnReply at hw
  unfold mode
  cases hr : s.slashRecord <;> simp_all

theorem mode_of_bounce (hw : s.waitingOnReply)
    (h : t.slashRecord = s.slashRecord.map fun r => { r with waitingOnReply := false }) :
    t.mode = .backoff := by
  unfold waitingOnReply at hw
  cases hr : s.slashRecord <;> simp_all [mode]

end State

theorem Sys.abstracts_init : Sys.init.Abstracts Outbox.init :=
  ⟨by simp [Sys.init, Sys.appended, State.queue, State.empty, PendingPackets.empty, Outbox.init],
    rfl, rfl, rfl⟩

theorem not_mem_appended_of_nextIdx {s : Sys} (hi : QueueInv s) (d : ConsumerPacketData) :
    (⟨d, s.keeper.pendingPackets.nextIdx⟩ : ConsumerPacketDataWithIdx) ∉ s.appended := fun h => by
  have := List.mem_map_of_mem ConsumerPacketDataWithIdx.idx h
  rw [hi.appended_idx, List.mem_range] at this
  exact lt_irrefl _ this

/-- The VSC-matured packets a flush sends before it stops are a run of outbox steps, one each;
under a slash record the flush sends none. -/
theorem flush_prefix_run {s : Sys} (hi : QueueInv s) {k : Nat}
    (hk : ∀ p ∈ s.keeper.queue.take k, ¬ p.isSlash) (taken : List ConsumerPacketDataWithIdx) :
    Relation.ReflTransGen Outbox.Step ⟨taken, s.keeper.queue, s.keeper.mode, s.transmitted⟩
      ⟨taken ++ s.keeper.queue.take k, s.keeper.queue.drop k, s.keeper.mode,
        s.transmitted ++ s.keeper.queue.take k⟩ := by
  cases hrec : s.keeper.slashRecord with
  | some r =>
    obtain rfl := hi.take_eq_zero (by simp [hrec]) hk
    simpa using .refl
  | none =>
    have hidle : s.keeper.mode = .idle := by simp [State.mode, hrec]
    have hrun := Outbox.sendMatured_run _ (s.keeper.queue.drop k) hk taken s.transmitted
    rwa [List.take_append_drop, ← hidle] at hrun

/-- From a state with the queue invariant, each allowed step of the relay is a run of outbox
steps that keeps the abstraction. -/
theorem Sys.Abstracts.simulate {ccv : Ccv} {s : Sys} {a : Outbox.St} (hs : s.Abstracts a)
    (hi : QueueInv s) (ctx : Context) {act : Action} (ha : act.allowed s) :
    ∃ b, Relation.ReflTransGen Outbox.Step a b ∧ (step ccv ctx act s).Abstracts b := by
  obtain ⟨taken, pending, mode, sent⟩ := a
  obtain ⟨hA, hQ, hM, hT⟩ := hs
  dsimp only at hA hQ hM hT
  subst hQ hM hT
  cases queueStep ccv ctx ha with
  | frame hq hr _ happ ht =>
    exact ⟨_, .refl, ⟨by rw [happ, hA], State.queue_of_pendingPackets hq,
      State.mode_of_slashRecord hr, ht⟩⟩
  | append d hq hr _ happ ht =>
    have hp := not_mem_appended_of_nextIdx hi d
    rw [hA] at hp
    refine ⟨_, .single (.enqueue _ hp), ⟨?_, ?_, State.mode_of_slashRecord hr, ht⟩⟩
    · rw [happ, hA, List.append_assoc]
    · simp [State.queue, hq]
  | sendMatured k _ hk _ hq hr _ happ ht =>
    exact ⟨_, flush_prefix_run hi hk taken, ⟨by rw [happ, hA]; simp, by simp [State.queue, hq],
      State.mode_of_slashRecord hr, ht⟩⟩
  | sendSlash k p hw hk hp hs _ hq hr _ happ ht =>
    have hd : s.keeper.queue.drop k = p :: s.keeper.queue.drop (k + 1) := by
      obtain ⟨hlt, hget⟩ := List.getElem?_eq_some.1 hp
      rw [List.drop_eq_getElem_cons hlt, hget]
    refine ⟨⟨taken ++ s.keeper.queue.take k, s.keeper.queue.drop k, .waiting,
        s.transmitted ++ s.keeper.queue.take k ++ [p]⟩, (flush_prefix_run hi hk taken).tail ?_,
      ⟨by rw [happ, hA]; simp, by simp [State.queue, hq], by simp [State.mode, hr], ht⟩⟩
    rw [hd]
    exact .sendSlash hs (State.mode_ne_waiting hw)
  | @ackHandled sent _ _ _ _ _ _ hm hs hq hr _ happ ht =>
    obtain ⟨hhead, hwait⟩ := hi.slash_inFlight_head _ hm hs
    obtain ⟨tail, htail⟩ : ∃ tail, s.keeper.queue = sent :: tail :=
      ⟨s.keeper.queue.tail, List.eq_cons_of_mem_head? hhead⟩
    refine ⟨⟨taken ++ [sent], tail, .idle, s.transmitted⟩, .single ?_,
      ⟨?_, ?_, by simp [State.mode, hr], ht⟩⟩
    · rw [State.mode_of_waiting hwait, htail]; exact .handled hs
    · rw [happ, hA, htail]; simp
    · simp only [State.queue, hq, PendingPackets.deleteHead_entries] at htail ⊢
      simp [htail]
  | ackBounced _ hm hs hq hr _ happ ht =>
    have hwait := (hi.slash_inFlight_head _ hm hs).2
    refine ⟨⟨taken, s.keeper.queue, .backoff, s.transmitted⟩, .single ?_,
      ⟨by rw [happ, hA], State.queue_of_pendingPackets hq, State.mode_of_bounce hwait hr, ht⟩⟩
    rw [State.mode_of_waiting hwait]; exact .bounce

theorem abstracts_of_reachable {ccv : Ccv} {s : Sys} (h : Reachable ccv s) :
    ∃ a, Outbox.Reachable a ∧ s.Abstracts a := by
  induction h with
  | refl => exact ⟨_, .refl, Sys.abstracts_init⟩
  | tail hr hn ih =>
    obtain ⟨ctx, act, ha, rfl⟩ := hn
    obtain ⟨a, hreach, hs⟩ := ih
    obtain ⟨b, hab, hb⟩ := hs.simulate (queueInv_of_reachable hr) ctx ha
    exact ⟨b, hreach.trans hab, hb⟩

/-- The relay refines the outbox: every reachable state of the consumer holds a reachable
outbox, which has the outbox invariant, and from it each allowed step of the relay is a run of
outbox steps, possibly empty, to the outbox the next state holds. -/
theorem relay_refines_outbox {ccv : Ccv} {s : Sys} (h : Reachable ccv s) :
    ∃ a, Outbox.Reachable a ∧ Outbox.Inv a ∧ s.Abstracts a ∧ ∀ ctx act, act.allowed s →
      ∃ b, Relation.ReflTransGen Outbox.Step a b ∧ (step ccv ctx act s).Abstracts b := by
  obtain ⟨a, hreach, hs⟩ := abstracts_of_reachable h
  exact ⟨a, hreach, Outbox.inv_of_reachable hreach, hs,
    fun ctx _ ha => hs.simulate (queueInv_of_reachable h) ctx ha⟩

/-- With the slash packet in flight, its V1 acknowledgement is the provider handling it in the
outbox. -/
theorem slashInFlight_refines_outbox :
    ∃ a, Outbox.Reachable a ∧ Outbox.Inv a ∧ slashInFlight.Abstracts a ∧
      ∃ b, Relation.ReflTransGen Outbox.Step a b ∧
        (step ccvExample ⟨4, 15⟩ (ackAction "channel-0" (fun _ _ => .ok ()) slashPacketA)
          slashInFlight).Abstracts b :=
  let ⟨a, hr, hi, hs, hsim⟩ := relay_refines_outbox
    (Reachable.of_run slashInFlightRun (.refl : Reachable ccvExample Sys.init) rfl)
  ⟨a, hr, hi, hs, hsim _ _ (by decide)⟩

end ConsumerRelay
