import ConsumerRelay.System
import ConsumerRelay.Acknowledgement

/-!
What the record of a run says about the store and the events. Whatever steps come between, the
pending changes are the accumulation, in receipt order, of the validator updates of every VSC
packet accepted so far; every height the height map holds maps to the VSC id of an accepted
packet; and the consumer-slash-request events emitted so far are, one for one and in order, the
requests of the slash packets appended to the queue, so a downtime call that the guard drops
emits no event.
-/

set_option autoImplicit false

namespace ConsumerRelay

def Obs.receivedUpdates : Obs → List ValidatorUpdate
  | .received d => d.validatorUpdates
  | _ => []

/-- The validator updates of the VSC packets accepted so far, in receipt order. -/
def Sys.receivedUpdates (s : Sys) : List ValidatorUpdate := s.log.flatMap Obs.receivedUpdates

def Effect.slashRequest? : Effect → Option Event
  | .emitEvent (.consumerSlashRequest validatorAddress valsetUpdateID infraction) =>
    some (.consumerSlashRequest validatorAddress valsetUpdateID infraction)
  | _ => none

def Obs.slashRequest? : Obs → Option Event
  | .effect e => e.slashRequest?
  | _ => none

/-- The consumer-slash-request events emitted so far, in order. -/
def Sys.slashRequests (s : Sys) : List Event := s.log.filterMap Obs.slashRequest?

def SlashPacketData.request (d : SlashPacketData) : Event :=
  .consumerSlashRequest d.validator.consAddress d.valsetUpdateId d.infraction

def ConsumerPacketDataWithIdx.request? (p : ConsumerPacketDataWithIdx) : Option Event :=
  match p.data with
  | .slashPacket d => some d.request
  | .vscMaturedPacket _ => none

namespace Sys

section
variable {s : Sys} {c : Call}

@[simp] theorem receivedUpdates_commit : (s.commit c).receivedUpdates = s.receivedUpdates := by
  simp [commit, receivedUpdates, Obs.receivedUpdates, Function.comp_def]

@[simp] theorem receivedUpdates_noteReceived (d : ValidatorSetChangePacketData) :
    (s.noteReceived d).receivedUpdates = s.receivedUpdates ++ d.validatorUpdates := by
  simp [noteReceived, receivedUpdates, Obs.receivedUpdates]

@[simp] theorem receivedUpdates_setInFlight (inFlight : List ConsumerPacketDataWithIdx) :
    ({ s with inFlight := inFlight } : Sys).receivedUpdates = s.receivedUpdates := rfl

@[simp] theorem slashRequests_commit :
    (s.commit c).slashRequests = s.slashRequests ++ c.effects.filterMap Effect.slashRequest? := by
  simp [commit, slashRequests, List.filterMap_append, Obs.slashRequest?, Function.comp_def]

@[simp] theorem slashRequests_noteReceived (d : ValidatorSetChangePacketData) :
    (s.noteReceived d).slashRequests = s.slashRequests := by
  simp [noteReceived, slashRequests, Obs.slashRequest?]

@[simp] theorem slashRequests_setInFlight (inFlight : List ConsumerPacketDataWithIdx) :
    ({ s with inFlight := inFlight } : Sys).slashRequests = s.slashRequests := rfl

end

end Sys

theorem pendingChanges_step {ccv : Ccv} {s : Sys}
    (h : s.keeper.pendingChanges.getD [] = accumulateChanges [] s.receivedUpdates)
    (ctx : Context) (a : Action) :
    (step ccv ctx a s).keeper.pendingChanges.getD [] =
      accumulateChanges [] (step ccv ctx a s).receivedUpdates := by
  cases a with
  | queueSlashPacket v id inf =>
    rcases queueSlashPacket_cases v id s.keeper inf with he | he <;>
      simpa [step, he, apply_ite State.pendingChanges] using h
  | appendVSCMatured id => simpa [step] using h
  | onRecvVSCPacket packet =>
    simp only [step]
    split
    · rename_i hok
      rw [Sys.noteReceived_keeper, Sys.commit_keeper, pendingChanges_of_ok ccv hok,
        Sys.receivedUpdates_noteReceived, Sys.receivedUpdates_commit, Option.getD_some, h,
        accumulateChanges, accumulateChanges, accumulateChanges, List.foldl_append]
    · rcases onRecvVSCPacket_cases ccv ctx packet packet.data s.keeper with
        ⟨_, _, he⟩ | ⟨_, _, _, _, he⟩ | ⟨_, _, he⟩ | ⟨_, _, he⟩ <;> simp_all
  | sendPackets answers => simpa [step] using h
  | onAcknowledgementPacket sent packet ack close => simpa [step] using h

/-- In every run, with any steps between, the pending changes are the accumulation, in receipt
order, of the validator updates of the VSC packets accepted so far. -/
theorem pendingChanges_of_reachable {ccv : Ccv} {s : Sys} (h : Reachable ccv s) :
    s.keeper.pendingChanges.getD [] = accumulateChanges [] s.receivedUpdates :=
  Reachable.induction
    (fun s => s.keeper.pendingChanges.getD [] = accumulateChanges [] s.receivedUpdates)
    (by simp [Sys.init, State.empty, Sys.receivedUpdates, accumulateChanges])
    (fun _ ctx a _ hi _ => pendingChanges_step hi ctx a) h

/-- A run that accepts a VSC packet updating validators `[1]` and `[2]` at height 1, queues a
downtime slash packet for `[1]`, repeats that call, which the guard drops, queues a double-sign
slash packet for `[2]`, and accepts a VSC packet updating `[1]` again at height 3. -/
def recordRun : List (Context × Action) :=
  [(⟨1, 0⟩, .onRecvVSCPacket ⟨"provider", "channel-0", consumerPortID, "channel-0",
      ⟨[⟨⟨[1]⟩, 10⟩, ⟨⟨[2]⟩, 5⟩], 1, []⟩⟩),
   (⟨2, 5⟩, .queueSlashPacket ⟨[1], 10⟩ 1 .downtime),
   (⟨2, 5⟩, .queueSlashPacket ⟨[1], 10⟩ 1 .downtime),
   (⟨2, 5⟩, .queueSlashPacket ⟨[2], 5⟩ 1 .doubleSign),
   (⟨3, 10⟩, .onRecvVSCPacket ⟨"provider", "channel-0", consumerPortID, "channel-0",
      ⟨[⟨⟨[1]⟩, 0⟩], 2, []⟩⟩)]

def recorded : Sys := (run ccvExample Sys.init recordRun).getD Sys.init

theorem pendingChanges_recorded :
    recorded.keeper.pendingChanges.getD [] = accumulateChanges [] recorded.receivedUpdates :=
  pendingChanges_of_reachable (Reachable.of_run recordRun (.refl : Reachable ccvExample Sys.init) rfl)

example : recorded.keeper.pendingChanges = some [⟨⟨[1]⟩, 0⟩, ⟨⟨[2]⟩, 5⟩] := by decide

/-! ## The height map -/

/-- The write an accepted VSC packet makes to the height map: the height after its block, mapped
to its VSC id. -/
def heightWrite (ccv : Ccv) (ctx : Context) : Action → Sys → List (UInt64 × UInt64)
  | .onRecvVSCPacket packet, s =>
    if (onRecvVSCPacket ccv ctx packet packet.data s.keeper).outcome = .ok then
      [(UInt64.ofNat ctx.blockHeight + 1, packet.data.valsetUpdateId)]
    else []
  | _, _ => []

def heightWrites (ccv : Ccv) : Sys → List (Context × Action) → List (UInt64 × UInt64)
  | _, [] => []
  | s, (ctx, a) :: rest => heightWrite ccv ctx a s ++ heightWrites ccv (step ccv ctx a s) rest

theorem update_eq_lookup_or (f : UInt64 → Option UInt64) (k v height : UInt64) :
    Function.update f k (some v) height = ([(k, v)].reverse.lookup height).or (f height) := by
  by_cases hh : height = k
  · subst hh; simp [List.lookup_cons]
  · simp [List.lookup_cons, beq_eq_false_iff_ne.2 hh, Function.update_noteq hh]

theorem heightValsetUpdateId_step (ccv : Ccv) (ctx : Context) (a : Action) (s : Sys)
    (height : UInt64) :
    (step ccv ctx a s).keeper.heightValsetUpdateId height =
      ((heightWrite ccv ctx a s).reverse.lookup height).or (s.keeper.heightValsetUpdateId height) := by
  cases a with
  | queueSlashPacket v id inf =>
    rcases queueSlashPacket_cases v id s.keeper inf with he | he <;>
      simp [step, heightWrite, he, apply_ite State.heightValsetUpdateId]
  | onRecvVSCPacket packet =>
    rcases onRecvVSCPacket_cases ccv ctx packet packet.data s.keeper with
      ⟨_, _, he⟩ | ⟨_, _, _, _, he⟩ | ⟨_, _, he⟩ | ⟨_, _, he⟩ <;>
      simp [step, heightWrite, he, update_eq_lookup_or]
  | _ => simp [step, heightWrite]

theorem heightValsetUpdateId_of_run_from {ccv : Ccv} {l : List (Context × Action)} :
    ∀ {s s' : Sys}, run ccv s l = some s' → ∀ height,
      s'.keeper.heightValsetUpdateId height =
        ((heightWrites ccv s l).reverse.lookup height).or (s.keeper.heightValsetUpdateId height) := by
  induction l with
  | nil => intro s s' h height; cases h; simp [heightWrites]
  | cons x rest ih =>
    intro s s' h height
    simp only [run] at h
    split at h
    · rw [ih h, heightWrites, List.reverse_append, List.lookup_append, Option.or_assoc,
        heightValsetUpdateId_step]
    · cases h

/-- In every run from the empty consumer, the height map holds exactly the writes of the VSC
packets accepted along the run, the last write to a height winning: each maps the height after
its block to its VSC id, and no other step writes the map. -/
theorem heightValsetUpdateId_of_run {ccv : Ccv} {l : List (Context × Action)} {s : Sys}
    (h : run ccv Sys.init l = some s) (height : UInt64) :
    s.keeper.heightValsetUpdateId height = (heightWrites ccv Sys.init l).reverse.lookup height := by
  rw [heightValsetUpdateId_of_run_from h]
  exact Option.or_none

theorem heightValsetUpdateId_recorded :
    recorded.keeper.heightValsetUpdateId 4 =
      (heightWrites ccvExample Sys.init recordRun).reverse.lookup 4 :=
  heightValsetUpdateId_of_run (rfl : run ccvExample Sys.init recordRun = some recorded) 4

example : heightWrites ccvExample Sys.init recordRun = [(2, 1), (4, 2)] := by decide

theorem slashRequests_step {ccv : Ccv} {s : Sys}
    (h : s.slashRequests = s.appended.filterMap (·.request?)) (ctx : Context) (a : Action) :
    (step ccv ctx a s).slashRequests = (step ccv ctx a s).appended.filterMap (·.request?) := by
  cases a with
  | queueSlashPacket v id inf =>
    rcases queueSlashPacket_cases v id s.keeper inf with he | he
    · simpa [step, he, Sys.newEntries_of_nextIdx] using h
    · have hp : (queueSlashPacket v id inf s.keeper).state.pendingPackets =
          s.keeper.pendingPackets.append (.slashPacket (newSlashPacketData v id inf)) := by
        rw [he]; split <;> rfl
      simp only [step, Sys.slashRequests_commit, Sys.appended_commit, hp, Sys.newEntries_append,
        h, List.filterMap_append, congrArg Call.effects he]
      simp [Effect.slashRequest?, ConsumerPacketDataWithIdx.request?, SlashPacketData.request,
        newSlashPacketData]
  | appendVSCMatured id =>
    simpa [step, Sys.newEntries_append, ConsumerPacketDataWithIdx.request?] using h
  | onRecvVSCPacket packet =>
    simp only [step]
    rcases onRecvVSCPacket_cases ccv ctx packet packet.data s.keeper with
      ⟨_, _, he⟩ | ⟨_, _, _, _, he⟩ | ⟨_, _, he⟩ | ⟨_, _, he⟩ <;> rw [he] <;>
      simpa [Sys.newEntries_of_nextIdx, Effect.slashRequest?] using h
  | sendPackets answers =>
    have hr : (sendPackets ctx answers s.keeper).effects.filterMap Effect.slashRequest? = [] :=
      List.filterMap_eq_nil_iff.2 fun e he => by
        obtain ⟨_, _, _, rfl⟩ := sendPackets_effects e he; rfl
    simpa [step, hr, Sys.newEntries_of_nextIdx] using h
  | onAcknowledgementPacket sent packet ack close =>
    have hr : (onAcknowledgementPacket close packet ack s.keeper).effects.filterMap
        Effect.slashRequest? = [] :=
      List.filterMap_eq_nil_iff.2 fun e he => by
        obtain ⟨_, _, rfl⟩ := onAcknowledgementPacket_effects close packet s.keeper ack e he; rfl
    simpa [step, hr, Sys.newEntries_of_nextIdx] using h

/-- In every run, the consumer-slash-request events emitted so far are, one for one and in
order, the requests of the slash packets appended to the queue: each names the validator's
consensus address, the VSC id and the infraction of its packet, and a call the downtime guard
drops emits none. -/
theorem slashRequests_of_reachable {ccv : Ccv} {s : Sys} (h : Reachable ccv s) :
    s.slashRequests = s.appended.filterMap (·.request?) :=
  Reachable.induction (fun s => s.slashRequests = s.appended.filterMap (·.request?))
    (by simp [Sys.init, Sys.slashRequests, Sys.appended])
    (fun _ ctx a _ hi _ => slashRequests_step hi ctx a) h

theorem slashRequests_recorded :
    recorded.slashRequests = recorded.appended.filterMap (·.request?) :=
  slashRequests_of_reachable (Reachable.of_run recordRun (.refl : Reachable ccvExample Sys.init) rfl)

example : recorded.slashRequests.length = 2 := by decide

end ConsumerRelay
