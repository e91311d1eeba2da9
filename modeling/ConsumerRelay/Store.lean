import Mathlib.Logic.Function.Basic
import ConsumerRelay.Types

/-!
The part of the consumer keeper's store the relay reads and writes, and the store
accessors it calls. The accessors live in `keeper.go` and `throttle_retry.go`, which are not
under src/; they are modelled from the spec's data model (section 3).
-/

set_option autoImplicit false

namespace ConsumerRelay

/-- Modelled from the spec: the pending-packet queue of `keeper.go`, an ordered sequence under a
monotonic index (`PendingPacketsIndexKey` holds the next one). Indices are strictly increasing
and below the next index, as keys of a store iterated in key order are. -/
structure PendingPackets where
  entries : List ConsumerPacketDataWithIdx
  nextIdx : Nat
  sorted : entries.Pairwise fun p q => p.idx < q.idx
  lt_nextIdx : ∀ p ∈ entries, p.idx < nextIdx

namespace PendingPackets

def empty : PendingPackets := ⟨[], 0, .nil, fun _ h => (List.not_mem_nil _ h).elim⟩

def append (q : PendingPackets) (data : ConsumerPacketData) : PendingPackets where
  entries := q.entries ++ [⟨data, q.nextIdx⟩]
  nextIdx := q.nextIdx + 1
  sorted := List.pairwise_append.2
    ⟨q.sorted, List.pairwise_singleton _ _, fun p hp r hr => by
      rw [List.mem_singleton.1 hr]; exact q.lt_nextIdx p hp⟩
  lt_nextIdx := fun p hp => by
    rcases List.mem_append.1 hp with hp | hp
    · exact Nat.lt_succ_of_lt (q.lt_nextIdx p hp)
    · rw [List.mem_singleton.1 hp]; exact Nat.lt_succ_self _

def delete (q : PendingPackets) (idxs : List Nat) : PendingPackets where
  entries := q.entries.filter fun p => !idxs.contains p.idx
  nextIdx := q.nextIdx
  sorted := q.sorted.filter _
  lt_nextIdx := fun p hp => q.lt_nextIdx p ((List.mem_filter.1 hp).1)

def deleteHead (q : PendingPackets) : PendingPackets where
  entries := q.entries.tail
  nextIdx := q.nextIdx
  sorted := q.sorted.sublist (List.tail_sublist _)
  lt_nextIdx := fun p hp => q.lt_nextIdx p (List.mem_of_mem_tail hp)

def dropFront (q : PendingPackets) (n : Nat) : PendingPackets where
  entries := q.entries.drop n
  nextIdx := q.nextIdx
  sorted := q.sorted.sublist (List.drop_sublist _ _)
  lt_nextIdx := fun p hp => q.lt_nextIdx p (List.mem_of_mem_drop hp)

@[ext] theorem ext {q r : PendingPackets} (he : q.entries = r.entries)
    (hn : q.nextIdx = r.nextIdx) : q = r := by
  cases q; cases r; simp_all

@[simp] theorem empty_entries : empty.entries = [] := rfl
@[simp] theorem append_entries (q : PendingPackets) (d : ConsumerPacketData) :
    (q.append d).entries = q.entries ++ [⟨d, q.nextIdx⟩] := rfl
@[simp] theorem append_nextIdx (q : PendingPackets) (d : ConsumerPacketData) :
    (q.append d).nextIdx = q.nextIdx + 1 := rfl
@[simp] theorem delete_entries (q : PendingPackets) (idxs : List Nat) :
    (q.delete idxs).entries = q.entries.filter fun p => !idxs.contains p.idx := rfl
@[simp] theorem delete_nextIdx (q : PendingPackets) (idxs : List Nat) :
    (q.delete idxs).nextIdx = q.nextIdx := rfl
@[simp] theorem delete_nil (q : PendingPackets) : q.delete [] = q := ext (by simp) rfl

@[simp] theorem deleteHead_entries (q : PendingPackets) : q.deleteHead.entries = q.entries.tail :=
  rfl
@[simp] theorem deleteHead_nextIdx (q : PendingPackets) : q.deleteHead.nextIdx = q.nextIdx := rfl
@[simp] theorem dropFront_entries (q : PendingPackets) (n : Nat) :
    (q.dropFront n).entries = q.entries.drop n := rfl
@[simp] theorem dropFront_nextIdx (q : PendingPackets) (n : Nat) :
    (q.dropFront n).nextIdx = q.nextIdx := rfl

theorem filter_take_idx : ∀ (l : List ConsumerPacketDataWithIdx) (n : Nat),
    l.Pairwise (fun p q => p.idx < q.idx) →
    l.filter (fun p => !((l.take n).map (·.idx)).contains p.idx) = l.drop n
  | [], _, _ => by simp
  | l, 0, _ => by simp
  | p :: l, n + 1, h => by
    rw [List.pairwise_cons] at h
    rw [List.take_succ_cons, List.drop_succ_cons, List.filter_cons_of_neg (by simp),
      ← filter_take_idx l n h.2]
    refine List.filter_congr fun r hr => ?_
    simp [Nat.ne_of_gt (h.1 r hr)]

theorem delete_take (q : PendingPackets) (n : Nat) :
    q.delete ((q.entries.take n).map (·.idx)) = q.dropFront n :=
  ext (filter_take_idx q.entries n q.sorted) rfl

end PendingPackets

/-- Modelled from the spec: the slash record of `throttle_retry.go`. A record exists from the
first send of the slash packet at the head of the queue until it is handled; it waits on a reply
from each send until a bounce, after which the packet is retried once the retry delay from
`sendTime` has passed. -/
structure SlashRecord where
  waitingOnReply : Bool
  sendTime : Nat
  deriving DecidableEq, Repr

/-- The consumer keeper's store, as far as the relay reads and writes it. -/
structure State where
  providerChannel : Option String
  pendingChanges : Option (List ValidatorUpdate)
  heightValsetUpdateId : UInt64 → Option UInt64
  outstandingDowntime : ConsAddress → Bool
  pendingPackets : PendingPackets
  slashRecord : Option SlashRecord

namespace State

def empty : State where
  providerChannel := none
  pendingChanges := none
  heightValsetUpdateId := fun _ => none
  outstandingDowntime := fun _ => false
  pendingPackets := .empty
  slashRecord := none

def queue (s : State) : List ConsumerPacketDataWithIdx := s.pendingPackets.entries

theorem queue_of_pendingPackets {s t : State} (h : t.pendingPackets = s.pendingPackets) :
    t.queue = s.queue := by
  simp [queue, h]

@[simp] def setProviderChannel (s : State) (channelID : String) : State :=
  { s with providerChannel := some channelID }

@[simp] def setPendingChanges (s : State) (updates : List ValidatorUpdate) : State :=
  { s with pendingChanges := some updates }

@[simp] def setHeightValsetUpdateID (s : State) (height valsetUpdateId : UInt64) : State :=
  { s with
    heightValsetUpdateId := Function.update s.heightValsetUpdateId height (some valsetUpdateId) }

@[simp] def setOutstandingDowntime (s : State) (a : ConsAddress) : State :=
  { s with outstandingDowntime := Function.update s.outstandingDowntime a true }

@[simp] def deleteOutstandingDowntime (s : State) (a : ConsAddress) : State :=
  { s with outstandingDowntime := Function.update s.outstandingDowntime a false }

@[simp] def appendPendingPacket (s : State) (data : ConsumerPacketData) : State :=
  { s with pendingPackets := s.pendingPackets.append data }

@[simp] def deletePendingDataPackets (s : State) (idxs : List Nat) : State :=
  { s with pendingPackets := s.pendingPackets.delete idxs }

@[simp] def deleteHeadOfPendingPackets (s : State) : State :=
  { s with pendingPackets := s.pendingPackets.deleteHead }

@[simp] def updateSlashRecordOnSend (s : State) (ctx : Context) : State :=
  { s with slashRecord := some ⟨true, ctx.blockTime⟩ }

@[simp] def updateSlashRecordOnBounce (s : State) : State :=
  { s with slashRecord := s.slashRecord.map fun r => { r with waitingOnReply := false } }

@[simp] def clearSlashRecord (s : State) : State :=
  { s with slashRecord := none }

/-- Modelled from the spec: `PacketSendingPermitted` allows a send when there is no slash
record, or when the record does not wait on a reply and the retry delay has passed since its
send. -/
def packetSendingPermitted (retryDelayPeriod : Nat) (ctx : Context) (s : State) : Bool :=
  match s.slashRecord with
  | none => true
  | some r => !r.waitingOnReply && r.sendTime + retryDelayPeriod ≤ ctx.blockTime

def waitingOnReply (s : State) : Bool := s.slashRecord.any (·.waitingOnReply)

theorem packetSendingPermitted_of_waitingOnReply {s : State} (h : s.waitingOnReply)
    (retryDelayPeriod : Nat) (ctx : Context) :
    s.packetSendingPermitted retryDelayPeriod ctx = false := by
  unfold waitingOnReply at h
  unfold packetSendingPermitted
  cases hr : s.slashRecord <;> simp_all

end State

end ConsumerRelay
