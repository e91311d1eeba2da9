import ConsumerRelay.QueueInvariant

/-!
What the pending queue and the slash record are for: an ordered outbox. Packets wait in the
order they were queued; the provider takes a VSC-matured packet when it is sent and a slash
packet when it reports it handled, and nothing moves past a slash packet before that. The slash
record is the mode: idle, waiting on the reply to the slash packet at the head, or backing off
after a bounce.
-/

set_option autoImplicit false

namespace ConsumerRelay.Outbox

inductive Mode where
  | idle
  | waiting
  | backoff
  deriving DecidableEq, Repr

/-- The outbox: the packets the provider has taken, those still queued, the mode of the slash
record, and every transmission. -/
structure St where
  taken : List ConsumerPacketDataWithIdx
  pending : List ConsumerPacketDataWithIdx
  mode : Mode
  sent : List ConsumerPacketDataWithIdx
  deriving DecidableEq, Repr

def init : St := ⟨[], [], .idle, []⟩

inductive Step : St → St → Prop where
  | enqueue {taken pending sent : List ConsumerPacketDataWithIdx} {mode : Mode}
      (p : ConsumerPacketDataWithIdx) : p ∉ taken ++ pending →
      Step ⟨taken, pending, mode, sent⟩ ⟨taken, pending ++ [p], mode, sent⟩
  | sendMatured {taken rest sent : List ConsumerPacketDataWithIdx}
      {p : ConsumerPacketDataWithIdx} : ¬ p.isSlash →
      Step ⟨taken, p :: rest, .idle, sent⟩ ⟨taken ++ [p], rest, .idle, sent ++ [p]⟩
  | sendSlash {taken rest sent : List ConsumerPacketDataWithIdx} {mode : Mode}
      {p : ConsumerPacketDataWithIdx} : p.isSlash → mode ≠ .waiting →
      Step ⟨taken, p :: rest, mode, sent⟩ ⟨taken, p :: rest, .waiting, sent ++ [p]⟩
  | handled {taken rest sent : List ConsumerPacketDataWithIdx} {p : ConsumerPacketDataWithIdx} :
      p.isSlash → Step ⟨taken, p :: rest, .waiting, sent⟩ ⟨taken ++ [p], rest, .idle, sent⟩
  | bounce {taken pending sent : List ConsumerPacketDataWithIdx} :
      Step ⟨taken, pending, .waiting, sent⟩ ⟨taken, pending, .backoff, sent⟩

def Reachable (a : St) : Prop := Relation.ReflTransGen Step init a

theorem sendMatured_run (l rest : List ConsumerPacketDataWithIdx) (hl : ∀ p ∈ l, ¬ p.isSlash)
    (taken sent : List ConsumerPacketDataWithIdx) :
    Relation.ReflTransGen Step ⟨taken, l ++ rest, .idle, sent⟩
      ⟨taken ++ l, rest, .idle, sent ++ l⟩ := by
  induction l generalizing taken sent with
  | nil => simpa using .refl
  | cons p l ih =>
    have h := ih (fun q hq => hl q (.tail _ hq)) (taken ++ [p]) (sent ++ [p])
    simp only [List.append_assoc, List.singleton_append] at h
    exact .head (.sendMatured (hl p (.head _))) h

/-- The invariant of the outbox. -/
structure Inv (a : St) : Prop where
  busy_head : a.mode ≠ .idle → ∃ p rest, a.pending = p :: rest ∧ p.isSlash
  nodup : (a.taken ++ a.pending).Nodup
  sent_merged :
    mergeRetransmissions a.sent = a.taken ++ if a.mode = .idle then [] else a.pending.take 1

theorem Inv.init : Inv init := ⟨fun h => absurd rfl h, List.nodup_nil, rfl⟩

theorem Inv.step {a b : St} (hi : Inv a) (h : Step a b) : Inv b := by
  obtain ⟨hb, hn, hm⟩ := hi
  cases h <;> dsimp only at hb hn hm
  case enqueue taken pending sent mode p hp =>
    refine ⟨fun h => ?_, ?_, ?_⟩
    · obtain ⟨q, rest, hq, hs⟩ := hb h
      exact ⟨q, rest ++ [p], by simp [hq], hs⟩
    · rw [← List.append_assoc]
      exact hn.append (List.nodup_singleton p) (List.disjoint_singleton.2 hp)
    · rw [hm]
      by_cases hidle : mode = .idle
      · simp [hidle]
      · obtain ⟨q, rest, rfl, -⟩ := hb hidle
        simp [hidle]
  case sendMatured taken rest sent p hs =>
    refine ⟨fun h => absurd rfl h, by simpa using hn, ?_⟩
    rw [mergeRetransmissions_concat, if_neg fun h => hs h.1, hm]
    simp
  case sendSlash taken rest sent mode p hs hw =>
    refine ⟨fun _ => ⟨p, rest, rfl, hs⟩, hn, ?_⟩
    have hp : p ∉ taken := fun h =>
      (List.nodup_cons.1 (List.nodup_middle.1 hn)).1 (List.mem_append_left _ h)
    rw [mergeRetransmissions_concat, hm]
    cases mode with
    | idle => simpa [hs] using fun h => hp (List.mem_of_getLast?_eq_some h)
    | waiting => exact absurd rfl hw
    | backoff => simp [hs]
  case handled taken rest sent p hs =>
    refine ⟨fun h => absurd rfl h, by simpa using hn, ?_⟩
    rw [hm]
    simp
  case bounce => exact ⟨fun _ => hb (by simp), hn, by rw [hm]; simp⟩

theorem inv_of_reachable {a : St} (h : Reachable a) : Inv a := by
  induction h with
  | refl => exact Inv.init
  | tail _ hs ih => exact ih.step hs

end ConsumerRelay.Outbox
