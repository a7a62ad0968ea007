import Syslog.Proofs.Feeder.Steps
import Syslog.Proofs.Pool.Answers

/-!
# What a feeder submits

A feeder submits the datagrams of its inputs up to the first that cannot be opened, in order and
each once, as long as its pool takes them. It comes to rest when all of them are submitted, and
answered.
-/
namespace Syslog

/-- The inputs before the first one that cannot be opened. -/
def Framing.opened : List (Option (List UInt8)) → List (List UInt8)
  | some content :: inputs => content :: opened inputs
  | _ => []

def Framing.datagramsOf (inputs : List (Option (List UInt8))) : List (List UInt8) :=
  (opened inputs).flatMap datagrams

namespace Feeder
open Framing

def pending (feeder : Feeder) : List (List UInt8) :=
  datagrams feeder.rest ++ datagramsOf feeder.inputs

/-- A feeder has submitted the first of some datagrams; while its pool takes datagrams or reports
are received, only those are missing that are still pending. -/
structure Follows (raws : List (List UInt8)) (feeder : Feeder) : Prop where
  queued : feeder.queued = feeder.pool.submitted.length
  isPrefix : feeder.pool.submitted.reverse <+: raws
  ended : feeder.pool.submitting = false → feeder.rest = [] ∧ feeder.inputs = []
  complete : feeder.pool.isOpen = true ∨ feeder.pool.receiving = true →
    feeder.pool.submitted.reverse ++ feeder.pending = raws

/-- Nothing happens any more unless the receiver hangs up. -/
def Resting (feeder : Feeder) : Prop :=
  ∀ action, action ≠ .work .hangUp → feeder.act? action = none

variable {feeder next : Feeder} {action : FeederAction} {workers capacity : ℕ}
  {collector : Collector} {raws : List (List UInt8)}

lemma pending_of_readLine? {line rest : List UInt8}
    (h : readLine? feeder.rest = some (line, rest)) :
    feeder.pending = (datagram? line).toList ++ (datagrams rest ++ datagramsOf feeder.inputs) := by
  rw [pending, (datagrams_of_readLine? h).1, List.append_assoc]

lemma Follows.work (h : feeder.Follows raws) {action : PoolAction} {pool : Pool}
    (hmoves : feeder.pool.Moves action pool) (hsubmitted : pool.submitted = feeder.pool.submitted)
    (hended : pool.submitting = false → feeder.rest = [] ∧ feeder.inputs = []) :
    Follows raws { feeder with pool := pool } where
  queued := h.queued.trans (congrArg List.length hsubmitted).symm
  isPrefix := hsubmitted.symm ▸ h.isPrefix
  ended := hended
  complete hgoing := by
    rw [show pool.submitted = _ from hsubmitted]
    exact h.complete (hgoing.imp hmoves.isOpen hmoves.receiving)

lemma submitted_of_moves {pool next : Pool} {action : PoolAction} (hfeeds : action.feeds = false)
    (h : pool.Moves action next) :
    next.submitted = pool.submitted ∧ next.submitting = pool.submitting := by
  cases h with
  | submit | close => cases hfeeds
  | _ => exact ⟨rfl, rfl⟩

lemma not_receiving_of_closed (hfits : feeder.pool.Fits workers capacity)
    (hclosed : feeder.pool.isOpen = false) (hsubmitting : feeder.pool.submitting = true) :
    feeder.pool.receiving = false := by
  refine Bool.eq_false_iff.2 fun hreceiving => ?_
  rw [Pool.isOpen, hsubmitting, Bool.true_and, List.any_eq_false] at hclosed
  have hstopped : ∀ worker ∈ feeder.pool.workers, worker = .stopped :=
    fun worker hworker => by simpa using hclosed worker hworker
  have hpos : 0 < feeder.pool.workers.length := by
    rw [hfits.workers]
    omega
  obtain ⟨worker, hworker⟩ := List.exists_mem_of_length_pos hpos
  cases hsubmitting.symm.trans
    (hfits.drained hreceiving (hstopped worker hworker ▸ hworker)).1

lemma Follows.step (h : feeder.Follows raws) (hfits : feeder.pool.Fits workers capacity)
    (hmoves : feeder.Moves action next) : next.Follows raws := by
  cases hmoves with
  | @skip line rest hread hblank =>
    refine ⟨h.queued, h.isPrefix, fun hsubmitting => ?_, fun hgoing => ?_⟩
    · cases (h.ended hsubmitting).1 ▸ hread
    · have hpending := h.complete hgoing
      rwa [pending_of_readLine? hread, hblank] at hpending
  | @submit line rest raw pool hread hraw hpool =>
    cases hpool with
    | submit hopen hroom =>
      have hpending := h.complete (.inl hopen)
      rw [pending_of_readLine? hread, hraw] at hpending
      have hcomplete : (raw :: feeder.pool.submitted).reverse ++
          (datagrams rest ++ datagramsOf feeder.inputs) = raws := by
        rw [← hpending, List.reverse_cons, List.append_assoc]
        rfl
      refine ⟨congrArg (· + 1) h.queued, ⟨_, hcomplete⟩, fun hsubmitting => ?_, fun _ => hcomplete⟩
      cases (h.ended hsubmitting).1 ▸ hread
  | @refused line rest raw hread hraw hclosed =>
    have hsubmitting : feeder.pool.submitting = true := by
      refine Bool.eq_true_of_not_eq_false fun hsubmitting => ?_
      cases (h.ended hsubmitting).1 ▸ hread
    refine ⟨h.queued, h.isPrefix, fun hfalse => ?_, ?_⟩
    · cases hsubmitting.symm.trans hfalse
    · rintro (hopen | hreceiving)
      · cases hclosed.symm.trans hopen
      · cases (not_receiving_of_closed hfits hclosed hsubmitting).symm.trans hreceiving
  | @turn content inputs hrest hinputs =>
    refine ⟨h.queued, h.isPrefix, fun hsubmitting => ?_, fun hgoing => ?_⟩
    · cases (h.ended hsubmitting).2 ▸ hinputs
    · have hpending := h.complete hgoing
      rwa [pending, hrest, hinputs] at hpending
  | fail hrest hinputs =>
    refine ⟨h.queued, h.isPrefix, fun _ => ⟨hrest, rfl⟩, fun hgoing => ?_⟩
    have hpending := h.complete hgoing
    rw [pending, hinputs] at hpending
    exact hpending
  | finish hrest hinputs hpool =>
    cases hpool with
    | close hsubmitting => exact h.work (.close hsubmitting) rfl fun _ => ⟨hrest, hinputs⟩
  | work hfeeds hpool =>
    obtain ⟨hsubmitted, hsubmitting⟩ := submitted_of_moves hfeeds hpool
    exact h.work hpool hsubmitted fun hclosed => h.ended (hsubmitting ▸ hclosed)

lemma Resting.not_moves (h : feeder.Resting) (hmoves : feeder.Moves action next) :
    action = .work .hangUp := by
  by_contra haction
  cases (h action haction).symm.trans (act?_of_moves hmoves)

lemma Resting.queue_lt (h : feeder.Resting) (hfits : feeder.pool.Fits workers capacity)
    (hreceiving : feeder.pool.receiving = true) (hopen : feeder.pool.isOpen = true) :
    feeder.pool.queue.length < feeder.pool.capacity := by
  have hpos : 0 < feeder.pool.capacity := by
    rw [hfits.capacity]
    omega
  obtain ⟨worker, hworker, hrunning⟩ := List.any_eq_true.1 (Bool.and_eq_true_iff.1 hopen).2
  obtain ⟨i, hi⟩ := List.mem_iff_getElem?.1 hworker
  cases worker with
  | idle =>
    cases hqueue : feeder.pool.queue with
    | nil => exact hpos
    | cons raw queue => cases h.not_moves (.work rfl (.take hi hqueue))
  | holding raw => cases h.not_moves (.work rfl (@Pool.Moves.read feeder.pool i raw 0 hi))
  | finished report =>
    cases hchannel : feeder.pool.channel with
    | nil =>
      have hroom : feeder.pool.channel.length < feeder.pool.capacity := by
        rw [hchannel]
        exact hpos
      cases h.not_moves (.work rfl (.send hi hreceiving hroom))
    | cons found channel => cases h.not_moves (.work rfl (.receive hreceiving hchannel))
  | stopped => cases hrunning

lemma Resting.ended (h : feeder.Resting) (hfits : feeder.pool.Fits workers capacity)
    (hreceiving : feeder.pool.receiving = true) :
    feeder.rest = [] ∧ feeder.inputs = [] ∧ feeder.pool.submitting = false := by
  have hrest : feeder.rest = [] := by
    by_contra hne
    obtain ⟨⟨line, rest⟩, hread⟩ : ∃ read, readLine? feeder.rest = some read := ⟨_, if_neg hne⟩
    cases hraw : datagram? line with
    | none => cases h.not_moves (.skip hread hraw)
    | some raw =>
      cases hopen : feeder.pool.isOpen with
      | true =>
        have hroom := h.queue_lt hfits hreceiving hopen
        cases h.not_moves (.submit hread hraw (.submit hopen hroom))
      | false => cases h.not_moves (.refused hread hraw hopen)
  have hinputs : feeder.inputs = [] := by
    cases hinputs : feeder.inputs with
    | nil => rfl
    | cons input inputs =>
      cases input with
      | none => cases h.not_moves (.fail hrest hinputs)
      | some content => cases h.not_moves (.turn hrest hinputs)
  refine ⟨hrest, hinputs, Bool.eq_false_iff.2 fun hsubmitting => ?_⟩
  cases h.not_moves (.finish hrest hinputs (.close hsubmitting))

lemma Resting.pool (h : feeder.Resting) (hsubmitting : feeder.pool.submitting = false) :
    feeder.pool.Resting := by
  intro action haction
  cases hact : feeder.pool.act? action with
  | none => rfl
  | some next =>
    have hmoves := Pool.moves_of_act? hact
    cases hfeeds : action.feeds with
    | false =>
      cases h.not_moves (.work hfeeds hmoves)
      exact absurd rfl haction
    | true =>
      cases hmoves with
      | submit hopen hroom => cases hsubmitting.symm.trans (Bool.and_eq_true_iff.1 hopen).1
      | close hopen => cases hsubmitting.symm.trans hopen
      | _ => cases hfeeds

structure Keeps (collector : Collector) (workers capacity : ℕ) (raws : List (List UInt8))
    (feeder : Feeder) : Prop where
  fits : feeder.pool.Fits workers capacity
  answered : feeder.pool.Answered collector
  follows : feeder.Follows raws

lemma Keeps.step (h : feeder.Keeps collector workers capacity raws) (hstep : feeder.Step next) :
    next.Keeps collector workers capacity raws := by
  obtain ⟨action, hact⟩ := hstep
  have hmoves := moves_of_act? hact
  refine ⟨?_, ?_, h.follows.step h.fits hmoves⟩
  · cases hmoves with
    | submit _ _ hpool | finish _ _ hpool | work _ hpool => exact h.fits.step hpool
    | _ => exact h.fits
  · cases hmoves with
    | submit _ _ hpool | finish _ _ hpool | work _ hpool => exact h.answered.step hpool
    | _ => exact h.answered

end Feeder
end Syslog
