import Syslog.Proofs.Framing
import Syslog.Proofs.Pool.Steps

/-!
# Steps of a feeder

What each action asks of a feeder and does to it. A pool that is closed is not opened again.
-/
namespace Syslog

lemma Pool.Moves.isOpen {pool next : Pool} {action : PoolAction} (h : pool.Moves action next)
    (hopen : next.isOpen = true) : pool.isOpen = true := by
  rw [Pool.isOpen, Bool.and_eq_true_iff, List.any_eq_true] at hopen ⊢
  obtain ⟨hsubmitting, worker, hworker, hrunning⟩ := hopen
  have hrun : ∀ {i : ℕ} {old : Worker}, pool.workers[i]? = some old → (old != .stopped) = true →
      ∃ worker ∈ pool.workers, (worker != .stopped) = true :=
    fun hold hne => ⟨_, List.mem_of_getElem? hold, hne⟩
  cases h with
  | submit | receive | hangUp => exact ⟨hsubmitting, worker, hworker, hrunning⟩
  | close => cases hsubmitting
  | take hold => exact ⟨hsubmitting, hrun hold rfl⟩
  | read hold => exact ⟨hsubmitting, hrun hold rfl⟩
  | send hold => exact ⟨hsubmitting, hrun hold rfl⟩
  | stop hold => exact ⟨hsubmitting, hrun hold rfl⟩
  | giveUp hold => exact ⟨hsubmitting, hrun hold rfl⟩

namespace Feeder

inductive Moves (feeder : Feeder) : FeederAction → Feeder → Prop where
  | skip {line rest : List UInt8} (hread : Framing.readLine? feeder.rest = some (line, rest))
      (hblank : Framing.datagram? line = none) : Moves feeder .read { feeder with rest := rest }
  | submit {line rest raw : List UInt8} {pool : Pool}
      (hread : Framing.readLine? feeder.rest = some (line, rest))
      (hraw : Framing.datagram? line = some raw) (hpool : feeder.pool.Moves (.submit raw) pool) :
      Moves feeder .read
        { feeder with pool := pool, rest := rest, queued := feeder.queued + 1 }
  | refused {line rest raw : List UInt8}
      (hread : Framing.readLine? feeder.rest = some (line, rest))
      (hraw : Framing.datagram? line = some raw) (hclosed : feeder.pool.isOpen = false) :
      Moves feeder .read { feeder with rest := [] }
  | turn {content : List UInt8} {inputs : List (Option (List UInt8))} (hrest : feeder.rest = [])
      (hinputs : feeder.inputs = some content :: inputs) :
      Moves feeder .turn { feeder with rest := content, inputs := inputs }
  | fail {inputs : List (Option (List UInt8))} (hrest : feeder.rest = [])
      (hinputs : feeder.inputs = none :: inputs) : Moves feeder .turn { feeder with inputs := [] }
  | finish {pool : Pool} (hrest : feeder.rest = []) (hinputs : feeder.inputs = [])
      (hpool : feeder.pool.Moves .close pool) : Moves feeder .finish { feeder with pool := pool }
  | work {action : PoolAction} {pool : Pool} (hfeeds : action.feeds = false)
      (hpool : feeder.pool.Moves action pool) :
      Moves feeder (.work action) { feeder with pool := pool }

variable {feeder next : Feeder} {action : FeederAction}

lemma moves_of_act? (h : feeder.act? action = some next) : feeder.Moves action next := by
  cases action with
  | read =>
    obtain ⟨⟨line, rest⟩, hread, hline⟩ := Option.bind_eq_some_iff.1 h
    simp only [afterLine?] at hline
    split at hline
    · next hblank => exact Option.some.inj hline ▸ .skip hread hblank
    · next raw hraw =>
      split at hline
      · obtain ⟨pool, hpool, rfl⟩ := Option.map_eq_some_iff.1 hline
        exact .submit hread hraw (Pool.moves_of_act? hpool)
      · next hclosed =>
        exact Option.some.inj hline ▸ .refused hread hraw (Bool.eq_false_iff.2 hclosed)
  | turn =>
    simp only [act?] at h
    split at h
    · next hrest hinputs => exact Option.some.inj h ▸ .turn hrest hinputs
    · next hrest hinputs => exact Option.some.inj h ▸ .fail hrest hinputs
    · cases h
  | finish =>
    simp only [act?] at h
    split at h
    · next hended =>
      obtain ⟨pool, hpool, rfl⟩ := Option.map_eq_some_iff.1 h
      exact .finish hended.1 hended.2 (Pool.moves_of_act? hpool)
    · cases h
  | work action =>
    simp only [act?] at h
    split at h
    · cases h
    · next hfeeds =>
      obtain ⟨pool, hpool, rfl⟩ := Option.map_eq_some_iff.1 h
      exact .work (Bool.eq_false_iff.2 hfeeds) (Pool.moves_of_act? hpool)

lemma act?_of_moves (h : feeder.Moves action next) : feeder.act? action = some next := by
  cases h with
  | skip hread hblank => simp [act?, hread, afterLine?, hblank]
  | submit hread hraw hpool =>
    cases hpool with
    | submit hopen hroom => simp [act?, hread, afterLine?, hraw, Pool.act?, hopen, hroom]
  | refused hread hraw hclosed => simp [act?, hread, afterLine?, hraw, hclosed]
  | turn hrest hinputs => simp only [act?, hrest, hinputs]
  | fail hrest hinputs => simp only [act?, hrest, hinputs]
  | finish hrest hinputs hpool => simp [act?, hrest, hinputs, Pool.act?_of_moves hpool]
  | work hfeeds hpool => simp [act?, hfeeds, Pool.act?_of_moves hpool]

end Feeder
end Syslog
