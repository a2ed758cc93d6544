import GattRpc.Proofs.Connection.Deeds
import GattRpc.Session.Client
import GattRpc.Settings.Reader

/-! # Running with settings

Options can be run when their command queue can be made and their poll period is not zero
(`Options.runnable_iff`). Settings make every period positive, so that no task with options from
settings crashes, whatever its link does. What they do not bound is the command queue
(`Settings.never_crashes_and_runnable_iff`). -/

namespace GattRpc

/-- Something that may come next crashes the task. -/
def Standing.Crashes : Standing → Prop
  | .idle c => ∃ x c' out, c.Awaits x ∧ Connection.handle x c = .crashed c' out
  | .calling _ l resume => ∃ (a : LinkAnswer l) (c' : Connection) (out : List Output),
    resume a = .crashed c' out
  | .ended _ => False

namespace Connection.Run

variable {options : Options} {h : History} {t : Standing}

theorem not_crashes (mode : options.pollMode ≠ .interval 0) (run : Run options h t) :
    ¬ t.Crashes := by
  have u := run.upholds (J := fun _ _ => True) mode trivial fun _ _ _ _ => trivial
  cases t with
  | idle c =>
    rintro ⟨x, c', out, -, crashed⟩
    have safe : Progress.Safe AtCall h (handle x c) := safe_handle u.1 mode
    rw [crashed] at safe
    exact safe
  | calling c l resume =>
    rintro ⟨a, c', out, crashed⟩
    obtain ⟨-, g, c₀, x, part, -, -, -, reacting⟩ := u
    have safe := (reacting a).1
    rw [crashed] at safe
    exact safe
  | ended c => exact id

/-- A period of zero crashes the task as soon as the service is found. -/
theorem exists_crashes (zero : options.pollMode = .interval 0) :
    ∃ h t, Run options h t ∧ t.Crashes := by
  obtain ⟨mode, timeout, policy, queue, limit, drain⟩ := options
  cases zero
  have idle : Run ⟨.interval 0, timeout, policy, queue, limit, drain⟩ [] _ := .start
  have connecting := idle.step (.take (s := .command 0 .connect) trivial)
  have discovering := connecting.step (.answer (l := .connect) ⟨0, .ok "peer"⟩)
  exact ⟨_, _, discovering,
    ⟨0, .ok [⟨rpcService, [sampleChannel.inbox, sampleChannel.pollSignal]⟩]⟩, _, _, rfl⟩

end Connection.Run

namespace Options

/-- A client can be made with these options, and its task never crashes, whatever its link does. -/
structure Runnable (o : Options) : Prop where
  opens : (Session.open? () o).isSome
  endures : ∀ h t, Connection.Run o h t → ¬ t.Crashes

theorem isSome_open? (o : Options) :
    (Session.open? () o).isSome ↔ o.commandQueue ≤ maxCommandQueue := by
  rw [Session.open?]
  split
  next small => exact iff_of_true rfl small
  next large => exact iff_of_false nofun large

theorem runnable_iff (o : Options) :
    o.Runnable ↔ o.commandQueue ≤ maxCommandQueue ∧ o.pollMode ≠ .interval 0 := by
  constructor
  · rintro ⟨opens, endures⟩
    refine ⟨o.isSome_open?.1 opens, fun zero => ?_⟩
    obtain ⟨h, t, run, crashes⟩ := Connection.Run.exists_crashes zero
    exact endures h t run crashes
  · rintro ⟨small, mode⟩
    exact ⟨o.isSome_open?.2 small, fun h t run => run.not_crashes mode⟩

end Options

namespace Settings

variable (s : Settings)

theorem pollMode_ne_zero : s.options.pollMode ≠ .interval 0 := by
  rw [options]
  cases s.rpc.polling with
  | notify => nofun
  | interval =>
    intro zero
    have := PollMode.interval.inj zero
    omega

/-- With settings, however they have been come by, timers get a positive period and no task crashes;
but a client can be made only if the command queue is not too large. -/
theorem never_crashes_and_runnable_iff :
    (∀ period, s.options.pollMode = .interval period → 0 < period) ∧
    (∀ h t, Connection.Run s.options h t → ¬ t.Crashes) ∧
    (s.options.Runnable ↔ s.rpc.commandQueue.toNat ≤ Options.maxCommandQueue) := by
  refine ⟨fun period mode => ?_, fun h t run => run.not_crashes s.pollMode_ne_zero, ?_⟩
  · rcases period with _ | period
    · exact absurd mode s.pollMode_ne_zero
    · exact Nat.succ_pos period
  · rw [Options.runnable_iff]
    exact and_iff_left s.pollMode_ne_zero

/-- A text may ask for a queue that is too large. -/
theorem exists_parse_not_runnable :
    ∃ s, parse "[rpc]\ncommand_queue = 2305843009213693952\n" = .ok s ∧ ¬ s.options.Runnable := by
  refine ⟨{ rpc := { commandQueue := 2305843009213693952 } }, rfl, fun runnable => ?_⟩
  have small := (Options.isSome_open? _).1 runnable.opens
  exact absurd small (by decide)

end Settings

end GattRpc
