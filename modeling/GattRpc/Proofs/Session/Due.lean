import GattRpc.Proofs.Connection.Effort
import GattRpc.Proofs.Session.Execution

/-! # What is due

What an engine can still serve at one time is counted by its load: the commands that wait, the
notifications that the link has or will bring, the checks for old requests and the poll ticks that
are due. Whatever is served takes from the load, and what the connection does then adds nothing to
it (`Engine.Serves.load_after`). The timers always fit the connection (`Engine.Timed.after`). -/

namespace GattRpc

open Connection

/-! ### Links that answer at once -/

/-- How many notifications a source has ready, if there is one. -/
def PollSource.ready : Option PollSource → Nat
  | some (.notifications waiting _) => waiting.length
  | _ => 0

namespace Adapter

variable {L : Type} [Adapter L]

/-- How many notifications a link has ready, or may still bring by itself. -/
def supply (l : L) : Nat := PollSource.ready (notifications l) + arrivals l

/-- Links that satisfy `P` answer every call at once, and no more notifications come than they have
in supply. -/
structure Prompt (P : L → Prop) : Prop extends Answers P where
  instant : ∀ l call, P l → (Adapter.start l call).2 = 0
  started : ∀ l call, P l → supply (Adapter.start l call).1 ≤ supply l
  finished : ∀ l call, P l → supply (Adapter.finish l call).1 ≤ supply l
  kept : ∀ l waiting ended, P l →
    supply (Adapter.keep l (.notifications waiting ended)) = waiting.length + Adapter.arrivals l

end Adapter

/-! ### Timers -/

namespace IntervalTimer

variable {t : IntervalTimer} {now : Nat}

/-- How often a timer is due before it has caught up. -/
def ticks (t : IntervalTimer) (now : Nat) : Nat :=
  if now < t.deadline then 0 else if now ≤ t.deadline + tolerance then now - t.deadline + 1 else 1

theorem ticks_le : t.ticks now ≤ tolerance + 1 := by
  unfold ticks
  split
  · exact Nat.zero_le _
  · split <;> omega

theorem ticks_start {period : Nat} : (start period now).ticks now = 1 := by
  simp [ticks, start]

theorem period_take : (t.take now).period = t.period := by
  unfold take
  split <;> rfl

theorem ticks_take (positive : 0 < t.period) (due : t.isDue now = true) :
    (t.take now).ticks now < t.ticks now := by
  have due : t.deadline ≤ now := of_decide_eq_true due
  by_cases late : now ≤ t.deadline + tolerance
  · rw [take, if_pos late, ticks, ticks, if_neg (Nat.not_lt.2 due), if_pos late]
    dsimp only
    split
    · exact Nat.succ_pos _
    · split <;> omega
  · rw [take, if_neg late, ticks, ticks, if_neg (Nat.not_lt.2 due), if_neg late,
      if_pos (Nat.lt_add_of_pos_right positive)]
    exact Nat.one_pos

theorem deadline_take (due : t.isDue now = true) : (t.take now).deadline ≤ now + t.period := by
  have due : t.deadline ≤ now := of_decide_eq_true due
  unfold take
  split
  · exact Nat.add_le_add_right due _
  · exact Nat.le_refl _

end IntervalTimer

variable {L : Type} {P : L → Prop} {options : Options} {g h : History} {c d : Connection}
  {now : Nat}

/-! ### Engines that await nothing -/

namespace Engine

/-- How often requests may still be checked for their age at this time. -/
def sweeps (e : Engine L) (now : Nat) : Nat :=
  match e.sweepTimer with
  | some t => t.ticks now
  | none => 0

/-- How often the poll timer may still be due at this time, and one more, until the connection is
closed. A timer that has still to be started will be due once. -/
def polls (e : Engine L) (now : Nat) : Nat :=
  if e.connection.state = .closed then 0
  else match e.pollTimer with
    | some t => t.ticks now + 1
    | none => 2

/-- The timers fit the connection. -/
structure Timed (options : Options) (now : Nat) (e : Engine L) : Prop where
  polls : ∀ t, e.pollTimer = some t → 0 < t.period ∧ e.connection.channel.isSome ∧
    ∃ period, options.pollMode = .interval period
  checks : ∀ t, e.sweepTimer = some t →
    t.period = Options.sweepPeriod ∧ t.deadline ≤ now + Options.sweepPeriod
  swept : e.sweepTimer.isSome = e.connection.sweeping
  sweeping : e.connection.sweeping =
    (options.requestTimeout.isSome && e.connection.state ≠ .closed)

/-- No request that waits will have been too old for long when the next check comes. -/
def Prompts (options : Options) (e : Engine L) : Prop :=
  ∀ t timeout, e.sweepTimer = some t → options.requestTimeout = some timeout →
    ∀ p ∈ e.connection.correlator.outstanding, t.deadline ≤ p.since + timeout + Options.sweepPeriod

/-- The engine once the connection has reacted to something. Meanwhile the link and the queue may
have changed. -/
def after (e : Engine L) (now : Nat) (link : L) (queue : List (Nat × Command)) (c : Connection) :
    Engine L :=
  { e with link, queue, connection := c, waiting := none }.adjustTimers now

variable {e e' : Engine L} {x : Stimulus} {link : L} {queue : List (Nat × Command)}

theorem sweeps_le : e.sweeps now ≤ IntervalTimer.tolerance + 1 := by
  unfold sweeps
  split
  · exact IntervalTimer.ticks_le
  · exact Nat.zero_le _

theorem polls_le : e.polls now ≤ IntervalTimer.tolerance + 2 := by
  unfold polls
  split
  · exact Nat.zero_le _
  · split
    · exact Nat.succ_le_succ IntervalTimer.ticks_le
    · exact Nat.le_add_left _ _

theorem polls_of_closed (closed : e.connection.state = .closed) : e.polls now = 0 := if_pos closed

theorem polls_pos (unclosed : e.connection.state ≠ .closed) : 0 < e.polls now := by
  rw [polls, if_neg unclosed]
  split <;> exact Nat.succ_pos _

/-! ### Timers after a reaction -/

theorem pollTimer_after {channel : Channel} {period : Nat} (inUse : c.channel = some channel)
    (mode : c.options.pollMode = .interval period) :
    (e.after now link queue c).pollTimer = some (e.pollTimer.getD (.start period now)) := by
  simp [after, adjustTimers, inUse, mode]

theorem of_pollTimer_after {t : IntervalTimer}
    (runs : (e.after now link queue c).pollTimer = some t) :
    c.channel.isSome ∧ ∃ period, c.options.pollMode = .interval period ∧
      t = e.pollTimer.getD (.start period now) := by
  rw [after, adjustTimers] at runs
  dsimp only at runs
  split at runs
  next channel period inUse mode =>
    exact ⟨Option.isSome_of_eq_some inUse, period, mode, (Option.some.inj runs).symm⟩
  next => cases runs

theorem sweepTimer_after : (e.after now link queue c).sweepTimer =
    if c.sweeping then e.sweepTimer else none := rfl

theorem of_sweepTimer_after {t : IntervalTimer}
    (runs : (e.after now link queue c).sweepTimer = some t) : e.sweepTimer = some t := by
  rw [sweepTimer_after] at runs
  split at runs
  · exact runs
  · cases runs

theorem sweeps_after : (e.after now link queue c).sweeps now ≤ e.sweeps now := by
  rw [sweeps, sweeps, sweepTimer_after]
  by_cases on : c.sweeping = true
  · rw [if_pos on]
  · rw [if_neg on]
    exact Nat.zero_le _

/-- The timers are kept in step with the connection. -/
theorem Timed.after (k : e.Timed options now) (mode : options.pollMode ≠ .interval 0)
    (before : Steady options g e.connection) (later : Steady options (g ++ h) c)
    (sweeping : c.sweeping = (e.connection.sweeping && c.state ≠ .closed)) :
    (e.after now link queue c).Timed options now where
  polls t ht := by
    obtain ⟨inUse, period, timed, rfl⟩ := of_pollTimer_after ht
    rw [later.configured] at timed
    refine ⟨?_, inUse, period, timed⟩
    cases started : e.pollTimer with
    | none =>
      rw [timed] at mode
      exact Nat.pos_of_ne_zero fun zero => mode (congrArg _ zero)
    | some t => exact (k.polls t started).1
  checks t ht := k.checks t (of_sweepTimer_after ht)
  swept := by
    rw [sweepTimer_after]
    show _ = c.sweeping
    cases on : c.sweeping with
    | true =>
      rw [on] at sweeping
      rw [if_pos rfl, k.swept]
      exact (Bool.and_eq_true_iff.1 sweeping.symm).1
    | false => rfl
  sweeping := by
    show c.sweeping = (options.requestTimeout.isSome && c.state ≠ .closed)
    rw [sweeping, k.sweeping]
    by_cases closed : e.connection.state = .closed
    · simp [closed, before.closed_of_closed later closed]
    · simp [closed]

/-- The poll timer of a connection that is in use stays as it is. -/
theorem Timed.polls_after (k : e.Timed options now) (before : Steady options g e.connection)
    (later : Steady options (g ++ h) c) :
    (e.after now link queue c).polls now ≤ e.polls now := by
  by_cases closed : c.state = .closed
  · rw [polls_of_closed (e := e.after now link queue c) closed]
    exact Nat.zero_le _
  have unclosed : e.connection.state ≠ .closed := fun was =>
    closed (before.closed_of_closed later was)
  rw [Engine.polls, Engine.polls, if_neg unclosed,
    if_neg (show (e.after now link queue c).connection.state ≠ _ from closed)]
  cases started : e.pollTimer with
  | none =>
    cases starts : (e.after now link queue c).pollTimer with
    | none => exact Nat.le_refl _
    | some t =>
      obtain ⟨-, period, -, rfl⟩ := of_pollTimer_after starts
      rw [started]
      exact Nat.le_of_eq (congrArg (· + 1) IntervalTimer.ticks_start)
  | some t =>
    obtain ⟨-, inUse, period, timed⟩ := k.polls t started
    obtain ⟨channel, inUse⟩ := Option.isSome_iff_exists.1
      ((before.uses later inUse).resolve_right closed)
    rw [pollTimer_after inUse (later.configured.symm ▸ timed), started]
    exact Nat.le_refl _

/-! ### What is served -/

variable [Adapter L]

/-- How many things may still be served at this time, besides the commands of calls that wait. -/
def load (e : Engine L) (now : Nat) : Nat :=
  e.queue.length + Adapter.supply e.link + e.sweeps now + e.polls now

/-- An engine that awaits nothing serves a stimulus, once it is `e'`. -/
structure Serves (options : Options) (P : L → Prop) (now : Nat) (e : Engine L) (x : Stimulus)
    (e' : Engine L) : Prop where
  awaits : e.connection.Awaits x
  link : P e'.link
  connection : e'.connection = e.connection
  ended : e'.ended = e.ended
  timed : e'.Timed options now
  /-- Only when requests are checked does the timer for that go on. -/
  checks : e'.sweepTimer = e.sweepTimer ∨ x = .sweep now
  /-- One thing less is left to be served, unless the connection will be closed. -/
  less : e'.load now < e.load now ∨ (x = .linkLost ∨ x = .poll .ended) ∧ e'.load now ≤ e.load now
  /-- Only a command asks to send. -/
  queued : e.queue = [] → e'.queue = [] ∧ ¬ x.Sends

theorem Serves.of_pollTick? {tick : PollTick} (prompt : Adapter.Prompt P) (well : P e.link)
    (k : e.Timed options now) (steady : Steady options g e.connection)
    (due : e.pollTick? now = some (tick, e')) : e.Serves options P now (.poll tick) e' := by
  obtain ⟨awaits, -, well', -⟩ :=
    show e.connection.Awaits (.poll tick) ∧ e'.erase none = e.erase none ∧ P e'.link ∧ _ from
      awaits_of_pollTick? prompt.toAnswers well due
  unfold pollTick? at due
  split at due
  next channel inUse mode =>
    obtain ⟨source, subscribed, due⟩ := Option.bind_eq_some_iff.1 due
    obtain ⟨waiting, ended, rfl⟩ := prompt.streams _ _ well subscribed
    obtain ⟨⟨tick', left⟩, next, is⟩ := Option.bind_eq_some_iff.1 due
    cases is
    have supply : Adapter.supply e.link = waiting.length + Adapter.arrivals e.link := by
      rw [Adapter.supply, subscribed, PollSource.ready]
    cases waiting with
    | cons payload waiting =>
      cases next
      refine ⟨awaits, well', rfl, rfl, ⟨k.polls, k.checks, k.swept, k.sweeping⟩, .inl rfl, .inl ?_,
        fun none => ⟨none, id⟩⟩
      rw [load, load, supply, prompt.kept _ _ _ well, List.length_cons]
      show e.queue.length + (waiting.length + Adapter.arrivals e.link) + e.sweeps now +
        e.polls now < _
      omega
    | nil =>
      cases ended with
      | true =>
        cases next
        refine ⟨awaits, well', rfl, rfl, ⟨k.polls, k.checks, k.swept, k.sweeping⟩, .inl rfl,
          .inr ⟨.inr rfl, ?_⟩, fun none => ⟨none, id⟩⟩
        rw [load, load, supply, prompt.kept _ _ _ well]
        exact Nat.le_refl _
      | false => cases next
  next channel period inUse mode =>
    obtain ⟨timer, running, due⟩ := Option.bind_eq_some_iff.1 due
    split at due
    next isDue =>
      cases due
      obtain ⟨positive, polled⟩ := k.polls timer running
      refine ⟨awaits, well', rfl, rfl, ⟨?_, k.checks, k.swept, k.sweeping⟩, .inl rfl, .inl ?_,
        fun none => ⟨none, id⟩⟩
      · intro t ht
        cases ht
        rw [IntervalTimer.period_take]
        exact ⟨positive, polled⟩
      · have unclosed := steady.unclosed (Option.isSome_of_eq_some inUse)
        have fewer := IntervalTimer.ticks_take positive isDue
        rw [load, load, Engine.polls, Engine.polls, if_neg unclosed, if_neg unclosed, running]
        exact Nat.add_lt_add_left (Nat.succ_lt_succ fewer) _
    next => cases due
  next => cases due

theorem Serves.of_sweepTick? (sound : e.Sound P)
    (k : e.Timed options now) (running : e.ended = false) (idle : e.waiting = none)
    (due : e.sweepTick? now = some e') : e.Serves options P now (.sweep now) e' := by
  obtain ⟨awaits, -, well', -⟩ :=
    show e.connection.Awaits (.sweep now) ∧ e'.erase none = e.erase none ∧ P e'.link ∧ _ from
      awaits_of_sweepTick? sound running idle due
  obtain ⟨t, started, due⟩ := Option.bind_eq_some_iff.1 due
  split at due
  next isDue =>
    cases due
    obtain ⟨period, -⟩ := k.checks t started
    refine ⟨awaits, well', rfl, rfl, ⟨k.polls, ?_, ?_, k.sweeping⟩, .inr rfl, .inl ?_,
      fun none => ⟨none, id⟩⟩
    · intro t' ht
      cases ht
      refine ⟨IntervalTimer.period_take.trans period, ?_⟩
      exact period ▸ IntervalTimer.deadline_take isDue
    · rw [← k.swept, started]
      rfl
    · have fewer := IntervalTimer.ticks_take (t := t) (period ▸ by decide) isDue
      rw [load, load, Engine.sweeps, Engine.sweeps, started]
      exact Nat.add_lt_add_right (Nat.add_lt_add_left fewer _) _
  next => cases due

/-- The next thing that an engine does that awaits nothing, while its clients are there. -/
theorem exists_serves {r : Engine L × List Output} (prompt : Adapter.Prompt P) (sound : e.Sound P)
    (k : e.Timed options now) (steady : Steady options g e.connection)
    (idle : e.waiting = none) (step : e.step now false = some r) :
    ∃ x e', e.Serves options P now x e' ∧ r = e'.serve now x := by
  obtain ⟨running, does⟩ := Does.of_step step
  cases does with
  | answered waiting | failed waiting =>
    rw [idle] at waiting
    cases waiting
  | @command ticket cmd queue _ first =>
    refine ⟨.command ticket cmd, { e with queue },
      ⟨trivial, sound.link, rfl, rfl, ⟨k.polls, k.checks, k.swept, k.sweeping⟩, .inl rfl, ?_, ?_⟩,
      rfl⟩
    · left
      rw [load, load, first, List.length_cons]
      show queue.length + Adapter.supply e.link + e.sweeps now + e.polls now < _
      omega
    · rw [first]
      exact nofun
  | clientsGone _ _ gone => cases gone
  | linkLost _ watching =>
    exact ⟨.linkLost, e, ⟨watching, sound.link, rfl, rfl, k, .inl rfl,
      .inr ⟨.inl rfl, Nat.le_refl _⟩, fun none => ⟨none, id⟩⟩, rfl⟩
  | @poll tick e' _ due => exact ⟨_, e', .of_pollTick? prompt sound.link k steady due, rfl⟩
  | @sweep e' _ due => exact ⟨_, e', .of_sweepTick? sound k running idle due, rfl⟩

/-- Nothing is due in an engine that awaits nothing and has nothing to do. -/
theorem of_step_eq_none (running : e.ended = false) (idle : e.waiting = none)
    (nothing : e.step now false = none) :
    e.queue = [] ∧ e.pollTick? now = none ∧ e.sweepTick? now = none := by
  rw [step, running, idle] at nothing
  dsimp only at nothing
  rw [if_neg Bool.false_ne_true] at nothing
  split at nothing
  · cases nothing
  · next empty =>
    refine ⟨empty, ?_⟩
    rw [if_neg Bool.false_ne_true] at nothing
    split at nothing
    · cases nothing
    · split at nothing
      · cases nothing
      · next tick => exact ⟨tick, Option.map_eq_none_iff.1 nothing⟩

/-- Whatever is served takes from the load, also when the connection has reacted to it. -/
theorem Serves.load_after (k : e.Serves options P now x e') (before : Steady options g e.connection)
    (later : Steady options (g ++ h) c)
    (closes : x = .linkLost ∨ x = .poll .ended → c.state = .closed) (link : L)
    (queue : List (Nat × Command)) :
    e'.queue.length + Adapter.supply e'.link + (e'.after now link queue c).sweeps now +
      (e'.after now link queue c).polls now < e.load now := by
  have sweeps : (e'.after now link queue c).sweeps now ≤ e'.sweeps now := sweeps_after
  rcases k.less with less | ⟨lost, le⟩
  · have polls : (e'.after now link queue c).polls now ≤ e'.polls now :=
      k.timed.polls_after (k.connection ▸ before) later
    rw [load] at less
    omega
  · have unclosed : e'.connection.state ≠ .closed := by
      rw [k.connection]
      rcases lost with rfl | rfl
      · rw [before.watching.1 k.awaits]
        decide
      · exact before.unclosed k.awaits.1
    have some : 0 < e'.polls now := polls_pos unclosed
    rw [polls_of_closed (e := e'.after now link queue c) (closes lost)]
    rw [load] at le
    omega

theorem Serves.prompts_after (k : e.Serves options P now x e') (prompts : e.Prompts options)
    (limit : e.connection.options.requestTimeout = options.requestTimeout)
    (reacts : e.connection.Reacts x h d) (times : ∀ t ∈ h.times, t = now) :
    (e'.after now link queue d.rested).Prompts options := by
  intro t timeout runs limited p waits
  have runs := of_sweepTimer_after runs
  have soon := (k.timed.checks t runs).2
  rcases k.checks with same | rfl
  · rcases reacts.outstanding_cases waits with waited | now
    · exact prompts t timeout (same ▸ runs) limited p waited
    · rw [times _ now]
      omega
  · have young := reacts.age_lt (limit.trans limited) waits
    rw [Pending.age] at young
    omega

end Engine

end GattRpc
