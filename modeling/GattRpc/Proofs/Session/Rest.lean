import GattRpc.Proofs.Session.Due
import GattRpc.Proofs.Session.Expiry
import GattRpc.Proofs.Session.Once

/-! # How a session comes to rest

Over a link that answers at once, whatever a task serves is served to its end
(`Session.exists_turn`), and each turn takes as many steps from the load of the session as it is
long, at least. So a session that is let run comes to rest, and the steps that are allowed for are
enough (`Session.Idle.settle`). -/

namespace GattRpc

open Connection

theorem History.times_tell {out : List Output} : times (out.map .tell) = [] := by
  refine times_eq_nil fun a told prompts => ?_
  obtain ⟨o, -, rfl⟩ := List.mem_map.1 told
  exact prompts

variable {L : Type} {P : L → Prop} {options : Options} {j : Journal} {g h : History}
  {c c' : Connection} {p : Progress Unit} {now n m : Nat}

/-! ### Turns -/

namespace Engine

/-- The engine once an activity has come so far, over a link that answers at once. -/
def along (e : Engine L) (now : Nat) : Progress Unit → Engine L
  | .done () c _ => e.after now e.link e.queue c
  | .waiting c _ call resume => { e with connection := c, waiting := some ⟨call, now, resume⟩ }
  | .crashed c _ => { e with connection := c, waiting := none, ended := true }

variable {e : Engine L}

theorem queue_along : (e.along now p).queue = e.queue := by cases p <;> rfl

theorem link_along : (e.along now p).link = e.link := by cases p <;> rfl

variable [Adapter L]

theorem absorb_eq (prompt : Adapter.Prompt P) (well : P e.link) (now : Nat) (p : Progress Unit) :
    ∃ link, P link ∧ Adapter.supply link ≤ Adapter.supply e.link ∧
      (e.absorb now p).1 = { e with link }.along now p := by
  cases p with
  | done | crashed => exact ⟨e.link, well, Nat.le_refl _, rfl⟩
  | waiting c out call resume =>
    refine ⟨_, prompt.start _ call well, prompt.started _ call well, ?_⟩
    have due : (Adapter.start e.link call).2 = 0 := prompt.instant _ call well
    simp only [absorb, along, due, Nat.add_zero]

end Engine

namespace Session

variable {s s' s'' : Session L}

/-- A command in the queue takes a step less than a call that has still to put it there. -/
def backlog (s : Session L) : Nat := 7 * s.queueing.length + 6 * s.engine.queue.length

theorem backlog_eq_zero : s.backlog = 0 ↔ s.queueing = [] ∧ s.engine.queue = [] := by
  rw [backlog, ← List.length_eq_zero_iff, ← List.length_eq_zero_iff]
  omega

theorem length_queueing_enter {r : RunningCall} (waits : r ∈ s.queueing) :
    (s.enter r).queueing.length < s.queueing.length := by
  rw [queueing_enter]
  exact List.length_filter_lt_length_iff_exists.2 ⟨r, waits, by simp⟩

theorem backlog_enter {r : RunningCall} (waits : r ∈ s.queueing) :
    (s.enter r).backlog < s.backlog := by
  have fewer := length_queueing_enter waits
  have longer : (s.enter r).engine.queue.length = s.engine.queue.length + 1 := List.length_append
  rw [backlog, backlog, longer]
  omega

/-- What the task has done is noted. -/
theorem noted (s : Session L) (e : Engine L) (out : List Output) :
    let s' := (out.foldl note { s with engine := e }).endOrphans
    s'.engine = e ∧ s'.now = s.now ∧ s.Keeps s' ∧ s'.queueing.Sublist s.queueing := by
  have engine : s.Keeps { s with engine := e } := .of_eq rfl rfl
  refine ⟨?_, now_endOrphans.trans now_notes,
    (engine.trans keeps_foldl_note).trans keeps_endOrphans,
    callsAt_endOrphans.trans (callsAt_foldl_note (by simp))⟩
  rw [endOrphans_eq.1, foldl_note_eq.1]

variable [Adapter L]

/-- So many things are done one after the other. -/
inductive Steps : Nat → Session L → Session L → Prop
  | refl {s : Session L} : Steps 0 s s
  | step {n : Nat} {s s' s'' : Session L} (next : s.next? = some s') (rest : Steps n s' s'') :
    Steps (n + 1) s s''

theorem Steps.runFor (k : Steps n s s') : s.runFor (n + m) = s'.runFor m := by
  induction k with
  | refl => rw [Nat.zero_add]
  | step next _ ih =>
    rw [Nat.add_right_comm, Session.runFor, next]
    exact ih

theorem Steps.trans (first : Steps n s s') (rest : Steps m s' s'') : Steps (n + m) s s'' := by
  induction first with
  | refl => rwa [Nat.zero_add]
  | step next _ ih =>
    rw [Nat.add_right_comm]
    exact .step next (ih rest)

theorem runFor_of_rest (rest : s.next? = none) : s.runFor n = s := by
  cases n with
  | zero => rfl
  | succ n => rw [runFor, rest]

/-- The next thing that is done leads the engine `e` through the beginning of an activity. -/
structure Takes (P : L → Prop) (e : Engine L) (p : Progress Unit) (s s' : Session L) : Prop where
  next : s.next? = some s'
  now : s'.now = s.now
  keeps : s.Keeps s'
  queueing : s'.queueing.Sublist s.queueing
  engine : ∃ link, P link ∧ Adapter.supply link ≤ Adapter.supply e.link ∧
    s'.engine = { e with link }.along s.now p

theorem exists_takes (prompt : Adapter.Prompt P) {e : Engine L} (well : P e.link)
    (unasked : s.entrant? = none)
    (step : s.engine.step s.now s.clientsGone = some (e.absorb s.now p)) :
    ∃ s', Takes P e p s s' := by
  obtain ⟨link, well', supply, absorbed⟩ := Engine.absorb_eq prompt well s.now p
  obtain ⟨engine, clock, keeps, queueing⟩ := s.noted (e.absorb s.now p).1 (e.absorb s.now p).2
  refine ⟨_, ?_, clock, keeps, queueing, link, well', supply, engine.trans absorbed⟩
  rw [next?, unasked, show s.work? = _ from congrArg (Option.map _) step]
  rfl

theorem Takes.backlog_le {e : Engine L} (k : Takes P e p s s') :
    s'.backlog ≤ 7 * s.queueing.length + 6 * e.queue.length := by
  obtain ⟨link, -, -, engine⟩ := k.engine
  rw [backlog, engine, Engine.queue_along]
  exact Nat.add_le_add_right (Nat.mul_le_mul_left _ k.queueing.length_le) _

theorem Takes.supply_le {e : Engine L} (k : Takes P e p s s') :
    Adapter.supply s'.engine.link ≤ Adapter.supply e.link := by
  obtain ⟨link, -, supply, engine⟩ := k.engine
  rw [engine, Engine.link_along]
  exact supply

/-- What an activity has come to, that the engine `e` was to go through: it has ended, each step
was a call or let a command enter the queue, and only the link and the queue have changed. -/
structure Turn (P : L → Prop) (e : Engine L) (p : Progress Unit) (s s' : Session L) : Prop where
  now : s'.now = s.now
  keeps : s.Keeps s'
  backlog : s'.backlog ≤ s.backlog
  ends : ∃ n h c, s.Steps n s' ∧ p.Ends h () c ∧ n + s'.backlog ≤ h.calls.length + s.backlog ∧
    (∀ t ∈ h.times, t = s.now) ∧ ∃ link queue, P link ∧
      Adapter.supply link ≤ Adapter.supply s.engine.link ∧
        s'.engine = e.after s.now link queue c

/-- A call enters the queue while an activity goes on. -/
theorem Turn.enter {e : Engine L} {r : RunningCall} (entrant : s.entrant? = some r)
    (k : Turn P e p (s.enter r) s') : Turn P e p s s' := by
  obtain ⟨n, h, c, steps, ends, cost, times, link, queue, well, supply, engine⟩ := k.ends
  have fewer : (s.enter r).backlog < s.backlog := by
    obtain ⟨runs, waits, -⟩ := entrant?_eq_some entrant
    exact backlog_enter (List.mem_filter.2 ⟨runs, decide_eq_true waits⟩)
  have next : s.next? = some (s.enter r) := by rw [next?, entrant]
  have entered : s.Keeps (s.enter r) := .of_eq rfl rfl
  refine ⟨k.now, entered.trans k.keeps, Nat.le_trans k.backlog (Nat.le_of_lt fewer), _, h, c,
    .step next steps, ends, ?_, times, link, queue, well, supply, engine⟩
  omega

/-- The link answers, and the activity goes on. -/
theorem Turn.answered {e : Engine L} {out : List Output} {call : LinkCall}
    {resume : LinkAnswer call → Progress Unit} {a : LinkAnswer call} (time : a.time = s.now)
    {e' : Engine L} (takes : Takes P e' (resume a) s s') (queue : e'.queue = s.engine.queue)
    (supply : Adapter.supply e'.link ≤ Adapter.supply s.engine.link)
    (k : Turn P e (resume a) s' s'') : Turn P e (.waiting c out call resume) s s'' := by
  obtain ⟨n, h, d, steps, ends, cost, times, link, queue', well, supply', engine⟩ := k.ends
  rw [takes.now] at times engine
  have backlog : s'.backlog ≤ s.backlog := Nat.le_trans takes.backlog_le (by rw [queue]; rfl)
  have less := Nat.le_trans takes.supply_le supply
  refine ⟨k.now.trans takes.now, takes.keeps.trans k.keeps, Nat.le_trans k.backlog backlog, _, _, d,
    .step takes.next steps, .waiting a ends, ?_, ?_, link, queue', well, Nat.le_trans supply' less,
    engine⟩
  · simp only [History.calls_append, History.calls_tell, History.calls_cons, Act.call?,
      Option.toList_some, Option.toList_none, List.nil_append, List.singleton_append,
      List.length_cons]
    omega
  · intro t ht
    rw [History.times_append, History.times_tell, List.nil_append] at ht
    rcases List.mem_cons.1 (show t ∈ a.time :: h.times from ht) with rfl | ht
    · exact time
    · exact times t ht

/-- While the link answers, an activity that does not crash goes on to its end. -/
theorem exists_turn (prompt : Adapter.Prompt P) {e : Engine L} (running : e.ended = false)
    (safe : p.Safe AtCall g) {link : L} {queue : List (Nat × Command)} (well : P link)
    (at_p : s.engine = { e with link, queue }.along s.now p) : ∃ s', Turn P e p s s' := by
  induction p generalizing s g link queue with
  | done u c out =>
    refine ⟨s, rfl, .refl, Nat.le_refl _, 0, _, c, .refl, .done, ?_, ?_, link, queue, well, ?_,
      at_p⟩
    · exact Nat.le_of_eq (by rw [History.calls_tell]; rfl)
    · rw [History.times_tell]
      exact nofun
    · rw [at_p]
      exact Nat.le_refl _
  | waiting c out call resume ih =>
    -- Until the link answers, calls may still enter the queue.
    generalize size : s.queueing.length = m
    induction m using Nat.strong_induction_on generalizing s queue with
    | _ m earlier =>
    subst size
    cases entrant : s.entrant? with
    | some r =>
      obtain ⟨runs, waits, -⟩ := entrant?_eq_some entrant
      have fewer : (s.enter r).queueing.length < s.queueing.length :=
        length_queueing_enter (List.mem_filter.2 ⟨runs, decide_eq_true waits⟩)
      have entered : (s.enter r).engine = { e with
          link, queue := queue ++ [(r.number, r.command)] }.along s.now
            (.waiting c out call resume) := by
        rw [enter, await, at_p]
        rfl
      obtain ⟨s', turn⟩ := earlier _ fewer entered rfl
      exact ⟨s', turn.enter entrant⟩
    | none =>
      obtain ⟨found, isSome⟩ := prompt.finish link call well
      obtain ⟨result, answered⟩ := Option.isSome_iff_exists.1 isSome
      have finish : Adapter.finish link call = ((Adapter.finish link call).1, some result) :=
        Prod.ext rfl answered
      have supply := prompt.finished link call well
      generalize (Adapter.finish link call).1 = link' at finish found supply
      have step : s.engine.step s.now s.clientsGone =
          some ({ s.engine with link := link' }.absorb s.now (resume ⟨s.now, result⟩)) := by
        rw [at_p]
        simp [Engine.step, Engine.along, running, finish]
      obtain ⟨s', takes⟩ := exists_takes prompt found entrant step
      obtain ⟨link'', well', -, engine⟩ := takes.engine
      have along : s'.engine = { e with link := link'', queue }.along s'.now
          (resume ⟨s.now, result⟩) := by
        rw [engine, takes.now, at_p]
        cases resume ⟨s.now, result⟩ <;> rfl
      obtain ⟨s'', turn⟩ := ih _ (safe.2 _) well' along
      refine ⟨s'', turn.answered rfl takes rfl ?_⟩
      rw [at_p]
      exact supply
  | crashed => exact safe.elim

end Session

/-! ### Rest -/

namespace Session

variable {s s' s'' : Session L}

/-- What passes at one time: what has returned has returned, and no request becomes outstanding
while no command waits. -/
structure Passes (s s' : Session L) : Prop where
  now : s'.now = s.now
  keeps : s.Keeps s'
  calm : s.backlog = 0 → s'.backlog = 0 ∧
    s'.engine.connection.correlator.outstanding ⊆ s.engine.connection.correlator.outstanding

theorem Passes.refl : Passes s s := ⟨rfl, .refl, fun calm => ⟨calm, List.Subset.refl _⟩⟩

theorem Passes.trans (first : Passes s s') (rest : Passes s' s'') : Passes s s'' where
  now := rest.now.trans first.now
  keeps := first.keeps.trans rest.keeps
  calm calm :=
    have ⟨calm', less⟩ := first.calm calm
    have ⟨calm'', less'⟩ := rest.calm calm'
    ⟨calm'', List.Subset.trans less' less⟩

/-- No command waits, and no timer is due. -/
structure Rests (s : Session L) : Prop where
  unqueued : s.backlog = 0
  polls : ∀ t, s.engine.pollTimer = some t → s.now < t.deadline
  sweeps : ∀ t, s.engine.sweepTimer = some t → s.now < t.deadline

/-- What has happened is a run, the client is there, and no call of the link is awaited. -/
structure Idle (options : Options) (P : L → Prop) (j : Journal) (s : Session L) : Prop
    extends Follows options P j s where
  held : s.held = true
  running : s.engine.ended = false
  idle : s.engine.waiting = none
  timed : s.engine.Timed options s.now
  prompts : s.engine.Prompts options

namespace Idle

theorem resting (k : Idle options P j s) :
    Connection.Run options j.history (.idle s.engine.connection) := by
  obtain ⟨timer, run⟩ := k.run
  rw [← standing_of_waiting_none k.running k.idle]
  exact run.task

theorem assoc {i more : Journal} (k : Idle options P (i ++ j ++ more) s) :
    Idle options P (i ++ (j ++ more)) s := by rwa [← List.append_assoc]

theorem steady (k : Idle options P j s) : Steady options j.history s.engine.connection :=
  k.resting.at_rest.steady

/-! ### What clients do -/

theorem opened {link : L} (well : P link) (opened : Session.open? link options = some s) :
    Idle options P [] s := by
  have follows := Follows.opened well opened
  obtain rfl := eq_of_open? opened
  refine ⟨follows, rfl, rfl, rfl, ⟨nofun, fun t started => ?_, Option.isSome_map, ?_⟩,
    fun _ _ _ _ _ hp => by cases hp⟩
  · obtain ⟨_, -, rfl⟩ := Option.map_eq_some_iff.1 started
    exact ⟨rfl, Nat.le_add_left _ _⟩
  · exact (Bool.and_true _).symm

theorem begin (k : Idle options P j s) (call : ClientCall) :
    Idle options P (j ++ .began s.made call :: (s.refusal? call).toList.map (.refused s.made))
      (s.begin call) := by
  have engine := (s.begin_eq call).2
  refine ⟨k.toFollows.begin k.held call, (keeps_begin call).held.trans k.held, ?_, ?_, ?_, ?_⟩
  · rw [engine]
    exact k.running
  · rw [engine]
    exact k.idle
  · rw [engine, now_begin]
    exact k.timed
  · rw [engine]
    exact k.prompts

/-- The events that have come are read. -/
theorem read (k : Idle options P j s) :
    Idle options P (j ++ [.eventsRead s.channel.drain.2])
      { s with channel := s.channel.drain.1 } := by
  obtain ⟨timer, run⟩ := k.run
  exact ⟨⟨⟨timer, run.step .readEvents⟩, k.sound⟩, k.held, k.running, k.idle, k.timed, k.prompts⟩

/-- Time passes until it is so late. -/
theorem waited (k : Idle options P j s) (time : Nat) :
    Idle options P (j ++ [.waited (time - s.now)]) { s with now := max s.now time } := by
  obtain ⟨timer, run⟩ := k.run
  rw [show max s.now time = s.now + (time - s.now) by omega]
  refine ⟨⟨⟨timer, run.step (.wait _)⟩, k.sound⟩, k.held, k.running, k.idle, ?_, k.prompts⟩
  refine ⟨k.timed.polls, fun t runs => ?_, k.timed.swept, k.timed.sweeping⟩
  obtain ⟨period, soon⟩ := k.timed.checks t runs
  exact ⟨period, by dsimp only; omega⟩

/-- What waits was registered before now. -/
theorem since_le {p : Pending} (k : Idle options P j s)
    (waits : p ∈ s.engine.connection.correlator.outstanding) : p.since ≤ s.now := by
  obtain ⟨timer, run⟩ := k.run
  have registered := (k.resting.performs.deeds.recorded.table p).1 waits
  obtain ⟨f, g, is, registers, -⟩ := registered.exists_registers
  refine run.timely.2 p.since ?_
  rw [is, History.times_append]
  exact List.mem_append_left _ registers.since_mem

end Idle

variable [Adapter L]

/-! ### What the task does -/

/-- How many steps can be taken at this time. Whatever is served takes five steps at most, besides
those that calls take to enter the queue. -/
def load (s : Session L) : Nat := 7 * s.queueing.length + 6 * s.engine.load s.now

theorem load_le : s.load ≤ s.engine.patience + 7 * s.queueing.length := by
  have sweeps : s.engine.sweeps s.now ≤ _ := Engine.sweeps_le
  have polls : s.engine.polls s.now ≤ _ := Engine.polls_le
  have patience : s.engine.patience = 6 * (s.engine.queue.length + Adapter.supply s.engine.link +
      2 * (IntervalTimer.tolerance + 2) + 3) := by
    rw [Adapter.supply, ← Nat.add_assoc]
    rfl
  rw [load, Engine.load, patience]
  omega

/-- The stimulus `x` was served by `e'`, and the connection has reacted to it in `n` more steps,
each of which was a call or let a command enter the queue. -/
structure Served (options : Options) (P : L → Prop) (x : Stimulus) (e' : Engine L) (n : Nat)
    (h : History) (d : Connection) (s s' : Session L) : Prop where
  serves : s.engine.Serves options P s.now x e'
  steps : Steps (n + 1) s s'
  now : s'.now = s.now
  keeps : s.Keeps s'
  reacts : s.engine.connection.Reacts x h d
  times : ∀ t ∈ h.times, t = s.now
  backlog : s'.backlog ≤ 7 * s.queueing.length + 6 * e'.queue.length
  cost : n + s'.backlog ≤ h.calls.length + (7 * s.queueing.length + 6 * e'.queue.length)
  engine : ∃ link queue, Adapter.supply link ≤ Adapter.supply e'.link ∧
    s'.engine = e'.after s.now link queue d.rested

namespace Served

variable {x : Stimulus} {e' : Engine L} {d : Connection}

/-- A reaction makes four calls at most, and what was served has gone from the load. -/
theorem load_le (k : Served options P x e' n h d s s')
    (before : Steady options g s.engine.connection)
    (later : Steady options (g ++ .take x :: h) d.rested) : n + 1 + s'.load ≤ s.load := by
  obtain ⟨link, queue, supply, engine⟩ := k.engine
  have few := k.reacts.calls_le
  have fewer := k.serves.load_after before later k.reacts.closed_of_lost link queue
  have supplied : Adapter.supply s'.engine.link ≤ Adapter.supply e'.link := by
    rw [engine]
    exact supply
  have cost := k.cost
  rw [← engine] at fewer
  rw [Session.backlog] at cost
  rw [Session.load, Session.load, k.now, Engine.load]
  omega

theorem passes (k : Served options P x e' n h d s s') : Passes s s' := by
  refine ⟨k.now, k.keeps, fun calm => ?_⟩
  obtain ⟨link, queue, -, engine⟩ := k.engine
  obtain ⟨unqueued, empty⟩ := backlog_eq_zero.1 calm
  obtain ⟨empty', silent⟩ := k.serves.queued empty
  have entered := k.backlog
  rw [unqueued, empty'] at entered
  refine ⟨Nat.le_zero.1 entered, ?_⟩
  rw [engine]
  exact (k.reacts.light silent).outstanding

end Served

namespace Idle

/-- A call enters the queue. -/
theorem enter {r : RunningCall} (prompt : Adapter.Prompt P) (k : Idle options P j s)
    (entrant : s.entrant? = some r) :
    s.next? = some (s.enter r) ∧ (s.enter r).load < s.load ∧ Passes s (s.enter r) ∧
      ∃ more, Idle options P (j ++ more) (s.enter r) := by
  obtain ⟨runs, waits, -⟩ := entrant?_eq_some entrant
  have queueing : r ∈ s.queueing := List.mem_filter.2 ⟨runs, decide_eq_true waits⟩
  have next : s.next? = some (s.enter r) := by rw [next?, entrant]
  refine ⟨next, ?_, ⟨rfl, .of_eq rfl rfl, fun calm => ?_⟩, ?_⟩
  · have fewer := length_queueing_enter queueing
    have longer : (s.enter r).engine.load s.now = s.engine.queue.length + 1 +
        Adapter.supply s.engine.link + s.engine.sweeps s.now + s.engine.polls s.now :=
      congrArg (· + _ + _ + _) List.length_append
    rw [Session.load, Session.load, show (s.enter r).now = s.now from rfl, longer, Engine.load]
    omega
  · have fewer := backlog_enter queueing
    omega
  · obtain ⟨more, f⟩ := k.toFollows.runFor prompt.toAnswers 1
    rw [show s.runFor 1 = s.enter r from (Steps.step (n := 0) next .refl).runFor (m := 0)] at f
    exact ⟨more, f, k.held, k.running, k.idle,
      ⟨k.timed.polls, k.timed.checks, k.timed.swept, k.timed.sweeping⟩, k.prompts⟩

/-- Whatever is served is served to the end. -/
theorem exists_served (prompt : Adapter.Prompt P) (mode : options.pollMode ≠ .interval 0)
    (k : Idle options P j s) (unasked : s.entrant? = none) (work : s.work?.isSome) :
    ∃ x e' n h d s', Served options P x e' n h d s s' := by
  have before := k.steady
  obtain ⟨x, e', serves, step⟩ : ∃ x e', s.engine.Serves options P s.now x e' ∧
      s.engine.step s.now s.clientsGone = some (e'.serve s.now x) := by
    obtain ⟨_, work⟩ := Option.isSome_iff_exists.1 work
    obtain ⟨r, step, -⟩ := Option.map_eq_some_iff.1 work
    have client : s.clientsGone = false := by rw [clientsGone, k.held]; rfl
    rw [client] at step ⊢
    obtain ⟨x, e', serves, rfl⟩ := Engine.exists_serves prompt k.sound k.timed before k.idle step
    exact ⟨x, e', serves, step⟩
  obtain ⟨s₁, takes⟩ := exists_takes prompt serves.link unasked step
  obtain ⟨link, well, -, engine⟩ := takes.engine
  rw [serves.connection, ← takes.now] at engine
  have begun : s₁.engine = { e' with link, queue := e'.queue }.along s₁.now _ := engine
  have safe : Progress.Safe AtCall j.history (Connection.handle x s.engine.connection) :=
    safe_handle before mode
  obtain ⟨s₂, turn⟩ := exists_turn prompt (serves.ended.trans k.running) safe well begun
  obtain ⟨n, h, c, steps, ends, cost, times, link, queue, -, supply, engine⟩ := turn.ends
  obtain ⟨d, reacts, rfl⟩ := reacts_of_ends serves.awaits ends
  rw [takes.now] at engine times
  have entered := takes.backlog_le
  exact ⟨x, e', n, h, d, s₂, serves, .step takes.next steps, turn.now.trans takes.now,
    takes.keeps.trans turn.keeps, reacts, times, Nat.le_trans turn.backlog entered, by omega,
    link, queue, Nat.le_trans supply takes.supply_le, engine⟩

/-- Something is served, and the connection reacts to it. -/
theorem serve (prompt : Adapter.Prompt P) (mode : options.pollMode ≠ .interval 0)
    (k : Idle options P j s) (unasked : s.entrant? = none) (work : s.work?.isSome) :
    ∃ more s' n, Steps (n + 1) s s' ∧ n + 1 + s'.load ≤ s.load ∧ Passes s s' ∧
      Idle options P (j ++ more) s' := by
  have before := k.steady
  obtain ⟨x, e', n, h, d, s', served⟩ := k.exists_served prompt mode unasked work
  have later := before.reacts served.serves.awaits served.reacts
  obtain ⟨link, queue, -, engine⟩ := served.engine
  obtain ⟨more, f⟩ := k.toFollows.runFor prompt.toAnswers (n + 1)
  rw [show s.runFor (n + 1) = s' from served.steps.runFor (m := 0)] at f
  refine ⟨more, s', n, served.steps, served.load_le before later, served.passes, f,
    served.keeps.held.trans k.held, ?_, ?_, ?_, ?_⟩
  · rw [engine]
    exact served.serves.ended.trans k.running
  · rw [engine]
    rfl
  · rw [engine, served.now]
    refine served.serves.timed.after mode (served.serves.connection ▸ before) later ?_
    rw [served.serves.connection, ← served.reacts.sweeping]
    rfl
  · rw [engine]
    exact served.serves.prompts_after k.prompts (congrArg _ before.configured) served.reacts
      served.times

/-- A session that is let run comes to rest. -/
theorem exists_rest (prompt : Adapter.Prompt P) (mode : options.pollMode ≠ .interval 0)
    (k : Idle options P j s) :
    ∃ more s' n, Steps n s s' ∧ n ≤ s.load ∧ s'.next? = none ∧ Passes s s' ∧
      Idle options P (j ++ more) s' := by
  generalize size : s.load = m
  induction m using Nat.strong_induction_on generalizing s j with
  | _ m earlier =>
  subst size
  have further {more : Journal} {s' : Session L} {n : Nat} (steps : Steps (n + 1) s s')
      (cost : n + 1 + s'.load ≤ s.load) (passes : Passes s s') (k : Idle options P (j ++ more) s') :
      ∃ more s' n, Steps n s s' ∧ n ≤ s.load ∧ s'.next? = none ∧ Passes s s' ∧
        Idle options P (j ++ more) s' := by
    obtain ⟨more', s'', n', steps', few, rests, passes', k⟩ := earlier _ (by omega) k rfl
    exact ⟨more ++ more', s'', _, steps.trans steps', by omega, rests, passes.trans passes',
      k.assoc⟩
  cases entrant : s.entrant? with
  | some r =>
    obtain ⟨next, less, passes, more, k⟩ := k.enter prompt entrant
    exact further (.step next .refl) (by omega) passes k
  | none =>
    cases work : s.work? with
    | some s₁ =>
      obtain ⟨more, s', n, steps, cost, passes, k⟩ :=
        k.serve prompt mode entrant (Option.isSome_of_eq_some work)
      exact further steps cost passes k
    | none =>
      have rests : s.next? = none := by rw [next?, entrant]; exact work
      exact ⟨[], s, 0, .refl, Nat.zero_le _, rests, .refl, by rw [List.append_nil]; exact k⟩

/-! ### At rest -/

theorem rests (k : Idle options P j s) (nothing : s.next? = none) : s.Rests := by
  rw [next?] at nothing
  split at nothing
  next => cases nothing
  next unasked =>
    have nothing : s.engine.step s.now s.clientsGone = none := Option.map_eq_none_iff.1 nothing
    have client : s.clientsGone = false := by rw [clientsGone, k.held]; rfl
    rw [client] at nothing
    obtain ⟨empty, tick, sweep⟩ := Engine.of_step_eq_none k.running k.idle nothing
    refine ⟨backlog_eq_zero.2 ⟨?_, empty⟩, fun t runs => ?_, fun t runs => ?_⟩
    · rw [entrant?, if_pos (hasRoom_of_empty empty)] at unasked
      exact List.head?_eq_none_iff.1 unasked
    · obtain ⟨-, inUse, period, mode⟩ := k.timed.polls t runs
      obtain ⟨channel, inUse⟩ := Option.isSome_iff_exists.1 inUse
      rw [← k.steady.configured] at mode
      by_contra due
      have due : t.isDue s.now = true := decide_eq_true (Nat.not_lt.1 due)
      simp [Engine.pollTick?, inUse, mode, runs, due] at tick
    · by_contra due
      have due : t.isDue s.now = true := decide_eq_true (Nat.not_lt.1 due)
      simp [Engine.sweepTick?, runs, due] at sweep

/-- What `settle` allows for is enough. -/
theorem settle (prompt : Adapter.Prompt P) (mode : options.pollMode ≠ .interval 0)
    (k : Idle options P j s) :
    s.settle.Rests ∧ Passes s s.settle ∧ ∃ more, Idle options P (j ++ more) s.settle := by
  obtain ⟨more, s', n, steps, few, nothing, passes, k⟩ := k.exists_rest prompt mode
  obtain ⟨m, enough⟩ := Nat.exists_eq_add_of_le (Nat.le_trans few s.load_le)
  have settled : s.settle = s' := by
    rw [Session.settle, enough, steps.runFor, runFor_of_rest nothing]
  rw [settled]
  exact ⟨k.rests nothing, passes, more, k⟩

omit [Adapter L] in
/-- The next thing comes later, and before a request that waits has been too old for long. -/
theorem lt_of_waits {timeout : Nat} {p : Pending} (k : Idle options P j s) (rests : s.Rests)
    (limited : options.requestTimeout = some timeout)
    (waits : p ∈ s.engine.connection.correlator.outstanding) :
    ∃ due, s.engine.nextDue = some due ∧ s.now < due ∧
      due ≤ p.since + timeout + Options.sweepPeriod := by
  have unclosed : s.engine.connection.state ≠ .closed := by
    intro closed
    have none := k.resting.agrees.requests fun ready => by cases closed.symm.trans ready
    rw [show s.engine.connection.correlator.outstanding = [] from none] at waits
    cases waits
  have checked : s.engine.sweepTimer.isSome := by
    rw [k.timed.swept, k.timed.sweeping, limited]
    simpa using unclosed
  obtain ⟨t, runs⟩ := Option.isSome_iff_exists.1 checked
  have late := rests.sweeps t runs
  have soon := k.prompts t timeout runs limited p waits
  cases polled : s.engine.pollTimer with
  | none =>
    exact ⟨t.deadline, by simp [Engine.nextDue, k.running, k.idle, polled, runs], late, soon⟩
  | some t' =>
    exact ⟨min t'.deadline t.deadline, by simp [Engine.nextDue, k.running, k.idle, polled, runs],
      Nat.lt_min.2 ⟨rests.polls t' polled, late⟩, Nat.le_trans (Nat.min_le_right _ _) soon⟩

omit [Adapter L] in
/-- Each call has returned, or its request waits for the response. -/
theorem returned_or_waits {call : ClientCall} (k : Idle options P j s)
    (mode : options.pollMode ≠ .interval 0) (rests : s.Rests) (began : (n, call) ∈ j.began) :
    (s.finished.lookup n).isSome ∨ (∃ method params, call = .call method params) ∧
      ∃ p, p ∈ s.engine.connection.correlator.outstanding := by
  obtain ⟨timer, run⟩ := k.run
  have returned {r : CallResult} (entry : (s.erase timer).entry n = ([], [(n, r)])) :
      (s.finished.lookup n).isSome := by
    have mem : (n, r) ∈ ((s.erase timer).entry n).2 := by
      rw [entry]
      exact List.mem_cons_self
    exact List.lookup_isSome_iff.2 ⟨_, (List.mem_filter.1 mem).1, beq_self_eq_true n⟩
  have attended := run.attended mode
  have replied {y : Reply} (reply : (n, y) ∈ j.history.replies) :
      (s.finished.lookup n).isSome ∨ (∃ method params, call = .call method params) ∧
        ∃ p, p ∈ s.engine.connection.correlator.outstanding := by
    cases attended.attends n call y began reply with
    | returned entry => exact .inl (returned entry)
    | settled _ _ entry => exact .inl (returned entry)
    | waits wants _ _ outstanding => exact .inr ⟨⟨_, _, wants⟩, _, outstanding⟩
  cases run.followed.begun n call began with
  | @pending stage early entry unreplied =>
    obtain ⟨unqueued, empty⟩ := backlog_eq_zero.1 rests.unqueued
    have runs : ⟨n, call, stage⟩ ∈ s.running := by
      have mem : ⟨n, call, stage⟩ ∈ ((s.erase timer).entry n).1 := by
        rw [entry]
        exact List.mem_cons_self
      exact (List.mem_filter.1 mem).1
    cases stage with
    | room =>
      have waits : ⟨n, call, .room⟩ ∈ s.queueing := List.mem_filter.2 ⟨runs, rfl⟩
      rw [unqueued] at waits
      cases waits
    | reply =>
      obtain ⟨u, butLast, idle⟩ := attended.replied
      obtain rfl := idle (congrArg (Option.map _) k.idle)
      have queued := run.queued_of_reply ⟨n, call, .reply⟩ (List.mem_filter.2 ⟨runs, rfl⟩)
      rw [orders, show (s.erase timer).engine.queue = [] from empty, List.append_nil,
        butLast.tickets, show owed none = [] from rfl, List.map_nil, List.append_nil] at queued
      obtain ⟨⟨_, y⟩, reply, rfl⟩ := List.mem_map.1 queued
      exact (unreplied y (History.mem_replies.1 reply)).elim
    | response => exact (early rfl).elim
  | awaiting _ _ sent => exact replied (History.mem_replies.2 sent)
  | returned entry => exact .inl (returned entry)

omit [Adapter L] in
/-- While a call has not returned, there is something to wait for. -/
theorem exists_due {call : ClientCall} {timeout bound : Nat} (k : Idle options P j s)
    (mode : options.pollMode ≠ .interval 0) (limited : options.requestTimeout = some timeout)
    (rests : s.Rests) (began : (n, call) ∈ j.began) (unreturned : s.finished.lookup n = none)
    (young : ∀ p ∈ s.engine.connection.correlator.outstanding,
      p.since + timeout + Options.sweepPeriod ≤ bound) :
    ∃ due, s.engine.nextDue = some due ∧ s.now < due ∧ due ≤ bound := by
  obtain ⟨-, p, waits⟩ :=
    (k.returned_or_waits mode rests began).resolve_left (by rw [unreturned]; nofun)
  obtain ⟨due, next, later, soon⟩ := k.lt_of_waits rests limited waits
  exact ⟨due, next, later, Nat.le_trans soon (young p waits)⟩

end Idle

end Session

end GattRpc
