import GattRpc.Proofs.Session.Runs
import GattRpc.Session.Answering

/-! # What is executed is a run

A session that is let run takes only steps that a run may take, if one looks away from its link and
its timers (`Session.Run.runFor`). So whatever holds along runs holds of what is executed. The link
has to answer every call, and to bring its notifications by a stream. -/

namespace GattRpc

/-- Links that satisfy `P` answer every call, have notifications by a stream only, and satisfy `P`
ever after. -/
structure Adapter.Answers {L : Type} [Adapter L] (P : L → Prop) : Prop where
  start : ∀ l call, P l → P (Adapter.start l call).1
  finish : ∀ l call, P l → P (Adapter.finish l call).1 ∧ (Adapter.finish l call).2.isSome
  streams : ∀ l source, P l → Adapter.notifications l = some source →
    ∃ waiting ended, source = .notifications waiting ended
  keep : ∀ l waiting ended, P l → P (Adapter.keep l (.notifications waiting ended))

/-- From one link to the other, the calls of the history were started, and its answers were given,
one after the other. -/
inductive Adapter.Logs {L : Type} [Adapter L] : L → History → L → Prop
  | silent {l : L} {h : History} (uncalled : h.calls = []) (unanswered : h.exchanges = []) :
    Logs l h l
  | started {l : L} {call : LinkCall} : Logs l [.call call] (Adapter.start l call).1
  | finished {l l' : L} {call : LinkCall} {a : LinkAnswer call}
    (finish : Adapter.finish l call = (l', some a.result)) : Logs l [.answer call a] l'
  | kept {l : L} {left : PollSource} : Logs l [] (Adapter.keep l left)
  | trans {l l' l'' : L} {g h : History} (before : Logs l g l') (after : Logs l' h l'') :
    Logs l (g ++ h) l''

variable {L : Type} {P : L → Prop} {timer : Option IntervalTimer}

namespace Engine

variable {e : Engine L} {p : Progress Unit} {now : Nat}

/-- The engine without its link and its poll timer, and with this sweep timer. -/
def erase (timer : Option IntervalTimer) (e : Engine L) : Engine Unit where
  link := ()
  connection := e.connection
  queue := e.queue
  waiting := e.waiting.map fun w => { w with due := 0 }
  sweepTimer := timer
  ended := e.ended

/-- The engine once its clients are gone: its task is over unless it awaits an answer. -/
def retired (e : Engine L) : Engine L := if e.waiting.isNone then { e with ended := true } else e

theorem link_retired : e.retired.link = e.link := by
  unfold retired
  split <;> rfl

/-- The link answers, and the sweep timer runs only while requests are checked. -/
structure Sound (P : L → Prop) (e : Engine L) : Prop where
  link : P e.link
  swept : e.waiting = none → e.ended = false → e.sweepTimer.isSome → e.connection.sweeping = true

theorem standing_erase : (e.erase timer).standing = e.standing := by
  unfold standing erase
  split
  · rfl
  · cases e.waiting <;> rfl

variable [Adapter L]

theorem erase_absorb : (e.absorb now p).1.erase timer = (e.erase timer).follow p.standing := by
  cases p <;> rfl

theorem erase_retired :
    (e.absorb now p).1.retired.erase timer =
      (e.erase timer).follow (p.standing.after .clientsGone) := by
  cases p <;> rfl

theorem outputs_absorb : (e.absorb now p).2 = p.acts.outputs := by
  cases p with
  | done u c out | crashed c out => exact (History.outputs_tell out).symm
  | waiting c out call resume =>
    rw [Progress.acts, History.outputs_append, History.outputs_tell]
    exact (List.append_nil out).symm

theorem logs_absorb : Adapter.Logs e.link p.acts (e.absorb now p).1.link := by
  have told {l : L} {out : List Output} : Adapter.Logs l (out.map .tell) l :=
    .silent (History.calls_tell out) (History.exchanges_tell out)
  cases p with
  | done u c out | crashed c out => exact told
  | waiting c out call resume => exact told.trans .started

/-- What an engine that is not over may do next. -/
inductive Does (e : Engine L) (now : Nat) (clientsGone : Bool) : Engine L × List Output → Prop
  | answered {w : Waiting} {link : L} {result : Except LinkError w.call.Result}
    (waiting : e.waiting = some w) (finish : Adapter.finish e.link w.call = (link, some result)) :
    e.Does now clientsGone ({ e with link }.absorb now (w.resume ⟨now, result⟩))
  | failed {w : Waiting} {link : L} (waiting : e.waiting = some w)
    (finish : Adapter.finish e.link w.call = (link, none)) :
    e.Does now clientsGone ({ e with link, waiting := none, ended := true }, [])
  | command {ticket : Nat} {cmd : Command} {queue : List (Nat × Command)}
    (idle : e.waiting = none) (first : e.queue = (ticket, cmd) :: queue) :
    e.Does now clientsGone ({ e with queue }.serve now (.command ticket cmd))
  | clientsGone (idle : e.waiting = none) (none : e.queue = []) (gone : clientsGone = true) :
    e.Does now clientsGone ((e.serve now .clientsGone).1.retired, (e.serve now .clientsGone).2)
  | linkLost (idle : e.waiting = none) (watching : e.connection.watching = true) :
    e.Does now clientsGone (e.serve now .linkLost)
  | poll {tick : PollTick} {e' : Engine L} (idle : e.waiting = none)
    (due : e.pollTick? now = some (tick, e')) :
    e.Does now clientsGone (e'.serve now (.poll tick))
  | sweep {e' : Engine L} (idle : e.waiting = none) (due : e.sweepTick? now = some e') :
    e.Does now clientsGone (e'.serve now (.sweep now))

theorem Does.of_step {gone : Bool} {r : Engine L × List Output} (step : e.step now gone = some r) :
    e.ended = false ∧ e.Does now gone r := by
  unfold Engine.step at step
  split at step
  next => cases step
  next running =>
    refine ⟨Bool.eq_false_iff.2 running, ?_⟩
    split at step
    next w waiting =>
      split at step
      next =>
        split at step
        next link finish => exact Option.some.inj step ▸ .failed waiting finish
        next link result finish => exact Option.some.inj step ▸ .answered waiting finish
      next => cases step
    next idle =>
      split at step
      next ticket cmd queue first => exact Option.some.inj step ▸ .command idle first
      next none =>
        split at step
        next gone => exact Option.some.inj step ▸ .clientsGone idle none gone
        next =>
          split at step
          next lost =>
            exact Option.some.inj step ▸ .linkLost idle (Bool.and_eq_true_iff.1 lost).1
          next =>
            split at step
            next tick e' poll => exact Option.some.inj step ▸ .poll idle poll
            next =>
              obtain ⟨e', sweep, rfl⟩ := Option.map_eq_some_iff.1 step
              exact .sweep idle sweep

theorem awaits_of_pollTick? {tick : PollTick} {e' : Engine L} (answers : Adapter.Answers P)
    (link : P e.link) (due : e.pollTick? now = some (tick, e')) :
    e.connection.Awaits (.poll tick) ∧ e'.erase timer = e.erase timer ∧ P e'.link ∧
      Adapter.Logs e.link [] e'.link := by
  unfold pollTick? at due
  split at due
  next channel inUse mode =>
    obtain ⟨source, subscribed, due⟩ := Option.bind_eq_some_iff.1 due
    obtain ⟨waiting, ended, rfl⟩ := answers.streams _ _ link subscribed
    obtain ⟨⟨tick', left⟩, next, is⟩ := Option.bind_eq_some_iff.1 due
    cases is
    have isSome : e.connection.channel.isSome := Option.isSome_of_eq_some inUse
    cases waiting with
    | cons payload waiting =>
      cases next
      exact ⟨⟨isSome, mode⟩, rfl, answers.keep _ _ _ link, .kept⟩
    | nil =>
      cases ended with
      | true =>
        cases next
        exact ⟨⟨isSome, mode⟩, rfl, answers.keep _ _ _ link, .kept⟩
      | false => cases next
  next channel period inUse mode =>
    obtain ⟨timer, running, due⟩ := Option.bind_eq_some_iff.1 due
    split at due
    next =>
      cases due
      refine ⟨⟨Option.isSome_of_eq_some inUse, ?_⟩, rfl, link, .silent rfl rfl⟩
      rw [mode]
      exact nofun
    next => cases due
  next => cases due

theorem awaits_of_sweepTick? {e' : Engine L} (sound : e.Sound P) (running : e.ended = false)
    (idle : e.waiting = none) (due : e.sweepTick? now = some e') :
    e.connection.Awaits (.sweep now) ∧ e'.erase timer = e.erase timer ∧ P e'.link ∧
      Adapter.Logs e.link [] e'.link := by
  obtain ⟨t, running', due⟩ := Option.bind_eq_some_iff.1 due
  have sweeping := sound.swept idle running (Option.isSome_of_eq_some running')
  split at due
  next =>
    cases due
    exact ⟨sweeping, rfl, sound.link, .silent rfl rfl⟩
  next => cases due

theorem Sound.absorb (answers : Adapter.Answers P) (link : P e.link) :
    (e.absorb now p).1.Sound P := by
  cases p with
  | done u c out =>
    refine ⟨link, fun _ _ => ?_⟩
    show (if c.sweeping = true then e.sweepTimer else none).isSome = true → c.sweeping = true
    split
    next sweeping => exact fun _ => sweeping
    next => exact nofun
  | waiting c out call resume => exact ⟨answers.start _ _ link, nofun⟩
  | crashed c out => exact ⟨link, nofun⟩

omit [Adapter L] in
theorem Sound.retired (sound : e.Sound P) : e.retired.Sound P := by
  unfold Engine.retired
  split
  next => exact ⟨sound.link, nofun⟩
  next => exact sound

end Engine

namespace Session

variable {s : Session L} {now : Nat}

/-- The session without its link and its timers. -/
def erase (timer : Option IntervalTimer) (s : Session L) : Session Unit where
  engine := s.engine.erase timer
  now := s.now
  made := s.made
  running := s.running
  held := s.held
  status := s.status
  channel := s.channel
  finished := s.finished
  settled := s.settled

theorem erase_endOrphans : s.endOrphans.erase timer = (s.erase timer).endOrphans := by
  unfold endOrphans
  have ended : (s.erase timer).engine.ended = s.engine.ended := rfl
  rw [ended]
  split <;> rfl

theorem erase_note {o : Output} : (s.note o).erase timer = (s.erase timer).note o := by
  have runningCall {d : Callback} : (s.erase timer).runningCall? d = s.runningCall? d := rfl
  have running : (s.erase timer).running = s.running := rfl
  cases o with
  | shown | event => rfl
  | settled x =>
    simp only [note, runningCall]
    split
    · rfl
    · split <;> rfl
  | discarded d =>
    simp only [note, runningCall]
    split <;> rfl
  | reply n r =>
    cases r with
    | connect | close => rfl
    | send r =>
      cases r with
      | error => rfl
      | ok id =>
        simp only [note, running]
        split
        · rfl
        · split <;> rfl

theorem erase_foldl_note {out : List Output} :
    (out.foldl note s).erase timer = out.foldl note (s.erase timer) := by
  induction out generalizing s with
  | nil => rfl
  | cons o out ih => rw [List.foldl_cons, List.foldl_cons, ih, erase_note]

theorem erase_begin {call : ClientCall} :
    (s.begin call).erase timer = (s.erase timer).begin call := by
  rw [begin, begin, show (s.erase timer).refusal? call = s.refusal? call from rfl]
  cases s.refusal? call with
  | some e => rfl
  | none => exact erase_endOrphans

/-- What the session makes of what its engine did. -/
theorem erase_proceed {e : Engine L} {out : List Output} {queue : List (Nat × Command)}
    {acts : History} {t : Standing}
    (engine : e.erase timer = ({ s.engine with queue }.erase timer).follow t)
    (told : out = acts.outputs) :
    (out.foldl note { s with engine := e }).endOrphans.erase timer =
      (s.erase timer).proceed queue acts t := by
  rw [erase_endOrphans, erase_foldl_note, proceed, told]
  have same : ({ s with engine := e } : Session L).erase timer =
      { s.erase timer with engine := { (s.erase timer).engine with queue }.follow t } :=
    congrArg (fun engine => { s.erase timer with engine }) engine
  rw [same]

/-! ### Steps -/

theorem standing_of_waiting_none (running : s.engine.ended = false)
    (idle : s.engine.waiting = none) :
    (s.erase timer).engine.standing = .idle s.engine.connection := by
  show (s.engine.erase timer).standing = _
  rw [Engine.standing_erase, Engine.standing, running, idle]
  rfl

theorem standing_of_waiting {w : Waiting} (running : s.engine.ended = false)
    (waiting : s.engine.waiting = some w) :
    (s.erase timer).engine.standing = .calling s.engine.connection w.call w.resume := by
  show (s.engine.erase timer).standing = _
  rw [Engine.standing_erase, Engine.standing, running, waiting]
  rfl

variable [Adapter L]

/-- The engine serves a stimulus after which its task is not over. -/
theorem step_of_serve {e : Engine L} {x : Stimulus} {queue : List (Nat × Command)}
    (running : s.engine.ended = false) (idle : s.engine.waiting = none)
    (awaits : s.engine.connection.Awaits x) (offers : s.Offers x queue)
    (same : e.erase timer = { s.engine with queue }.erase timer) (others : x ≠ .clientsGone)
    (logs : Adapter.Logs s.engine.link [] e.link) :
    ∃ h : History, (s.erase timer).Step (h.map .act)
      (((e.serve s.now x).2.foldl note
        { s with engine := (e.serve s.now x).1 }).endOrphans.erase timer) ∧
      Adapter.Logs s.engine.link h (e.serve s.now x).1.link := by
  have connection : e.connection = s.engine.connection :=
    congrArg (fun e : Engine Unit => e.connection) same
  have after (t : Standing) : t.after x = t := by
    cases t with
    | idle c =>
      cases x with
      | clientsGone => exact (others rfl).elim
      | command | linkLost | poll | sweep => rfl
    | calling | ended => rfl
  have engine : (e.serve s.now x).1.erase timer = ({ s.engine with queue }.erase timer).follow
      ((Connection.handle x s.engine.connection).standing.after x) := by
    rw [Engine.serve, Engine.erase_absorb, same, after, connection]
  refine ⟨.take x :: (Connection.handle x s.engine.connection).acts, ?_, ?_⟩
  · rw [erase_proceed engine (by rw [Engine.serve, Engine.outputs_absorb, connection])]
    refine .serve offers ?_
    rw [standing_of_waiting_none running idle]
    exact .take awaits
  · rw [Engine.serve, connection]
    exact (logs.trans (.silent rfl rfl : Adapter.Logs _ [.take x] _)).trans Engine.logs_absorb

/-- What the engine does next is a step, and the link remembers what was done. -/
theorem step_of_does (timer : Option IntervalTimer) {r : Engine L × List Output}
    (answers : Adapter.Answers P) (sound : s.engine.Sound P) (running : s.engine.ended = false)
    (does : s.engine.Does s.now s.clientsGone r) :
    (∃ h : History, (s.erase timer).Step (h.map .act)
      ((r.2.foldl note { s with engine := r.1 }).endOrphans.erase timer) ∧
      Adapter.Logs s.engine.link h r.1.link) ∧ r.1.Sound P := by
  cases does with
  | @answered w link result waiting finish =>
    have kept := (answers.finish _ w.call sound.link).1
    rw [finish] at kept
    have standing : (s.erase timer).engine.standing = _ := standing_of_waiting running waiting
    have step : Standing.Step (.calling s.engine.connection w.call w.resume)
        (.answer w.call ⟨s.now, result⟩ :: (w.resume ⟨s.now, result⟩).acts)
        (w.resume ⟨s.now, result⟩).standing := .answer _
    rw [← standing] at step
    have engine :
        ({ s.engine with link }.absorb s.now (w.resume ⟨s.now, result⟩)).1.erase timer =
          ({ s.engine with queue := s.engine.queue }.erase timer).follow
            (w.resume ⟨s.now, result⟩).standing := Engine.erase_absorb
    have logs : Adapter.Logs s.engine.link [.answer w.call ⟨s.now, result⟩] link := .finished finish
    rw [erase_proceed engine Engine.outputs_absorb]
    refine ⟨⟨_, .answer rfl step, logs.trans ?_⟩, .absorb answers kept⟩
    exact Engine.logs_absorb (e := { s.engine with link })
  | @failed w link waiting finish =>
    have answered := (answers.finish _ w.call sound.link).2
    rw [finish] at answered
    cases answered
  | command idle first =>
    exact ⟨step_of_serve running idle trivial first rfl nofun (.silent rfl rfl),
      .absorb answers sound.link⟩
  | clientsGone idle none gone =>
    have standing : (s.erase timer).engine.standing = _ := standing_of_waiting_none running idle
    have step : Standing.Step (.idle s.engine.connection)
        (.take .clientsGone :: (Connection.handle .clientsGone s.engine.connection).acts)
        ((Connection.handle .clientsGone s.engine.connection).standing.after .clientsGone) :=
      .take trivial
    rw [← standing] at step
    have engine : (s.engine.serve s.now .clientsGone).1.retired.erase timer =
        ({ s.engine with queue := s.engine.queue }.erase timer).follow
          ((Connection.handle .clientsGone s.engine.connection).standing.after .clientsGone) :=
      Engine.erase_retired
    have told : (s.engine.serve s.now .clientsGone).2 = _ := Engine.outputs_absorb
    have offers : (s.erase timer).Offers .clientsGone s.engine.queue := ⟨none, gone, none⟩
    have logs : Adapter.Logs s.engine.link [.take .clientsGone] s.engine.link := .silent rfl rfl
    dsimp only
    rw [erase_proceed engine told, Engine.link_retired]
    exact ⟨⟨_, .serve offers step, logs.trans Engine.logs_absorb⟩,
      .retired (.absorb answers sound.link)⟩
  | linkLost idle watching =>
    exact ⟨step_of_serve running idle watching rfl rfl nofun (.silent rfl rfl),
      .absorb answers sound.link⟩
  | poll idle due =>
    obtain ⟨awaits, same, kept, logs⟩ := Engine.awaits_of_pollTick? answers sound.link due
    exact ⟨step_of_serve running idle awaits rfl same nofun logs, .absorb answers kept⟩
  | sweep idle due =>
    obtain ⟨awaits, same, kept, logs⟩ := Engine.awaits_of_sweepTick? sound running idle due
    exact ⟨step_of_serve running idle awaits ⟨rfl, rfl⟩ same nofun logs, .absorb answers kept⟩

/-! ### Runs -/

section

variable {j more : Journal}

omit [Adapter L] in
theorem Path.cons {s' s'' : Session L} (step : s.Step j s') (path : s'.Path more s'') :
    s.Path (j ++ more) s'' := by
  induction path with
  | refl =>
    rw [List.append_nil]
    exact .step .refl step
  | step path next ih =>
    rw [← List.append_assoc]
    exact ih.step next

theorem Run.append {options : Options} {s s' : Session Unit} (run : Session.Run options j s)
    (path : s.Path more s') : Session.Run options (j ++ more) s' := by
  induction path with
  | refl => rwa [List.append_nil]
  | step path next ih =>
    rw [← List.append_assoc]
    exact ih.step next

end

omit [Adapter L] in
theorem entrant?_eq_some {r : RunningCall} (enters : s.entrant? = some r) :
    r ∈ s.running ∧ r.stage = .room ∧ s.hasRoom := by
  rw [entrant?] at enters
  split at enters
  · next room =>
    obtain ⟨runs, waits⟩ := List.mem_filter.1 (List.mem_of_head? enters)
    exact ⟨runs, of_decide_eq_true waits, room⟩
  · cases enters

/-- The next thing that is done is a step: a call enters the queue, or the task does something. -/
theorem step_of_next? {s' : Session L} (timer : Option IntervalTimer)
    (answers : Adapter.Answers P) (sound : s.engine.Sound P) (next : s.next? = some s') :
    (∃ j, (∀ x ∈ j, x.Passes) ∧ (s.erase timer).Step j (s'.erase timer) ∧
      Adapter.Logs s.engine.link j.history s'.engine.link) ∧ s'.engine.Sound P := by
  rw [next?] at next
  split at next
  · next r enters =>
    obtain rfl := Option.some.inj next
    obtain ⟨runs, waits, room⟩ := entrant?_eq_some enters
    have step : (s.erase timer).Step _ ((s.enter r).erase timer) :=
      .enter (s := s.erase timer) runs waits room
    exact ⟨⟨_, by simp [Record.Passes], step, .silent rfl rfl⟩, sound.link, sound.swept⟩
  · obtain ⟨r, step, rfl⟩ := Option.map_eq_some_iff.1 next
    obtain ⟨running, does⟩ := Engine.Does.of_step step
    obtain ⟨⟨h, step, logs⟩, sound⟩ := step_of_does timer answers sound running does
    have engine : (r.2.foldl note { s with engine := r.1 }).endOrphans.engine = r.1 := by
      rw [endOrphans_eq.1, foldl_note_eq.1]
    rw [← engine] at logs sound
    refine ⟨⟨h.map .act, by simp [Record.Passes], step, ?_⟩, sound⟩
    rw [Journal.history_act]
    exact logs

/-- A session that is let run goes on with steps at which nothing is asked. -/
theorem path_runFor (timer : Option IntervalTimer) (answers : Adapter.Answers P)
    (sound : s.engine.Sound P) (steps : Nat) :
    (∃ j, (∀ x ∈ j, x.Passes) ∧ (s.erase timer).Path j ((s.runFor steps).erase timer) ∧
      Adapter.Logs s.engine.link j.history (s.runFor steps).engine.link) ∧
      (s.runFor steps).engine.Sound P := by
  induction steps generalizing s with
  | zero => exact ⟨⟨[], nofun, .refl, .silent rfl rfl⟩, sound⟩
  | succ steps ih =>
    rw [Session.runFor]
    cases next : s.next? with
    | none => exact ⟨⟨[], nofun, .refl, .silent rfl rfl⟩, sound⟩
    | some s' =>
      obtain ⟨⟨i, passing, step, logs⟩, sound⟩ := step_of_next? timer answers sound next
      obtain ⟨⟨j, passing', path, logs'⟩, sound⟩ := ih sound
      refine ⟨⟨i ++ j, ?_, path.cons step, ?_⟩, sound⟩
      · exact List.forall_mem_append.2 ⟨passing, passing'⟩
      · rw [Journal.history_append]
        exact logs.trans logs'

/-- What has happened is a run, as far as link and timers do not matter. -/
structure Follows (options : Options) (P : L → Prop) (j : Journal) (s : Session L) : Prop where
  run : ∃ timer, Session.Run options j (s.erase timer)
  sound : s.engine.Sound P

namespace Follows

variable {options : Options} {j : Journal}

omit [Adapter L] in
theorem opened {link : L} (well : P link) (opened : Session.open? link options = some s) :
    Follows options P [] s := by
  unfold Session.open? at opened
  split at opened
  next fits =>
    cases opened
    have started : Session.open? () options = some { engine := .new () options 0 } := if_pos fits
    refine ⟨⟨(Engine.new () options 0).sweepTimer, .start started⟩, well, fun _ _ timed => ?_⟩
    rwa [show (Engine.new link options 0).sweepTimer =
      options.requestTimeout.map fun _ => .start Options.sweepPeriod 0 from rfl,
      Option.isSome_map] at timed
  next => cases opened

omit [Adapter L] in
theorem begin (f : Follows options P j s) (held : s.held = true) (call : ClientCall) :
    Follows options P (j ++ .began s.made call :: (s.refusal? call).toList.map (.refused s.made))
      (s.begin call) := by
  obtain ⟨timer, run⟩ := f.run
  refine ⟨⟨timer, ?_⟩, ?_⟩
  · rw [erase_begin]
    exact run.step (.begin call held)
  · rw [(s.begin_eq call).2]
    exact f.sound

/-- A session that is let run goes on with its run. -/
theorem runFor (answers : Adapter.Answers P) (f : Follows options P j s) (steps : Nat) :
    ∃ more, Follows options P (j ++ more) (s.runFor steps) := by
  obtain ⟨timer, run⟩ := f.run
  obtain ⟨⟨more, -, path, -⟩, sound⟩ := path_runFor timer answers f.sound steps
  exact ⟨more, ⟨timer, run.append path⟩, sound⟩

theorem settle (answers : Adapter.Answers P) (f : Follows options P j s) :
    ∃ more, Follows options P (j ++ more) s.settle := f.runFor answers _

theorem jump (answers : Adapter.Answers P) (f : Follows options P j s) (ms : Nat) :
    ∃ more, Follows options P (j ++ more) (s.jump ms) := by
  obtain ⟨timer, run⟩ := f.run
  have later : Follows options P (j ++ [.waited ms]) { s with now := s.now + ms } :=
    ⟨⟨timer, run.step (.wait ms)⟩, f.sound⟩
  obtain ⟨more, f⟩ := later.settle answers
  exact ⟨_, by rw [← List.append_assoc]; exact f⟩

theorem advance (answers : Adapter.Answers P) (f : Follows options P j s) (ms : Nat) :
    ∃ more, Follows options P (j ++ more) (s.advance ms) := by
  induction ms generalizing j s with
  | zero => exact ⟨[], by rw [List.append_nil]; exact f⟩
  | succ ms ih =>
    obtain ⟨more, f⟩ := f.jump answers 1
    obtain ⟨rest, f⟩ := ih f
    exact ⟨more ++ rest, by rw [← List.append_assoc]; exact f⟩

end Follows

end Session

/-! ### Links -/

/-- The notifications, if there are any, come by a stream. -/
def PollSource.IsStream (source : Option PollSource) : Prop :=
  ∀ x, source = some x → ∃ waiting ended, x = .notifications waiting ended

theorem PollSource.IsStream.some {waiting : List (List UInt8)} {ended : Bool} :
    IsStream (some (.notifications waiting ended)) := by
  intro x is
  cases is
  exact ⟨_, _, rfl⟩

namespace AnsweringLink

open PollSource

variable {l : AnsweringLink}

theorem isStream_bring {chunks : List (List UInt8)} (streams : IsStream l.notifications) :
    IsStream (l.bring chunks).notifications := by
  unfold bring
  dsimp only
  split
  · exact .some
  · exact streams

theorem isStream_perform {call : LinkCall} (streams : IsStream l.notifications) :
    IsStream (l.perform call).1.notifications := by
  cases call with
  | connect | discover | disconnect => exact streams
  | subscribe c => exact isStream_bring .some
  | write c data =>
    unfold perform
    dsimp only
    split
    · exact isStream_bring streams
    · exact isStream_bring streams
  | read c =>
    unfold perform
    dsimp only
    split <;> exact streams

theorem answers : Adapter.Answers fun l : AnsweringLink => IsStream l.notifications where
  start l call streams := by
    show IsStream (Adapter.start l call).1.notifications
    simp only [Adapter.start]
    split <;> exact streams
  finish l call streams := by
    have hungUp : IsStream
        (if call.kind = .disconnect then { l with lost := none, notifications := none }
          else l).notifications := by
      split
      · exact nofun
      · exact streams
    show IsStream (finishCall l call).1.notifications ∧ (finishCall l call).2.isSome
    unfold finishCall
    dsimp only
    split
    · exact ⟨hungUp, rfl⟩
    · exact ⟨isStream_perform hungUp, rfl⟩
  streams l source streams := streams source
  keep l waiting ended _ := .some

theorem log_perform {call : LinkCall} : (l.perform call).1.log = l.log := by
  cases call with
  | connect | discover | disconnect | subscribe => rfl
  | write =>
    unfold perform
    dsimp only
    split <;> rfl
  | read =>
    unfold perform
    dsimp only
    split <;> rfl

theorem log_finishCall (l : AnsweringLink) (call : LinkCall) :
    (finishCall l call).1.log = l.log := by
  have hungUp : (if call.kind = .disconnect then { l with lost := none, notifications := none }
      else l).log = l.log := by
    split <;> rfl
  unfold finishCall
  dsimp only
  split
  · exact hungUp
  · exact log_perform.trans hungUp

/-- The log is of the calls that were started, without the reads of the poll signal. -/
theorem log_of_logs {l l' : AnsweringLink} {h : History} (logs : Adapter.Logs l h l') :
    l'.log = l.log ++ h.calls.filter (·.kind ≠ .readPollSignal) := by
  induction logs with
  | silent uncalled => simp [uncalled]
  | @started l call =>
    by_cases unlogged : call.kind = .readPollSignal <;> simp [Adapter.start, unlogged]
  | @finished l l' call a finish =>
    have same := log_finishCall l call
    rw [show finishCall l call = (l', some a.result) from finish] at same
    simpa using same
  | kept => simp [Adapter.keep]
  | trans _ _ ih ih' => rw [ih', ih, History.calls_append, List.filter_append, List.append_assoc]

end AnsweringLink

end GattRpc
