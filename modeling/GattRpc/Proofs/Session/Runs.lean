import GattRpc.Proofs.Connection.Fates
import GattRpc.Proofs.Connection.Visibility
import GattRpc.Session.Run

/-! # What the task of a session does

Whatever its clients do, the task of a session takes a run of its connection (`Session.Run.task`).
What they see of it is what the task showed last (`Session.Run.status_eq`). Its commands are those
of the calls, each queued at most once under the number of its call (`Session.Run.numbered`). -/

namespace GattRpc

/-- Nothing is asked: a call that was made queues its command, the task of the session acts, or time
passes. -/
def Record.Passes : Record → Prop
  | queued _ _ | act _ | waited _ => True
  | began _ _ | refused _ _ | clientDropped | eventsRead _ | eventsDropped => False

variable {L : Type} {options : Options} {j more : Journal} {s s' : Session L}

/-! ### The parts of a session that the task has to do with -/

namespace Engine

variable {e : Engine L} {t : Standing}

theorem standing_follow (running : e.ended = false) : (e.follow t).standing = t := by
  cases t <;> simp [follow, standing, running]

theorem connection_standing : e.standing.connection = e.connection := by
  unfold standing
  repeat' split
  all_goals rfl

theorem isCalling_standing (idle : e.waiting = none) : e.standing.isCalling = false := by
  unfold standing
  rw [idle]
  split <;> rfl

theorem follow_queue : (e.follow t).queue = e.queue := by cases t <;> rfl

/-- A task that is over does nothing. -/
theorem running_of_step {t : Standing} {acts : History} (step : e.standing.Step acts t) :
    e.ended = false := by
  cases ended : e.ended with
  | false => rfl
  | true =>
    simp only [standing, ended, if_true] at step
    cases step

end Engine

namespace Session

/-- A session starts in one way only. -/
theorem eq_of_open? {link : L} (opened : Session.open? link options = some s) :
    s = { engine := .new link options 0 } := by
  unfold Session.open? at opened
  split at opened
  · exact (Option.some.inj opened).symm
  · cases opened

theorem endOrphans_eq : s.endOrphans.engine = s.engine ∧ s.endOrphans.made = s.made := by
  unfold endOrphans
  split <;> exact ⟨rfl, rfl⟩

/-- What the task tells changes nothing about the task. -/
theorem note_eq {o : Output} : (s.note o).engine = s.engine ∧ (s.note o).made = s.made := by
  unfold note
  repeat' split
  all_goals exact ⟨rfl, rfl⟩

theorem foldl_note_eq {out : List Output} :
    (out.foldl note s).engine = s.engine ∧ (out.foldl note s).made = s.made := by
  induction out generalizing s with
  | nil => exact ⟨rfl, rfl⟩
  | cons o out ih =>
    rw [List.foldl_cons, ih.1, ih.2]
    exact note_eq

theorem note_status {o : Output} :
    (s.note o).status = (History.statuses [.tell o]).getLastD s.status := by
  unfold note
  repeat' split
  all_goals rfl

/-- What can be seen is what was shown last. -/
theorem foldl_note_status {out : List Output} :
    (out.foldl note s).status = (History.statuses (out.map .tell)).getLastD s.status := by
  induction out generalizing s with
  | nil => rfl
  | cons o out ih =>
    rw [List.foldl_cons, ih, note_status, List.map_cons, History.statuses_cons,
      History.statuses_cons]
    cases (Act.tell o).shown? with
    | none => rfl
    | some shown => exact List.getLastD_cons.symm

theorem endOrphans_status : s.endOrphans.status = s.status := by
  unfold endOrphans
  split <;> rfl

theorem proceed_status {queue : List (Nat × Command)} {acts : History} {t : Standing} :
    (s.proceed queue acts t).status = acts.statuses.getLastD s.status := by
  rw [proceed, endOrphans_status, foldl_note_status, History.statuses_outputs]

theorem begin_status {call : ClientCall} : (s.begin call).status = s.status := by
  rw [begin]
  split
  · rfl
  · exact endOrphans_status

theorem proceed_eq {queue : List (Nat × Command)} {acts : History} {t : Standing} :
    (s.proceed queue acts t).engine = { s.engine with queue }.follow t ∧
      (s.proceed queue acts t).made = s.made := by
  rw [proceed, endOrphans_eq.1, endOrphans_eq.2, foldl_note_eq.1, foldl_note_eq.2]
  exact ⟨rfl, rfl⟩

/-- A call that begins has nothing to do with the task. -/
theorem begin_eq (call : ClientCall) :
    (s.begin call).made = s.made + 1 ∧ (s.begin call).engine = s.engine := by
  rw [begin]
  split
  · exact ⟨rfl, rfl⟩
  · exact ⟨endOrphans_eq.2, endOrphans_eq.1⟩

/-- What is noted when a call begins has nothing to do with the task either. -/
theorem records_begin (call : ClientCall) :
    let more : Journal := .began s.made call :: (s.refusal? call).toList.map (.refused s.made)
    more.history = [] ∧ more.began = [(s.made, call)] ∧
      more.refused = (s.refusal? call).toList.map (s.made, ·) := by
  cases s.refusal? call <;> exact ⟨rfl, rfl, rfl⟩

theorem standing_proceed {queue : List (Nat × Command)} {acts acts' : History} {t : Standing}
    (step : s.engine.standing.Step acts t) :
    (s.proceed queue acts' t).engine.standing = t := by
  rw [proceed_eq.1]
  exact Engine.standing_follow (Engine.running_of_step step)

/-! ### The task -/

/-- A step of a session is a step of its task, or the task does not notice. -/
theorem Step.task (step : s.Step more s') :
    (more.history = [] ∧ s'.engine.standing = s.engine.standing) ∨
      s.engine.standing.Step more.history s'.engine.standing := by
  cases step with
  | begin call =>
    refine .inl ⟨?_, ?_⟩
    · cases s.refusal? call <;> rfl
    · rw [(begin_eq call).2]
  | enter | dropClient | readEvents | dropEvents | wait => exact .inl ⟨rfl, rfl⟩
  | serve offers step =>
    rw [Journal.history_act, standing_proceed step]
    exact .inr step
  | answer time step =>
    rw [Journal.history_act, standing_proceed step]
    exact .inr step

theorem Path.task (path : s.Path more s') :
    s.engine.standing.Path more.history s'.engine.standing := by
  induction path with
  | refl => exact .refl
  | step path step ih =>
    rw [Journal.history_append]
    rcases step.task with ⟨none, same⟩ | step
    · rw [none, List.append_nil, same]
      exact ih
    · exact ih.step step

end Session

/-- The task of a session takes a run of its connection. -/
theorem Session.Run.task {s : Session Unit} (run : Session.Run options j s) :
    Connection.Run options j.history s.engine.standing := by
  induction run with
  | start opened =>
    obtain rfl := Session.eq_of_open? opened
    exact .start
  | step run step ih =>
    rw [Journal.history_append]
    rcases step.task with ⟨none, same⟩ | step
    · rw [none, List.append_nil, same]
      exact ih
    · exact ih.step step

/-- What clients see of the connection is what its task has shown. -/
theorem Session.Run.status_eq {s : Session Unit} (run : Session.Run options j s) :
    s.status = j.history.status := by
  induction run with
  | start opened =>
    obtain rfl := Session.eq_of_open? opened
    rfl
  | @step j more s s' run step ih =>
    rw [Journal.history_append, History.status_append, ← ih]
    cases step with
    | begin call =>
      rw [begin_status]
      cases s.refusal? call <;> rfl
    | enter | dropClient | readEvents | dropEvents | wait => rfl
    | serve | answer =>
      rw [Journal.history_act, proceed_status]
      rfl

/-- What clients see of the connection is its own status. -/
theorem Session.Run.status_connection {s : Session Unit} (run : Session.Run options j s) :
    s.status = s.engine.connection.status := by
  rw [run.status_eq, run.task.seen, Engine.connection_standing]

/-! ### The numbers of calls -/

theorem Progress.commands_acts {p : Progress Unit} : p.acts.commands = [] := by
  cases p <;> simp [acts]

theorem Standing.Step.commands_tail {t t' : Standing} {acts : History} (step : t.Step acts t') :
    History.commands acts.tail = [] := by
  cases step <;> exact Progress.commands_acts

/-- The commands that were queued, whether or not they were taken. -/
def Session.orders (s : Session L) (j : Journal) : List (Nat × Command) :=
  j.history.commands ++ s.engine.queue

/-- What happens to the commands that were queued, and to the calls that are to queue one. -/
inductive Session.Step.Orders (s : Session L) (j more : Journal) (s' : Session L) : Prop
  | begin (call : ClientCall) (held : s.held = true) (is : s' = s.begin call)
      (journal : more = .began s.made call :: (s.refusal? call).toList.map (.refused s.made))
  | enter (r : RunningCall) (waits : r ∈ s.queueing) (is : s' = s.enter r)
      (journal : more = [.queued r.number r.command])
  | same (made : s'.made = s.made) (orders : s'.orders (j ++ more) = s.orders j)
      (calls : ∀ stage ≠ .response, (s'.callsAt stage).Sublist (s.callsAt stage))
      (began : more.began = []) (refused : more.refused = []) (queued : more.queued = [])

namespace Session

variable {stage : CallStage}

theorem mem_await {n : Nat} {a : RunningCall}
    (ha : a ∈ (s.await n stage).running) : ∃ b ∈ s.running, b.number = a.number ∧ b.call = a.call := by
  obtain ⟨b, hb, rfl⟩ := List.mem_map.1 ha
  refine ⟨b, hb, ?_⟩
  split <;> exact ⟨rfl, rfl⟩

theorem mem_of_mem_await {n : Nat} {a : RunningCall} (ha : a ∈ (s.await n stage).running)
    (other : a.number ≠ n) : a ∈ s.running := by
  obtain ⟨b, hb, rfl⟩ := List.mem_map.1 ha
  split at other
  · next same => exact (other same).elim
  · next ne => rwa [if_neg ne]

theorem await_mem {n : Nat} {b : RunningCall} (hb : b ∈ s.running) :
    ∃ a ∈ (s.await n stage).running, a.number = b.number ∧ a.call = b.call := by
  refine ⟨_, List.mem_map_of_mem hb, ?_⟩
  split <;> exact ⟨rfl, rfl⟩

theorem callsAt_finish {n : Nat} {r : CallResult} :
    ((s.finish n r).callsAt stage).Sublist (s.callsAt stage) :=
  List.filter_sublist.filter _

/-- A call that waits for one thing waits for nothing else. -/
theorem callsAt_await {n : Nat} {other : CallStage} (ne : other ≠ stage) :
    (s.await n other).callsAt stage = (s.callsAt stage).filter (·.number ≠ n) := by
  rw [callsAt, await, callsAt]
  induction s.running with
  | nil => rfl
  | cons r running ih =>
    by_cases here : r.number = n <;> by_cases waits : r.stage = stage <;>
      simp [here, waits, ne, ih]

theorem callsAt_endOrphans : (s.endOrphans.callsAt stage).Sublist (s.callsAt stage) := by
  rw [endOrphans]
  split
  · exact List.nil_sublist _
  · exact .refl _

theorem callsAt_note {o : Output} (ne : stage ≠ .response) :
    ((s.note o).callsAt stage).Sublist (s.callsAt stage) := by
  have awaits {n : Nat} : ((s.await n .response).callsAt stage).Sublist (s.callsAt stage) := by
    rw [callsAt_await ne.symm]
    exact List.filter_sublist
  unfold note
  repeat' split
  all_goals first
    | exact .refl _
    | exact callsAt_finish
    | exact awaits

theorem callsAt_foldl_note {out : List Output} (ne : stage ≠ .response) :
    ((out.foldl note s).callsAt stage).Sublist (s.callsAt stage) := by
  induction out generalizing s with
  | nil => exact .refl _
  | cons o out ih => exact ih.trans (callsAt_note ne)

theorem callsAt_proceed {queue : List (Nat × Command)} {acts : History} {t : Standing}
    (ne : stage ≠ .response) :
    ((s.proceed queue acts t).callsAt stage).Sublist (s.callsAt stage) :=
  callsAt_endOrphans.trans (callsAt_foldl_note ne)

/-- A call that begins is to queue its command, unless it is refused or the task is over. -/
theorem callsAt_begin (call : ClientCall) : ((s.begin call).callsAt stage).Sublist
    (s.callsAt stage ++ (if (s.refusal? call).isSome then []
      else [⟨s.made, call, .room⟩]).filter (·.stage = stage)) := by
  rw [begin]
  cases s.refusal? call with
  | some e =>
    rw [Option.isSome_some, if_pos rfl, List.filter_nil, List.append_nil]
    exact callsAt_finish
  | none =>
    refine callsAt_endOrphans.trans ?_
    rw [callsAt, List.filter_append]
    exact .refl _

end Session

theorem Session.Step.orders (step : s.Step more s') (j : Journal) :
    Session.Step.Orders s j more s' := by
  cases step with
  | begin call held => exact .begin call held rfl rfl
  | @enter r runs waits room =>
    exact .enter r (List.mem_filter.2 ⟨runs, decide_eq_true waits⟩) rfl rfl
  | dropClient | readEvents | dropEvents | wait =>
    refine .same rfl ?_ (fun _ _ => .refl _) rfl rfl rfl
    rw [Session.orders, Journal.history_append]
    exact congrArg (History.commands · ++ s.engine.queue) (List.append_nil _)
  | @serve x queue acts t offers step =>
    refine .same proceed_eq.2 ?_ (fun _ => callsAt_proceed) Journal.began_act Journal.refused_act
      Journal.queued_act
    have acts' : acts.commands = [] := step.commands_tail
    rw [Session.orders, Session.orders, Journal.history_append, Journal.history_act, proceed_eq.1,
      Engine.follow_queue]
    cases x with
    | command ticket c => simp [acts', show s.engine.queue = (ticket, c) :: queue from offers]
    | clientsGone => simp [acts', offers.1, offers.2.2]
    | sweep now => simp [acts', offers.2]
    | linkLost | poll tick => simp [acts', show queue = s.engine.queue from offers]
  | @answer l a acts t time step =>
    refine .same proceed_eq.2 ?_ (fun _ => callsAt_proceed) Journal.began_act Journal.refused_act
      Journal.queued_act
    have acts' : acts.commands = [] := step.commands_tail
    rw [Session.orders, Session.orders, Journal.history_append, Journal.history_act, proceed_eq.1,
      Engine.follow_queue]
    simp [acts']

/-- A call that is begun leaves the commands that were queued as they are. -/
theorem Session.orders_begin (call : ClientCall) (j : Journal) :
    (s.begin call).orders
        (j ++ .began s.made call :: (s.refusal? call).toList.map (.refused s.made)) =
      s.orders j := by
  rw [orders, orders, (begin_eq call).2, Journal.history_append, (records_begin call).1,
    List.append_nil]

/-- A command is queued behind the others. -/
theorem Session.orders_enter (r : RunningCall) (j : Journal) :
    (s.enter r).orders (j ++ [.queued r.number r.command]) =
      s.orders j ++ [(r.number, r.command)] := by
  rw [orders, orders, Journal.history_append, show Journal.history [.queued _ _] = [] from rfl,
    List.append_nil, List.append_assoc]
  rfl

theorem Session.queueing_enter (r : RunningCall) :
    (s.enter r).queueing = s.queueing.filter (·.number ≠ r.number) :=
  callsAt_await (by simp)

/-- Each number stands for one call, which is refused, has queued its command, or is to queue it. -/
structure Session.Numbered (j : Journal) (s : Session L) : Prop where
  begun : ∀ n call, (n, call) ∈ j.began → n < s.made
  distinct : (j.began.map Prod.fst).Nodup
  ordered : ∀ n c, (n, c) ∈ s.orders j → ∃ call, (n, call) ∈ j.began ∧ c = call.command n
  refused : ∀ n e, (n, e) ∈ j.refused → ∃ call, (n, call) ∈ j.began
  queueing : ∀ r ∈ s.queueing, (r.number, r.call) ∈ j.began
  once : ((s.orders j).map Prod.fst ++ j.refused.map Prod.fst ++
    s.queueing.map RunningCall.number).Nodup

namespace Session.Numbered

/-- What leaves the calls and their commands as they are. -/
theorem same (k : Numbered j s) (made : s'.made = s.made)
    (orders : s'.orders (j ++ more) = s.orders j) (queueing : s'.queueing.Sublist s.queueing)
    (began : more.began = []) (refused : more.refused = []) : Numbered (j ++ more) s' where
  begun := by simpa [began, made] using k.begun
  distinct := by simpa [began] using k.distinct
  ordered := by simpa [orders, began] using k.ordered
  refused := by simpa [refused, began] using k.refused
  queueing r hr := by simpa [began] using k.queueing r (queueing.subset hr)
  once := by
    rw [orders, Journal.refused_append, refused, List.append_nil]
    exact k.once.sublist ((List.Sublist.refl _).append (queueing.map _))

theorem fresh (k : Numbered j s) : s.made ∉ (s.orders j).map Prod.fst ++
    j.refused.map Prod.fst ++ s.queueing.map RunningCall.number := by
  intro used
  rcases List.mem_append.1 used with used | used
  · rcases List.mem_append.1 used with used | used
    · obtain ⟨⟨n, c⟩, used, same⟩ := List.mem_map.1 used
      obtain ⟨call, began, -⟩ := k.ordered n c used
      exact Nat.lt_irrefl _ (same ▸ k.begun n call began)
    · obtain ⟨⟨n, e⟩, used, same⟩ := List.mem_map.1 used
      obtain ⟨call, began⟩ := k.refused n e used
      exact Nat.lt_irrefl _ (same ▸ k.begun n call began)
  · obtain ⟨r, used, same⟩ := List.mem_map.1 used
    exact Nat.lt_irrefl _ (same ▸ k.begun _ _ (k.queueing r used))

/-- A call that is refused has queued no command. -/
theorem apart {n : Nat} (k : Numbered j s) (ordered : n ∈ (s.orders j).map Prod.fst)
    (refused : n ∈ j.refused.map Prod.fst) : False :=
  (List.nodup_append.1 (List.nodup_append.1 k.once).1).2.2 n ordered n refused rfl

/-- A call begins, and is refused or is to queue its command. -/
theorem begin (k : Numbered j s) (call : ClientCall) :
    Numbered (j ++ .began s.made call :: (s.refusal? call).toList.map (.refused s.made))
      (s.begin call) := by
  have orders := orders_begin (s := s) call j
  have queueing : (s.begin call).queueing.Sublist
      (s.queueing ++ if (s.refusal? call).isSome then [] else [⟨s.made, call, .room⟩]) := by
    refine (callsAt_begin call).trans ?_
    exact List.Sublist.append (.refl _) List.filter_sublist
  obtain ⟨made, -⟩ := s.begin_eq call
  obtain ⟨-, began, refused⟩ := s.records_begin call
  generalize Record.began s.made call :: (s.refusal? call).toList.map (.refused s.made) =
    more at orders began refused ⊢
  have began : (j ++ more).began = j.began ++ [(s.made, call)] := by
    rw [Journal.began_append, began]
  have refused : (j ++ more).refused = j.refused ++ (s.refusal? call).toList.map (s.made, ·) := by
    rw [Journal.refused_append, refused]
  have old {b : Nat × ClientCall} (hb : b ∈ j.began) : b ∈ (j ++ more).began := by
    rw [began]
    exact List.mem_append_left _ hb
  have new : (s.made, call) ∈ (j ++ more).began := by
    rw [began]
    exact List.mem_append_right _ (List.mem_singleton.2 rfl)
  refine ⟨fun n call' hn => ?_, ?_, fun n c hn => ?_, fun n e hn => ?_, fun r hr => ?_, ?_⟩
  · rw [made]
    rw [began] at hn
    rcases List.mem_append.1 hn with hn | hn
    · exact Nat.lt_succ_of_lt (k.begun n call' hn)
    · cases List.mem_singleton.1 hn
      exact Nat.lt_succ_self _
  · rw [began, List.map_append, List.nodup_append]
    refine ⟨k.distinct, by simp, fun n hn m hm => ?_⟩
    obtain ⟨⟨n', call'⟩, hn', rfl⟩ := List.mem_map.1 hn
    rw [List.mem_singleton.1 hm]
    exact Nat.ne_of_lt (k.begun n' call' hn')
  · rw [orders] at hn
    obtain ⟨call', began, is⟩ := k.ordered n c hn
    exact ⟨call', old began, is⟩
  · rw [refused] at hn
    rcases List.mem_append.1 hn with hn | hn
    · obtain ⟨call', began⟩ := k.refused n e hn
      exact ⟨call', old began⟩
    · obtain ⟨e', -, is⟩ := List.mem_map.1 hn
      cases is
      exact ⟨call, new⟩
  · rcases List.mem_append.1 (queueing.subset hr) with hr | hr
    · exact old (k.queueing r hr)
    · split at hr
      · cases hr
      · rw [List.mem_singleton.1 hr]
        exact new
  -- The number of the call is new everywhere, and used once.
  · have all : ((s.begin call).queueing.map RunningCall.number).Sublist _ := queueing.map _
    rw [orders, refused]
    refine List.Nodup.sublist ((List.Sublist.refl _).append all) ?_
    have perm : (((s.orders j).map Prod.fst ++
        (j.refused ++ (s.refusal? call).toList.map (s.made, ·)).map Prod.fst) ++
          (s.queueing ++ if (s.refusal? call).isSome then []
            else [(⟨s.made, call, .room⟩ : RunningCall)]).map RunningCall.number).Perm
        (s.made :: ((s.orders j).map Prod.fst ++ j.refused.map Prod.fst ++
          s.queueing.map RunningCall.number)) := by
      cases s.refusal? call with
      | none =>
        rw [Option.toList_none, List.map_nil, List.append_nil, List.map_append, ← List.append_assoc]
        exact List.perm_append_singleton _ _
      | some e =>
        rw [Option.isSome_some, if_pos rfl, List.append_nil, List.map_append, List.append_assoc,
          List.append_assoc, List.append_assoc]
        exact (List.perm_middle.append_left _).trans List.perm_middle
    exact perm.nodup_iff.2 (List.nodup_cons.2 ⟨k.fresh, k.once⟩)

/-- A call that was to queue its command has done so. -/
theorem enter {r : RunningCall} (k : Numbered j s) (waits : r ∈ s.queueing) :
    Numbered (j ++ [.queued r.number r.command]) (s.enter r) := by
  have began : Journal.began (j ++ [.queued r.number r.command]) = j.began := by
    rw [Journal.began_append]
    exact List.append_nil _
  have refused : Journal.refused (j ++ [.queued r.number r.command]) = j.refused := by
    rw [Journal.refused_append]
    exact List.append_nil _
  have orders := orders_enter (s := s) r j
  have queueing := queueing_enter (s := s) r
  refine ⟨?_, ?_, fun n c hn => ?_, ?_, fun c hc => ?_, ?_⟩
  · rw [began]
    exact k.begun
  · rw [began]
    exact k.distinct
  · rw [began]
    rw [orders] at hn
    rcases List.mem_append.1 hn with hn | hn
    · exact k.ordered n c hn
    · cases List.mem_singleton.1 hn
      exact ⟨r.call, k.queueing r waits, rfl⟩
  · rw [refused, began]
    exact k.refused
  · rw [began]
    rw [queueing] at hc
    exact k.queueing c (List.mem_filter.1 hc).1
  -- The number of the call goes from one part to another.
  · have distinct := (List.nodup_append.1 k.once).2.1
    have rest : (s.queueing.filter (·.number ≠ r.number)).map RunningCall.number =
        (s.queueing.map RunningCall.number).erase r.number := by
      rw [distinct.erase_eq_filter, List.filter_map]
      exact congrArg _ (List.filter_congr fun c _ => by simp [bne, beq_eq_decide])
    have moved := List.perm_cons_erase (List.mem_map_of_mem waits : r.number ∈ s.queueing.map _)
    rw [orders, refused, queueing, rest, List.map_append, List.append_assoc, List.append_assoc]
    refine (List.Perm.nodup_iff ?_).2 k.once
    rw [List.append_assoc]
    exact .append_left _ ((moved.append_left _).trans List.perm_middle).symm

theorem step (k : Numbered j s) (step : s.Step more s') : Numbered (j ++ more) s' := by
  cases step.orders j with
  | begin call _ is journal =>
    subst is journal
    exact k.begin call
  | enter r waits is journal =>
    subst is journal
    exact k.enter waits
  | same made orders calls began refused => exact k.same made orders (calls _ nofun) began refused

end Session.Numbered

namespace Session.Run

variable {s : Session Unit}

theorem numbered (run : Session.Run options j s) : Numbered j s := by
  induction run with
  | start opened =>
    obtain rfl := eq_of_open? opened
    exact ⟨nofun, .nil, nofun, nofun, nofun, .nil⟩
  | step run step ih => exact ih.step step

/-- Commands are taken in the order in which they were queued. -/
theorem queued (run : Session.Run options j s) : s.orders j = j.queued := by
  induction run with
  | start opened =>
    obtain rfl := eq_of_open? opened
    rfl
  | @step j more s s' run step ih =>
    rw [Journal.queued_append]
    cases step.orders j with
    | begin call _ is journal =>
      subst is journal
      rw [orders_begin, ih]
      cases s.refusal? call <;> exact (List.append_nil _).symm
    | enter r _ is journal =>
      subst is journal
      rw [orders_enter, ih]
      rfl
    | same _ orders _ _ _ queued => rw [orders, queued, List.append_nil, ih]

theorem queued_once (run : Session.Run options j s) : (j.queued.map Prod.fst).Nodup := by
  rw [← run.queued]
  exact (List.nodup_append.1 (List.nodup_append.1 run.numbered.once).1).1

/-- The task takes each command once, with the number of its call for a ticket. -/
theorem ticketed (run : Session.Run options j s) : Ticketed j.history where
  once := by
    have once := run.queued_once
    rw [← run.queued, orders, List.map_append] at once
    exact (List.nodup_append.1 once).1
  own n method params callback hn := by
    obtain ⟨call, -, is⟩ := run.numbered.ordered n _ (List.mem_append_left _ hn)
    cases call with
    | connect | close => cases is
    | send method' params' callback' =>
      cases callback' with
      | none => cases is
      | some d => cases is; rfl
    | call => cases is; rfl

end Session.Run

/-! ### A session that is connected -/

/-- What concerns no call. -/
def Output.isPublic : Output → Bool
  | shown _ | event _ => true
  | settled _ | discarded _ | reply _ _ => false

@[simp] def Output.event? : Output → Option Event
  | event e => some e
  | _ => none

namespace Session

theorem foldl_note_public {out : List Output} (pub : out.all Output.isPublic = true) :
    out.foldl note s = { s with
      status := (History.statuses (out.map .tell)).getLastD s.status
      channel := (out.filterMap Output.event?).foldl .offer s.channel } := by
  induction out generalizing s with
  | nil => rfl
  | cons o out ih =>
    rw [List.all_cons, Bool.and_eq_true] at pub
    rw [List.foldl_cons, ih pub.2, List.map_cons, History.statuses_cons]
    cases o with
    | shown =>
      rw [show ∀ l, (Act.tell (.shown _)).shown?.toList ++ l = _ :: l from fun _ => rfl,
        List.getLastD_cons]
      rfl
    | event => rfl
    | settled | discarded | reply => cases pub.1

/-- An empty queue has room, however small it may be. -/
theorem hasRoom_of_empty (empty : s.engine.queue = []) : s.hasRoom := by
  rw [Session.hasRoom, empty]
  exact Nat.lt_of_lt_of_le Nat.one_pos (Nat.le_max_left _ _)

/-- A call begins, and puts its command on the queue at once. -/
theorem Run.queue {s : Session Unit} (run : Session.Run options j s) (call : ClientCall)
    (held : s.held = true) (accepted : s.refusal? call = none) (running : s.engine.ended = false)
    (room : s.hasRoom) :
    Session.Run options (j ++ [.began s.made call, .queued s.made (call.command s.made)])
      (({ s with made := s.made + 1, running := s.running ++ [⟨s.made, call, .room⟩] } :
        Session Unit).enter ⟨s.made, call, .room⟩) := by
  have begun := run.step (.begin call held)
  rw [accepted, begin, accepted] at begun
  dsimp only at begun
  rw [submit, endOrphans, if_neg (by rw [running]; exact Bool.false_ne_true)] at begun
  have queued := begun.step
    (.enter (r := ⟨s.made, call, .room⟩) (List.mem_append_right _ List.mem_cons_self) rfl room)
  rw [List.append_assoc] at queued
  exact queued

/-- What concerns no call changes only what is seen. -/
theorem proceed_public {queue : List (Nat × Command)} {acts : History} {t : Standing}
    (pub : acts.outputs.all Output.isPublic = true)
    (running : ({ s.engine with queue }.follow t).ended = false) :
    s.proceed queue acts t = { s with
      engine := { s.engine with queue }.follow t
      status := acts.statuses.getLastD s.status
      channel := (acts.outputs.filterMap Output.event?).foldl .offer s.channel } := by
  rw [proceed, foldl_note_public pub, History.statuses_outputs, endOrphans]
  exact if_neg (by rw [running]; exact Bool.false_ne_true)

/-- A session whose first call has connected it. -/
def ready (options : Options) : Session Unit where
  engine := { Engine.new () options 0 with
    connection := { Connection.new options with
      state := .ready, channel := some Connection.sampleChannel, watching := true
      status := { state := .ready, peer := some "peer" } } }
  made := 1
  status := { state := .ready, peer := some "peer" }
  channel.waiting := [.stateChanged .connecting, .stateChanged .discovering, .stateChanged .ready]
  finished := [(0, .connected)]

/-- Whatever is chosen, a session that is to be notified can be connected. -/
theorem Run.ready (options : Options) (fits : options.commandQueue ≤ Options.maxCommandQueue)
    (mode : options.pollMode = .notify) : ∃ j, Session.Run options j (.ready options) ∧
      j.history.sends = [] ∧ j.history.frames = [] := by
  obtain ⟨_, timeout, policy, queue, limit, drain⟩ := options
  subst mode
  let options : Options := ⟨.notify, timeout, policy, queue, limit, drain⟩
  let channel := Connection.sampleChannel
  have opened : Session.Run options _ _ := .start (if_pos fits)
  have queued := opened.queue .connect rfl rfl rfl (hasRoom_of_empty rfl)
  have connecting := queued.step <| .serve (x := .command 0 .connect) rfl <|
    show Standing.Step _ (.take (.command 0 .connect) :: [
      .tell (.shown { state := .connecting }), .tell (.event (.stateChanged .connecting)),
      .call .connect]) _ from .take trivial
  rw [proceed_public rfl rfl] at connecting
  have discovering := connecting.step <| .answer rfl <|
    show Standing.Step _ (.answer .connect ⟨0, .ok "peer"⟩ :: [
      .tell (.shown { state := .connecting, peer := some "peer" }),
      .tell (.shown { state := .discovering, peer := some "peer" }),
      .tell (.event (.stateChanged .discovering)), .call .discover]) _ from .answer _
  rw [proceed_public rfl rfl] at discovering
  have subscribing := discovering.step <| .answer rfl <|
    show Standing.Step _ (.answer .discover
      ⟨0, .ok [⟨rpcService, [channel.inbox, channel.pollSignal]⟩]⟩ :: [
      .call (.subscribe channel.pollSignal)]) _ from .answer _
  rw [proceed_public rfl rfl] at subscribing
  have connected := subscribing.step <| .answer rfl <|
    show Standing.Step _ (.answer (.subscribe channel.pollSignal) ⟨0, .ok ()⟩ :: [
      .tell (.shown { state := .ready, peer := some "peer" }),
      .tell (.event (.stateChanged .ready)), .tell (.reply 0 (.connect (.ok ())))])
      (.idle (Session.ready options).engine.connection) from by
        -- Whether it looks for old requests depends on whether there is a timeout.
        cases timeout <;> exact .answer _
  exact ⟨_, connected, rfl, rfl⟩

end Session

end GattRpc
