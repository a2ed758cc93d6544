import GattRpc.Proofs.Connection.Expiry
import GattRpc.Proofs.Session.Completion

/-! # When requests are given up

The clock of a session does not go back, and its task sees the times in order. So a request that is
not answered fails on the first sweep that finds it too old, and on no other
(`Session.Run.timesOut`). -/

namespace GattRpc

open Connection History

/-- Requests fail once they have waited for `timeout`, and nobody is told so before. -/
structure History.TimesOut (options : Options) (timeout : Nat) (h : History) : Prop where
  /-- Whoever is told so is told by a sweep, long enough after the request was written. -/
  told : ∀ (before : History) y id, before ++ [.tell (.settled y)] <+: h →
    y.outcome = .failed (.timedOut id) →
      ∃ (g : History) (now : Nat) (ps : List Pending) (p : Pending),
        before = g ++ .take (.sweep now) :: expiries ps ∧ g.Waits p ∧
          p.since + timeout ≤ now ∧ y = p.settle (.failed (.timedOut p.id))
  once : ∀ (before : History) y, before ++ [.tell (.settled y)] <+: h →
    ∀ z ∈ before.settlements, z.callback.token ≠ y.callback.token
  /-- A response that comes after that reaches nobody, until ids begin again. -/
  late : h.frames.length < UInt64.size → ∀ (before : History) (y : Settlement) id,
    y.outcome = .failed (.timedOut id) → ∀ ms m (later : History) o r,
      h.Routes options ms m later o → before ++ [.tell (.settled y)] <+: later →
        Inbound.classify m = .response r → r.id = id → o = .event (.orphanResponse id)
  /-- Only a connection that is open is swept. A sweep fails all requests that are old enough, in
  the order of their ids, shows how many are left if any fails, and does nothing else. -/
  swept : ∀ (g : History) now rest, h = g ++ .take (.sweep now) :: rest → g.state ≠ .closed ∧
    ∃ ps s later, rest = sweeps ps s ++ later ∧
      (∀ p, p ∈ ps ↔ g.Waits p ∧ p.since + timeout ≤ now) ∧ Pending.Ascending ps ∧
        ∀ a ∈ later.head?, ∃ y, a = .take y
  /-- A request that was not answered fails on the first sweep that finds it old enough. -/
  first : h.frames.length < UInt64.size → ∀ (f mid : History) now rest p,
    h = f ++ mid ++ .take (.sweep now) :: rest → f.Registers p → p.since + timeout ≤ now →
      (∀ now', .take (.sweep now') ∈ mid → now' < p.since + timeout) →
      (∀ y r, .tell (.settled y) ∈ mid → y.request.id = p.id → y.outcome ≠ .answered r) →
        ∃ ps later, rest = expiries ps ++ later ∧ p ∈ ps

variable {L : Type} {options : Options} {j more : Journal} {s s' : Session L} {timeout : Nat}

/-! ### The clock -/

namespace Session

theorem now_note {o : Output} : (s.note o).now = s.now := by
  unfold note
  repeat' split
  all_goals rfl

theorem now_notes {out : List Output} : (out.foldl note s).now = s.now := by
  induction out generalizing s with
  | nil => rfl
  | cons o out ih => exact ih.trans now_note

theorem now_endOrphans : s.endOrphans.now = s.now := by
  unfold endOrphans
  split <;> rfl

theorem now_begin {call : ClientCall} : (s.begin call).now = s.now := by
  rcases s.begin_cases call with ⟨-, is⟩ | ⟨e, -, -, is⟩
  · rw [is]
    exact now_endOrphans
  · rw [is]
    rfl

theorem now_proceed {queue : List (Nat × Command)} {acts : History} {t : Standing} :
    (s.proceed queue acts t).now = s.now :=
  now_endOrphans.trans now_notes

/-- The task sees no other time than that of the session. -/
theorem Step.times (step : s.Step more s') :
    s.now ≤ s'.now ∧ (more.history.times = [] ∨ more.history.times = [s.now]) := by
  cases step with
  | begin call =>
    rw [now_begin]
    refine ⟨Nat.le_refl _, .inl ?_⟩
    cases s.refusal? call <;> rfl
  | enter | dropClient | readEvents | dropEvents => exact ⟨Nat.le_refl _, .inl rfl⟩
  | wait ms => exact ⟨Nat.le_add_right .., .inl rfl⟩
  | @serve x queue acts t offers step =>
    rw [now_proceed, Journal.history_act]
    refine ⟨Nat.le_refl _, ?_⟩
    obtain ⟨_, _, is, -, quiet⟩ := step.prompted
    cases is
    have rest := times_eq_nil quiet
    cases x with
    | sweep now =>
      obtain rfl := offers.1
      exact .inr (congrArg (s.now :: ·) rest)
    | command | clientsGone | linkLost | poll => exact .inl rest
  | @answer l a acts t time step =>
    rw [now_proceed, Journal.history_act]
    refine ⟨Nat.le_refl _, .inr ?_⟩
    obtain ⟨_, _, is, -, quiet⟩ := step.prompted
    cases is
    have rest := times_eq_nil quiet
    exact (congrArg (a.time :: ·) rest).trans (by rw [time])

namespace Run

variable {s : Session Unit}

theorem timely (run : Session.Run options j s) :
    j.history.Timely ∧ ∀ m ∈ j.history.times, m ≤ s.now := by
  induction run with
  | start => exact ⟨.nil, nofun⟩
  | @step j more s s' run step ih =>
    obtain ⟨ordered, past⟩ := ih
    obtain ⟨later, seen⟩ := step.times
    unfold Timely
    rw [Journal.history_append, times_append]
    rcases seen with none | now
    · rw [none, List.append_nil]
      exact ⟨ordered, fun m hm => Nat.le_trans (past m hm) later⟩
    · rw [now]
      refine ⟨List.pairwise_append.2 ⟨ordered, List.pairwise_singleton _ _, ?_⟩, ?_⟩
      · intro m hm k hk
        rw [List.mem_singleton.1 hk]
        exact past m hm
      · intro m hm
        rcases List.mem_append.1 hm with hm | hm
        · exact Nat.le_trans (past m hm) later
        · rw [List.mem_singleton.1 hm]
          exact later

theorem untimed (run : Session.Run options j s) (unlimited : options.requestTimeout = none) :
    ∀ y ∈ j.history.settlements, ∀ id, y.outcome ≠ .failed (.timedOut id) := by
  intro y hy id outcome
  obtain ⟨before, after, split⟩ := List.append_of_mem (mem_outputs.1 (mem_settlements.1 hy))
  have told : before ++ [.tell (.settled y)] <+: j.history := ⟨after, by simp [split]⟩
  obtain ⟨_, _, _, _, _, limited, -⟩ := run.task.timed_out told outcome
  rw [unlimited] at limited
  cases limited

/-- A request fails on the first sweep that finds it too old, unless it was answered or cancelled.
Without a time limit none does. -/
theorem timesOut (run : Session.Run options j s) :
    (∀ timeout, options.requestTimeout = some timeout → j.history.TimesOut options timeout) ∧
      (options.requestTimeout = none →
        ∀ y ∈ j.history.settlements, ∀ id, y.outcome ≠ .failed (.timedOut id)) := by
  refine ⟨fun timeout limited => ?_, fun unlimited => run.untimed unlimited⟩
  obtain ⟨u, deeds⟩ := run.task.exists_deeds
  have timely := run.timely.1
  refine
    { told := fun before y id told outcome => ?_
      once := fun before y told => (deeds.once run.ticketed told).1
      late := fun room before y id outcome ms m later o r routes earlier is same => ?_
      swept := fun g now rest is => ?_
      first := fun room f mid now rest p is registers old younger unanswered => ?_ }
  · obtain ⟨g, now, timeout', ps, p, limited', rfl, waits, old, is⟩ :=
      run.task.timed_out told outcome
    rw [limited] at limited'
    cases limited'
    refine ⟨g, now, ps, p, rfl, waits, ?_, is⟩
    have since := (timely.of_prefix ((List.prefix_append _ _).trans told)).since_le waits
    unfold Pending.age at old
    omega
  · exact run.task.orphaned_late room outcome earlier routes is same
  · have task := run.task
    rw [is] at task timely
    exact task.swept timely limited
  · have task := run.task
    rw [is] at task timely room
    have few : (f ++ mid).frames.length < UInt64.size := by
      rw [frames_append, List.length_append] at room
      omega
    have waits := task.waits_for_sweep few timely limited registers younger unanswered
    obtain ⟨-, ps, s, later, split, all, -⟩ := task.swept timely limited
    rw [sweeps, List.append_assoc] at split
    exact ⟨ps, _, split, (all p).2 ⟨waits, old⟩⟩

/-- A call whose request is too old when the first sweep comes. -/
theorem timesOut_calling : ∃ j s, Session.Run timedOptions j s ∧
    (1, .failed (.timedOut 1)) ∈ s.finished ∧ j.history.TimesOut timedOptions 100 := by
  obtain ⟨j, calling, -, -⟩ := Session.Run.calling
  have swept := (calling.step (.wait 250)).step (.serve (x := .sweep 250) ⟨rfl, rfl⟩ (.take rfl))
  refine ⟨_, _, swept, ?_, swept.timesOut.1 100 rfl⟩
  exact List.mem_cons_of_mem _ List.mem_cons_self

end Run

end Session

end GattRpc
