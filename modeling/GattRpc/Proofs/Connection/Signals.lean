import GattRpc.Proofs.Connection.Transfers

/-! # One read for each signal

A signal that announces bytes is followed at once by a read of the inbox, which nothing else leads
to, and one that announces nothing is counted and changes nothing else
(`Connection.Run.oneReadEach`). What follows a signal is what its step does, so it is enough to know
how a task goes on from each signal (`Connection.Run.step_signal`). -/

namespace GattRpc

namespace PollSignal

/-- The first four bytes spell a number that is not zero. -/
def isPositive : List UInt8 → Bool
  | a :: b :: c :: d :: _ =>
    0 < 0x1000000 * a.toNat + 0x10000 * b.toNat + 0x100 * c.toNat + d.toNat
  | _ => false

theorem isSome_announced? (payload : List UInt8) :
    (announced? payload).isSome = isPositive payload := by
  match payload with
  | [] | [_] | [_, _] | [_, _, _] => rfl
  | a :: b :: c :: d :: rest =>
    have spelled : bigEndian ((a :: b :: c :: d :: rest).take length) =
        0x1000000 * a.toNat + 0x10000 * b.toNat + 0x100 * c.toNat + d.toNat := by
      simp only [length, bigEndian, List.take, List.foldl]
      omega
    have long : ¬ (a :: b :: c :: d :: rest).length < length := by
      simp [length]
    rw [announced?, if_neg long, spelled, isPositive]
    generalize 0x1000000 * a.toNat + 0x10000 * b.toNat + 0x100 * c.toNat + d.toNat = n
    cases n <;> simp

end PollSignal

theorem SignalTally.foldl_count (tally : SignalTally) (payloads : List (List UInt8)) :
    payloads.foldl count tally =
      { signals := tally.signals + payloads.length
        ignored := tally.ignored + payloads.countP fun p => !PollSignal.isPositive p
        reads := tally.reads + payloads.countP PollSignal.isPositive } := by
  induction payloads generalizing tally with
  | nil => rfl
  | cons p ps ih =>
    rw [List.foldl_cons, ih, count, PollSignal.isSome_announced?]
    cases positive : PollSignal.isPositive p <;> simp [positive] <;> omega

variable {options : Options} {c d : Connection} {g h rest : History} {a : Act} {acts : History}
  {t t' : Standing}

@[simp] theorem Standing.after_connection {x : Stimulus} :
    (t.after x).connection = t.connection := by
  cases t <;> cases x <;> rfl

theorem Standing.after_poll {tick : PollTick} : t.after (.poll tick) = t := by
  cases t <;> rfl

namespace Connection

/-- What prompts a task is followed by all that it makes the task do. -/
theorem Run.at_prompt (run : Run options h t) (is : h = g ++ a :: rest) (prompts : a.Prompts) :
    ∃ t₀ acts t₁ later, Run options g t₀ ∧ t₀.Step (a :: acts) t₁ ∧ rest = acts ++ later := by
  induction run generalizing rest with
  | start => simp at is
  | @step h acts t t' run step ih =>
    obtain ⟨b, more, rfl, -, last⟩ := step.prompted
    have now (as : History) (before : g = h ++ as) (same : b :: more = as ++ a :: rest) :
        ∃ t₀ acts t₁ later, Run options g t₀ ∧ t₀.Step (a :: acts) t₁ ∧ rest = acts ++ later := by
      cases as with
      | nil =>
        cases same
        rw [List.append_nil] at before
        exact ⟨t, rest, t', [], before ▸ run, step, (List.append_nil _).symm⟩
      | cons b' as =>
        cases same
        exact (last a (List.mem_append_right _ List.mem_cons_self) prompts).elim
    rcases List.append_eq_append_iff.1 is with ⟨as, before, same⟩ | ⟨bs, before, same⟩
    · exact now as before same
    · cases bs with
      | nil => exact now [] (by simpa using before.symm) same.symm
      | cons b' bs =>
        cases same
        obtain ⟨t₀, acts, t₁, later, run', step', rfl⟩ := ih before
        exact ⟨t₀, acts, t₁, later ++ b :: more, run', step', List.append_assoc ..⟩

variable {payload : List UInt8}

theorem counted_of_signal {channel : Channel} (inUse : c.channel = some channel)
    (ready : c.state = .ready) :
    c.signals.count payload = (handle (.poll (.signal payload)) c).standing.connection.signals := by
  cases announced : PollSignal.announced? payload with
  | none =>
    rw [run_signal_ignored inUse ready announced]
    rfl
  | some n =>
    obtain ⟨resume, is, -⟩ := run_signal inUse ready (Option.isSome_iff_exists.2 ⟨n, announced⟩)
    rw [is]
    rfl

namespace Run

/-- A signal is taken like a notification, also if it was read. -/
theorem step_signal (run : Run options g t) (step : t.Step (a :: acts) t')
    (brings : a.signal? = some payload) :
    ∃ channel, t.connection.channel = some channel ∧ t.connection.state = .ready ∧
      channel.inbox.uuid = inboxUuid ∧
      acts = (handle (.poll (.signal payload)) t.connection).acts ∧
      t' = (handle (.poll (.signal payload)) t.connection).standing := by
  generalize is : a :: acts = done at step
  cases step with
  | @take c x awaits =>
    cases is
    cases x with
    | poll tick =>
      cases tick with
      | signal p =>
        obtain rfl : p = payload := Option.some.inj brings
        obtain ⟨channel, inUse⟩ := Option.isSome_iff_exists.1 awaits.1
        obtain ⟨ready, inbox, -⟩ := run.serving inUse
        exact ⟨channel, inUse, ready, inbox, rfl, Standing.after_poll⟩
      | due | ended => cases brings
    | command | clientsGone | linkLost | sweep => cases brings
  | @answer d l resume a =>
    cases is
    cases l with
    | read ch =>
      obtain ⟨pollSignal, result⟩ := Act.of_signal?_read brings
      rw [result]
      rcases run.transfers with
        ⟨other, -⟩ | ⟨g', x, part, c, channel, is, before, awaits, inUse, t⟩
      · exact (other trivial).elim
      obtain ⟨ready, inbox, -⟩ := before.serving inUse
      cases t with
      | probe succeeds fails =>
        exact ⟨channel, inUse, ready, inbox, congrArg Progress.acts (succeeds a.time payload),
          congrArg Progress.standing (succeeds a.time payload)⟩
      | notified | probed =>
        rw [inbox] at pollSignal
        exact absurd pollSignal (by decide)
    | connect | discover | subscribe | write | disconnect => cases brings

theorem step_signals (run : Run options g t) (step : t.Step acts t') :
    t'.connection.signals =
      (History.signals acts).foldl SignalTally.count t.connection.signals := by
  obtain ⟨a, rest, rfl, -, last⟩ := step.prompted
  have only : History.signals (a :: rest) = a.signal?.toList := by
    have none : rest.filterMap Act.signal? = [] := List.filterMap_eq_nil_iff.2 fun b hb => by
      cases b with
      | take | answer => exact (last _ hb trivial).elim
      | call | tell => rfl
    cases brings : a.signal? <;> simp [History.signals, brings, none]
  rw [only]
  cases brings : a.signal? with
  | some payload =>
    obtain ⟨channel, inUse, ready, -, -, rfl⟩ := run.step_signal step brings
    exact (counted_of_signal inUse ready).symm
  | none =>
    generalize is : a :: rest = done at step
    cases step with
    | @take c x awaits =>
      cases is
      rw [Standing.after_connection]
      rcases plain_or_carries (x := x) fun _ inUse => (run.serving inUse).1 with
        plain | ⟨channel, inUse, ready, carries⟩
      · exact plain.signals
      · cases carries with
        | send =>
          obtain ⟨resume, is, -⟩ := run_send inUse ready
          rw [is]
          rfl
        | signal => cases brings
        | due =>
          obtain ⟨resume, is, -⟩ := run_due inUse ready
          rw [is]
          rfl
    | @answer d l resume a =>
      cases is
      rcases run.transfers with
        ⟨-, plain⟩ | ⟨g', x, part, c, channel, is, before, awaits, inUse, t⟩
      · exact (plain a).signals
      cases t with
      | write plain | notified some plain | probed time some plain => exact (plain a).signals
      | probe succeeds fails =>
        obtain ⟨time, e | payload⟩ := a
        · rw [fails]
          exact plain_givesUp.signals
        · cases (Act.signal?_read (before.serving inUse).2.2).symm.trans brings

/-- Signals are counted as they come. -/
theorem signals (run : Run options h t) :
    t.connection.signals = h.signals.foldl SignalTally.count {} := by
  induction run with
  | start => rfl
  | @step h acts t t' run step ih =>
    rw [run.step_signals step, ih, History.signals, History.signals, History.signals,
      List.filterMap_append, List.foldl_append]

end Run

/-- How signals and reads go together in a run. -/
structure OneReadEach (options : Options) (h : History) (t : Standing) : Prop where
  /-- A signal that announces something is followed at once by a read of the inbox. -/
  read : ∀ g a rest payload, h = g ++ a :: rest → a.signal? = some payload →
    PollSignal.isPositive payload = true →
    ∃ ch more, ch.uuid = inboxUuid ∧ rest = .call (.read ch) :: more
  /-- The inbox is read for no other reason. -/
  caused : ∀ g ch rest, h = g ++ .call (.read ch) :: rest → ch.uuid = inboxUuid →
    ∃ g' a payload, g = g' ++ [a] ∧ a.signal? = some payload ∧
      PollSignal.isPositive payload = true
  /-- A signal that announces nothing is counted, and that is all. -/
  ignored : ∀ a acts t' payload, t.Step (a :: acts) t' → a.signal? = some payload →
    PollSignal.isPositive payload = false → acts = [] ∧
      t' = .idle { t.connection with
        signals := { t.connection.signals with
          signals := t.connection.signals.signals + 1
          ignored := t.connection.signals.ignored + 1 } }
  /-- On each tick of the timer the poll signal is read. -/
  probes : ∀ g rest, h = g ++ .take (.poll .due) :: rest →
    ∃ ch more, ch.uuid = pollSignalUuid ∧ rest = .call (.read ch) :: more
  /-- It is read for no other reason. -/
  probed : ∀ g ch rest, h = g ++ .call (.read ch) :: rest → ch.uuid = pollSignalUuid →
    ∃ g', g = g' ++ [.take (.poll .due)]
  /-- Nothing else is read. -/
  reads : ∀ ch, .read ch ∈ h.calls → ch.uuid = inboxUuid ∨ ch.uuid = pollSignalUuid
  /-- A connection that is notified never reads the poll signal. -/
  notified : options.pollMode = .notify → .take (.poll .due) ∉ h ∧
    ∀ ch, .read ch ∈ h.calls → ch.uuid ≠ pollSignalUuid
  /-- A connection that polls by a timer subscribes to nothing, and is not notified. -/
  timed : ∀ period, options.pollMode = .interval period → (∀ ch, .subscribe ch ∉ h.calls) ∧
    ∀ tick, .take (.poll tick) ∈ h → tick = .due
  /-- The signals that came are counted. -/
  counted : t.connection.signals.signals = h.signals.length ∧
    t.connection.signals.reads = h.signals.countP PollSignal.isPositive ∧
    t.connection.signals.ignored = h.signals.countP (fun p => !PollSignal.isPositive p) ∧
    t.connection.signals.signals = t.connection.signals.reads + t.connection.signals.ignored

namespace Run

/-- A read belongs to a signal or to a tick. -/
theorem read_cases {ch : Characteristic} (run : Run options h t)
    (is : h = g ++ .call (.read ch) :: rest) :
    (ch.uuid = inboxUuid ∧ ∃ g' a payload, g = g' ++ [a] ∧ a.signal? = some payload ∧
      PollSignal.isPositive payload = true) ∨
    (ch.uuid = pollSignalUuid ∧ options.pollMode ≠ .notify ∧
      ∃ g', g = g' ++ [.take (.poll .due)]) := by
  obtain ⟨d, resume, made⟩ := run.made is
  rcases made.transfers with
    ⟨other, -⟩ | ⟨g', x, part, c, channel, split, before, awaits, inUse, t⟩
  · exact (other trivial).elim
  obtain ⟨ready, inbox, pollSignal⟩ := before.serving inUse
  rw [← List.cons_append, ← List.append_assoc] at split
  obtain ⟨rfl, -⟩ := List.append_inj' split rfl
  cases t with
  | @notified payload _ some =>
    rw [PollSignal.isSome_announced?] at some
    exact .inl ⟨inbox, g', _, payload, rfl, rfl, some⟩
  | probe =>
    have mode := awaits.2
    rw [before.at_rest.deeds.configured] at mode
    exact .inr ⟨pollSignal, mode, g', rfl⟩
  | @probed payload _ time some =>
    rw [PollSignal.isSome_announced?] at some
    exact .inl ⟨inbox, _, _, payload, (List.append_assoc g' [_, _] [_]).symm,
      Act.signal?_read pollSignal, some⟩

theorem polls_of_due (run : Run options h t) (taken : .take (.poll .due) ∈ h) :
    options.pollMode ≠ .notify := by
  obtain ⟨g, rest, is⟩ := List.append_of_mem taken
  obtain ⟨c, before, awaits, -⟩ := run.exists_turn is
  rw [← before.at_rest.deeds.configured]
  exact awaits.2

theorem polls_of_notified {tick : PollTick} (run : Run options h t)
    (taken : .take (.poll tick) ∈ h) (other : tick ≠ .due) : options.pollMode = .notify := by
  obtain ⟨g, rest, is⟩ := List.append_of_mem taken
  obtain ⟨c, before, awaits, -⟩ := run.exists_turn is
  rw [← before.at_rest.deeds.configured]
  cases tick with
  | due => exact (other rfl).elim
  | signal | ended => exact awaits.2

/-- A connection subscribes only to be notified. -/
theorem polls_of_subscribe {ch : Characteristic} (mode : options.pollMode ≠ .interval 0)
    (run : Run options h t) (called : .subscribe ch ∈ h.calls) : options.pollMode = .notify := by
  obtain ⟨more, c, steady⟩ := run.exists_steady mode
  obtain ⟨xs, course, whole⟩ := steady.stage.exists_course
  have called : .subscribe ch ∈ xs.map Exchange.call := by
    refine (whole.map _).subset ?_
    rw [← steady.answered, History.calls_append]
    exact List.mem_append_left _ called
  generalize options.pollMode = mode at course
  have hangUp {ys : List Exchange} {r : Except LinkError Unit}
      (called : LinkCall.subscribe ch ∈
        (ys ++ [(⟨.disconnect, r⟩ : Exchange)]).map Exchange.call) :
      .subscribe ch ∈ ys.map Exchange.call := by
    simpa using called
  cases course with
  | unconnected => cases called
  | failed setback =>
    have called := hangUp called
    cases setback <;> simp_all
  | served handshake transfers =>
    have called := hangUp called
    rw [List.map_append] at called
    rcases List.mem_append.1 called with called | called
    · cases handshake <;> simp_all
    · obtain ⟨y, hy, is⟩ := List.mem_map.1 called
      have transfer := transfers y hy
      rw [is] at transfer
      cases transfer

theorem mem_calls {l : LinkCall} (called : l ∈ h.calls) : ∃ g rest, h = g ++ .call l :: rest := by
  obtain ⟨a, ha, is⟩ := List.mem_filterMap.1 called
  cases a <;> cases is
  exact List.append_of_mem ha

/-- Each signal that announces something is followed by one read of the inbox, and no other signal
changes anything. -/
theorem oneReadEach (mode : options.pollMode ≠ .interval 0) (run : Run options h t) :
    OneReadEach options h t where
  read g a rest payload is brings positive := by
    have prompts : a.Prompts := by
      cases a with
      | take | answer => trivial
      | call | tell => cases brings
    obtain ⟨t₀, acts, t₁, later, before, step, rfl⟩ := run.at_prompt is prompts
    obtain ⟨channel, inUse, ready, inbox, rfl, -⟩ := before.step_signal step brings
    obtain ⟨resume, handles, -⟩ := run_signal inUse ready
      ((PollSignal.isSome_announced? payload).trans positive)
    rw [handles]
    exact ⟨channel.inbox, later, inbox, rfl⟩
  caused g ch rest is inbox := by
    rcases run.read_cases is with ⟨-, caused⟩ | ⟨pollSignal, -⟩
    · exact caused
    · rw [inbox] at pollSignal
      exact absurd pollSignal (by decide)
  ignored a acts t' payload step brings nothing := by
    obtain ⟨channel, inUse, ready, -, rfl, rfl⟩ := run.step_signal step brings
    have none : PollSignal.announced? payload = none := by
      rw [← Option.not_isSome_iff_eq_none, PollSignal.isSome_announced?, nothing]
      nofun
    rw [run_signal_ignored inUse ready none, Connection.counted, SignalTally.count, none]
    exact ⟨rfl, rfl⟩
  probes g rest is := by
    obtain ⟨t₀, acts, t₁, later, before, step, rfl⟩ := run.at_prompt is trivial
    cases step with
    | @take c x awaits =>
      obtain ⟨channel, inUse⟩ := Option.isSome_iff_exists.1 awaits.1
      obtain ⟨ready, -, pollSignal⟩ := before.serving inUse
      obtain ⟨resume, handles, -⟩ := run_due inUse ready
      rw [handles]
      exact ⟨channel.pollSignal, later, pollSignal, rfl⟩
  probed g ch rest is pollSignal := by
    rcases run.read_cases is with ⟨inbox, -⟩ | ⟨-, -, probed⟩
    · rw [pollSignal] at inbox
      exact absurd inbox (by decide)
    · exact probed
  reads ch called := by
    obtain ⟨g, rest, is⟩ := mem_calls called
    exact (run.read_cases is).imp And.left And.left
  notified notify := by
    refine ⟨fun taken => run.polls_of_due taken notify, fun ch called pollSignal => ?_⟩
    obtain ⟨g, rest, is⟩ := mem_calls called
    rcases run.read_cases is with ⟨inbox, -⟩ | ⟨-, timed, -⟩
    · rw [pollSignal] at inbox
      exact absurd inbox (by decide)
    · exact timed notify
  timed period timed := by
    refine ⟨fun ch called => ?_, fun tick taken => ?_⟩
    · cases timed.symm.trans (run.polls_of_subscribe mode called)
    · by_contra other
      cases timed.symm.trans (run.polls_of_notified taken other)
  counted := by
    rw [run.signals, SignalTally.foldl_count]
    refine ⟨Nat.zero_add _, Nat.zero_add _, Nat.zero_add _, ?_⟩
    simpa using List.length_eq_countP_add_countP (l := h.signals) PollSignal.isPositive

/-- A notification is read for. -/
theorem oneReadEach_notified :
    (sampleOptions 64).pollMode ≠ .interval 0 ∧ ∃ h t, Run (sampleOptions 64) h t ∧
      h.signals = [PollSignal.announcement 5] ∧ OneReadEach (sampleOptions 64) h t := by
  have mode : (sampleOptions 64).pollMode ≠ .interval 0 := by decide
  have reading := (Run.sample 64).step
    (.take (s := .poll (.signal (PollSignal.announcement 5))) ⟨rfl, rfl⟩)
  exact ⟨mode, _, _, reading, rfl, oneReadEach mode reading⟩

end Run

end Connection

end GattRpc
