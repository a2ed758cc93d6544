import GattRpc.Proofs.Connection.Closing
import GattRpc.Proofs.Connection.HangUp

/-! # Requests that wait for too long

Only a sweep fails requests because of their age, and each sweep fails all that have waited for long
enough, in the order of their ids (`Connection.Run.swept`). A connection that is closed is not swept
any more. Times are taken to be in order. -/

namespace GattRpc

/-- The time at which it was done, as far as the task has seen a clock. -/
@[simp] def Act.time? : Act → Option Nat
  | take (.sweep now) => some now
  | answer _ a => some a.time
  | take _ | call _ | tell _ => none

/-- No callback is told that its request is too old. -/
def Act.Untimed : Act → Prop
  | tell (.settled y) => ∀ id, y.outcome ≠ .failed (.timedOut id)
  | take _ | call _ | answer _ _ | tell _ => True

namespace History

/-- The times that the task has seen. -/
def times (h : History) : List Nat := h.filterMap Act.time?

/-- Time does not go back. -/
def Timely (h : History) : Prop := h.times.Pairwise (· ≤ ·)

/-- What a sweep tells those who have waited for too long. -/
def expiries (ps : List Pending) : History :=
  ps.map fun p => .tell (.settled (p.settle (.failed (.timedOut p.id))))

/-- All that a sweep does: if anyone was told, then what is left is shown. -/
def sweeps (ps : List Pending) (s : LinkStatus) : History :=
  expiries ps ++ if ps = [] then [] else [.tell (.shown s)]

end History

open Connection History

variable {options : Options} {u : Option Stimulus} {c c' d : Connection} {f g h own rest : History}
  {x : Stimulus} {t : Standing} {p q : Pending} {y : Settlement} {now timeout : Nat}
  {id : RequestId}

/-! ### Which reactions let requests expire -/

namespace Connection

theorem untimed_farewell {reason : CloseReason} :
    ∀ a ∈ (c.farewell reason).map Act.tell, a.Untimed :=
  forall_farewell (fun _ => trivial) (fun _ => nofun) (fun _ => trivial) trivial trivial

theorem Shuts.untimed {reason : CloseReason} (s : c.Shuts reason h c') : ∀ a ∈ h, a.Untimed := by
  cases s with
  | already => exact List.forall_mem_nil _
  | now state hangsUp =>
    refine List.forall_mem_append.2 ⟨?_, untimed_farewell⟩
    cases hangsUp <;> simp [Act.Untimed]

theorem NotesError.untimed {e : LinkError} (n : c.NotesError e h c') : ∀ a ∈ h, a.Untimed := by
  cases n with
  | harmless => exact List.forall_mem_singleton.2 trivial
  | fatal fatal shuts => exact List.forall_mem_cons.2 ⟨trivial, shuts.untimed⟩

theorem StartsPolling.untimed {channel : Channel} {r : Except LinkError Unit}
    (s : c.StartsPolling channel h r) : ∀ a ∈ h, a.Untimed := by
  cases s <;> simp [Act.Untimed]

theorem FindsService.untimed {r : Except RpcError Unit} (s : c.FindsService h r c') :
    ∀ a ∈ h, a.Untimed := by
  rcases s with ⟨-, shuts⟩ | ⟨-, -, shuts⟩ | ⟨-, -, starts, shuts⟩ | ⟨-, -, starts⟩
  all_goals
    simp only [List.forall_mem_cons, List.forall_mem_append]
  · exact ⟨trivial, trivial, trivial, shuts.untimed⟩
  · exact ⟨trivial, trivial, trivial, shuts.untimed⟩
  · exact ⟨trivial, trivial, starts.untimed, trivial, shuts.untimed⟩
  · exact ⟨trivial, trivial, starts.untimed, trivial, trivial, List.forall_mem_nil _⟩

theorem Establishes.untimed {r : Except RpcError Unit} (s : c.Establishes h r c') :
    ∀ a ∈ h, a.Untimed := by
  cases s with
  | already | refused => exact List.forall_mem_nil _
  | unreachable state result shuts =>
    simp only [List.forall_mem_cons]
    exact ⟨trivial, trivial, trivial, trivial, trivial, shuts.untimed⟩
  | connected state result finds =>
    simp only [List.forall_mem_cons]
    exact ⟨trivial, trivial, trivial, trivial, trivial, trivial, trivial, finds.untimed⟩

theorem Sends.untimed {method : String} {params : Json} {callback : Option Callback}
    {r : Except RpcError RequestId} (s : c.Sends method params callback h r c') :
    ∀ a ∈ h, a.Untimed := by
  have drops (ds : List Callback) : ∀ a ∈ (ds.map Output.discarded).map Act.tell, a.Untimed := by
    simp [Act.Untimed]
  cases s with
  | refused => exact drops _
  | failed state inUse is a result notes =>
    simp only [List.forall_mem_cons, List.forall_mem_append]
    exact ⟨trivial, trivial, notes.untimed, drops _⟩
  | written =>
    simp only [List.forall_mem_cons, List.forall_mem_append]
    exact ⟨trivial, trivial, drops _, trivial, List.forall_mem_nil _⟩

theorem Pulls.untimed {channel : Channel} (s : c.Pulls channel h c') : ∀ a ∈ h, a.Untimed := by
  cases s with
  | received a result delivers =>
    rw [List.forall_mem_cons, List.forall_mem_cons]
    exact ⟨trivial, trivial, delivers.forall_received (fun _ => trivial) (fun _ _ => nofun)
      (fun _ => trivial) (fun _ _ => trivial) trivial⟩
  | failed a result notes =>
    simp only [List.forall_mem_cons]
    exact ⟨trivial, trivial, notes.untimed⟩

theorem Signals.untimed {channel : Channel} {payload : List UInt8}
    (s : c.Signals channel payload h c') : ∀ a ∈ h, a.Untimed := by
  cases s with
  | ignored => exact List.forall_mem_nil _
  | announced something pulls => exact pulls.untimed

theorem Polls.untimed {channel : Channel} {tick : PollTick} (s : c.Polls channel tick h c') :
    ∀ a ∈ h, a.Untimed := by
  cases s with
  | signal signals => exact signals.untimed
  | due a result signals =>
    simp only [List.forall_mem_cons]
    exact ⟨trivial, trivial, signals.untimed⟩
  | failed a result notes =>
    simp only [List.forall_mem_cons]
    exact ⟨trivial, trivial, notes.untimed⟩
  | ended shuts => exact shuts.untimed

theorem Reacts.untimed (reacts : c.Reacts x own d) (other : ∀ now, x ≠ .sweep now) :
    ∀ a ∈ own, a.Untimed := by
  cases reacts with
  | connect establishes =>
    exact List.forall_mem_append.2 ⟨establishes.untimed, List.forall_mem_singleton.2 trivial⟩
  | send sends =>
    exact List.forall_mem_append.2 ⟨sends.untimed, List.forall_mem_singleton.2 trivial⟩
  | close shuts =>
    exact List.forall_mem_append.2 ⟨shuts.untimed, List.forall_mem_singleton.2 trivial⟩
  | clientsGone shuts | linkLost shuts => exact shuts.untimed
  | poll inUse polls => exact polls.untimed
  | sweep | unlimited => exact (other _ rfl).elim

end Connection

/-! ### Times -/

namespace History

theorem times_append : times (g ++ h) = times g ++ times h := List.filterMap_append

theorem times_eq_nil (quiet : ∀ a ∈ h, ¬ a.Prompts) : times h = [] := by
  refine List.filterMap_eq_nil_iff.2 fun a ha => ?_
  cases a with
  | take | answer => exact (quiet _ ha trivial).elim
  | call | tell => rfl

/-- A request is registered at the time at which it was written. -/
theorem Registers.since_mem (r : h.Registers p) : p.since ∈ h.times := by
  cases r with
  | written is a result => exact List.mem_filterMap.2 ⟨.answer _ a, by simp, rfl⟩

theorem Timely.of_prefix (k : h.Timely) (begins : g <+: h) : g.Timely := by
  obtain ⟨more, rfl⟩ := begins
  unfold Timely at k
  rw [times_append] at k
  exact (List.pairwise_append.1 k).1

/-- Who waits when a sweep comes was registered before it. -/
theorem Timely.since_le (k : Timely (g ++ .take (.sweep now) :: rest)) (w : g.Waits p) :
    p.since ≤ now := by
  obtain ⟨f, f', rfl, registers, -⟩ := w.exists_registers
  unfold Timely at k
  rw [times_append, times_append] at k
  have apart := (List.pairwise_append.1 k).2.2
  refine apart p.since (List.mem_append_left _ registers.since_mem) now ?_
  exact List.mem_filterMap.2 ⟨_, List.mem_cons_self, rfl⟩

/-- A registration ends with an answer, and not with what a sweep does. -/
theorem Registers.before_sweep {m k : History} {ps : List Pending} (r : f.Registers p)
    (split : f ++ m = k ++ .take (.sweep now) :: expiries ps) :
    ∃ as, k = f ++ as ∧ m = as ++ .take (.sweep now) :: expiries ps := by
  rcases List.append_eq_append_iff.1 split with ⟨as, k_eq, m_eq⟩ | ⟨as, rfl, part⟩
  · exact ⟨as, k_eq, m_eq⟩
  · rcases as.eq_nil_or_concat with rfl | ⟨as, a, rfl⟩
    · exact ⟨[], by simp, part.symm⟩
    · rw [List.concat_eq_append, ← List.append_assoc] at r
      have writes := r.writes
      have mem : a ∈ .take (.sweep now) :: expiries ps := by
        rw [part]
        simp
      rcases List.mem_cons.1 mem with rfl | mem
      · exact writes.elim
      · obtain ⟨q, -, rfl⟩ := List.mem_map.1 mem
        exact writes.elim

end History

/-! ### Sweeps -/

namespace Connection

theorem expiry_eq_sweeps : (c.expiry now timeout).map Act.tell =
    sweeps (c.correlator.outstanding.filter fun p => timeout ≤ p.age now)
      (c.expired now timeout).status := by
  have told : (c.correlator.expire now timeout).2 = (c.correlator.outstanding.filter
      fun p => timeout ≤ p.age now).map fun p => p.settle (.failed (.timedOut p.id)) := rfl
  unfold expiry sweeps
  generalize (c.expired now timeout).status = s
  rw [told]
  generalize c.correlator.outstanding.filter (fun p => timeout ≤ p.age now) = ps
  cases ps <;> simp [expiries, Function.comp_def]

theorem Reacts.expires (reacts : c.Reacts (.sweep now) own d)
    (limited : c.options.requestTimeout = some timeout) :
    own = sweeps (c.correlator.outstanding.filter fun p => timeout ≤ p.age now)
      (c.expired now timeout).status := by
  cases reacts with
  | sweep limited' =>
    rw [limited] at limited'
    cases limited'
    exact expiry_eq_sweeps
  | unlimited unlimited =>
    rw [limited] at unlimited
    cases unlimited

/-- What a sweep tells, it tells of one request after the other. -/
theorem settled_of_sweeps {ps : List Pending} {s : LinkStatus} {part more : History}
    (told : part ++ .tell (.settled y) :: more = sweeps ps s) :
    ∃ qs p qs', ps = qs ++ p :: qs' ∧ part = expiries qs ∧
      Act.tell (.settled (p.settle (.failed (.timedOut p.id)))) = .tell (.settled y) := by
  have silent (bs : History) : (if ps = [] then [] else [Act.tell (.shown s)]) ≠
      bs ++ .tell (.settled y) :: more := by
    intro is
    have mem : Act.tell (.settled y) ∈ if ps = [] then [] else [Act.tell (.shown s)] := by
      rw [is]
      exact List.mem_append_right _ List.mem_cons_self
    split at mem <;> simp at mem
  rcases List.append_eq_append_iff.1 told.symm with ⟨bs, -, is⟩ | ⟨as, all, is⟩
  · exact (silent _ is).elim
  · cases as with
    | nil => exact (silent [] is.symm).elim
    | cons a as =>
      obtain ⟨rfl, -⟩ := List.cons.inj is
      obtain ⟨qs, rest, rfl, rfl, last⟩ := List.map_eq_append_iff.1 all
      obtain ⟨p, qs', rfl, is, -⟩ := List.map_eq_cons_iff.1 last
      exact ⟨qs, p, qs', rfl, rfl, is⟩

namespace Run

/-- A sweep is over before the next stimulus comes, and before anything else is done. -/
theorem exists_sweep (run : Run options (g ++ .take (.sweep now) :: rest) t) :
    ∃ c own later d, Run options g (.idle c) ∧ c.Awaits (.sweep now) ∧ rest = own ++ later ∧
      c.Reacts (.sweep now) own d ∧ ∀ a ∈ later.head?, ∃ y, a = .take y := by
  obtain ⟨c, before, awaits, turn⟩ := run.exists_turn rfl
  cases turn with
  | @past own later y d _ reacts => exact ⟨c, own, _, d, before, awaits, rfl, reacts, by simp⟩
  | amid reaches =>
    have quick : (handle (.sweep now)).Quick := quick_sweep
    obtain ⟨v, d, out, ends, -⟩ := quick c
    rw [ends] at reaches
    cases reaches with
    | here =>
      have ends' : (handle (.sweep now)).Ends c (out.map .tell) v d := by
        show (handle (.sweep now) c).Ends _ v d
        rw [ends]
        exact .done
      obtain ⟨d', reacts, -⟩ := reacts_of_ends awaits ends'
      exact ⟨c, _, [], d', before, awaits, (List.append_nil _).symm, reacts,
        fun _ first => by cases first⟩

/-- A sweep fails just those that have waited for long enough. -/
theorem swept (run : Run options (g ++ .take (.sweep now) :: rest) t)
    (timely : Timely (g ++ .take (.sweep now) :: rest))
    (limited : options.requestTimeout = some timeout) :
    g.state ≠ .closed ∧ ∃ ps s later, rest = sweeps ps s ++ later ∧
      (∀ p, p ∈ ps ↔ g.Waits p ∧ p.since + timeout ≤ now) ∧ Pending.Ascending ps ∧
        ∀ a ∈ later.head?, ∃ y, a = .take y := by
  obtain ⟨c, own, later, d, before, awaits, rfl, reacts, next⟩ := run.exists_sweep
  have r := before.at_rest
  refine ⟨?_, c.correlator.outstanding.filter fun p => timeout ≤ p.age now,
    (c.expired now timeout).status, later, ?_, ?_, ?_, next⟩
  · rw [r.steady.entered]
    exact r.sweeping awaits
  · rw [reacts.expires (r.deeds.configured ▸ limited)]
  · intro p
    rw [List.mem_filter, decide_eq_true_eq, r.deeds.recorded.table]
    refine and_congr_right fun w => ?_
    have since := timely.since_le w
    unfold Pending.age
    omega
  · exact c.correlator.ascending.filter _

/-- Whoever is told that a request is too old is told so by a sweep. -/
theorem timed_out (run : Run options h t) (told : g ++ [.tell (.settled y)] <+: h)
    (outcome : y.outcome = .failed (.timedOut id)) :
    ∃ k now timeout ps p, options.requestTimeout = some timeout ∧
      g = k ++ .take (.sweep now) :: expiries ps ∧ k.Waits p ∧ timeout ≤ p.age now ∧
        y = p.settle (.failed (.timedOut p.id)) := by
  obtain ⟨after, rfl⟩ := told
  rw [List.append_assoc] at run
  obtain ⟨k, x, c, part, rfl, before, awaits, ⟨more, later, d, -, reacts, -⟩ | neutral⟩ := run.told
  · have r := before.at_rest
    by_cases swept : ∃ now, x = .sweep now
    · obtain ⟨now, rfl⟩ := swept
      cases limited : options.requestTimeout with
      | none =>
        have unlimited := r.deeds.configured ▸ limited
        generalize all : part ++ .tell (.settled y) :: more = own at reacts
        cases reacts with
        | sweep limited' =>
          rw [unlimited] at limited'
          cases limited'
        | unlimited => simp at all
      | some timeout =>
        have all := reacts.expires (r.deeds.configured ▸ limited)
        obtain ⟨ps, p, qs', split, rfl, is⟩ := settled_of_sweeps all
        have mem : p ∈ c.correlator.outstanding.filter fun p => timeout ≤ p.age now := by
          rw [split]
          exact List.mem_append_right _ List.mem_cons_self
        obtain ⟨waits, old⟩ := List.mem_filter.1 mem
        refine ⟨k, now, timeout, ps, p, rfl, rfl, (r.deeds.recorded.table p).1 waits, ?_, ?_⟩
        · exact of_decide_eq_true old
        · cases is
          rfl
    · have untimed := reacts.untimed (not_exists.1 swept)
      exact (untimed (.tell (.settled y)) (List.mem_append_right _ List.mem_cons_self) id
        outcome).elim
  · exact neutral.elim

/-- Once a request is too old, a response to it comes to nobody. -/
theorem orphaned_late {ms : List Json} {m : Json} {before : History} {o : Output} {r : Response}
    (run : Run options h t) (room : h.frames.length < UInt64.size)
    (outcome : y.outcome = .failed (.timedOut id))
    (earlier : g ++ [.tell (.settled y)] <+: before) (routes : h.Routes options ms m before o)
    (is : Inbound.classify m = .response r) (same : r.id = id) :
    o = .event (.orphanResponse id) := by
  obtain ⟨u, deeds⟩ := run.exists_deeds
  have begins : before <+: h := (List.prefix_append _ _).trans routes.told
  obtain ⟨k, now, timeout, ps, p, -, rfl, waits, -, rfl⟩ :=
    run.timed_out (earlier.trans begins) outcome
  obtain rfl : p.id = id := by
    cases outcome
    rfl
  refine (deeds.answering.orphaned ms m before o _ routes).2 ⟨r, is, same, fun q w recurs => ?_⟩
  obtain ⟨f, f', rfl, registers, -⟩ := waits.exists_registers
  obtain ⟨later, late, rfl, registers', kept⟩ := w.exists_registers
  have few : later.frames.length < UInt64.size := by
    obtain ⟨rest, rfl⟩ := begins
    rw [frames_append, frames_append, List.length_append, List.length_append] at room
    omega
  -- It was registered after the other one was freed, when ids have gone on.
  rcases List.prefix_or_prefix_of_prefix earlier (List.prefix_append later late) with all | part
  · obtain ⟨rest, rfl⟩ := all
    have id_ne := registers.id_ne (h := f' ++ .take (.sweep now) :: expiries ps ++
      [.tell (.settled (p.settle (.failed (.timedOut p.id))))] ++ rest) (q := q)
    simp only [List.append_assoc] at id_ne registers' few
    exact id_ne registers' (by simp) few recurs
  · obtain ⟨rest, split⟩ := part
    rcases rest.eq_nil_or_concat with rfl | ⟨rest, a, rfl⟩
    · rw [List.append_nil] at split
      rw [split] at registers'
      exact registers'.writes.elim
    · rw [List.concat_eq_append, ← List.append_assoc] at split
      obtain ⟨split, last⟩ := List.append_inj' split rfl
      cases last
      rw [← split, List.append_assoc] at earlier
      have mem := ((List.prefix_append_right_inj later).1 earlier).subset
        (List.mem_append_right _ List.mem_cons_self)
      exact kept _ mem recurs.symm

/-! ### A request that was not answered -/

theorem uncancelled (run : Run options h t) (unclosed : t.connection.state ≠ .closed)
    (told : .settled y ∈ h.outputs) {reason : CloseReason} :
    y.outcome ≠ .failed (.cancelled reason) := by
  intro cancelled
  obtain ⟨u, deeds⟩ := run.exists_deeds
  have recorded := deeds.cancelled y told cancelled
  exact unclosed (run.agrees.closeReason.1 (by rw [recorded]; rfl))

theorem never_closed (run : Run options h (.idle c)) (unclosed : c.state ≠ .closed) :
    .tell (.event (.stateChanged .closed)) ∉ h := by
  intro told
  obtain ⟨before, after, rfl⟩ := List.append_of_mem told
  rw [List.append_cons] at run
  have steady := run.at_rest.steady
  have closed : History.state (before ++ [.tell (.event (.stateChanged .closed))]) = .closed := by
    simp [History.state]
  have quiet := Moves.closed_last steady.moves closed
  refine unclosed ?_
  rw [← steady.entered, state_append_of_nil quiet, closed]

/-- A request that has waited all the time fails on a sweep that finds it too old. -/
theorem late_of_timed_out {m : History} (run : Run options h t) (timely : Timely h)
    (limited : options.requestTimeout = some timeout) (registers : f.Registers p)
    (told : f ++ m ++ [.tell (.settled y)] <+: h)
    (waits : ∀ m₀ : History, m₀ <+: m → (f ++ m₀).Waits p)
    (timedOut : y.outcome = .failed (.timedOut y.request.id)) (same : y.request.id = p.id) :
    ∃ now, .take (.sweep now) ∈ m ∧ p.since + timeout ≤ now := by
  obtain ⟨k, now, timeout', ps, q, limited', split, w, old, rfl⟩ := run.timed_out told timedOut
  rw [limited] at limited'
  cases limited'
  obtain ⟨as, rfl, rfl⟩ := registers.before_sweep split
  obtain rfl := w.unique (waits as (List.prefix_append _ _)) same
  refine ⟨now, by simp, ?_⟩
  obtain ⟨more, rfl⟩ := told
  simp only [List.append_assoc, List.cons_append] at timely
  rw [← List.append_assoc] at timely
  have since := timely.since_le w
  unfold Pending.age at old
  omega

/-- A request that was not answered waits until the first sweep that finds it too old. -/
theorem waits_for_sweep {mid : History}
    (run : Run options (f ++ mid ++ .take (.sweep now) :: rest) t)
    (room : (f ++ mid).frames.length < UInt64.size)
    (timely : Timely (f ++ mid ++ .take (.sweep now) :: rest))
    (limited : options.requestTimeout = some timeout) (registers : f.Registers p)
    (younger : ∀ now', .take (.sweep now') ∈ mid → now' < p.since + timeout)
    (unanswered : ∀ y r, .tell (.settled y) ∈ mid → y.request.id = p.id → y.outcome ≠ .answered r) :
    (f ++ mid).Waits p := by
  obtain ⟨c, -, -, -, before, awaits, -⟩ := run.exists_sweep
  have rests := before.at_rest
  have unclosed := rests.sweeping awaits
  have timely : Timely (f ++ mid) := timely.of_prefix (List.prefix_append _ _)
  suffices kept : ∀ m, m <+: mid → ∀ a ∈ m, ¬ a.Frees p.id from
    (waits_iff room).2 ⟨f, mid, rfl, registers, kept mid List.prefix_rfl⟩
  -- As long as nothing has freed the request it waits, so the next act does not free it either.
  intro m
  induction m using List.reverseRecOn with
  | nil => exact fun _ => nofun
  | append_singleton m a ih =>
    intro begins
    have kept := ih ((List.prefix_append _ _).trans begins)
    refine List.forall_mem_append.2 ⟨kept, List.forall_mem_singleton.2 fun frees => ?_⟩
    have mem : a ∈ mid := begins.subset (List.mem_append_right _ List.mem_cons_self)
    have told : f ++ m ++ [a] <+: f ++ mid := by
      rw [List.append_assoc]
      exact (List.prefix_append_right_inj f).2 begins
    have waits (m₀ : History) (part : m₀ <+: m) : (f ++ m₀).Waits p := by
      refine (waits_iff ?_).2 ⟨f, m₀, rfl, registers, fun b hb => kept b (part.subset hb)⟩
      obtain ⟨more, rfl⟩ := part.trans ((List.prefix_append _ _).trans begins)
      rw [← List.append_assoc, frames_append, List.length_append] at room
      omega
    have fair := rests.deeds.fair.of_prefix told
    cases a with
    | take | call | answer => exact frees
    | tell o =>
      cases o with
      | shown | discarded | reply => exact frees
      | settled y =>
        rcases fair with ⟨q, r, -, -, is⟩ | timedOut | ⟨reason, cancelled⟩
        · refine unanswered y r mem frees ?_
          rw [is]
          rfl
        · obtain ⟨now', swept, old⟩ :=
            before.late_of_timed_out timely limited registers told waits timedOut frees
          have young := younger now' (begins.subset (List.mem_append_left _ swept))
          omega
        · refine before.uncancelled unclosed ?_ cancelled
          exact mem_outputs.2 (List.mem_append_right _ mem)
      | event e =>
        cases e with
        | notification | frameDropped | closed => exact frees
        | orphanResponse => exact fair p (waits m List.prefix_rfl) frees.symm
        | stateChanged s =>
          cases s with
          | disconnected | connecting | discovering | ready => exact frees
          | closed => exact before.never_closed unclosed (List.mem_append_right _ mem)

end Run

end Connection

end GattRpc
