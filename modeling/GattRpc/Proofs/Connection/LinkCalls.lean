import GattRpc.Proofs.Connection.Replies

/-! # The discipline of the link calls

Whatever happens to a task, it calls the link in one of the orders that `Course` allows, each call
in the state that it belongs to. A connection that is closed has hung up once if it ever connected,
and calls nothing any more (`Connection.Run.disciplined`). -/

namespace GattRpc

/-- What a run has called so far, and how its state has moved. -/
structure Disciplined (options : Options) (h : History) (t : Standing) : Prop where
  /-- The calls are the beginning of a whole course, which agrees with what the link answered. -/
  course : ∃ xs, Course options.pollMode xs ∧ h.exchanges <+: xs ∧ h.calls <+: xs.map Exchange.call
  connects_once : h.calls.count .connect ≤ 1
  disconnects_once : h.calls.count .disconnect ≤ 1
  /-- A call is made in the state that was entered last before it. -/
  belongs : ∀ (g : History) l rest, h = g ++ .call l :: rest → l.In g.state
  moves : List.IsChain Moves (.disconnected :: h.states)
  entered : h.state = t.connection.state
  hung_up : t.connection.state = .closed → h.calls.count .disconnect = h.calls.count .connect
  /-- A closed connection stays closed, and calls nothing. -/
  stays_closed : t.connection.state = .closed → ∀ more t', t.Path more t' →
    more.calls = [] ∧ more.states = [] ∧ t'.connection.state = .closed

/-! ### Counting calls -/

/-- How often the link is connected and disconnected in a list of calls. -/
structure Attempts (ls : List LinkCall) (connects disconnects : Nat) : Prop where
  connects : ls.count .connect = connects
  disconnects : ls.count .disconnect = disconnects

section Attempts

variable {mode : PollMode} {channel : Channel} {xs : List Exchange} {ls : List LinkCall}

theorem Handshake.attempts (x : Handshake mode channel xs) :
    Attempts (xs.map Exchange.call) 1 0 := by
  cases x <;> exact ⟨rfl, rfl⟩

theorem Setback.attempts (x : Setback mode xs) : Attempts (xs.map Exchange.call) 1 0 := by
  cases x <;> exact ⟨rfl, rfl⟩

theorem Transfer.attempts (x : ∀ y ∈ xs, Transfer mode channel y.call) :
    Attempts (xs.map Exchange.call) 0 0 := by
  constructor <;> refine List.count_eq_zero.2 fun h => ?_
  all_goals
    obtain ⟨y, hy, call⟩ := List.mem_map.1 h
    have transfer := x y hy
    rw [call] at transfer
    cases transfer

theorem Attempts.append {ls' : List LinkCall} {m n m' n' : Nat} (a : Attempts ls m n)
    (b : Attempts ls' m' n') : Attempts (ls ++ ls') (m + m') (n + n') := by
  constructor
  · rw [List.count_append, a.connects, b.connects]
  · rw [List.count_append, a.disconnects, b.disconnects]

/-- A whole course connects and disconnects at most once, and one as often as the other. -/
theorem Course.attempts (x : Course mode xs) : ∃ n ≤ 1, Attempts (xs.map Exchange.call) n n := by
  have hangUp {r : Except LinkError Unit} :
      Attempts ([⟨.disconnect, r⟩].map Exchange.call) 0 1 := ⟨rfl, rfl⟩
  cases x with
  | unconnected => exact ⟨0, Nat.zero_le 1, rfl, rfl⟩
  | failed setback =>
    rw [List.map_append]
    exact ⟨1, Nat.le_refl 1, setback.attempts.append hangUp⟩
  | served handshake transfers =>
    rw [List.map_append, List.map_append]
    exact ⟨1, Nat.le_refl 1,
      (handshake.attempts.append (Transfer.attempts transfers)).append hangUp⟩

end Attempts

/-! ### States -/

theorem Moves.closed_last {g h : History}
    (moves : List.IsChain Moves (.disconnected :: (g ++ h).states))
    (closed : g.state = .closed) : h.states = [] := by
  rw [History.states_append, ← List.cons_append] at moves
  cases next : h.states with
  | nil => rfl
  | cons s ss =>
    have last : (ConnectionState.disconnected :: g.states).getLast? = some g.state := by
      rw [List.getLast?_cons, History.state, List.getLastD_eq_getLast?]
    have move := (List.isChain_append.1 moves).2.2 _ last s (by rw [next]; rfl)
    rw [closed] at move
    cases move with
    | close unclosed => exact (unclosed rfl).elim

theorem LinkCall.not_in_closed (l : LinkCall) : ¬ l.In .closed := by
  cases l <;> simp [LinkCall.In]

/-! ### Runs -/

theorem Act.call_ne_tell {l : LinkCall} {out : List Output} : .call l ∉ out.map Act.tell := by
  intro h
  obtain ⟨o, -, o_eq⟩ := List.mem_map.1 h
  cases o_eq

/-- A call is the last thing that a progress does. -/
theorem Progress.call_last {p : Progress Unit} {g rest : History} {l : LinkCall}
    (acts : p.acts = g ++ .call l :: rest) :
    rest = [] ∧ ∃ c resume, p.standing = .calling c l resume := by
  have called : .call l ∈ p.acts := by rw [acts]; simp
  cases p with
  | done a c out => exact (Act.call_ne_tell called).elim
  | crashed c out => exact (Act.call_ne_tell called).elim
  | waiting c out l' resume =>
    rcases List.eq_nil_or_concat rest with rfl | ⟨rest', last, rfl⟩
    · obtain ⟨-, same⟩ := List.append_inj' acts rfl
      cases same
      exact ⟨rfl, c, resume, rfl⟩
    · rw [List.concat_eq_append, ← List.cons_append, ← List.append_assoc] at acts
      obtain ⟨told, -⟩ := List.append_inj' acts rfl
      have called : .call l ∈ out.map Act.tell := by
        rw [told]
        simp
      exact (Act.call_ne_tell called).elim

/-- A call is the last thing that a step does. -/
theorem Standing.Step.call_last {t t' : Standing} {g rest : History} {l : LinkCall}
    (step : t.Step (g ++ .call l :: rest) t') :
    rest = [] ∧ ∃ c resume, t' = .calling c l resume := by
  generalize acts : g ++ .call l :: rest = made at step
  cases step with
  | @take c x awaits =>
    cases g with
    | nil => cases acts
    | cons a g =>
      obtain ⟨last, d, resume, standing⟩ := Progress.call_last (List.cons.inj acts).2.symm
      rw [standing]
      exact ⟨last, d, resume, rfl⟩
  | @answer c l' resume a =>
    cases g with
    | nil => cases acts
    | cons b g => exact Progress.call_last (List.cons.inj acts).2.symm

namespace Connection.Run

variable {options : Options} {h more : History} {t t' : Standing}

/-- Every call was made by a task that then stood there. -/
theorem made {g rest : History} {l : LinkCall} (run : Run options h t)
    (is : h = g ++ .call l :: rest) :
    ∃ c resume, Run options (g ++ [.call l]) (.calling c l resume) := by
  induction run generalizing rest with
  | start => simp at is
  | @step h acts t t' run step ih =>
    have now (as : History) (g_eq : g = h ++ as) (acts_eq : acts = as ++ .call l :: rest) :
        ∃ c resume, Run options (g ++ [.call l]) (.calling c l resume) := by
      subst acts_eq
      obtain ⟨rfl, c, resume, rfl⟩ := step.call_last
      have run := run.step step
      rw [← List.append_assoc, ← g_eq] at run
      exact ⟨c, resume, run⟩
    rcases List.append_eq_append_iff.1 is with ⟨as, g_eq, acts_eq⟩ | ⟨bs, h_eq, rest_eq⟩
    · exact now as g_eq acts_eq
    · cases bs with
      | nil => exact now [] (by simpa using h_eq.symm) rest_eq.symm
      | cons b bs =>
        cases rest_eq
        exact ih h_eq

variable (mode : options.pollMode ≠ .interval 0) (run : Run options h t)

include mode run

theorem steady : t.Upholds (Steady options) h := by
  have u := upholds (J := fun _ _ => True) mode trivial (fun _ _ _ _ => trivial) run
  simpa using u

theorem exists_steady : ∃ more c, Steady options (h ++ more) c := by
  obtain ⟨more, c, -, -, s⟩ := (steady mode run).ahead
  exact ⟨more, c, s⟩

theorem entered : h.state = t.connection.state := by
  have u := steady mode run
  cases t with
  | idle c | ended c => exact Steady.toTraced u |>.entered
  | calling c l resume => exact u.1.entered

/-- A closed connection awaits no answer. -/
theorem awaits_stimulus (closed : t.connection.state = .closed) :
    Steady options h t.connection ∧ t.isCalling = false := by
  have u := steady mode run
  suffices idle : t.isCalling = false from ⟨u.of_idle idle, idle⟩
  cases t with
  | idle c | ended c => rfl
  | calling c l resume =>
    have belongs : l.In c.state := u.1.belongs
    rw [show c.state = .closed from closed] at belongs
    exact (l.not_in_closed belongs).elim

theorem moves : List.IsChain Moves (.disconnected :: h.states) := by
  obtain ⟨more, c, s⟩ := exists_steady mode run
  have moves := s.moves
  rw [History.states_append, ← List.cons_append] at moves
  exact moves.left_of_append

theorem belongs {g rest : History} {l : LinkCall} (is : h = g ++ .call l :: rest) :
    l.In g.state := by
  obtain ⟨c, resume, run⟩ := made run is
  have call := (steady mode run).1
  have entered := call.entered
  rw [History.state_append_of_nil rfl] at entered
  rw [entered]
  exact call.belongs

theorem states_nil_of_closed (closed : h.state = .closed) (path : t.Path more t') :
    more.states = [] :=
  Moves.closed_last (moves mode (run.append path)) closed

theorem calls_nil_of_closed (closed : h.state = .closed) (path : t.Path more t') :
    more.calls = [] := by
  have quiet := states_nil_of_closed mode run closed path
  refine List.eq_nil_iff_forall_not_mem.2 fun l hl => ?_
  obtain ⟨a, ha, call⟩ := List.mem_filterMap.1 hl
  cases a with
  | call l' =>
    cases call
    obtain ⟨g, rest, rfl⟩ := List.append_of_mem ha
    have belongs := belongs mode (run.append path) (g := h ++ g) (by rw [List.append_assoc])
    rw [History.states_append] at quiet
    rw [History.state_append_of_nil (List.append_eq_nil_iff.1 quiet).1, closed] at belongs
    exact l.not_in_closed belongs
  | take | answer | tell => cases call

theorem closed_of_closed (closed : t.connection.state = .closed) (path : t.Path more t') :
    t'.connection.state = .closed := by
  rw [← entered mode run] at closed
  have quiet := states_nil_of_closed mode run closed path
  rw [← entered mode (run.append path), History.state_append_of_nil quiet, closed]

/-- What is called is the beginning of a whole course. -/
theorem exists_course : ∃ xs, Course options.pollMode xs ∧ h.exchanges <+: xs ∧
    h.calls <+: xs.map Exchange.call := by
  -- A stage is known only where a stimulus is awaited, so the run is led on to there.
  obtain ⟨more, c, s⟩ := exists_steady mode run
  obtain ⟨xs, course, begins⟩ := s.stage.exists_course
  refine ⟨xs, course, ?_, ?_⟩
  · rw [History.exchanges_append] at begins
    exact (List.prefix_append ..).trans begins
  · have begins := begins.map Exchange.call
    rw [← s.answered, History.calls_append] at begins
    exact (List.prefix_append ..).trans begins

/-- The calls and the states of every run are in order. -/
theorem disciplined : Disciplined options h t := by
  obtain ⟨xs, course, exchanges, calls⟩ := exists_course mode run
  obtain ⟨n, once, attempts⟩ := course.attempts
  have entered := entered mode run
  refine
    { course := ⟨xs, course, exchanges, calls⟩
      connects_once := ?_
      disconnects_once := ?_
      belongs := fun g l rest is => belongs mode run is
      moves := moves mode run
      entered
      hung_up := fun closed => ?_
      stays_closed := fun closed more t' path => ?_ }
  · exact (calls.sublist.count_le _).trans (attempts.connects ▸ once)
  · exact (calls.sublist.count_le _).trans (attempts.disconnects ▸ once)
  · have s := (awaits_stimulus mode run closed).1
    have stage := s.stage
    rw [closed] at stage
    obtain ⟨n, -, attempts⟩ := stage.of_closed.1.attempts
    rw [s.answered, attempts.connects, attempts.disconnects]
  · have last := closed_of_closed mode run closed path
    rw [closed] at entered
    exact ⟨calls_nil_of_closed mode run entered path, states_nil_of_closed mode run entered path,
      last⟩

end Connection.Run

/-- A run that finds the service, and is then closed. -/
theorem Connection.Run.disciplined_closed :
    let channel : Channel := ⟨⟨inboxUuid, 1⟩, ⟨pollSignalUuid, 2⟩⟩
    ∃ h t, Run {} h t ∧
      h.calls = [.connect, .discover, .subscribe channel.pollSignal, .disconnect] ∧
      t.connection.state = .closed ∧ Disciplined {} h t := by
  intro channel
  let service : Service := ⟨rpcService, [channel.inbox, channel.pollSignal]⟩
  have idle : Run {} [] (.idle (.new {})) := .start
  have connecting := idle.step (.take (s := .command 0 .connect) trivial)
  have discovering := connecting.step (.answer (l := .connect) ⟨0, .ok "peer"⟩)
  have subscribing := discovering.step (.answer (l := .discover) ⟨0, .ok [service]⟩)
  have ready := subscribing.step (.answer (l := .subscribe channel.pollSignal) ⟨0, .ok ()⟩)
  have closing := ready.step (.take (s := .command 1 .close) trivial)
  have closed := closing.step (.answer (l := .disconnect) ⟨0, .ok ()⟩)
  exact ⟨_, _, closed, rfl, rfl, disciplined (by decide) closed⟩

end GattRpc
