import GattRpc.Proofs.Connection.Steady

/-! # What holds along a run

A task that polls at a period that is not zero never crashes, and makes each call in the state that
it belongs to. So a task that waits for an answer is amid a reaction that will end, and whatever
each reaction keeps holds whenever a stimulus is awaited (`Connection.Run.upholds`). -/

namespace GattRpc

/-- The state that a call belongs to. -/
def LinkCall.In : LinkCall → ConnectionState → Prop
  | .connect, s => s = .connecting
  | .discover, s | .subscribe _, s => s = .discovering
  | .write _ _, s | .read _, s => s = .ready
  | .disconnect, s => s ≠ .disconnected ∧ s ≠ .closed

/-- A call at which a task waits for an answer. -/
structure AtCall (h : History) (c : Connection) (l : LinkCall) : Prop where
  entered : h.state = c.state
  belongs : l.In c.state

/-- After `g`, a connection `c₀` has done `part` on the stimulus `x`, and has come so far. However
this goes on, it ends a reaction, after which `J` holds. -/
def Progress.Reacting (J : History → Connection → Prop) (g : History) (c₀ : Connection)
    (x : Stimulus) (part : History) (p : Progress Unit) : Prop :=
  p.Safe AtCall (g ++ .take x :: part) ∧ ∀ h c, p.Ends h () c →
    (∃ d, c₀.Reacts x (part ++ h) d ∧ c = d.rested) ∧ J (g ++ .take x :: (part ++ h)) c

/-- `J` holds when the task awaits a stimulus, and a task that does not is amid a reaction. -/
def Standing.Upholds (J : History → Connection → Prop) (h : History) : Standing → Prop
  | .idle c | .ended c => J h c
  | .calling c l resume =>
    AtCall h c l ∧ ∃ g c₀ x part, h = g ++ .take x :: (part ++ [.call l]) ∧ J g c₀ ∧ c₀.Awaits x ∧
      ∀ a : LinkAnswer l, (resume a).Reacting J g c₀ x (part ++ [.call l, .answer l a])

namespace Connection

open Activity

variable {c : Connection} {h : History}

theorem safe_shutdown {reason : CloseReason} (entered : h.state = c.state) :
    (shutdown reason).Safe AtCall h c := by
  rw [shutdown, safe_get_bind]
  split
  next => exact safe_pure
  next unclosed =>
    rw [safe_modify_bind]
    split
    next tried =>
      rw [safe_call_bind]
      refine ⟨⟨?_, tried, unclosed⟩, fun a => ?_⟩
      · rw [History.state_append_of_nil rfl, entered]
      · simp [releaseAll, transition, emit]
    next => simp [releaseAll, transition, emit]

theorem safe_noteLinkError {e : LinkError} (entered : h.state = c.state) :
    (noteLinkError e).Safe AtCall h c := by
  have entered : History.state (h ++ [.tell (.shown (c.blame e).status)]) = c.state := by
    rw [History.state_append_of_nil rfl, entered]
  rw [noteLinkError, safe_report_bind]
  split
  next => exact safe_shutdown entered
  next => exact safe_pure

theorem safe_failConnecting {e : LinkError} (entered : h.state = c.state) :
    (failConnecting e).Safe AtCall h c := by
  rw [failConnecting, safe_report_bind, safe_bind]
  refine ⟨safe_shutdown ?_, fun _ _ _ _ => safe_pure⟩
  rw [History.state_append_of_nil rfl, entered]

theorem safe_failConnecting_bind {e : LinkError} (entered : h.state = c.state) :
    Safe AtCall (failConnecting e >>= fun x => pure (Except.error x : Except RpcError Unit)) h c :=
  safe_bind.2 ⟨safe_failConnecting entered, fun _ _ _ _ => safe_pure⟩

theorem safe_startPolling {channel : Channel} (entered : h.state = c.state)
    (mode : c.options.pollMode ≠ .interval 0) (discovering : c.state = .discovering) :
    (startPolling channel).Safe AtCall h c := by
  rw [startPolling, safe_get_bind]
  split
  next =>
    refine safe_call_bind.2 ⟨⟨?_, discovering⟩, fun a => safe_pure⟩
    rw [History.state_append_of_nil rfl, entered]
  next zero => exact (mode zero).elim
  next => exact safe_pure

theorem StartsPolling.states {channel : Channel} {start : History} {r : Except LinkError Unit}
    (x : c.StartsPolling channel start r) : start.states = [] := by
  cases x <;> rfl

theorem safe_establish (mode : c.options.pollMode ≠ .interval 0) :
    establish.Safe AtCall h c := by
  rw [establish, safe_get_bind]
  split
  next => exact safe_pure
  next =>
    simp only [transition, emit, bind_assoc, safe_modify_bind, safe_report_bind, safe_tell_bind,
      safe_call_bind]
    refine ⟨⟨by simp [History.state], rfl⟩, fun a => ?_⟩
    split
    next => exact safe_failConnecting_bind (by simp [History.state])
    next peer _ =>
      simp only [safe_modify_bind, safe_report_bind, safe_tell_bind, safe_call_bind]
      refine ⟨⟨by simp [History.state], rfl⟩, fun a => ?_⟩
      split
      next => exact safe_failConnecting_bind (by simp [History.state])
      next =>
        split
        next =>
          rw [safe_report_bind, safe_bind]
          exact ⟨safe_shutdown (by simp [History.state]), fun _ _ _ _ => safe_pure⟩
        next channel _ =>
          rw [safe_bind]
          refine ⟨safe_startPolling (by simp [History.state]) mode rfl, fun start r d ends => ?_⟩
          obtain ⟨starts, rfl⟩ := StartsPolling.of_ends ends
          cases r with
          | error e =>
            refine safe_failConnecting_bind ?_
            rw [History.state_append_of_nil starts.states]
            simp [History.state]
          | ok => simp only [safe_modify_bind, safe_report_bind, safe_tell_bind, safe_pure]
  next => exact safe_pure

theorem safe_reportOutstanding : reportOutstanding.Safe AtCall h c := trivial

theorem safe_send {method : String} {params : Json} {callback : Option Callback}
    (entered : h.state = c.state) : (send method params callback).Safe AtCall h c := by
  rw [send, safe_get_bind]
  split
  next channel inUse ready =>
    simp only [safe_modify_bind, safe_call_bind]
    refine ⟨⟨?_, ready⟩, fun a => ?_⟩
    · rw [History.state_append_of_nil rfl, entered]
    split
    next =>
      rw [safe_bind]
      refine ⟨safe_noteLinkError ?_, fun _ _ _ _ => ?_⟩
      · rw [History.state_append_of_nil rfl, entered]
      · simp only [safe_tell_bind, safe_pure]
    next =>
      simp only [reportOutstanding, bind_assoc, safe_get_bind, safe_modify_bind, safe_tell_bind,
        safe_report_bind, safe_pure]
  next => simp only [safe_tell_bind, safe_pure]

theorem safe_route {m : Json} : (route m).Safe AtCall h c := by
  unfold route
  split
  next =>
    simp only [safe_get_bind, safe_modify_bind]
    split <;> simp [emit]
  next => exact safe_tell
  next => exact safe_pure

theorem safe_routeAll {ms : List Json} : (routeAll ms).Safe AtCall h c := by
  induction ms generalizing h c with
  | nil => exact safe_pure
  | cons m ms ih => exact safe_bind.2 ⟨safe_route, fun _ _ _ _ => ih⟩

theorem safe_signal {channel : Channel} {payload : List UInt8} (entered : h.state = c.state)
    (ready : c.state = .ready) : (signal channel payload).Safe AtCall h c := by
  rw [signal, safe_modify_bind]
  split
  next =>
    rw [safe_call_bind]
    refine ⟨⟨?_, ready⟩, fun a => ?_⟩
    · rw [History.state_append_of_nil rfl, entered]
    split
    next =>
      simp only [receive, safe_get_bind, safe_modify_bind, safe_tell_bind]
      exact safe_bind.2 ⟨safe_routeAll, fun _ _ _ _ => safe_reportOutstanding⟩
    next =>
      refine safe_noteLinkError ?_
      rw [History.state_append_of_nil rfl, entered]
  next => exact safe_pure

theorem safe_poll {channel : Channel} {tick : PollTick} (entered : h.state = c.state)
    (ready : c.state = .ready) : (poll channel tick).Safe AtCall h c := by
  cases tick with
  | signal payload => exact safe_signal entered ready
  | due =>
    rw [poll, safe_call_bind]
    refine ⟨⟨?_, ready⟩, fun a => ?_⟩
    · rw [History.state_append_of_nil rfl, entered]
    have entered : History.state (h ++ [.call (.read channel.pollSignal),
        .answer (.read channel.pollSignal) a]) = c.state := by
      rw [History.state_append_of_nil rfl, entered]
    split
    next => exact safe_signal entered ready
    next => exact safe_noteLinkError entered
  | ended => exact safe_shutdown entered

theorem safe_handle {options : Options} {x : Stimulus} (s : Steady options h c)
    (mode : options.pollMode ≠ .interval 0) : (handle x).Safe AtCall h c := by
  rw [handle, safe_bind]
  refine ⟨?_, fun _ _ _ _ => safe_modify⟩
  rw [react, safe_get_bind]
  have mode : c.options.pollMode ≠ .interval 0 := s.configured ▸ mode
  cases x with
  | command ticket cmd =>
    cases cmd with
    | connect => exact safe_bind.2 ⟨safe_establish mode, fun _ _ _ _ => safe_tell⟩
    | send => exact safe_bind.2 ⟨safe_send s.entered, fun _ _ _ _ => safe_tell⟩
    | close => exact safe_bind.2 ⟨safe_shutdown s.entered, fun _ _ _ _ => safe_tell⟩
  | clientsGone => exact safe_shutdown s.entered
  | linkLost =>
    dsimp only
    split
    · exact safe_shutdown s.entered
    · exact safe_pure
  | poll tick =>
    dsimp only
    split
    next channel inUse => exact safe_poll s.entered (s.stage.of_inUse inUse)
    next => exact safe_pure
  | sweep now =>
    dsimp only
    split
    next =>
      rw [Connection.sweep, safe_get_bind]
      split
      next => exact safe_pure
      next =>
        rw [safe_modify_bind, safe_tell_bind]
        split
        next => exact safe_pure
        next => exact safe_reportOutstanding
    next => exact safe_pure

end Connection

/-! ### Runs -/

variable {J : History → Connection → Prop} {options : Options} {g h part : History}
  {c₀ : Connection} {x : Stimulus} {t : Standing}

/-- A progress amid a reaction leaves a standing that is. -/
theorem Progress.Reacting.upholds {p : Progress Unit} (before : J g c₀) (awaits : c₀.Awaits x)
    (r : p.Reacting J g c₀ x part) : p.standing.Upholds J (g ++ .take x :: (part ++ p.acts)) := by
  cases p with
  | done a c out => exact (r.2 _ _ .done).2
  | waiting c out l resume =>
    refine ⟨by simpa [acts] using r.1.1, g, c₀, x, part ++ out.map .tell, by simp [acts], before,
      awaits, fun a => ⟨by simpa using r.1.2 a, fun h c ends => ?_⟩⟩
    simpa using r.2 _ _ (.waiting a ends)
  | crashed => exact r.1.elim

/-- A progress that does not crash has come to its end or to a call. -/
theorem Progress.Safe.standing {P : History → Connection → LinkCall → Prop} {p : Progress Unit}
    (safe : p.Safe P h) : (∃ c, p.Ends p.acts () c ∧ p.standing = .idle c) ∨
      ∃ c l resume, p.standing = .calling c l resume := by
  cases p with
  | done u c out => exact .inl ⟨c, .done, rfl⟩
  | waiting c out l resume => exact .inr ⟨c, l, resume, rfl⟩
  | crashed => exact safe.elim

theorem Standing.Upholds.after (u : t.Upholds J h) : (t.after x).Upholds J h := by
  cases t with
  | idle c => cases x <;> exact u
  | calling c l resume => exact u
  | ended c => exact u

theorem Progress.Reacting.exists_end {p : Progress Unit} (r : p.Reacting J g c₀ x part) :
    ∃ h c, p.Ends h () c ∧ (∃ d, c₀.Reacts x (part ++ h) d ∧ c = d.rested) ∧
      J (g ++ .take x :: (part ++ h)) c := by
  obtain ⟨h, u, c, ends⟩ := r.1.exists_ends
  exact ⟨h, c, ends, r.2 h c ends⟩

/-- A task will await a stimulus again, if it awaits nothing else. -/
theorem Standing.Upholds.of_idle (u : t.Upholds J h) (idle : t.isCalling = false) :
    J h t.connection := by
  cases t with
  | idle c | ended c => exact u
  | calling c l resume => cases idle

namespace Connection.Run

/-- What holds at the start and is kept by every reaction holds whenever a stimulus is awaited. -/
theorem upholds (mode : options.pollMode ≠ .interval 0) (start : J [] (.new options))
    (keeps : ∀ {h h' c c' x}, Steady options h c → J h c → c.Awaits x → c.Reacts x h' c' →
      J (h ++ .take x :: h') c'.rested)
    (run : Run options h t) : t.Upholds (fun h c => Steady options h c ∧ J h c) h := by
  -- A call of the link cuts a reaction in two. What holds after it is known only at its end, so
  -- until then the task keeps what it will have done, whatever the link answers.
  induction run with
  | start => exact ⟨.new, start⟩
  | @step h acts t t' run step ih =>
    cases step with
    | @take c x awaits =>
      have taken : Steady options _ c := ih.1.sameLink (h := [.take x]) {}
      have reacting : (handle x c).Reacting (fun h c => Steady options h c ∧ J h c) h c x [] := by
        refine ⟨safe_handle taken mode, fun h' c' ends => ?_⟩
        obtain ⟨d, reacts, rfl⟩ := reacts_of_ends awaits ends
        exact ⟨⟨d, reacts, rfl⟩, ih.1.reacts awaits reacts, keeps ih.1 ih.2 awaits reacts⟩
      exact .after (reacting.upholds ih awaits)
    | @answer c l resume a =>
      obtain ⟨-, g, c₀, x, part, rfl, before, awaits, reacting⟩ := ih
      simpa using (reacting a).upholds before awaits

/-- A task ends only because its clients are gone. -/
theorem clientsGone_of_ended {acts : History} {c : Connection}
    (mode : options.pollMode ≠ .interval 0) (run : Run options h t)
    (step : t.Step acts (.ended c)) :
    ∃ rest, acts = .take .clientsGone :: rest := by
  have u := run.upholds (J := fun _ _ => True) mode trivial fun _ _ _ _ => trivial
  generalize ended : Standing.ended c = t' at step
  cases step with
  | @take d x awaits =>
    have safe : (handle x).Safe AtCall h d := safe_handle u.1 mode
    rcases safe.standing with ⟨c', -, stands⟩ | ⟨c', l, resume, stands⟩
    · rw [stands] at ended
      cases x with
      | clientsGone => exact ⟨_, rfl⟩
      | command | linkLost | poll | sweep => cases ended
    · rw [stands] at ended
      cases ended
  | @answer d l resume a =>
    obtain ⟨-, g, c₀, x, part, rfl, -, -, reacting⟩ := u
    rcases (reacting a).1.standing with ⟨c', -, stands⟩ | ⟨c', l, resume, stands⟩
    · rw [stands] at ended
      cases ended
    · rw [stands] at ended
      cases ended

end Connection.Run

end GattRpc
