import GattRpc.Proofs.Connection.Course

/-! # A connection between two stimuli

`Traced options h c`: `h` may have led a connection with `options` to `c`, as far as its state and
the calls of its link go. That holds after each step. `Steady options h c`: `c` also awaits a
stimulus, and what was called fits its state. Each thing that a connection may do on a stimulus
keeps this; connecting does so only as a whole. -/

namespace GattRpc

/-- The link is left alone, with all that depends on it. -/
structure SameLink (c : Connection) (h : History) (c' : Connection) : Prop where
  options : c'.options = c.options := by rfl
  state : c'.state = c.state := by rfl
  channel : c'.channel = c.channel := by rfl
  watching : c'.watching = c.watching := by rfl
  calls : h.calls = [] := by rfl
  exchanges : h.exchanges = [] := by rfl
  states : h.states = [] := by rfl

/-- The state is the one that was entered last, each state may follow the one before it, and each
call is answered. -/
structure Traced (options : Options) (h : History) (c : Connection) : Prop where
  configured : c.options = options
  entered : h.state = c.state
  moves : List.IsChain Moves (.disconnected :: h.states)
  answered : h.calls = h.exchanges.map Exchange.call

structure Steady (options : Options) (h : History) (c : Connection) : Prop
    extends Traced options h c where
  stage : Stage options.pollMode h.exchanges c.state c.channel
  watching : c.watching = true ↔ c.state = .ready

namespace History

variable {g h : History}

theorem state_append : (g ++ h).state = h.states.getLastD g.state := by
  simp only [state, states_append, List.getLastD_eq_getLast?, List.getLast?_append]
  cases h.states.getLast? <;> simp

theorem state_append_of_nil (quiet : h.states = []) : (g ++ h).state = g.state := by
  rw [state_append, quiet]
  rfl

/-- What is told besides a state. -/
theorem states_tell {out : List Output} (other : ∀ o ∈ out, (Act.tell o).state? = none) :
    states (out.map .tell) = [] := by
  rw [states, List.filterMap_map, List.filterMap_eq_nil_iff]
  exact other

end History

open Connection

variable {options : Options} {c c' c'' : Connection} {g h : History}

namespace SameLink

theorem trans (s : SameLink c g c') (t : SameLink c' h c'') : SameLink c (g ++ h) c'' where
  options := t.options.trans s.options
  state := t.state.trans s.state
  channel := t.channel.trans s.channel
  watching := t.watching.trans s.watching
  calls := by rw [History.calls_append, s.calls, t.calls]; rfl
  exchanges := by rw [History.exchanges_append, s.exchanges, t.exchanges]; rfl
  states := by rw [History.states_append, s.states, t.states]; rfl

theorem tell {out : List Output} (k : SameLink c [] c')
    (other : ∀ o ∈ out, (Act.tell o).state? = none) : SameLink c (out.map .tell) c' :=
  { k with
    calls := History.calls_tell out
    exchanges := History.exchanges_tell out
    states := History.states_tell other }

theorem discards {cbs : List Callback} (k : SameLink c [] c') :
    SameLink c ((cbs.map .discarded).map .tell) c' :=
  k.tell (by simp)

theorem delivers {m : Json} (d : c.Delivers m h c') : SameLink c h c' := by
  cases d <;> constructor <;> rfl

theorem deliversAll {ms : List Json} (d : c.DeliversAll ms h c') : SameLink c h c' := by
  induction d with
  | nil => constructor <;> rfl
  | cons first rest ih => exact (delivers first).trans ih

end SameLink

/-! ### Closing -/

namespace Connection

theorem other_of_mem_released {reason : CloseReason} {o : Output} (h : o ∈ c.released reason) :
    (Act.tell o).state? = none := by
  rcases List.mem_append.1 h with h | h <;> obtain ⟨x, -, rfl⟩ := List.mem_map.1 h <;> rfl

theorem other_of_mem_expiry {now timeout : Nat} :
    ∀ o ∈ c.expiry now timeout, (Act.tell o).state? = none := by
  intro o ho
  rcases mem_expiry ho with ⟨x, -, rfl⟩ | rfl <;> rfl

theorem states_farewell {reason : CloseReason} :
    History.states ((c.farewell reason).map .tell) = [.closed] := by
  rw [farewell, List.map_cons, History.states_cons, List.map_append, History.states_append,
    History.states_tell fun o => other_of_mem_released]
  rfl

end Connection

namespace Traced

theorem sameLink (t : Traced options g c) (k : SameLink c h c') : Traced options (g ++ h) c' where
  configured := k.options.trans t.configured
  entered := by rw [History.state_append_of_nil k.states, k.state, t.entered]
  moves := by rw [History.states_append, k.states, List.append_nil]; exact t.moves
  answered := by simp [k.calls, k.exchanges, t.answered]

theorem enter {next : ConnectionState} (t : Traced options g c) (move : Moves c.state next)
    (states : h.states = [next]) (calls : h.calls = h.exchanges.map Exchange.call)
    (options' : c'.options = c.options) (state : c'.state = next) : Traced options (g ++ h) c' where
  configured := options'.trans t.configured
  entered := by rw [History.state_append, states, state]; rfl
  moves := by
    rw [History.states_append, states, ← List.cons_append]
    refine t.moves.append (.singleton _) fun x hx y hy => ?_
    have last : (ConnectionState.disconnected :: g.states).getLast? = some g.state := by
      rw [List.getLast?_cons, History.state, List.getLastD_eq_getLast?]
    rw [last] at hx
    cases hx
    cases hy
    rw [t.entered]
    exact move
  answered := by simp [calls, t.answered]

theorem call {l : LinkCall} (t : Traced options h c) (a : LinkAnswer l) :
    Traced options (h ++ [.call l, .answer l a]) c where
  configured := t.configured
  entered := by rw [History.state_append_of_nil rfl, t.entered]
  moves := by simpa using t.moves
  answered := by simp [t.answered]

theorem closes {reason : CloseReason} {hang : History} (t : Traced options g c)
    (unclosed : c.state ≠ .closed) (x : c.HangsUp hang) :
    Traced options (g ++ (hang ++ (c.farewell reason).map .tell)) (c.closed reason) := by
  refine t.enter (.close unclosed) ?_ ?_ rfl rfl
  · cases x <;> simp [states_farewell]
  · cases x <;> simp

end Traced

namespace Steady

theorem new : Steady options [] (.new options) where
  configured := rfl
  entered := rfl
  moves := .singleton _
  answered := rfl
  stage := .untried
  watching := by simp [Connection.new]

theorem sameLink (s : Steady options g c) (k : SameLink c h c') : Steady options (g ++ h) c' where
  toTraced := s.toTraced.sameLink k
  stage := by
    rw [History.exchanges_append, k.exchanges, k.state, k.channel, List.append_nil]
    exact s.stage
  watching := by rw [k.watching, k.state]; exact s.watching

/-- A connection that is ready uses the characteristics that it found. -/
theorem transfer {channel : Channel} {l : LinkCall} (s : Steady options h c)
    (inUse : c.channel = some channel) (t : Transfer options.pollMode channel l)
    (a : LinkAnswer l) : Steady options (h ++ [.call l, .answer l a]) c where
  toTraced := s.toTraced.call a
  stage := by
    have stage := s.stage
    rw [inUse] at stage ⊢
    simpa using stage.transfer (y := ⟨l, a.result⟩) t
  watching := s.watching

theorem shuts {reason : CloseReason} (s : Steady options g c) (x : c.Shuts reason h c') :
    Steady options (g ++ h) c' := by
  cases x with
  | already state => rwa [List.append_nil]
  | now unclosed hangsUp =>
    refine ⟨s.toTraced.closes unclosed hangsUp, ?_, by simp⟩
    change Stage options.pollMode _ .closed none
    cases hangsUp with
    | unconnected untried =>
      obtain ⟨none, -⟩ := (untried ▸ s.stage).of_disconnected
      simpa [none] using Stage.ended .unconnected
    | connected tried a => simpa using s.stage.hangUp tried unclosed a.result

theorem notesError {e : LinkError} (s : Steady options g c) (x : c.NotesError e h c') :
    Steady options (g ++ h) c' := by
  cases x with
  | harmless => exact s.sameLink {}
  | fatal _ shuts =>
    have blamed : Steady options (g ++ [.tell (.shown (c.blame e).status)]) (c.blame e) :=
      s.sameLink {}
    rw [List.append_cons]
    exact blamed.shuts shuts

theorem pulls {channel : Channel} (s : Steady options g c) (inUse : c.channel = some channel)
    (x : c.Pulls channel h c') : Steady options (g ++ h) c' := by
  cases x with
  | @received chunk h c₁ a result delivers =>
    have drops : SameLink c (((c.spoiled chunk).map fun d => .event (.frameDropped d)).map .tell)
        (c.fed chunk) := .tell {} (by simp)
    have link : SameLink c _ c₁.tallied :=
      (drops.trans (.deliversAll delivers)).trans (h := [.tell (.shown c₁.tallied.status)]) {}
    simpa using (s.transfer inUse .read a).sameLink link
  | failed a result notes => simpa using (s.transfer inUse .read a).notesError notes

theorem signals {channel : Channel} {payload : List UInt8} (s : Steady options g c)
    (inUse : c.channel = some channel) (x : c.Signals channel payload h c') :
    Steady options (g ++ h) c' := by
  have counted : Steady options g (c.counted payload) := by simpa using s.sameLink (h := []) {}
  cases x with
  | ignored => rwa [List.append_nil]
  | announced _ pulls => exact counted.pulls inUse pulls

theorem polls {channel : Channel} {tick : PollTick} (s : Steady options g c)
    (inUse : c.channel = some channel) (timed : tick = .due → options.pollMode ≠ .notify)
    (x : c.Polls channel tick h c') : Steady options (g ++ h) c' := by
  cases x with
  | signal signals => exact s.signals inUse signals
  | due a result signals =>
    simpa using (s.transfer inUse (.poll (timed rfl)) a).signals inUse signals
  | failed a result notes =>
    simpa using (s.transfer inUse (.poll (timed rfl)) a).notesError notes
  | ended shuts => exact s.shuts shuts

theorem sends {method : String} {params : Json} {callback : Option Callback}
    {r : Except RpcError RequestId} (s : Steady options g c)
    (x : c.Sends method params callback h r c') : Steady options (g ++ h) c' := by
  cases x with
  | refused => exact s.sameLink (.discards {})
  | failed state inUse is a result notes =>
    have prepared : Steady options g c.prepared := by simpa using s.sameLink (h := []) {}
    have noted := (prepared.transfer inUse .write a).notesError notes
    have discards : SameLink c' ((callback.toList.map .discarded).map .tell) c' := .discards {}
    simpa using noted.sameLink discards
  | @written channel request state inUse is a result =>
    have discards (cbs : List Callback) : SameLink c ((cbs.map .discarded).map .tell) c :=
      .discards {}
    have shown : SameLink c
        [.tell (.shown (c.prepared.registered a.time request callback).status)]
        (c.prepared.registered a.time request callback) := {}
    simpa using (s.transfer inUse .write a).sameLink ((discards _).trans shown)

end Steady

/-! ### Connecting -/

namespace Traced

theorem blame {e : LinkError} (t : Traced options g c) :
    Traced options (g ++ [.tell (.shown (c.blame e).status)]) (c.blame e) :=
  t.sameLink {}

/-- A failed step of connecting ends as every connection does. -/
theorem setback {reason : CloseReason} (t : Traced options g c)
    (setback : Setback options.pollMode g.exchanges) (tried : c.state ≠ .disconnected)
    (unclosed : c.state ≠ .closed) (x : c.Shuts reason h c') : Steady options (g ++ h) c' := by
  cases x with
  | already state => exact (unclosed state).elim
  | now _ hangsUp =>
    refine ⟨t.closes unclosed hangsUp, ?_, by simp⟩
    change Stage options.pollMode _ .closed none
    cases hangsUp with
    | unconnected untried => exact (tried untried).elim
    | connected _ a => simpa using Stage.ended (.failed (r := a.result) setback)

/-- To start polling is the last step of connecting. -/
theorem startsPolling {peer : String} {services : List Service} {channel : Channel}
    {start : History} {r : Except LinkError Unit} (t : Traced options g c)
    (found : g.exchanges = [⟨.connect, .ok peer⟩, ⟨.discover, .ok services⟩])
    (usable : resolve services = .ok channel) (x : c.StartsPolling channel start r) :
    Traced options (g ++ start) c ∧
      (r = .ok () → Handshake options.pollMode channel (History.exchanges (g ++ start))) ∧
      ∀ e, r = .error e → Setback options.pollMode (History.exchanges (g ++ start)) := by
  cases x with
  | notify mode a =>
    rw [t.configured] at mode
    refine ⟨t.call a, fun result => ?_, fun e result => ?_⟩
    · rw [mode, History.exchanges_append, found]
      change Handshake .notify channel [⟨.connect, .ok peer⟩, ⟨.discover, .ok services⟩,
        ⟨.subscribe channel.pollSignal, a.result⟩]
      rw [result]
      exact .notify usable
    · rw [mode, History.exchanges_append, found]
      change Setback .notify [⟨.connect, .ok peer⟩, ⟨.discover, .ok services⟩,
        ⟨.subscribe channel.pollSignal, a.result⟩]
      rw [result]
      exact .subscribe usable
  | interval mode =>
    rw [t.configured] at mode
    rw [List.append_nil]
    refine ⟨t, fun _ => ?_, fun e result => ?_⟩
    · rw [found, mode]
      exact .interval usable
    · cases result

theorem findsService {r : Except RpcError Unit} (peer : String) (t : Traced options g c)
    (state : c.state = .discovering) (watching : c.watching = true)
    (connected : g.exchanges = [⟨.connect, .ok peer⟩]) (x : c.FindsService h r c') :
    Steady options (g ++ h) c' := by
  have tried : c.state ≠ .disconnected := by simp [state]
  have unclosed : c.state ≠ .closed := by simp [state]
  cases x with
  | @lost a e h c' result shuts =>
    have failed : Setback options.pollMode
        (History.exchanges (g ++ [.call .discover, .answer .discover a] ++
          [.tell (.shown (c.blame e).status)])) := by
      simpa [connected, result] using Setback.discover
    simpa using (t.call a).blame.setback failed tried unclosed shuts
  | @unusable a services e h c' result unusable shuts =>
    have failed : Setback options.pollMode
        (History.exchanges (g ++ [.call .discover, .answer .discover a] ++
          [.tell (.shown (c.blame e).status)])) := by
      simpa [connected, result] using Setback.unusable unusable
    simpa using (t.call a).blame.setback failed tried unclosed shuts
  | @unpolled a services channel e start h c' result usable starts shuts =>
    have found : History.exchanges (g ++ [.call .discover, .answer .discover a]) =
        [⟨.connect, .ok peer⟩, ⟨.discover, .ok services⟩] := by simp [connected, result]
    obtain ⟨t', -, failed⟩ := (t.call a).startsPolling found usable starts
    have failed : Setback options.pollMode (History.exchanges
        (g ++ [.call .discover, .answer .discover a] ++ start ++
          [.tell (.shown (c.blame e).status)])) := by
      simpa using failed e rfl
    simpa using t'.blame.setback failed tried unclosed shuts
  | @found a services channel start result usable starts =>
    have found : History.exchanges (g ++ [.call .discover, .answer .discover a]) =
        [⟨.connect, .ok peer⟩, ⟨.discover, .ok services⟩] := by simp [connected, result]
    obtain ⟨t', handshake, -⟩ := (t.call a).startsPolling found usable starts
    have serving := Stage.serving (handshake rfl) (List.forall_mem_nil _)
    refine ⟨?_, ?_, by simpa using watching⟩
    · have move : Moves c.state .ready := state ▸ .open
      have opened : Traced options _ (c.opened channel) :=
        t'.enter (h := [.tell (.shown (c.opened channel).status),
          .tell (.event (.stateChanged .ready))]) move rfl rfl rfl rfl
      simpa using opened
    · change Stage options.pollMode _ .ready (some channel)
      simpa using serving

end Traced

namespace Steady

theorem establishes {r : Except RpcError Unit} (s : Steady options g c)
    (x : c.Establishes h r c') : Steady options (g ++ h) c' := by
  cases x with
  | already => rwa [List.append_nil]
  | refused => rwa [List.append_nil]
  | @unreachable a e h c' state result shuts =>
    have connecting : Traced options _ (c.enter .connecting) := s.toTraced.enter
      (h := [.tell (.shown (c.enter .connecting).status),
        .tell (.event (.stateChanged .connecting))]) (state ▸ .connect) rfl rfl rfl rfl
    obtain ⟨untried, -⟩ := (state ▸ s.stage).of_disconnected
    have shut := (connecting.call a).blame.setback
      (by simpa [untried, result] using Setback.connect) nofun nofun shuts
    simpa using shut
  | @connected a peer h r c' state result finds =>
    have connecting : Traced options _ (c.enter .connecting) := s.toTraced.enter
      (h := [.tell (.shown (c.enter .connecting).status),
        .tell (.event (.stateChanged .connecting))]) (state ▸ .connect) rfl rfl rfl rfl
    have discovering : Traced options _ ((c.enter .connecting).linked peer) :=
      (connecting.call a).enter
        (h := [.tell (.shown { (c.enter .connecting).status with peer := some peer }),
          .tell (.shown ((c.enter .connecting).linked peer).status),
          .tell (.event (.stateChanged .discovering))]) .discover rfl rfl rfl rfl
    obtain ⟨untried, -⟩ := (state ▸ s.stage).of_disconnected
    have found := discovering.findsService peer rfl rfl (by simp [untried, result]) finds
    simpa using found

/-- Whatever a connection does on a stimulus that it awaits. -/
theorem reacts {x : Stimulus} (s : Steady options g c) (awaits : c.Awaits x)
    (reacts : c.Reacts x h c') : Steady options (g ++ .take x :: h) c'.rested := by
  have taken : Steady options (g ++ [.take x]) c := s.sameLink {}
  have rest {h : History} {d : Connection} (s : Steady options h d) :
      Steady options h d.rested := by
    simpa using s.sameLink (h := []) {}
  have reply {h : History} {d : Connection} {n : Nat} {r : Reply} (s : Steady options h d) :
      Steady options (h ++ [.tell (.reply n r)]) d := s.sameLink {}
  rw [List.append_cons]
  refine rest ?_
  cases reacts with
  | connect establishes => simpa using reply (taken.establishes establishes)
  | send sends => simpa using reply (taken.sends sends)
  | close shuts => simpa using reply (taken.shuts shuts)
  | clientsGone shuts => exact taken.shuts shuts
  | linkLost shuts => exact taken.shuts shuts
  | poll inUse polls =>
    refine taken.polls inUse (fun due => ?_) polls
    subst due
    rw [← s.configured]
    exact awaits.2
  | sweep => exact taken.sameLink (.tell {} other_of_mem_expiry)
  | unlimited unlimited => simpa using taken

end Steady

end GattRpc
