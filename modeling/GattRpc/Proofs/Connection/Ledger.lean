import GattRpc.Proofs.Connection.Runs
import GattRpc.Proofs.Table

/-! # The ledger of callbacks

Every callback that a task was given is somewhere: its request is outstanding, it was told an
outcome, or it was dropped. `Ledger options flight h c` keeps the account after `h`, where `flight`
holds the callback of a request that is just being sent. Each thing that a connection may do with
requests has its entry here; the account itself never changes otherwise. -/

namespace GattRpc

/-- The outcomes of a request with this id. -/
inductive Outcome.Fits (id : RequestId) : Outcome → Prop
  | answered {r : Response} (same : r.id = id) : Fits id (.answered r)
  | timedOut : Fits id (.failed (.timedOut id))
  | cancelled {reason : CloseReason} : Fits id (.failed (.cancelled reason))

/-- The frame of the request was written. -/
def History.Wrote (h : History) (request : Request) : Prop :=
  ∃ inbox, ⟨.write inbox (Frame.encode request.document), .ok ()⟩ ∈ h.exchanges

/-- A command asked for this request with this callback, and was told its id once it was written. -/
structure Registered (h : History) (ticket : Nat) (request : Request) (callback : Callback) :
    Prop where
  asked : ∃ method params, (ticket, .send method params (some callback)) ∈ h.commands ∧
    request = .new request.id method params
  wrote : h.Wrote request
  sent : (ticket, .ok request.id) ∈ h.sends

/-- Where the callback of a request that was sent is. -/
inductive Held (options : Options) (h : History) (c : Connection) (request : Request)
    (callback : Callback) : Prop
  | outstanding {since : Nat} (entry : ⟨request, callback, since⟩ ∈ c.correlator.outstanding)
  | settled {outcome : Outcome} (told : ⟨callback, request, outcome⟩ ∈ h.settlements)
  | dropped (dropped : callback ∈ h.discards) (policy : options.cancelPolicy = .drop)
    (closed : c.state = .closed)

structure Ledger (options : Options) (flight : List Callback) (h : History) (c : Connection) :
    Prop where
  policy : c.correlator.policy = options.cancelPolicy
  nextId : c.correlator.nextId = .ofNat (h.frames.length + 1)
  tracked : ∀ p ∈ c.correlator.outstanding, ∃ ticket, Registered h ticket p.request p.callback
  settled : ∀ x ∈ h.settlements, x.outcome.Fits x.request.id ∧
    ∃ ticket, Registered h ticket x.request x.callback
  conserved : h.callbacks.Perm (c.correlator.outstanding.map Pending.callback ++
    h.settlements.map Settlement.callback ++ h.discards ++ flight)
  refused : ∀ ticket e, (ticket, .error e) ∈ h.sends → ∃ method params callback,
    (ticket, .send method params callback) ∈ h.commands ∧ ∀ d ∈ callback, d ∈ h.discards
  accepted : ∀ ticket id, (ticket, .ok id) ∈ h.sends → ∃ method params callback,
    (ticket, .send method params callback) ∈ h.commands ∧ h.Wrote (.new id method params) ∧
      ∀ d ∈ callback, Held options h c (.new id method params) d
  unready : c.state ≠ .ready → c.correlator.outstanding = []
  ascending : h.ids.Pairwise (· < ·)
  bounded : ∀ ticket id, (ticket, .ok id) ∈ h.sends → 1 ≤ id.toNat ∧ id.toNat ≤ h.frames.length

/-- No request becomes outstanding, but some may cease to be: each callback that leaves the table is
told an outcome, or dropped as a closed connection may. -/
structure Releases (options : Options) (c : Connection) (h : History) (c' : Connection) : Prop where
  policy : c'.correlator.policy = c.correlator.policy
  nextId : c'.correlator.nextId = c.correlator.nextId + .ofNat h.frames.length
  sends : h.sends = []
  kept : ∀ p ∈ c'.correlator.outstanding, p ∈ c.correlator.outstanding
  told : ∀ x ∈ h.settlements, ∃ p ∈ c.correlator.outstanding, ∃ o : Outcome,
    o.Fits p.id ∧ x = p.settle o
  conserved : (c.correlator.outstanding.map Pending.callback).Perm
    (c'.correlator.outstanding.map Pending.callback ++ h.settlements.map Settlement.callback ++
      h.discards)
  held : ∀ p ∈ c.correlator.outstanding, Held options h c' p.request p.callback
  unready : c'.state ≠ .ready → c'.correlator.outstanding = []
  closed : c.state = .closed → c'.state = .closed

/-- What is done to send a request: its frame is written, and its id is the reply. -/
structure SentOff (ticket : Nat) (request : Request) (h : History) : Prop where
  frames : h.frames.length = 1 := by rfl
  callbacks : h.callbacks = [] := by rfl
  settlements : h.settlements = [] := by rfl
  discards : h.discards = [] := by rfl
  sends : h.sends = [(ticket, .ok request.id)] := by rfl
  wrote : h.Wrote request

open Connection

variable {options : Options} {c c' : Connection} {g h : History} {flight : List Callback}
  {request : Request} {callback : Callback}

theorem History.Wrote.mono (w : g.Wrote request) : History.Wrote (g ++ h) request := by
  obtain ⟨inbox, w⟩ := w
  exact ⟨inbox, by rw [exchanges_append]; exact List.mem_append_left _ w⟩

theorem Registered.mono {ticket : Nat} (r : Registered g ticket request callback) :
    Registered (g ++ h) ticket request callback := by
  obtain ⟨method, params, asked, is⟩ := r.asked
  refine ⟨⟨method, params, ?_, is⟩, r.wrote.mono, ?_⟩
  · rw [History.commands_append]
    exact List.mem_append_left _ asked
  · rw [History.sends_append]
    exact List.mem_append_left _ r.sent

/-- What was told and dropped stays so. -/
theorem Held.mono (x : Held options h c request callback) :
    Held options (g ++ h) c request callback := by
  cases x with
  | outstanding entry => exact .outstanding entry
  | @settled outcome told =>
    have told : ⟨callback, request, outcome⟩ ∈ History.settlements (g ++ h) := by
      rw [History.settlements_append]
      exact List.mem_append_right _ told
    exact .settled told
  | dropped dropped policy closed =>
    refine .dropped ?_ policy closed
    rw [History.discards_append]
    exact List.mem_append_right _ dropped

theorem Held.carry (held : Held options g c request callback)
    (entries : ∀ p ∈ c.correlator.outstanding, Held options h c' p.request p.callback)
    (stays : c.state = .closed → c'.state = .closed) :
    Held options (g ++ h) c' request callback := by
  cases held with
  | outstanding entry => exact (entries _ entry).mono
  | @settled outcome told =>
    have told : ⟨callback, request, outcome⟩ ∈ History.settlements (g ++ h) := by
      rw [History.settlements_append]
      exact List.mem_append_left _ told
    exact .settled told
  | dropped dropped policy closed =>
    refine .dropped ?_ policy (stays closed)
    rw [History.discards_append]
    exact List.mem_append_left _ dropped

namespace Ledger

theorem accepted_mono {ticket : Nat} {id : RequestId} (l : Ledger options flight g c)
    (entries : ∀ p ∈ c.correlator.outstanding, Held options h c' p.request p.callback)
    (stays : c.state = .closed → c'.state = .closed) (sent : (ticket, .ok id) ∈ g.sends) :
    ∃ method params callback, (ticket, .send method params callback) ∈ History.commands (g ++ h) ∧
      History.Wrote (g ++ h) (.new id method params) ∧
        ∀ d ∈ callback, Held options (g ++ h) c' (.new id method params) d := by
  obtain ⟨method, params, callback, asked, wrote, held⟩ := l.accepted ticket id sent
  refine ⟨method, params, callback, ?_, wrote.mono, fun d hd => (held d hd).carry entries stays⟩
  rw [History.commands_append]
  exact List.mem_append_left _ asked

theorem refused_mono {ticket : Nat} {e : RpcError} (l : Ledger options flight g c)
    (sent : (ticket, .error e) ∈ g.sends) :
    ∃ method params callback, (ticket, .send method params callback) ∈ History.commands (g ++ h) ∧
      ∀ d ∈ callback, d ∈ History.discards (g ++ h) := by
  obtain ⟨method, params, callback, asked, dropped⟩ := l.refused ticket e sent
  refine ⟨method, params, callback, ?_, fun d hd => ?_⟩
  · rw [History.commands_append]
    exact List.mem_append_left _ asked
  · rw [History.discards_append]
    exact List.mem_append_left _ (dropped d hd)

theorem releases (l : Ledger options flight g c) (x : Releases options c h c') :
    Ledger options (flight ++ h.callbacks) (g ++ h) c' where
  policy := x.policy.trans l.policy
  nextId := by
    rw [x.nextId, l.nextId, ← UInt64.ofNat_add, History.frames_append, List.length_append,
      Nat.add_right_comm]
  tracked p hp := by
    obtain ⟨ticket, r⟩ := l.tracked p (x.kept p hp)
    exact ⟨ticket, r.mono⟩
  settled y hy := by
    rw [History.settlements_append] at hy
    rcases List.mem_append.1 hy with hy | hy
    · obtain ⟨fits, ticket, r⟩ := l.settled y hy
      exact ⟨fits, ticket, r.mono⟩
    · obtain ⟨p, hp, o, fits, rfl⟩ := x.told y hy
      obtain ⟨ticket, r⟩ := l.tracked p hp
      exact ⟨fits, ticket, r.mono⟩
  conserved := by
    -- Whatever leaves the table is told or dropped, so each callback is counted as before.
    rw [List.perm_iff_count]
    intro d
    have before := List.perm_iff_count.1 l.conserved d
    have left := List.perm_iff_count.1 x.conserved d
    simp only [History.callbacks_append, History.settlements_append, History.discards_append,
      List.map_append, List.count_append] at before left ⊢
    omega
  refused ticket e sent := by
    rw [History.sends_append, x.sends, List.append_nil] at sent
    exact l.refused_mono sent
  accepted ticket id sent := by
    rw [History.sends_append, x.sends, List.append_nil] at sent
    exact l.accepted_mono x.held x.closed sent
  unready := x.unready
  ascending := by
    have none : h.ids = [] := by rw [History.ids, x.sends]; rfl
    rw [History.ids_append, none, List.append_nil]
    exact l.ascending
  bounded ticket id sent := by
    rw [History.sends_append, x.sends, List.append_nil] at sent
    rw [History.frames_append, List.length_append]
    obtain ⟨least, most⟩ := l.bounded ticket id sent
    exact ⟨least, Nat.le_add_right_of_le most⟩

end Ledger

/-! ### Requests that cease to be outstanding -/

namespace History

variable {xs : List Settlement} {ds : List Callback}

@[simp] theorem settlements_settled : settlements ((xs.map .settled).map .tell) = xs := by
  induction xs <;> simp_all

@[simp] theorem discards_settled : discards ((xs.map .settled).map .tell) = [] := by
  induction xs <;> simp_all

@[simp] theorem sends_settled : sends ((xs.map .settled).map .tell) = [] := by
  induction xs <;> simp_all

@[simp] theorem settlements_discarded : settlements ((ds.map .discarded).map .tell) = [] := by
  induction ds <;> simp_all

@[simp] theorem discards_discarded : discards ((ds.map .discarded).map .tell) = ds := by
  induction ds <;> simp_all

@[simp] theorem sends_discarded : sends ((ds.map .discarded).map .tell) = [] := by
  induction ds <;> simp_all

end History

/-- What is done apart from any request. -/
structure Apart (h : History) : Prop where
  callbacks : h.callbacks = [] := by rfl
  frames : h.frames = [] := by rfl
  settlements : h.settlements = [] := by rfl
  discards : h.discards = [] := by rfl
  sends : h.sends = [] := by rfl

theorem Apart.events {out : List Output} (events : ∀ o ∈ out, ∃ e, o = .event e) :
    Apart (out.map .tell) := by
  induction out with
  | nil => exact {}
  | cons o out ih =>
    obtain ⟨e, rfl⟩ := events o (by simp)
    have apart := ih fun o ho => events o (by simp [ho])
    exact ⟨apart.callbacks, apart.frames, apart.settlements, apart.discards, apart.sends⟩

namespace Releases

theorem same (policy : c'.correlator.policy = c.correlator.policy)
    (nextId : c'.correlator.nextId = c.correlator.nextId + .ofNat h.frames.length)
    (same : c'.correlator.outstanding = c.correlator.outstanding) (settlements : h.settlements = [])
    (discards : h.discards = []) (sends : h.sends = [])
    (unready : c'.state ≠ .ready → c.correlator.outstanding = [])
    (closed : c.state = .closed → c'.state = .closed) : Releases options c h c' where
  policy := policy
  nextId := nextId
  sends := sends
  kept := by rw [same]; exact fun _ => id
  told := by simp [settlements]
  conserved := by simp [same, settlements, discards]
  held p hp := .outstanding (by rw [same]; exact hp)
  unready := by rw [same]; exact unready
  closed := closed

/-- Requests are settled, in any order. -/
theorem settle {ended : List Pending} (keep : Pending → Bool) (o : Pending → Outcome)
    (all : ended.Perm (c.correlator.outstanding.filter fun p => !keep p))
    (fits : ∀ p ∈ c.correlator.outstanding, keep p = false → (o p).Fits p.id)
    (filtered : c'.correlator = c.correlator.filter keep)
    (unready : c'.state ≠ .ready → c.correlator.outstanding.filter keep = [])
    (closed : c.state = .closed → c'.state = .closed) :
    Releases options c (((ended.map fun p => p.settle (o p)).map .settled).map .tell) c' where
  policy := by rw [filtered]; rfl
  nextId := by rw [filtered, History.frames_tell]; exact (UInt64.add_zero _).symm
  sends := History.sends_settled
  kept p hp := by
    rw [filtered] at hp
    exact List.mem_of_mem_filter hp
  told x hx := by
    rw [History.settlements_settled] at hx
    obtain ⟨p, hp, rfl⟩ := List.mem_map.1 hx
    obtain ⟨hp, dropped⟩ := List.mem_filter.1 (all.mem_iff.1 hp)
    exact ⟨p, hp, o p, fits p hp (by simpa using dropped), rfl⟩
  conserved := by
    rw [filtered, History.settlements_settled, History.discards_settled, List.append_nil,
      List.map_map, Correlator.filter_outstanding]
    have parts := (List.filter_append_perm keep c.correlator.outstanding).map Pending.callback
    rw [List.map_append] at parts
    exact parts.symm.trans ((all.map _).symm.append_left _)
  held p hp := by
    cases kept : keep p with
    | true => exact .outstanding (by rw [filtered]; exact List.mem_filter.2 ⟨hp, kept⟩)
    | false =>
      have hp := all.mem_iff.2 (List.mem_filter.2 ⟨hp, by simp [kept]⟩)
      have told : p.settle (o p) ∈ ended.map fun p => p.settle (o p) := List.mem_map.2 ⟨p, hp, rfl⟩
      exact @Held.settled _ _ _ _ _ (o p) (by rwa [History.settlements_settled])
  unready ready := by
    rw [filtered, Correlator.filter_outstanding]
    exact unready ready
  closed := closed

/-- A request is answered. -/
theorem dispatch {r : Response} {p : Pending} (found : c.correlator.find? r.id = some p)
    (unready : c.state ≠ .ready → c.correlator.outstanding = []) :
    Releases options c [.tell (.settled (p.settle (.answered r)))]
      { c with correlator := c.correlator.filter fun q => q.id ≠ r.id } := by
  have only : (c.correlator.outstanding.filter fun q => !decide (q.id ≠ r.id)) = [p] := by
    simpa using Correlator.filter_of_find? found
  have all : [p].Perm (c.correlator.outstanding.filter fun q => !decide (q.id ≠ r.id)) := by
    rw [only]
  exact settle _ (fun _ => .answered r) all
    (fun q _ same => .answered (Decidable.not_not.1 (of_decide_eq_false same)).symm) rfl
    (fun ready => by rw [unready ready]; rfl) id

/-- Requests that are too old fail. -/
theorem expire {now timeout : Nat} (unready : c.state ≠ .ready → c.correlator.outstanding = []) :
    Releases options c (((c.correlator.expire now timeout).2.map .settled).map .tell)
      (c.expired now timeout) := by
  exact settle (fun p => !decide (timeout ≤ p.age now)) (fun p => .failed (.timedOut p.id))
    (by simp only [Bool.not_not]; rfl) (fun p _ _ => .timedOut) rfl
    (fun ready => by rw [unready ready]; rfl) id

/-- All requests are released when the connection closes. -/
theorem closing {reason : CloseReason} (policy : c.correlator.policy = options.cancelPolicy) :
    Releases options c ((c.released reason).map .tell) (c.closed reason) := by
  have all := c.options.drain.perm c.correlator.outstanding
  obtain ⟨empty, ⟨notify, none, told⟩ | ⟨drop, none, dropped⟩⟩ :=
    c.correlator.cancelAll_eq reason c.options.drain
  · rw [released, none, told, List.map_nil, List.append_nil]
    exact settle (fun _ => false) (fun _ => .failed (.cancelled reason)) (by simpa using all)
      (fun p _ _ => .cancelled) empty (by simp) (by simp)
  · have released : (c.released reason).map Act.tell =
        (((c.options.drain.order c.correlator.outstanding).map Pending.callback).map
          .discarded).map .tell := by
      rw [released, none, dropped]
      rfl
    rw [released]
    refine
      { policy := by rw [closed_correlator, empty]; rfl
        nextId := by
          rw [closed_correlator, empty, History.frames_tell]
          exact (UInt64.add_zero _).symm
        sends := History.sends_discarded
        kept := by simp [empty]
        told := by simp [-List.map_map]
        conserved := by simpa [empty, -List.map_map] using (all.map _).symm
        held := fun p hp => .dropped ?_ (policy ▸ drop) rfl
        unready := by simp [empty]
        closed := fun _ => rfl }
    rw [History.discards_discarded]
    exact List.mem_map_of_mem (all.mem_iff.2 hp)

end Releases

/-! ### What a connection does -/

namespace Ledger

/-- What concerns no request, in a connection that stays ready or that was not. -/
theorem quiet (l : Ledger options flight g c) (apart : Apart h)
    (same : c'.correlator = c.correlator := by rfl)
    (unready : c'.state ≠ .ready → c.state ≠ .ready := by exact id)
    (closed : c.state = .closed → c'.state = .closed := by exact id) :
    Ledger options flight (g ++ h) c' := by
  have nextId : c'.correlator.nextId = c.correlator.nextId + .ofNat h.frames.length := by
    rw [same, apart.frames]
    exact (UInt64.add_zero _).symm
  have released := l.releases (.same (by rw [same]) nextId (by rw [same]) apart.settlements
    apart.discards apart.sends (fun ready => l.unready (unready ready)) closed)
  rwa [apart.callbacks, List.append_nil] at released

/-- What is told, when some requests cease to be outstanding. -/
theorem tells {out : List Output} (l : Ledger options flight g c)
    (x : Releases options c (out.map .tell) c') :
    Ledger options flight (g ++ out.map .tell) c' := by
  have released := l.releases x
  rwa [History.callbacks_tell, List.append_nil] at released

theorem silent (l : Ledger options flight g c) (same : c'.correlator = c.correlator := by rfl)
    (state : c'.state = c.state := by rfl) : Ledger options flight g c' := by
  simpa using l.quiet (h := []) {} same (by rw [state]; exact id) (by rw [state]; exact id)

theorem shows (status : LinkStatus) (l : Ledger options flight g c)
    (same : c'.correlator = c.correlator := by rfl) (state : c'.state = c.state := by rfl) :
    Ledger options flight (g ++ [.tell (.shown status)]) c' :=
  l.quiet {} same (by rw [state]; exact id) (by rw [state]; exact id)

theorem shuts {reason : CloseReason} (l : Ledger options flight g c)
    (x : c.Shuts reason h c') : Ledger options flight (g ++ h) c' := by
  cases x with
  | already => rwa [List.append_nil]
  | @now hang unclosed hangsUp =>
    have hung : Ledger options flight (g ++ hang) c :=
      l.quiet (by cases hangsUp <;> exact {})
    have shown : Ledger options flight _ c :=
      hung.shows { c.status with closeReason := some reason }
    have released : Ledger options flight _ (c.closed reason) := shown.tells (.closing shown.policy)
    have closed : Ledger options flight _ (c.closed reason) := released.quiet
      (h := [.tell (.shown (c.emptied reason).status), .tell (.shown (c.closed reason).status),
        .tell (.event (.stateChanged .closed)), .tell (.event (.closed reason))]) {}
    simpa [farewell, -List.map_map] using closed

theorem notesError {e : LinkError} (l : Ledger options flight g c) (x : c.NotesError e h c') :
    Ledger options flight (g ++ h) c' := by
  cases x with
  | harmless => exact l.shows _
  | fatal _ shuts =>
    have blamed : Ledger options flight _ (c.blame e) := l.shows (c.blame e).status
    rw [List.append_cons]
    exact blamed.shuts shuts

theorem delivers {m : Json} (l : Ledger options flight g c) (x : c.Delivers m h c') :
    Ledger options flight (g ++ h) c' := by
  cases x with
  | answered is found => simpa using l.releases (.dispatch found l.unready)
  | orphan => exact l.quiet {}
  | notification => exact l.quiet {}
  | unrecognized => exact l.quiet {}

theorem deliversAll {ms : List Json} (l : Ledger options flight g c)
    (x : c.DeliversAll ms h c') : Ledger options flight (g ++ h) c' := by
  induction x generalizing g with
  | nil => rwa [List.append_nil]
  | cons first rest ih =>
    rw [← List.append_assoc]
    exact ih (l.delivers first)

theorem pulls {channel : Channel} (l : Ledger options flight g c) (x : c.Pulls channel h c') :
    Ledger options flight (g ++ h) c' := by
  cases x with
  | @received chunk h c₁ a result delivers =>
    have read : Ledger options flight (g ++ [.call (.read channel.inbox), .answer _ a]) c :=
      l.quiet {}
    have spoiled : Apart (((c.spoiled chunk).map fun d => .event (.frameDropped d)).map .tell) :=
      .events (by simp)
    have fed : Ledger options flight _ (c.fed chunk) := read.quiet spoiled
    have tallied : Ledger options flight _ c₁.tallied :=
      (fed.deliversAll delivers).shows c₁.tallied.status
    simpa [-List.map_map] using tallied
  | failed a result notes =>
    have read : Ledger options flight (g ++ [.call (.read channel.inbox), .answer _ a]) c :=
      l.quiet {}
    simpa using read.notesError notes

theorem signals {channel : Channel} {payload : List UInt8} (l : Ledger options flight g c)
    (x : c.Signals channel payload h c') : Ledger options flight (g ++ h) c' := by
  have counted : Ledger options flight g (c.counted payload) := l.silent
  cases x with
  | ignored => rwa [List.append_nil]
  | announced _ pulls => exact counted.pulls pulls

theorem polls {channel : Channel} {tick : PollTick} (l : Ledger options flight g c)
    (x : c.Polls channel tick h c') : Ledger options flight (g ++ h) c' := by
  have read (a : LinkAnswer (.read channel.pollSignal)) :
      Ledger options flight (g ++ [.call (.read channel.pollSignal), .answer _ a]) c := l.quiet {}
  cases x with
  | signal signals => exact l.signals signals
  | due a result signals => simpa using (read a).signals signals
  | failed a result notes => simpa using (read a).notesError notes
  | ended shuts => exact l.shuts shuts

/-- Connecting concerns no request until it fails. -/
theorem findsService {r : Except RpcError Unit} (l : Ledger options flight g c)
    (state : c.state = .discovering) (x : c.FindsService h r c') :
    Ledger options flight (g ++ h) c' := by
  have blame {g : History} (l : Ledger options flight g c) (e : LinkError) :
      Ledger options flight (g ++ [.tell (.shown (c.blame e).status)]) (c.blame e) := l.shows _
  have discovered (a : LinkAnswer .discover) :
      Ledger options flight (g ++ [.call .discover, .answer .discover a]) c := l.quiet {}
  have started {g start : History} {channel : Channel} {r : Except LinkError Unit}
      (l : Ledger options flight g c) (x : c.StartsPolling channel start r) :
      Ledger options flight (g ++ start) c := l.quiet (by cases x <;> exact {})
  cases x with
  | lost result shuts => simpa using (blame (discovered _) _).shuts shuts
  | unusable result unusable shuts => simpa using (blame (discovered _) _).shuts shuts
  | unpolled result usable starts shuts =>
    simpa using (blame (started (discovered _) starts) _).shuts shuts
  | @found a services channel start result usable starts =>
    have opened : Ledger options flight _ (c.opened channel) :=
      (started (discovered a) starts).quiet
        (h := [.tell (.shown (c.opened channel).status), .tell (.event (.stateChanged .ready))]) {}
        rfl (fun unready => (unready rfl).elim) (by simp [state])
    simpa using opened

theorem establishes {r : Except RpcError Unit} (l : Ledger options flight g c)
    (x : c.Establishes h r c') : Ledger options flight (g ++ h) c' := by
  have connecting (a : LinkAnswer .connect) (state : c.state = .disconnected) :
      Ledger options flight (g ++ [.tell (.shown (c.enter .connecting).status),
        .tell (.event (.stateChanged .connecting)), .call .connect, .answer .connect a])
        (c.enter .connecting) :=
    l.quiet {} rfl (by simp [state]) (by simp [state])
  cases x with
  | already => rwa [List.append_nil]
  | refused => rwa [List.append_nil]
  | @unreachable a e h c' state result shuts =>
    have blamed : Ledger options flight _ ((c.enter .connecting).blame e) :=
      (connecting a state).shows ((c.enter .connecting).blame e).status
    simpa using blamed.shuts shuts
  | @connected a peer h r c' state result finds =>
    have linked : Ledger options flight _ ((c.enter .connecting).linked peer) :=
      (connecting a state).quiet
        (h := [.tell (.shown { (c.enter .connecting).status with peer := some peer }),
          .tell (.shown ((c.enter .connecting).linked peer).status),
          .tell (.event (.stateChanged .discovering))]) {} rfl nofun nofun
    simpa using linked.findsService rfl finds

/-! A command to send is taken, and its request is written, refused or accepted. -/

variable {ticket : Nat} {method : String} {params : Json} {asked : Option Callback}

theorem takes (l : Ledger options [] g c) :
    Ledger options asked.toList (g ++ [.take (.command ticket (.send method params asked))]) c := by
  have taken := l.releases (h := [.take (.command ticket (.send method params asked))])
    (.same rfl (UInt64.add_zero _).symm rfl rfl rfl rfl l.unready id)
  simpa using taken

theorem writes {inbox : Characteristic} {data : List UInt8} (l : Ledger options flight g c)
    (a : LinkAnswer (.write inbox data)) :
    Ledger options flight (g ++ [.call (.write inbox data), .answer _ a]) c.prepared := by
  have apart : Releases options c [.call (.write inbox data), .answer _ a] c.prepared :=
    .same rfl rfl rfl rfl rfl rfl l.unready id
  simpa using l.releases apart

theorem refuses {e : RpcError} (l : Ledger options asked.toList g c)
    (taken : (ticket, .send method params asked) ∈ g.commands) :
    Ledger options [] (g ++ ((asked.toList.map .discarded).map .tell ++
      [.tell (.reply ticket (.send (.error e)))])) c := by
  -- Only the projections of what is done are needed from here on.
  obtain ⟨h, made⟩ : ∃ h : History, h = (asked.toList.map .discarded).map .tell ++
    [.tell (.reply ticket (.send (.error e)))] := ⟨_, rfl⟩
  rw [← made]
  have frames : h.frames = [] := by simp [made, -List.map_map]
  have callbacks : h.callbacks = [] := by simp [made, -List.map_map]
  have settlements : h.settlements = [] := by simp [made, -List.map_map]
  have discards : h.discards = asked.toList := by simp [made, -List.map_map]
  have sends : h.sends = [(ticket, .error e)] := by simp [made, -List.map_map]
  refine
    { policy := l.policy
      nextId := by rw [History.frames_append, frames, List.append_nil, l.nextId]
      tracked := fun p hp => ?_
      settled := fun x hx => ?_
      conserved := ?_
      refused := fun t e' sent => ?_
      accepted := fun t id sent => ?_
      unready := l.unready
      ascending := ?_
      bounded := fun t id sent => ?_ }
  · obtain ⟨t, r⟩ := l.tracked p hp
    exact ⟨t, r.mono⟩
  · rw [History.settlements_append, settlements, List.append_nil] at hx
    obtain ⟨fits, t, r⟩ := l.settled x hx
    exact ⟨fits, t, r.mono⟩
  · rw [History.callbacks_append, callbacks, History.settlements_append, settlements,
      History.discards_append, discards, List.append_nil, List.append_nil, List.append_nil,
      ← List.append_assoc]
    exact l.conserved
  · rw [History.sends_append, sends] at sent
    rcases List.mem_append.1 sent with sent | sent
    · exact l.refused_mono sent
    · cases List.mem_singleton.1 sent
      refine ⟨method, params, asked, ?_, fun d hd => ?_⟩
      · rw [History.commands_append]
        exact List.mem_append_left _ taken
      · rw [History.discards_append, discards]
        exact List.mem_append_right _ (by simpa using hd)
  · rw [History.sends_append, sends] at sent
    rcases List.mem_append.1 sent with sent | sent
    · exact l.accepted_mono (fun p hp => .outstanding hp) (fun closed => closed) sent
    · cases List.mem_singleton.1 sent
  · have none : h.ids = [] := by rw [History.ids, sends]; rfl
    rw [History.ids_append, none, List.append_nil]
    exact l.ascending
  · rw [History.sends_append, sends] at sent
    rw [History.frames_append, frames, List.append_nil]
    rcases List.mem_append.1 sent with sent | sent
    · exact l.bounded t id sent
    · cases List.mem_singleton.1 sent

theorem lt_nextId {n : Nat} {id : RequestId} (l : Ledger options flight g c)
    (room : g.frames.length + 1 < UInt64.size) (sent : (n, .ok id) ∈ g.sends) :
    id < c.correlator.nextId := by
  rw [UInt64.lt_iff_toNat_lt, l.nextId, UInt64.toNat_ofNat_of_lt' room]
  exact Nat.lt_succ_of_le (l.bounded n id sent).2

variable {now : Nat}

theorem conserved_accepts (l : Ledger options asked.toList g c) (x : SentOff ticket request h)
    (table : c'.correlator.outstanding.Perm
      (asked.toList.map (⟨request, ·, now⟩) ++ c.correlator.outstanding)) :
    (History.callbacks (g ++ h)).Perm (c'.correlator.outstanding.map Pending.callback ++
      (History.settlements (g ++ h)).map Settlement.callback ++ History.discards (g ++ h) ++
        []) := by
  have asked : (c'.correlator.outstanding.map Pending.callback).Perm
      (asked.toList ++ c.correlator.outstanding.map Pending.callback) := by
    have mapped := table.map Pending.callback
    have own : asked.toList.map (Pending.callback ∘ (⟨request, ·, now⟩)) = asked.toList :=
      List.map_id _
    rw [List.map_append, List.map_map, own] at mapped
    exact mapped
  rw [List.perm_iff_count]
  intro d
  have before := List.perm_iff_count.1 l.conserved d
  have asked := List.perm_iff_count.1 asked d
  simp only [History.callbacks_append, x.callbacks, History.settlements_append, x.settlements,
    History.discards_append, x.discards, List.append_nil, List.count_append] at before asked ⊢
  omega

theorem ascending_accepts (l : Ledger options flight g c) (x : SentOff ticket request h)
    (later : ∀ n id, (n, .ok id) ∈ g.sends → id < request.id) :
    (History.ids (g ++ h)).Pairwise (· < ·) := by
  have ids : h.ids = [request.id] := by
    rw [History.ids, x.sends]
    rfl
  rw [History.ids_append, ids, List.pairwise_append]
  refine ⟨l.ascending, List.pairwise_singleton .., fun id hid next hnext => ?_⟩
  obtain ⟨⟨n, r⟩, sent, ok⟩ := List.mem_filterMap.1 hid
  cases r with
  | error e => cases ok
  | ok id =>
    cases ok
    rw [List.mem_singleton.1 hnext]
    exact later n _ sent

/-- A request that was written becomes outstanding under the next id. -/
theorem accepts (l : Ledger options asked.toList g c) (x : SentOff ticket request h)
    (taken : (ticket, .send method params asked) ∈ g.commands) (ready : c'.state = .ready)
    (unclosed : c.state ≠ .closed) (room : g.frames.length + 1 < UInt64.size)
    (is : request = .new c.correlator.nextId method params)
    (policy : c'.correlator.policy = c.correlator.policy)
    (nextId : c'.correlator.nextId = c.correlator.nextId + 1)
    (table : c'.correlator.outstanding.Perm
      (asked.toList.map (⟨request, ·, now⟩) ++ c.correlator.outstanding)) :
    Ledger options [] (g ++ h) c' := by
  have number : request.id = c.correlator.nextId := by rw [is]; rfl
  have later : ∀ n id, (n, .ok id) ∈ g.sends → id < request.id := fun n id sent => by
    rw [number]
    exact l.lt_nextId room sent
  have taken : (ticket, .send method params asked) ∈ History.commands (g ++ h) := by
    rw [History.commands_append]
    exact List.mem_append_left _ taken
  have wrote : History.Wrote (g ++ h) request := by
    obtain ⟨inbox, wrote⟩ := x.wrote
    exact ⟨inbox, by rw [History.exchanges_append]; exact List.mem_append_right _ wrote⟩
  have same : request = .new request.id method params := by rw [is]; rfl
  have sent : (ticket, .ok request.id) ∈ History.sends (g ++ h) := by
    rw [History.sends_append, x.sends]
    exact List.mem_append_right _ (List.mem_singleton.2 rfl)
  refine
    { policy := policy.trans l.policy
      nextId := ?_
      tracked := fun p hp => ?_
      settled := fun y hy => ?_
      conserved := l.conserved_accepts x table
      refused := fun n e sent => ?_
      accepted := fun n id sent => ?_
      unready := fun unready => (unready ready).elim
      ascending := l.ascending_accepts x later
      bounded := fun n id sent => ?_ }
  · rw [nextId, l.nextId, History.frames_append, List.length_append, x.frames]
    exact (UInt64.ofNat_add _ 1).symm
  · rcases List.mem_append.1 (table.mem_iff.1 hp) with hp | hp
    · obtain ⟨d, hd, rfl⟩ := List.mem_map.1 hp
      obtain rfl : asked = some d := by simpa using hd
      exact ⟨ticket, ⟨method, params, taken, same⟩, wrote, sent⟩
    · obtain ⟨n, r⟩ := l.tracked p hp
      exact ⟨n, r.mono⟩
  · rw [History.settlements_append, x.settlements, List.append_nil] at hy
    obtain ⟨fits, n, r⟩ := l.settled y hy
    exact ⟨fits, n, r.mono⟩
  · rw [History.sends_append, x.sends] at sent
    rcases List.mem_append.1 sent with sent | sent
    · exact l.refused_mono sent
    · cases List.mem_singleton.1 sent
  · rw [History.sends_append, x.sends] at sent
    rcases List.mem_append.1 sent with sent | sent
    · exact l.accepted_mono
        (fun p hp => .outstanding (table.mem_iff.2 (List.mem_append_right _ hp)))
        (fun closed => (unclosed closed).elim) sent
    · cases List.mem_singleton.1 sent
      refine ⟨method, params, asked, taken, ?_⟩
      rw [← same]
      refine ⟨wrote, fun d hd => ?_⟩
      have entry : ⟨request, d, now⟩ ∈ c'.correlator.outstanding :=
        table.mem_iff.2 (List.mem_append_left _ (List.mem_map.2 ⟨d, by simpa using hd, rfl⟩))
      exact .outstanding entry
  · rw [History.sends_append, x.sends] at sent
    rw [History.frames_append, List.length_append, x.frames]
    rcases List.mem_append.1 sent with sent | sent
    · obtain ⟨least, most⟩ := l.bounded n id sent
      exact ⟨least, Nat.le_succ_of_le most⟩
    · cases List.mem_singleton.1 sent
      rw [number, l.nextId, UInt64.toNat_ofNat_of_lt' room]
      exact ⟨Nat.succ_pos _, Nat.le_refl _⟩

/-- A request that is written is registered, and displaces nothing. -/
theorem registers {inbox : Characteristic} (l : Ledger options asked.toList g c)
    (taken : (ticket, .send method params asked) ∈ g.commands) (ready : c.state = .ready)
    (room : g.frames.length + 1 < UInt64.size)
    (is : request = .new c.correlator.nextId method params)
    (a : LinkAnswer (.write inbox (Frame.encode request.document)))
    (result : a.result = .ok ()) :
    (c.prepared.correlator.register a.time request asked).2 = none ∧
      Ledger options [] (g ++ [.call (.write inbox (Frame.encode request.document)), .answer _ a,
        .tell (.shown (c.prepared.registered a.time request asked).status),
        .tell (.reply ticket (.send (.ok request.id)))])
        (c.prepared.registered a.time request asked) := by
  -- An outstanding request was sent, so it has an id below the next one.
  have fresh : ∀ p ∈ c.correlator.outstanding, p.id ≠ request.id := by
    intro p hp
    obtain ⟨n, r⟩ := l.tracked p hp
    rw [is]
    exact UInt64.ne_of_lt (l.lt_nextId room r.sent)
  obtain ⟨none, table⟩ := c.prepared.correlator.register_fresh a.time asked fresh
  have sentOff : SentOff ticket request [.call (.write inbox (Frame.encode request.document)),
      .answer (.write inbox (Frame.encode request.document)) a,
      .tell (.shown (c.prepared.registered a.time request asked).status),
      .tell (.reply ticket (.send (.ok request.id)))] :=
    { wrote := ⟨inbox, by simp [result]⟩ }
  exact ⟨none, l.accepts sentOff taken ready (by rw [ready]; exact nofun) room is
    Correlator.register_policy Correlator.register_nextId table⟩

theorem sends {r : Except RpcError RequestId} (l : Ledger options asked.toList g c)
    (taken : (ticket, .send method params asked) ∈ g.commands)
    (room : (History.frames (g ++ h)).length < UInt64.size)
    (x : c.Sends method params asked h r c') :
    Ledger options [] (g ++ (h ++ [.tell (.reply ticket (.send r))])) c' := by
  cases x with
  | refused => exact l.refuses taken
  | @failed channel request e h c' state inUse is a result notes =>
    have noted := (l.writes a).notesError notes
    have taken : (ticket, .send method params asked) ∈ History.commands
        (g ++ [.call (.write channel.inbox (Frame.encode request.document)), .answer _ a] ++
          h) := by
      rw [List.append_assoc, History.commands_append]
      exact List.mem_append_left _ taken
    simpa [-List.map_map] using noted.refuses (e := .transport e) taken
  | @written channel request state inUse is a result =>
    have room : g.frames.length + 1 < UInt64.size := by simpa [-List.map_map] using room
    obtain ⟨none, registered⟩ := l.registers taken state room is a result
    rw [none]
    exact registered

/-- Whatever a connection does on a stimulus, as long as fewer than `2 ^ 64` requests are
written. -/
theorem reacts {x : Stimulus} (l : Ledger options [] g c)
    (room : (History.frames (g ++ .take x :: h)).length < UInt64.size) (reacts : c.Reacts x h c') :
    Ledger options [] (g ++ .take x :: h) c'.rested := by
  have rest {h : History} {d : Connection} (l : Ledger options [] h d) :
      Ledger options [] h d.rested := l.silent
  rw [List.append_cons] at room ⊢
  refine rest ?_
  cases reacts with
  | @connect ticket h r c' establishes =>
    have taken : Ledger options [] (g ++ [.take (.command ticket .connect)]) c := l.quiet {}
    have replied : Ledger options [] _ c' := (taken.establishes establishes).quiet
      (h := [.tell (.reply ticket (.connect r))]) {}
    simpa using replied
  | @send ticket method params asked h r c' sends =>
    have taken : (ticket, .send method params asked) ∈ History.commands
        (g ++ [.take (.command ticket (.send method params asked))]) := by simp
    refine l.takes.sends taken ?_ sends
    simpa using room
  | @close ticket h c' shuts =>
    have taken : Ledger options [] (g ++ [.take (.command ticket .close)]) c := l.quiet {}
    have replied : Ledger options [] _ c' := (taken.shuts shuts).quiet
      (h := [.tell (.reply ticket .close)]) {}
    simpa using replied
  | clientsGone shuts =>
    have taken : Ledger options [] (g ++ [.take .clientsGone]) c := l.quiet {}
    exact taken.shuts shuts
  | linkLost shuts =>
    have taken : Ledger options [] (g ++ [.take .linkLost]) c := l.quiet {}
    exact taken.shuts shuts
  | @poll channel tick h c' inUse polls =>
    have taken : Ledger options [] (g ++ [.take (.poll tick)]) c := l.quiet {}
    exact taken.polls polls
  | @sweep now timeout limited =>
    have taken : Ledger options [] (g ++ [.take (.sweep now)]) c := l.quiet {}
    have expired : Ledger options [] _ (c.expired now timeout) :=
      taken.tells (.expire taken.unready)
    rw [expiry, List.map_append, ← List.append_assoc]
    split
    · rwa [List.map_nil, List.append_nil]
    · exact expired.shows _
  | @unlimited now unlimited =>
    rw [List.append_nil]
    exact l.quiet {}

theorem new : Ledger options [] [] (.new options) where
  policy := rfl
  nextId := rfl
  tracked := nofun
  settled := nofun
  conserved := .nil
  refused := nofun
  accepted := nofun
  unready := fun _ => rfl
  ascending := .nil
  bounded := nofun

end Ledger

/-- The ledger of a run with fewer than `2 ^ 64` requests, whenever it awaits a stimulus. -/
theorem Connection.Run.ledger {t : Standing} (mode : options.pollMode ≠ .interval 0)
    (run : Connection.Run options h t) :
    t.Upholds (fun h c => Steady options h c ∧
      (h.frames.length < UInt64.size → Ledger options [] h c)) h := by
  refine run.upholds mode (fun _ => .new) fun {h h' c c' x} _ holds _ reacts room => ?_
  refine (holds ?_).reacts room reacts
  rw [History.frames_append, List.length_append] at room
  exact Nat.lt_of_le_of_lt (Nat.le_add_right ..) room

end GattRpc
