import GattRpc.Proofs.Connection.Ledger
import GattRpc.Proofs.Connection.LinkCalls
import Mathlib.Data.List.Nodup

/-! # What has become of a callback

In a run that was given each callback once, a callback of a request that was sent is in one place
only. `Fate` says in which, and leaves no room for another. -/

namespace GattRpc

/-- Each ticket is used once, and a callback carries the ticket of its command. -/
structure Ticketed (h : History) : Prop where
  once : (h.commands.map Prod.fst).Nodup
  own : ∀ ticket method params callback,
    (ticket, .send method params (some callback)) ∈ h.commands → callback.token = ticket

/-- Where the callback of this token is outstanding. -/
def Correlator.waiting (c : Correlator) (token : Nat) : List Pending :=
  c.outstanding.filter fun p => p.callback.token = token

/-- What the callback of this token was told. -/
def History.told (h : History) (token : Nat) : List Settlement :=
  h.settlements.filter fun x => x.callback.token = token

/-- How the callback of this token was dropped. -/
def History.dropped (h : History) (token : Nat) : List Callback :=
  h.discards.filter fun d => d.token = token

/-- The one place where the callback of a request is that was sent. -/
inductive Fate (options : Options) (h : History) (c : Connection) (request : Request)
    (callback : Callback) : Prop
  | outstanding {since : Nat} (ready : c.state = .ready)
    (entry : c.correlator.find? request.id = some ⟨request, callback, since⟩)
    (waiting : c.correlator.waiting callback.token = [⟨request, callback, since⟩])
    (told : h.told callback.token = []) (dropped : h.dropped callback.token = [])
  | settled {outcome : Outcome} (fits : outcome.Fits request.id)
    (waiting : c.correlator.waiting callback.token = [])
    (told : h.told callback.token = [⟨callback, request, outcome⟩])
    (dropped : h.dropped callback.token = [])
  | dropped (policy : options.cancelPolicy = .drop) (closed : c.state = .closed)
    (waiting : c.correlator.waiting callback.token = []) (told : h.told callback.token = [])
    (dropped : h.dropped callback.token = [callback])

section Once

variable {α : Type} {f : α → Nat} {l : List α} {a : α} {n : Nat}

theorem filter_nil_of_count (none : (l.map f).count n = 0) : l.filter (fun b => f b = n) = [] := by
  refine List.filter_eq_nil_iff.2 fun b hb => ?_
  have other := List.count_eq_zero.1 none
  simp only [decide_eq_true_eq]
  exact fun same => other (List.mem_map.2 ⟨b, hb, same⟩)

theorem filter_singleton_of_count (ha : a ∈ l) (once : (l.map f).count (f a) ≤ 1) :
    l.filter (fun b => f b = f a) = [a] := by
  have length : (l.filter fun b => f b = f a).length ≤ 1 := by
    rw [List.count_eq_countP, List.countP_map, List.countP_eq_length_filter] at once
    exact once
  have mem : a ∈ l.filter fun b => f b = f a := List.mem_filter.2 ⟨ha, by simp⟩
  cases found : l.filter fun b => f b = f a with
  | nil => rw [found] at mem; cases mem
  | cons b rest =>
    rw [found] at mem length
    obtain rfl : rest = [] :=
      List.length_eq_zero_iff.1 (Nat.le_zero.1 (Nat.le_of_succ_le_succ length))
    rw [List.mem_singleton.1 mem]

end Once

variable {options : Options} {c c' : Connection} {g h : History} {x : Stimulus} {t : Standing}
  {request : Request} {callback : Callback}

/-! ### Tickets -/

namespace Ticketed

theorem tail {a : Act} (k : Ticketed (a :: h)) : Ticketed h := by
  refine ⟨?_, fun n method params d hd => k.own n method params d ?_⟩
  · have once := k.once
    rw [History.commands_cons, List.map_append] at once
    exact (List.nodup_append.1 once).2.1
  · rw [History.commands_cons]
    exact List.mem_append_right _ hd

/-- The callbacks carry some of the tickets, in order. -/
theorem sublist (k : Ticketed h) :
    (h.callbacks.map Callback.token).Sublist (h.commands.map Prod.fst) := by
  induction h with
  | nil => exact .refl _
  | cons a h ih =>
    have rest := ih k.tail
    rw [History.callbacks_cons, History.commands_cons, List.map_append, List.map_append]
    refine List.Sublist.append ?_ rest
    match a, k with
    | .take (.command n (.send method params (some d))), k =>
      have own : d.token = n := k.own n method params d (by simp)
      simp [own]
    | .take (.command n (.send method params none)), _ => simp
    | .take (.command n .connect), _ | .take (.command n .close), _ => simp
    | .take .clientsGone, _ | .take .linkLost, _ | .take (.poll _), _ | .take (.sweep _), _ => simp
    | .call _, _ | .answer _ _, _ | .tell _, _ => simp

theorem append {more : History} (k : Ticketed h) (none : more.commands = []) :
    Ticketed (h ++ more) := by
  refine ⟨?_, fun n method params d hd => k.own n method params d ?_⟩
  · rw [History.commands_append, none, List.append_nil]
    exact k.once
  · rwa [History.commands_append, none, List.append_nil] at hd

theorem tokens (k : Ticketed h) : (h.callbacks.map Callback.token).Nodup :=
  k.sublist.nodup k.once

theorem eq_of_mem {n : Nat} {a b : Command} (k : Ticketed h) (ha : (n, a) ∈ h.commands)
    (hb : (n, b) ∈ h.commands) : a = b :=
  congrArg Prod.snd (List.inj_on_of_nodup_map k.once ha hb rfl)

end Ticketed

namespace Ledger

/-- A token is outstanding, told or dropped as often as it was given. -/
theorem count_token (l : Ledger options [] h c) (n : Nat) :
    (h.callbacks.map Callback.token).count n =
      (c.correlator.outstanding.map fun p => p.callback.token).count n +
        (h.settlements.map fun x => x.callback.token).count n +
          (h.discards.map Callback.token).count n := by
  have conserved := List.perm_iff_count.1 (l.conserved.map Callback.token) n
  simpa [List.count_append, Function.comp_def, Nat.add_assoc] using conserved

/-- The callback of a request that was sent is in one place. -/
theorem fate (l : Ledger options [] h c) (k : Ticketed h)
    (held : Held options h c request callback) : Fate options h c request callback := by
  have count := l.count_token callback.token
  have most := List.nodup_iff_count.1 k.tokens callback.token
  rw [count] at most
  cases held with
  | @outstanding since entry =>
    have here : 0 < (c.correlator.outstanding.map fun p => p.callback.token).count callback.token :=
      List.count_pos_iff.2 (List.mem_map.2 ⟨_, entry, rfl⟩)
    refine .outstanding (Decidable.not_not.1 fun unready => ?_)
      (Correlator.find?_of_mem entry) (filter_singleton_of_count entry (by dsimp only; omega))
      (filter_nil_of_count (by omega)) (filter_nil_of_count (by omega))
    rw [l.unready unready] at entry
    cases entry
  | @settled outcome told =>
    have here : 0 < (h.settlements.map fun x => x.callback.token).count callback.token :=
      List.count_pos_iff.2 (List.mem_map.2 ⟨_, told, rfl⟩)
    exact .settled (l.settled _ told).1 (filter_nil_of_count (by omega))
      (filter_singleton_of_count told (by dsimp only; omega)) (filter_nil_of_count (by omega))
  | dropped dropped policy closed =>
    have here : 0 < (h.discards.map Callback.token).count callback.token :=
      List.count_pos_iff.2 (List.mem_map_of_mem dropped)
    exact .dropped policy closed (filter_nil_of_count (by omega)) (filter_nil_of_count (by omega))
      (filter_singleton_of_count dropped (by omega))

theorem untold {ticket : Nat} {e : RpcError} (l : Ledger options [] h c) (k : Ticketed h)
    (sent : (ticket, .error e) ∈ h.sends) : h.told ticket = [] := by
  refine List.filter_eq_nil_iff.2 fun x hx => ?_
  simp only [decide_eq_true_eq]
  rintro rfl
  obtain ⟨-, n, r⟩ := l.settled x hx
  obtain ⟨method, params, asked, -⟩ := r.asked
  obtain rfl := k.own _ _ _ _ asked
  obtain ⟨method', params', callback, asked', dropped⟩ := l.refused _ e sent
  cases k.eq_of_mem asked asked'
  have count := l.count_token x.callback.token
  have most := List.nodup_iff_count.1 k.tokens x.callback.token
  have told : 0 < (h.settlements.map fun x => x.callback.token).count x.callback.token :=
    List.count_pos_iff.2 (List.mem_map.2 ⟨x, hx, rfl⟩)
  have dropped : 0 < (h.discards.map Callback.token).count x.callback.token :=
    List.count_pos_iff.2 (List.mem_map_of_mem (dropped _ rfl))
  omega

end Ledger

/-! ### Amid a reaction -/

namespace Connection

/-- The ledger when a stimulus is awaited again, which takes no more requests. -/
theorem Run.ledger_ahead (mode : options.pollMode ≠ .interval 0) (run : Run options h t)
    (room : h.frames.length < UInt64.size) :
    ∃ more c, more.commands = [] ∧ Steady options (h ++ more) c ∧
      Ledger options [] (h ++ more) c := by
  obtain ⟨more, c, commands, frames, steady, ledger⟩ := (run.ledger mode).ahead
  refine ⟨more, c, commands, steady, ledger ?_⟩
  rw [History.frames_append, frames, List.append_nil]
  exact room

theorem Run.ids_ascending (mode : options.pollMode ≠ .interval 0) (run : Run options h t)
    (room : h.frames.length < UInt64.size) : h.ids.Pairwise (· < ·) := by
  obtain ⟨more, c, -, -, l⟩ := run.ledger_ahead mode room
  have ascending := l.ascending
  rw [History.ids_append] at ascending
  exact (List.pairwise_append.1 ascending).1

/-! ### After the end -/

theorem Reacts.settlements_of_closed (l : Ledger options [] g c) (s : Steady options g c)
    (closed : c.state = .closed) (r : c.Reacts x h c') : h.settlements = [] := by
  have unready : c.state ≠ .ready := by rw [closed]; exact nofun
  have shuts {reason : CloseReason} {h : History} {c' : Connection} (s : c.Shuts reason h c') :
      h.settlements = [] := by
    cases s with
    | already => rfl
    | now unclosed => exact (unclosed closed).elim
  cases r with
  | connect establishes =>
    cases establishes with
    | already => rfl
    | refused => rfl
    | unreachable state => rw [closed] at state; cases state
    | connected state => rw [closed] at state; cases state
  | send sends =>
    cases sends with
    | refused => simp [-List.map_map]
    | failed state => exact (unready state).elim
    | written state => exact (unready state).elim
  | close s => simp [shuts s]
  | clientsGone s => exact shuts s
  | linkLost s => exact shuts s
  | poll inUse => exact (unready (s.stage.of_inUse inUse)).elim
  | sweep =>
    have empty := l.unready unready
    simp [expiry, Correlator.expire, empty]
  | unlimited => rfl

theorem Run.settlements_of_closed (mode : options.pollMode ≠ .interval 0) (run : Run options h t)
    (room : h.frames.length < UInt64.size) (closed : t.connection.state = .closed) {more : History}
    {t' : Standing} (path : t.Path more t') : more.settlements = [] := by
  induction path with
  | refl => rfl
  | @step t' t'' more acts path step ih =>
    have quiet : more.frames = [] := History.frames_of_calls
      (run.calls_nil_of_closed mode ((run.entered mode).trans closed) path)
    have run' := run.append path
    have closed' := run.closed_of_closed mode closed path
    have closed'' := run.closed_of_closed mode closed (path.step step)
    obtain ⟨steady, idle⟩ := run'.awaits_stimulus mode closed'
    obtain ⟨-, idle'⟩ := (run'.step step).awaits_stimulus mode
      (by simpa [List.append_assoc] using closed'')
    rw [History.settlements_append, ih, List.nil_append]
    cases step with
    | @take c x awaits =>
      have ledger := (run'.ledger mode).2 (by simpa [quiet] using room)
      have safe : (handle x).Safe AtCall (h ++ more) c := safe_handle steady mode
      rcases safe.standing with ⟨d, ends, -⟩ | ⟨d, l, resume, stands⟩
      · obtain ⟨e, reacts, -⟩ := reacts_of_ends awaits ends
        rw [History.settlements_cons]
        exact reacts.settlements_of_closed ledger steady closed'
      · rw [stands] at idle'
        cases idle'
    | answer a => cases idle

end Connection

end GattRpc
