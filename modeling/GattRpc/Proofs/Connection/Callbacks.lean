import GattRpc.Proofs.Connection.Deeds
import GattRpc.Proofs.Connection.Fates

/-! # Where callbacks go

A callback that a task was given is in its hand while it reacts to the command, then in the table of
outstanding requests, and in the end it is told an outcome or dropped. It is never in two of these
places, and never lost (`Connection.Deeds.conserved`), whatever ids are given out. -/

namespace GattRpc

open Connection History

/-- The callback of the stimulus that a task reacts to. -/
def inHand (u : Option Stimulus) : List Callback :=
  (u.bind fun x => (Act.take x).callback?).toList

/-- Callbacks leave the table only to be told an outcome or to be dropped. -/
structure Connection.Moves (c : Connection) (h : History) (c' : Connection) : Prop where
  callbacks : h.callbacks = []
  moved : (c.correlator.outstanding.map Pending.callback).Perm
    (c'.correlator.outstanding.map Pending.callback ++ h.settlements.map Settlement.callback ++
      h.discards)

/-- Each callback is in one place. -/
def Conserved (u : Option Stimulus) (h : History) (c : Connection) : Prop :=
  h.callbacks.Perm (c.correlator.outstanding.map Pending.callback ++
    h.settlements.map Settlement.callback ++ h.discards ++ inHand u)

/-- A command of this ticket was taken which this is a reply to. If it was to send and failed, then
its callback was dropped. -/
structure Honours (h : History) (n : Nat) (y : Reply) : Prop where
  taken : ∃ cmd, (n, cmd) ∈ h.commands ∧ y.Answers cmd
  dropped : ∀ e, y = .send (.error e) → ∃ method params callback,
    (n, .send method params callback) ∈ h.commands ∧ ∀ d ∈ callback, d ∈ h.discards

/-- It is the last that is told about the callback of this token. -/
def Output.Concludes (n : Nat) : Output → Prop
  | settled x => x.callback.token = n
  | discarded d => d.token = n
  | reply _ (.send (.ok _)) | shown _ | event _ => False
  | reply m _ => m = n

variable {options : Options} {u : Option Stimulus} {c c' : Connection} {g h : History} {n : Nat}
  {y : Reply}

theorem Act.Neutral.silent {a : Act} (n : a.Neutral) :
    a.callback? = none ∧ a.settlement? = none ∧ a.discarded? = none := by
  cases a with
  | take => exact n.elim
  | call | answer => exact ⟨rfl, rfl, rfl⟩
  | tell o =>
    cases o with
    | shown | event => exact ⟨rfl, rfl, rfl⟩
    | settled | discarded | reply => exact n.elim

namespace Connection.Moves

theorem still (silent : ∀ a ∈ h, a.callback? = none ∧ a.settlement? = none ∧ a.discarded? = none)
    (same : c'.correlator.outstanding = c.correlator.outstanding) : c.Moves h c' := by
  have callbacks : h.callbacks = [] := List.filterMap_eq_nil_iff.2 fun a ha => (silent a ha).1
  have settlements : h.settlements = [] := List.filterMap_eq_nil_iff.2 fun a ha => (silent a ha).2.1
  have discards : h.discards = [] := List.filterMap_eq_nil_iff.2 fun a ha => (silent a ha).2.2
  refine ⟨callbacks, ?_⟩
  rw [same, settlements, discards, List.append_nil, List.map_nil, List.append_nil]

theorem settles {ended : List Pending} (keep : Pending → Bool) (o : Pending → Outcome)
    (all : ended.Perm (c.correlator.outstanding.filter fun p => !keep p))
    (filtered : c'.correlator.outstanding = c.correlator.outstanding.filter keep) :
    c.Moves (((ended.map fun p => p.settle (o p)).map .settled).map .tell) c' := by
  refine ⟨callbacks_tell _, ?_⟩
  rw [filtered, settlements_settled, discards_settled, List.append_nil, List.map_map]
  have parts := (List.filter_append_perm keep c.correlator.outstanding).map Pending.callback
  rw [List.map_append] at parts
  exact parts.symm.trans ((all.map _).symm.append_left _)

theorem trans {c'' : Connection} (m : c.Moves g c') (m' : c'.Moves h c'') :
    c.Moves (g ++ h) c'' := by
  refine ⟨by rw [callbacks_append, m.callbacks, m'.callbacks, List.append_nil], ?_⟩
  rw [List.perm_iff_count]
  intro d
  have first := List.perm_iff_count.1 m.moved d
  have second := List.perm_iff_count.1 m'.moved d
  simp only [settlements_append, discards_append, List.map_append, List.count_append] at *
  omega

theorem closing {reason : CloseReason} :
    c.Moves ((c.farewell reason).map .tell) (c.closed reason) := by
  have all := c.options.drain.perm c.correlator.outstanding
  have released : c.Moves ((c.released reason).map .tell) (c.closed reason) := by
    obtain ⟨empty, ⟨-, none, told⟩ | ⟨-, none, dropped⟩⟩ :=
      c.correlator.cancelAll_eq reason c.options.drain
    · rw [released, none, told, List.map_nil, List.append_nil]
      exact settles (fun _ => false) (fun _ => .failed (.cancelled reason)) (by simpa using all)
        (congrArg _ empty)
    · refine ⟨callbacks_tell _, ?_⟩
      rw [released, none, dropped, closed_correlator, empty]
      simpa [-List.map_map] using (all.map _).symm
  have first : c.Moves [.tell (.shown { c.status with closeReason := some reason })] c :=
    still (by simp) rfl
  have last : (c.closed reason).Moves
      ([Output.shown (c.emptied reason).status, .shown (c.closed reason).status,
        .event (.stateChanged .closed), .event (.closed reason)].map .tell)
      (c.closed reason) := still (by simp) rfl
  have told := (first.trans released).trans last
  rw [farewell, List.map_cons, List.map_append]
  exact told

theorem delivers {m : Json} (d : c.Delivers m h c') : c.Moves h c' := by
  cases d with
  | @answered y p is found =>
    have only : (c.correlator.outstanding.filter fun q => !decide (q.id ≠ y.id)) = [p] := by
      simpa using Correlator.filter_of_find? found
    have all : [p].Perm (c.correlator.outstanding.filter fun q => !decide (q.id ≠ y.id)) := by
      rw [only]
    exact settles _ (fun _ => .answered y) all rfl
  | orphan | notification | unrecognized => exact still (by simp) rfl

theorem deliversAll {ms : List Json} (d : c.DeliversAll ms h c') : c.Moves h c' := by
  induction d with
  | nil => exact still nofun rfl
  | cons first rest ih => exact (delivers first).trans ih

end Connection.Moves

namespace Conserved

theorem new : Conserved none [] (.new options) := .refl _

theorem moves (k : Conserved u g c) (m : c.Moves h c') : Conserved u (g ++ h) c' := by
  rw [Conserved, List.perm_iff_count]
  intro d
  have before := List.perm_iff_count.1 k d
  have moved := List.perm_iff_count.1 m.moved d
  simp only [callbacks_append, m.callbacks, List.append_nil, settlements_append, discards_append,
    List.map_append, List.count_append] at *
  omega

theorem takes (k : Conserved none g c) (x : Stimulus) : Conserved (some x) (g ++ [.take x]) c := by
  rw [Conserved, callbacks_append, settlements_append, discards_append]
  have taken := List.Perm.append_right (inHand (some x)) k
  rw [show inHand none = [] from rfl, List.append_nil] at taken
  simpa [inHand] using taken

theorem drops {x : Stimulus} {ds : List Callback} (k : Conserved (some x) g c)
    (held : inHand (some x) = ds)
    (silent : h.callbacks = [] ∧ h.settlements = [] ∧ h.discards = ds) :
    Conserved none (g ++ h) c := by
  obtain ⟨callbacks, settlements, discards⟩ := silent
  rw [Conserved, callbacks_append, settlements_append, discards_append, callbacks, settlements,
    discards, ← held, List.append_nil, List.append_nil, show inHand none = [] from rfl,
    List.append_nil, ← List.append_assoc]
  exact k

/-- A request that was written takes its callback along, and displaces the one of its id. -/
theorem registers {callback : Option Callback}
    {request : Request} {now : Nat} (k : Conserved none g c)
    (callbacks : h.callbacks = callback.toList) (settlements : h.settlements = [])
    (discards : h.discards = (c.prepared.correlator.register now request callback).2.toList) :
    Conserved none (g ++ h) (c.prepared.registered now request callback) := by
  have table : (callback.toList ++ c.correlator.outstanding.map Pending.callback).Perm
      ((c.prepared.registered now request callback).correlator.outstanding.map Pending.callback ++
        (c.prepared.correlator.register now request callback).2.toList) := by
    cases callback with
    | none =>
      show (c.correlator.outstanding.map Pending.callback).Perm (_ ++ [])
      rw [List.append_nil]
      rfl
    | some d =>
      let p : Pending := ⟨request, d, now⟩
      have placed := (Pending.insert_perm_filter (p := p) c.correlator.ascending).map
        Pending.callback
      have parts := (List.filter_append_perm (fun q => q.id ≠ p.id) c.correlator.outstanding).map
        Pending.callback
      -- What the new entry displaces is the one that had its id.
      have displaced : (c.correlator.outstanding.filter fun q => !decide (q.id ≠ p.id)) =
          (c.correlator.find? p.id).toList := by
        cases found : c.correlator.find? p.id with
        | none => simpa using Correlator.find?_eq_none.1 found
        | some q => simpa using Correlator.filter_of_find? found
      rw [displaced, List.map_append, ← Option.toList_map] at parts
      exact (parts.symm.cons d).trans (placed.symm.append_right _)
  rw [Conserved, List.perm_iff_count]
  intro d
  have before := List.perm_iff_count.1 k d
  have table := List.perm_iff_count.1 table d
  simp only [callbacks_append, callbacks, settlements_append, settlements, discards_append,
    discards, List.append_nil, List.count_append] at *
  omega

end Conserved

namespace Connection.Deeds

theorem conserved (d : Deeds options u h c) : Conserved u h c := by
  induction d with
  | start => exact .new
  | takes x deeds ih => exact ih.takes x
  | spares deeds k ih =>
    exact ih.moves (.still (fun a ha => (k.neutral a ha).silent) k.outstanding)
  | closes reason deeds unclosed ih => exact ih.moves .closing
  | @receives u g h c c' ch chunk deeds ready inbox a result delivers ih =>
    have read : Conserved u (g ++ Act.answer (.read ch) a ::
        ((c.spoiled chunk).map fun d => Output.event (.frameDropped d)).map .tell) (c.fed chunk) :=
      ih.moves (.still (by simp) rfl)
    have delivered := read.moves (.deliversAll delivers)
    have shown : c'.Moves [.tell (.shown c'.tallied.status)] c'.tallied := .still (by simp) rfl
    have tallied := delivered.moves shown
    simp only [List.append_assoc, List.cons_append] at tallied ⊢
    exact tallied
  | @expires u h c timeout now deeds limited ih =>
    have settles : c.Moves _ (c.expired now timeout) :=
      .settles (fun p => !decide (timeout ≤ p.age now)) (fun p => .failed (.timedOut p.id))
        (by simp only [Bool.not_not]; rfl) rfl
    obtain ⟨shown, is⟩ := c.expiry_eq now timeout
    rw [is, List.map_append]
    exact ih.moves (settles.trans (.still (by simp) rfl))
  | registers deeds ready is a result ih =>
    refine ih.registers ?_ ?_ ?_
    all_goals simp [-List.map_map]
  | refuses e deeds ih => exact ih.drops rfl (by simp [inHand, -List.map_map])
  | @replies h c n cmd r deeds answers other ih =>
    have empty : inHand (some (.command n cmd)) = [] := by
      cases cmd with
      | send method params callback => exact (other method params callback rfl).elim
      | connect | close => rfl
    exact ih.drops empty (by simp)
  | @rests h c x deeds other ih =>
    have empty : inHand (some x) = [] := by
      cases x with
      | command n cmd => exact (other n cmd rfl).elim
      | clientsGone | linkLost | poll | sweep => rfl
    rw [Conserved, empty] at ih
    exact ih

theorem taken (d : Deeds options u h c) : ∀ x ∈ u, .take x ∈ h := by
  induction d with
  | start | registers | refuses | replies | rests => exact nofun
  | takes x deeds ih =>
    intro y hy
    cases hy
    exact List.mem_append_right _ List.mem_cons_self
  | spares deeds _ ih | closes _ deeds _ ih | receives deeds _ _ _ _ _ ih | expires _ deeds _ ih =>
    exact fun x hx => List.mem_append_left _ (ih x hx)

end Connection.Deeds

namespace Honours

theorem mono (k : Honours g n y) : Honours (g ++ h) n y where
  taken := by
    obtain ⟨cmd, taken, answers⟩ := k.taken
    rw [commands_append]
    exact ⟨cmd, List.mem_append_left _ taken, answers⟩
  dropped e is := by
    obtain ⟨method, params, callback, taken, dropped⟩ := k.dropped e is
    rw [commands_append, discards_append]
    exact ⟨method, params, callback, List.mem_append_left _ taken,
      fun d hd => List.mem_append_left _ (dropped d hd)⟩

theorem silent (honours : ∀ n y, (n, y) ∈ g.replies → Honours g n y) (none : h.replies = []) :
    ∀ n y, (n, y) ∈ (g ++ h).replies → Honours (g ++ h) n y := by
  intro n y hy
  rw [replies_append, none, List.append_nil] at hy
  exact (honours n y hy).mono

theorem last {n : Nat} {y : Reply} (honours : ∀ n y, (n, y) ∈ g.replies → Honours g n y)
    (replies : h.replies = [(n, y)]) (honoured : Honours (g ++ h) n y) :
    ∀ n y, (n, y) ∈ (g ++ h).replies → Honours (g ++ h) n y := by
  intro m z hz
  rw [replies_append, replies] at hz
  rcases List.mem_append.1 hz with hz | hz
  · exact (honours m z hz).mono
  · cases List.mem_singleton.1 hz
    exact honoured

end Honours

theorem replies_discarded {ds : List Callback} :
    History.replies ((ds.map .discarded).map .tell) = [] := by
  refine Quiet.replies ?_
  exact .tell_map fun _ => trivial

theorem mem_commands {n : Nat} {cmd : Command} (taken : .take (.command n cmd) ∈ h) :
    (n, cmd) ∈ h.commands :=
  List.mem_filterMap.2 ⟨_, taken, rfl⟩

theorem Connection.Deeds.honours (d : Deeds options u h c) :
    ∀ n y, (n, y) ∈ h.replies → Honours h n y := by
  induction d with
  | start => exact nofun
  | takes x deeds ih => exact Honours.silent ih rfl
  | spares deeds k ih =>
    refine Honours.silent ih (List.filterMap_eq_nil_iff.2 fun a ha => ?_)
    have neutral := k.neutral a ha
    unfold Act.reply?
    split
    · exact neutral.elim
    · rfl
  | closes reason deeds unclosed ih => exact Honours.silent ih quiet_farewell.replies
  | receives deeds ready inbox a result delivers ih =>
    refine Honours.silent ih (Quiet.replies (.cons trivial ?_))
    exact delivers.forall_received (fun _ => trivial) (fun _ _ => trivial) (fun _ => trivial)
      (fun _ _ => trivial) trivial
  | expires now deeds limited ih => exact Honours.silent ih quiet_expiry.replies
  | @registers h c n method params callback request ch deeds ready is a result ih =>
    refine Honours.last ih (n := n) (y := .send (.ok request.id)) ?_
      ⟨?_, fun _ is => by cases is⟩
    · simp [replies_discarded, -List.map_map]
      rfl
    · exact ⟨_, mem_commands (List.mem_append_right _ List.mem_cons_self), .send⟩
  | @refuses h c n method params callback e deeds ih =>
    have taken : (n, .send method params callback) ∈ History.commands (h ++
        ((callback.toList.map .discarded).map .tell ++
          [.tell (.reply n (.send (.error e)))])) := by
      rw [commands_append]
      exact List.mem_append_left _ (mem_commands (deeds.taken _ rfl))
    refine Honours.last ih (n := n) (y := .send (.error e)) ?_ ⟨⟨_, taken, .send⟩, fun _ _ => ?_⟩
    · simp [replies_discarded, -List.map_map]
      rfl
    · refine ⟨method, params, callback, taken, fun d hd => ?_⟩
      obtain rfl : callback = some d := hd
      rw [discards_append]
      exact List.mem_append_right _ List.mem_cons_self
  | @replies h c n cmd r deeds answers other ih =>
    refine Honours.last ih rfl ⟨⟨cmd, ?_, answers⟩, fun e is => ?_⟩
    · rw [commands_append]
      exact List.mem_append_left _ (mem_commands (deeds.taken _ rfl))
    · subst is
      cases answers
      exact (other _ _ _ rfl).elim
  | rests deeds other ih => exact ih

/-! ### What is told of a callback last -/

namespace History

theorem mem_of_mem_outputs {o : Output} (told : o ∈ h.outputs) : .tell o ∈ h := by
  obtain ⟨a, ha, is⟩ := List.mem_filterMap.1 told
  cases a with
  | tell =>
    cases is
    exact ha
  | take | call | answer => cases is

theorem asked_of_mem_callbacks {d : Callback} (hd : d ∈ h.callbacks) :
    ∃ n method params, (n, .send method params (some d)) ∈ h.commands := by
  obtain ⟨a, ha, is⟩ := List.mem_filterMap.1 hd
  unfold Act.callback? at is
  split at is
  next n method params callback =>
    subst is
    exact ⟨n, method, params, mem_commands ha⟩
  next => cases is

end History

namespace Connection.Deeds

theorem asked (d : Deeds options u h c) {x : Settlement} (told : x ∈ h.settlements) :
    ∃ n method params, (n, .send method params (some x.callback)) ∈ h.commands := by
  refine asked_of_mem_callbacks (d.conserved.mem_iff.2 ?_)
  simp only [List.mem_append]
  exact .inl (.inl (.inr (List.mem_map_of_mem told)))

/-- A token is told or dropped at most once. -/
theorem count_le (d : Deeds options u h c) (k : Ticketed h) (n : Nat) :
    (h.settlements.map fun x => x.callback.token).count n +
      (h.discards.map Callback.token).count n ≤ 1 := by
  have once := List.nodup_iff_count.1 k.tokens n
  have conserved := List.perm_iff_count.1 (d.conserved.map Callback.token) n
  simp only [List.map_append, List.count_append, List.map_map] at conserved
  have same : Callback.token ∘ Settlement.callback = fun x => x.callback.token := rfl
  rw [same] at conserved
  omega

/-- A callback that is told an outcome was told none before, and is never dropped. -/
theorem once (d : Deeds options u h c) (k : Ticketed h) {before : History} {x : Settlement}
    (told : before ++ [.tell (.settled x)] <+: h) :
    (∀ y ∈ before.settlements, y.callback.token ≠ x.callback.token) ∧
      ∀ e ∈ h.discards, e.token ≠ x.callback.token := by
  have count := d.count_le k x.callback.token
  have more : (before.settlements.map fun x => x.callback.token).count x.callback.token + 1 ≤
      (h.settlements.map fun x => x.callback.token).count x.callback.token := by
    obtain ⟨after, rfl⟩ := told
    simp only [settlements_append, List.map_append, List.count_append]
    simp
  refine ⟨fun y hy same => ?_, fun e he same => ?_⟩
  · have : 0 < (before.settlements.map fun x => x.callback.token).count x.callback.token :=
      List.count_pos_iff.2 (List.mem_map.2 ⟨y, hy, same⟩)
    omega
  · have : 0 < (h.discards.map Callback.token).count x.callback.token :=
      List.count_pos_iff.2 (List.mem_map.2 ⟨e, he, same⟩)
    omega

theorem last (d : Deeds options u h c) (k : Ticketed h) {before : History} {x : Settlement}
    {o : Output} (told : before ++ [.tell (.settled x)] <+: h) (ho : o ∈ before.outputs) :
    ¬ o.Concludes x.callback.token := by
  intro concludes
  obtain ⟨untold, undropped⟩ := d.once k told
  have ho := mem_of_mem_outputs ho
  have later {a : Act} (ha : a ∈ before) : a ∈ h :=
    told.subset (List.mem_append_left _ ha)
  cases o with
  | shown | event => exact concludes
  | settled y =>
    exact untold y (List.mem_filterMap.2 ⟨_, ho, rfl⟩) concludes
  | discarded e =>
    exact undropped e (List.mem_filterMap.2 ⟨_, later ho, rfl⟩) concludes
  | reply n y =>
    have honours := d.honours n y (List.mem_filterMap.2 ⟨_, later ho, rfl⟩)
    obtain ⟨cmd, taken, answers⟩ := honours.taken
    obtain ⟨m, method, params, asked⟩ := d.asked (List.mem_filterMap.2
      ⟨_, told.subset (List.mem_append_right _ List.mem_cons_self), rfl⟩)
    have own := k.own m method params _ asked
    -- The reply ends the command that the callback came with.
    have same : n = m := by
      cases y with
      | connect | close => exact concludes.trans own
      | send r =>
        cases r with
        | ok => exact concludes.elim
        | error => exact concludes.trans own
    subst same
    cases k.eq_of_mem taken asked
    cases answers with
    | @send _ _ _ r =>
      cases r with
      | ok => exact concludes
      | error e =>
        obtain ⟨_, _, _, asked', dropped⟩ := honours.dropped e rfl
        cases k.eq_of_mem asked' asked
        exact undropped _ (dropped _ rfl) rfl

end Connection.Deeds

end GattRpc
