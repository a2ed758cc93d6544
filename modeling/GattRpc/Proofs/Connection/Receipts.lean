import GattRpc.Proofs.Connection.Callbacks
import GattRpc.Proofs.Connection.Visibility

/-! # In which order callers are told

Each command is replied to before the next one is taken. The callback of a request is told an
outcome only after the command that sent it was replied to, and it is dropped only if that command
failed, the reason for closing can be seen already, or ids have run out. All this holds after each
deed, so also of a task that has crashed. -/

namespace GattRpc

open Connection History

/-- The command that a task has still to reply to. -/
def owed (u : Option Stimulus) : List (Nat × Command) :=
  (u.bind fun x => (Act.take x).command?).toList

/-- All commands were replied to, in order, but the one that is reacted to. -/
def RepliedBut (u : Option Stimulus) (h : History) : Prop :=
  ∃ cs, h.commands = cs ++ owed u ∧
    List.Forall₂ (fun x y => x.1 = y.1 ∧ Reply.Answers x.2 y.2) cs h.replies

/-- The callback of this token is told an outcome or dropped. -/
def Output.Releases (n : Nat) : Output → Prop
  | settled x => x.callback.token = n
  | discarded d => d.token = n
  | reply _ _ | shown _ | event _ => False

/-- A callback is told of a request that was sent. Until it was, the callback was not let go. -/
def Act.Due (before : History) : Act → Prop
  | tell (.settled x) => (x.callback.token, .ok x.request.id) ∈ before.sends
  | tell (.reply n (.send (.ok _))) => ∀ o ∈ before.outputs, ¬ o.Releases n
  | take _ | call _ | answer _ _ | tell _ => True

/-- Neither is a callback told an outcome, nor is a request sent. -/
def Act.Passing : Act → Prop
  | tell (.settled _) | tell (.reply _ (.send (.ok _))) => False
  | take _ | call _ | answer _ _ | tell _ => True

/-- Who waits was told the id of the request, and all was told in due order. -/
structure Vouched (h : History) (c : Connection) : Prop where
  table : ∀ p ∈ c.correlator.outstanding, (p.callback.token, .ok p.id) ∈ h.sends
  due : Each Act.Due [] h

variable {options : Options} {u : Option Stimulus} {c c' : Connection} {g h : History} {n : Nat}

theorem Ticketed.left (k : Ticketed (g ++ h)) : Ticketed g := by
  refine ⟨?_, fun m method params d hd => k.own m method params d ?_⟩
  · have once := k.once
    rw [commands_append, List.map_append] at once
    exact (List.nodup_append.1 once).1
  · rw [commands_append]
    exact List.mem_append_left _ hd

theorem History.mem_outputs {o : Output} : o ∈ h.outputs ↔ .tell o ∈ h :=
  ⟨mem_of_mem_outputs, fun told => List.mem_filterMap.2 ⟨_, told, rfl⟩⟩

/-- What a projection finds is what was told, if it finds that in no other act. -/
theorem History.mem_filterMap_iff {α : Type} {f : Act → Option α} {v : α} {o : Output}
    (only : ∀ a, f a = some v ↔ a = .tell o) : v ∈ h.filterMap f ↔ o ∈ h.outputs := by
  rw [mem_outputs, List.mem_filterMap]
  constructor
  · rintro ⟨a, ha, is⟩
    rwa [(only a).1 is] at ha
  · exact fun told => ⟨_, told, (only _).2 rfl⟩

theorem History.mem_replies {y : Reply} : (n, y) ∈ h.replies ↔ .reply n y ∈ h.outputs :=
  mem_filterMap_iff fun a => by
    unfold Act.reply?
    split <;> simp_all

theorem History.mem_settlements {x : Settlement} :
    x ∈ h.settlements ↔ .settled x ∈ h.outputs :=
  mem_filterMap_iff fun a => by
    unfold Act.settlement?
    split <;> simp_all

theorem History.mem_discards {d : Callback} : d ∈ h.discards ↔ .discarded d ∈ h.outputs :=
  mem_filterMap_iff fun a => by
    unfold Act.discarded?
    split <;> simp_all

/-! ### Replies -/

namespace RepliedBut

theorem append (k : RepliedBut u g) (commands : h.commands = []) (replies : h.replies = []) :
    RepliedBut u (g ++ h) := by
  obtain ⟨cs, taken, answered⟩ := k
  refine ⟨cs, ?_, ?_⟩
  · rw [commands_append, commands, List.append_nil, taken]
  · rw [replies_append, replies, List.append_nil]
    exact answered

theorem quiet (k : RepliedBut u g) (quiet : Quiet h) : RepliedBut u (g ++ h) :=
  k.append quiet.commands quiet.replies

theorem take (k : RepliedBut none g) (x : Stimulus) : RepliedBut (some x) (g ++ [.take x]) := by
  obtain ⟨cs, taken, answered⟩ := k
  refine ⟨cs, ?_, ?_⟩
  · rw [commands_append, taken, commands_cons, commands_nil, List.append_nil, owed, owed]
    exact congrArg (· ++ _) (List.append_nil cs)
  · rw [replies_append]
    show List.Forall₂ _ cs (g.replies ++ [])
    rw [List.append_nil]
    exact answered

/-- The task replies to the command that it has reacted to. -/
theorem reply {cmd : Command} {y : Reply} (k : RepliedBut (some (.command n cmd)) g)
    (commands : h.commands = []) (replies : h.replies = [(n, y)]) (answers : y.Answers cmd) :
    RepliedBut none (g ++ h) := by
  obtain ⟨cs, taken, answered⟩ := k
  refine ⟨cs ++ [(n, cmd)], ?_, ?_⟩
  · rw [commands_append, commands, List.append_nil, taken]
    exact (List.append_nil _).symm
  · rw [replies_append, replies]
    exact List.rel_append answered (.cons ⟨rfl, answers⟩ .nil)

theorem idle (k : RepliedBut none h) : h.Replied := by
  obtain ⟨cs, taken, answered⟩ := k
  rw [Replied, taken, show owed none = [] from rfl, List.append_nil]
  exact answered

/-- The tickets of the commands are those of the replies, and then the one that is owed. -/
theorem tickets (k : RepliedBut u h) :
    h.commands.map Prod.fst = h.replies.map Prod.fst ++ (owed u).map Prod.fst := by
  obtain ⟨cs, taken, answered⟩ := k
  rw [taken, List.map_append]
  refine congrArg (· ++ (owed u).map Prod.fst) ?_
  generalize h.replies = replies at answered
  clear taken
  induction answered with
  | nil => rfl
  | cons first _ ih => rw [List.map_cons, List.map_cons, ← first.1, ih]

/-- Each reply carries another ticket. -/
theorem once (k : RepliedBut u h) (ticketed : Ticketed h) : (h.replies.map Prod.fst).Nodup := by
  have once := ticketed.once
  rw [k.tickets] at once
  exact (List.nodup_append.1 once).1

theorem not_owed {y : Reply} {cmd : Command} (k : RepliedBut u h) (ticketed : Ticketed h)
    (reply : (n, y) ∈ h.replies) : (n, cmd) ∉ owed u := by
  have once := ticketed.once
  rw [k.tickets] at once
  exact fun owed => (List.nodup_append.1 once).2.2 n (List.mem_map_of_mem reply) n
    (List.mem_map_of_mem owed) rfl

end RepliedBut

theorem Act.Neutral.unreplied {a : Act} (k : a.Neutral) : a.command? = none ∧ a.reply? = none := by
  constructor
  · unfold Act.command?
    split
    · exact k.elim
    · rfl
  · unfold Act.reply?
    split
    · exact k.elim
    · rfl

theorem Connection.Deeds.replied (d : Deeds options u h c) : RepliedBut u h := by
  induction d with
  | start => exact ⟨[], rfl, .nil⟩
  | takes x deeds ih => exact ih.take x
  | spares deeds k ih =>
    refine ih.append ?_ ?_
    · exact List.filterMap_eq_nil_iff.2 fun a ha => (k.neutral a ha).unreplied.1
    · exact List.filterMap_eq_nil_iff.2 fun a ha => (k.neutral a ha).unreplied.2
  | closes reason deeds unclosed ih => exact ih.quiet quiet_farewell
  | receives deeds ready inbox a result delivers ih =>
    exact ih.quiet (.cons trivial (delivers.forall_received (fun _ => trivial)
      (fun _ _ => trivial) (fun _ => trivial) (fun _ _ => trivial) trivial))
  | expires now deeds limited ih => exact ih.quiet quiet_expiry
  | @registers h c n method params callback request ch deeds ready is a result ih =>
    have taken := ih.take (.command n (.send method params callback))
    rw [List.append_cons]
    refine taken.reply (y := .send (.ok request.id)) ?_ ?_ .send
    · rw [commands_cons, commands_cons, commands_append, commands_tell]
      rfl
    · rw [replies_cons, replies_cons, replies_append, replies_discarded]
      rfl
  | refuses e deeds ih =>
    refine ih.reply (y := .send (.error e)) ?_ ?_ .send
    · rw [commands_append, commands_tell]
      rfl
    · rw [replies_append, replies_discarded]
      rfl
  | replies deeds answers other ih => exact ih.reply rfl rfl answers
  | @rests h c x deeds other ih =>
    obtain ⟨cs, taken, answered⟩ := ih
    refine ⟨cs, ?_, answered⟩
    rw [taken]
    cases x with
    | command n cmd => exact (other n cmd rfl).elim
    | clientsGone | linkLost | poll | sweep => rfl

/-! ### Callbacks -/

theorem History.mem_sends_append {r : Except RpcError RequestId} (sent : (n, r) ∈ g.sends) :
    (n, r) ∈ History.sends (g ++ h) := by
  rw [sends_append]
  exact List.mem_append_left _ sent

theorem Act.Passing.due {a : Act} {before : History} (k : a.Passing) : a.Due before := by
  cases a with
  | take | call | answer => trivial
  | tell o =>
    cases o with
    | settled => exact k.elim
    | shown | event | discarded => trivial
    | reply m y =>
      cases y with
      | connect | close => trivial
      | send r =>
        cases r with
        | error => trivial
        | ok => exact k.elim

theorem Act.Neutral.passing {a : Act} (k : a.Neutral) : a.Passing := by
  cases a with
  | take => exact k.elim
  | call | answer => trivial
  | tell o =>
    cases o with
    | shown | event => trivial
    | settled | discarded | reply => exact k.elim

namespace Vouched

/-- Only callbacks that wait are told an outcome. -/
theorem tells (v : Vouched g c)
    (told : ∀ a ∈ h, a.Passing ∨
      ∃ p ∈ c.correlator.outstanding, ∃ o, a = .tell (.settled (p.settle o)))
    (kept : ∀ p ∈ c'.correlator.outstanding, p ∈ c.correlator.outstanding) :
    Vouched (g ++ h) c' := by
  refine ⟨fun p hp => mem_sends_append (v.table p (kept p hp)), each_append.2 ⟨v.due, ?_⟩⟩
  have table := v.table
  rw [List.nil_append]
  clear v
  induction h generalizing g with
  | nil => exact trivial
  | cons a h ih =>
    obtain ⟨first, rest⟩ := List.forall_mem_cons.1 told
    refine ⟨?_, ih rest fun _ hp => mem_sends_append (table _ hp)⟩
    rcases first with passing | ⟨p, hp, o, rfl⟩
    · exact passing.due
    · exact table p hp

theorem passes (v : Vouched g c) (passing : ∀ a ∈ h, a.Passing)
    (same : c'.correlator.outstanding = c.correlator.outstanding) : Vouched (g ++ h) c' :=
  v.tells (fun a ha => .inl (passing a ha)) fun _ hp => same ▸ hp

theorem delivers {m : Json} (v : Vouched g c) (d : c.Delivers m h c') : Vouched (g ++ h) c' := by
  cases d with
  | answered is found =>
    refine v.tells (List.forall_mem_singleton.2 (.inr ?_)) fun p hp => (List.mem_filter.1 hp).1
    exact ⟨_, (Correlator.mem_of_find? found).1, _, rfl⟩
  | orphan | notification => exact v.passes (List.forall_mem_singleton.2 trivial) rfl
  | unrecognized => exact v.passes (List.forall_mem_nil _) rfl

theorem deliversAll {ms : List Json} (v : Vouched g c) (d : c.DeliversAll ms h c') :
    Vouched (g ++ h) c' := by
  induction d generalizing g with
  | nil => rwa [List.append_nil]
  | cons first rest ih =>
    rw [← List.append_assoc]
    exact ih (v.delivers first)

/-- A request is sent whose ticket no callback carried before. -/
theorem registers {method : String} {params : Json} {callback : Option Callback}
    {request : Request} {ch : Characteristic} (v : Vouched g c)
    (a : LinkAnswer (.write ch (Frame.encode request.document)))
    (own : ∀ d ∈ callback, d.token = n) (unreleased : ∀ o ∈ g.outputs, ¬ o.Releases n)
    (absent : ∀ p ∈ c.correlator.outstanding, p.callback.token ≠ n) :
    Vouched (g ++ ([.take (.command n (.send method params callback)),
      .call (.write ch (Frame.encode request.document)), .answer _ a] ++
      (((c.prepared.correlator.register a.time request callback).2.toList.map .discarded).map
          .tell ++
        [.tell (.shown (c.prepared.registered a.time request callback).status),
          .tell (.reply n (.send (.ok request.id)))])))
      (c.prepared.registered a.time request callback) := by
  refine ⟨fun p hp => ?_, each_append.2 ⟨v.due, each_append.2 ⟨⟨trivial, trivial, trivial, trivial⟩,
    each_append.2 ⟨.of_forall fun b hb _ => ?_, trivial, fun o ho releases => ?_, trivial⟩⟩⟩⟩
  · cases callback with
    | none => exact mem_sends_append (v.table p hp)
    | some d =>
      rcases Pending.mem_insert hp with rfl | hp
      · rw [own d rfl]
        show (n, .ok request.id) ∈ History.sends _
        refine mem_sends.2 (mem_replies.2 (mem_outputs.2 ?_))
        simp
      · exact mem_sends_append (v.table p hp)
  · obtain ⟨o, ho, rfl⟩ := List.mem_map.1 hb
    obtain ⟨d, -, rfl⟩ := List.mem_map.1 ho
    trivial
  · rw [outputs_append, outputs_append, outputs_tell, outputs_append, List.nil_append,
      List.mem_append, List.mem_append, List.mem_append] at ho
    rcases ho with ((ho | ho) | ho) | ho
    · exact unreleased o ho releases
    · cases ho
    · obtain ⟨d, hd, rfl⟩ := List.mem_map.1 ho
      -- What is displaced has waited.
      cases callback with
      | none => cases hd
      | some d' =>
        obtain ⟨p, found, rfl⟩ := Option.map_eq_some_iff.1 (Option.mem_toList.1 hd)
        exact absent p (Correlator.mem_of_find? found).1 releases
    · rw [List.mem_singleton.1 ho] at releases
      exact releases

end Vouched

theorem Output.Releases.mem {o : Output} (k : o.Releases n) (ho : o ∈ h.outputs) :
    n ∈ (h.settlements.map Settlement.callback ++ h.discards).map Callback.token := by
  rw [List.map_append, List.mem_append]
  cases o with
  | settled x =>
    have mem : x ∈ h.settlements := mem_settlements.2 ho
    exact .inl (List.mem_map.2 ⟨x.callback, List.mem_map_of_mem mem, k⟩)
  | discarded d => exact .inr (List.mem_map.2 ⟨d, mem_discards.2 ho, k⟩)
  | reply | shown | event => exact k.elim

theorem Connection.Deeds.vouched (d : Deeds options u h c) (k : Ticketed h) : Vouched h c := by
  induction d with
  | start => exact ⟨nofun, trivial⟩
  | takes x deeds ih => exact (ih k.left).passes (List.forall_mem_singleton.2 trivial) rfl
  | spares deeds s ih =>
    exact (ih k.left).passes (fun a ha => (s.neutral a ha).passing) s.outstanding
  | @closes u h c reason deeds unclosed ih =>
    refine (ih k.left).tells (fun a ha => ?_) fun p hp => ?_
    · rw [farewell, List.map_cons, List.map_append] at ha
      rcases List.mem_cons.1 ha with rfl | ha
      · exact .inl trivial
      rcases List.mem_append.1 ha with ha | ha
      · obtain ⟨o, ho, rfl⟩ := List.mem_map.1 ha
        obtain ⟨p, hp, rfl | rfl⟩ := mem_released ho
        · exact .inr ⟨p, hp, _, rfl⟩
        · exact .inl trivial
      · refine .inl ?_
        simp only [List.map_cons, List.map_nil, List.mem_cons, List.not_mem_nil, or_false] at ha
        rcases ha with rfl | rfl | rfl | rfl <;> trivial
    · rw [closed_correlator, Correlator.cancelAll_outstanding] at hp
      cases hp
  | @receives u g h c c' ch chunk deeds ready inbox a result delivers ih =>
    have read : ∀ b ∈ Act.answer (.read ch) a ::
        ((c.spoiled chunk).map fun d => Output.event (.frameDropped d)).map .tell, b.Passing := by
      simp [Act.Passing]
    have fed : Vouched (g ++ _) (c.fed chunk) := (ih k.left).passes read rfl
    have delivered := fed.deliversAll delivers
    have told : Vouched _ c'.tallied := delivered.passes (h := [.tell (.shown c'.tallied.status)])
      (List.forall_mem_singleton.2 trivial) rfl
    rw [List.append_assoc, List.append_assoc, List.cons_append, ← List.append_assoc _ h] at told
    exact told
  | expires now deeds limited ih =>
    refine (ih k.left).tells (fun a ha => ?_) fun p hp => (List.mem_filter.1 hp).1
    obtain ⟨o, ho, rfl⟩ := List.mem_map.1 ha
    rcases mem_expiry ho with ⟨x, hx, rfl⟩ | rfl
    · obtain ⟨p, hp, rfl⟩ := List.mem_map.1 hx
      exact .inr ⟨p, (List.mem_filter.1 hp).1, _, rfl⟩
    · exact .inl trivial
  | @registers h c n method params callback request ch deeds ready is a result ih =>
    have v := ih k.left
    have once := k.once
    rw [commands_append, List.map_append] at once
    -- The ticket is new, so no callback that was given before carries it.
    have unused : n ∉ h.callbacks.map Callback.token := by
      intro used
      refine (List.nodup_append.1 once).2.2 n (k.left.sublist.subset used) n ?_ rfl
      rw [commands_cons]
      exact List.mem_map.2 ⟨_, List.mem_append_left _ List.mem_cons_self, rfl⟩
    have conserved := (deeds.conserved.map Callback.token).mem_iff (a := n)
    refine v.registers a (fun d hd => ?_) (fun o ho releases => ?_) fun p hp same => ?_
    · refine k.own n method params d ?_
      rw [commands_append, commands_cons, show callback = some d from hd]
      exact List.mem_append_right _ (List.mem_append_left _ List.mem_cons_self)
    · have mem := releases.mem ho
      rw [List.map_append, List.mem_append] at mem
      refine unused (conserved.2 ?_)
      simp only [List.map_append, List.mem_append]
      exact mem.elim (fun mem => .inl (.inl (.inr mem))) fun mem => .inl (.inr mem)
    · refine unused (conserved.2 ?_)
      simp only [List.map_append, List.mem_append]
      exact .inl (.inl (.inl (List.mem_map.2 ⟨p.callback, List.mem_map_of_mem hp, same⟩)))
  | refuses e deeds ih =>
    exact (ih k.left).passes (forall_dropped (fun _ => trivial) trivial) rfl
  | @replies h c n cmd r deeds answers other ih =>
    refine (ih k.left).passes (List.forall_mem_singleton.2 ?_) rfl
    cases answers with
    | connect | close => trivial
    | send => exact (other _ _ _ rfl).elim
  | rests deeds other ih => exact ih k

/-! ### Callbacks that are dropped -/

/-- The next request takes no other's place, unless ids have begun again. -/
theorem Recorded.fresh (r : Recorded h c) (room : h.frames.length + 1 < UInt64.size) :
    ∀ p ∈ c.correlator.outstanding, p.id ≠ c.correlator.nextId := by
  intro p hp same
  obtain ⟨f, g, rfl, registers, -⟩ := ((r.table p).1 hp).exists_registers
  rw [registers.id_eq, r.nextId] at same
  have same := congrArg UInt64.toNat same
  rw [frames_append, List.length_append] at room same
  rw [UInt64.toNat_ofNat_of_lt' (by omega), UInt64.toNat_ofNat_of_lt' room] at same
  omega

theorem Recorded.displaces_none {method : String} {params : Json} {request : Request}
    (r : Recorded h c) (room : h.frames.length + 1 < UInt64.size)
    (is : request = .new c.correlator.nextId method params) (now : Nat)
    (callback : Option Callback) :
    (c.prepared.correlator.register now request callback).2 = none := by
  refine (Correlator.register_fresh now callback fun p hp => ?_).1
  rw [is]
  exact r.fresh room p hp

/-- Ids have begun again, and a request that was written took the place of the one whose callback
has this token. -/
def History.Displaces (h : History) (n : Nat) : Prop :=
  UInt64.size ≤ h.frames.length ∧ ∃ (before : History) (ch : Characteristic) (data : List UInt8)
    (a : LinkAnswer (.write ch data)) (d : Callback),
    before ++ [.answer _ a, .tell (.discarded d)] <+: h ∧ d.token = n

/-- Within `h` a callback is dropped for a reason: its command failed, the reason for closing can be
seen already, or another request took its place. -/
def Act.Excused (h before : History) : Act → Prop
  | tell (.discarded d) => (∃ e, (d.token, .error e) ∈ h.sends) ∨
    before.status.closeReason.isSome = true ∨ h.Displaces d.token
  | take _ | call _ | answer _ _ | tell _ => True

theorem History.Displaces.of_prefix (k : g.Displaces n) (p : g <+: h) : h.Displaces n := by
  obtain ⟨full, before, ch, data, a, d, told, token⟩ := k
  obtain ⟨more, rfl⟩ := p
  refine ⟨Nat.le_trans full ?_, before, ch, data, a, d, told.trans (List.prefix_append _ _), token⟩
  rw [frames_append, List.length_append]
  exact Nat.le_add_right ..

theorem Act.Excused.append {a : Act} {before : History} (k : a.Excused g before) :
    a.Excused (g ++ h) before := by
  cases a with
  | take | call | answer => trivial
  | tell o =>
    cases o with
    | shown | event | settled | reply => trivial
    | discarded d =>
      rcases k with ⟨e, failed⟩ | seen | displaced
      · exact .inl ⟨e, mem_sends_append failed⟩
      · exact .inr (.inl seen)
      · exact .inr (.inr (displaced.of_prefix (List.prefix_append _ _)))

/-- Only callbacks that are dropped need an excuse. -/
theorem Act.excused_of_discarded {a : Act} {before : History}
    (excused : ∀ d, a = .tell (.discarded d) → a.Excused h before) : a.Excused h before := by
  cases a with
  | take | call | answer => trivial
  | tell o =>
    cases o with
    | shown | event | settled | reply => trivial
    | discarded d => exact excused d rfl

/-- A callback is dropped only for one of these reasons. -/
theorem Connection.Deeds.excused (d : Deeds options u h c) (k : Ticketed h) :
    Each (Act.Excused h) [] h := by
  have extend {g h : History} (ih : Each (Act.Excused g) [] g)
      (rest : Each (Act.Excused (g ++ h)) g h) : Each (Act.Excused (g ++ h)) [] (g ++ h) :=
    each_append.2 ⟨ih.mono fun _ _ excused => excused.append, rest⟩
  have kept {g h : History} (ih : Each (Act.Excused g) [] g) (none : ∀ a ∈ h, a.discarded? = none) :
      Each (Act.Excused (g ++ h)) [] (g ++ h) :=
    extend ih (.of_forall fun a ha _ => Act.excused_of_discarded fun d is => by
      cases is
      cases none _ ha)
  induction d with
  | start => trivial
  | takes x deeds ih => exact kept (ih k.left) (List.forall_mem_singleton.2 rfl)
  | spares deeds s ih => exact kept (ih k.left) fun a ha => (s.neutral a ha).silent.2.2
  | @closes u h c reason deeds unclosed ih =>
    refine extend (ih k.left) ?_
    have steadfast := (each_append.1 (deeds.closes reason unclosed).visible.steadfast).2
    -- The reason is shown first, and whatever is dropped is dropped after that.
    refine ⟨trivial, Each.of_reason steadfast.2 (?_ : _ = some reason) fun a _ before seen => ?_⟩
    · rw [status_append]
      rfl
    · refine Act.excused_of_discarded fun d is => ?_
      subst is
      exact .inr (.inl (by rw [seen]; rfl))
  | receives deeds ready inbox a result delivers ih =>
    exact kept (ih k.left) (List.forall_mem_cons.2 ⟨rfl, delivers.forall_received (fun _ => rfl)
      (fun _ _ => rfl) (fun _ => rfl) (fun _ _ => rfl) rfl⟩)
  | expires now deeds limited ih =>
    exact kept (ih k.left) (forall_expiry (fun _ => rfl) fun _ => rfl)
  | @registers h c n method params callback request ch deeds ready is a result ih =>
    refine extend (ih k.left) (.of_forall fun b hb before => Act.excused_of_discarded ?_)
    rintro d rfl
    have hd := mem_discards.2 (mem_outputs.2 hb)
    rw [discards_cons, discards_cons, discards_cons, discards_append, discards_discarded] at hd
    have hd : d ∈ (c.prepared.correlator.register a.time request callback).2 := by simpa using hd
    refine .inr (.inr ⟨?_, ?_⟩)
    · by_contra room
      have room : h.frames.length + 1 < UInt64.size := by
        rw [frames_append, List.length_append, frames_cons, frames_cons, frames_cons,
          frames_append, frames_tell] at room
        simpa using room
      rw [deeds.recorded.displaces_none room is a.time callback] at hd
      cases hd
    · -- It is displaced as soon as the write is answered.
      refine ⟨h ++ [.take (.command n (.send method params callback)),
        .call (.write ch (Frame.encode request.document))], ch, _, a, d, ?_, rfl⟩
      rw [Option.mem_def.1 hd]
      exact ⟨[.tell (.shown (c.prepared.registered a.time request callback).status),
        .tell (.reply n (.send (.ok request.id)))], by simp⟩
  | @refuses h c n method params callback e deeds ih =>
    refine extend (ih k.left) (.of_forall fun b hb before => Act.excused_of_discarded ?_)
    rintro d rfl
    have hd := mem_discards.2 (mem_outputs.2 hb)
    rw [discards_append, discards_discarded] at hd
    have given : callback = some d := by simpa using hd
    have taken := mem_commands (deeds.taken _ rfl)
    rw [given] at taken
    refine .inl ⟨e, ?_⟩
    rw [k.left.own n method params d taken, mem_sends, mem_replies, mem_outputs]
    simp
  | replies deeds answers other ih => exact kept (ih k.left) (List.forall_mem_singleton.2 rfl)
  | rests deeds other ih => exact ih k

/-- No callback is dropped for another reason. -/
theorem Connection.Run.excused {t : Standing} {before : History} {d : Callback}
    (run : Run options h t) (k : Ticketed h) (dropped : before ++ [.tell (.discarded d)] <+: h) :
    (∃ e, (d.token, .error e) ∈ h.sends) ∨ before.status.closeReason.isSome = true ∨
      h.Displaces d.token := by
  obtain ⟨u, deeds⟩ := run.exists_deeds
  exact Each.of_prefix (deeds.excused k) dropped

end GattRpc
