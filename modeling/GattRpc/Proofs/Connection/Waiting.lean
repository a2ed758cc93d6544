import GattRpc.Proofs.Connection.Inbox

/-! # Who waits for a response

A request waits from when its frame is written, if it has a callback, until something of its id is
settled or reported, another request is registered under its id, or the connection is closed. That
is said of the history alone (`History.Waits`), and the table of outstanding requests holds just the
requests that wait (`Connection.Deeds.recorded`). -/

namespace GattRpc

namespace Act

/-- Nothing waits under the id any longer. -/
def Frees (id : RequestId) : Act → Prop
  | tell (.settled x) => x.request.id = id
  | tell (.event (.orphanResponse i)) => i = id
  | tell (.event (.stateChanged .closed)) => True
  | take _ | call _ | answer _ _ | tell _ => False

/-- A frame was written. -/
def Writes : Act → Prop
  | answer (.write _ _) x => x.result = .ok ()
  | take _ | call _ | answer _ _ | tell _ => False

/-- No request starts or ceases to wait. -/
def Calm (a : Act) : Prop := ¬ a.Writes ∧ ∀ id, ¬ a.Frees id

end Act

namespace History

/-- The history ends where a request that has a callback was written. Ids count the frames. -/
inductive Registers : History → Pending → Prop
  | written {h : History} {n : Nat} {method : String} {params : Json} {callback : Callback}
    {request : Request} {ch : Characteristic}
    (is : request = .new (.ofNat (h.frames.length + 1)) method params)
    (a : LinkAnswer (.write ch (Frame.encode request.document))) (result : a.result = .ok ()) :
    Registers
      (h ++ [.take (.command n (.send method params (some callback))),
        .call (.write ch (Frame.encode request.document)), .answer _ a])
      ⟨request, callback, a.time⟩

/-- The request was registered, and nothing has released its id since. -/
inductive Waits : History → Pending → Prop
  | registered {h : History} {p : Pending} (registers : h.Registers p) : Waits h p
  | still {h : History} {a : Act} {p : Pending} (waits : Waits h p) (kept : ¬ a.Frees p.id)
    (alone : ∀ q, Registers (h ++ [a]) q → q.id ≠ p.id) : Waits (h ++ [a]) p

end History

open Connection History

variable {options : Options} {u : Option Stimulus} {c c' : Connection} {g h : History} {a : Act}
  {p q : Pending} {t : Standing}

namespace History

theorem Registers.writes (r : Registers (g ++ [a]) p) : a.Writes := by
  generalize is : g ++ [a] = h at r
  cases r with
  | @written g' n method params callback request ch _ x result =>
    have last := congrArg List.getLast? is
    rw [List.getLast?_concat, List.getLast?_append] at last
    rw [Option.some.inj last]
    exact result

theorem registers_iff {n : Nat} {method : String} {params : Json} {callback : Option Callback}
    {request : Request} {ch : Characteristic}
    (is : request = .new (.ofNat (g.frames.length + 1)) method params)
    (x : LinkAnswer (.write ch (Frame.encode request.document))) (result : x.result = .ok ()) :
    Registers (g ++ [.take (.command n (.send method params callback)),
      .call (.write ch (Frame.encode request.document)), .answer _ x]) q ↔
        ∃ d ∈ callback, q = ⟨request, d, x.time⟩ := by
  constructor
  · intro r
    generalize same : g ++ [.take (.command n (.send method params callback)),
      .call (.write ch (Frame.encode request.document)), .answer _ x] = h at r
    cases r with
    | @written g' n' method' params' callback' request' ch' is' x' result' =>
      obtain ⟨rfl, last⟩ := List.append_inj' same rfl
      injection last with taken rest
      injection rest with called rest
      injection rest with answered
      cases taken
      obtain rfl : request = request' := by rw [is, is']
      cases answered
      exact ⟨callback', rfl, rfl⟩
  · rintro ⟨d, hd, rfl⟩
    obtain rfl : callback = some d := hd
    exact .written is x result

theorem Registers.unique (r : h.Registers p) (r' : h.Registers q) : p = q := by
  cases r with
  | written is x result =>
    obtain ⟨d, hd, rfl⟩ := (registers_iff is x result).1 r'
    cases hd
    rfl

theorem waits_append_singleton : Waits (g ++ [a]) p ↔ Registers (g ++ [a]) p ∨
    (g.Waits p ∧ ¬ a.Frees p.id ∧ ∀ q, Registers (g ++ [a]) q → q.id ≠ p.id) := by
  constructor
  · intro w
    generalize is : g ++ [a] = h at w
    cases w with
    | registered r => exact .inl r
    | still w kept alone =>
      obtain ⟨rfl, last⟩ := List.append_inj' is rfl
      cases last
      exact .inr ⟨w, kept, alone⟩
  · rintro (r | ⟨w, kept, alone⟩)
    · exact .registered r
    · exact .still w kept alone

/-- No request starts to wait unless a frame is written. -/
theorem waits_append (unwritten : ∀ a ∈ h, ¬ a.Writes) :
    Waits (g ++ h) p ↔ g.Waits p ∧ ∀ a ∈ h, ¬ a.Frees p.id := by
  induction h generalizing g with
  | nil => simp
  | cons a h ih =>
    obtain ⟨first, rest⟩ := List.forall_mem_cons.1 unwritten
    rw [List.append_cons, ih rest, waits_append_singleton, List.forall_mem_cons]
    constructor
    · rintro ⟨r | ⟨w, kept, -⟩, later⟩
      · exact (first r.writes).elim
      · exact ⟨w, kept, later⟩
    · rintro ⟨w, kept, later⟩
      exact ⟨.inr ⟨w, kept, fun q r => (first r.writes).elim⟩, later⟩

theorem not_waits_nil : ¬ Waits [] p := by
  intro w
  generalize is : ([] : History) = h at w
  cases w with
  | registered r =>
    cases r with
    | written => simp at is
  | still => simp at is

/-- At most one request waits under an id. -/
theorem Waits.unique (w : h.Waits p) (w' : h.Waits q) (same : p.id = q.id) : p = q := by
  induction h using List.reverseRecOn with
  | nil => exact (not_waits_nil w).elim
  | append_singleton h a ih =>
    rw [waits_append_singleton] at w w'
    -- The request that was registered last has displaced the other one of its id.
    rcases w with r | ⟨w, kept, alone⟩ <;> rcases w' with r' | ⟨w', kept', alone'⟩
    · exact r.unique r'
    · exact (alone' p r same).elim
    · exact (alone q r' same.symm).elim
    · exact ih w w'

theorem Registers.id_eq (r : h.Registers p) : p.id = .ofNat h.frames.length := by
  cases r with
  | written is a result =>
    rw [frames_append, List.length_append]
    exact congrArg Request.id is

theorem Registers.asked (r : h.Registers p) : ∃ n method params,
    (n, .send method params (some p.callback)) ∈ h.commands ∧
      p.request = .new p.id method params := by
  cases r with
  | @written h n method params callback request ch is a result =>
    refine ⟨n, method, params, ?_, ?_⟩
    · rw [commands_append]
      exact List.mem_append_right _ List.mem_cons_self
    · show request = .new request.id method params
      rw [is]
      rfl

/-- Between two registrations a frame is written. -/
theorem Registers.frames_lt (r : g.Registers p) (r' : Registers (g ++ h) q) (later : h ≠ []) :
    g.frames.length < (g ++ h).frames.length := by
  generalize is : g ++ h = k at r'
  cases r' with
  | @written k n method params callback request ch _ x result =>
    have before (f : History) (same : k = g ++ f) : g.frames.length ≤ k.frames.length := by
      rw [same, frames_append, List.length_append]
      exact Nat.le_add_right ..
    rw [frames_append, List.length_append]
    refine Nat.lt_succ_of_le ?_
    rcases List.append_eq_append_iff.1 is with ⟨f, same, -⟩ | ⟨f, rfl, split⟩
    · exact before f same
    -- A registration ends with an answer, so it is not over while the next frame is written.
    match f, split with
    | [], _ => exact before [] (by simp)
    | [_], split =>
      cases (List.cons.inj split).1
      exact r.writes.elim
    | [b, _], split =>
      cases (List.cons.inj (List.cons.inj split).2).1
      rw [List.append_cons] at r
      exact r.writes.elim
    | _ :: _ :: _ :: f, split =>
      have length := congrArg List.length split
      have := List.length_pos_iff.2 later
      simp only [List.length_append, List.length_cons, List.length_nil] at length
      omega

/-- What waits was registered, and has not been released since. -/
theorem Waits.exists_registers (w : h.Waits p) :
    ∃ f g, h = f ++ g ∧ f.Registers p ∧ ∀ a ∈ g, ¬ a.Frees p.id := by
  induction w with
  | registered r => exact ⟨_, [], (List.append_nil _).symm, r, List.forall_mem_nil _⟩
  | @still h a p w kept alone ih =>
    obtain ⟨f, g, rfl, r, earlier⟩ := ih
    refine ⟨f, g ++ [a], List.append_assoc .., r, List.forall_mem_append.2 ⟨earlier, ?_⟩⟩
    exact List.forall_mem_singleton.2 kept

/-- Ids do not recur before all have been given out. -/
theorem Registers.id_ne (r : g.Registers p) (r' : Registers (g ++ h) q) (later : h ≠ [])
    (room : (g ++ h).frames.length < UInt64.size) : q.id ≠ p.id := by
  intro same
  have more := r.frames_lt r' later
  rw [r.id_eq, r'.id_eq] at same
  have same := congrArg UInt64.toNat same
  rw [UInt64.toNat_ofNat_of_lt' room, UInt64.toNat_ofNat_of_lt' (Nat.lt_trans more room)] at same
  omega

theorem waits_iff (room : h.frames.length < UInt64.size) :
    h.Waits p ↔ ∃ f g, h = f ++ g ∧ f.Registers p ∧ ∀ a ∈ g, ¬ a.Frees p.id := by
  constructor
  · exact Waits.exists_registers
  · rintro ⟨f, g, rfl, r, kept⟩
    induction g using List.reverseRecOn with
    | nil =>
      rw [List.append_nil]
      exact .registered r
    | append_singleton g a ih =>
      obtain ⟨earlier, last⟩ := List.forall_mem_append.1 kept
      have fewer : (f ++ g).frames.length ≤ (f ++ (g ++ [a])).frames.length := by
        rw [← List.append_assoc, frames_append (f ++ g), List.length_append]
        exact Nat.le_add_right ..
      have w := ih (Nat.lt_of_le_of_lt fewer room) earlier
      rw [← List.append_assoc]
      refine .still w (last a List.mem_cons_self) fun q r' => ?_
      rw [List.append_assoc] at r'
      exact r.id_ne r' (by simp) room

end History

/-! ### The table of outstanding requests -/

theorem Act.Neutral.calm (n : a.Neutral) : a.Calm := by
  cases a with
  | take => exact n.elim
  | call => exact ⟨id, fun _ => id⟩
  | answer l x =>
    refine ⟨?_, fun _ => id⟩
    cases l with
    | write ch data =>
      obtain ⟨e, result⟩ := n
      intro written
      rw [show x.result = .ok () from written] at result
      cases result
    | connect | discover | subscribe | read | disconnect => exact id
  | tell o =>
    refine ⟨id, fun _ => ?_⟩
    cases o with
    | event e =>
      cases e with
      | stateChanged s =>
        cases s with
        | closed => exact (n rfl).elim
        | disconnected | connecting | discovering | ready => exact id
      | notification | frameDropped | orphanResponse | closed => exact n.elim
    | shown => exact id
    | settled | discarded | reply => exact n.elim

theorem not_writes_tell {out : List Output} : ∀ a ∈ out.map Act.tell, ¬ a.Writes := by
  intro a ha
  obtain ⟨o, -, rfl⟩ := List.mem_map.1 ha
  exact id

/-- What the table holds is said by the history. -/
structure Recorded (h : History) (c : Connection) : Prop where
  nextId : c.correlator.nextId = .ofNat (h.frames.length + 1)
  table : ∀ p, p ∈ c.correlator.outstanding ↔ h.Waits p

namespace Recorded

theorem new : Recorded [] (.new options) where
  nextId := rfl
  table _ := iff_of_false nofun not_waits_nil

theorem calm (r : Recorded g c) (calm : ∀ a ∈ h, a.Calm)
    (outstanding : c'.correlator.outstanding = c.correlator.outstanding)
    (nextId : c'.correlator.nextId = c.correlator.nextId + .ofNat h.frames.length) :
    Recorded (g ++ h) c' where
  nextId := by
    rw [nextId, r.nextId, frames_append, List.length_append, ← UInt64.ofNat_add]
    exact congrArg _ (by omega)
  table p := by
    rw [outstanding, r.table, waits_append fun a ha => (calm a ha).1]
    exact (and_iff_left fun a ha => (calm a ha).2 p.id).symm

theorem tells (r : Recorded g c) (calm : ∀ a ∈ h, a.Calm) (frames : h.frames = []) :
    Recorded (g ++ h) c := by
  refine r.calm calm rfl ?_
  rw [frames]
  exact (UInt64.add_zero _).symm

theorem releases (out : List Output) (r : Recorded g c)
    (nextId : c'.correlator.nextId = c.correlator.nextId)
    (kept : ∀ p, p ∈ c'.correlator.outstanding ↔
      p ∈ c.correlator.outstanding ∧ ∀ a ∈ out.map Act.tell, ¬ a.Frees p.id) :
    Recorded (g ++ out.map .tell) c' where
  nextId := by
    rw [nextId, frames_append, frames_tell, List.append_nil]
    exact r.nextId
  table p := by rw [kept, waits_append not_writes_tell, ← r.table]

theorem closes {reason : CloseReason} (r : Recorded g c) :
    Recorded (g ++ (c.farewell reason).map .tell) (c.closed reason) := by
  obtain ⟨empty, -⟩ := c.correlator.cancelAll_eq reason c.options.drain
  refine r.releases _ (by rw [closed_correlator, empty]; rfl) fun p => ?_
  rw [closed_correlator, empty]
  refine iff_of_false (by simp) fun ⟨_, kept⟩ => ?_
  have last : .tell (.event (.stateChanged .closed)) ∈ (c.farewell reason).map Act.tell := by
    simp [farewell]
  exact kept _ last trivial

theorem reads {ch : Characteristic} {chunk : List UInt8} (r : Recorded g c)
    (a : LinkAnswer (.read ch)) : Recorded (g ++ .answer (.read ch) a ::
      ((c.spoiled chunk).map fun d => .event (.frameDropped d)).map .tell) (c.fed chunk) := by
  refine r.calm (List.forall_mem_cons.2 ⟨⟨id, fun _ => id⟩, ?_⟩) rfl ?_
  · simp [Act.Calm, Act.Writes, Act.Frees]
  · rw [frames_cons, frames_tell]
    exact (UInt64.add_zero _).symm

theorem delivers {m : Json} (r : Recorded g c) (d : c.Delivers m h c') : Recorded (g ++ h) c' := by
  cases d with
  | @answered y p is found =>
    obtain ⟨-, same⟩ := Correlator.mem_of_find? found
    refine r.releases [.settled (p.settle (.answered y))] rfl fun q => ?_
    rw [Correlator.filter_outstanding, List.mem_filter, decide_eq_true_eq, List.map_singleton,
      List.forall_mem_singleton, ← same]
    exact and_congr_right fun _ => ne_comm
  | @orphan y is unknown =>
    refine r.releases [.event (.orphanResponse y.id)] rfl fun q => ?_
    rw [List.map_singleton, List.forall_mem_singleton]
    refine (and_iff_left_of_imp fun hq => ?_).symm
    exact fun same => Correlator.find?_eq_none.1 unknown q hq same.symm
  | notification is => exact r.tells (List.forall_mem_singleton.2 ⟨id, fun _ => id⟩) rfl
  | unrecognized is => exact r.tells (List.forall_mem_nil _) rfl

theorem deliversAll {ms : List Json} (r : Recorded g c) (d : c.DeliversAll ms h c') :
    Recorded (g ++ h) c' := by
  induction d generalizing g with
  | nil => rwa [List.append_nil]
  | cons first rest ih =>
    rw [← List.append_assoc]
    exact ih (r.delivers first)

/-- Only requests that are too old are released, each by its own settlement. -/
theorem expires {now timeout : Nat} (r : Recorded g c) :
    Recorded (g ++ (c.expiry now timeout).map .tell) (c.expired now timeout) := by
  refine r.releases _ rfl fun p => ?_
  show p ∈ c.correlator.outstanding.filter _ ↔ _
  rw [List.mem_filter]
  refine and_congr_right fun hp => ?_
  constructor
  · intro young a ha frees
    obtain ⟨o, ho, rfl⟩ := List.mem_map.1 ha
    rcases mem_expiry ho with ⟨x, hx, rfl⟩ | rfl
    · obtain ⟨q, hq, rfl⟩ := List.mem_map.1 hx
      obtain ⟨hq, old⟩ := List.mem_filter.1 hq
      rw [← Correlator.eq_of_id hq hp frees, old] at young
      cases young
    · exact frees
  · intro kept
    by_contra old
    refine kept (.tell (.settled (p.settle (.failed (.timedOut p.id))))) ?_ rfl
    refine List.mem_map_of_mem (List.mem_append_left _ (List.mem_map_of_mem ?_))
    exact List.mem_map.2 ⟨p, List.mem_filter.2 ⟨hp, by simpa using old⟩, rfl⟩

/-- A request that was written waits if it has a callback, in place of one with its id. -/
theorem registers {method : String} {params : Json} {request : Request} {ch : Characteristic}
    (r : Recorded g c) (n : Nat) (callback : Option Callback)
    (is : request = .new c.correlator.nextId method params)
    (a : LinkAnswer (.write ch (Frame.encode request.document))) (result : a.result = .ok ()) :
    Recorded (g ++ [.take (.command n (.send method params callback)),
      .call (.write ch (Frame.encode request.document)), .answer _ a])
      (c.prepared.registered a.time request callback) := by
  have split : g ++ [.take (.command n (.send method params callback)),
      .call (.write ch (Frame.encode request.document)), .answer _ a] =
        g ++ [.take (.command n (.send method params callback)),
          .call (.write ch (Frame.encode request.document))] ++ [.answer _ a] := by simp
  have new (q : Pending) : Registers (g ++ [.take (.command n (.send method params callback)),
      .call (.write ch (Frame.encode request.document)), .answer _ a]) q ↔
        ∃ d ∈ callback, q = ⟨request, d, a.time⟩ :=
    registers_iff (by rw [is, r.nextId]) a result
  have old (q : Pending) : Waits (g ++ [.take (.command n (.send method params callback)),
      .call (.write ch (Frame.encode request.document))]) q ↔ q ∈ c.correlator.outstanding := by
    rw [waits_append (by simp [Act.Writes]), r.table]
    exact and_iff_left (by simp [Act.Frees])
  refine ⟨?_, fun p => ?_⟩
  · show (c.prepared.correlator.register a.time request callback).1.nextId = _
    rw [Correlator.register_nextId, frames_append, List.length_append, Nat.add_right_comm,
      UInt64.ofNat_add, ← r.nextId]
    rfl
  · rw [split, waits_append_singleton, ← split, new, old]
    cases callback with
    | none =>
      show p ∈ c.correlator.outstanding ↔ _
      constructor
      · intro hp
        exact .inr ⟨hp, id, by simp [new]⟩
      · rintro (⟨d, hd, -⟩ | ⟨hp, -⟩)
        · cases hd
        · exact hp
    | some d =>
      show p ∈ Pending.insert _ c.correlator.outstanding ↔ _
      rw [Pending.mem_insert_iff c.correlator.ascending]
      constructor
      · rintro (rfl | ⟨hp, other⟩)
        · exact .inl ⟨d, rfl, rfl⟩
        · refine .inr ⟨hp, id, fun q hq => ?_⟩
          obtain ⟨d', hd, rfl⟩ := (new q).1 hq
          cases hd
          exact Ne.symm other
      · rintro (⟨d', hd, rfl⟩ | ⟨hp, -, alone⟩)
        · cases hd
          exact .inl rfl
        · exact .inr ⟨hp, Ne.symm (alone _ ((new _).2 ⟨d, rfl, rfl⟩))⟩

end Recorded

/-- The requests that are outstanding are those that wait. -/
theorem Connection.Deeds.recorded (d : Deeds options u h c) : Recorded h c := by
  induction d with
  | start => exact .new
  | takes x deeds ih => exact ih.tells (List.forall_mem_singleton.2 ⟨id, fun _ => id⟩) rfl
  | spares deeds k ih =>
    exact ih.calm (fun a ha => (k.neutral a ha).calm) k.outstanding k.nextId
  | closes reason deeds unclosed ih => exact ih.closes
  | @receives u g h c c' ch chunk deeds ready inbox a result delivers ih =>
    have delivered := (ih.reads a).deliversAll delivers
    have told := delivered.tells (h := [.tell (.shown c'.tallied.status)])
      (List.forall_mem_singleton.2 ⟨id, fun _ => id⟩) rfl
    simp only [List.append_assoc, List.cons_append] at told ⊢
    exact ⟨told.nextId, told.table⟩
  | expires now deeds limited ih => exact ih.expires
  | @registers h c n method params callback request ch deeds ready is a result ih =>
    have registered := ih.registers n callback is a result
    let displaced := (c.prepared.correlator.register a.time request callback).2
    have calm : ∀ b ∈ (displaced.toList.map Output.discarded).map Act.tell ++
        [.tell (.shown (c.prepared.registered a.time request callback).status),
          .tell (.reply n (.send (.ok request.id)))], b.Calm :=
      forall_registered (fun _ => ⟨id, fun _ => id⟩) ⟨id, fun _ => id⟩ ⟨id, fun _ => id⟩
    have told := registered.tells calm (by rw [frames_append, frames_tell]; rfl)
    rw [List.append_assoc] at told
    exact told
  | refuses e deeds ih =>
    refine ih.tells (forall_dropped (fun _ => ⟨id, fun _ => id⟩) ⟨id, fun _ => id⟩) ?_
    rw [frames_append, frames_tell]
    rfl
  | replies deeds answers other ih =>
    exact ih.tells (List.forall_mem_singleton.2 ⟨id, fun _ => id⟩) rfl
  | rests deeds other ih => exact ih

end GattRpc
