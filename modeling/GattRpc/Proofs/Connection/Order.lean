import GattRpc.Proofs.Connection.Receipts
import GattRpc.Proofs.Connection.Turns

/-! # The order of commands

A task carries out commands one at a time, in the order in which they were queued. The requests that
it writes are numbered from one on in that order, whether or not they can be written, and no request
is sent once it has taken a command to close (`Connection.Run.ordered`). -/

namespace GattRpc

open Connection History

/-- What is done on a command to send, in this state and with this request. -/
inductive Sending (state : ConnectionState) (request : Request) (n : Nat)
    (callback : Option Callback) : History → Prop
  | refused (unready : state ≠ .ready) :
    Sending state request n callback ((callback.toList.map .discarded).map .tell ++
      [.tell (.reply n (.send (.error (.notReady state))))])
  | writing {ch : Characteristic} (ready : state = .ready) :
    Sending state request n callback [.call (.write ch (Frame.encode request.document))]
  | written {ch : Characteristic} (ready : state = .ready)
    (a : LinkAnswer (.write ch (Frame.encode request.document))) (result : a.result = .ok ())
    (shown : LinkStatus) :
    Sending state request n callback
      [.call (.write ch (Frame.encode request.document)), .answer _ a, .tell (.shown shown),
        .tell (.reply n (.send (.ok request.id)))]
  | failing {ch : Characteristic} {e : LinkError} (ready : state = .ready)
    (a : LinkAnswer (.write ch (Frame.encode request.document))) (result : a.result = .error e)
    (fatal : e.isFatal = true) (shown : LinkStatus) :
    Sending state request n callback
      [.call (.write ch (Frame.encode request.document)), .answer _ a, .tell (.shown shown),
        .call .disconnect]
  | failed {ch : Characteristic} {e : LinkError} {noted : History} (ready : state = .ready)
    (a : LinkAnswer (.write ch (Frame.encode request.document))) (result : a.result = .error e)
    (quiet : noted.Quiet) :
    Sending state request n callback
      (.call (.write ch (Frame.encode request.document)) :: .answer _ a ::
        (noted ++ (callback.toList.map .discarded).map .tell ++
          [.tell (.reply n (.send (.error (.transport e))))]))

/-- The command asks for this request. Null parameters stand for none. -/
def Command.Asks (cmd : Command) (r : Request) : Prop :=
  ∃ method params callback, cmd = .send method params callback ∧ r.jsonrpc = protocolVersion ∧
    r.method = method ∧ r.params = if params.isNull then .object [] else params

/-- The frames are those of requests with the ids from one on, which some of the commands asked for,
in the same order. -/
def History.WritesInOrder (h : History) : Prop :=
  ∃ (rs : List Request) (ws : List (Nat × Command)),
    h.frames = rs.map (fun r => Frame.encode r.document) ∧
      rs.map (fun r => r.id.toNat) = List.range' 1 rs.length ∧ ws.Sublist h.commands ∧
        List.Forall₂ (fun w r => w.2.Asks r) ws rs

/-- Commands are carried out in order. -/
structure History.Ordered (h : History) : Prop where
  /-- A stimulus is taken when all commands before are replied to. -/
  alone : ∀ (g : History) x rest, h = g ++ .take x :: rest → g.Replied
  /-- All that is done before the next stimulus is taken is done on this command. The request takes
  the number of frames before for its id. -/
  sending : ∀ (g : History) n method params callback rest,
    h = g ++ .take (.command n (.send method params callback)) :: rest →
      ∃ own later, rest = own ++ later ∧ (∀ a ∈ later.head?, ∃ y, a = .take y) ∧
        Sending g.state (.new (.ofNat (g.frames.length + 1)) method params) n callback own
  written : h.WritesInOrder
  /-- Who is told an id is the one whose request was written with it. -/
  returned : ∀ n id, (n, .ok id) ∈ h.sends ↔
    ∃ (g : History) (method : String) (params : Json) (callback : Option Callback)
      (ch : Characteristic)
      (a : LinkAnswer (.write ch (Frame.encode (Request.new id method params).document)))
      (shown : LinkStatus) (later : History), id = .ofNat (g.frames.length + 1) ∧
        a.result = .ok () ∧
        h = g ++ .take (.command n (.send method params callback)) ::
          .call (.write ch (Frame.encode (Request.new id method params).document)) ::
            .answer _ a :: .tell (.shown shown) :: .tell (.reply n (.send (.ok id))) :: later
  /-- A request that is rejected is not written, and its callback is dropped. -/
  rejected : ∀ n state, (n, .error (.notReady state)) ∈ h.sends →
    state ≠ .ready ∧ ∃ (g : History) (method : String) (params : Json)
      (callback : Option Callback) (later : History), g.state = state ∧
        h = g ++ .take (.command n (.send method params callback)) ::
          ((callback.toList.map .discarded).map .tell ++
            .tell (.reply n (.send (.error (.notReady state)))) :: later)
  /-- Nothing is sent that is queued behind a command to close. -/
  barrier : ∀ earlier k between n method params callback later,
    h.commands = earlier ++ (k, .close) :: (between ++ (n, .send method params callback) :: later) →
      (n, .error (.notReady .closed)) ∈ h.sends

variable {options : Options} {c c' : Connection} {g h own rest : History} {x : Stimulus}
  {t : Standing} {n : Nat} {method : String} {params : Json} {callback : Option Callback}

/-- What a command to send was replied tells what was done on it. -/
theorem Sending.replied {state : ConnectionState} {request : Request} {m : Nat}
    {r : Except RpcError RequestId}
    (s : Sending state request n callback (own ++ [.tell (.reply m (.send r))])) :
    (state ≠ .ready ∧ own = (callback.toList.map .discarded).map .tell ∧
      r = .error (.notReady state)) ∨ (∃ e, r = .error (.transport e)) ∨
    ∃ (ch : Characteristic) (a : LinkAnswer (.write ch (Frame.encode request.document)))
      (shown : LinkStatus), a.result = .ok () ∧
        own = [.call (.write ch (Frame.encode request.document)), .answer _ a,
          .tell (.shown shown)] ∧ r = .ok request.id := by
  generalize acts : own ++ [.tell (.reply m (.send r))] = all at s
  have last (init : History) {b : Act} (is : own ++ [.tell (.reply m (.send r))] = init ++ [b]) :
      own = init ∧ .tell (.reply m (.send r)) = b := by
    obtain ⟨same, last⟩ := List.append_inj' is rfl
    exact ⟨same, List.singleton_inj.1 last⟩
  cases s with
  | refused unready =>
    obtain ⟨rfl, is⟩ := last _ acts
    cases is
    exact .inl ⟨unready, rfl, rfl⟩
  | writing =>
    cases (last [] acts).2
  | @written ch ready a result shown =>
    obtain ⟨rfl, is⟩ := last [.call _, .answer _ a, .tell (.shown shown)] acts
    cases is
    exact .inr (.inr ⟨_, a, shown, result, rfl, rfl⟩)
  | @failing ch e ready a result fatal shown =>
    cases (last [.call _, .answer _ a, .tell (.shown shown)] acts).2
  | @failed ch e noted ready a =>
    rw [← List.cons_append, ← List.cons_append] at acts
    cases (last _ acts).2
    exact .inr (.inl ⟨e, rfl⟩)

theorem Connection.Reacts.command_of_reply {y : Reply} (reacts : c.Reacts x own c')
    (reply : .tell (.reply n y) ∈ own) : ∃ cmd, x = .command n cmd ∧ y.Answers cmd := by
  have reply := mem_replies.2 (mem_outputs.2 reply)
  have replies := reacts.replies
  cases x with
  | command m cmd =>
    obtain ⟨z, is, answers⟩ := replies
    rw [is] at reply
    cases List.mem_singleton.1 reply
    exact ⟨cmd, rfl, answers⟩
  | clientsGone | linkLost | poll | sweep =>
    rw [show own.replies = [] from replies] at reply
    cases reply

namespace Connection.Run

theorem nextId_eq (run : Run options g (.idle c)) :
    c.correlator.nextId = .ofNat (g.frames.length + 1) :=
  run.at_rest.deeds.recorded.nextId

theorem state_eq (run : Run options g (.idle c)) : g.state = c.state :=
  run.at_rest.steady.entered

/-- A finished turn to send. -/
theorem sending_of_reacts (run : Run options g (.idle c))
    (reacts : c.Reacts (.command n (.send method params callback)) own c')
    (room : g.frames.length + own.frames.length < UInt64.size) :
    Sending g.state (.new (.ofNat (g.frames.length + 1)) method params) n callback own := by
  rw [run.state_eq, ← run.nextId_eq]
  cases reacts with
  | send sends =>
    cases sends with
    | refused unready =>
      refine .refused fun ready => ?_
      have inUse := run.at_rest.steady.stage.inUse_iff.2 ready
      rw [unready ready] at inUse
      cases inUse
    | failed state inUse is a result notes =>
      subst is
      exact .failed state a result notes.quiet
    | written state inUse is a result =>
      subst is
      have fits : g.frames.length + 1 < UInt64.size := by
        refine Nat.lt_of_le_of_lt (Nat.add_le_add_left ?_ _) room
        simp [-List.map_map]
      have none := run.at_rest.deeds.recorded.displaces_none fits
        (Eq.refl (Request.new c.correlator.nextId method params)) a.time callback
      rw [none]
      exact .written state a result _

theorem frames_of_reacts (reacts : c.Reacts x own c') (other : ¬ x.Sends) : own.frames = [] := by
  have reply {h : History} {n : Nat} {y : Reply} (quiet : Quiet h) :
      frames (h ++ [.tell (.reply n y)]) = [] := by
    rw [frames_append, quiet.frames]
    rfl
  cases reacts with
  | connect establishes => exact reply establishes.quiet
  | send => exact (other trivial).elim
  | close shuts => exact reply shuts.quiet
  | clientsGone shuts | linkLost shuts => exact shuts.quiet.frames
  | poll inUse polls => exact polls.quiet.frames
  | sweep => exact quiet_expiry.frames
  | unlimited => rfl

theorem room_of_turn {later : History} {size : Nat}
    (room : (g ++ .take x :: (own ++ later) : History).frames.length < size) :
    g.frames.length + own.frames.length < size := by
  rw [frames_append, frames_cons, frames_append, List.length_append, List.length_append] at room
  simp only [Act.frame?, Option.toList_none, List.length_nil, List.length_append] at room
  omega

theorem sending (run : Run options h t) (room : h.frames.length < UInt64.size)
    (is : h = g ++ .take (.command n (.send method params callback)) :: rest) :
    ∃ own later, rest = own ++ later ∧ (∀ a ∈ later.head?, ∃ y, a = .take y) ∧
      Sending g.state (.new (.ofNat (g.frames.length + 1)) method params) n callback own := by
  subst is
  obtain ⟨c, before, awaits, ⟨own, later, d, rfl, reacts, next⟩ | paused⟩ := run.turn
  · exact ⟨own, later, rfl, next, before.sending_of_reacts reacts (room_of_turn room)⟩
  · refine ⟨rest, [], (List.append_nil _).symm, (fun _ first => by cases first), ?_⟩
    rw [before.state_eq, ← before.nextId_eq]
    cases paused.sending n method params callback rfl with
    | writing state is =>
      subst is
      exact .writing state
    | failing state is a result fatal =>
      subst is
      exact .failing state a result fatal _

theorem alone (run : Run options h t) (is : h = g ++ .take x :: rest) : g.Replied := by
  subst is
  obtain ⟨c, before, -⟩ := run.turn
  exact before.at_rest.deeds.replied.idle

/-- A turn writes one frame at most. -/
theorem frames_of_turn (before : Run options g (.idle c))
    (turn : (∃ d, c.Reacts x rest d) ∨ ∃ t, c.Pauses x rest t) :
    rest.frames = [] ∨ ∃ n method params callback,
      x = .command n (.send method params callback) ∧
        rest.frames = [Frame.encode
          (Request.new (.ofNat (g.frames.length + 1)) method params).document] := by
  by_cases sends : x.Sends
  · match x, sends with
    | .command n (.send method params callback), _ =>
      have one {rest : History} (frames : rest.frames =
          [Frame.encode (Request.new c.correlator.nextId method params).document]) :
          rest.frames = [] ∨ ∃ n' method' params' callback',
            Stimulus.command n (.send method params callback) =
              .command n' (.send method' params' callback') ∧ rest.frames =
                [Frame.encode
                  (Request.new (.ofNat (g.frames.length + 1)) method' params').document] :=
        .inr ⟨n, method, params, callback, rfl, by rw [frames, before.nextId_eq]⟩
      have dropped {ds : List Callback} : frames ((ds.map .discarded).map .tell) = [] :=
        frames_tell _
      rcases turn with ⟨d, reacts⟩ | ⟨t, paused⟩
      · cases reacts with
        | send sends =>
          cases sends with
          | refused => exact .inl (by rw [frames_append, dropped]; rfl)
          | failed state inUse is a result notes =>
            subst is
            refine one ?_
            rw [frames_append, frames_cons, frames_cons, frames_append, notes.quiet.frames, dropped]
            rfl
          | written state inUse is a result =>
            subst is
            refine one ?_
            rw [frames_append, frames_cons, frames_cons, frames_append, dropped]
            rfl
      · cases paused.sending n method params callback rfl with
        | writing state is | failing state is =>
          subst is
          exact one rfl
  · rcases turn with ⟨d, reacts⟩ | ⟨t, paused⟩
    · exact .inl (frames_of_reacts reacts sends)
    · exact .inl (paused.unwritten sends)

/-- Each turn that writes a frame gives it the next id. -/
theorem written (run : Run options h t) (room : h.frames.length < UInt64.size) :
    h.WritesInOrder := by
  suffices bounded : h.frames.length < UInt64.size → h.WritesInOrder from bounded room
  clear room
  refine run.by_turns (P := fun h => h.frames.length < UInt64.size → h.WritesInOrder) ?_ ?_
  · exact fun _ => ⟨[], [], rfl, rfl, List.nil_sublist _, .nil⟩
  · intro g rest c x ih before awaits turn room
    have frames : History.frames (g ++ .take x :: rest) = g.frames ++ rest.frames := by
      rw [frames_append, frames_cons]
      rfl
    rw [frames, List.length_append] at room
    obtain ⟨rs, ws, written, ids, taken, asked⟩ := ih (by omega)
    rw [WritesInOrder, frames]
    rcases before.frames_of_turn turn with none | ⟨n, method, params, callback, rfl, one⟩
    · refine ⟨rs, ws, by rw [none, List.append_nil, written], ids, ?_, asked⟩
      rw [commands_append]
      exact taken.trans (List.sublist_append_left _ _)
    · have count : g.frames.length = rs.length := by rw [written, List.length_map]
      rw [one, List.length_singleton] at room
      refine ⟨rs ++ [.new (.ofNat (g.frames.length + 1)) method params],
        ws ++ [(n, .send method params callback)], ?_, ?_, ?_, ?_⟩
      · rw [one, written, List.map_append]
        rfl
      · rw [List.map_append, ids, List.length_append, List.length_singleton, List.range'_concat,
          List.map_singleton]
        show _ ++ [(UInt64.ofNat (g.frames.length + 1)).toNat] = _
        rw [UInt64.toNat_ofNat_of_lt' room, count, Nat.one_mul, Nat.add_comm]
      · rw [commands_append, commands_cons]
        exact taken.append (List.sublist_append_left [(n, _)] _)
      · exact List.rel_append asked
          (.cons ⟨method, params, callback, rfl, rfl, rfl, rfl⟩ .nil)

/-- A command to send is replied to at the end of its turn. -/
theorem turn_of_sent {r : Except RpcError RequestId} (run : Run options h t)
    (room : h.frames.length < UInt64.size) (sent : (n, r) ∈ h.sends) :
    ∃ (g : History) (method : String) (params : Json) (callback : Option Callback)
      (own later : History),
      h = g ++ .take (.command n (.send method params callback)) ::
        (own ++ .tell (.reply n (.send r)) :: later) ∧
      Sending g.state (.new (.ofNat (g.frames.length + 1)) method params) n callback
        (own ++ [.tell (.reply n (.send r))]) := by
  have told := mem_outputs.1 (mem_replies.1 (mem_sends.1 sent))
  obtain ⟨before, after, rfl⟩ := List.append_of_mem told
  obtain ⟨g, x, c, part, rfl, before, -, ⟨more, later, d, rfl, reacts, -⟩ | neutral⟩ := run.told
  · obtain ⟨cmd, rfl, answers⟩ :=
      reacts.command_of_reply (List.mem_append_right _ List.mem_cons_self)
    cases answers
    have last : more = [] := by
      generalize acts : part ++ .tell (.reply n (.send r)) :: more = own at reacts
      cases reacts with
      | send sends =>
        rcases List.eq_nil_or_concat more with rfl | ⟨more, a, rfl⟩
        · rfl
        · rw [List.concat_eq_append, ← List.cons_append, ← List.append_assoc] at acts
          obtain ⟨earlier, -⟩ := List.append_inj' acts rfl
          have unreplied := sends.quiet_tail.2.2
          rw [← earlier, History.replies_append] at unreplied
          cases (List.append_eq_nil_iff.1 unreplied).2
    subst last
    rw [List.append_assoc, List.cons_append, List.append_cons part] at room
    exact ⟨g, _, _, _, part, later, by simp, before.sending_of_reacts reacts (room_of_turn room)⟩
  · exact neutral.elim

theorem returned (run : Run options h t) (room : h.frames.length < UInt64.size) (n : Nat)
    (id : RequestId) : (n, .ok id) ∈ h.sends ↔
    ∃ (g : History) (method : String) (params : Json) (callback : Option Callback)
      (ch : Characteristic)
      (a : LinkAnswer (.write ch (Frame.encode (Request.new id method params).document)))
      (shown : LinkStatus) (later : History), id = .ofNat (g.frames.length + 1) ∧
        a.result = .ok () ∧
        h = g ++ .take (.command n (.send method params callback)) ::
          .call (.write ch (Frame.encode (Request.new id method params).document)) ::
            .answer _ a :: .tell (.shown shown) :: .tell (.reply n (.send (.ok id))) :: later := by
  constructor
  · intro sent
    obtain ⟨g, method, params, callback, own, later, is, sending⟩ := run.turn_of_sent room sent
    rcases sending.replied with ⟨-, -, failed⟩ | ⟨e, failed⟩ | ⟨ch, a, shown, result, rfl, told⟩
    · cases failed
    · cases failed
    · cases told
      exact ⟨g, method, params, callback, ch, a, shown, later, rfl, result, is⟩
  · rintro ⟨g, method, params, callback, ch, a, shown, later, -, -, rfl⟩
    refine mem_sends.2 (mem_replies.2 (mem_outputs.2 ?_))
    simp

theorem rejected (run : Run options h t) (room : h.frames.length < UInt64.size) (n : Nat)
    (state : ConnectionState) (sent : (n, .error (.notReady state)) ∈ h.sends) :
    state ≠ .ready ∧ ∃ (g : History) (method : String) (params : Json)
      (callback : Option Callback) (later : History), g.state = state ∧
        h = g ++ .take (.command n (.send method params callback)) ::
          ((callback.toList.map .discarded).map .tell ++
            .tell (.reply n (.send (.error (.notReady state)))) :: later) := by
  obtain ⟨g, method, params, callback, own, later, is, sending⟩ := run.turn_of_sent room sent
  rcases sending.replied with ⟨unready, rfl, told⟩ | ⟨e, failed⟩ | ⟨ch, a, shown, result, -, told⟩
  · cases told
    exact ⟨unready, g, method, params, callback, later, rfl, is⟩
  · cases failed
  · cases told

/-- After a turn to close the connection is closed. -/
theorem closed_of_reacts (run : Run options g (.idle c))
    (reacts : c.Reacts (.command n .close) own c') :
    History.state (g ++ .take (.command n .close) :: own) = .closed := by
  have steady := run.at_rest.steady.reacts (x := .command n .close) trivial reacts
  rw [steady.entered]
  cases reacts with
  | close shuts =>
    cases shuts with
    | already state => exact state
    | now => rfl

/-- Once a command to close is replied to the connection is closed. -/
theorem closed_of_replied (mode : options.pollMode ≠ .interval 0) (run : Run options h t)
    (replied : .reply n .close ∈ h.outputs) : t.connection.state = .closed := by
  obtain ⟨before, after, rfl⟩ := List.append_of_mem (mem_outputs.1 replied)
  obtain ⟨g, x, c, part, rfl, before, -, ⟨more, later, d, rfl, reacts, -⟩ | neutral⟩ := run.told
  · obtain ⟨cmd, rfl, answers⟩ :=
      reacts.command_of_reply (List.mem_append_right _ List.mem_cons_self)
    cases answers
    have closed := before.closed_of_reacts reacts
    have inTurn : g ++ .take (.command n .close) :: part ++
        .tell (.reply n .close) :: (more ++ later) =
        g ++ .take (.command n .close) :: (part ++ .tell (.reply n .close) :: more) ++ later := by
      simp
    rw [inTurn] at run
    have quiet := Moves.closed_last (moves mode run) closed
    rw [← entered mode run, History.state_append_of_nil quiet, closed]
  · exact neutral.elim

/-- A command behind one to close finds the connection closed. -/
theorem state_behind_close {amid : History} {k : Nat} {cmd : Command}
    (run : Run options
      (g ++ .take (.command n .close) :: (amid ++ .take (.command k cmd) :: rest)) t) :
    History.state (g ++ .take (.command n .close) :: amid) = .closed := by
  obtain ⟨c, before, -, ⟨own, later, d, split, reacts, -⟩ | paused⟩ := run.turn
  · have begins : own <+: amid := by
      rcases List.append_eq_append_iff.1 split with ⟨as, is, takes⟩ | ⟨bs, is, -⟩
      · cases as with
        | nil => exact ⟨[], by rw [is]; simp⟩
        | cons a as =>
          cases takes
          have untaken := reacts.commands
          rw [is, commands_append] at untaken
          cases (List.append_eq_nil_iff.1 untaken).2
      · exact ⟨bs, is.symm⟩
    obtain ⟨more, rfl⟩ := begins
    have inTurn :
        g ++ .take (.command n .close) :: (own ++ more ++ .take (.command k cmd) :: rest) =
        g ++ .take (.command n .close) :: own ++ more ++ .take (.command k cmd) :: rest := by
      simp
    rw [inTurn] at run
    obtain ⟨c', after, -⟩ := run.turn
    have quiet := Moves.closed_last after.at_rest.steady.moves (before.closed_of_reacts reacts)
    rw [← List.cons_append, ← List.append_assoc, History.state_append_of_nil quiet]
    exact before.closed_of_reacts reacts
  · exact (paused.spares.neutral _ (List.mem_append_right _ List.mem_cons_self)).elim

theorem exists_take {before after : List (Nat × Command)} {cmd : Command}
    (is : h.commands = before ++ (n, cmd) :: after) :
    ∃ (g rest : History), h = g ++ .take (.command n cmd) :: rest ∧ rest.commands = after := by
  obtain ⟨g, rest, rfl, -, is⟩ := List.filterMap_eq_append_iff.1 is
  obtain ⟨silent, a, rest, rfl, -, taken, is⟩ := List.filterMap_eq_cons_iff.1 is
  have taken : a = .take (.command n cmd) := by
    unfold Act.command? at taken
    split at taken
    · cases taken
      rfl
    · cases taken
  exact ⟨g ++ silent, rest, by simp [taken], is⟩

theorem barrier (run : Run options h t) (room : h.frames.length < UInt64.size)
    {earlier between later : List (Nat × Command)} {k : Nat}
    (queued : h.commands =
      earlier ++ (k, .close) :: (between ++ (n, .send method params callback) :: later)) :
    (n, .error (.notReady .closed)) ∈ h.sends := by
  obtain ⟨g, rest, rfl, left⟩ := exists_take queued
  obtain ⟨amid, rest, rfl, -⟩ := exists_take left
  have closed := run.state_behind_close
  have inOrder : g ++ .take (.command k .close) ::
      (amid ++ .take (.command n (.send method params callback)) :: rest) =
        g ++ .take (.command k .close) :: amid ++
          .take (.command n (.send method params callback)) :: rest := by simp
  obtain ⟨own, later, rfl, -, sending⟩ := run.sending room inOrder
  rw [closed] at sending
  cases sending with
  | refused =>
    refine mem_sends.2 (mem_replies.2 (mem_outputs.2 ?_))
    simp
  | writing ready | written ready | failing ready | failed ready => cases ready

/-- A task carries out its commands in order, while there are ids. -/
theorem ordered (run : Run options h t) (room : h.frames.length < UInt64.size) : h.Ordered where
  alone _ _ _ := run.alone
  sending _ _ _ _ _ _ := run.sending room
  written := run.written room
  returned := run.returned room
  rejected := run.rejected room
  barrier _ _ _ _ _ _ _ _ := run.barrier room

end Connection.Run

end GattRpc
