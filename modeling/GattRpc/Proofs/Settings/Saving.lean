import GattRpc.Settings.Storage
import GattRpc.Proofs.Files
import GattRpc.Proofs.Settings.RoundTrip

/-! # Saved settings are loaded again

Settings that fit are written as a whole and read back as they are. Of others nothing is written:
the only step that can refuse them comes before the file is touched. Only the directory of the file
may be made by then, which changes no file, but can make names lead somewhere that led nowhere if
they leave a missing directory by a `..`. Loading writes only where nothing was. -/

namespace GattRpc

variable {p : Path} {t t' made : FileTree} {s : Settings}

/-- The directories of a place can be made, and then whatever is to be there can be written. -/
def Path.Writable (p : Path) (t : FileTree) : Prop :=
  ∃ made, t.makeDirectories p.parent = (.ok (), made) ∧
    ∀ content, ∃ t', made.write p content = .ok t'

namespace FileTree

/-- A file that was written shows that its directory is there. -/
theorem makeDirectories_of_written {content : List UInt8} (written : t.write p content = .ok t') :
    t'.makeDirectories p.parent = (.ok (), t') := by
  obtain ⟨-, -, ⟨entries, there⟩, -⟩ := write_eq_ok written
  exact makeDirectories_of_look there

end FileTree

namespace Settings

/-- What saving on a disk gives, and the disk after it. -/
def saved (s : Settings) (p : Path) (t : FileTree) : Except Failure Unit × FileTree :=
  StateT.run (m := Id) (s.save p) t

/-- What loading from a disk gives, and the disk after it. -/
def loaded (p : Path) (t : FileTree) : Except Failure Settings × FileTree :=
  StateT.run (m := Id) (load p) t

section
variable {α β : Type} {x : StateM FileTree α} {a : α}

theorem run_bind (f : α → StateM FileTree β) (first : StateT.run (m := Id) x t = (a, t')) :
    StateT.run (m := Id) (x >>= f) t = StateT.run (m := Id) (f a) t' := by
  rw [StateT.run_bind, first]
  rfl

end

theorem run_attempt (f : FileTree → Except FileError FileTree) (t : FileTree) :
    StateT.run (m := Id) (FileTree.attempt f) t = match f t with
      | .error e => (.error e, t)
      | .ok t' => (.ok (), t') := by
  show FileTree.attempt f t = _
  rw [FileTree.attempt]
  cases f t with
  | error e => rfl
  | ok t' => rfl

theorem saved_eq (s : Settings) (p : Path) (t : FileTree) : s.saved p t =
    match t.makeDirectories p.parent with
    | (.error e, made) => (.error (.file e), made)
    | (.ok (), made) =>
      match s.text? with
      | none => (.error .unwritable, made)
      | some text =>
        match made.write p (Utf8.encode text) with
        | .error e => (.error (.file e), made)
        | .ok t' => (.ok (), t') := by
  have directories : StateT.run (m := Id) (Files.makeDirectories p.parent) t =
    t.makeDirectories p.parent := rfl
  cases is : t.makeDirectories p.parent with
  | mk result made =>
    rw [is] at directories
    refine (run_bind _ directories).trans ?_
    cases result with
    | error e => rfl
    | ok =>
      cases s.text? with
      | none => rfl
      | some text =>
        have write := run_attempt (FileTree.write p (Utf8.encode text)) made
        dsimp only
        cases is : made.write p (Utf8.encode text) with
        | error e =>
          rw [is] at write
          exact run_bind _ write
        | ok t' =>
          rw [is] at write
          exact run_bind _ write

/-- The settings in what was read of a file. -/
def ofRead : Except FileError (List UInt8) → Except Failure Settings
  | .error e => .error (.file e)
  | .ok bytes =>
    match Utf8.decode? bytes with
    | none => .error (.file .notText)
    | some text => (parse text).mapError .refused

theorem loaded_there (there : t.isThere p = true) : loaded p t = (ofRead (t.read p), t) := by
  have looks : StateT.run (m := Id) (Files.isThere p) t = (true, t) := by
    rw [← there]
    rfl
  have reads : StateT.run (m := Id) (Files.read p) t = (t.read p, t) := rfl
  refine (run_bind _ looks).trans ((run_bind _ reads).trans ?_)
  cases t.read p with
  | error e => rfl
  | ok bytes =>
    dsimp only [ofRead]
    cases Utf8.decode? bytes with
    | none => rfl
    | some text => rfl

theorem loaded_missing (missing : t.isThere p = false) : loaded p t =
    ((({} : Settings).saved p t).1.map fun () => {}, (({} : Settings).saved p t).2) := by
  have looks : StateT.run (m := Id) (Files.isThere p) t = (false, t) := by
    rw [← missing]
    rfl
  exact run_bind _ looks

/-! ### After saving -/

/-- Making the directory of a file changes nothing about loading it. -/
theorem loaded_makeDirectories (a : FileTree.Anchored p.names t) :
    loaded p (t.makeDirectories p.parent).2 = loaded p t := by
  by_cases missing : t.resolve p.parent = .error .notFound
  · obtain ⟨made, -, made', -⟩ := FileTree.makeDirectories_fresh a.dropLast missing
    have same := FileTree.look_makeDirectories a
    rw [Path.parent] at same ⊢
    rw [made'] at same ⊢
    have absent : t.isThere p = false := by rw [FileTree.isThere, FileTree.look_missing missing]
    have still : made.isThere p = false := by
      rw [FileTree.isThere, same, FileTree.look_missing missing]
    have saves : ({} : Settings).saved p made = ({} : Settings).saved p t := by
      rw [saved_eq, saved_eq, Path.parent, made', FileTree.makeDirectories_again made']
    rw [loaded_missing absent, loaded_missing still, saves]
  · rw [FileTree.makeDirectories_of_resolve missing]

/-- What saving leaves behind, if all of it can be done. -/
theorem saved_fits (writable : p.Writable t) (fits : s.Fits) : ∃ t' text,
    s.text? = some text ∧ parse text = .ok s ∧ s.saved p t = (.ok (), t') ∧
      t'.isThere p = true ∧ t'.read p = .ok (Utf8.encode text) ∧ s.saved p t' = (.ok (), t') := by
  obtain ⟨made, made', writes⟩ := writable
  have text := text?_eq_some fits
  obtain ⟨t', written⟩ := writes (Utf8.encode (String.ofList s.document))
  obtain ⟨ending, looked, -, again⟩ := FileTree.write_eq_ok written
  refine ⟨t', _, text, parse_document fits, ?_, ?_, ?_, ?_⟩
  · rw [saved_eq, made', text]
    simp only [written]
  · rw [FileTree.isThere, looked]
    simp [ending]
  · rw [FileTree.read, looked]
    simp [ending]
  · rw [saved_eq, FileTree.makeDirectories_of_written written, text]
    simp only [again]

theorem loaded_fits {text : String} (parses : parse text = .ok s) (there : t.isThere p = true)
    (read : t.read p = .ok (Utf8.encode text)) : loaded p t = (.ok s, t) := by
  rw [loaded_there there, read]
  simp only [ofRead, Utf8.decode?_encode, parses]
  rfl

theorem fits_default : Fits {} where
  pollInterval := by decide
  requestTimeout := by simp
  commandQueue := by decide

/-- Saving that fails makes directories at most. -/
theorem saved_error {e : Failure} (failed : s.saved p t = (.error e, t')) :
    t' = (t.makeDirectories p.parent).2 := by
  rw [saved_eq] at failed
  split at failed
  · next made =>
    rw [made]
    exact (Prod.mk.inj failed).2.symm
  · next made =>
    rw [made]
    split at failed
    · exact (Prod.mk.inj failed).2.symm
    · split at failed
      · exact (Prod.mk.inj failed).2.symm
      · cases failed

/-- Saving what does not fit fails, and where everything else could be done it is for that. -/
theorem saved_large (large : ¬ s.Fits) :
    ∃ e, s.saved p t = (.error e, (t.makeDirectories p.parent).2) ∧
      (p.Writable t → e = .unwritable) := by
  cases is : t.makeDirectories p.parent with
  | mk result made =>
    cases result with
    | error e =>
      refine ⟨.file e, by rw [saved_eq, is], ?_⟩
      rintro ⟨made, made', -⟩
      cases is.symm.trans made'
    | ok => exact ⟨.unwritable, by rw [saved_eq, is, text?_eq_none large], fun _ => rfl⟩

/-- How settings in a file are kept. -/
structure Persists (p : Path) (t : FileTree) : Prop where
  /-- Settings that fit are loaded as they were saved, and saved again as the same bytes. -/
  kept : p.Writable t → ∀ s : Settings, s.Fits → ∃ t' text,
    s.text? = some text ∧ s.saved p t = (.ok (), t') ∧ t'.read p = .ok (Utf8.encode text) ∧
      loaded p t' = (.ok s, t') ∧ s.saved p t' = (.ok (), t')
  /-- Others are not saved, and no file changes, nor anything at all if there was something at the
  path. If nothing is missing that the path leaves by a `..`, then there is nothing at the path
  either if there was nothing, and loading gives what it would have given. -/
  refused : ∀ s : Settings, ¬ s.Fits → ∃ e t', s.saved p t = (.error e, t') ∧
    (p.Writable t → e = .unwritable) ∧ t.Grows t' ∧ (∀ u, t.look p.names = .ok u → t' = t) ∧
      (FileTree.Anchored p.names t →
        t'.look p.names = t.look p.names ∧ loaded p t' = loaded p t)
  /-- A file that is missing is made, with the defaults. -/
  defaults : p.Writable t → t.isThere p = false → ∃ t', loaded p t = (.ok {}, t') ∧
    t'.isThere p = true ∧ loaded p t' = (.ok {}, t')
  /-- Loading that fails changes no file, and nothing at all if the file is there. -/
  failing : ∀ e t', loaded p t = (.error e, t') → (t.isThere p = true → t' = t) ∧ t.Grows t'

theorem persists (p : Path) (t : FileTree) : Persists p t where
  kept writable s fits := by
    obtain ⟨t', text, is, parses, saves, there, read, again⟩ := saved_fits writable fits
    exact ⟨t', text, is, saves, read, loaded_fits parses there read, again⟩
  refused s large := by
    obtain ⟨e, fails, why⟩ := saved_large (p := p) (t := t) large
    refine ⟨e, _, fails, why, FileTree.makeDirectories_grows, fun u looked => ?_, fun anchored =>
      ⟨FileTree.look_makeDirectories anchored, loaded_makeDirectories anchored⟩⟩
    apply FileTree.makeDirectories_of_resolve
    intro missing
    cases (FileTree.look_missing missing).symm.trans looked
  defaults writable missing := by
    obtain ⟨t', text, -, parses, saves, there, read, -⟩ := saved_fits writable fits_default
    refine ⟨t', ?_, there, loaded_fits parses there read⟩
    rw [loaded_missing missing, saves]
    rfl
  failing e t' fails := by
    cases there : t.isThere p with
    | true =>
      rw [loaded_there there] at fails
      obtain rfl := (Prod.mk.inj fails).2
      exact ⟨fun _ => rfl, .refl⟩
    | false =>
      rw [loaded_missing there] at fails
      refine ⟨nofun, ?_⟩
      cases saves : ({} : Settings).saved p t with
      | mk result left =>
        rw [saves] at fails
        obtain ⟨fails, rfl⟩ := Prod.mk.inj fails
        cases result with
        | ok => exact nomatch fails
        | error e =>
          rw [saved_error saves]
          exact FileTree.makeDirectories_grows

/-- Where a path leaves a missing directory by a `..`, saving that fails makes the directory, and
with it a file is there that was not. -/
theorem persists_unanchored :
    let old : Settings := { rpc := { commandQueue := 7 } }
    let large : Settings := { rpc := { pollInterval := 9223372036854775808 } }
    let t : FileTree :=
      .directory [("config.toml", .file (Utf8.encode (String.ofList old.document)))]
    let p : Path := { names := ["x", "..", "config.toml"] }
    p.Writable t ∧ ¬ large.Fits ∧ t.isThere p = false ∧ (loaded p t).1 = .ok {} ∧
      ∃ t', large.saved p t = (.error .unwritable, t') ∧ t'.isThere p = true ∧
        (loaded p t').1 = .ok old := by
  intro old large
  generalize text : Utf8.encode (String.ofList old.document) = bytes
  intro t p
  have fits : old.Fits := ⟨by decide, by simp [old], by decide⟩
  have unfit : ¬ large.Fits := fun h => absurd h.pollInterval (by decide)
  let made : FileTree := .directory [("config.toml", .file bytes), ("x", .empty)]
  have first : t.makeDirectories ["x"] = (.ok (), made) :=
    FileTree.makeDirectories_of_makeDirectory rfl (by simp)
  have made' : t.makeDirectories p.parent = (.ok (), made) := by
    show t.makeDirectories (["x"] ++ [".."]) = _
    rw [FileTree.makeDirectories_concat rfl, first]
    rfl
  have writable : p.Writable t := ⟨made, made', fun content => ⟨_, rfl⟩⟩
  have absent : t.isThere p = false := rfl
  have there : made.isThere p = true := rfl
  refine ⟨writable, unfit, absent, ?_, made, ?_, there, ?_⟩
  · obtain ⟨t', text, -, -, saves, -⟩ := saved_fits writable fits_default
    rw [loaded_missing absent, saves]
    rfl
  · rw [saved_eq, made', text?_eq_none unfit]
  · rw [loaded_fits (parse_document fits) there (by rw [text]; rfl)]

end Settings

end GattRpc
