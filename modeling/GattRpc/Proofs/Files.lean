import GattRpc.Files
import GattRpc.Proofs.Json.Fields
import Mathlib.Data.List.Induction

/-! # What file operations do to a tree

Names lead to a place only if each directory on the way is there. To make directories changes no
file (`Grows`), and nothing at all where names already lead somewhere. What it makes is empty, as
long as nothing is missing that the names leave by a `..` (`Anchored`): then a place in the directory
holds what it held. A file that was written is found with what was written. -/

namespace GattRpc.FileTree

variable {t t' u v : FileTree} {entries : List (String × FileTree)} {name : String}
  {names dir rest place q : List String} {content : List UInt8} {p : Path} {e taken : FileError}
  {f : Option FileTree → Except FileError FileTree}

/-! ### Entries -/

theorem lookup_insert (other : String) :
    (insert name u entries).lookup other =
      if other = name then some u else entries.lookup other := by
  induction entries with
  | nil =>
    rw [insert, List.lookup_cons]
    split
    · next same => rw [if_pos (by simpa using same)]
    · next ne => rw [if_neg (by simpa using ne)]
  | cons entry entries ih =>
    obtain ⟨n, old⟩ := entry
    rw [insert]
    split
    · next same =>
      subst same
      rw [List.lookup_cons, List.lookup_cons]
      split
      · next same => rw [if_pos (by simpa using same)]
      · next ne => rw [if_neg (by simpa using ne)]
    · next ne =>
      rw [List.lookup_cons, List.lookup_cons, ih]
      split
      · next same => rw [if_neg (by rw [show other = n by simpa using same]; exact ne)]
      · rfl

/-- An entry that is replaced by itself leaves the others as they are. -/
theorem insert_self (is : entries.lookup name = some u) : insert name u entries = entries := by
  induction entries with
  | nil => simp at is
  | cons entry entries ih =>
    obtain ⟨n, old⟩ := entry
    rw [insert]
    rw [List.lookup_cons] at is
    split
    · next same =>
      subst same
      simp only [BEq.rfl, Option.some.injEq] at is
      rw [is]
    · next ne =>
      have other : (name == n) = false := by simpa using Ne.symm ne
      rw [other] at is
      rw [ih is]

/-! ### Places -/

theorem find_nil (t : FileTree) : t.find [] = .ok t := by
  cases t with
  | file content => rfl
  | directory entries => rfl

theorem find_entry (is : entries.lookup name = some u) :
    (directory entries).find (name :: names) = u.find names := by
  rw [find, is]

theorem find_no_entry (is : entries.lookup name = none) :
    (directory entries).find (name :: names) = .error .notFound := by
  rw [find, is]

theorem find_insert :
    (directory (insert name u entries)).find (name :: names) = u.find names := by
  rw [find_entry (by rw [lookup_insert, if_pos rfl])]

theorem find_cons_eq_ok (found : t.find (name :: names) = .ok u) :
    ∃ entries inner, t = directory entries ∧ entries.lookup name = some inner ∧
      inner.find names = .ok u := by
  cases t with
  | file content => simp [find] at found
  | directory entries =>
    rw [find] at found
    split at found
    · simp at found
    · next inner is => exact ⟨entries, inner, rfl, is, found⟩

theorem find_append : t.find (place ++ rest) = t.find place >>= find rest := by
  induction place generalizing t with
  | nil => rw [find_nil]; rfl
  | cons name place ih =>
    cases t with
    | file content => rfl
    | directory entries =>
      cases is : entries.lookup name with
      | none => rw [List.cons_append, find_no_entry is, find_no_entry is]; rfl
      | some u => rw [List.cons_append, find_entry is, find_entry is, ih]

theorem find_concat (found : t.find place = .ok (.directory entries)) :
    t.find (place ++ [name]) = find [name] (directory entries) := by
  rw [find_append, found]
  rfl

theorem find_singleton :
    (directory entries).find [name] = .ok u ↔ entries.lookup name = some u := by
  rw [find]
  split
  · next none => simp [none]
  · next there => simp [there, find_nil]

/-- What is found is in a directory. -/
theorem find_of_concat (found : t.find (place ++ [name]) = .ok u) :
    ∃ entries, t.find place = .ok (.directory entries) := by
  rw [find_append] at found
  obtain ⟨outer, outside, inside⟩ := bind_eq_ok.1 found
  obtain ⟨entries, -, rfl, -⟩ := find_cons_eq_ok inside
  exact ⟨entries, outside⟩

theorem find_dropLast (found : t.find place = .ok u) : ∃ v, t.find place.dropLast = .ok v := by
  rcases List.eq_nil_or_concat place with rfl | ⟨outer, name, rfl⟩
  · exact ⟨u, found⟩
  · rw [List.concat_eq_append] at found ⊢
    rw [List.dropLast_concat]
    obtain ⟨entries, outside⟩ := find_of_concat found
    exact ⟨_, outside⟩

theorem enter_eq_ok : t.enter place name = .ok q ↔
    ∃ entries, t.find place = .ok (.directory entries) ∧
      (name = ".." ∧ place.dropLast = q ∨
        name ≠ ".." ∧ place ++ [name] = q ∧ ∃ u, t.find (place ++ [name]) = .ok u) := by
  rw [enter]
  cases found : t.find place with
  | error e => simp
  | ok u =>
    cases u with
    | file content => simp
    | directory entries =>
      simp only [find_concat found, find_singleton, ← Option.isSome_iff_exists]
      by_cases up : name = ".." <;> by_cases there : (entries.lookup name).isSome <;>
        simp [up, there]

theorem resolve_concat :
    t.resolve (names ++ [name]) = t.resolve names >>= fun place => t.enter place name := by
  rw [resolve, List.foldlM_append, resolve]
  simp

/-- Names lead to a place where something is. -/
theorem find_of_resolve (resolved : t.resolve names = .ok place) : ∃ u, t.find place = .ok u := by
  induction names using List.reverseRecOn generalizing place with
  | nil =>
    cases resolved
    exact ⟨t, find_nil t⟩
  | append_singleton names name ih =>
    rw [resolve_concat] at resolved
    obtain ⟨outer, outside, inside⟩ := bind_eq_ok.1 resolved
    obtain ⟨u, found⟩ := ih outside
    obtain ⟨-, -, ⟨-, rfl⟩ | ⟨-, rfl, there⟩⟩ := enter_eq_ok.1 inside
    · exact find_dropLast found
    · exact there

/-! ### Changes -/

/-- A change of an entry puts it in the place of what is there, or adds it. -/
theorem alter_cons_eq_ok (altered : t.alter f (name :: names) = .ok t') : ∃ entries new,
    t = directory entries ∧ t' = directory (insert name new entries) ∧
      ((∃ old, entries.lookup name = some old ∧ old.alter f names = .ok new) ∨
        entries.lookup name = none ∧ names = [] ∧ f none = .ok new) := by
  cases t with
  | file content => simp [alter] at altered
  | directory entries =>
    cases is : entries.lookup name with
    | some old =>
      rw [alter.eq_3 _ _ _ _ _ is] at altered
      obtain ⟨new, within, same⟩ := bind_eq_ok.1 altered
      exact ⟨entries, new, rfl, (Except.ok.inj same).symm, .inl ⟨old, is, within⟩⟩
    | none =>
      cases names with
      | nil =>
        rw [alter.eq_4 _ _ _ is] at altered
        obtain ⟨new, made, same⟩ := bind_eq_ok.1 altered
        exact ⟨entries, new, rfl, (Except.ok.inj same).symm, .inr ⟨is, rfl, made⟩⟩
      | cons next names =>
        rw [alter.eq_5 _ _ _ _ _ is] at altered
        simp at altered

/-- What a change makes is found where it was made. -/
theorem alter_eq_ok (altered : t.alter f place = .ok t') :
    ∃ old u, f old = .ok u ∧ t'.find place = .ok u := by
  induction place generalizing t t' with
  | nil => exact ⟨_, t', altered, find_nil t'⟩
  | cons name names ih =>
    obtain ⟨entries, new, rfl, rfl, ⟨old, -, within⟩ | ⟨-, rfl, made⟩⟩ := alter_cons_eq_ok altered
    · rw [find_insert]
      exact ih within
    · rw [find_insert, find_nil]
      exact ⟨none, new, made, rfl⟩

/-- What was found before is found after, unless it was changed. A directory may have gained an
entry. -/
theorem find_alter (altered : t.alter f place = .ok t') (found : t.find q = .ok u) :
    (∃ old new rest, q = place ++ rest ∧ f (some old) = .ok new ∧ old.find rest = .ok u ∧
      t'.find q = new.find rest) ∨
    t'.find q = .ok u ∨
      ∃ entries entries', u = directory entries ∧ t'.find q = .ok (directory entries') := by
  induction place generalizing t t' q with
  | nil => exact .inl ⟨t, t', q, rfl, altered, found, rfl⟩
  | cons name names ih =>
    obtain ⟨entries, new, rfl, rfl, how⟩ := alter_cons_eq_ok altered
    cases q with
    | nil =>
      rw [find_nil] at found
      exact .inr (.inr ⟨entries, _, (Except.ok.inj found).symm, find_nil _⟩)
    | cons m q =>
      obtain ⟨_, inner, ⟨⟩, there, found⟩ := find_cons_eq_ok found
      by_cases here : m = name
      · subst here
        rcases how with ⟨old, is, within⟩ | ⟨none, -⟩
        · obtain rfl := Option.some.inj (there.symm.trans is)
          rw [find_insert]
          rcases ih within found with ⟨old, new, rest, rfl, made, was, now⟩ | stays
          · exact .inl ⟨old, new, rest, rfl, made, was, now⟩
          · exact .inr stays
        · cases none.symm.trans there
      · -- Another entry of the directory stays as it is.
        refine .inr (.inl ?_)
        rw [find_entry (by rw [lookup_insert, if_neg here, there]), found]

/-- What is there is handed to the change. -/
theorem alter_of_find (found : t.find place = .ok u) :
    (∀ e, f (some u) = .error e → t.alter f place = .error e) ∧
      (f (some u) = .ok u → t.alter f place = .ok t) := by
  induction place generalizing t with
  | nil =>
    rw [find_nil] at found
    obtain rfl := Except.ok.inj found
    exact ⟨fun e refused => refused, fun same => same⟩
  | cons name names ih =>
    obtain ⟨entries, inner, rfl, is, found⟩ := find_cons_eq_ok found
    rw [alter.eq_3 _ _ _ _ _ is]
    refine ⟨fun e refused => ?_, fun same => ?_⟩
    · rw [(ih found).1 e refused]
      rfl
    · rw [(ih found).2 same]
      show Except.ok (directory (insert name inner entries)) = _
      rw [insert_self is]

/-- Something new is made in a directory. -/
theorem alter_of_find_concat (found : t.find place = .ok (directory entries))
    (none : entries.lookup name = none) (made : f .none = .ok v) :
    ∃ t', t.alter f (place ++ [name]) = .ok t' := by
  induction place generalizing t with
  | nil =>
    rw [find_nil] at found
    obtain rfl := Except.ok.inj found
    refine ⟨directory (insert name v entries), ?_⟩
    rw [List.nil_append, alter.eq_4 _ _ _ none, made]
    rfl
  | cons m place ih =>
    obtain ⟨outer, inner, rfl, is, found⟩ := find_cons_eq_ok found
    obtain ⟨t', altered⟩ := ih found
    refine ⟨directory (insert m t' outer), ?_⟩
    rw [List.cons_append, alter.eq_3 _ _ _ _ _ is, altered]
    rfl

theorem alter_of_find_file (found : t.find place = .ok (file content)) :
    t.alter f (place ++ [name]) = .error .notADirectory := by
  induction place generalizing t with
  | nil =>
    rw [find_nil] at found
    obtain rfl := Except.ok.inj found
    rfl
  | cons m place ih =>
    obtain ⟨outer, inner, rfl, is, found⟩ := find_cons_eq_ok found
    rw [List.cons_append, alter.eq_3 _ _ _ _ _ is, ih found]
    rfl

/-! ### What stays -/

/-- All that was found is found, as a file or as a directory. -/
def Keeps (t t' : FileTree) : Prop :=
  ∀ place u, t.find place = .ok u → match u with
    | .file _ => ∃ content, t'.find place = .ok (.file content)
    | .directory _ => ∃ entries, t'.find place = .ok (.directory entries)

/-- Files hold what they held, and directories are there. -/
def Grows (t t' : FileTree) : Prop :=
  ∀ place u, t.find place = .ok u → match u with
    | .file content => t'.find place = .ok (.file content)
    | .directory _ => ∃ entries, t'.find place = .ok (.directory entries)

theorem Grows.refl : Grows t t := by
  intro place u found
  cases u with
  | file content => exact found
  | directory entries => exact ⟨entries, found⟩

theorem Grows.trans (k : Grows t u) (k' : Grows u v) : Grows t v := by
  intro place w found
  cases w with
  | file content => exact k' place _ (k place _ found)
  | directory entries =>
    obtain ⟨entries', found⟩ := k place _ found
    exact k' place _ found

theorem Grows.keeps (k : Grows t t') : Keeps t t' := by
  intro place u found
  cases u with
  | file content => exact ⟨content, k place _ found⟩
  | directory entries => exact k place _ found

/-- Names lead where they led. -/
theorem Keeps.resolve (k : Keeps t t') (resolved : t.resolve names = .ok place) :
    t'.resolve names = .ok place := by
  induction names using List.reverseRecOn generalizing place with
  | nil => exact resolved
  | append_singleton names name ih =>
    rw [resolve_concat] at resolved ⊢
    obtain ⟨outer, outside, inside⟩ := bind_eq_ok.1 resolved
    obtain ⟨entries, found, how⟩ := enter_eq_ok.1 inside
    obtain ⟨entries', found'⟩ := k _ _ found
    refine bind_eq_ok.2 ⟨outer, ih outside, enter_eq_ok.2 ⟨entries', found', ?_⟩⟩
    rcases how with up | ⟨down, is, u, there⟩
    · exact .inl up
    · refine .inr ⟨down, is, ?_⟩
      have still := k _ _ there
      cases u with
      | file content =>
        obtain ⟨content', there⟩ := still
        exact ⟨_, there⟩
      | directory entries =>
        obtain ⟨entries', there⟩ := still
        exact ⟨_, there⟩

theorem change_nil : t.change f taken [] = .error taken := rfl

theorem change_concat : t.change f taken (dir ++ [name]) =
    t.resolve dir >>= fun place =>
      if name = ".." then t.enter place name >>= fun _ => .error taken
      else t.alter f (place ++ [name]) := by
  rw [change, List.getLast?_concat]
  dsimp only
  rw [List.dropLast_concat]

/-- What is changed is in a directory that is there. -/
theorem change_eq_ok (changed : t.change f taken names = .ok t') : ∃ dir name place,
    names = dir ++ [name] ∧ name ≠ ".." ∧ t.resolve dir = .ok place ∧
      t.alter f (place ++ [name]) = .ok t' := by
  rcases List.eq_nil_or_concat names with rfl | ⟨dir, name, rfl⟩
  · cases changed
  · rw [List.concat_eq_append] at changed ⊢
    rw [change_concat] at changed
    obtain ⟨place, resolved, changed⟩ := bind_eq_ok.1 changed
    split at changed
    · obtain ⟨-, -, impossible⟩ := bind_eq_ok.1 changed
      cases impossible
    · next down => exact ⟨dir, name, place, rfl, down, resolved, changed⟩

/-- Names end in the name of what they lead to. -/
structure Under (names : List String) (t u : FileTree) (dir : List String) (name : String)
    (place : List String) : Prop where
  is : names = dir ++ [name]
  down : name ≠ ".."
  resolved : t.resolve dir = .ok place
  found : t.find (place ++ [name]) = .ok u

namespace Under

theorem leads (h : Under names t u dir name place) : t.resolve names = .ok (place ++ [name]) := by
  obtain ⟨entries, outside⟩ := find_of_concat h.found
  rw [h.is, resolve_concat, h.resolved]
  exact enter_eq_ok.2 ⟨entries, outside, .inr ⟨h.down, rfl, u, h.found⟩⟩

theorem look (h : Under names t u dir name place) : t.look names = .ok u :=
  bind_eq_ok.2 ⟨_, h.leads, h.found⟩

theorem look_dropLast (h : Under names t u dir name place) :
    ∃ entries, t.look names.dropLast = .ok (directory entries) := by
  obtain ⟨entries, outside⟩ := find_of_concat h.found
  rw [h.is, List.dropLast_concat]
  exact ⟨entries, bind_eq_ok.2 ⟨_, h.resolved, outside⟩⟩

theorem change_self (h : Under names t u dir name place) (same : f (some u) = .ok u) :
    t.change f taken names = .ok t := by
  rw [h.is, change_concat, h.resolved]
  show (if name = ".." then _ else _) = _
  rw [if_neg h.down, (alter_of_find h.found).2 same]

end Under

/-- Names lead to what was made under them. -/
theorem under_of_change (changed : t.change f taken names = .ok t') (keeps : Keeps t t') :
    ∃ old u dir name place, f old = .ok u ∧ Under names t' u dir name place := by
  obtain ⟨dir, name, place, is, down, resolved, altered⟩ := change_eq_ok changed
  obtain ⟨old, u, made, found⟩ := alter_eq_ok altered
  exact ⟨old, u, dir, name, place, made, is, down, keeps.resolve resolved, found⟩

/-! ### Directories -/

theorem makeNew_eq_ok {old : Option FileTree} : makeNew old = .ok u ↔ old = none ∧ u = empty := by
  cases old with
  | none => simp [makeNew, eq_comm]
  | some old => simp [makeNew]

theorem grows_of_makeNew (changed : t.change makeNew taken names = .ok t') : Grows t t' := by
  obtain ⟨dir, name, place, -, -, -, altered⟩ := change_eq_ok changed
  intro q u found
  rcases find_alter altered found with ⟨old, new, -, -, made, -⟩ | same | ⟨_, entries, rfl, now⟩
  · cases made
  · cases u with
    | file content => exact same
    | directory entries => exact ⟨entries, same⟩
  · exact ⟨entries, now⟩

theorem makeDirectory_grows : Grows t (t.makeDirectory names).2 := by
  rw [makeDirectory]
  split
  · next changed => exact grows_of_makeNew changed
  · split
    · exact .refl
    · exact .refl

theorem makeDirectory_error (failed : t.makeDirectory names = (.error e, t')) : t' = t := by
  rw [makeDirectory] at failed
  split at failed
  · cases failed
  · split at failed
    · cases failed
    · exact (Prod.mk.inj failed).2.symm

theorem makeDirectory_ok (made : t.makeDirectory names = (.ok (), t')) :
    ∃ entries, t'.look names = .ok (directory entries) := by
  rw [makeDirectory] at made
  split at made
  · next changed =>
    obtain ⟨-, rfl⟩ := Prod.mk.inj made
    obtain ⟨_, _, _, _, _, new, under⟩ := under_of_change changed (grows_of_makeNew changed).keeps
    obtain ⟨-, rfl⟩ := makeNew_eq_ok.1 new
    exact ⟨[], under.look⟩
  · split at made
    · next entries looked =>
      obtain ⟨-, rfl⟩ := Prod.mk.inj made
      exact ⟨entries, looked⟩
    · cases made

/-- One directory is made in another, and it is empty. -/
theorem makeDirectory_new (resolved : t.resolve dir = .ok place)
    (found : t.find place = .ok (directory entries)) (new : entries.lookup name = none)
    (down : name ≠ "..") : ∃ t' place, t.makeDirectory (dir ++ [name]) = (.ok (), t') ∧
      t'.resolve (dir ++ [name]) = .ok place ∧ t'.find place = .ok empty := by
  obtain ⟨t', altered⟩ := alter_of_find_concat (f := makeNew) found new rfl
  have changed : t.change makeNew .alreadyExists (dir ++ [name]) = .ok t' := by
    rw [change_concat, resolved]
    show (if name = ".." then _ else _) = _
    rw [if_neg down, altered]
  obtain ⟨_, _, _, _, _, made, under⟩ := under_of_change changed (grows_of_makeNew changed).keeps
  obtain ⟨-, rfl⟩ := makeNew_eq_ok.1 made
  exact ⟨t', _, by rw [makeDirectory, changed], under.leads, under.found⟩

/-- Nothing is made where names lead somewhere, or fail for another reason than that nothing is
there. -/
theorem change_makeNew_of_resolve (leads : t.resolve names ≠ .error .notFound) :
    ∃ e, t.change makeNew .alreadyExists names = .error e ∧ e ≠ .notFound := by
  rcases List.eq_nil_or_concat names with rfl | ⟨dir, name, rfl⟩
  · exact ⟨_, change_nil, by simp⟩
  rw [List.concat_eq_append] at leads ⊢
  rw [change_concat]
  rw [resolve_concat] at leads
  cases resolved : t.resolve dir with
  | error e =>
    rw [resolved] at leads
    exact ⟨e, rfl, fun is => leads (congrArg Except.error is)⟩
  | ok place =>
    rw [resolved] at leads
    change t.enter place name ≠ _ at leads
    change ∃ e, (if name = ".." then _ else _) = _ ∧ _
    split
    · cases entered : t.enter place name with
      | error e => exact ⟨e, rfl, fun is => leads (entered.trans (congrArg Except.error is))⟩
      | ok q => exact ⟨_, rfl, by simp⟩
    · next down =>
      obtain ⟨u, found⟩ := find_of_resolve resolved
      cases u with
      | file content => exact ⟨_, alter_of_find_file found, by simp⟩
      | directory entries =>
        cases there : entries.lookup name with
        | none =>
          refine absurd ?_ leads
          rw [enter, found]
          simp [down, there]
        | some u =>
          have is : t.find (place ++ [name]) = .ok u := by
            rw [find_concat found, find_singleton, there]
          exact ⟨_, (alter_of_find is).1 .alreadyExists rfl, by simp⟩

theorem makeDirectory_of_resolve (leads : t.resolve names ≠ .error .notFound) :
    ∃ r, t.makeDirectory names = (r, t) ∧ r ≠ .error .notFound := by
  obtain ⟨e, refused, other⟩ := change_makeNew_of_resolve leads
  rw [makeDirectory, refused]
  dsimp only
  split
  · exact ⟨_, rfl, by simp⟩
  · exact ⟨_, rfl, by simpa using other⟩

theorem makeDirectory_of_look (looked : t.look names = .ok (directory entries)) :
    t.makeDirectory names = (.ok (), t) := by
  obtain ⟨place, resolved, -⟩ := bind_eq_ok.1 looked
  obtain ⟨e, refused, -⟩ := change_makeNew_of_resolve (by rw [resolved]; simp)
  rw [makeDirectory, refused]
  dsimp only
  rw [looked]

/-! ### Directories that lead to a directory -/

theorem makeDirectories_of_makeDirectory {r : Except FileError Unit}
    (done : t.makeDirectory names = (r, t')) (other : r ≠ .error .notFound) :
    t.makeDirectories names = (r, t') := by
  rw [makeDirectories, done]
  split
  · next missing => exact absurd (Prod.mk.inj missing).1 other
  · rfl

theorem makeDirectories_concat
    (missing : t.makeDirectory (dir ++ [name]) = (.error .notFound, t)) :
    t.makeDirectories (dir ++ [name]) = match t.makeDirectories dir with
      | (.ok (), made) => made.makeDirectory (dir ++ [name])
      | failed => failed := by
  rw [makeDirectories, missing]
  dsimp only
  rw [dif_neg (by simp)]
  rcases first : t.makeDirectories dir with ⟨_ | _, made⟩ <;>
    simp only [List.dropLast_concat, first]

/-- How directories are made: nothing is missing for the last of them, or those that lead to it are
made first. -/
theorem makeDirectories_cases (names : List String) (t : FileTree) :
    t.makeDirectories names = t.makeDirectory names ∨ ∃ dir name, names = dir ++ [name] ∧
      t.makeDirectory names = (.error .notFound, t) ∧
        t.makeDirectories names = match t.makeDirectories dir with
          | (.ok (), made) => made.makeDirectory names
          | failed => failed := by
  cases done : t.makeDirectory names with
  | mk r t' =>
    by_cases missing : r = .error .notFound
    · subst missing
      obtain rfl := makeDirectory_error done
      rcases List.eq_nil_or_concat names with rfl | ⟨dir, name, rfl⟩
      · left
        rw [makeDirectories, done]
        rfl
      · rw [List.concat_eq_append] at done ⊢
        exact .inr ⟨dir, name, rfl, rfl, makeDirectories_concat done⟩
    · exact .inl (makeDirectories_of_makeDirectory done missing)

theorem makeDirectories_grows : Grows t (t.makeDirectories names).2 := by
  induction names using List.reverseRecOn generalizing t with
  | nil =>
    rcases makeDirectories_cases [] t with same | ⟨dir, name, impossible, -⟩
    · rw [same]
      exact makeDirectory_grows
    · simp at impossible
  | append_singleton dir name ih =>
    rcases makeDirectories_cases (dir ++ [name]) t with same | ⟨dir', name', is, -, next⟩
    · rw [same]
      exact makeDirectory_grows
    · obtain ⟨rfl, -⟩ := List.append_inj' is rfl
      rw [next]
      have first := ih (t := t)
      split
      · next made done =>
        rw [done] at first
        exact first.trans makeDirectory_grows
      · exact first

/-- What was to be made is a directory. -/
theorem makeDirectories_ok (made : t.makeDirectories names = (.ok (), t')) :
    ∃ entries, t'.look names = .ok (directory entries) := by
  rcases makeDirectories_cases names t with same | ⟨dir, name, -, -, next⟩
  · exact makeDirectory_ok (same.symm.trans made)
  · rw [next] at made
    split at made
    · exact makeDirectory_ok made
    · next failed => exact absurd made (failed t')

theorem makeDirectories_of_resolve (leads : t.resolve names ≠ .error .notFound) :
    (t.makeDirectories names).2 = t := by
  obtain ⟨r, done, other⟩ := makeDirectory_of_resolve leads
  rw [makeDirectories_of_makeDirectory done other]

theorem makeDirectories_of_look (looked : t.look names = .ok (directory entries)) :
    t.makeDirectories names = (.ok (), t) :=
  makeDirectories_of_makeDirectory (makeDirectory_of_look looked) (by simp)

theorem makeDirectories_again (made : t.makeDirectories names = (.ok (), t')) :
    t'.makeDirectories names = (.ok (), t') := by
  obtain ⟨entries, looked⟩ := makeDirectories_ok made
  exact makeDirectories_of_look looked

/-- What names leave by a `..` is there. -/
def Anchored (names : List String) (t : FileTree) : Prop :=
  ∀ dir rest, names = dir ++ ".." :: rest → ∃ place, t.resolve dir = .ok place

theorem Anchored.init (a : Anchored (dir ++ rest) t) : Anchored dir t := by
  rintro outer inner rfl
  exact a outer (inner ++ rest) (by simp)

theorem Anchored.down (a : Anchored (dir ++ [name]) t) (missing : t.resolve dir = .error e) :
    name ≠ ".." := by
  rintro rfl
  obtain ⟨place, resolved⟩ := a dir [] rfl
  cases missing.symm.trans resolved

theorem Anchored.dropLast (a : Anchored names t) : Anchored names.dropLast t := by
  obtain ⟨rest, is⟩ := List.dropLast_prefix names
  have a : Anchored (names.dropLast ++ rest) t := by rwa [is]
  exact a.init

theorem look_missing (missing : t.resolve names.dropLast = .error e) : t.look names = .error e := by
  rcases List.eq_nil_or_concat names with rfl | ⟨dir, name, rfl⟩
  · cases missing
  · rw [List.concat_eq_append] at missing ⊢
    rw [List.dropLast_concat] at missing
    rw [look, resolve_concat, missing]
    rfl

/-- Directories that are missing are made, and the last one is empty. -/
theorem makeDirectories_fresh (a : Anchored names t) (missing : t.resolve names = .error .notFound) :
    ∃ t' place, t.makeDirectories names = (.ok (), t') ∧ t'.resolve names = .ok place ∧
      t'.find place = .ok empty := by
  induction names using List.reverseRecOn with
  | nil => cases missing
  | append_singleton dir name ih =>
    cases resolved : t.resolve dir with
    | ok place =>
      -- Only the last directory is missing.
      rw [resolve_concat, resolved] at missing
      change t.enter place name = _ at missing
      obtain ⟨u, found⟩ := find_of_resolve resolved
      rw [enter, found] at missing
      cases u with
      | file content => cases missing
      | directory entries =>
        dsimp only at missing
        split at missing
        · cases missing
        · next down =>
          split at missing
          · cases missing
          · next new =>
            obtain ⟨t', place, made, there⟩ :=
              makeDirectory_new resolved found (Option.not_isSome_iff_eq_none.1 new) down
            exact ⟨t', place, makeDirectories_of_makeDirectory made (by simp), there⟩
    | error e =>
      -- Those that lead to it are missing too.
      have down := a.down resolved
      obtain rfl : e = .notFound := by
        rw [resolve_concat, resolved] at missing
        exact Except.error.inj missing
      obtain ⟨made, place, first, resolved', found⟩ := ih a.init resolved
      have refused : t.makeDirectory (dir ++ [name]) = (.error .notFound, t) := by
        rw [makeDirectory, change_concat, resolved, look, resolve_concat, resolved]
        rfl
      obtain ⟨t', place', last, there⟩ := makeDirectory_new resolved' found rfl down
      exact ⟨t', place', by rw [makeDirectories_concat refused, first, ← last], there⟩

/-- What a place holds stays as it was when its directory is made. -/
theorem look_makeDirectories (a : Anchored p.names t) :
    (t.makeDirectories p.parent).2.look p.names = t.look p.names := by
  by_cases missing : t.resolve p.parent = .error .notFound
  · rw [look_missing missing]
    rw [Path.parent] at missing ⊢
    obtain ⟨made, place, made', resolved, found⟩ := makeDirectories_fresh a.dropLast missing
    rw [made']
    rcases List.eq_nil_or_concat p.names with root | ⟨dir, name, is⟩
    · rw [root] at missing
      cases missing
    · rw [List.concat_eq_append] at is
      rw [is] at missing a resolved ⊢
      rw [List.dropLast_concat] at missing resolved
      rw [look, resolve_concat, resolved]
      show made.enter place name >>= _ = _
      rw [enter, found]
      simp [empty, a.down missing]
      rfl
  · rw [makeDirectories_of_resolve missing]

/-! ### Writing -/

theorem replace_eq_ok {old : Option FileTree} {ending : Path.Ending}
    (new : replace ending content old = .ok u) :
    ending = .name ∧ u = file content ∧ ∀ entries, old ≠ some (directory entries) := by
  cases old with
  | none =>
    rw [replace] at new
    split at new
    · next is => exact ⟨is, (Except.ok.inj new).symm, by simp⟩
    · cases new
  | some old =>
    cases old with
    | directory entries => cases new
    | file was =>
      rw [replace] at new
      split at new
      · next is => exact ⟨is, (Except.ok.inj new).symm, by simp⟩
      · cases new

theorem keeps_of_replace {ending : Path.Ending}
    (changed : t.change (replace ending content) taken names = .ok t') : Keeps t t' := by
  obtain ⟨dir, name, place, -, -, -, altered⟩ := change_eq_ok changed
  intro q u found
  rcases find_alter altered found with ⟨old, new, rest, -, made, was, now⟩ | same | ⟨_, entries, rfl, now⟩
  · obtain ⟨-, rfl, other⟩ := replace_eq_ok made
    cases old with
    | directory entries => exact absurd rfl (other entries)
    | file content' =>
      cases rest with
      | nil =>
        rw [find_nil] at was
        obtain rfl := Except.ok.inj was
        exact ⟨content, now⟩
      | cons name rest => cases was
  · cases u with
    | file content => exact ⟨content, same⟩
    | directory entries => exact ⟨entries, same⟩
  · exact ⟨entries, now⟩

theorem write_eq_change (ending : p.ending = .name) :
    t.write p content = t.change (replace .name content) .isADirectory p.names := by
  rw [write, ending]

theorem ending_of_write (written : t.write p content = .ok t') : p.ending = .name := by
  rw [write] at written
  cases is : p.ending with
  | name => rfl
  | separator =>
    rw [is] at written
    obtain ⟨_, _, _, _, _, new, -⟩ := under_of_change written (keeps_of_replace written)
    exact (replace_eq_ok new).1
  | dot =>
    rw [is] at written
    obtain ⟨u, -, impossible⟩ := bind_eq_ok.1 written
    cases u <;> cases impossible

/-- What was written is there, as a file in a directory, and to write it again changes nothing. -/
theorem write_eq_ok (written : t.write p content = .ok t') :
    p.ending = .name ∧ t'.look p.names = .ok (.file content) ∧
      (∃ entries, t'.look p.parent = .ok (directory entries)) ∧
        t'.write p content = .ok t' := by
  have ending := ending_of_write written
  rw [write_eq_change ending] at written ⊢
  obtain ⟨_, _, _, _, _, new, under⟩ := under_of_change written (keeps_of_replace written)
  obtain ⟨-, rfl, -⟩ := replace_eq_ok new
  exact ⟨ending, under.look, under.look_dropLast, under.change_self rfl⟩

end GattRpc.FileTree
