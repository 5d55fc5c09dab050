import ScriptDocs.Proofs.FileTree.Normalization

namespace ScriptDocs.FileTree

/-!
The order in which directories list their entries. Where the entries of every directory have names of
their own, a tree is known by what stands at each place; listing the entries in another order changes
none of that, nor where any path leads.
-/

/-- A property holds of every tree if it holds of what is no directory, and of each directory all of whose
entries have it. -/
@[elab_as_elim]
theorem Entry.treeInduction {motive : Entry → Prop}
    (leaf : ∀ entry : Entry, entry.isDirectory = false → motive entry)
    (directory : ∀ children : List (Text × Entry), (∀ child ∈ children, motive child.2) →
      motive (.directory children)) : ∀ entry, motive entry
  | .file content access => leaf (.file content access) rfl
  | .link target => leaf (.link target) rfl
  | .pipe => leaf .pipe rfl
  | .directory children => directory children (fun child _ => treeInduction leaf directory child.2)
termination_by entry => sizeOf entry
decreasing_by
  rename_i member
  have smaller := List.sizeOf_lt_of_mem member
  obtain ⟨name, entry⟩ := child
  simp only [Prod.mk.sizeOf_spec, Entry.directory.sizeOf_spec] at smaller ⊢
  omega

/-! ### Names -/

mutual

/-- Whether the entries of every directory have names of their own, each fit for a step of a path. -/
def Entry.wellNamed : Entry → Bool
  | .directory children => wellNamedIn children
  | .file _ _ => true
  | .link _ => true
  | .pipe => true

def wellNamedIn : List (Text × Entry) → Bool
  | [] => true
  | (name, entry) :: rest =>
      isName name && !name.contains Path.separator && !(rest.map Prod.fst).contains name &&
        entry.wellNamed && wellNamedIn rest

end

theorem wellNamedIn_iff {children : List (Text × Entry)} : wellNamedIn children = true ↔
    (children.map Prod.fst).Nodup ∧
      ∀ child ∈ children, Path.IsPlain child.1 ∧ child.2.wellNamed = true := by
  induction children with
  | nil => simp [wellNamedIn]
  | cons first rest ih =>
      obtain ⟨name, entry⟩ := first
      simp only [wellNamedIn, Bool.and_eq_true, ih, List.map_cons, List.nodup_cons, List.forall_mem_cons,
        Path.IsPlain, Bool.not_eq_true', List.contains_eq_mem, decide_eq_false_iff_not]
      constructor
      · rintro ⟨⟨⟨plain, fresh⟩, named⟩, distinct, each⟩
        exact ⟨⟨fresh, distinct⟩, ⟨plain, named⟩, each⟩
      · rintro ⟨⟨fresh, distinct⟩, ⟨plain, named⟩, each⟩
        exact ⟨⟨⟨plain, fresh⟩, named⟩, distinct, each⟩

theorem child?_eq_some_iff {children : List (Text × Entry)} (distinct : (children.map Prod.fst).Nodup)
    {name : Text} {entry : Entry} : child? children name = some entry ↔ (name, entry) ∈ children := by
  induction children with
  | nil => simp [child?]
  | cons first rest ih =>
      obtain ⟨other, old⟩ := first
      obtain ⟨fresh, distinctRest⟩ := List.nodup_cons.mp distinct
      rw [child?_cons, List.mem_cons]
      by_cases same : other = name
      · subst same
        have absent : (other, entry) ∉ rest := by
          intro member
          exact fresh (List.mem_map.mpr ⟨_, member, rfl⟩)
        simp [absent, eq_comm]
      · simp [same, Ne.symm same, ih distinctRest]

namespace Entry

theorem wellNamed_child {children : List (Text × Entry)} (named : (directory children).wellNamed = true)
    {name : Text} {entry : Entry} (found : child? children name = some entry) :
    Path.IsPlain name ∧ entry.wellNamed = true := by
  obtain ⟨distinct, each⟩ := wellNamedIn_iff.mp named
  exact each _ ((child?_eq_some_iff distinct).mp found)

theorem wellNamed_at? {root entry : Entry} (named : root.wellNamed = true) {place : Place}
    (found : root.at? place = some entry) : entry.wellNamed = true := by
  induction place generalizing root with
  | nil =>
      cases Option.some.inj ((at?_nil root).symm.trans found)
      exact named
  | cons name rest ih =>
      cases root with
      | directory children =>
          rw [at?] at found
          cases inner : child? children name with
          | none => simp [inner] at found
          | some child =>
              simp only [inner] at found
              exact ih (wellNamed_child named inner).2 found
      | file content access => simp [at?] at found
      | link target => simp [at?] at found
      | pipe => simp [at?] at found

end Entry

/-! ### Other orders -/

/-- The same tree with the entries of any of its directories listed in another order. -/
inductive Relisted : Entry → Entry → Prop
  | refl (root : Entry) : Relisted root root
  | trans {first second third : Entry} :
      Relisted first second → Relisted second third → Relisted first third
  | here {children others : List (Text × Entry)} (shuffled : children.Perm others) :
      Relisted (.directory children) (.directory others)
  | within {before after : List (Text × Entry)} {name : Text} {entry other : Entry} :
      Relisted entry other →
      Relisted (.directory (before ++ (name, entry) :: after)) (.directory (before ++ (name, other) :: after))

theorem Entry.eq_link {entry : Entry} {aim : Text} (same : entry.surface = (Entry.link aim).surface) :
    entry = .link aim := by
  cases entry with
  | link other => exact same
  | file content access => cases same
  | directory children => cases same
  | pipe => cases same

/-- Trees in which the same stands at every place. -/
def Alike (old new : Entry) : Prop :=
  ∀ place, look old place = look new place

theorem Alike.symm {old new : Entry} (alike : Alike old new) : Alike new old :=
  fun place => (alike place).symm

theorem look_directory (children : List (Text × Entry)) (name : Text) (rest : Place) :
    look (.directory children) (name :: rest) = (child? children name).bind (look · rest) := by
  rw [look, Entry.at?]
  cases child? children name <;> rfl

theorem alike_directory {children others : List (Text × Entry)}
    (each : ∀ name rest, (child? children name).bind (look · rest) =
      (child? others name).bind (look · rest)) : Alike (.directory children) (.directory others) := by
  intro place
  cases place with
  | nil => rfl
  | cons name rest => rw [look_directory, look_directory, each]

theorem child?_perm {children others : List (Text × Entry)} (shuffled : children.Perm others)
    (distinct : (children.map Prod.fst).Nodup) (name : Text) : child? children name = child? others name := by
  have distinctToo : (others.map Prod.fst).Nodup := (shuffled.map Prod.fst).nodup_iff.mp distinct
  ext entry
  rw [child?_eq_some_iff distinct, child?_eq_some_iff distinctToo, shuffled.mem_iff]

theorem child?_beside {before after : List (Text × Entry)} {name other : Text} (different : name ≠ other)
    (entry : Entry) :
    child? (before ++ (name, entry) :: after) other = child? (before ++ after) other := by
  induction before with
  | nil => simp [child?_cons, different]
  | cons first rest ih => rw [List.cons_append, List.cons_append, child?_cons, child?_cons, ih]

theorem Relisted.alike {old new : Entry} (relisted : Relisted old new) (named : old.wellNamed = true) :
    new.wellNamed = true ∧ Alike old new := by
  induction relisted with
  | refl root => exact ⟨named, fun _ => rfl⟩
  | trans _ _ firstIH secondIH =>
      obtain ⟨namedSecond, first⟩ := firstIH named
      obtain ⟨namedThird, second⟩ := secondIH namedSecond
      exact ⟨namedThird, fun place => (first place).trans (second place)⟩
  | here shuffled =>
      obtain ⟨distinct, each⟩ := wellNamedIn_iff.mp named
      refine ⟨wellNamedIn_iff.mpr ⟨(shuffled.map Prod.fst).nodup_iff.mp distinct, ?_⟩, ?_⟩
      · intro child member
        exact each child (shuffled.mem_iff.mpr member)
      · apply alike_directory
        intro name rest
        rw [child?_perm shuffled distinct]
  | @within before after name entry other _ ih =>
      obtain ⟨distinct, each⟩ := wellNamedIn_iff.mp named
      obtain ⟨namedOther, alike⟩ := ih (each (name, entry) (by simp)).2
      have distinctToo : ((before ++ (name, other) :: after).map Prod.fst).Nodup := by
        simpa using distinct
      refine ⟨wellNamedIn_iff.mpr ⟨distinctToo, ?_⟩, ?_⟩
      · intro child member
        rcases List.mem_append.mp member with earlier | later
        · exact each child (List.mem_append_left _ earlier)
        · rcases List.mem_cons.mp later with rfl | last
          · exact ⟨(each (name, entry) (by simp)).1, namedOther⟩
          · exact each child (by simp [last])
      · apply alike_directory
        intro step rest
        by_cases same : name = step
        · subst same
          have found := (child?_eq_some_iff distinct).mpr (show (name, entry) ∈ _ by simp)
          have foundToo := (child?_eq_some_iff distinctToo).mpr (show (name, other) ∈ _ by simp)
          rw [found, foundToo]
          exact alike rest
        · rw [child?_beside same, child?_beside same]

/-! ### Where paths lead -/

namespace Alike

variable {old new : Entry} (alike : Alike old new)

include alike

theorem directory {place : Place} {children : List (Text × Entry)}
    (found : old.at? place = some (.directory children)) :
    ∃ others, new.at? place = some (.directory others) := by
  have seen : look new place = some (.directory []) := by
    rw [← alike place, look_of_at? found]
    rfl
  exact at?_directory seen

theorem at? {place : Place} {entry : Entry} (found : old.at? place = some entry) :
    ∃ other, new.at? place = some other ∧ other.surface = entry.surface := by
  have seen : look new place = some entry.surface := by
    rw [← alike place, look_of_at? found]
  exact Option.map_eq_some_iff.mp seen

theorem child? {here : Place} {children others : List (Text × Entry)}
    (inside : old.at? here = some (.directory children))
    (now : new.at? here = some (.directory others)) {step : Text} {entry : Entry}
    (child : child? children step = some entry) :
    ∃ other, FileTree.child? others step = some other ∧ other.surface = entry.surface := by
  have found := (Entry.at?_snoc inside step).trans child
  obtain ⟨other, foundToo, same⟩ := alike.at? found
  exact ⟨other, (Entry.at?_snoc now step).symm.trans foundToo, same⟩

theorem walkBy {follow : Bool} {here place : Place} {steps : List Text} {entry : Entry}
    {onward onwardToo : Place → List Text → Except Errno Target}
    (further : ∀ here steps, onward here steps = .ok (.existing place entry) →
      ∃ other, onwardToo here steps = .ok (.existing place other) ∧ other.surface = entry.surface)
    (walked : walkBy old follow onward here steps = .ok (.existing place entry)) :
    ∃ other, FileTree.walkBy new follow onwardToo here steps = .ok (.existing place other) ∧
      other.surface = entry.surface := by
  fun_induction FileTree.walkBy old follow onward here steps with
  | case1 here found inside =>
      cases walked
      obtain ⟨other, now, same⟩ := alike.at? inside
      exact ⟨other, by rw [FileTree.walkBy, now], same⟩
  | case3 here step rest children inside idle ih =>
      obtain ⟨others, now⟩ := alike.directory inside
      rw [FileTree.walkBy, now]
      simpa [idle] using ih walked
  | case4 here step rest children inside active up ih =>
      obtain ⟨others, now⟩ := alike.directory inside
      rw [FileTree.walkBy, now]
      simpa [active, up] using ih walked
  | case8 here step rest children inside active down short found child ending =>
      cases walked
      obtain ⟨others, now⟩ := alike.directory inside
      obtain ⟨other, childNow, same⟩ := alike.child? inside now child
      refine ⟨other, ?_, same⟩
      rw [FileTree.walkBy, now]
      simp [active, down, short, childNow, ending]
  | case9 here step rest children inside active down short ending aim linked =>
      obtain ⟨others, now⟩ := alike.directory inside
      obtain ⟨other, childNow, same⟩ := alike.child? inside now linked
      obtain rfl := Entry.eq_link same
      rw [FileTree.walkBy, now]
      simpa [active, down, short, childNow, ending] using further _ _ walked
  | case10 here step rest children inside active down short found child ending noLink ih =>
      obtain ⟨others, now⟩ := alike.directory inside
      obtain ⟨other, childNow, same⟩ := alike.child? inside now child
      rw [FileTree.walkBy, now]
      cases other with
      | link aim => exact absurd (Entry.eq_link same.symm) (noLink aim)
      | file content access => simpa [active, down, short, childNow, ending] using ih walked
      | directory entries => simpa [active, down, short, childNow, ending] using ih walked
      | pipe => simpa [active, down, short, childNow, ending] using ih walked
  | _ => cases walked

/-- A walk that finds something finds it in the other tree as well, and the same sort of entry. -/
theorem walk {follow : Bool} {links : Nat} {here place : Place} {steps : List Text} {entry : Entry}
    (walked : walk old follow links here steps = .ok (.existing place entry)) :
    ∃ other, FileTree.walk new follow links here steps = .ok (.existing place other) ∧
      other.surface = entry.surface := by
  induction links generalizing here steps with
  | zero => exact alike.walkBy (fun _ _ stopped => by cases stopped) walked
  | succ links ih => exact alike.walkBy (fun _ _ onward => ih onward) walked

end Alike

theorem Alike.resolve {volume : Volume} {root : Entry} (alike : Alike volume.root root) {follow : Bool}
    {path : Text} {place : Place} {entry : Entry}
    (resolved : volume.resolve follow path = .ok (.existing place entry)) :
    ∃ other, ({ volume with root } : Volume).resolve follow path = .ok (.existing place other) := by
  obtain ⟨other, walked, _⟩ := alike.walk (Volume.walk_of_resolve resolved)
  refine ⟨other, ?_⟩
  rw [Volume.resolve_eq_walk resolved]
  change (FileTree.walk root follow linkLimit (volume.start path) (Path.steps path)).mapError _ = _
  rw [walked]
  rfl

end ScriptDocs.FileTree
