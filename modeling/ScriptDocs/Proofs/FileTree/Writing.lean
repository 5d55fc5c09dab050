import ScriptDocs.Proofs.FileTree.Growth

/-!
Writing one file. The path that was written leads to the file afterwards, also through links; every other
file is as it was, and apart from the file at most directories are new.
-/

namespace ScriptDocs.FileTree

/-- No file has come up or changed outside `written`. -/
def NoOtherFiles (written : List Place) (old new : Entry) : Prop :=
  ∀ place ∉ written, ∀ content access,
    look new place = some (.file content access) → look old place = some (.file content access)

theorem NoOtherFiles.trans {first second : List Place} {old middle new : Entry}
    (before : NoOtherFiles first old middle) (after : NoOtherFiles second middle new) :
    NoOtherFiles (first ++ second) old new := by
  intro place outside content access found
  rw [List.mem_append, not_or] at outside
  exact before place outside.1 content access (after place outside.2 content access found)

theorem noOtherFiles_put {root new : Entry} {parent : Place} {children : List (Text × Entry)} {name : Text}
    {written : List Place} (inside : root.at? parent = some (.directory children))
    (leaf : new.isLeaf = true) (within : new.isFile = true → parent ++ [name] ∈ written)
    (replaced : ∀ old, root.at? (parent ++ [name]) = some old → old.isLeaf = true) :
    NoOtherFiles written root (root.put (parent ++ [name]) new) := by
  intro place outside content access found
  by_cases same : place = parent ++ [name]
  · subst same
    have here := (look_of_at? (at?_put_here inside name new)).symm.trans found
    have file : new.isFile = true := by
      cases new <;> simp [Entry.surface] at here
      rfl
    exact absurd (within file) outside
  · rwa [look_put_other inside leaf replaced same] at found

namespace Grown

variable {written : List Place} {old new : Entry} (grown : Grown written old new) {here : Place}
  {children others : List (Text × Entry)} (inside : old.at? here = some (.directory children))
  (now : new.at? here = some (.directory others)) {step : Text}

include grown inside now

theorem child?_link {aim : Text} (linked : child? children step = some (.link aim)) :
    child? others step = some (.link aim) := by
  have before : look old (here ++ [step]) = some (.link aim) := by
    rw [look, Entry.at?_snoc inside, linked]
    rfl
  obtain ⟨whole, child, same⟩ := child?_of_look now (grown.link before)
  cases whole with
  | link other =>
      cases same
      exact child
  | file content access => cases same
  | directory entries => cases same
  | pipe => cases same

theorem child?_noLink {entry : Entry} (child : child? children step = some entry)
    (noLink : ∀ aim, entry ≠ .link aim) :
    ∃ whole, child? others step = some whole ∧ ∀ aim, whole ≠ .link aim := by
  have before : look old (here ++ [step]) = some entry.surface := by
    rw [look, Entry.at?_snoc inside, child]
    rfl
  by_cases member : here ++ [step] ∈ written
  · obtain ⟨_, _, filled⟩ := grown.filled _ member
    obtain ⟨whole, childNow, same⟩ := child?_of_look now filled
    refine ⟨whole, childNow, ?_⟩
    rintro aim rfl
    cases same
  · obtain ⟨whole, childNow, same⟩ := child?_of_look now (grown.kept _ _ member before)
    refine ⟨whole, childNow, ?_⟩
    rintro aim rfl
    cases entry <;> simp [Entry.surface] at same
    exact noLink _ rfl

end Grown

theorem Grown.walkBy {written : List Place} {old new : Entry} (grown : Grown written old new)
    {here place : Place} {steps : List Text} {target : Target}
    {onward onwardToo : Place → List Text → Except Errno Target}
    (ends : target = .vacant place false ∨ ∃ content access, target = .existing place (.file content access))
    {content : List UInt8} {access : Access} (found : look new place = some (.file content access))
    (further : ∀ here steps, onward here steps = .ok target →
      onwardToo here steps = .ok (.existing place (.file content access)))
    (walked : walkBy old true onward here steps = .ok target) :
    walkBy new true onwardToo here steps = .ok (.existing place (.file content access)) := by
  have stays : ∀ {here children}, old.at? here = some (.directory children) →
      ∃ children, new.at? here = some (.directory children) :=
    fun inside => at?_directory (grown.directory (look_of_at? inside))
  fun_induction FileTree.walkBy old true onward here steps with
  | case1 here entry inside =>
      cases walked
      rcases ends with vacant | ⟨_, _, existing⟩
      · cases vacant
      · cases existing
        rw [FileTree.walkBy, at?_file found]
  | case3 here step rest children inside idle ih =>
      obtain ⟨others, now⟩ := stays inside
      rw [FileTree.walkBy, now]
      simpa [idle] using ih walked
  | case4 here step rest children inside active up ih =>
      obtain ⟨others, now⟩ := stays inside
      rw [FileTree.walkBy, now]
      simpa [active, up] using ih walked
  | case6 here step rest children inside active down short absent ending =>
      cases walked
      obtain ⟨others, now⟩ := stays inside
      rcases ends with vacant | ⟨_, _, existing⟩
      · obtain ⟨rfl, last⟩ := Target.vacant.inj vacant
        obtain rfl : rest = [] := by simpa using last
        have there := at?_file found
        have childNow := (Entry.at?_snoc now step).symm.trans there
        rw [FileTree.walkBy, now]
        simp [active, down, short, childNow, FileTree.walkBy, there]
      · cases existing
  | case9 here step rest children inside active down short _ aim linked =>
      obtain ⟨others, now⟩ := stays inside
      have child := grown.child?_link inside now linked
      rw [FileTree.walkBy, now]
      simpa [active, down, short, child] using further _ _ walked
  | case10 here step rest children inside active down short entry child _ noLink ih =>
      obtain ⟨others, now⟩ := stays inside
      -- What is entered here may be the file itself, if the old walk ended at a file.
      obtain ⟨whole, childNow, notLink⟩ := grown.child?_noLink inside now child noLink
      rw [FileTree.walkBy, now]
      cases whole with
      | link aim => exact absurd rfl (notLink aim)
      | file content access => simpa [active, down, short, childNow] using ih walked
      | directory entries => simpa [active, down, short, childNow] using ih walked
      | pipe => simpa [active, down, short, childNow] using ih walked
  | case8 => contradiction
  | _ => cases walked

/-- A walk ends at the file that was put where it ended. -/
theorem Grown.walk {written : List Place} {old new : Entry} (grown : Grown written old new) {links : Nat}
    {here place : Place} {steps : List Text} {target : Target}
    (walked : walk old true links here steps = .ok target)
    (ends : target = .vacant place false ∨ ∃ content access, target = .existing place (.file content access))
    {content : List UInt8} {access : Access} (found : look new place = some (.file content access)) :
    walk new true links here steps = .ok (.existing place (.file content access)) := by
  induction links generalizing here steps with
  | zero => exact grown.walkBy ends found (fun _ _ stopped => by cases stopped) walked
  | succ links ih => exact grown.walkBy ends found (fun _ _ onward => ih onward) walked

/-- A walk that takes a step is in a directory, so that the root is one. -/
theorem root_of_walk {root : Entry} {follow : Bool} {links : Nat} {here : Place} {steps : List Text}
    {target : Target} (filled : steps ≠ []) (walked : walk root follow links here steps = .ok target) :
    root.isDirectory = true := by
  cases steps with
  | nil => contradiction
  | cons step rest =>
      obtain ⟨children, inside⟩ := directory_of_walk walked
      cases root with
      | directory children => rfl
      | file content access => cases here <;> simp [Entry.at?] at inside
      | link aim => cases here <;> simp [Entry.at?] at inside
      | pipe => cases here <;> simp [Entry.at?] at inside

namespace Volume

/-- One file has been written: the path leads to it, and every other file is as it was. -/
structure Wrote (before after : Volume) (path : Text) (content : List UInt8) (place : Place) : Prop where
  found : ∃ access, after.resolve true path = .ok (.existing place (.file content access))
  grown : GrownFrom [place] before after
  only : NoOtherFiles [place] before.root after.root

/-- A place where a path leads to a file, or where it can make one: what is written there can be read as
the file could be. -/
structure Takes (volume : Volume) (path : Text) (parent : Place) (name : Text) (access : Access) : Prop where
  resolved : volume.resolve true path = .ok (.vacant (parent ++ [name]) false) ∧ access = .readable ∨
    ∃ old, volume.resolve true path = .ok (.existing (parent ++ [name]) (.file old access))
  inside : ∃ children, volume.root.at? parent = some (.directory children)
  replaced : ∀ entry, volume.root.at? (parent ++ [name]) = some entry → entry.isFile = true

namespace Takes

variable {volume : Volume} {path : Text} {parent : Place} {name : Text} {access : Access}
  (takes : Takes volume path parent name access) (content : List UInt8)

include takes

theorem grown : GrownFrom [parent ++ [name]] volume (volume.put (parent ++ [name]) (.file content access)) := by
  obtain ⟨children, inside⟩ := takes.inside
  refine ⟨.put inside rfl (.inl rfl) (by simp [Entry.isFile]) ?_, rfl⟩
  intro entry found
  exact ⟨takes.replaced entry found, by simp⟩

theorem found : (volume.put (parent ++ [name]) (.file content access)).resolve true path =
    .ok (.existing (parent ++ [name]) (.file content access)) := by
  obtain ⟨children, inside⟩ := takes.inside
  have there := look_of_at? (at?_put_here inside name (.file content access))
  have reached : ∀ target, volume.resolve true path = .ok target →
      (target = .vacant (parent ++ [name]) false ∨
        ∃ old kept, target = .existing (parent ++ [name]) (.file old kept)) →
      (volume.put (parent ++ [name]) (.file content access)).resolve true path =
        .ok (.existing (parent ++ [name]) (.file content access)) := by
    intro target resolved ends
    have walked := (takes.grown content).tree.walk (walk_of_resolve resolved) ends there
    rw [resolve_eq_walk resolved]
    exact congrArg (Except.mapError _) walked
  rcases takes.resolved with ⟨vacant, _⟩ | ⟨old, existing⟩
  · exact reached _ vacant (.inl rfl)
  · exact reached _ existing (.inr ⟨old, access, rfl⟩)

theorem wrote : Wrote volume (volume.put (parent ++ [name]) (.file content access)) path content
    (parent ++ [name]) := by
  obtain ⟨children, inside⟩ := takes.inside
  refine ⟨⟨access, takes.found content⟩, takes.grown content, noOtherFiles_put inside rfl (by simp) ?_⟩
  intro entry found
  have file := takes.replaced entry found
  cases entry <;> simp [Entry.isFile] at file
  rfl

end Takes

theorem takes_of_write {volume after : Volume} {path : Text} {content : List UInt8}
    (written : volume.write path content = .ok after) :
    ∃ parent name access, Takes volume path parent name access ∧
      after = volume.put (parent ++ [name]) (.file content access) := by
  rcases write_cases written with ⟨place, resolved, rfl⟩ | ⟨place, old, access, resolved, _, rfl⟩
  · obtain ⟨parent, name, children, rfl, inside, absent⟩ := walk_vacant (walk_of_resolve resolved)
    exact ⟨parent, name, .readable, ⟨.inl ⟨resolved, rfl⟩, ⟨children, inside⟩, by simp [absent]⟩, rfl⟩
  · have walked := walk_of_resolve resolved
    have here := walk_existing walked
    rcases List.eq_nil_or_concat place with rfl | ⟨parent, name, rfl⟩
    · have directory := root_of_walk (Text.segmentsBy_ne_nil _ path) walked
      simp at here
      simp [here, Entry.isDirectory] at directory
    · rw [List.concat_eq_append] at *
      refine ⟨parent, name, access, ⟨.inr ⟨old, resolved⟩, Entry.at?_parent here, ?_⟩, rfl⟩
      simp [here, Entry.isFile]

theorem write_wrote {volume after : Volume} {path : Text} {content : List UInt8}
    (written : volume.write path content = .ok after) : ∃ place, Wrote volume after path content place := by
  obtain ⟨parent, name, access, takes, rfl⟩ := takes_of_write written
  exact ⟨_, takes.wrote content⟩

/-- The file that a path leads to, if there is one, can be read. -/
def Readable (volume : Volume) (path : Text) : Prop :=
  ∀ place content access, volume.resolve true path = .ok (.existing place (.file content access)) →
    access = .readable

theorem Readable.read_write {volume after : Volume} {path : Text} {content : List UInt8}
    (readable : volume.Readable path) (written : volume.write path content = .ok after) :
    after.read path = .ok content := by
  obtain ⟨parent, name, access, takes, rfl⟩ := takes_of_write written
  obtain rfl : access = .readable := by
    rcases takes.resolved with ⟨_, fresh⟩ | ⟨old, existing⟩
    · exact fresh
    · exact readable _ old access existing
  rw [read, takes.found content]

theorem makeDirectory_noOtherFiles {volume after : Volume} {path : Text}
    (made : volume.makeDirectory path = .ok after) : NoOtherFiles [] volume.root after.root := by
  rw [makeDirectory] at made
  cases resolved : volume.resolve false path with
  | error failure => simp [resolved] at made
  | ok target =>
      cases target with
      | existing place entry => simp [resolved] at made
      | vacant place asDirectory =>
          simp only [resolved, Except.ok.injEq] at made
          subst made
          obtain ⟨parent, name, children, rfl, inside, absent⟩ := walk_vacant (walk_of_resolve resolved)
          exact noOtherFiles_put inside rfl (by simp [Entry.isFile]) (by simp [absent])

theorem ensureDirectories_noOtherFiles (volume : Volume) (path : Text) :
    NoOtherFiles [] volume.root (volume.ensureDirectories path).1.root :=
  @ensureDirectories_related (fun old new => NoOtherFiles [] old.root new.root)
    (fun _ _ _ _ _ found => found) .trans makeDirectory_noOtherFiles volume path

theorem Wrote.after_directories {volume after : Volume} {directory path : Text} {content : List UInt8}
    {place : Place} (wrote : Wrote (volume.ensureDirectories directory).1 after path content place) :
    Wrote volume after path content place where
  found := wrote.found
  grown := (volume.ensureDirectories_grown directory).trans wrote.grown
  only := (volume.ensureDirectories_noOtherFiles directory).trans wrote.only

end Volume

end ScriptDocs.FileTree
