import ScriptDocs.Proofs.FileTree
import ScriptDocs.Proofs.Text

/-!
How a tree changes when directories are made and files are written: nothing is taken away, only files
and directories are new, and only the files that were written differ. A path that leads somewhere
leads there still.
-/

namespace ScriptDocs.Path

/-- The steps that the path of a file in a directory takes before the name of the file. -/
def lead (directory : Text) : List Text :=
  if directory.isEmpty || directory.getLast? == some separator then (steps directory).dropLast
  else steps directory

theorem isAbsolute_eq_false {name : Text} (unbroken : separator ∉ name) : isAbsolute name = false := by
  cases name with
  | nil => rfl
  | cons c rest =>
      have different : c ≠ separator := fun same => unbroken (by simp [same])
      simp [isAbsolute, different]

theorem steps_unbroken {name : Text} (unbroken : separator ∉ name) : steps name = [name] := by
  refine Text.segmentsBy_unbroken fun c member => ?_
  simp only [beq_eq_false_iff_ne]
  exact fun same => unbroken (same ▸ member)

theorem steps_append (directory name : Text) :
    steps (directory ++ separator :: name) = steps directory ++ steps name := by
  unfold steps Text.segments
  exact Text.segmentsBy_append (by simp) directory name

theorem steps_join {name : Text} (unbroken : separator ∉ name) (directory : Text) :
    steps (join directory name) = lead directory ++ [name] := by
  rw [join, if_neg (by simp [isAbsolute_eq_false unbroken]), lead]
  split
  · rename_i ends
    rcases List.eq_nil_or_concat directory with rfl | ⟨front, last, rfl⟩
    · exact steps_unbroken unbroken
    · obtain rfl : last = separator := by simpa using ends
      rw [List.concat_eq_append, List.append_assoc, List.singleton_append, steps_append, steps_append,
        steps_unbroken unbroken]
      simp [steps, Text.segments, Text.segmentsBy]
  · rw [steps_append, steps_unbroken unbroken]

/-- A separator at the end makes one more step, which is empty. -/
theorem steps_eq_lead (directory : Text) :
    steps directory = lead directory ∨ steps directory = lead directory ++ [[]] := by
  rw [lead]
  split
  · rename_i ends
    rcases List.eq_nil_or_concat directory with rfl | ⟨front, last, rfl⟩
    · exact .inr rfl
    · obtain rfl : last = separator := by simpa using ends
      have split : steps (front.concat separator) = steps front ++ [[]] := by
        rw [List.concat_eq_append]
        exact steps_append front []
      rw [split]
      exact .inr (by simp)
  · exact .inl rfl

theorem isAbsolute_join {name : Text} (unbroken : separator ∉ name) (directory : Text) :
    isAbsolute (join directory name) = isAbsolute directory := by
  rw [join, if_neg (by simp [isAbsolute_eq_false unbroken])]
  cases directory with
  | nil => exact isAbsolute_eq_false unbroken
  | cons c rest => split <;> rfl

end ScriptDocs.Path

namespace ScriptDocs.FileTree

/-- How one tree comes from another by making directories and writing files, those of `written` in
place of what they held. -/
structure Grown (written : List Place) (old new : Entry) : Prop where
  kept : ∀ place entry, place ∉ written → look old place = some entry → look new place = some entry
  replaced : ∀ place ∈ written, ∀ entry, look old place = some entry → entry.isFile = true
  filled : ∀ place ∈ written, ∃ content access, look new place = some (.file content access)
  fresh : ∀ place entry, look new place = some entry →
    look old place = some entry ∨ entry.isFile = true ∨ entry.isDirectory = true

namespace Grown

theorem refl (root : Entry) : Grown [] root root where
  kept := fun _ _ _ found => found
  replaced := by simp
  filled := by simp
  fresh := fun _ _ found => .inl found

theorem trans {first second : List Place} {old middle new : Entry} (before : Grown first old middle)
    (after : Grown second middle new) : Grown (first ++ second) old new where
  kept := by
    intro place entry outside found
    rw [List.mem_append, not_or] at outside
    exact after.kept place entry outside.2 (before.kept place entry outside.1 found)
  replaced := by
    intro place member entry found
    by_cases early : place ∈ first
    · exact before.replaced place early entry found
    · have late := (List.mem_append.mp member).resolve_left early
      exact after.replaced place late entry (before.kept place entry early found)
  filled := by
    intro place member
    by_cases late : place ∈ second
    · exact after.filled place late
    · have early := (List.mem_append.mp member).resolve_right late
      obtain ⟨content, access, found⟩ := before.filled place early
      exact ⟨content, access, after.kept place _ late found⟩
  fresh := by
    intro place entry found
    rcases after.fresh place entry found with same | new
    · exact before.fresh place entry same
    · exact .inr new

/-- Putting a file or an empty directory where nothing was, or a file where a file was. -/
theorem put {root new : Entry} {parent : Place} {children : List (Text × Entry)} {name : Text}
    {written : List Place} (inside : root.at? parent = some (.directory children))
    (leaf : new.isLeaf = true) (sort : new.isFile = true ∨ new.isDirectory = true)
    (within : ∀ place ∈ written, place = parent ++ [name] ∧ new.isFile = true)
    (replaced : ∀ old, root.at? (parent ++ [name]) = some old →
      old.isFile = true ∧ parent ++ [name] ∈ written) :
    Grown written root (root.put (parent ++ [name]) new) := by
  have oldLeaf : ∀ old, root.at? (parent ++ [name]) = some old → old.isLeaf = true := by
    intro old found
    have file := (replaced old found).1
    cases old <;> simp [Entry.isFile] at file
    rfl
  have here : look (root.put (parent ++ [name]) new) (parent ++ [name]) = some new.surface :=
    look_of_at? (at?_put_here inside name new)
  constructor
  case kept =>
    intro place entry outside found
    by_cases same : place = parent ++ [name]
    · subst same
      obtain ⟨old, at_, _⟩ := Option.map_eq_some_iff.mp found
      exact absurd (replaced old at_).2 outside
    · rw [look_put_other inside leaf oldLeaf same]
      exact found
  case replaced =>
    intro place member entry found
    obtain ⟨rfl, _⟩ := within place member
    obtain ⟨old, at_, rfl⟩ := Option.map_eq_some_iff.mp found
    have file := (replaced old at_).1
    cases old <;> simp [Entry.isFile] at file
    rfl
  case filled =>
    intro place member
    obtain ⟨rfl, file⟩ := within place member
    cases new <;> simp [Entry.isFile] at file
    exact ⟨_, _, here⟩
  case fresh =>
    intro place entry found
    by_cases same : place = parent ++ [name]
    · subst same
      obtain rfl : new.surface = entry := Option.some.inj (here.symm.trans found)
      cases new <;> simp_all [Entry.isFile, Entry.isDirectory, Entry.surface]
    · rw [look_put_other inside leaf oldLeaf same] at found
      exact .inl found

theorem directory {written : List Place} {old new : Entry} (grown : Grown written old new) {place : Place}
    (found : look old place = some (.directory [])) : look new place = some (.directory []) := by
  refine grown.kept place _ (fun member => ?_) found
  have file := grown.replaced place member _ found
  simp [Entry.isFile] at file

theorem link {written : List Place} {old new : Entry} (grown : Grown written old new) {place : Place}
    {target : Text} (found : look old place = some (.link target)) :
    look new place = some (.link target) := by
  refine grown.kept place _ (fun member => ?_) found
  have file := grown.replaced place member _ found
  simp [Entry.isFile] at file

theorem leads {written : List Place} {old new : Entry} (grown : Grown written old new) {links left : Nat}
    {here there : Place} {steps : List Text} (leads : Leads old links here steps there left) :
    Leads new links here steps there left := by
  induction leads with
  | arrived links here => exact .arrived links here
  | idle inside stays onward ih => exact .idle (grown.directory inside) stays ih
  | up inside onward ih => exact .up (grown.directory inside) ih
  | @enter links left here there step rest entry inside named short found noLink onward ih =>
      by_cases member : here ++ [step] ∈ written
      · obtain ⟨content, access, now⟩ := grown.filled _ member
        exact .enter (grown.directory inside) named short now (by simp) ih
      · exact .enter (grown.directory inside) named short (grown.kept _ _ member found) noLink ih
  | follow inside named short found onward ih =>
      exact .follow (grown.directory inside) named short (grown.link found) ih

end Grown

namespace Volume

/-- A volume that comes from another by making directories and writing files. -/
structure GrownFrom (written : List Place) (old new : Volume) : Prop where
  tree : Grown written old.root new.root
  workingDirectory : new.workingDirectory = old.workingDirectory

theorem GrownFrom.refl (volume : Volume) : GrownFrom [] volume volume :=
  ⟨.refl volume.root, rfl⟩

theorem GrownFrom.trans {first second : List Place} {old middle new : Volume}
    (before : GrownFrom first old middle) (after : GrownFrom second middle new) :
    GrownFrom (first ++ second) old new :=
  ⟨before.tree.trans after.tree, after.workingDirectory.trans before.workingDirectory⟩

/-- Where a path starts. -/
def start (volume : Volume) (path : Text) : Place :=
  if Path.isAbsolute path then [] else volume.workingDirectory

/-- A path that is resolved in one volume is resolved in every other by a walk. -/
theorem resolve_eq_walk {volume : Volume} {follow : Bool} {path : Text} {target : Target}
    (resolved : volume.resolve follow path = .ok target) (other : Volume) (again : Bool) :
    other.resolve again path =
      (walk other.root again linkLimit (other.start path) (Path.steps path)).mapError
        (Failure.system · path) := by
  rw [resolve] at resolved ⊢
  split at resolved
  · contradiction
  · rename_i noNull
    split at resolved
    · contradiction
    · rename_i filled
      split at resolved
      · contradiction
      · rename_i short
        rw [if_neg noNull, if_neg filled, if_neg short]
        rfl

theorem walk_of_resolve {volume : Volume} {follow : Bool} {path : Text} {target : Target}
    (resolved : volume.resolve follow path = .ok target) :
    walk volume.root follow linkLimit (volume.start path) (Path.steps path) = .ok target := by
  have walked := resolve_eq_walk resolved volume follow
  rw [resolved] at walked
  cases reached : walk volume.root follow linkLimit (volume.start path) (Path.steps path) with
  | error errno =>
      rw [reached] at walked
      cases walked
  | ok other =>
      rw [reached] at walked
      cases walked
      rfl

/-- A write makes a file where nothing is, or gives a file that can be opened its content. -/
theorem write_cases {volume after : Volume} {path : Text} {content : List UInt8}
    (written : volume.write path content = .ok after) :
    (∃ place, volume.resolve true path = .ok (.vacant place false) ∧
      after = volume.put place (.file content .readable)) ∨
    ∃ place old access, volume.resolve true path = .ok (.existing place (.file old access)) ∧
      access ≠ .failing ∧ after = volume.put place (.file content access) := by
  unfold write at written
  split at written
  · contradiction
  · rename_i place resolved
    exact .inl ⟨place, resolved, (Except.ok.inj written).symm⟩
  · contradiction
  · contradiction
  · rename_i place old access opens resolved
    exact .inr ⟨place, old, access, resolved, opens, (Except.ok.inj written).symm⟩
  · contradiction
  · contradiction

theorem resolve_of_write {volume after : Volume} {path : Text} {content : List UInt8}
    (written : volume.write path content = .ok after) :
    ∃ target, volume.resolve true path = .ok target := by
  rcases write_cases written with ⟨place, resolved, _⟩ | ⟨place, old, access, resolved, _⟩
  · exact ⟨_, resolved⟩
  · exact ⟨_, resolved⟩

theorem makeDirectory_grown {volume after : Volume} {path : Text}
    (made : volume.makeDirectory path = .ok after) : GrownFrom [] volume after := by
  rw [makeDirectory] at made
  cases resolved : volume.resolve false path with
  | error failure => simp [resolved] at made
  | ok target =>
      cases target with
      | existing place entry => simp [resolved] at made
      | vacant place asDirectory =>
          simp only [resolved, Except.ok.injEq] at made
          subst made
          obtain ⟨parent, name, children, rfl, inside, absent⟩ := walk_vacant (walk_of_resolve resolved)
          exact ⟨.put inside rfl (.inr rfl) (by simp) (by simp [absent]), rfl⟩

section Directories

variable {related : Volume → Volume → Prop} (refl : ∀ volume, related volume volume)
  (trans : ∀ {first second third}, related first second → related second third → related first third)
  (made : ∀ {volume after path}, volume.makeDirectory path = .ok after → related volume after)

include refl made

theorem ensureDirectory_related (volume : Volume) (path : Text) :
    related volume (volume.ensureDirectory path).1 := by
  rw [ensureDirectory]
  cases attempt : volume.makeDirectory path with
  | ok after => exact made attempt
  | error failure => cases failure <;> exact refl volume

include trans

theorem ensureDirectoriesUpTo_related (volume : Volume) (depth : Nat) (path : Text) :
    related volume (volume.ensureDirectoriesUpTo depth path).1 := by
  have one := ensureDirectory_related refl made
  fun_induction ensureDirectoriesUpTo volume depth path with
  | case1 path => exact one volume path
  | case2 depth path head tail parted there => exact one volume path
  | case3 depth path head tail parted absent middle taken here above ih => rwa [above] at ih
  | case4 depth path head tail parted absent middle taken below above ih =>
      rw [above] at ih
      exact trans ih (one middle path)
  | case5 depth path head tail parted absent middle failure above other ih => rwa [above] at ih
  | case6 depth path head tail parted absent middle above here ih => rwa [above] at ih
  | case7 depth path head tail parted absent middle above below ih =>
      rw [above] at ih
      exact trans ih (one middle path)

/-- What making one directory does, making several does. -/
theorem ensureDirectories_related (volume : Volume) (path : Text) :
    related volume (volume.ensureDirectories path).1 :=
  ensureDirectoriesUpTo_related refl trans made volume path.length path

end Directories

theorem ensureDirectories_grown (volume : Volume) (path : Text) :
    GrownFrom [] volume (volume.ensureDirectories path).1 :=
  ensureDirectories_related .refl .trans makeDirectory_grown volume path

/-! ### A file of a directory -/

/-- A volume in which the path of a directory leads to a place. -/
def LeadsTo (volume : Volume) (directory : Text) (there : Place) (left : Nat) : Prop :=
  Leads volume.root linkLimit (volume.start directory) (Path.lead directory) there left

theorem GrownFrom.leadsTo {written : List Place} {old new : Volume} (grown : GrownFrom written old new)
    {directory : Text} {there : Place} {left : Nat} (leads : old.LeadsTo directory there left) :
    new.LeadsTo directory there left := by
  rw [LeadsTo, start, grown.workingDirectory]
  exact grown.tree.leads leads

theorem LeadsTo.place_eq {volume : Volume} {directory : Text} {there place : Place} {left : Nat}
    {entry : Entry} (leads : volume.LeadsTo directory there left)
    (resolved : volume.resolve true directory = .ok (.existing place entry)) : place = there := by
  have arrived : ∀ {links : Nat}, walk volume.root true links there [] = .ok (.existing place entry) →
      place = there := by
    intro links walked
    obtain ⟨_, same⟩ := arrived_of_walk walked
    exact (Target.existing.inj same).1
  have walked := walk_of_resolve resolved
  rcases Path.steps_eq_lead directory with same | longer
  · rw [same, ← List.append_nil (Path.lead directory), leads.walk_append (.inl rfl)] at walked
    exact arrived walked
  · rw [longer, leads.walk_append (.inl rfl)] at walked
    obtain ⟨children, inside⟩ := directory_of_walk walked
    rw [walk_idle inside rfl] at walked
    exact arrived walked

section Name

variable {volume : Volume} {directory name : Text} {there : Place} {left : Nat}
  (named : isName name = true) (unbroken : Path.separator ∉ name)

include named unbroken

theorem walk_join (leads : volume.LeadsTo directory there left) (follow : Bool) :
    walk volume.root follow linkLimit (volume.start (Path.join directory name))
      (Path.steps (Path.join directory name)) = walk volume.root follow left there [name] := by
  rw [start, Path.isAbsolute_join unbroken, Path.steps_join unbroken]
  exact leads.walk_snoc named follow

theorem leadsTo_of_resolve {follow : Bool} {target : Target}
    (resolved : volume.resolve follow (Path.join directory name) = .ok target) :
    ∃ there left, volume.LeadsTo directory there left := by
  have walked := walk_of_resolve resolved
  rw [start, Path.isAbsolute_join unbroken, Path.steps_join unbroken] at walked
  exact leads_of_walk named walked

/-- Where a path could be resolved once, what stands under its name is found. -/
theorem resolve_join_existing {before : Volume} {target : Target} {earlier : Nat}
    (resolved : before.resolve true (Path.join directory name) = .ok target)
    (leadsBefore : before.LeadsTo directory there earlier) (leads : volume.LeadsTo directory there left)
    {entry : Entry} (found : volume.root.at? (there ++ [name]) = some entry) {follow : Bool}
    (ends : follow = true → ∀ target, entry ≠ .link target) :
    volume.resolve follow (Path.join directory name) = .ok (.existing (there ++ [name]) entry) := by
  have walked := walk_of_resolve resolved
  rw [walk_join named unbroken leadsBefore] at walked
  obtain ⟨_, short⟩ := walk_name_ok named walked
  obtain ⟨children, inside⟩ := Entry.at?_parent found
  rw [resolve_eq_walk resolved, walk_join named unbroken leads,
    walk_name_existing inside named short found ends]
  rfl

/-- The path of a name in a directory leads to an entry of that directory or to a vacant place in it. -/
theorem resolve_join_child {place : Place} {entry : Entry} {target : Target}
    (resolved : volume.resolve true directory = .ok (.existing place entry))
    (reached : volume.resolve false (Path.join directory name) = .ok target) :
    target = .vacant (place ++ [name]) false ∨ ∃ child, target = .existing (place ++ [name]) child := by
  obtain ⟨there, left, leads⟩ := leadsTo_of_resolve named unbroken reached
  rw [leads.place_eq resolved]
  have walked := walk_of_resolve reached
  rw [walk_join named unbroken leads] at walked
  obtain ⟨⟨children, inside⟩, short⟩ := walk_name_ok named walked
  cases here : volume.root.at? (there ++ [name]) with
  | none =>
      rw [walk_name_vacant inside named short here] at walked
      exact .inl (Except.ok.inj walked).symm
  | some child =>
      rw [walk_name_existing inside named short here (by simp)] at walked
      exact .inr ⟨child, (Except.ok.inj walked).symm⟩

/-- Writing a file under a name that is free, or that a file has, leaves it there. -/
theorem write_join (leads : volume.LeadsTo directory there left)
    (plain : ∀ entry, look volume.root (there ++ [name]) = some entry →
      entry.isFile = true ∨ entry.isDirectory = true)
    {content : List UInt8} {after : Volume}
    (written : volume.write (Path.join directory name) content = .ok after) :
    GrownFrom [there ++ [name]] volume after ∧
      ∃ access, look after.root (there ++ [name]) = some (.file content access) := by
  obtain ⟨target, resolved⟩ := resolve_of_write written
  have walked := walk_of_resolve resolved
  rw [walk_join named unbroken leads] at walked
  obtain ⟨⟨children, inside⟩, short⟩ := walk_name_ok named walked
  have reached : target = .vacant (there ++ [name]) false ∧ volume.root.at? (there ++ [name]) = none ∨
      ∃ entry, target = .existing (there ++ [name]) entry ∧
        volume.root.at? (there ++ [name]) = some entry := by
    cases here : volume.root.at? (there ++ [name]) with
    | none =>
        rw [walk_name_vacant inside named short here] at walked
        exact .inl ⟨(Except.ok.inj walked).symm, rfl⟩
    | some entry =>
        have sort := plain entry.surface (look_of_at? here)
        have ends : true = true → ∀ aim, entry ≠ .link aim := by
          rintro _ aim rfl
          simp [Entry.surface, Entry.isFile, Entry.isDirectory] at sort
        rw [walk_name_existing inside named short here ends] at walked
        exact .inr ⟨entry, (Except.ok.inj walked).symm, rfl⟩
  rcases write_cases written with ⟨place, vacant, rfl⟩ | ⟨place, old, access, existing, _, rfl⟩
  · rw [resolved, Except.ok.injEq] at vacant
    subst vacant
    rcases reached with ⟨same, absent⟩ | ⟨entry, other, _⟩
    · cases same
      refine ⟨⟨.put inside rfl (.inl rfl) (by simp [Entry.isFile]) (by simp [absent]), rfl⟩, ?_⟩
      exact ⟨.readable, look_of_at? (at?_put_here inside name _)⟩
    · cases other
  · rw [resolved, Except.ok.injEq] at existing
    subst existing
    rcases reached with ⟨other, _⟩ | ⟨entry, same, here⟩
    · cases other
    · cases same
      refine ⟨⟨.put inside rfl (.inl rfl) (by simp [Entry.isFile])
        (by simp [here, Entry.isFile]), rfl⟩, ?_⟩
      exact ⟨access, look_of_at? (at?_put_here inside name _)⟩

end Name

end Volume

end ScriptDocs.FileTree
