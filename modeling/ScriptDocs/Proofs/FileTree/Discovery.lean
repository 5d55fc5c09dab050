import Mathlib.Data.List.Sort
import ScriptDocs.Proofs.FileTree.Listing

/-!
Discovery finds exactly the right files. What is found below a directory is described by the names on the
way to it, all of them real directories that are entered, and by its own name; different ways give
different paths, so that the sorted list is strictly increasing and is settled by which paths it has.
-/

namespace ScriptDocs.Text

theorem before_iff_lt {left right : Text} : before left right = true ↔ left < right := by
  induction left generalizing right with
  | nil =>
      cases right with
      | nil => simp [before]
      | cons b right => simp [before]
  | cons a left ih =>
      cases right with
      | nil => simp [before]
      | cons b right =>
          rw [before, List.cons_lt_cons_iff]
          by_cases same : a = b
          · subst same
            simp [ih]
          · simp only [beq_iff_eq, same, if_false, decide_eq_true_eq, false_and, or_false]
            exact Char.lt_def.symm

/-- Sorting by code point makes a list without duplicates strictly increasing. -/
theorem mergeSort_increasing {texts : List Text} (distinct : texts.Nodup) :
    (texts.mergeSort (fun left right => !before right left)).Pairwise (· < ·) := by
  have notBefore : ∀ left right : Text, (!before right left) = true ↔ ¬ right < left := by
    intro left right
    rw [← before_iff_lt, Bool.not_eq_true', Bool.not_eq_true]
  have sorted : (texts.mergeSort (fun left right => !before right left)).Pairwise
      (fun left right => (!before right left) = true) := by
    apply List.pairwise_mergeSort
    · intro first second third firstSecond secondThird
      rw [notBefore] at firstSecond secondThird ⊢
      exact List.not_lt.mpr (List.le_trans (List.not_lt.mp firstSecond) (List.not_lt.mp secondThird))
    · intro left right
      rw [Bool.or_eq_true, notBefore, notBefore, List.not_lt, List.not_lt]
      exact List.le_total left right
  have apart : (texts.mergeSort (fun left right => !before right left)).Nodup :=
    (List.mergeSort_perm texts _).nodup_iff.mpr distinct
  refine (sorted.and apart).imp ?_
  intro left right ⟨ordered, different⟩
  rw [notBefore] at ordered
  by_contra notLess
  exact different (List.le_antisymm (List.not_lt.mp ordered) (List.not_lt.mp notLess))

end ScriptDocs.Text

namespace ScriptDocs.Path

theorem IsPlain.filled {name : Text} (plain : IsPlain name) : name ≠ [] := by
  rintro rfl
  cases plain.1

theorem getLast?_join {name : Text} (plain : IsPlain name) (directory : Text) :
    ∃ last, last ≠ separator ∧ (join directory name).getLast? = some last := by
  have filled := plain.filled
  refine ⟨name.getLast filled, ?_, ?_⟩
  · intro same
    exact plain.2 (same ▸ List.getLast_mem filled)
  · rw [join, if_neg (by simp [isAbsolute_eq_false plain.2])]
    split
    · rw [List.getLast?_append, List.getLast?_eq_some_getLast filled]
      rfl
    · rw [List.getLast?_append, List.getLast?_cons, List.getLast?_eq_some_getLast filled]
      rfl

theorem lead_join {name : Text} (plain : IsPlain name) (directory : Text) :
    lead (join directory name) = lead directory ++ [name] := by
  obtain ⟨last, different, ends⟩ := getLast?_join plain directory
  have filled : join directory name ≠ [] := by
    intro empty
    rw [empty] at ends
    cases ends
  rw [← steps_join plain.2, lead, if_neg]
  simp [filled, ends, different]

end ScriptDocs.Path

namespace ScriptDocs.FileTree

/-- A script below a place: its name and those of the directories on the way to it. Only these are looked
at, never the name of the place itself. -/
structure IsScript (root : Entry) (extensions : List Text) (here : Place) (names : List Text)
    (name : Text) : Prop where
  real : ∀ passed, passed <+: names → ∃ children, root.at? (here ++ passed) = some (.directory children)
  entered : ∀ directory ∈ names, directory.head? ≠ some '.' ∧ directory ∉ skippedDirectories
  present : ∃ entry, root.at? (here ++ names ++ [name]) = some entry ∧ entry.isDirectory = false
  unlinked : ∀ target children,
    walk root true linkLimit (here ++ names) [name] ≠ .ok (.existing target (.directory children))
  wanted : Path.extension name ∈ extensions

/-- The path of an entry below a directory. -/
def pathBelow (path : Text) (names : List Text) : Text :=
  names.foldl Path.join path

theorem isEntered_iff {name : Text} :
    isEntered name = true ↔ name.head? ≠ some '.' ∧ name ∉ skippedDirectories := by
  simp [isEntered]

theorem leadsToDirectory_iff {root : Entry} {here : Place} {name : Text} :
    leadsToDirectory root here name = true ↔
      ∃ target children, walk root true linkLimit here [name] = .ok (.existing target (.directory children)) := by
  rw [leadsToDirectory]
  split
  · rename_i target entry walked
    cases entry <;> simp [walked, Entry.isDirectory]
  · rename_i other
    simp only [Bool.false_eq_true, false_iff]
    rintro ⟨target, children, walked⟩
    exact other _ _ walked

theorem scriptsIn_eq_flatMap (root : Entry) (extensions : List Text) (path : Text) (here : Place)
    (children : List (Text × Entry)) : scriptsIn root extensions path here children =
      children.flatMap (fun child => scriptsOf root extensions path here child.1 child.2) := by
  induction children with
  | nil => rfl
  | cons first rest ih =>
      obtain ⟨name, entry⟩ := first
      rw [scriptsIn, ih, List.flatMap_cons]

theorem mem_scriptsIn {root : Entry} {extensions : List Text} {path script : Text} {here : Place}
    {children : List (Text × Entry)} : script ∈ scriptsIn root extensions path here children ↔
      ∃ child ∈ children, script ∈ scriptsOf root extensions path here child.1 child.2 := by
  rw [scriptsIn_eq_flatMap, List.mem_flatMap]

theorem leadsToDirectory_leaf {root entry : Entry} {here : Place} {children : List (Text × Entry)}
    {name : Text} (inside : root.at? here = some (.directory children))
    (found : root.at? (here ++ [name]) = some entry) (plain : Path.IsPlain name)
    (leaf : entry.isDirectory = false) (noLink : ∀ target, entry ≠ .link target) :
    leadsToDirectory root here name = false := by
  by_cases short : (Utf8.encode name).length ≤ nameLimit
  · rw [leadsToDirectory, walk_name_existing inside plain.1 short found (fun _ => noLink)]
    exact leaf
  · rw [leadsToDirectory, walk_tooLong inside plain.1 (Nat.not_le.mp short)]

/-- An entry that is no directory is a script by itself or none. -/
theorem mem_scriptsOf_leaf {root entry : Entry} {extensions : List Text} {path script : Text} {here : Place}
    {children : List (Text × Entry)} {name : Text} (inside : root.at? here = some (.directory children))
    (found : root.at? (here ++ [name]) = some entry) (plain : Path.IsPlain name)
    (leaf : entry.isDirectory = false) :
    script ∈ scriptsOf root extensions path here name entry ↔
      script = Path.join path name ∧ Path.extension name ∈ extensions ∧
        leadsToDirectory root here name = false := by
  cases entry with
  | directory entries => cases leaf
  | link target =>
      cases leads : leadsToDirectory root here name with
      | true => simp [scriptsOf, leads]
      | false => simp [scriptsOf, leads, and_comm]
  | file content access =>
      have ends := leadsToDirectory_leaf inside found plain leaf (by simp)
      simp [scriptsOf, ends, and_comm]
  | pipe =>
      have ends := leadsToDirectory_leaf inside found plain leaf (by simp)
      simp [scriptsOf, ends, and_comm]

theorem mem_scriptsOf_directory {root : Entry} {extensions : List Text} {path script name : Text}
    {here : Place} {children : List (Text × Entry)} :
    script ∈ scriptsOf root extensions path here name (.directory children) ↔
      isEntered name = true ∧
        script ∈ scriptsIn root extensions (Path.join path name) (here ++ [name]) children := by
  cases enters : isEntered name with
  | true => simp [scriptsOf, enters]
  | false => simp [scriptsOf, enters]

/-! ### Which paths are found -/

section Tree

variable {root : Entry} (named : root.wellNamed = true) {extensions : List Text}

theorem isScript_nil {here : Place} {children : List (Text × Entry)} {name : Text}
    (inside : root.at? here = some (.directory children)) : IsScript root extensions here [] name ↔
      (∃ entry, root.at? (here ++ [name]) = some entry ∧ entry.isDirectory = false) ∧
        leadsToDirectory root here name = false ∧ Path.extension name ∈ extensions := by
  rw [← Bool.not_eq_true, leadsToDirectory_iff]
  constructor
  · rintro ⟨_, _, present, unlinked, wanted⟩
    rw [List.append_nil] at present unlinked
    refine ⟨present, ?_, wanted⟩
    rintro ⟨target, entries, walked⟩
    exact unlinked target entries walked
  · rintro ⟨present, unlinked, wanted⟩
    refine ⟨?_, by simp, by rwa [List.append_nil], ?_, wanted⟩
    · intro passed begins
      rw [List.prefix_nil.mp begins, List.append_nil]
      exact ⟨children, inside⟩
    · intro target entries walked
      rw [List.append_nil] at walked
      exact unlinked ⟨target, entries, walked⟩

theorem isScript_cons {here : Place} {children : List (Text × Entry)} {first name : Text}
    {names : List Text} (inside : root.at? here = some (.directory children)) :
    IsScript root extensions here (first :: names) name ↔
      isEntered first = true ∧ IsScript root extensions (here ++ [first]) names name := by
  rw [isEntered_iff]
  constructor
  · rintro ⟨real, entered, present, unlinked, wanted⟩
    rw [List.append_cons here first names] at present unlinked
    refine ⟨entered first (by simp), ?_, ?_, present, unlinked, wanted⟩
    · intro passed begins
      rw [List.append_assoc, List.singleton_append]
      exact real (first :: passed) (List.cons_prefix_cons.mpr ⟨rfl, begins⟩)
    · intro directory member
      exact entered directory (by simp [member])
  · rintro ⟨enters, real, entered, present, unlinked, wanted⟩
    rw [List.append_assoc, List.singleton_append] at unlinked
    rw [List.append_assoc here, List.singleton_append] at present
    refine ⟨?_, ?_, present, unlinked, wanted⟩
    · intro passed begins
      rcases List.prefix_cons_iff.mp begins with rfl | ⟨more, rfl, inner⟩
      · exact ⟨children, by rw [List.append_nil, inside]⟩
      · rw [List.append_cons]
        exact real more inner
    · intro directory member
      rcases List.mem_cons.mp member with rfl | later
      · exact enters
      · exact entered directory later

include named

theorem child_of_inside {here : Place} {children : List (Text × Entry)}
    (inside : root.at? here = some (.directory children)) {name : Text} {entry : Entry} :
    (name, entry) ∈ children ↔ root.at? (here ++ [name]) = some entry := by
  have distinct := (wellNamedIn_iff.mp (Entry.wellNamed_at? named inside)).1
  rw [Entry.at?_snoc inside, child?_eq_some_iff distinct]

theorem plain_of_found {here : Place} {children : List (Text × Entry)}
    (inside : root.at? here = some (.directory children)) {name : Text} {entry : Entry}
    (found : root.at? (here ++ [name]) = some entry) : Path.IsPlain name := by
  rw [Entry.at?_snoc inside] at found
  exact (Entry.wellNamed_child (Entry.wellNamed_at? named inside) found).1

/-- What is listed is a script. The induction is on the entry, whose place and path change on the way. -/
theorem isScript_of_mem {path script : Text} {here : Place} {children : List (Text × Entry)} {name : Text}
    {entry : Entry} (inside : root.at? here = some (.directory children))
    (found : root.at? (here ++ [name]) = some entry)
    (listed : script ∈ scriptsOf root extensions path here name entry) :
    ∃ names last, IsScript root extensions here names last ∧ script = pathBelow path (names ++ [last]) := by
  induction entry using Entry.treeInduction generalizing path here children name with
  | leaf entry noDirectory =>
      have plain := plain_of_found named inside found
      obtain ⟨rfl, wanted, ends⟩ := (mem_scriptsOf_leaf inside found plain noDirectory).mp listed
      exact ⟨[], name, (isScript_nil inside).mpr ⟨⟨entry, found, noDirectory⟩, ends, wanted⟩, rfl⟩
  | directory entries ih =>
      obtain ⟨enters, listedBelow⟩ := mem_scriptsOf_directory.mp listed
      obtain ⟨child, member, listedChild⟩ := mem_scriptsIn.mp listedBelow
      have foundChild := (child_of_inside named found).mp member
      obtain ⟨names, last, script, rfl⟩ := ih child member found foundChild listedChild
      exact ⟨name :: names, last, (isScript_cons inside).mpr ⟨enters, script⟩, rfl⟩

theorem mem_of_isScript {here : Place} {names : List Text} {last : Text}
    (script : IsScript root extensions here names last) (path : Text) {children : List (Text × Entry)}
    (inside : root.at? here = some (.directory children)) :
    pathBelow path (names ++ [last]) ∈ scriptsIn root extensions path here children := by
  induction names generalizing here path children with
  | nil =>
      obtain ⟨⟨entry, found, leaf⟩, ends, wanted⟩ := (isScript_nil inside).mp script
      have plain := plain_of_found named inside found
      exact mem_scriptsIn.mpr ⟨(last, entry), (child_of_inside named inside).mpr found,
        (mem_scriptsOf_leaf inside found plain leaf).mpr ⟨rfl, wanted, ends⟩⟩
  | cons first rest ih =>
      obtain ⟨enters, below⟩ := (isScript_cons inside).mp script
      obtain ⟨entries, found⟩ := below.real [] List.nil_prefix
      rw [List.append_nil] at found
      exact mem_scriptsIn.mpr ⟨(first, .directory entries), (child_of_inside named inside).mpr found,
        mem_scriptsOf_directory.mpr ⟨enters, ih below (Path.join path first) found⟩⟩

theorem mem_scriptsIn_iff {path script : Text} {here : Place} {children : List (Text × Entry)}
    (inside : root.at? here = some (.directory children)) :
    script ∈ scriptsIn root extensions path here children ↔
      ∃ names last, IsScript root extensions here names last ∧
        script = pathBelow path (names ++ [last]) := by
  constructor
  · intro listed
    obtain ⟨child, member, listedChild⟩ := mem_scriptsIn.mp listed
    exact isScript_of_mem named inside ((child_of_inside named inside).mp member) listedChild
  · rintro ⟨names, last, isScript, rfl⟩
    exact mem_of_isScript named isScript path inside

end Tree

/-! ### Different ways, different paths -/

section Ways

variable {root entry : Entry} {extensions : List Text} {path script name : Text} {here : Place}

theorem scriptsOf_leaf (noDirectory : entry.isDirectory = false) :
    (scriptsOf root extensions path here name entry).Sublist [Path.join path name] := by
  cases entry with
  | directory children => cases noDirectory
  | file content access => by_cases wanted : Path.extension name ∈ extensions <;> simp [scriptsOf, wanted]
  | pipe => by_cases wanted : Path.extension name ∈ extensions <;> simp [scriptsOf, wanted]
  | link target =>
      cases leads : leadsToDirectory root here name with
      | true => simp [scriptsOf, leads]
      | false => by_cases wanted : Path.extension name ∈ extensions <;> simp [scriptsOf, leads, wanted]

theorem eq_join_of_mem_leaf (noDirectory : entry.isDirectory = false)
    (listed : script ∈ scriptsOf root extensions path here name entry) : script = Path.join path name :=
  List.mem_singleton.mp ((scriptsOf_leaf noDirectory).subset listed)

/-- A path that was found goes on from the directory with the name of the entry it was found in. -/
theorem steps_of_mem (named : entry.wellNamed = true) (plain : Path.IsPlain name)
    (listed : script ∈ scriptsOf root extensions path here name entry) :
    Path.isAbsolute script = Path.isAbsolute path ∧
      ∃ more, Path.steps script = Path.lead path ++ name :: more := by
  induction entry using Entry.treeInduction generalizing path here name with
  | leaf entry noDirectory =>
      obtain rfl := eq_join_of_mem_leaf noDirectory listed
      exact ⟨Path.isAbsolute_join plain.2 path, [], Path.steps_join plain.2 path⟩
  | directory children ih =>
      obtain ⟨_, listedBelow⟩ := mem_scriptsOf_directory.mp listed
      obtain ⟨child, member, listedChild⟩ := mem_scriptsIn.mp listedBelow
      obtain ⟨plainChild, namedChild⟩ := (wellNamedIn_iff.mp named).2 child member
      obtain ⟨absolute, more, steps⟩ := ih child member namedChild plainChild listedChild
      refine ⟨absolute.trans (Path.isAbsolute_join plain.2 path), child.1 :: more, ?_⟩
      rw [steps, Path.lead_join plain, List.append_assoc, List.singleton_append]

theorem scriptsIn_nodup {children : List (Text × Entry)} (named : wellNamedIn children = true)
    (each : ∀ child ∈ children, (scriptsOf root extensions path here child.1 child.2).Nodup) :
    (scriptsIn root extensions path here children).Nodup := by
  obtain ⟨distinct, plain⟩ := wellNamedIn_iff.mp named
  rw [scriptsIn_eq_flatMap, List.nodup_flatMap]
  refine ⟨each, (List.pairwise_map.mp distinct).imp_of_mem ?_⟩
  intro first second memberFirst memberSecond different script listedFirst listedSecond
  obtain ⟨plainFirst, namedFirst⟩ := plain first memberFirst
  obtain ⟨plainSecond, namedSecond⟩ := plain second memberSecond
  obtain ⟨_, more, steps⟩ := steps_of_mem namedFirst plainFirst listedFirst
  obtain ⟨_, others, stepsToo⟩ := steps_of_mem namedSecond plainSecond listedSecond
  have same := List.append_cancel_left (steps.symm.trans stepsToo)
  exact different (List.cons.inj same).1

theorem scriptsOf_nodup (named : entry.wellNamed = true) :
    (scriptsOf root extensions path here name entry).Nodup := by
  induction entry using Entry.treeInduction generalizing path here name with
  | leaf entry noDirectory => exact (scriptsOf_leaf noDirectory).nodup (List.nodup_singleton _)
  | directory children ih =>
      rw [scriptsOf]
      split
      · apply scriptsIn_nodup named
        intro child member
        exact ih child member ((wellNamedIn_iff.mp named).2 child member).2
      · exact List.nodup_nil

end Ways

/-! ### The list -/

section Listed

variable (volume : Volume) (directory : Text) (extensions : List Text)

/-- Either the path leads to a directory, and what is below it is listed, or nothing is. -/
theorem discover_cases :
    (∃ place children,
      volume.resolve true (volume.absolute directory) = .ok (.existing place (.directory children)) ∧
      (discover volume directory extensions).1 =
        (scriptsIn volume.root extensions (volume.absolute directory) place children).mergeSort
          (fun left right => !Text.before right left)) ∨
    (∀ place children,
      volume.resolve true (volume.absolute directory) ≠ .ok (.existing place (.directory children))) ∧
      (discover volume directory extensions).1 = [] := by
  rw [discover]
  split
  · rename_i place children resolved
    exact .inl ⟨place, children, resolved, rfl⟩
  · rename_i elsewhere
    exact .inr ⟨elsewhere, List.mergeSort_nil⟩

/-- The log of a search tells where it was made and how many scripts there are. -/
theorem discover_snd : (discover volume directory extensions).2 =
    [{ level := Log.info, logger := Log.extractor
       message := "Discovering shell scripts in ".toList ++ volume.absolute directory },
     { level := Log.info, logger := Log.extractor
       message := "Found ".toList ++ Text.ofNat (discover volume directory extensions).1.length ++
         " shell scripts".toList }] :=
  rfl

variable {volume}

theorem discover_increasing (named : volume.root.wellNamed = true) :
    (discover volume directory extensions).1.Pairwise (· < ·) := by
  rcases discover_cases volume directory extensions with ⟨place, children, resolved, listed⟩ | ⟨_, none⟩
  · rw [listed]
    have inside := walk_existing (Volume.walk_of_resolve resolved)
    have namedThere := Entry.wellNamed_at? named inside
    apply Text.mergeSort_increasing
    apply scriptsIn_nodup namedThere
    intro child member
    exact scriptsOf_nodup ((wellNamedIn_iff.mp namedThere).2 child member).2
  · rw [none]
    exact .nil

variable {directory extensions}

/-- What is listed are the scripts below the directory, once they are in order. -/
theorem discover_eq_of_perm {place : Place} {children : List (Text × Entry)} {sorted : List Text}
    (resolved : volume.resolve true (volume.absolute directory) = .ok (.existing place (.directory children)))
    (perm : (scriptsIn volume.root extensions (volume.absolute directory) place children).Perm sorted)
    (increasing : sorted.Pairwise (· < ·)) : (discover volume directory extensions).1 = sorted := by
  rw [discover, resolved]
  apply List.Pairwise.eq_of_mem_iff (Text.mergeSort_increasing (perm.nodup_iff.mpr increasing.nodup)) increasing
  intro script
  rw [List.mem_mergeSort, perm.mem_iff]

theorem isAbsolute_of_mem_discover (named : volume.root.wellNamed = true) {script : Text}
    (listed : script ∈ (discover volume directory extensions).1) : Path.isAbsolute script = true := by
  rcases discover_cases volume directory extensions with ⟨place, children, resolved, same⟩ | ⟨_, none⟩
  · rw [same, List.mem_mergeSort] at listed
    have inside := walk_existing (Volume.walk_of_resolve resolved)
    obtain ⟨child, member, listedChild⟩ := mem_scriptsIn.mp listed
    obtain ⟨plain, namedChild⟩ := (wellNamedIn_iff.mp (Entry.wellNamed_at? named inside)).2 child member
    rw [(steps_of_mem namedChild plain listedChild).1]
    exact volume.isAbsolute_absolute directory
  · rw [none] at listed
    cases listed

theorem mem_discover_iff (named : volume.root.wellNamed = true) {script : Text} :
    script ∈ (discover volume directory extensions).1 ↔
      ∃ place entry names name,
        volume.resolve true (volume.absolute directory) = .ok (.existing place entry) ∧
        IsScript volume.root extensions place names name ∧
        script = pathBelow (volume.absolute directory) (names ++ [name]) := by
  rcases discover_cases volume directory extensions with ⟨there, children, resolved, same⟩ | ⟨elsewhere, none⟩
  · have inside := walk_existing (Volume.walk_of_resolve resolved)
    rw [same, List.mem_mergeSort, mem_scriptsIn_iff named inside]
    constructor
    · rintro ⟨names, name, isScript, rfl⟩
      exact ⟨there, .directory children, names, name, resolved, isScript, rfl⟩
    · rintro ⟨place, entry, names, name, resolvedToo, isScript, rfl⟩
      cases resolved.symm.trans resolvedToo
      exact ⟨names, name, isScript, rfl⟩
  · rw [none]
    refine ⟨nofun, ?_⟩
    rintro ⟨place, entry, names, name, resolved, isScript, -⟩
    -- Scripts are below real directories only, and the path leads to none.
    obtain ⟨children, inside⟩ := isScript.real [] List.nil_prefix
    rw [List.append_nil, walk_existing (Volume.walk_of_resolve resolved)] at inside
    cases inside
    exact absurd resolved (elsewhere place children)

end Listed

/-! ### Other listings -/

theorem Entry.isDirectory_surface (entry : Entry) : entry.surface.isDirectory = entry.isDirectory := by
  cases entry <;> rfl

theorem IsScript.transfer {root other : Entry} {extensions others : List Text} {here : Place}
    {names : List Text} {name : Text} (script : IsScript root extensions here names name)
    (alike : Alike root other) (wider : ∀ extension ∈ extensions, extension ∈ others) :
    IsScript other others here names name := by
  obtain ⟨real, entered, ⟨entry, found, leaf⟩, unlinked, wanted⟩ := script
  refine ⟨?_, entered, ?_, ?_, wider _ wanted⟩
  · intro passed begins
    obtain ⟨children, inside⟩ := real passed begins
    exact alike.directory inside
  · obtain ⟨now, foundNow, same⟩ := alike.at? found
    refine ⟨now, foundNow, ?_⟩
    rw [← Entry.isDirectory_surface, same, Entry.isDirectory_surface, leaf]
  · intro target children walked
    obtain ⟨before, walkedBefore, same⟩ := alike.symm.walk walked
    cases before with
    | directory entries => exact unlinked target entries walkedBefore
    | file content access => cases same
    | link aim => cases same
    | pipe => cases same

theorem mem_discover_transfer {volume : Volume} {root : Entry} (named : volume.root.wellNamed = true)
    (namedToo : root.wellNamed = true) (alike : Alike volume.root root) {directory script : Text}
    {extensions others : List Text} (wider : ∀ extension ∈ extensions, extension ∈ others)
    (listed : script ∈ (discover volume directory extensions).1) :
    script ∈ (discover { volume with root } directory others).1 := by
  obtain ⟨place, entry, names, name, resolved, isScript, rfl⟩ := (mem_discover_iff named).mp listed
  obtain ⟨other, resolvedToo⟩ := alike.resolve resolved
  have namedThere : ({ volume with root } : Volume).root.wellNamed = true := namedToo
  exact (mem_discover_iff namedThere).mpr
    ⟨place, other, names, name, resolvedToo, isScript.transfer alike wider, rfl⟩

/-- The list is settled by what stands where and by which extensions are wanted. -/
theorem discover_relisted {volume : Volume} {root : Entry} (named : volume.root.wellNamed = true)
    (relisted : Relisted volume.root root) (directory : Text) {extensions others : List Text}
    (wanted : ∀ extension, extension ∈ extensions ↔ extension ∈ others) :
    discover { volume with root } directory others = discover volume directory extensions := by
  obtain ⟨namedToo, alike⟩ := relisted.alike named
  have namedThere : ({ volume with root } : Volume).root.wellNamed = true := namedToo
  have same : (discover { volume with root } directory others).1 =
      (discover volume directory extensions).1 := by
    apply List.Pairwise.eq_of_mem_iff (discover_increasing directory others namedThere)
      (discover_increasing directory extensions named)
    intro script
    constructor
    · intro listed
      exact mem_discover_transfer namedThere named alike.symm (fun extension => (wanted extension).mpr) listed
    · intro listed
      exact mem_discover_transfer named namedToo alike (fun extension => (wanted extension).mp) listed
  refine Prod.ext same ?_
  rw [discover_snd, discover_snd, same]
  rfl

/-- The list of scripts below a directory is strictly increasing by code point and has absolute paths. It
has the path of an entry if and only if the entry is no directory, not even through links, its extension is
wanted, and on the way from the directory to it there are only real directories that are entered. Neither
the order in which directories list their entries nor that of the extensions has a bearing on it. -/
theorem discover_exact (volume : Volume) (named : volume.root.wellNamed = true) (directory : Text)
    (extensions : List Text) :
    (discover volume directory extensions).1.Pairwise (· < ·) ∧
    (discover volume directory extensions).1.Nodup ∧
    (∀ script ∈ (discover volume directory extensions).1, Path.isAbsolute script = true) ∧
    (∀ script, script ∈ (discover volume directory extensions).1 ↔
      ∃ place entry names name,
        volume.resolve true (volume.absolute directory) = .ok (.existing place entry) ∧
        IsScript volume.root extensions place names name ∧
        script = pathBelow (volume.absolute directory) (names ++ [name])) ∧
    ∀ root others, Relisted volume.root root →
      (∀ extension, extension ∈ extensions ↔ extension ∈ others) →
      discover { volume with root } directory others = discover volume directory extensions := by
  have increasing := discover_increasing directory extensions named
  refine ⟨increasing, increasing.nodup, ?_, ?_, ?_⟩
  · intro script listed
    exact isAbsolute_of_mem_discover named listed
  · intro script
    exact mem_discover_iff named
  · intro root others relisted wanted
    exact discover_relisted named relisted directory wanted

/-! ### A directory with hidden, generated and linked ones below it -/

section Build

def libEntries : List (Text × Entry) :=
  [("pipe.sh".toList, .pipe), ("out".toList, .directory [("made.sh".toList, .file [] .readable)]),
   ("again.sh".toList, .link "../lib".toList)]

def buildEntries (lib : List (Text × Entry)) : List (Text × Entry) :=
  [("start.sh".toList, .file [] .unreadable), (".git".toList, .directory [("hook.sh".toList, .pipe)]),
   ("lib".toList, .directory lib), ("linked".toList, .link "lib".toList),
   ("lost.sh".toList, .link "nowhere".toList), ("notes.txt".toList, .file [] .readable)]

def buildVolume : Volume where
  root := .directory [("build".toList, .directory (buildEntries libEntries))]

def turnedRoot : Entry :=
  .directory [("build".toList, .directory (buildEntries libEntries.reverse).reverse)]

theorem turnedRoot_relisted : Relisted buildVolume.root turnedRoot := by
  have lib : Relisted (.directory libEntries) (.directory libEntries.reverse) :=
    .here (List.reverse_perm _).symm
  have inside : Relisted (.directory (buildEntries libEntries))
      (.directory (buildEntries libEntries.reverse)) :=
    @Relisted.within ((buildEntries []).take 2) _ _ _ _ lib
  have turned := Relisted.trans inside (.here (List.reverse_perm _).symm)
  exact @Relisted.within [] _ _ _ _ turned

theorem build_scripts :
    scriptsIn buildVolume.root [".sh".toList] "/build".toList ["build".toList] (buildEntries libEntries) =
      ["/build/start.sh".toList, "/build/lib/pipe.sh".toList, "/build/lost.sh".toList] := by
  have hidden : isEntered ".git".toList = false := rfl
  have entered : isEntered "lib".toList = true := rfl
  have generated : isEntered "out".toList = false := rfl
  have again : leadsToDirectory buildVolume.root (["build".toList] ++ ["lib".toList]) "again.sh".toList =
      true := rfl
  have linked : leadsToDirectory buildVolume.root ["build".toList] "linked".toList = true := rfl
  have lost : leadsToDirectory buildVolume.root ["build".toList] "lost.sh".toList = false := rfl
  have unwanted : [".sh".toList].contains (Path.extension "notes.txt".toList) = false := rfl
  simp only [buildEntries, libEntries, scriptsIn, scriptsOf, hidden, entered, generated, again, linked,
    lost, unwanted, Bool.false_eq_true, if_true, if_false]
  rfl

theorem build_listed : (discover buildVolume "build".toList [".sh".toList]).1 =
    ["/build/lib/pipe.sh".toList, "/build/lost.sh".toList, "/build/start.sh".toList] := by
  have path : buildVolume.absolute "build".toList = "/build".toList := rfl
  have resolved : buildVolume.resolve true "/build".toList =
      .ok (.existing ["build".toList] (.directory (buildEntries libEntries))) := rfl
  refine discover_eq_of_perm resolved ?_ (by decide)
  rw [path, build_scripts]
  decide

/-- The directory that is searched may itself have a name that is not entered below it. -/
theorem discover_exact_build :
    buildVolume.root.wellNamed = true ∧ Relisted buildVolume.root turnedRoot ∧
    (discover buildVolume "build".toList [".sh".toList]).1 =
      ["/build/lib/pipe.sh".toList, "/build/lost.sh".toList, "/build/start.sh".toList] ∧
    (∃ place names name, IsScript buildVolume.root [".sh".toList] place names name ∧
      "/build/lib/pipe.sh".toList = pathBelow (buildVolume.absolute "build".toList) (names ++ [name])) ∧
    discover { buildVolume with root := turnedRoot } "build".toList [".sh".toList, ".sh".toList] =
      discover buildVolume "build".toList [".sh".toList] := by
  have named : buildVolume.root.wellNamed = true := by decide
  obtain ⟨_, _, _, exactly, relisting⟩ := discover_exact buildVolume named "build".toList [".sh".toList]
  refine ⟨named, turnedRoot_relisted, build_listed, ?_, ?_⟩
  · obtain ⟨place, entry, names, name, _, isScript, same⟩ :=
      (exactly "/build/lib/pipe.sh".toList).mp (by rw [build_listed]; simp)
    exact ⟨place, names, name, isScript, same⟩
  · exact relisting turnedRoot [".sh".toList, ".sh".toList] turnedRoot_relisted (by simp)

end Build

end ScriptDocs.FileTree
