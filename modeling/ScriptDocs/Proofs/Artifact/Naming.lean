import ScriptDocs.Proofs.Artifact
import ScriptDocs.Proofs.Script.Grammar

/-!
Files keep to their directory. Whatever a title is, the name that it gives is one plain name, so that the
path of its file names an entry of the output directory and leads nowhere else. A plain name is its own
base name.
-/

namespace ScriptDocs.Artifact

open FileTree (Volume Place Entry Target)

/-- A name of safe characters, with no underscore at its ends. -/
structure PlainName (name : Text) : Prop where
  filled : name ≠ []
  safe : ∀ c ∈ name, Script.Alphanumeric c ∨ c = '.' ∨ c = '_' ∨ c = '-'
  start : name.head? ≠ some '_'
  last : name.getLast? ≠ some '_'

/-- A path that is put together from the path of a directory and a name of its own in it. -/
structure DirectChild (directory path name : Text) : Prop where
  parts : path = directory ++ name ∧ directory.getLast? = some '/' ∨
    path = directory ++ '/' :: name ∧ directory.getLast? ≠ some '/'
  unbroken : '/' ∉ name
  noNull : Char.ofNat 0 ∉ name
  notHere : name ≠ ['.']
  notUp : name ≠ ['.', '.']

theorem isSafe_iff {c : Char} :
    isSafe c = true ↔ Script.Alphanumeric c ∨ c = '.' ∨ c = '_' ∨ c = '-' := by
  simp only [isSafe, Script.alphanumeric_iff, Bool.or_eq_true, beq_iff_eq, or_assoc]

/-! ### Base names -/

theorem replaceUnsafe_id {title : Text} (safe : ∀ c ∈ title, isSafe c = true) (replaced : Bool) :
    replaceUnsafe replaced title = title := by
  induction title generalizing replaced with
  | nil => rfl
  | cons c rest ih =>
      rw [replaceUnsafe, if_pos (safe c (by simp)),
        ih (fun later member => safe later (List.mem_cons_of_mem c member))]

theorem baseName_cases (title : Text) :
    Text.trim '_' (replaceUnsafe false title) = [] ∧ baseName title = "document".toList ∨
      baseName title ≠ [] ∧ baseName title = Text.trim '_' (replaceUnsafe false title) := by
  unfold baseName
  cases Text.trim '_' (replaceUnsafe false title) with
  | nil => exact .inl ⟨rfl, rfl⟩
  | cons first rest => exact .inr ⟨List.cons_ne_nil first rest, rfl⟩

theorem baseName_plain (title : Text) : PlainName (baseName title) := by
  have safe := fun c member => isSafe_iff.mp (baseName_safe title c member)
  rcases baseName_cases title with ⟨_, fallback⟩ | ⟨filled, trimmed⟩
  · refine ⟨?_, safe, ?_, ?_⟩
    · rw [fallback]
      decide
    · rw [fallback]
      decide
    · rw [fallback]
      decide
  · refine ⟨filled, safe, ?_, ?_⟩
    · rw [trimmed]
      exact Text.head?_trim '_' _
    · rw [trimmed]
      exact Text.getLast?_trimRight '_' _

theorem PlainName.baseName_eq {title : Text} (plain : PlainName title) : baseName title = title := by
  have kept : Text.trim '_' (replaceUnsafe false title) = title := by
    rw [replaceUnsafe_id (fun c member => isSafe_iff.mpr (plain.safe c member)),
      Text.trim_id plain.start plain.last]
  rcases baseName_cases title with ⟨empty, _⟩ | ⟨_, trimmed⟩
  · exact absurd (kept.symm.trans empty) plain.filled
  · exact trimmed.trans kept

theorem path_baseName (title directory : Text) : path (baseName title) directory = path title directory := by
  rw [path, path, (baseName_plain title).baseName_eq]

/-! ### Paths -/

theorem fileName_noNull (title : Text) : Char.ofNat 0 ∉ fileName title := by
  intro member
  rcases List.mem_append.mp member with inBase | inEnd
  · exact absurd (baseName_safe title _ inBase) (by decide)
  · exact absurd inEnd (by decide)

theorem path_directChild (title : Text) {directory : Text} (filled : directory ≠ []) :
    DirectChild directory (path title directory) (fileName title) := by
  obtain ⟨notIdle, notUp⟩ := FileTree.isName_iff.mp (isName_fileName title)
  have unbroken := fileName_unbroken title
  have notHere : fileName title ≠ ['.'] := by
    intro here
    rw [here] at notIdle
    exact absurd notIdle (by decide)
  refine ⟨?_, unbroken, fileName_noNull title, notHere, notUp⟩
  have joined : path title directory = Path.join directory (fileName title) := rfl
  rw [joined, Path.join, if_neg (by simp [Path.isAbsolute_eq_false unbroken])]
  by_cases ends : directory.getLast? = some '/'
  · exact .inl ⟨by simp [ends, Path.separator], ends⟩
  · exact .inr ⟨by simp [ends, filled, Path.separator], ends⟩

/-- Every title gives a plain name, a plain name gives itself, and the path of a title's file names an
entry of the output directory: it leads to that entry, or to the vacant place for it, and nowhere else. -/
theorem path_contained (title : Text) :
    PlainName (baseName title) ∧
    baseName title ++ ".json".toList ≠ ['.'] ∧ baseName title ++ ".json".toList ≠ ['.', '.'] ∧
    (∀ volume clock payload directory indent after file,
      write volume clock payload title directory indent = (after, .ok file) → file = path title directory) ∧
    (∀ directory, directory ≠ [] → DirectChild directory (path title directory) (fileName title)) ∧
    (∀ (volume : Volume) (directory : Text) (place : Place) (entry : Entry) (target : Target),
      volume.resolve true directory = .ok (.existing place entry) →
      volume.resolve false (path title directory) = .ok target →
      target = .vacant (place ++ [fileName title]) false ∨
        ∃ child, target = .existing (place ++ [fileName title]) child) ∧
    (PlainName title → baseName title = title) ∧
    (∀ directory, path (baseName title) directory = path title directory) := by
  have child := path_directChild title (List.cons_ne_nil '.' [])
  refine ⟨baseName_plain title, child.notHere, child.notUp, ?_, fun _ => path_directChild title, ?_,
    PlainName.baseName_eq, path_baseName title⟩
  · intro volume clock payload directory indent after file wrote
    exact (write_ok_iff.mp wrote).1
  · intro volume directory place entry target resolved reached
    exact Volume.resolve_join_child (isName_fileName title) (fileName_unbroken title) resolved reached

/-- A title that would lead out of the output directory if it were used as it is. -/
def climbingTitle : Text :=
  "../x y/é_".toList

theorem path_contained_climbing :
    path climbingTitle "o".toList = "o/.._x_y.json".toList ∧
    DirectChild "o".toList "o/.._x_y.json".toList ".._x_y.json".toList ∧
    (outputVolume []).resolve true "o".toList = .ok (.existing ["o".toList] (.directory [])) ∧
    (∃ target, (outputVolume []).resolve false (path climbingTitle "o".toList) = .ok target ∧
      (target = .vacant ["o".toList, ".._x_y.json".toList] false ∨
        ∃ child, target = .existing ["o".toList, ".._x_y.json".toList] child)) ∧
    PlainName ".._x_y".toList ∧ baseName ".._x_y".toList = ".._x_y".toList ∧
    ∃ after, write emptyVolume [] [] climbingTitle "o".toList none = (after, .ok "o/.._x_y.json".toList) := by
  have base : baseName climbingTitle = ".._x_y".toList := by decide
  have file : path climbingTitle "o".toList = "o/.._x_y.json".toList := by decide
  obtain ⟨plain, _, _, wrote, child, leads, _, _⟩ := path_contained climbingTitle
  obtain ⟨_, _, _, _, _, _, kept, _⟩ := path_contained ".._x_y".toList
  rw [base] at plain
  have directory : (outputVolume []).resolve true "o".toList =
      .ok (.existing ["o".toList] (.directory [])) :=
    rfl
  have reached : (outputVolume []).resolve false (path climbingTitle "o".toList) =
      .ok (.vacant ["o".toList, ".._x_y.json".toList] false) :=
    rfl
  have directChild := child "o".toList (by decide)
  have name : fileName climbingTitle = ".._x_y.json".toList := by rw [fileName, base]; rfl
  have led := leads _ _ _ _ _ directory reached
  rw [file, name] at directChild
  rw [name] at led
  refine ⟨file, directChild, directory, ⟨_, reached, led⟩, plain, kept plain, ?_⟩
  have written : ∃ after, write emptyVolume [] [] climbingTitle "o".toList none =
      (after, .ok (path climbingTitle "o".toList)) := by
    refine ⟨outputVolume [(".._x_y.json".toList, .file (Utf8.encode (text [] none [])) .readable)], ?_⟩
    refine write_ok_iff.mpr ⟨rfl, rfl, _, empty_ready, ?_⟩
    rfl
  obtain ⟨after, done⟩ := written
  exact ⟨after, by rw [done, wrote _ _ _ _ _ _ _ done, file]⟩

end ScriptDocs.Artifact
