import ScriptDocs.FileTree.Discovery
import ScriptDocs.Proofs.FileTree.Growth

/-!
Normalised paths from the root: one or two slashes and then names, with one slash between neighbours.
Normalising leaves such a path as it is, and always gives one for an absolute path; so a directory is
searched alike under its own path and under its absolute one.
-/

namespace ScriptDocs.Path

open FileTree (isName isName_iff)

/-- A step that normalising keeps. -/
def IsPlain (step : Text) : Prop :=
  isName step = true ∧ separator ∉ step

theorem foldl_stepOnto_plain {steps visited : List Text} (unbroken : ∀ step ∈ steps, separator ∉ step)
    (plain : ∀ step ∈ visited, IsPlain step) :
    ∀ step ∈ steps.foldl (stepOnto true) visited, IsPlain step := by
  induction steps generalizing visited with
  | nil => exact plain
  | cons first rest ih =>
      refine ih (fun step member => unbroken step (by simp [member])) ?_
      intro step member
      unfold stepOnto at member
      split at member
      · exact plain step member
      · rename_i active
        split at member
        · rename_i up
          cases visited with
          | nil => simp at member
          | cons last before =>
              -- From the root a step up is never kept, so that it takes a name back.
              have lastName := (isName_iff.mp (plain last (by simp)).1).2
              simp only [beq_iff_eq, lastName, if_false] at member
              exact plain step (by simp [member])
        · rename_i stays
          rcases List.mem_cons.mp member with rfl | old
          · refine ⟨isName_iff.mpr ⟨by simpa using active, by simpa using stays⟩, ?_⟩
            exact unbroken step (by simp)
          · exact plain step old

theorem foldl_stepOnto_names {names : List Text} (plain : ∀ name ∈ names, IsPlain name)
    (visited : List Text) : names.foldl (stepOnto true) visited = names.reverse ++ visited := by
  induction names generalizing visited with
  | nil => rfl
  | cons first rest ih =>
      obtain ⟨active, stays⟩ := isName_iff.mp (plain first (by simp)).1
      have onto : stepOnto true visited first = first :: visited := by
        simp [stepOnto, active, stays]
      rw [List.foldl_cons, onto, ih fun name member => plain name (by simp [member])]
      simp

theorem steps_joinWith {names : List Text} (filled : names ≠ []) (plain : ∀ name ∈ names, IsPlain name) :
    steps (Text.joinWith [separator] names) = names :=
  Text.segments_joinWith filled fun name member => (plain name member).2

/-- The roots that normalising leaves. -/
def IsRoot (root : Text) : Prop :=
  root = [separator] ∨ root = [separator, separator]

theorem rootOf_isRoot {path : Text} (absolute : isAbsolute path = true) : IsRoot (rootOf path) := by
  cases path with
  | nil => contradiction
  | cons c rest =>
      obtain rfl : c = separator := by simpa [isAbsolute] using absolute
      unfold rootOf
      split
      · rename_i none
        simp at none
      · exact .inr rfl
      · exact .inl rfl

section Assembled

variable {root : Text} (isRoot : IsRoot root) {names : List Text} (plain : ∀ name ∈ names, IsPlain name)

include isRoot plain

theorem rootOf_append : rootOf (root ++ Text.joinWith [separator] names) = root := by
  have stops : (Text.joinWith [separator] names).takeWhile (· == separator) = [] := by
    cases names with
    | nil => rfl
    | cons first rest =>
        obtain ⟨named, unbroken⟩ := plain first (by simp)
        cases first with
        | nil => contradiction
        | cons c more =>
            have different : c ≠ separator := fun same => unbroken (by simp [same])
            cases rest <;> simp [Text.joinWith, different]
  unfold rootOf
  rcases isRoot with rfl | rfl
  · simp [stops]
  · simp [stops]

theorem visited_append :
    (steps (root ++ Text.joinWith [separator] names)).foldl (stepOnto true) [] = names.reverse := by
  have fromJoined : (steps (Text.joinWith [separator] names)).foldl (stepOnto true) [] = names.reverse := by
    cases names with
    | nil => rfl
    | cons first rest =>
        rw [steps_joinWith (by simp) plain, foldl_stepOnto_names plain, List.append_nil]
  have slash : ∀ path, (steps (separator :: path)).foldl (stepOnto true) [] =
      (steps path).foldl (stepOnto true) [] := by
    intro path
    rw [← List.nil_append (separator :: path), steps_append]
    rfl
  rcases isRoot with rfl | rfl
  · exact (slash _).trans fromJoined
  · exact (slash _).trans ((slash _).trans fromJoined)

theorem normalize_assembled :
    normalize (root ++ Text.joinWith [separator] names) = root ++ Text.joinWith [separator] names := by
  have filled : root ≠ [] := by
    rcases isRoot with rfl | rfl <;> simp
  unfold normalize
  simp only [rootOf_append isRoot plain]
  rw [show (!root.isEmpty) = true by simpa using filled, visited_append isRoot plain, List.reverse_reverse]
  split
  · rename_i empty
    simp [filled] at empty
  · rfl

end Assembled

theorem normalize_absolute {path : Text} (absolute : isAbsolute path = true) :
    ∃ root names, IsRoot root ∧ (∀ name ∈ names, IsPlain name) ∧
      normalize path = root ++ Text.joinWith [separator] names := by
  have isRoot := rootOf_isRoot absolute
  have filled : rootOf path ≠ [] := by
    rcases isRoot with same | same <;> simp [same]
  refine ⟨rootOf path, ((steps path).foldl (stepOnto true) []).reverse, isRoot, ?_, ?_⟩
  · intro name member
    refine foldl_stepOnto_plain ?_ (by simp) name (List.mem_reverse.mp member)
    intro step inside slash
    have differs := (Text.mem_segmentsBy inside separator slash).2
    simp at differs
  · unfold normalize
    simp only [show (!(rootOf path).isEmpty) = true by simpa using filled]
    split
    · rename_i empty
      simp [filled] at empty
    · rfl

theorem normalize_normalize {path : Text} (absolute : isAbsolute path = true) :
    normalize (normalize path) = normalize path := by
  obtain ⟨root, names, isRoot, plain, assembled⟩ := normalize_absolute absolute
  rw [assembled, normalize_assembled isRoot plain]

end ScriptDocs.Path

namespace ScriptDocs.FileTree

namespace Volume

variable (volume : Volume) (path : Text)

theorem isAbsolute_joined : Path.isAbsolute (Path.join volume.workingPath path) = true := by
  unfold Path.join
  split
  · assumption
  · split <;> rfl

theorem isAbsolute_absolute : Path.isAbsolute (volume.absolute path) = true := by
  obtain ⟨root, names, isRoot, _, assembled⟩ :=
    Path.normalize_absolute (isAbsolute_joined volume path)
  rw [Volume.absolute, Path.absolute, assembled]
  rcases isRoot with rfl | rfl <;> rfl

theorem absolute_absolute : volume.absolute (volume.absolute path) = volume.absolute path := by
  have stays : Path.join volume.workingPath (volume.absolute path) = volume.absolute path :=
    if_pos (isAbsolute_absolute volume path)
  rw [Volume.absolute, Path.absolute, stays]
  exact Path.normalize_normalize (isAbsolute_joined volume path)

end Volume

/-- A directory is searched alike under its absolute path. -/
theorem discover_absolute (volume : Volume) (directory : Text) (extensions : List Text) :
    discover volume (volume.absolute directory) extensions = discover volume directory extensions := by
  rw [discover, discover, volume.absolute_absolute]

end ScriptDocs.FileTree
