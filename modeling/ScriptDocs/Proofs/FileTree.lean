import ScriptDocs.FileTree.Basic

namespace ScriptDocs.FileTree

/-!
What changing a tree at one place leaves alone. A walk only looks at the sort of each entry it passes
and at where links lead, so a walk that arrives somewhere still arrives there after new directories
and files were added or files were written anew.
-/

/-! ### Entries at places -/

theorem child?_cons (name : Text) (first : Text × Entry) (rest : List (Text × Entry)) :
    child? (first :: rest) name = if first.1 = name then some first.2 else child? rest name := by
  unfold child?
  by_cases same : first.1 = name
  · simp [same]
  · simp [same]

theorem child?_setChild_same (name : Text) (entry : Entry) (children : List (Text × Entry)) :
    child? (setChild name entry children) name = some entry := by
  induction children with
  | nil => simp [setChild, child?]
  | cons first rest ih =>
      obtain ⟨other, old⟩ := first
      by_cases same : other = name
      · simp [setChild, same, child?_cons]
      · simp [setChild, same, child?_cons, ih]

theorem child?_setChild_other {name other : Text} (different : other ≠ name) (entry : Entry)
    (children : List (Text × Entry)) :
    child? (setChild name entry children) other = child? children other := by
  induction children with
  | nil => simp [setChild, child?, Ne.symm different]
  | cons first rest ih =>
      obtain ⟨here, old⟩ := first
      by_cases same : here = name
      · simp [setChild, same, child?_cons, Ne.symm different]
      · simp [setChild, same, child?_cons, ih]

namespace Entry

@[simp] theorem at?_nil (entry : Entry) : entry.at? [] = some entry := by
  cases entry <;> rfl

theorem at?_append (entry : Entry) (front back : Place) :
    entry.at? (front ++ back) = (entry.at? front).bind (·.at? back) := by
  induction front generalizing entry with
  | nil => simp
  | cons name rest ih =>
      cases entry with
      | directory children =>
          rw [List.cons_append, at?, at?]
          cases child? children name with
          | none => rfl
          | some inner => exact ih inner
      | file content access => rfl
      | link target => rfl
      | pipe => rfl

theorem at?_snoc {entry : Entry} {place : Place} {children : List (Text × Entry)}
    (found : entry.at? place = some (.directory children)) (name : Text) :
    entry.at? (place ++ [name]) = child? children name := by
  rw [at?_append, found, Option.bind_some, at?]
  cases child? children name <;> simp

theorem at?_parent {root entry : Entry} {place : Place} {name : Text}
    (found : root.at? (place ++ [name]) = some entry) :
    ∃ children, root.at? place = some (.directory children) := by
  rw [at?_append] at found
  obtain ⟨above, inside, below⟩ := Option.bind_eq_some_iff.mp found
  cases above with
  | directory children => exact ⟨children, inside⟩
  | file content access => simp [at?] at below
  | link target => simp [at?] at below
  | pipe => simp [at?] at below

/-- An entry without what is below it. -/
def surface : Entry → Entry
  | .directory _ => .directory []
  | entry => entry

/-- Whether nothing is below an entry. -/
def isLeaf : Entry → Bool
  | .directory children => children.isEmpty
  | _ => true

theorem at?_leaf {entry : Entry} (leaf : entry.isLeaf = true) {name : Text} {rest : Place} :
    entry.at? (name :: rest) = none := by
  cases entry with
  | directory children =>
      have empty : children = [] := by simpa [isLeaf] using leaf
      simp [at?, empty, child?]
  | file content access => rfl
  | link target => rfl
  | pipe => rfl

end Entry

/-- What stands at a place, without what is below it. -/
def look (root : Entry) (place : Place) : Option Entry :=
  (root.at? place).map Entry.surface

theorem at?_directory {root : Entry} {place : Place} (found : look root place = some (.directory [])) :
    ∃ children, root.at? place = some (.directory children) := by
  obtain ⟨entry, at_, same⟩ := Option.map_eq_some_iff.mp found
  cases entry <;> simp [Entry.surface] at same
  exact ⟨_, at_⟩

theorem at?_file {root : Entry} {place : Place} {content : List UInt8} {access : Access}
    (found : look root place = some (.file content access)) :
    root.at? place = some (.file content access) := by
  obtain ⟨entry, at_, same⟩ := Option.map_eq_some_iff.mp found
  cases entry <;> simp [Entry.surface] at same
  rw [at_, same.1, same.2]

theorem look_of_at? {root : Entry} {place : Place} {entry : Entry}
    (found : root.at? place = some entry) : look root place = some entry.surface := by
  simp [look, found]

/-- Putting an entry in a directory shows there. -/
theorem at?_put_here {root : Entry} {parent : Place} {children : List (Text × Entry)}
    (found : root.at? parent = some (.directory children)) (name : Text) (new : Entry) :
    (root.put (parent ++ [name]) new).at? (parent ++ [name]) = some new := by
  induction parent generalizing root with
  | nil =>
      cases Option.some.inj ((Entry.at?_nil root).symm.trans found)
      simp [Entry.put, Entry.at?, child?_setChild_same]
  | cons step rest ih =>
      cases root with
      | directory entries =>
          rw [Entry.at?] at found
          cases inner : child? entries step with
          | none => simp [inner] at found
          | some entry =>
              simp only [inner] at found
              simp [Entry.put, Entry.at?, inner, child?_setChild_same, ih found]
      | file content access => simp [Entry.at?] at found
      | link target => simp [Entry.at?] at found
      | pipe => simp [Entry.at?] at found

/-- Putting a leaf where a leaf or nothing stands in a directory shows nowhere else. -/
theorem look_put_other {root : Entry} {parent : Place} {children : List (Text × Entry)}
    (found : root.at? parent = some (.directory children)) {name : Text} {new : Entry}
    (leaf : new.isLeaf = true)
    (replaced : ∀ old, root.at? (parent ++ [name]) = some old → old.isLeaf = true)
    {place : Place} (other : place ≠ parent ++ [name]) :
    look (root.put (parent ++ [name]) new) place = look root place := by
  induction parent generalizing root place with
  | nil =>
      cases Option.some.inj ((Entry.at?_nil root).symm.trans found)
      cases place with
      | nil => simp [look, Entry.put, Entry.surface]
      | cons first rest =>
          by_cases same : first = name
          · subst same
            cases rest with
            | nil => exact absurd rfl other
            | cons next more =>
                simp only [look, List.nil_append, Entry.put, Entry.at?, child?_setChild_same,
                  Entry.at?_leaf leaf]
                cases inner : child? children first with
                | none => rfl
                | some old =>
                    have oldLeaf := replaced old (by simp [Entry.at?, inner])
                    simp [Entry.at?_leaf oldLeaf]
          · simp [look, Entry.put, Entry.at?, child?_setChild_other same]
  | cons step rest ih =>
      cases root with
      | directory entries =>
          rw [Entry.at?] at found
          cases inner : child? entries step with
          | none => simp [inner] at found
          | some entry =>
              simp only [inner] at found
              have innerReplaced : ∀ old, entry.at? (rest ++ [name]) = some old → old.isLeaf = true := by
                intro old below
                exact replaced old (by simpa [Entry.at?, inner] using below)
              cases place with
              | nil => simp [look, Entry.put, Entry.surface]
              | cons first more =>
                  by_cases same : first = step
                  · subst same
                    have deeper : more ≠ rest ++ [name] := by
                      intro equal
                      exact other (by simp [equal])
                    have below := ih found innerReplaced deeper
                    simpa [look, Entry.put, Entry.at?, inner, child?_setChild_same] using below
                  · simp [look, Entry.put, Entry.at?, child?_setChild_other same]
      | file content access => simp [Entry.at?] at found
      | link target => simp [Entry.at?] at found
      | pipe => simp [Entry.at?] at found

/-! ### Walks -/

/-- Whether a step names an entry of the directory it is taken in. -/
def isName (step : Text) : Bool :=
  !Path.isIdle step && step != ['.', '.']

theorem isName_iff {step : Text} :
    isName step = true ↔ Path.isIdle step = false ∧ step ≠ ['.', '.'] := by
  simp [isName]

/-- Steps that lead from one place to another through directories and links, with what is left of the
links that may be followed. -/
inductive Leads (root : Entry) : Nat → Place → List Text → Place → Nat → Prop
  | arrived (links : Nat) (here : Place) : Leads root links here [] here links
  | idle {links left : Nat} {here there : Place} {step : Text} {rest : List Text}
      (inside : look root here = some (.directory [])) (stays : Path.isIdle step = true)
      (onward : Leads root links here rest there left) : Leads root links here (step :: rest) there left
  | up {links left : Nat} {here there : Place} {rest : List Text}
      (inside : look root here = some (.directory []))
      (onward : Leads root links here.dropLast rest there left) :
      Leads root links here (['.', '.'] :: rest) there left
  | enter {links left : Nat} {here there : Place} {step : Text} {rest : List Text} {entry : Entry}
      (inside : look root here = some (.directory [])) (named : isName step = true)
      (short : (Utf8.encode step).length ≤ nameLimit) (found : look root (here ++ [step]) = some entry)
      (noLink : ∀ target, entry ≠ .link target)
      (onward : Leads root links (here ++ [step]) rest there left) :
      Leads root links here (step :: rest) there left
  | follow {links left : Nat} {here there : Place} {step target : Text} {rest : List Text}
      (inside : look root here = some (.directory [])) (named : isName step = true)
      (short : (Utf8.encode step).length ≤ nameLimit)
      (found : look root (here ++ [step]) = some (.link target))
      (onward : Leads root links (if Path.isAbsolute target then [] else here)
        (Path.steps target ++ rest) there left) :
      Leads root (links + 1) here (step :: rest) there left

theorem child?_of_look {root : Entry} {here : Place} {children : List (Text × Entry)} {step : Text}
    {entry : Entry} (inside : root.at? here = some (.directory children))
    (found : look root (here ++ [step]) = some entry) :
    ∃ whole, child? children step = some whole ∧ whole.surface = entry := by
  rw [look, Entry.at?_snoc inside] at found
  exact Option.map_eq_some_iff.mp found

section Step

variable {root : Entry} {follow : Bool} {links : Nat} {here : Place} {children : List (Text × Entry)}
  {step : Text} {rest : List Text}

/-- How a walk goes on behind a link. -/
def behind (root : Entry) (follow : Bool) : (links : Nat) → Place → List Text → Except Errno Target
  | 0 => fun _ _ => .error .tooManyLinks
  | links + 1 => walk root follow links

theorem walk_eq_walkBy : walk root follow links = walkBy root follow (behind root follow links) := by
  cases links <;> rfl

/-- Only in a directory can a step be taken. -/
theorem directory_of_walk {target : Target}
    (walked : walk root follow links here (step :: rest) = .ok target) :
    ∃ children, root.at? here = some (.directory children) := by
  rw [walk_eq_walkBy, walkBy] at walked
  cases inside : root.at? here with
  | none => simp [inside] at walked
  | some entry =>
      cases entry with
      | directory children => exact ⟨children, rfl⟩
      | file content access => simp [inside] at walked
      | link aim => simp [inside] at walked
      | pipe => simp [inside] at walked

theorem walk_nil : walk root follow links here [] =
    match root.at? here with
    | some entry => .ok (.existing here entry)
    | none => .error .noEntry := by
  rewrite [walk_eq_walkBy]
  rfl

theorem walk_arrived {entry : Entry} (found : root.at? here = some entry) :
    walk root follow links here [] = .ok (.existing here entry) := by
  rw [walk_nil, found]

theorem arrived_of_walk {target : Target} (walked : walk root follow links here [] = .ok target) :
    ∃ entry, target = .existing here entry := by
  cases found : root.at? here with
  | none =>
      rw [walk_nil, found] at walked
      cases walked
  | some entry =>
      rw [walk_arrived found] at walked
      cases walked
      exact ⟨entry, rfl⟩

variable (inside : root.at? here = some (.directory children))

include inside

theorem walk_cons : walk root follow links here (step :: rest) =
    if Path.isIdle step then walk root follow links here rest
    else if step == ['.', '.'] then walk root follow links here.dropLast rest
    else if nameLimit < (Utf8.encode step).length then .error .nameTooLong
    else
      match child? children step with
      | none =>
          if rest.all List.isEmpty then .ok (.vacant (here ++ [step]) (!rest.isEmpty))
          else .error .noEntry
      | some entry =>
          if !follow && rest.all List.isEmpty then .ok (.existing (here ++ [step]) entry)
          else
            match entry with
            | .link target =>
                behind root follow links (if Path.isAbsolute target then [] else here)
                  (Path.steps target ++ rest)
            | _ => walk root follow links (here ++ [step]) rest := by
  rewrite [walk_eq_walkBy, walkBy, inside]
  rfl

theorem walk_idle (stays : Path.isIdle step = true) :
    walk root follow links here (step :: rest) = walk root follow links here rest := by
  rw [walk_cons inside, if_pos stays]

theorem walk_up :
    walk root follow links here (['.', '.'] :: rest) = walk root follow links here.dropLast rest := by
  rw [walk_cons inside]
  rfl

variable (named : isName step = true)

include named

theorem walk_tooLong (long : nameLimit < (Utf8.encode step).length) :
    walk root follow links here (step :: rest) = .error .nameTooLong := by
  obtain ⟨notIdle, notUp⟩ := isName_iff.mp named
  simp [walk_cons inside, notIdle, notUp, long]

variable (short : (Utf8.encode step).length ≤ nameLimit)

include short

theorem walk_absent (absent : child? children step = none) :
    walk root follow links here [step] = .ok (.vacant (here ++ [step]) false) := by
  obtain ⟨notIdle, notUp⟩ := isName_iff.mp named
  simp [walk_cons inside, notIdle, notUp, Nat.not_lt.mpr short, absent]

theorem walk_last {entry : Entry} (child : child? children step = some entry) :
    walk root false links here [step] = .ok (.existing (here ++ [step]) entry) := by
  obtain ⟨notIdle, notUp⟩ := isName_iff.mp named
  simp [walk_cons inside, notIdle, notUp, Nat.not_lt.mpr short, child]

variable (goesOn : (!follow && rest.all List.isEmpty) = false)

include goesOn

theorem walk_enter {entry : Entry} (child : child? children step = some entry)
    (noLink : ∀ target, entry ≠ .link target) :
    walk root follow links here (step :: rest) = walk root follow links (here ++ [step]) rest := by
  obtain ⟨notIdle, notUp⟩ := isName_iff.mp named
  cases entry with
  | link target => exact absurd rfl (noLink target)
  | file content access => simp [walk_cons inside, notIdle, notUp, Nat.not_lt.mpr short, child, goesOn]
  | directory entries => simp [walk_cons inside, notIdle, notUp, Nat.not_lt.mpr short, child, goesOn]
  | pipe => simp [walk_cons inside, notIdle, notUp, Nat.not_lt.mpr short, child, goesOn]

theorem walk_link {target : Text} (child : child? children step = some (.link target)) :
    walk root follow (links + 1) here (step :: rest) =
      walk root follow links (if Path.isAbsolute target then [] else here) (Path.steps target ++ rest) := by
  obtain ⟨notIdle, notUp⟩ := isName_iff.mp named
  simp [walk_cons inside, notIdle, notUp, Nat.not_lt.mpr short, child, goesOn, behind]

end Step

/-- Steps that lead to a place are taken, and then the steps after them from there. -/
theorem Leads.walk_append {root : Entry} {links left : Nat} {here there : Place} {steps more : List Text}
    (leads : Leads root links here steps there left) {follow : Bool}
    (onward : follow = true ∨ more.all List.isEmpty = false) :
    walk root follow links here (steps ++ more) = walk root follow left there more := by
  have notEnded : ∀ rest : List Text, (!follow && (rest ++ more).all List.isEmpty) = false := by
    intro rest
    rcases onward with follows | filled
    · simp [follows]
    · rw [List.all_append, filled, Bool.and_false, Bool.and_false]
  induction leads with
  | arrived links here => rfl
  | idle inside stays onward ih =>
      obtain ⟨children, at_⟩ := at?_directory inside
      rw [List.cons_append, walk_idle at_ stays, ih]
  | up inside onward ih =>
      obtain ⟨children, at_⟩ := at?_directory inside
      rw [List.cons_append, walk_up at_, ih]
  | enter inside stepNamed short found noLink onward ih =>
      obtain ⟨children, at_⟩ := at?_directory inside
      obtain ⟨whole, child, same⟩ := child?_of_look at_ found
      have wholeNoLink : ∀ target, whole ≠ .link target := by
        rintro target rfl
        exact noLink target same.symm
      rw [List.cons_append, walk_enter at_ stepNamed short (notEnded _) child wholeNoLink, ih]
  | follow inside stepNamed short found onward ih =>
      obtain ⟨children, at_⟩ := at?_directory inside
      obtain ⟨whole, child, same⟩ := child?_of_look at_ found
      cases whole with
      | link target =>
          cases same
          rw [List.cons_append, walk_link at_ stepNamed short (notEnded _) child, ← List.append_assoc, ih]
      | file content access => simp [Entry.surface] at same
      | directory entries => simp [Entry.surface] at same
      | pipe => simp [Entry.surface] at same

/-- The name after steps that lead to a directory is looked up there. -/
theorem Leads.walk_snoc {root : Entry} {links left : Nat} {here there : Place} {steps : List Text}
    (leads : Leads root links here steps there left) {name : Text} (named : isName name = true)
    (follow : Bool) :
    walk root follow links here (steps ++ [name]) = walk root follow left there [name] := by
  refine leads.walk_append (.inr ?_)
  have notIdle := (isName_iff.mp named).1
  simp only [Path.isIdle, Bool.or_eq_false_iff] at notIdle
  simp [notIdle.1]

theorem leads_of_walkBy {root : Entry} {follow : Bool} {links : Nat} {here : Place} {steps : List Text}
    {name : Text} (named : isName name = true) {onward : Place → List Text → Except Errno Target}
    {target : Target}
    (further : ∀ here more, onward here (more ++ [name]) = .ok target →
      ∃ less there left, links = less + 1 ∧ Leads root less here more there left)
    (walked : walkBy root follow onward here (steps ++ [name]) = .ok target) :
    ∃ there left, Leads root links here steps there left := by
  -- The name is no empty step, so that only empty steps can be left where the walk ends before it.
  have unended : ∀ {more rest : List Text}, more ++ [name] = rest → rest.all List.isEmpty = true → False := by
    intro more rest split ending
    have empty := List.all_eq_true.mp ending name (by rw [← split]; simp)
    have active := (isName_iff.mp named).1
    simp [Path.isIdle, List.isEmpty_iff.mp empty] at active
  generalize whole : steps ++ [name] = path at walked
  fun_induction walkBy root follow onward here path generalizing steps with
  | case1 => simp at whole
  | case2 => simp at whole
  | case3 here step rest children inside stays ih =>
      cases steps with
      | nil => exact ⟨here, links, .arrived links here⟩
      | cons first more =>
          obtain ⟨rfl, onwardPath⟩ := List.cons.inj whole
          obtain ⟨there, left, leads⟩ := ih onwardPath walked
          exact ⟨there, left, .idle (look_of_at? inside) stays leads⟩
  | case4 here step rest children inside active up ih =>
      cases steps with
      | nil => exact ⟨here, links, .arrived links here⟩
      | cons first more =>
          obtain ⟨rfl, onwardPath⟩ := List.cons.inj whole
          obtain ⟨there, left, leads⟩ := ih onwardPath walked
          cases eq_of_beq up
          exact ⟨there, left, .up (look_of_at? inside) leads⟩
  | case6 here step rest children inside active down short absent ending =>
      cases steps with
      | nil => exact ⟨here, links, .arrived links here⟩
      | cons first more =>
          obtain ⟨rfl, onwardPath⟩ := List.cons.inj whole
          exact (unended onwardPath ending).elim
  | case8 here step rest children inside active down short entry found ending =>
      cases steps with
      | nil => exact ⟨here, links, .arrived links here⟩
      | cons first more =>
          obtain ⟨rfl, onwardPath⟩ := List.cons.inj whole
          exact (unended onwardPath (Bool.and_eq_true_iff.mp ending).2).elim
  | case9 here step rest children inside active down short _ aim found =>
      cases steps with
      | nil => exact ⟨here, links, .arrived links here⟩
      | cons first more =>
          obtain ⟨rfl, rfl⟩ := List.cons.inj whole
          rw [List.append_eq, ← List.append_assoc] at walked
          obtain ⟨less, there, left, rfl, leads⟩ := further _ _ walked
          refine ⟨there, left, .follow (look_of_at? inside) ?_ (Nat.not_lt.mp short) ?_ leads⟩
          · simpa [isName] using And.intro active down
          · rw [look, Entry.at?_snoc inside, found]
            rfl
  | case10 here step rest children inside active down short entry found _ noLink ih =>
      cases steps with
      | nil => exact ⟨here, links, .arrived links here⟩
      | cons first more =>
          obtain ⟨rfl, onwardPath⟩ := List.cons.inj whole
          obtain ⟨there, left, leads⟩ := ih onwardPath walked
          have shown : look root (here ++ [first]) = some entry.surface := by
            rw [look, Entry.at?_snoc inside, found]
            rfl
          refine ⟨there, left, .enter (look_of_at? inside) ?_ (Nat.not_lt.mp short) shown ?_ leads⟩
          · simpa [isName] using And.intro active down
          · intro target same
            cases entry <;> simp [Entry.surface] at same
            exact noLink _ rfl
  | _ => contradiction

/-- A walk that gets to a name at its end was led to the directory in which it looks the name up. -/
theorem leads_of_walk {root : Entry} {follow : Bool} {links : Nat} {here : Place} {steps : List Text}
    {name : Text} (named : isName name = true) {target : Target}
    (walked : walk root follow links here (steps ++ [name]) = .ok target) :
    ∃ there left, Leads root links here steps there left := by
  induction links generalizing here steps with
  | zero => exact leads_of_walkBy named (fun _ _ stopped => by cases stopped) walked
  | succ links ih =>
      refine leads_of_walkBy named ?_ walked
      intro here more onward
      obtain ⟨there, left, leads⟩ := ih onward
      exact ⟨links, there, left, rfl, leads⟩

/-- Looking a name up works only in a directory, and only if the name is not too long. -/
theorem walk_name_ok {root : Entry} {follow : Bool} {links : Nat} {there : Place} {name : Text}
    (named : isName name = true) {target : Target}
    (walked : walk root follow links there [name] = .ok target) :
    (∃ children, root.at? there = some (.directory children)) ∧
      (Utf8.encode name).length ≤ nameLimit := by
  obtain ⟨children, inside⟩ := directory_of_walk walked
  refine ⟨⟨children, inside⟩, Nat.not_lt.mp fun long => ?_⟩
  rw [walk_tooLong inside named long] at walked
  contradiction

section Name

variable {root : Entry} {there : Place} {children : List (Text × Entry)} {name : Text}
  (inside : root.at? there = some (.directory children)) (named : isName name = true)
  (short : (Utf8.encode name).length ≤ nameLimit)

include inside named short

theorem walk_name_vacant (absent : root.at? (there ++ [name]) = none) (follow : Bool) (links : Nat) :
    walk root follow links there [name] = .ok (.vacant (there ++ [name]) false) := by
  rw [Entry.at?_snoc inside] at absent
  exact walk_absent inside named short absent

theorem walk_name_existing {entry : Entry} (found : root.at? (there ++ [name]) = some entry)
    {follow : Bool} (ends : follow = true → ∀ target, entry ≠ .link target) (links : Nat) :
    walk root follow links there [name] = .ok (.existing (there ++ [name]) entry) := by
  have child := (Entry.at?_snoc inside name).symm.trans found
  cases follow with
  | false => exact walk_last inside named short child
  | true => rw [walk_enter inside named short rfl child (ends rfl), walk_arrived found]

end Name

theorem walkBy_vacant {root : Entry} {follow asDirectory : Bool} {here place : Place} {steps : List Text}
    {onward : Place → List Text → Except Errno Target}
    (further : ∀ here steps, onward here steps = .ok (.vacant place asDirectory) →
      ∃ parent name children, place = parent ++ [name] ∧
        root.at? parent = some (.directory children) ∧ root.at? place = none)
    (walked : walkBy root follow onward here steps = .ok (.vacant place asDirectory)) :
    ∃ parent name children, place = parent ++ [name] ∧
      root.at? parent = some (.directory children) ∧ root.at? place = none := by
  fun_induction walkBy root follow onward here steps with
  | case6 here step rest children inside active down short absent ending =>
      cases walked
      exact ⟨here, step, children, rfl, inside, by rw [Entry.at?_snoc inside, absent]⟩
  | case3 _ _ _ _ _ _ ih => exact ih walked
  | case4 _ _ _ _ _ _ _ ih => exact ih walked
  | case9 => exact further _ _ walked
  | case10 _ _ _ _ _ _ _ _ _ _ _ _ ih => exact ih walked
  | _ => cases walked

/-- A place that a walk finds vacant is in a directory and holds nothing. -/
theorem walk_vacant {root : Entry} {follow asDirectory : Bool} {links : Nat} {here place : Place}
    {steps : List Text} (walked : walk root follow links here steps = .ok (.vacant place asDirectory)) :
    ∃ parent name children, place = parent ++ [name] ∧
      root.at? parent = some (.directory children) ∧ root.at? place = none := by
  induction links generalizing here steps with
  | zero => exact walkBy_vacant (fun _ _ stopped => by cases stopped) walked
  | succ links ih => exact walkBy_vacant (fun _ _ onward => ih onward) walked

theorem walkBy_existing {root entry : Entry} {follow : Bool} {here place : Place} {steps : List Text}
    {onward : Place → List Text → Except Errno Target}
    (further : ∀ here steps, onward here steps = .ok (.existing place entry) → root.at? place = some entry)
    (walked : walkBy root follow onward here steps = .ok (.existing place entry)) :
    root.at? place = some entry := by
  fun_induction walkBy root follow onward here steps with
  | case1 here entry inside =>
      cases walked
      exact inside
  | case8 here step rest children inside active down short entry found ending =>
      cases walked
      rw [Entry.at?_snoc inside, found]
  | case3 _ _ _ _ _ _ ih => exact ih walked
  | case4 _ _ _ _ _ _ _ ih => exact ih walked
  | case9 => exact further _ _ walked
  | case10 _ _ _ _ _ _ _ _ _ _ _ _ ih => exact ih walked
  | _ => cases walked

theorem walk_existing {root entry : Entry} {follow : Bool} {links : Nat} {here place : Place}
    {steps : List Text} (walked : walk root follow links here steps = .ok (.existing place entry)) :
    root.at? place = some entry := by
  induction links generalizing here steps with
  | zero => exact walkBy_existing (fun _ _ stopped => by cases stopped) walked
  | succ links ih => exact walkBy_existing (fun _ _ onward => ih onward) walked

end ScriptDocs.FileTree
