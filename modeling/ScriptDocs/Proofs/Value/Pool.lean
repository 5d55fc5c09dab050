import ScriptDocs.Value.Literal
import ScriptDocs.Value.Pool

/-!
Showing what a pool holds. An item can be shown if no integer in it is overlong and its containers are
not too deep inside one another. A tree that ends at a container does not show what is in there, and it
is the whole tree of an item that does not hold the container.
-/

namespace ScriptDocs

/-! ### Lists of options -/

theorem mapM_exists {α β : Type} {f : α → Option β} {good : β → Prop} {items : List α}
    (each : ∀ item ∈ items, ∃ made, f item = some made ∧ good made) :
    ∃ all, items.mapM f = some all ∧ ∀ made ∈ all, good made := by
  induction items with
  | nil => exact ⟨[], rfl, by simp⟩
  | cons first rest ih =>
      obtain ⟨made, madeFirst, goodFirst⟩ := each first (by simp)
      obtain ⟨all, madeRest, goodRest⟩ := ih (fun item member => each item (by simp [member]))
      refine ⟨made :: all, by simp [List.mapM_cons, madeFirst, madeRest], ?_⟩
      intro other member
      rcases List.mem_cons.mp member with rfl | later
      · exact goodFirst
      · exact goodRest other later

theorem mapM_member {α β : Type} {f : α → Option β} {items : List α} {all : List β}
    (made : items.mapM f = some all) : ∀ one ∈ all, ∃ item ∈ items, f item = some one := by
  induction items generalizing all with
  | nil =>
      cases made
      simp
  | cons first rest ih =>
      rw [List.mapM_cons] at made
      cases madeFirst : f first with
      | none => simp [madeFirst] at made
      | some head =>
          cases madeRest : rest.mapM f with
          | none => simp [madeFirst, madeRest] at made
          | some others =>
              obtain rfl : head :: others = all := by simpa [madeFirst, madeRest] using made
              intro one member
              rcases List.mem_cons.mp member with rfl | later
              · exact ⟨first, by simp, madeFirst⟩
              · obtain ⟨item, inside, madeOne⟩ := ih madeRest one later
                exact ⟨item, by simp [inside], madeOne⟩

theorem mapM_agree {α β : Type} {left right : α → Option β} {items : List α}
    (same : ∀ item ∈ items, left item = right item) : items.mapM left = items.mapM right := by
  induction items with
  | nil => rfl
  | cons first rest ih =>
      rw [List.mapM_cons, List.mapM_cons, same first (by simp),
        ih (fun item member => same item (by simp [member]))]

theorem mapM_follow {α β γ : Type} {make : α → Option β} {look : β → Option γ} {read : α → Option γ}
    (follows : ∀ item made, make item = some made → look made = read item) {items : List α}
    {all : List β} (made : items.mapM make = some all) : all.mapM look = items.mapM read := by
  induction items generalizing all with
  | nil =>
      cases made
      rfl
  | cons first rest ih =>
      rw [List.mapM_cons] at made
      cases madeFirst : make first with
      | none => simp [madeFirst] at made
      | some one =>
          cases madeRest : rest.mapM make with
          | none => simp [madeFirst, madeRest] at made
          | some others =>
              obtain rfl : one :: others = all := by simpa [madeFirst, madeRest] using made
              rw [List.mapM_cons, List.mapM_cons, follows first one madeFirst, ih madeRest]

/-! ### Trees -/

namespace Value

theorem anyOverlong_eq_false {values : List Value} (short : ∀ value ∈ values, value.isOverlong = false) :
    anyOverlong values = false := by
  induction values with
  | nil => rfl
  | cons first rest ih =>
      rw [anyOverlong, short first (by simp), ih (fun value member => short value (by simp [member]))]
      rfl

theorem anyEntryOverlong_eq_false {entries : List (Value × Value)}
    (short : ∀ entry ∈ entries, entry.1.isOverlong = false ∧ entry.2.isOverlong = false) :
    anyEntryOverlong entries = false := by
  induction entries with
  | nil => rfl
  | cons first rest ih =>
      obtain ⟨key, value⟩ := first
      obtain ⟨keyShort, valueShort⟩ := short (key, value) (by simp)
      rw [anyEntryOverlong, keyShort, valueShort, ih (fun entry member => short entry (by simp [member]))]
      rfl

theorem place_subset {table : Array (Option Value)} {member : Value × Nat} {value : Value}
    (found : some value ∈ (place table member).toList) : some value ∈ table.toList ∨ value = member.1 := by
  unfold place at found
  rw [Array.toList_setIfInBounds] at found
  rcases List.mem_or_eq_of_mem_set found with old | new
  · exact .inl old
  · exact .inr (Option.some.inj new)

theorem arranged_subset (members : List Value) : arranged members ⊆ members := by
  unfold arranged
  split
  · exact fun _ member => member
  · rename_i placed residues
    have among : ∀ one ∈ placed, one.1 ∈ members := by
      intro one member
      obtain ⟨whole, inside, made⟩ := mapM_member residues one member
      obtain ⟨_, _, rfl⟩ := Option.map_eq_some_iff.mp made
      exact inside
    have kept : ∀ (later : List (Value × Nat)) (table : Array (Option Value)),
        (∀ one ∈ later, one.1 ∈ members) → (∀ value, some value ∈ table.toList → value ∈ members) →
        ∀ value, some value ∈ (later.foldl place table).toList → value ∈ members := by
      intro later
      induction later with
      | nil => exact fun table _ inside => inside
      | cons one rest ih =>
          intro table fits inside
          refine ih _ (fun other member => fits other (by simp [member])) ?_
          intro value found
          rcases place_subset found with old | rfl
          · exact inside value old
          · exact fits one (by simp)
    intro value member
    obtain ⟨slot, filled, rfl⟩ := List.mem_filterMap.mp member
    exact kept placed _ among (by simp) value filled

/-- Whether a value is an atom. -/
def isAtom : Value → Bool
  | .atom _ => true
  | _ => false

/-- The text that a value is. -/
def text? : Value → Option Text
  | .atom (.text characters) => some characters
  | _ => none

/-- The texts of a list of texts. -/
def texts? : Value → Option (List Text)
  | .list items => items.mapM text?
  | _ => none

/-- The natural number that a value is; a truth value is none. -/
def count? : Value → Option Nat
  | .atom (.int (.ofNat count)) => some count
  | _ => none

end Value

/-- The text that an item is. -/
def Item.text? : Item → Option Text
  | .atom (.text characters) => some characters
  | _ => none

/-- The natural number that an item is. -/
def Item.count? : Item → Option Nat
  | .atom (.int (.ofNat count)) => some count
  | _ => none

namespace Container

/-- All that stands in a container, keys included. -/
def items : Container → List Item
  | .list items => items
  | .pairs items => items.flatMap (fun entry => [entry.1, entry.2])
  | .mapping entries => entries.flatMap (fun entry => [entry.1, entry.2])
  | .set members => members

/-- The trees of an entry. -/
def pairBy? (inner : Item → Option Value) (entry : Item × Item) : Option (Value × Value) := do
  let left ← inner entry.1
  let right ← inner entry.2
  return (left, right)

/-- The tree of a container from those of what stands in it. -/
def treeBy? (inner : Item → Option Value) : Container → Option Value
  | .list items => (items.mapM inner).map .list
  | .pairs items =>
      (items.mapM (pairBy? inner)).map
        (fun pairs => .list (pairs.map (fun (left, right) => .pair left right)))
  | .mapping entries => (entries.mapM (pairBy? inner)).map .mapping
  | .set members => (members.mapM inner).map (fun members => .set (Value.arranged members))

theorem pairBy?_agree {left right : Item → Option Value} {entries : List (Item × Item)}
    (same : ∀ item ∈ entries.flatMap (fun entry => [entry.1, entry.2]), left item = right item) :
    ∀ entry ∈ entries, pairBy? left entry = pairBy? right entry := by
  intro entry member
  have key := same entry.1 (List.mem_flatMap.mpr ⟨entry, member, by simp⟩)
  have value := same entry.2 (List.mem_flatMap.mpr ⟨entry, member, by simp⟩)
  rw [pairBy?, pairBy?, key, value]

theorem treeBy?_agree {left right : Item → Option Value} {container : Container}
    (same : ∀ item ∈ container.items, left item = right item) :
    container.treeBy? left = container.treeBy? right := by
  cases container with
  | list parts =>
      rw [items] at same
      rw [treeBy?, treeBy?, mapM_agree same]
  | set members =>
      rw [items] at same
      rw [treeBy?, treeBy?, mapM_agree same]
  | pairs parts => rw [treeBy?, treeBy?, mapM_agree (pairBy?_agree same)]
  | mapping entries => rw [treeBy?, treeBy?, mapM_agree (pairBy?_agree same)]

theorem pairBy?_exists {inner : Item → Option Value} {entries : List (Item × Item)}
    (each : ∀ item ∈ entries.flatMap (fun entry => [entry.1, entry.2]),
      ∃ value, inner item = some value ∧ value.isOverlong = false) :
    ∃ all, entries.mapM (pairBy? inner) = some all ∧
      ∀ entry ∈ all, entry.1.isOverlong = false ∧ entry.2.isOverlong = false := by
  apply mapM_exists
  intro entry member
  obtain ⟨left, madeLeft, leftShort⟩ := each entry.1 (List.mem_flatMap.mpr ⟨entry, member, by simp⟩)
  obtain ⟨right, madeRight, rightShort⟩ := each entry.2 (List.mem_flatMap.mpr ⟨entry, member, by simp⟩)
  exact ⟨(left, right), by simp [pairBy?, madeLeft, madeRight], leftShort, rightShort⟩

theorem treeBy?_exists {inner : Item → Option Value} {container : Container}
    (each : ∀ item ∈ container.items, ∃ value, inner item = some value ∧ value.isOverlong = false) :
    ∃ value, container.treeBy? inner = some value ∧ value.isOverlong = false := by
  cases container with
  | list parts =>
      rw [items] at each
      obtain ⟨all, made, short⟩ := mapM_exists each
      refine ⟨.list all, by rw [treeBy?, made, Option.map_some], ?_⟩
      rw [Value.isOverlong, Value.anyOverlong_eq_false short]
  | set members =>
      rw [items] at each
      obtain ⟨all, made, short⟩ := mapM_exists each
      refine ⟨.set (Value.arranged all), by rw [treeBy?, made, Option.map_some], ?_⟩
      rw [Value.isOverlong, Value.anyOverlong_eq_false]
      exact fun value member => short value (Value.arranged_subset all member)
  | pairs parts =>
      obtain ⟨all, made, short⟩ := pairBy?_exists each
      refine ⟨_, by rw [treeBy?, made, Option.map_some], ?_⟩
      rw [Value.isOverlong, Value.anyOverlong_eq_false]
      intro value member
      obtain ⟨entry, inside, rfl⟩ := List.mem_map.mp member
      obtain ⟨leftShort, rightShort⟩ := short entry inside
      rw [Value.isOverlong, leftShort, rightShort]
      rfl
  | mapping entries =>
      obtain ⟨all, made, short⟩ := pairBy?_exists each
      refine ⟨.mapping all, by rw [treeBy?, made, Option.map_some], ?_⟩
      rw [Value.isOverlong, Value.anyEntryOverlong_eq_false short]

theorem treeBy?_isAtom {inner : Item → Option Value} {container : Container} {value : Value}
    (made : container.treeBy? inner = some value) : value.isAtom = false := by
  cases container <;>
    · obtain ⟨_, _, rfl⟩ := Option.map_eq_some_iff.mp made
      rfl

end Container

namespace Pool

theorem treeIn?_container (pool : Pool) (levels : Nat) (path : List Nat) (number : Nat) :
    pool.treeIn? (levels + 1) path (.container number) =
      if path.contains number then some (.enclosing (pool.get number).isMapping)
      else (pool.get number).treeBy? (pool.treeIn? levels (number :: path)) := by
  rw [treeIn?]
  cases pool.get number <;> rfl

/-- An item inside the containers of `path` that can be shown. -/
def ShowsIn (pool : Pool) : Nat → List Nat → Item → Prop
  | _, _, .atom content => content.isOverlong = false
  | _, _, .unlike _ => True
  | 0, _, .container _ => False
  | levels + 1, path, .container number =>
      number ∈ path ∨ ∀ item ∈ (pool.get number).items, ShowsIn pool levels (number :: path) item

/-- An item that can be shown. -/
def Shows (pool : Pool) (item : Item) : Prop :=
  pool.ShowsIn levelLimit [] item

theorem ShowsIn.tree {pool : Pool} {levels : Nat} {path : List Nat} {item : Item}
    (shows : pool.ShowsIn levels path item) :
    ∃ value, pool.treeIn? levels path item = some value ∧ value.isOverlong = false := by
  induction levels generalizing path item with
  | zero =>
      cases item with
      | atom content => exact ⟨.atom content, by rw [treeIn?], shows⟩
      | unlike mark => exact ⟨.atom (.real .notANumber), by rw [treeIn?], rfl⟩
      | container number => exact absurd shows id
  | succ levels ih =>
      cases item with
      | atom content => exact ⟨.atom content, by rw [treeIn?], shows⟩
      | unlike mark => exact ⟨.atom (.real .notANumber), by rw [treeIn?], rfl⟩
      | container number =>
          rw [treeIn?_container]
          by_cases enclosed : number ∈ path
          · exact ⟨_, if_pos (by simpa using enclosed), rfl⟩
          · have inner := shows.resolve_left enclosed
            rw [if_neg (by simpa using enclosed)]
            exact Container.treeBy?_exists (fun item member => ih (inner item member))

/-- A pool whose containers hold nothing new but short atoms shows what was shown before. -/
theorem ShowsIn.mono {old new : Pool}
    (grown : ∀ number, ∀ item ∈ (new.get number).items, item ∈ (old.get number).items ∨
      ∃ content, item = .atom content ∧ content.isOverlong = false)
    {levels : Nat} {path : List Nat} {item : Item} (shows : old.ShowsIn levels path item) :
    new.ShowsIn levels path item := by
  induction levels generalizing path item with
  | zero => cases item <;> exact shows
  | succ levels ih =>
      cases item with
      | atom content => exact shows
      | unlike mark => exact shows
      | container number =>
          rcases shows with enclosed | inner
          · exact .inl enclosed
          · right
            intro item member
            rcases grown number item member with before | ⟨content, rfl, short⟩
            · exact ih (inner item before)
            · cases levels <;> exact short

/-- What is shown inside some containers is shown inside more of them. -/
theorem ShowsIn.deeper {pool : Pool} {levels : Nat} {path longer : List Nat} {item : Item}
    (more : path ⊆ longer) (shows : pool.ShowsIn levels path item) : pool.ShowsIn levels longer item := by
  induction levels generalizing path longer item with
  | zero => cases item <;> exact shows
  | succ levels ih =>
      cases item with
      | atom content => exact shows
      | unlike mark => exact shows
      | container number =>
          rcases shows with enclosed | inner
          · exact .inl (more enclosed)
          · exact .inr fun item member => ih (List.cons_subset_cons number more) (inner item member)

/-- An item that a container stands in. -/
inductive Holds (pool : Pool) (number : Nat) : Item → Prop
  | here : Holds pool number (.container number)
  | inside {outer : Nat} {item : Item} (member : item ∈ (pool.get outer).items)
      (deeper : Holds pool number item) : Holds pool number (.container outer)

/-- A container that does not stand in an item makes no difference around it. -/
theorem treeIn?_apart {pool : Pool} {number : Nat} {item : Item} (apart : ¬ pool.Holds number item)
    {levels : Nat} {path others : List Nat} (same : ∀ other, other ≠ number → (other ∈ path ↔ other ∈ others)) :
    pool.treeIn? levels path item = pool.treeIn? levels others item := by
  induction levels generalizing path others item with
  | zero => cases item <;> rw [treeIn?, treeIn?]
  | succ levels ih =>
      cases item with
      | atom content => rw [treeIn?, treeIn?]
      | unlike mark => rw [treeIn?, treeIn?]
      | container outer =>
          have other : outer ≠ number := fun same => apart (same ▸ .here)
          have enclosed : path.contains outer = others.contains outer := by
            rw [Bool.eq_iff_iff, List.contains_iff_mem, List.contains_iff_mem, same outer other]
          have longer : ∀ further, further ≠ number → (further ∈ outer :: path ↔ further ∈ outer :: others) := by
            intro further different
            rw [List.mem_cons, List.mem_cons, same further different]
          have inner : (pool.get outer).treeBy? (pool.treeIn? levels (outer :: path)) =
              (pool.get outer).treeBy? (pool.treeIn? levels (outer :: others)) :=
            Container.treeBy?_agree fun item member => ih (fun holds => apart (.inside member holds)) longer
          rw [treeIn?_container, treeIn?_container, enclosed, inner]

/-- Pools that differ in one container only. -/
def AlikeOff (number : Nat) (left right : Pool) : Prop :=
  ∀ other, other ≠ number → left.get other = right.get other

theorem AlikeOff.holds {number : Nat} {left right : Pool} (alike : AlikeOff number left right) {item : Item}
    (holds : right.Holds number item) : left.Holds number item := by
  induction holds with
  | here => exact .here
  | @inside outer item member _ ih =>
      by_cases same : outer = number
      · exact same ▸ .here
      · exact .inside (alike outer same ▸ member) ih

/-- A tree that ends at a mapping does not show what is in there. -/
theorem treeIn?_alikeOff {number : Nat} {left right : Pool} (alike : AlikeOff number left right)
    (kind : (right.get number).isMapping = (left.get number).isMapping) {levels : Nat} {path : List Nat}
    (enclosed : number ∈ path) (item : Item) :
    right.treeIn? levels path item = left.treeIn? levels path item := by
  induction levels generalizing path item with
  | zero => cases item <;> rw [treeIn?, treeIn?]
  | succ levels ih =>
      cases item with
      | atom content => rw [treeIn?, treeIn?]
      | unlike mark => rw [treeIn?, treeIn?]
      | container outer =>
          rw [treeIn?_container, treeIn?_container]
          by_cases same : outer = number
          · have ends : path.contains outer = true := List.contains_iff_mem.mpr (same ▸ enclosed)
            rw [ends, if_pos rfl, if_pos rfl, same, kind]
          · rw [← alike outer same]
            rw [Container.treeBy?_agree fun item _ => ih (List.mem_cons_of_mem outer enclosed) item]

theorem isAtom_of_container {pool : Pool} {levels : Nat} {path : List Nat} {number : Nat} {value : Value}
    (shown : pool.treeIn? levels path (.container number) = some value) : value.isAtom = false := by
  cases levels with
  | zero => simp [treeIn?] at shown
  | succ levels =>
      rw [treeIn?_container] at shown
      split at shown
      · cases shown
        rfl
      · exact Container.treeBy?_isAtom shown

theorem treeIn?_text {pool : Pool} {levels : Nat} {path : List Nat} {item : Item} {value : Value}
    (shown : pool.treeIn? levels path item = some value) : value.text? = item.text? := by
  cases item with
  | atom content =>
      rw [treeIn?] at shown
      cases shown
      cases content <;> rfl
  | unlike mark =>
      rw [treeIn?] at shown
      cases shown
      rfl
  | container number =>
      have compound := isAtom_of_container shown
      cases value with
      | atom content => contradiction
      | list items => rfl
      | pair left right => rfl
      | mapping entries => rfl
      | set members => rfl
      | enclosing isMapping => rfl

theorem treeIn?_eq_text_iff {pool : Pool} {levels : Nat} {path : List Nat} {item : Item} {characters : Text} :
    pool.treeIn? levels path item = some (.atom (.text characters)) ↔ item = .text characters := by
  constructor
  · intro shown
    have named : item.text? = some characters := (treeIn?_text shown).symm
    unfold Item.text? at named
    split at named
    · cases named
      rfl
    · contradiction
  · rintro rfl
    rw [Item.text, treeIn?]

theorem treeIn?_count {pool : Pool} {levels : Nat} {path : List Nat} {item : Item} {value : Value}
    (shown : pool.treeIn? levels path item = some value) : value.count? = item.count? := by
  cases item with
  | atom content =>
      rw [treeIn?] at shown
      cases shown
      cases content with
      | int n => cases n <;> rfl
      | _ => rfl
  | unlike mark =>
      rw [treeIn?] at shown
      cases shown
      rfl
  | container number =>
      have compound := isAtom_of_container shown
      cases value <;> first | rfl | contradiction

theorem texts?_treeBy {pool : Pool} {number : Nat} {inner : Item → Option Value} {value : Value}
    (follows : ∀ item one, inner item = some one → one.text? = item.text?)
    (shown : (pool.get number).treeBy? inner = some value) : pool.texts? (.container number) = value.texts? := by
  rw [texts?]
  cases held : pool.get number with
  | list items =>
      rw [held, Container.treeBy?] at shown
      obtain ⟨all, made, rfl⟩ := Option.map_eq_some_iff.mp shown
      exact (mapM_follow follows made).symm
  | pairs items =>
      rw [held, Container.treeBy?] at shown
      obtain ⟨all, made, rfl⟩ := Option.map_eq_some_iff.mp shown
      cases items with
      | nil =>
          cases made
          rfl
      | cons first rest =>
          rw [List.mapM_cons] at made
          obtain ⟨one, _, tail⟩ := Option.bind_eq_some_iff.mp made
          obtain ⟨others, _, whole⟩ := Option.bind_eq_some_iff.mp tail
          cases whole
          simp [Value.texts?, Value.text?, List.mapM_cons]
  | mapping entries =>
      rw [held, Container.treeBy?] at shown
      obtain ⟨all, made, rfl⟩ := Option.map_eq_some_iff.mp shown
      rfl
  | set members =>
      rw [held, Container.treeBy?] at shown
      obtain ⟨all, made, rfl⟩ := Option.map_eq_some_iff.mp shown
      rfl

theorem texts?_mapping {pool : Pool} {number : Nat} (mapping : (pool.get number).isMapping = true) :
    pool.texts? (.container number) = none := by
  rw [texts?]
  cases held : pool.get number with
  | mapping entries => rfl
  | list items => simp [held, Container.isMapping] at mapping
  | pairs items => simp [held, Container.isMapping] at mapping
  | set members => simp [held, Container.isMapping] at mapping

theorem texts?_eq_tree {pool : Pool} {levels : Nat} {path : List Nat} {item : Item} {value : Value}
    (mappings : ∀ outer ∈ path, (pool.get outer).isMapping = true)
    (shown : pool.treeIn? levels path item = some value) : pool.texts? item = value.texts? := by
  cases item with
  | atom content =>
      rw [treeIn?] at shown
      cases shown
      rfl
  | unlike mark =>
      rw [treeIn?] at shown
      cases shown
      rfl
  | container number =>
      cases levels with
      | zero => simp [treeIn?] at shown
      | succ levels =>
          rw [treeIn?_container] at shown
          split at shown
          · rename_i enclosed
            cases shown
            exact texts?_mapping (mappings number (List.contains_iff_mem.mp enclosed))
          · exact texts?_treeBy (fun item one => treeIn?_text) shown

end Pool

end ScriptDocs
