import ScriptDocs.Value.Basic

namespace ScriptDocs.Value

/-!
The order in which a set shows its members. A set of numbers keeps them in a table whose size is a power
of two: the residue of a number says where it is looked for first, and a number that finds its slot taken
goes on along a fixed course. Members are shown slot by slot. A set with other members shows all of them
in the order in which they came.
-/

/-- The modulus of residues, a prime. -/
def residueModulus : Nat := Nat.pow 2 61 - 1

/-- The bits of a residue with a sign, in 64 places; minus one has those of minus two. -/
def residueBits (negative : Bool) (magnitude : Nat) : Nat :=
  if negative then Nat.pow 2 64 - (if magnitude == 1 then 2 else magnitude) else magnitude

/-- The residue of a ratio whose denominator is a power of two: it is multiplied by the inverse of that
power, which is a power of two again, since 2^61 leaves one. -/
def ratioResidue (significand : Nat) (exponent : Int) : Nat :=
  significand * Nat.pow 2 (exponent % 61).toNat % residueModulus

/-- The residue of a number; what is not a number has none. -/
def residue? : Value → Option Nat
  | .atom content =>
      match content.number? with
      | some (.inl n) => some (signed (n < 0) (n.natAbs % residueModulus))
      | some (.inr (.finite negative significand exponent)) =>
          some (signed negative (ratioResidue significand exponent))
      | some (.inr (.infinite negative)) => some (signed negative 314159)
      | some (.inr .notANumber) => none
      | none => none
  | _ => none
where
  /-- Zero has no sign. -/
  signed (negative : Bool) (magnitude : Nat) : Nat :=
    if magnitude == 0 then 0 else residueBits negative magnitude

/-- The least power of two above a number, from a power of two on. `fuel` counts the doublings. -/
def powerAbove (number : Nat) : Nat → Nat → Nat
  | 0, power => power
  | fuel + 1, power => if number < power then power else powerAbove number fuel (2 * power)

def tableSize (count : Nat) : Nat :=
  if count ≤ 4 then 8 else powerAbove (2 * count) count 8

/-- How many slots after the first are tried before the course leaps. -/
def neighbours : Nat := 9

/-- The first free slot of those that a stop of the course gives: the slot itself and its neighbours, if
all of them are inside the table. -/
def freeNear? (table : Array (Option Value)) (slot : Nat) : Option Nat :=
  let slots :=
    if slot + neighbours < table.size then List.range' slot (neighbours + 1) else [slot]
  slots.find? (fun place => (table.getD place none).isNone)

/-- The free slot for a residue. At each leap the residue loses five bits; `fuel` bounds the leaps. -/
def freeSlot (table : Array (Option Value)) : Nat → Nat → Nat → Nat
  | 0, _, slot => slot
  | fuel + 1, bits, slot =>
      match freeNear? table slot with
      | some place => place
      | none =>
          let bits := bits / 32
          freeSlot table fuel bits ((5 * slot + 1 + bits) % table.size)

/-- The table with a member put in. A course visits every slot once its residue is used up, so that
thirteen leaps and one for each slot suffice. -/
def place (table : Array (Option Value)) (member : Value × Nat) : Array (Option Value) :=
  let slot := freeSlot table (table.size + 13) member.2 (member.2 % table.size)
  table.setIfInBounds slot (some member.1)

/-- Members in the order in which a set shows them. -/
def arranged (members : List Value) : List Value :=
  match members.mapM (fun member => (residue? member).map (member, ·)) with
  | none => members
  | some placed =>
      let table := placed.foldl place (Array.replicate (tableSize members.length) none)
      table.toList.filterMap id

end ScriptDocs.Value
