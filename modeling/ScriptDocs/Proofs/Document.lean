import ScriptDocs.Document.Json
import ScriptDocs.Proofs.Json.Nesting

namespace ScriptDocs

/-!
Documents as JSON are read back as they were, and no two documents have the same fields. Nothing of a
document is lost in its fields; only its line numbers could have too many digits, and it is never deep.
-/

/-! ### Exact values -/

/-- A document whose line numbers are within the limit of digits. -/
structure Document.Numbered (document : Document) : Prop where
  constants : ∀ entity ∈ document.constants, entity.line < 10 ^ Json.digitLimit
  vars : ∀ entity ∈ document.vars, entity.line < 10 ^ Json.digitLimit
  methods : ∀ method ∈ document.methods, method.line < 10 ^ Json.digitLimit
  echoes : ∀ method ∈ document.methods, ∀ echo ∈ method.resultEcho, echo.line < 10 ^ Json.digitLimit

theorem Json.digit_short {digit : Nat} (small : digit < 10) : digit < 10 ^ Json.digitLimit :=
  Nat.lt_of_lt_of_le small (Nat.pow_le_pow_right (show 0 < 10 by decide) (show 1 ≤ Json.digitLimit by decide))

theorem Json.exact_natCast {n : Nat} (short : n < 10 ^ Json.digitLimit) : Json.Exact (.int n) :=
  .int short

theorem Json.exact_ofLines (lines : List Text) : Json.Exact (Json.ofLines lines) := by
  apply Json.Exact.array
  intro item member
  obtain ⟨line, _, rfl⟩ := List.mem_map.mp member
  exact .string line

theorem Json.exact_ofOption {α : Type} {write : α → Json.Value} {value : Option α}
    (exact : ∀ a ∈ value, Json.Exact (write a)) : Json.Exact (Json.ofOption write value) := by
  cases value with
  | none => exact .null
  | some a => exact exact a rfl

theorem Json.exact_map {α : Type} {write : α → Json.Value} {values : List α}
    (exact : ∀ a ∈ values, Json.Exact (write a)) : Json.Exact (.array (values.map write)) := by
  apply Json.Exact.array
  intro item member
  obtain ⟨a, within, rfl⟩ := List.mem_map.mp member
  exact exact a within

theorem ValueType.exact_code (type : ValueType) : Json.Exact (.int type.code) := by
  have small : type.code < 10 := by cases type <;> decide
  exact Json.exact_natCast (Json.digit_short small)

theorem Argument.exact_toJson (argument : Argument) : Json.Exact argument.toJson := by
  refine .object (show ["index".toList, "desc".toList, "type".toList, "is_optional".toList,
    "is_wildcard".toList].Nodup by decide) ?_
  simp only [List.forall_mem_cons, List.not_mem_nil, false_imp_iff, implies_true, and_true]
  exact ⟨.string _, .string _, argument.type.exact_code, .bool _, .bool _⟩

theorem Variable.exact_toJson {entity : Variable} (short : entity.line < 10 ^ Json.digitLimit) :
    Json.Exact entity.toJson := by
  refine .object (show ["name".toList, "desc".toList, "type".toList, "value".toList,
    "line".toList].Nodup by decide) ?_
  simp only [List.forall_mem_cons, List.not_mem_nil, false_imp_iff, implies_true, and_true]
  exact ⟨.string _, Json.exact_ofLines _, entity.type.exact_code, .string _, Json.exact_natCast short⟩

theorem Method.exact_toJson {method : Method} (short : method.line < 10 ^ Json.digitLimit)
    (echo : ∀ echo ∈ method.resultEcho, echo.line < 10 ^ Json.digitLimit) : Json.Exact method.toJson := by
  refine .object (show ["name".toList, "desc".toList, "arguments".toList, "result_code".toList,
    "result_echo".toList, "example".toList, "line".toList].Nodup by decide) ?_
  simp only [List.forall_mem_cons, List.not_mem_nil, false_imp_iff, implies_true, and_true]
  refine ⟨.string _, Json.exact_ofLines _, Json.exact_map fun argument _ => argument.exact_toJson, .bool _,
    Json.exact_ofOption fun value member => Variable.exact_toJson (echo value member),
    Json.exact_ofOption fun lines _ => Json.exact_ofLines lines, Json.exact_natCast short⟩

theorem Document.Numbered.exact_toFields {document : Document} (numbered : document.Numbered) :
    Json.Exact (.object document.toFields) := by
  refine .object (show ["title".toList, "about".toList, "constants".toList, "variables".toList,
    "methods".toList].Nodup by decide) ?_
  simp only [Document.toFields, List.forall_mem_cons, List.not_mem_nil, false_imp_iff, implies_true,
    and_true]
  refine ⟨.string _, Json.exact_ofOption fun lines _ => Json.exact_ofLines lines, ?_, ?_, ?_⟩
  · exact Json.exact_map fun entity member => Variable.exact_toJson (numbered.constants entity member)
  · exact Json.exact_map fun entity member => Variable.exact_toJson (numbered.vars entity member)
  · exact Json.exact_map fun method member =>
      Method.exact_toJson (numbered.methods method member) (numbered.echoes method member)

/-! ### Depth -/

theorem Json.depth_map_le {α : Type} {write : α → Json.Value} {n : Nat} (within : ∀ a, (write a).depth ≤ n)
    (values : List α) : (Json.Value.array (values.map write)).depth ≤ n + 1 := by
  refine Json.depth_array_le_iff.mpr ⟨n, rfl, ?_⟩
  intro item member
  obtain ⟨a, _, rfl⟩ := List.mem_map.mp member
  exact within a

theorem Json.depth_ofLines_le (lines : List Text) : (Json.ofLines lines).depth ≤ 1 :=
  Json.depth_map_le (fun _ => Nat.le_refl 0) lines

theorem Json.depth_ofOption_le {α : Type} {write : α → Json.Value} {n : Nat}
    (within : ∀ a, (write a).depth ≤ n) (value : Option α) : (Json.ofOption write value).depth ≤ n := by
  cases value with
  | none => exact Nat.zero_le n
  | some a => exact within a

theorem Argument.depth_toJson_le (argument : Argument) : argument.toJson.depth ≤ 1 := by
  refine Json.depth_object_le_iff.mpr ⟨0, rfl, ?_⟩
  simp [Json.Value.depth]

theorem Variable.depth_toJson_le (entity : Variable) : entity.toJson.depth ≤ 2 := by
  refine Json.depth_object_le_iff.mpr ⟨1, rfl, ?_⟩
  simp [Json.Value.depth, Json.depth_ofLines_le]

theorem Method.depth_toJson_le (method : Method) : method.toJson.depth ≤ 3 := by
  have desc := Json.depth_ofLines_le method.desc
  have arguments := Json.depth_map_le Argument.depth_toJson_le method.arguments
  have echo := Json.depth_ofOption_le Variable.depth_toJson_le method.resultEcho
  have shown := Json.depth_ofOption_le Json.depth_ofLines_le method.exampleLines
  refine Json.depth_object_le_iff.mpr ⟨2, rfl, ?_⟩
  simp only [List.forall_mem_cons, List.not_mem_nil, false_imp_iff, implies_true, and_true]
  refine ⟨Nat.zero_le 2, ?_, arguments, Nat.zero_le 2, echo, ?_, Nat.zero_le 2⟩ <;> omega

theorem Document.depth_toFields_le (document : Document) :
    (Json.Value.object document.toFields).depth ≤ 5 := by
  have about := Json.depth_ofOption_le Json.depth_ofLines_le document.about
  have constants := Json.depth_map_le Variable.depth_toJson_le document.constants
  have vars := Json.depth_map_le Variable.depth_toJson_le document.vars
  have methods := Json.depth_map_le Method.depth_toJson_le document.methods
  refine Json.depth_object_le_iff.mpr ⟨4, rfl, ?_⟩
  simp only [Document.toFields, List.forall_mem_cons, List.not_mem_nil, false_imp_iff, implies_true,
    and_true]
  refine ⟨Nat.zero_le 4, ?_, ?_, ?_, methods⟩ <;> omega

/-! ### Distinct fields -/

theorem Json.map_injective {α : Type} {write : α → Json.Value}
    (injective : ∀ a b, write a = write b → a = b) {first second : List α}
    (same : Json.Value.array (first.map write) = .array (second.map write)) : first = second :=
  List.map_inj_right injective |>.mp (Json.Value.array.inj same)

theorem Json.ofLines_injective {first second : List Text} (same : Json.ofLines first = Json.ofLines second) :
    first = second :=
  Json.map_injective (fun _ _ => Json.Value.string.inj) same

theorem Json.ofOption_injective {α : Type} {write : α → Json.Value}
    (injective : ∀ a b, write a = write b → a = b) (filled : ∀ a, write a ≠ .null)
    {first second : Option α}
    (same : Json.ofOption write first = Json.ofOption write second) : first = second := by
  cases first with
  | none =>
      cases second with
      | none => rfl
      | some b => exact absurd same.symm (filled b)
  | some a =>
      cases second with
      | none => exact absurd same (filled a)
      | some b => rw [injective a b same]

theorem ValueType.ofCode?_code (type : ValueType) : ValueType.ofCode? type.code = some type := by
  cases type <;> rfl

theorem ValueType.code_injective {first second : ValueType}
    (same : Json.Value.int first.code = .int second.code) : first = second := by
  have decoded := congrArg ValueType.ofCode? (Json.Value.int.inj same)
  rw [ValueType.ofCode?_code, ValueType.ofCode?_code] at decoded
  exact Option.some.inj decoded

theorem Argument.toJson_injective (first second : Argument) (same : first.toJson = second.toJson) :
    first = second := by
  cases first
  cases second
  simp only [Argument.toJson, Json.Value.object.injEq, List.cons.injEq, Prod.mk.injEq, true_and, and_true] at same
  obtain ⟨index, desc, type, isOptional, isWildcard⟩ := same
  cases index
  cases desc
  cases ValueType.code_injective type
  cases isOptional
  cases isWildcard
  rfl

theorem Variable.toJson_injective (first second : Variable) (same : first.toJson = second.toJson) :
    first = second := by
  cases first
  cases second
  simp only [Variable.toJson, Json.Value.object.injEq, List.cons.injEq, Prod.mk.injEq, true_and, and_true] at same
  obtain ⟨name, desc, type, value, line⟩ := same
  cases name
  cases Json.ofLines_injective desc
  cases ValueType.code_injective type
  cases value
  cases Int.ofNat.inj (Json.Value.int.inj line)
  rfl

theorem Method.toJson_injective (first second : Method) (same : first.toJson = second.toJson) :
    first = second := by
  cases first
  cases second
  simp only [Method.toJson, Json.Value.object.injEq, List.cons.injEq, Prod.mk.injEq, true_and, and_true] at same
  obtain ⟨name, desc, arguments, resultCode, resultEcho, exampleLines, line⟩ := same
  cases name
  cases Json.ofLines_injective desc
  cases Json.map_injective Argument.toJson_injective arguments
  cases resultCode
  cases Json.ofOption_injective Variable.toJson_injective (by simp [Variable.toJson]) resultEcho
  cases Json.ofOption_injective (fun _ _ => Json.ofLines_injective) (by simp [Json.ofLines]) exampleLines
  cases Int.ofNat.inj (Json.Value.int.inj line)
  rfl

theorem Document.toFields_injective (first second : Document) (same : first.toFields = second.toFields) :
    first = second := by
  cases first
  cases second
  simp only [Document.toFields, List.cons.injEq, Prod.mk.injEq, true_and, and_true] at same
  obtain ⟨title, about, constants, vars, methods⟩ := same
  cases title
  cases Json.ofOption_injective (fun _ _ => Json.ofLines_injective) (by simp [Json.ofLines]) about
  cases Json.map_injective Variable.toJson_injective constants
  cases Json.map_injective Variable.toJson_injective vars
  cases Json.map_injective Method.toJson_injective methods
  rfl

end ScriptDocs
