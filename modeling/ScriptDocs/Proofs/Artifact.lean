import Mathlib.Algebra.Ring.Int.Defs
import ScriptDocs.Artifact
import ScriptDocs.Proofs.Document
import ScriptDocs.Proofs.FileTree.Writing
import ScriptDocs.Proofs.Text.Utf8
import ScriptDocs.Settings.Decoding

/-!
Written documents can be read back. The file of a title has a safe name of its own in the output
directory, a write that succeeds leaves the text of the payload there, and reading that text as JSON
gives the payload with the time of writing, so that documents with one text are one document.
-/

namespace ScriptDocs.Artifact

open FileTree (Volume isName)

/-! ### File names -/

/-- The name of the file for a title. -/
def fileName (title : Text) : Text :=
  baseName title ++ ".json".toList

theorem replaceUnsafe_safe (replaced : Bool) (title : Text) :
    ∀ c ∈ replaceUnsafe replaced title, isSafe c = true := by
  induction title generalizing replaced with
  | nil => simp [replaceUnsafe]
  | cons first rest ih =>
      intro c member
      rw [replaceUnsafe] at member
      split at member
      · rename_i safe
        rcases List.mem_cons.mp member with rfl | later
        · exact safe
        · exact ih false c later
      · split at member
        · exact ih true c member
        · rcases List.mem_cons.mp member with rfl | later
          · decide
          · exact ih true c later

theorem baseName_safe (title : Text) : ∀ c ∈ baseName title, isSafe c = true := by
  rw [baseName]
  split
  · exact List.all_eq_true.mp (by decide)
  · intro c member
    refine replaceUnsafe_safe false title c ?_
    exact Text.trimLeft_subset '_' _ (Text.trimRight_subset '_' _ member)

theorem fileName_unbroken (title : Text) : Path.separator ∉ fileName title := by
  intro member
  rcases List.mem_append.mp member with inBase | inEnd
  · exact absurd (baseName_safe title _ inBase) (by decide)
  · exact absurd inEnd (by decide)

theorem isName_fileName (title : Text) : isName (fileName title) = true := by
  have long : 5 ≤ (fileName title).length := by simp [fileName]
  have notShort : ∀ short : Text, short.length < 5 → fileName title ≠ short := by
    intro short fewer same
    rw [same] at long
    omega
  rw [FileTree.isName_iff]
  refine ⟨?_, notShort _ (by decide)⟩
  simp [Path.isIdle, notShort [] (by decide), notShort ['.'] (by decide)]

theorem fileName_injective {first second : Text} (same : fileName first = fileName second) :
    baseName first = baseName second :=
  List.append_cancel_right same

/-! ### Files -/

section Files

variable {volume ready after : Volume} {clock title directory file : Text} {indent : Option Int}
  {payload : List (Text × Json.Value)} {room : Nat}

theorem draft_whole (whole : (draft room clock indent payload).2 = none) :
    draft room clock indent payload = (text clock indent payload, none) := by
  rw [draft] at whole ⊢
  cases wrong : indent.bind indentError? with
  | some error => simp [wrong] at whole
  | none =>
      simp only [wrong] at whole ⊢
      cases dumped : Json.dump indent (.object (stamp clock payload)) room with
      | mk written interruption =>
          rw [dumped] at whole
          cases interruption with
          | some cause => simp at whole
          | none =>
              have rendered := Json.dump_whole (congrArg Prod.snd dumped)
              rw [dumped] at rendered
              cases rendered
              rfl

theorem write_ok_iff :
    write volume clock payload title directory indent room = (after, .ok file) ↔
      file = path title directory ∧ (draft room clock indent payload).2 = none ∧
      ∃ ready, volume.ensureDirectories directory = (ready, .ok ()) ∧
        ready.write (path title directory) (Utf8.encode (text clock indent payload)) = .ok after := by
  rw [write]
  cases made : volume.ensureDirectories directory with
  | mk middle outcome =>
      cases outcome with
      | error failure => simp
      | ok done =>
          cases drafted : draft room clock indent payload with
          | mk content fault =>
              cases fault with
              | some error =>
                  simp only [reduceCtorEq, false_and, and_false, iff_false]
                  split <;> simp
              | none =>
                  have whole := draft_whole (congrArg Prod.snd drafted)
                  rw [drafted] at whole
                  cases whole
                  cases written : middle.write (path title directory)
                    (Utf8.encode (text clock indent payload)) with
                  | error failure => simp [written]
                  | ok volume => simp [written, and_comm, eq_comm]

theorem indentError?_eq_none_iff {width : Int} :
    indentError? width = none ↔ -2 ^ 63 ≤ width ∧ width < 2 ^ 63 := by
  have range : (Nat.pow 2 63 : Int) = 2 ^ 63 := rfl
  rw [indentError?, range]
  simp only [Bool.or_eq_true, decide_eq_true_eq]
  split
  · simp only [reduceCtorEq, false_iff]
    omega
  · simp only [true_iff]
    omega

theorem indent_usable_iff :
    indent.bind indentError? = none ↔ ∀ width ∈ indent, -2 ^ 63 ≤ width ∧ width < 2 ^ 63 := by
  cases indent with
  | none => simp
  | some width => simp [indentError?_eq_none_iff]

end Files

/-! ### Texts -/

section Texts

variable {payload : List (Text × Json.Value)}

theorem hasField_iff {name : Text} : Json.hasField name payload = true ↔ name ∈ payload.map Prod.fst := by
  simp [Json.hasField]

theorem stamp_of_mem (has : stampName ∈ payload.map Prod.fst) (clock : Text) :
    stamp clock payload = payload := by
  rw [stamp, if_pos (hasField_iff.mpr has)]

theorem stamp_of_not_mem (lacks : stampName ∉ payload.map Prod.fst) (clock : Text) :
    stamp clock payload = payload ++ [(stampName, .string clock)] := by
  rw [stamp, if_neg (fun has => lacks (hasField_iff.mp has))]

theorem exact_stamp (exact : Json.Exact (.object payload)) (clock : Text) :
    Json.Exact (.object (stamp clock payload)) := by
  by_cases has : stampName ∈ payload.map Prod.fst
  · rwa [stamp_of_mem has]
  · rw [stamp_of_not_mem has]
    cases exact with
    | object distinct exact =>
        refine .object ?_ ?_
        · rw [List.map_append, List.nodup_append]
          refine ⟨distinct, by simp, ?_⟩
          rintro name member other single rfl
          obtain rfl : name = stampName := List.mem_singleton.mp single
          exact has member
        · intro field member
          rcases List.mem_append.mp member with old | new
          · exact exact field old
          · rw [List.mem_singleton.mp new]
            exact .string clock

theorem getLast?_render (indent : Option Int) (fields : List (Text × Json.Value)) :
    (Json.render indent (.object fields)).getLast? = some '\x7d' := by
  cases fields with
  | nil => rfl
  | cons field fields =>
      rw [Json.render, Json.write]
      exact List.getLast?_concat

theorem depth_stamp_le {room : Nat} (shallow : (Json.Value.object payload).depth ≤ room) (clock : Text) :
    (Json.Value.object (stamp clock payload)).depth ≤ room := by
  by_cases has : stampName ∈ payload.map Prod.fst
  · rwa [stamp_of_mem has]
  · rw [stamp_of_not_mem has]
    obtain ⟨less, rfl, within⟩ := Json.depth_object_le_iff.mp shallow
    refine Json.depth_object_le_iff.mpr ⟨less, rfl, ?_⟩
    intro field member
    rcases List.mem_append.mp member with old | new
    · exact within field old
    · rw [List.mem_singleton.mp new]
      exact Nat.zero_le less

section Reading

variable {room : Nat} (exact : Json.Exact (.object payload))
  (shallow : (Json.Value.object payload).depth ≤ room) (clock : Text) (indent : Option Int)

include exact shallow

theorem load_text : Json.load (text clock indent payload) room = .ok (.object (stamp clock payload)) :=
  (exact_stamp exact clock).load_render (depth_stamp_le shallow clock) indent (List.forall_mem_singleton.mpr rfl)

theorem whole_draft_iff :
    (draft room clock indent payload).2 = none ↔ ∀ width ∈ indent, -2 ^ 63 ≤ width ∧ width < 2 ^ 63 := by
  rw [← indent_usable_iff, draft]
  cases indent.bind indentError? with
  | some error => simp
  | none => simp [(exact_stamp exact clock).dump_eq (depth_stamp_le shallow clock)]

end Reading

theorem stamp_toFields (document : Document) (clock : Text) :
    stamp clock document.toFields = document.toFields ++ [(stampName, .string clock)] := by
  apply stamp_of_not_mem
  exact (by decide : stampName ∉ ["title".toList, "about".toList, "constants".toList, "variables".toList,
    "methods".toList])

/-- Documents that are written as one text are one document. -/
theorem eq_of_text_eq {first second : Document} (firstNumbered : first.Numbered)
    (secondNumbered : second.Numbered) {clock : Text} {indent other : Option Int}
    (same : text clock indent first.toFields = text clock other second.toFields) : first = second := by
  have read := load_text firstNumbered.exact_toFields first.depth_toFields_le clock indent
  rw [same, load_text secondNumbered.exact_toFields second.depth_toFields_le clock other, stamp_toFields,
    stamp_toFields] at read
  have fields := List.append_cancel_right (Json.Value.object.inj (Except.ok.inj read))
  exact Document.toFields_injective first second fields.symm

end Texts

/-- A payload for whose levels there is room is written as one JSON value and a line feed, and that text
is read back as the payload, its fields in their order, with the time of writing last unless the payload
has such a field. The file holds the text exactly if the indent fits in 64 bits, the directory can be made
and the file can be opened. Every document has such a payload, and different ones have different texts. -/
theorem written_reads_back {payload : List (Text × Json.Value)} (exact : Json.Exact (.object payload))
    {room : Nat} (shallow : (Json.Value.object payload).depth ≤ room) (clock title directory : Text)
    (indent : Option Int) :
    (∃ body fields, text clock indent payload = body ++ ['\n'] ∧ body.getLast? = some '\x7d' ∧
      Json.load body room = .ok (.object fields) ∧
      Json.load (text clock indent payload) room = .ok (.object fields) ∧
      (room ≤ Json.nestingLimit →
        Settings.decodeJson (text clock indent payload) = .ok (.ofJson (.object fields))) ∧
      ("generated_utc".toList ∈ payload.map Prod.fst → fields = payload) ∧
      ("generated_utc".toList ∉ payload.map Prod.fst →
        fields = payload ++ [("generated_utc".toList, .string clock)])) ∧
    (∀ volume after file, write volume clock payload title directory indent room = (after, .ok file) ↔
      file = path title directory ∧ (∀ width ∈ indent, -2 ^ 63 ≤ width ∧ width < 2 ^ 63) ∧
      ∃ ready, volume.ensureDirectories directory = (ready, .ok ()) ∧
        ready.write (path title directory) (Utf8.encode (text clock indent payload)) = .ok after) ∧
    (∀ volume after file, (volume.ensureDirectories directory).1.Readable (path title directory) →
      write volume clock payload title directory indent room = (after, .ok file) →
      ∃ bytes, after.read file = .ok bytes ∧ Utf8.decode bytes = .ok (text clock indent payload)) ∧
    (∀ document : Document, (Json.Value.object document.toFields).depth ≤ 5 ∧
      (document.Numbered → Json.Exact (.object document.toFields))) ∧
    (∀ first second : Document, first.Numbered → second.Numbered → ∀ other,
      text clock indent first.toFields = text clock other second.toFields → first = second) := by
  refine ⟨?_, ?_, ?_, fun document => ⟨document.depth_toFields_le, Document.Numbered.exact_toFields⟩, ?_⟩
  · refine ⟨_, stamp clock payload, rfl, getLast?_render indent _, ?_, load_text exact shallow clock indent,
      ?_, fun has => stamp_of_mem has clock, fun lacks => stamp_of_not_mem lacks clock⟩
    · have read := (exact_stamp exact clock).load_render (depth_stamp_le shallow clock) indent
        (List.forall_mem_nil _)
      rwa [List.append_nil] at read
    · intro within
      rw [Settings.decodeJson, load_text exact (Nat.le_trans shallow within)]
      rfl
  · intro volume after file
    rw [write_ok_iff, whole_draft_iff exact shallow]
  · intro volume after file readable wrote
    obtain ⟨rfl, _, ready, made, written⟩ := write_ok_iff.mp wrote
    rw [made] at readable
    exact ⟨_, readable.read_write written, Utf8.decode_encode _⟩
  · intro first second firstNumbered secondNumbered other same
    exact eq_of_text_eq firstNumbered secondNumbered same

/-! ### One file in an empty volume -/

section Ports

def emptyVolume : Volume where
  root := .directory []

def portsPayload : List (Text × Json.Value) :=
  [("say \"hi\" \\ \t\u0001 é".toList,
    .array [.int (-8), .null, .bool true, .array [], .object [([], .int 0)]])]

theorem exact_portsPayload : Json.Exact (.object portsPayload) := by
  have nested : Json.Exact (.object [([], .int 0)]) := by
    refine .object (by simp) ?_
    simp only [List.forall_mem_cons, List.not_mem_nil, false_imp_iff, implies_true, and_true]
    exact .int (Json.digit_short (by decide))
  refine .object (by simp [portsPayload]) ?_
  simp only [portsPayload, List.forall_mem_cons, List.not_mem_nil, false_imp_iff, implies_true, and_true]
  refine .array ?_
  simp only [List.forall_mem_cons, List.not_mem_nil, false_imp_iff, implies_true, and_true]
  exact ⟨.int (Json.digit_short (by decide)), .null, .bool true, .array (by simp), nested⟩

theorem depth_portsPayload : (Json.Value.object portsPayload).depth = 3 := by
  decide +kernel

/-- The volume once the output directory holds some files. -/
def outputVolume (files : List (Text × FileTree.Entry)) : Volume where
  root := .directory [("o".toList, .directory files)]

theorem empty_ready : emptyVolume.ensureDirectories "o".toList = (outputVolume [], .ok ()) :=
  rfl

theorem output_write (content : List UInt8) :
    (outputVolume []).write (path "t".toList "o".toList) content =
      .ok (outputVolume [("t.json".toList, .file content .readable)]) :=
  rfl

theorem output_readable : (outputVolume []).Readable (path "t".toList "o".toList) := by
  have vacant : (outputVolume []).resolve true (path "t".toList "o".toList) =
      .ok (.vacant ["o".toList, "t.json".toList] false) :=
    rfl
  intro place content access resolved
  exact absurd (vacant.symm.trans resolved) (by simp)

end Ports

theorem written_reads_back_ports :
    Json.Exact (.object portsPayload) ∧ (Json.Value.object portsPayload).depth ≤ 3 ∧
    Document.Numbered { title := [] } ∧
    (emptyVolume.ensureDirectories "o".toList).1.Readable (path "t".toList "o".toList) ∧
    Json.load (text [] (some (-1)) portsPayload) 3 =
      .ok (.object (portsPayload ++ [("generated_utc".toList, .string [])])) ∧
    Settings.decodeJson (text [] (some (-1)) portsPayload) =
      .ok (.ofJson (.object (portsPayload ++ [("generated_utc".toList, .string [])]))) ∧
    ∃ after, write emptyVolume [] portsPayload "t".toList "o".toList (some (-1)) 3 =
        (after, .ok "o/t.json".toList) ∧
      ∃ bytes, after.read "o/t.json".toList = .ok bytes ∧
        Utf8.decode bytes = .ok (text [] (some (-1)) portsPayload) := by
  have numbered : Document.Numbered { title := [] } := ⟨by simp, by simp, by simp, by simp⟩
  have shallow := Nat.le_of_eq depth_portsPayload
  obtain ⟨⟨body, fields, _, _, _, read, decoded, _, stamped⟩, wrote, held, _, _⟩ :=
    written_reads_back exact_portsPayload shallow [] "t".toList "o".toList (some (-1))
  obtain rfl := stamped (by simp [portsPayload])
  have readable : (emptyVolume.ensureDirectories "o".toList).1.Readable (path "t".toList "o".toList) := by
    rw [empty_ready]
    exact output_readable
  have done := (wrote emptyVolume _ (path "t".toList "o".toList)).mpr
    ⟨rfl, by simp, _, empty_ready, output_write _⟩
  exact ⟨exact_portsPayload, shallow, numbered, readable, read, decoded (by decide), _, done,
    held _ _ _ readable done⟩

/-! ### Files that are not written whole -/

section Deep

def deepPayload : List (Text × Json.Value) :=
  [("a".toList, Json.nested 1000)]

theorem exact_deepPayload : Json.Exact (.object deepPayload) :=
  .object (by simp [deepPayload]) (List.forall_mem_singleton.mpr (Json.exact_nested 1000))

theorem stamp_deepPayload (clock : Text) :
    stamp clock deepPayload = ("a".toList, Json.nested 1000) :: [(stampName, .string clock)] := by
  have lacks : stampName ∉ deepPayload.map Prod.fst := show stampName ∉ ["a".toList] by decide
  rw [stamp_of_not_mem lacks]
  rfl

/-- What there is of the text when the room is used up. -/
def deepStart (room : Nat) : Text :=
  '\x7b' :: Json.writeString "a".toList ++ [':', ' '] ++ List.replicate room '['

theorem getLast?_deepStart (room : Nat) : (deepStart (room + 1)).getLast? = some '[' := by
  rw [deepStart, List.getLast?_append, List.getLast?_replicate, if_neg (Nat.succ_ne_zero room),
    Option.some_or]

theorem draft_deepPayload (clock : Text) :
    draft Json.nestingLimit clock none deepPayload = (deepStart 989, some (.interrupted .tooDeep)) := by
  have dumped := Json.dump_nested (show 989 < 1000 by decide) "a".toList [(stampName, .string clock)]
  rw [draft, Option.bind_none, stamp_deepPayload, show Json.nestingLimit = 989 + 1 from rfl, dumped]
  rfl

theorem load_deepPayload (clock : Text) :
    ∃ error, Json.load (text clock none deepPayload) = .error error := by
  rw [text, stamp_deepPayload]
  exact Json.load_nested (show 989 < 1000 by decide) "a".toList [(stampName, .string clock)] ['\n']

end Deep

/-- An indent outside 64 bits leaves an empty file, and a payload of a thousand levels one that breaks off
where there is no more room; nor could the whole text of that payload be read. -/
theorem write_breaks_off :
    Json.Exact (.object portsPayload) ∧ Json.Exact (.object deepPayload) ∧
    (∃ after, write emptyVolume [] portsPayload "t".toList "o".toList (some (-2 ^ 63 - 1)) =
        (after, .error .indentOutOfRange) ∧
      after.read "o/t.json".toList = .ok [] ∧ ∀ body, Utf8.decode [] ≠ .ok (body ++ ['\n'])) ∧
    (∃ after bytes, write emptyVolume [] deepPayload "t".toList "o".toList none =
        (after, .error (.interrupted .tooDeep)) ∧
      after.read "o/t.json".toList = .ok bytes ∧ ∀ body, Utf8.decode bytes ≠ .ok (body ++ ['\n'])) ∧
    ∃ error, Json.load (text [] none deepPayload) = .error error := by
  have wrong : draft Json.nestingLimit [] (some (-2 ^ 63 - 1)) portsPayload =
      ([], some .indentOutOfRange) :=
    rfl
  refine ⟨exact_portsPayload, exact_deepPayload, ?_, ?_, load_deepPayload []⟩
  · refine ⟨outputVolume [("t.json".toList, .file [] .readable)], ?_, ?_, ?_⟩
    · rw [write, empty_ready, wrong]
      simp only [Utf8.encode, List.flatMap_nil, output_write]
    · exact output_readable.read_write (output_write [])
    · intro body same
      simp [Utf8.decode, Utf8.decodeFrom] at same
  · refine ⟨outputVolume [("t.json".toList, .file (Utf8.encode (deepStart 989)) .readable)], _, ?_,
      output_readable.read_write (output_write _), ?_⟩
    · rw [write, empty_ready, draft_deepPayload]
      simp only [output_write]
    · intro body same
      rw [Utf8.decode_encode, Except.ok.injEq] at same
      have last := congrArg List.getLast? same
      rw [getLast?_deepStart, List.getLast?_concat] at last
      exact absurd last (by decide)

end ScriptDocs.Artifact
