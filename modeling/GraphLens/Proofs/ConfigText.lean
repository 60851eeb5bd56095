import GraphLens.Pipeline.Config
import GraphLens.Proofs.Json.Records
import GraphLens.Proofs.Json.Writing

namespace GraphLens.PipelineConfig

open Json Json.Reader

def take : String → Draft → Tree → Option Draft
  | "success_message", d, v => v.text?.map fun s => { d with success := some s }
  | "failure_message", d, v => v.text?.map fun s => { d with failure := some s }
  | _, _, _ => none

theorem fields_readAs_take : ∀ field ∈ record.fields, field.ReadsAs take := by
  intro field hfield
  simp only [record, List.mem_cons, List.not_mem_nil, or_false] at hfield
  rcases hfield with rfl | rfl <;> intro d v t w s h hw hs
  · exact (answers_textAs _ h hw s).map _
  · exact (answers_textAs _ h hw s).map _

theorem addMember_declared (d : Draft) (v : Tree) :
    record.addMember take d ("success_message", v) =
      (put Tree.text? d.success v).map (fun a => { d with success := a }) ∧
    record.addMember take d ("failure_message", v) =
      (put Tree.text? d.failure v).map (fun a => { d with failure := a }) := by
  simp only [map_put]
  exact ⟨rfl, rfl⟩

theorem foldlM_addMember_eq_some_iff {d d' : Draft} {ms : List (String × Tree)} :
    ms.foldlM (record.addMember take) d = some d' ↔
      fill Tree.text? d.success (valuesOf "success_message" ms) = some d'.success ∧
      fill Tree.text? d.failure (valuesOf "failure_message" ms) = some d'.failure := by
  induction ms generalizing d with
  | nil =>
      cases d
      cases d'
      simp [fill, valuesOf]
  | cons m ms ih =>
      obtain ⟨name, v⟩ := m
      obtain ⟨hsuccess, hfailure⟩ := addMember_declared d v
      rw [List.foldlM_cons, Option.bind_eq_bind, Option.bind_eq_some_iff]
      simp only [ih, valuesOf_cons]
      by_cases hname : name ∈ record.fields.map (·.name)
      · have hnames : name = "success_message" ∨ name = "failure_message" := by
          simpa [record] using hname
        rcases hnames with rfl | rfl
        · simp [hsuccess, fill_cons, Option.bind_eq_some_iff]
          grind
        · simp [hfailure, fill_cons, Option.bind_eq_some_iff]
          grind
      · have hadd : record.addMember take d (name, v) = some d :=
          Record.addMember_of_not_mem hname d v
        have hnames : name ≠ "success_message" ∧ name ≠ "failure_message" := by
          simpa [record] using hname
        simp [hadd, hnames]

theorem fill_text?_eq_some_iff {vs : List Tree} {message : Option String} :
    fill Tree.text? none vs = some message ↔ vs = (message.map Tree.text).toList := by
  cases message with
  | none => exact fill_none_eq_some_none_iff
  | some s =>
      rw [fill_none_eq_some_iff]
      constructor
      · rintro ⟨v, rfl, hv⟩
        rw [Tree.text?_eq_some_iff.1 hv]
        rfl
      · rintro rfl
        exact ⟨.text s, rfl, rfl⟩

theorem ofTree?_object_eq_some_iff {ms : List (String × Tree)} {c : PipelineConfig} :
    record.ofTree? take (.object ms) = some c ↔ ∃ success failure : Option String,
      valuesOf "success_message" ms = (success.map Tree.text).toList ∧
      valuesOf "failure_message" ms = (failure.map Tree.text).toList ∧
      c = ⟨success.getD standard.successMessage, failure.getD standard.failureMessage⟩ := by
  have hfinish (d : Draft) : record.finish? d =
      some ⟨d.success.getD standard.successMessage, d.failure.getD standard.failureMessage⟩ := rfl
  simp only [Record.ofTree?, Option.bind_eq_some_iff, foldlM_addMember_eq_some_iff, hfinish,
    Option.some.injEq]
  constructor
  · rintro ⟨⟨success, failure⟩, ⟨hsuccess, hfailure⟩, rfl⟩
    exact ⟨success, failure, fill_text?_eq_some_iff.1 hsuccess, fill_text?_eq_some_iff.1 hfailure,
      rfl⟩
  · rintro ⟨success, failure, hsuccess, hfailure, rfl⟩
    exact ⟨⟨success, failure⟩, ⟨fill_text?_eq_some_iff.2 hsuccess,
      fill_text?_eq_some_iff.2 hfailure⟩, rfl⟩

theorem ofJson_eq_ok_iff {ms : List (String × Tree)} {raw : String} {c : PipelineConfig}
    (h : (Tree.object ms).IsText raw) :
    ofJson raw = .ok c ↔ ∃ success failure : Option String,
      valuesOf "success_message" ms = (success.map Tree.text).toList ∧
      valuesOf "failure_message" ms = (failure.map Tree.text).toList ∧
      c = ⟨success.getD standard.successMessage, failure.getD standard.failureMessage⟩ :=
  (Record.readAll_read_iff fields_readAs_take h).trans ofTree?_object_eq_some_iff

def tree (c : PipelineConfig) : Tree :=
  .object [("success_message", .text c.successMessage), ("failure_message", .text c.failureMessage)]

theorem isText_toJson (c : PipelineConfig) : c.tree.IsText c.toJson := by
  have hmembers := isWritten_writeObject
    [("success_message", .text c.successMessage, writeText c.successMessage),
      ("failure_message", .text c.failureMessage, writeText c.failureMessage)]
    (by simp [isWritten_writeText])
  exact hmembers.isText

/-- Messages that were written are read again, whatever characters they have. The text of an object
gives messages exactly if each of the two members is there at most once and is a text, in any order
and among any other members; a message that is not there is the standard one. -/
theorem ofJson_reads_messages_given :
    (∀ c : PipelineConfig, ofJson c.toJson = .ok c) ∧
    ∀ {ms : List (String × Tree)} {raw : String}, (Tree.object ms).IsText raw →
      ∀ c, ofJson raw = .ok c ↔ ∃ success failure : Option String,
        valuesOf "success_message" ms = (success.map Tree.text).toList ∧
        valuesOf "failure_message" ms = (failure.map Tree.text).toList ∧
        c = ⟨success.getD standard.successMessage, failure.getD standard.failureMessage⟩ := by
  refine ⟨?_, fun h c => ofJson_eq_ok_iff h⟩
  intro c
  exact (ofJson_eq_ok_iff (isText_toJson c)).2
    ⟨some c.successMessage, some c.failureMessage, rfl, rfl, rfl⟩

theorem message_behind_another_member_is_given :
    ofJson ("\x7b\"x\":[\x7b\"success_message\":\"no\"\x7d],\"failure_message\":" ++
      "\"\\\"\\u0001\\n😀\"\x7d") = .ok ⟨"Success!", "\"\x01\n😀"⟩ := by
  have hinner := isWritten_writeObject
    [("success_message", .text "no", writeText "no")] (by simp [isWritten_writeText])
  have hother := isWritten_writeList
    [(.object [("success_message", .text "no")],
      writeObject [("success_message", writeText "no")])] (by simpa using hinner)
  have hwritten := isWritten_writeObject
    [("x", .array [.object [("success_message", .text "no")]],
        writeList [writeObject [("success_message", writeText "no")]]),
      ("failure_message", .text "\"\x01\n😀", writeText "\"\x01\n😀")]
    (by simpa [isWritten_writeText] using hother)
  exact (ofJson_reads_messages_given.2 hwritten.isText _).2
    ⟨none, some "\"\x01\n😀", rfl, rfl, rfl⟩

end GraphLens.PipelineConfig
