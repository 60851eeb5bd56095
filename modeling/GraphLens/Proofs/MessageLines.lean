import GraphLens.Proofs.CompileSchema
import GraphLens.Proofs.Trimming

namespace GraphLens

open Text

/-- The texts between the line feeds, trimmed, without those of which nothing is left. -/
def trimmedPieces (s : List Char) : List (List Char) :=
  ((s.splitOn '\n').map trim).filter (!·.isEmpty)

/-- A message that a line can be: there is something of it, and no blank at its ends. -/
structure IsMessage (m : List Char) : Prop where
  nonempty : m ≠ []
  starts : Stops isBlank m
  ends : Stops isBlank m.reverse
  oneLine : '\n' ∉ m

/-- The text lays out the messages. What stands between two of them ends the line of the first, as
a line feed or a carriage return and a line feed do, with padding or lines of blanks around it. -/
inductive LaysOut : List Char → List (List Char) → Prop
  | blank {w : List Char} (hw : ∀ c ∈ w, isBlank c = true) : LaysOut w []
  | last {w m w' : List Char} (hw : ∀ c ∈ w, isBlank c = true) (hm : IsMessage m)
      (hw' : ∀ c ∈ w', isBlank c = true) : LaysOut (w ++ (m ++ w')) [m]
  | next {w m gap s : List Char} {ms : List (List Char)} (hw : ∀ c ∈ w, isBlank c = true)
      (hm : IsMessage m) (hgap : ∀ c ∈ gap, isBlank c = true) (ended : '\n' ∈ gap)
      (rest : LaysOut s ms) : LaysOut (w ++ (m ++ (gap ++ s))) (m :: ms)

/-- Two texts that differ at most in how lines are ended, the first with a carriage return before
some of the line feeds. -/
inductive SameLines : List Char → List Char → Prop
  | nil : SameLines [] []
  | char {s t : List Char} (c : Char) (rest : SameLines s t) : SameLines (c :: s) (c :: t)
  | lineEnd {s t : List Char} (rest : SameLines s t) : SameLines ('\r' :: '\n' :: s) ('\n' :: t)

section

variable {m s t w : List Char} {ms : List (List Char)}

theorem line_induction {P : List Char → Prop} (last : ∀ a, '\n' ∉ a → P a)
    (next : ∀ a s, '\n' ∉ a → P s → P (a ++ '\n' :: s)) (s : List Char) : P s := by
  induction hn : s.length using Nat.strongRecOn generalizing s with
  | ind n ih =>
      by_cases h : '\n' ∈ s
      · obtain ⟨a, t, rfl, ha⟩ := List.eq_append_cons_of_mem h
        refine next a t ha (ih t.length ?_ t rfl)
        rw [← hn, List.length_append, List.length_cons]
        omega
      · exact last s h

theorem isBlank_of_mem_lineFeed : ∀ c ∈ ['\n'], isBlank c = true :=
  List.forall_mem_singleton.mpr (by decide)

theorem isBlank_of_mem_return : ∀ c ∈ ['\r'], isBlank c = true :=
  List.forall_mem_singleton.mpr (by decide)

theorem trimmedPieces_append (a s : List Char) :
    trimmedPieces (a ++ '\n' :: s) = trimmedPieces a ++ trimmedPieces s := by
  rw [trimmedPieces, List.splitOn_append_cons_self, List.map_append, List.filter_append]
  rfl

theorem trimmedPieces_of_oneLine (h : '\n' ∉ s) :
    trimmedPieces s = [trim s].filter (!·.isEmpty) := by
  rw [trimmedPieces, List.splitOn_eq_singleton h, List.map_singleton]

theorem trimmedPieces_blanks_append (hw : ∀ c ∈ w, isBlank c = true) (s : List Char) :
    trimmedPieces (w ++ s) = trimmedPieces s := by
  induction w using line_induction with
  | last w hline =>
      by_cases hs : '\n' ∈ s
      · obtain ⟨a, t, rfl, ha⟩ := List.eq_append_cons_of_mem hs
        have hwa : '\n' ∉ w ++ a := by simp [hline, ha]
        rw [← List.append_assoc, trimmedPieces_append, trimmedPieces_append,
          trimmedPieces_of_oneLine hwa, trimmedPieces_of_oneLine ha, trim_blanks_append hw]
      · have hws : '\n' ∉ w ++ s := by simp [hline, hs]
        rw [trimmedPieces_of_oneLine hws, trimmedPieces_of_oneLine hs, trim_blanks_append hw]
  | next a w ha ih =>
      obtain ⟨hblank, hrest⟩ := List.forall_mem_append.mp hw
      have hnone : trimmedPieces a = [] := by
        rw [trimmedPieces_of_oneLine ha, trim_eq_nil_iff.mpr hblank]
        rfl
      rw [List.append_assoc, List.cons_append, trimmedPieces_append, hnone, List.nil_append]
      exact ih (List.forall_mem_cons.mp hrest).2

theorem trimmedPieces_of_blanks (hw : ∀ c ∈ w, isBlank c = true) : trimmedPieces w = [] := by
  rw [← List.append_nil w, trimmedPieces_blanks_append hw]
  rfl

theorem IsMessage.trim_append (hm : IsMessage m) (hw : ∀ c ∈ w, isBlank c = true) :
    trim (m ++ w) = m :=
  trim_append_append (List.forall_mem_nil _) hm.nonempty hm.starts hm.ends hw

theorem IsMessage.trimmedPieces_append (hm : IsMessage m) (hw : ∀ c ∈ w, isBlank c = true) :
    trimmedPieces (m ++ w) = [m] := by
  have hline {a : List Char} (ha : ∀ c ∈ a, isBlank c = true) (hend : '\n' ∉ a) :
      trimmedPieces (m ++ a) = [m] := by
    have hma : '\n' ∉ m ++ a := by simp [hm.oneLine, hend]
    rw [trimmedPieces_of_oneLine hma, hm.trim_append ha]
    simp [hm.nonempty]
  by_cases h : '\n' ∈ w
  · obtain ⟨a, t, rfl, ha⟩ := List.eq_append_cons_of_mem h
    obtain ⟨hblank, hrest⟩ := List.forall_mem_append.mp hw
    rw [← List.append_assoc, GraphLens.trimmedPieces_append, hline hblank ha,
      trimmedPieces_of_blanks (List.forall_mem_cons.mp hrest).2]
    rfl
  · exact hline hw h

theorem LaysOut.trimmedPieces_eq (h : LaysOut s ms) : trimmedPieces s = ms := by
  induction h with
  | blank hw => exact trimmedPieces_of_blanks hw
  | last hw hm hw' => rw [trimmedPieces_blanks_append hw, hm.trimmedPieces_append hw']
  | next hw hm hgap ended rest ih =>
      obtain ⟨a, b, rfl⟩ := List.append_of_mem ended
      obtain ⟨ha, hb⟩ := List.forall_mem_append.mp hgap
      rw [trimmedPieces_blanks_append hw, List.append_assoc, List.cons_append, ← List.append_assoc,
        trimmedPieces_append, hm.trimmedPieces_append ha,
        trimmedPieces_blanks_append (List.forall_mem_cons.mp hb).2, ih]
      rfl

theorem LaysOut.blanks_append (h : LaysOut s ms) (hw : ∀ c ∈ w, isBlank c = true) :
    LaysOut (w ++ s) ms := by
  cases h with
  | blank hv => exact .blank (List.forall_mem_append.mpr ⟨hw, hv⟩)
  | last hv hm hw' =>
      rw [← List.append_assoc]
      exact .last (List.forall_mem_append.mpr ⟨hw, hv⟩) hm hw'
  | next hv hm hgap ended rest =>
      rw [← List.append_assoc]
      exact .next (List.forall_mem_append.mpr ⟨hw, hv⟩) hm hgap ended rest

theorem isMessage_trim (hs : '\n' ∉ s) (hne : trim s ≠ []) : IsMessage (trim s) where
  nonempty := hne
  starts := stops_trim s
  ends := stops_reverse_trim s
  oneLine := by
    obtain ⟨w, w', -, -, heq⟩ := exists_eq_append_trim s
    intro h
    exact hs (heq ▸ List.mem_append_right w (List.mem_append_left w' h))

theorem exists_laysOut (s : List Char) : ∃ ms, LaysOut s ms := by
  induction s using line_induction with
  | last a ha =>
      obtain ⟨w, w', hw, hw', heq⟩ := exists_eq_append_trim a
      by_cases hne : trim a = []
      · exact ⟨[], .blank (trim_eq_nil_iff.mp hne)⟩
      · have hlaid := LaysOut.last hw (isMessage_trim ha hne) hw'
        rw [← heq] at hlaid
        exact ⟨_, hlaid⟩
  | next a s ha ih =>
      obtain ⟨ms, hs⟩ := ih
      obtain ⟨w, w', hw, hw', heq⟩ := exists_eq_append_trim a
      -- The line feed is a blank: it joins those behind the message of this line or, if there is
      -- none, those before the next message.
      rw [List.append_cons]
      by_cases hne : trim a = []
      · have hblank : ∀ c ∈ a ++ ['\n'], isBlank c = true :=
          List.forall_mem_append.mpr ⟨trim_eq_nil_iff.mp hne, isBlank_of_mem_lineFeed⟩
        exact ⟨ms, hs.blanks_append hblank⟩
      · have hgap : ∀ c ∈ w' ++ ['\n'], isBlank c = true :=
          List.forall_mem_append.mpr ⟨hw', isBlank_of_mem_lineFeed⟩
        have hlaid := LaysOut.next hw (isMessage_trim ha hne) hgap (by simp) hs
        rw [← List.append_assoc, ← List.append_assoc, ← List.append_assoc, List.append_assoc w,
          ← heq] at hlaid
        exact ⟨_, hlaid⟩

theorem trimmedPieces_eq_iff : trimmedPieces s = ms ↔ LaysOut s ms := by
  constructor
  · rintro rfl
    obtain ⟨ms, h⟩ := exists_laysOut s
    rwa [h.trimmedPieces_eq]
  · exact LaysOut.trimmedPieces_eq

theorem LaysOut.isMessage (h : LaysOut s ms) : ∀ m ∈ ms, IsMessage m := by
  induction h with
  | blank => simp
  | last hw hm hw' => exact List.forall_mem_singleton.mpr hm
  | next hw hm hgap ended rest ih => exact List.forall_mem_cons.mpr ⟨hm, ih⟩

theorem laysOut_intercalate (h : ∀ m ∈ ms, IsMessage m) :
    LaysOut (List.intercalate ['\n'] ms) ms := by
  have hnil : ∀ c ∈ ([] : List Char), isBlank c = true := List.forall_mem_nil _
  induction ms with
  | nil => exact .blank hnil
  | cons m ms ih =>
      obtain ⟨hm, hms⟩ := List.forall_mem_cons.mp h
      cases ms with
      | nil =>
          simpa using LaysOut.last hnil hm hnil
      | cons m' ms =>
          rw [List.intercalate_cons_cons, List.append_assoc]
          exact .next hnil hm isBlank_of_mem_lineFeed (.head _) (ih hms)

theorem trim_dropReturn (line : List Char) : trim (dropReturn line) = trim line := by
  unfold dropReturn
  split
  · next h =>
      obtain ⟨before, rfl⟩ := List.getLast?_eq_some_iff.mp (eq_of_beq h)
      rw [List.dropLast_concat, trim_append_blanks before isBlank_of_mem_return]
  · rfl

/-- Lines and the texts between line feeds differ in carriage returns, which are blanks, and in an
empty line at the end. -/
theorem filter_map_trim_lines (s : List Char) :
    ((lines s).map trim).filter (!·.isEmpty) = trimmedPieces s := by
  rcases List.eq_nil_or_concat (s.splitOn '\n') with hnil | ⟨before, last, hpieces⟩
  · exact absurd hnil (List.splitOn_ne_nil _ s)
  · have hlast : (([last].filter (!·.isEmpty)).map trim).filter (!·.isEmpty) =
        ([last].map trim).filter (!·.isEmpty) := by
      cases last with
      | nil => rfl
      | cons c last => rfl
    rw [List.concat_eq_append] at hpieces
    rw [trimmedPieces, lines, hpieces]
    simp only [List.dropLast_concat, List.getLast?_concat, Option.toList_some, List.map_append,
      List.filter_append, List.map_map, hlast]
    congr 2
    exact List.map_congr_left fun line _ => trim_dropReturn line

theorem SameLines.pieces (h : SameLines s t) :
    List.Forall₂ (fun a b => a = b ∨ a = b ++ ['\r']) (s.splitOn '\n') (t.splitOn '\n') := by
  induction h with
  | nil => exact .cons (.inl rfl) .nil
  | @char s t c rest ih =>
      rw [List.splitOn_cons_eq_if_modifyHead, List.splitOn_cons_eq_if_modifyHead]
      split
      · exact .cons (.inl rfl) ih
      · generalize s.splitOn '\n' = pieces, t.splitOn '\n' = pieces' at ih
        cases ih with
        | nil => exact .nil
        | cons first others =>
            exact .cons (first.imp (congrArg (c :: ·)) (congrArg (c :: ·))) others
  | lineEnd rest ih => exact .cons (.inr rfl) ih

theorem SameLines.trimmedPieces_eq (h : SameLines s t) : trimmedPieces s = trimmedPieces t := by
  have htrim {a b : List Char} (h : a = b ∨ a = b ++ ['\r']) : trim a = trim b := by
    rcases h with rfl | rfl
    · rfl
    · exact trim_append_blanks b isBlank_of_mem_return
  have hmap : (s.splitOn '\n').map trim = (t.splitOn '\n').map trim := by
    have hpieces := h.pieces
    generalize s.splitOn '\n' = pieces, t.splitOn '\n' = pieces' at hpieces
    induction hpieces with
    | nil => rfl
    | cons first others ih => rw [List.map_cons, List.map_cons, htrim first, ih]
  rw [trimmedPieces, hmap, trimmedPieces]

end

theorem messageLines_eq (text : String) :
    messageLines text = (trimmedPieces text.toList).map String.ofList := by
  rw [messageLines, filter_map_trim_lines]

theorem messageLines_eq_iff {text : String} {messages : List String} :
    messageLines text = messages ↔ LaysOut text.toList (messages.map String.toList) := by
  rw [messageLines_eq, ← trimmedPieces_eq_iff]
  constructor
  · rintro rfl
    simp [Function.comp_def]
  · intro h
    simp [h, Function.comp_def]

namespace CompileResult

open Json

/-- Every answer that gives its messages as this text is decoded, and has these messages then. -/
def GivesMessages (text : String) (messages : List String) : Prop :=
  ∀ {v tokens : Tree} {raw ast ptree : String} {ts : List String}, v.IsText raw →
    Parts v tokens (.text ast) (.text ptree) (.text text) → TokensOf tokens ts →
    ofJson raw = .ok ⟨ts, ast, ptree, messages⟩

theorem isText_shortest (text : String) :
    (Tree.array [.array [], .text "", .text "", .text text]).IsText
      (writeList [writeList [], writeText "", writeText "", writeText text]) := by
  have hnone := isWritten_writeTexts []
  have hwritten := isWritten_writeList
    [(.array [], writeList []), (.text "", writeText ""), (.text "", writeText ""),
      (.text text, writeText text)] (by simpa [isWritten_writeText] using hnone)
  exact hwritten.isText

theorem givesMessages_iff {text : String} {messages : List String} :
    GivesMessages text messages ↔ messageLines text = messages := by
  have hgives : GivesMessages text (messageLines text) := fun h hparts ht =>
    (ofJson_eq_ok_iff h).2 ⟨_, _, hparts, ht, .lines text⟩
  constructor
  · intro h
    have hother := h (isText_shortest text) (.list _ _ _ _) (.list [])
    have hsame := hgives (isText_shortest text) (.list _ _ _ _) (.list [])
    rw [hother] at hsame
    cases hsame
    rfl
  · rintro rfl
    exact hgives

/-- An answer that gives its messages as a text has those that are between the line feeds of the
text, trimmed, if anything is left of them; it does not matter which line feeds a carriage return
stands before. None of them is empty, has a blank at an end or is of two lines. A text gives
exactly the messages that it lays out, whatever blanks are around them, and what a text gives, one
to a line, gives the same again. -/
theorem text_gives_its_trimmed_pieces :
    (∀ text messages, GivesMessages text messages ↔
      messages = (trimmedPieces text.toList).map String.ofList) ∧
    (∀ text text' messages, SameLines text.toList text'.toList →
      (GivesMessages text messages ↔ GivesMessages text' messages)) ∧
    (∀ text messages, GivesMessages text messages → ∀ m ∈ messages, IsMessage m.toList) ∧
    (∀ text messages, LaysOut text.toList (messages.map String.toList) ↔
      GivesMessages text messages) ∧
    ∀ text messages, GivesMessages text messages →
      GivesMessages (String.intercalate "\n" messages) messages := by
  have hlaid (text : String) (messages : List String) :
      GivesMessages text messages ↔ LaysOut text.toList (messages.map String.toList) :=
    givesMessages_iff.trans messageLines_eq_iff
  have hmessage (text : String) (messages : List String) (h : GivesMessages text messages) :
      ∀ m ∈ messages, IsMessage m.toList :=
    List.forall_mem_map.mp ((hlaid text messages).1 h).isMessage
  refine ⟨?_, ?_, hmessage, fun text messages => (hlaid text messages).symm, ?_⟩
  · intro text messages
    rw [givesMessages_iff, messageLines_eq, eq_comm]
  · intro text text' messages same
    rw [hlaid, hlaid, ← trimmedPieces_eq_iff, ← trimmedPieces_eq_iff, same.trimmedPieces_eq]
  · intro text messages h
    rw [hlaid, String.toList_intercalate]
    exact laysOut_intercalate (List.forall_mem_map.mpr (hmessage text messages h))

theorem padded_lines_give_their_messages :
    let messages := ["unused x", "y"]
    SameLines "unused x\r\n\r\n y\r".toList "unused x\n\r\n y\r".toList ∧
    LaysOut "unused x\r\n\r\n y\r".toList (messages.map String.toList) ∧
    ofJson "[[],\"\",\"\",\"unused x\\n\\r\\n y\\r\"]" = .ok ⟨[], "", "", messages⟩ ∧
    ofJson "[[],\"\",\"\",\"unused x\\ny\"]" = .ok ⟨[], "", "", messages⟩ := by
  intro messages
  obtain ⟨-, hsame, -, hlaid, hagain⟩ := text_gives_its_trimmed_pieces
  have same : SameLines "unused x\r\n\r\n y\r".toList "unused x\n\r\n y\r".toList := by
    repeat constructor
  have laid : LaysOut "unused x\r\n\r\n y\r".toList (messages.map String.toList) :=
    trimmedPieces_eq_iff.1 (by decide)
  have gives : GivesMessages "unused x\n\r\n y\r" messages :=
    (hsame _ _ _ same).1 ((hlaid _ _).1 laid)
  have decoded := gives (isText_shortest "unused x\n\r\n y\r") (.list _ _ _ _) (.list [])
  have again := hagain _ _ gives (isText_shortest "unused x\ny") (.list _ _ _ _) (.list [])
  exact ⟨same, laid, decoded, again⟩

end CompileResult

end GraphLens
