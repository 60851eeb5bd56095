import GraphLens.Json.Writer
import GraphLens.Proofs.Json.Grammar

namespace GraphLens.Json

open Reader

theorem hexDigit_digitChar {k : Nat} (hk : k < 16) : HexDigit k (Nat.digitChar k) :=
  ⟨hk, .inl rfl⟩

theorem codeUnit_control {c : Char} (hc : c.toNat < 0x20) :
    CodeUnit c.toNat ['0', '0', Nat.digitChar (c.toNat / 16), Nat.digitChar (c.toNat % 16)] := by
  have digits := CodeUnit.digits (hexDigit_digitChar (k := 0) (by decide))
    (hexDigit_digitChar (k := 0) (by decide))
    (hexDigit_digitChar (k := c.toNat / 16) (by omega))
    (hexDigit_digitChar (k := c.toNat % 16) (by omega))
  have hsum : 16 * (16 * (16 * 0 + 0) + c.toNat / 16) + c.toNat % 16 = c.toNat := by omega
  rwa [hsum] at digits

theorem Spells.escape {c : Char} {cs t : List Char} (rest : Spells cs t) :
    Spells (c :: cs) (escapeChar c ++ t) := by
  unfold escapeChar
  split
  case h_8 hmark hescape _ _ _ _ _ =>
      split
      · next hcontrol => exact .unit (codeUnit_control hcontrol) rest
      · next hprintable => exact .plain (Nat.le_of_not_lt hprintable) hmark hescape rest
  all_goals exact .short (by decide) rest

theorem spells_flatMap_escapeChar (cs : List Char) : Spells cs (cs.flatMap escapeChar) := by
  induction cs with
  | nil => exact .nil
  | cons c cs ih => exact ih.escape

def Tree.IsWritten (v : Tree) (s : String) : Prop := Writes (.value v) s.toList

theorem Tree.IsWritten.isText {v : Tree} {s : String} (h : v.IsWritten s) : v.IsText s :=
  ⟨[], s.toList, [], blanks_nil, h, blanks_nil, by simp⟩

theorem isWritten_writeText (s : String) : (Tree.text s).IsWritten (writeText s) := by
  have h := Writes.text (spells_flatMap_escapeChar s.toList)
  unfold Tree.IsWritten writeText
  rwa [String.toList_ofList]

theorem toList_intercalate_comma (s : String) (more : List String) :
    (String.intercalate "," (s :: more)).toList =
      s.toList ++ more.flatMap fun item => ',' :: item.toList := by
  induction more generalizing s with
  | nil => simp
  | cons item more ih =>
      rw [String.intercalate_cons_cons, String.toList_append, String.toList_append, ih]
      simp

theorem writes_moreItems {items : List (Tree × String)} (h : ∀ p ∈ items, p.1.IsWritten p.2) :
    Writes (.moreItems (items.map (·.1))) ((items.map (·.2)).flatMap fun s => ',' :: s.toList) := by
  induction items with
  | nil => exact .noMoreItems blanks_nil
  | cons p items ih =>
      exact .moreItems blanks_nil blanks_nil (h p (.head _)) (ih fun q hq => h q (.tail _ hq))

theorem isWritten_writeList (items : List (Tree × String)) (h : ∀ p ∈ items, p.1.IsWritten p.2) :
    (Tree.array (items.map (·.1))).IsWritten (writeList (items.map (·.2))) := by
  have hitems : Writes (.items (items.map (·.1)))
      (String.intercalate "," (items.map (·.2))).toList := by
    cases items with
    | nil => exact .noItems blanks_nil
    | cons p items =>
        rw [List.map_cons, List.map_cons, toList_intercalate_comma]
        exact .items blanks_nil (h p (.head _)) (writes_moreItems fun q hq => h q (.tail _ hq))
  have htext : (writeList (items.map (·.2))).toList =
      '[' :: ((String.intercalate "," (items.map (·.2))).toList ++ [']']) := by
    simp [writeList]
  rw [Tree.IsWritten, htext]
  exact .array hitems

theorem isWritten_writeTexts (texts : List String) :
    (Tree.array (texts.map .text)).IsWritten (writeList (texts.map writeText)) := by
  have hlist := isWritten_writeList (texts.map fun s => (.text s, writeText s)) (by
    simp [isWritten_writeText])
  rwa [List.map_map, List.map_map] at hlist

def writeMember (name value : String) : String := writeText name ++ ":" ++ value

theorem toList_writeMember (name value : String) :
    (writeMember name value).toList =
      memberText (name.toList.flatMap escapeChar) [] [] value.toList := by
  simp [writeMember, writeText, memberText]

theorem writes_moreMembers {ms : List (String × Tree × String)}
    (h : ∀ m ∈ ms, m.2.1.IsWritten m.2.2) :
    Writes (.moreMembers (ms.map fun m => (m.1, m.2.1)))
      ((ms.map fun m => writeMember m.1 m.2.2).flatMap fun s => ',' :: s.toList) := by
  induction ms with
  | nil => exact .noMoreMembers blanks_nil
  | cons m ms ih =>
      simp only [List.map_cons, List.flatMap_cons, toList_writeMember]
      exact .moreMembers blanks_nil blanks_nil (spells_flatMap_escapeChar _) blanks_nil blanks_nil
        (h m (.head _)) (ih fun m' hm => h m' (.tail _ hm))

theorem isWritten_writeObject (ms : List (String × Tree × String))
    (h : ∀ m ∈ ms, m.2.1.IsWritten m.2.2) :
    (Tree.object (ms.map fun m => (m.1, m.2.1))).IsWritten
      (writeObject (ms.map fun m => (m.1, m.2.2))) := by
  have hmembers : Writes (.members (ms.map fun m => (m.1, m.2.1)))
      (String.intercalate "," (ms.map fun m => writeMember m.1 m.2.2)).toList := by
    cases ms with
    | nil => exact .noMembers blanks_nil
    | cons m ms =>
        rw [List.map_cons, List.map_cons, toList_intercalate_comma, toList_writeMember]
        exact .members blanks_nil (spells_flatMap_escapeChar _) blanks_nil blanks_nil
          (h m (.head _)) (writes_moreMembers fun m' hm => h m' (.tail _ hm))
  have htext : (writeObject (ms.map fun m => (m.1, m.2.2))).toList =
      '\x7b' :: ((String.intercalate ","
        (ms.map fun m => writeMember m.1 m.2.2)).toList ++ ['\x7d']) := by
    simp [writeObject, writeMember, Function.comp_def]
  rw [Tree.IsWritten, htext]
  exact .object hmembers

end GraphLens.Json
