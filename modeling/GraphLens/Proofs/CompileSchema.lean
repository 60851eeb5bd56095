import GraphLens.Compile.Result
import GraphLens.Proofs.Json.Records
import GraphLens.Proofs.Json.Writing
import GraphLens.Proofs.MarkupGrammar

namespace GraphLens.CompileResult

open Json Json.Reader

/-- The list of tokens that a value is, as a list or as markup. -/
inductive TokensOf : Tree → List String → Prop
  | list (tokens : List String) : TokensOf (.array (tokens.map .text)) tokens
  | markup {s : String} {tokens : List (List Char)} (h : Markup.tokens s.toList = some tokens) :
      TokensOf (.text s) (tokens.map String.ofList)

/-- The list of messages that a value is, as a list or as the lines of a text. -/
inductive MessagesOf : Tree → List String → Prop
  | list (messages : List String) : MessagesOf (.array (messages.map .text)) messages
  | lines (s : String) : MessagesOf (.text s) (messageLines s)

inductive Parts : Tree → Tree → Tree → Tree → Tree → Prop
  | object {ms : List (String × Tree)} {tokens ast ptree analysis : Tree}
      (htokens : valuesOf "tokens" ms = [tokens]) (hast : valuesOf "ast" ms = [ast])
      (hptree : valuesOf "ptree" ms = [ptree]) (hanalysis : valuesOf "analysis" ms = [analysis]) :
      Parts (.object ms) tokens ast ptree analysis
  | list (tokens ast ptree analysis : Tree) :
      Parts (.array [tokens, ast, ptree, analysis]) tokens ast ptree analysis

/-- The value is an answer of a compiler, with this meaning. -/
def Means (v : Tree) (r : CompileResult) : Prop :=
  ∃ tokens analysis, Parts v tokens (.text r.ast) (.text r.ptree) analysis ∧
    TokensOf tokens r.tokens ∧ MessagesOf analysis r.analysis

section

variable {s t w : List Char} {v : Tree}

def listOrText? : Tree → Option ListOrText
  | .array vs => (vs.mapM Tree.text?).map .list
  | .text s => some (.text s)
  | _ => none

def tokens? (v : Tree) : Option (List String) := (listOrText? v).bind fun c => (tokensOf c).toOption

def messages? (v : Tree) : Option (List String) := (listOrText? v).map analysisOf

theorem map_bind_eq_none {α β γ : Type} {f : α → β} {g : β → Option γ}
    (h : ∀ a, g (f a) = none) (o : Option α) : (o.map f).bind g = none := by
  cases o with
  | none => rfl
  | some a => exact h a

theorem bind_text? (room : Nat) (v : Tree) : (v.value? room).bind text? = v.text? := by
  cases room with
  | zero =>
      cases v with
      | number => exact map_bind_eq_none (fun _ => rfl) _
      | null | bool | text | array | object => rfl
  | succ room =>
      cases v with
      | number | array | object => exact map_bind_eq_none (fun _ => rfl) _
      | null | bool | text => rfl

theorem mapM_bind_mapM {α β γ : Type} (f : α → Option β) (g : β → Option γ) (as : List α) :
    (as.mapM f).bind (·.mapM g) = as.mapM fun a => (f a).bind g := by
  induction as with
  | nil => rfl
  | cons a as ih =>
      rw [List.mapM_cons, List.mapM_cons, ← ih]
      cases f a with
      | none => rfl
      | some b => cases as.mapM f <;> cases hb : g b <;> simp [hb]

theorem bind_ofValue? (room : Nat) (v : Tree) :
    (v.value? (room + 1)).bind ListOrText.ofValue? = listOrText? v := by
  cases v with
  | array vs =>
      have htexts := mapM_bind_mapM (Tree.value? room) text? vs
      simp only [bind_text?] at htexts
      simp only [Tree.value?, listOrText?, ← htexts]
      cases vs.mapM (Tree.value? room) <;> rfl
  | number | object => exact map_bind_eq_none (fun _ => rfl) _
  | null | bool | text => rfl

theorem answers_listOrText (h : Writes (.value v) t) (hw : Blanks w) (hs : EndsNumeral s) :
    listOrText.Answers (w ++ (t ++ s)) s (listOrText? v) := by
  rw [← bind_ofValue? 125]
  refine (answers_value h (nestingLimit - 1) hw hs).bind fun value => ?_
  cases ListOrText.ofValue? value with
  | some content => exact takes_pure content
  | none => exact fails_reject _

def take : String → Draft → Tree → Option Draft
  | "tokens", d, v => (tokens? v).map fun tokens => { d with tokens := some tokens }
  | "ast", d, v => v.text?.map fun ast => { d with ast := some ast }
  | "ptree", d, v => v.text?.map fun ptree => { d with ptree := some ptree }
  | "analysis", d, v => (messages? v).map fun messages => { d with analysis := some messages }
  | _, _, _ => none

theorem fields_readAs_take : ∀ field ∈ record.fields, field.ReadsAs take := by
  intro field hfield
  simp only [record, List.mem_cons, List.not_mem_nil, or_false] at hfield
  rcases hfield with rfl | rfl | rfl | rfl <;> intro d v t w s h hw hs
  · change Answers _ _ _ ((tokens? v).map _)
    rw [tokens?, Option.map_bind]
    refine (answers_listOrText h hw hs).bind fun content => ?_
    cases hc : tokensOf content with
    | ok tokens =>
        rw [Function.comp_apply, hc]
        exact takes_pure _
    | error cause =>
        rw [Function.comp_apply, hc]
        exact fails_reject cause
  · exact (answers_textAs _ h hw s).map _
  · exact (answers_textAs _ h hw s).map _
  · change Answers _ _ _ ((messages? v).map _)
    rw [messages?, Option.map_map]
    exact (answers_listOrText h hw hs).map _

def memberNames : List String := ["tokens", "ast", "ptree", "analysis"]

theorem addMember_declared (d : Draft) (v : Tree) :
    record.addMember take d ("tokens", v) =
      (put tokens? d.tokens v).map (fun a => { d with tokens := a }) ∧
    record.addMember take d ("ast", v) =
      (put Tree.text? d.ast v).map (fun a => { d with ast := a }) ∧
    record.addMember take d ("ptree", v) =
      (put Tree.text? d.ptree v).map (fun a => { d with ptree := a }) ∧
    record.addMember take d ("analysis", v) =
      (put messages? d.analysis v).map (fun a => { d with analysis := a }) := by
  simp only [map_put]
  exact ⟨rfl, rfl, rfl, rfl⟩

theorem foldlM_addMember_eq_some_iff {d d' : Draft} {ms : List (String × Tree)} :
    ms.foldlM (record.addMember take) d = some d' ↔
      fill tokens? d.tokens (valuesOf "tokens" ms) = some d'.tokens ∧
      fill Tree.text? d.ast (valuesOf "ast" ms) = some d'.ast ∧
      fill Tree.text? d.ptree (valuesOf "ptree" ms) = some d'.ptree ∧
      fill messages? d.analysis (valuesOf "analysis" ms) = some d'.analysis := by
  induction ms generalizing d with
  | nil =>
      cases d
      cases d'
      simp [fill, valuesOf]
  | cons m ms ih =>
      obtain ⟨name, v⟩ := m
      rw [List.foldlM_cons, Option.bind_eq_bind, Option.bind_eq_some_iff]
      simp only [ih, valuesOf_cons]
      by_cases hname : name ∈ memberNames
      · obtain ⟨htokens, hast, hptree, hanalysis⟩ := addMember_declared d v
        simp only [memberNames, List.mem_cons, List.not_mem_nil, or_false] at hname
        rcases hname with rfl | rfl | rfl | rfl
        · simp [htokens, fill_cons, Option.bind_eq_some_iff]
          grind
        · simp [hast, fill_cons, Option.bind_eq_some_iff]
          grind
        · simp [hptree, fill_cons, Option.bind_eq_some_iff]
          grind
        · simp [hanalysis, fill_cons, Option.bind_eq_some_iff]
          grind
      · have hadd : record.addMember take d (name, v) = some d :=
          Record.addMember_of_not_mem hname d v
        simp only [memberNames, List.mem_cons, List.not_mem_nil, or_false, not_or] at hname
        simp [hadd, hname]

theorem finish?_eq_some_iff {d : Draft} {r : CompileResult} :
    record.finish? d = some r ↔
      d.tokens = some r.tokens ∧ d.ast = some r.ast ∧ d.ptree = some r.ptree ∧
        d.analysis = some r.analysis := by
  obtain ⟨tokens, ast, ptree, analysis⟩ := d
  obtain ⟨tokens', ast', ptree', analysis'⟩ := r
  cases tokens with
  | none => simp [Record.finish?, record, Except.toOption]
  | some tokens =>
      cases ast with
      | none => simp [Record.finish?, record, Except.toOption]
      | some ast =>
          cases ptree with
          | none => simp [Record.finish?, record, Except.toOption]
          | some ptree => cases analysis <;> simp [Record.finish?, record, Except.toOption]

theorem mapM_text?_eq_some_iff {vs : List Tree} {texts : List String} :
    vs.mapM Tree.text? = some texts ↔ vs = texts.map .text := by
  induction vs generalizing texts with
  | nil => cases texts <;> simp
  | cons v vs ih =>
      cases texts <;> simp [List.mapM_cons, Option.bind_eq_some_iff, Tree.text?_eq_some_iff, ih]

theorem tokens?_eq_some_iff {tokens : List String} :
    tokens? v = some tokens ↔ TokensOf v tokens := by
  constructor
  · intro h
    cases v with
    | array vs =>
        simp only [tokens?, listOrText?, Option.bind_map, Option.bind_eq_some_iff] at h
        obtain ⟨texts, hvs, htexts⟩ := h
        obtain rfl := mapM_text?_eq_some_iff.1 hvs
        cases htexts
        exact .list tokens
    | text s =>
        simp only [tokens?, listOrText?, Option.bind_some, tokensOf] at h
        cases hs : Markup.tokens s.toList with
        | none => simp [hs, Except.toOption] at h
        | some texts =>
            simp only [hs, Except.toOption, Option.some.injEq] at h
            exact h ▸ .markup hs
    | null | bool | number | object => cases h
  · intro h
    cases h with
    | list => simp [tokens?, listOrText?, mapM_text?_eq_some_iff.2 rfl, tokensOf, Except.toOption]
    | markup h => simp [tokens?, listOrText?, tokensOf, h, Except.toOption]

theorem messages?_eq_some_iff {messages : List String} :
    messages? v = some messages ↔ MessagesOf v messages := by
  constructor
  · intro h
    cases v with
    | array vs =>
        simp only [messages?, listOrText?, Option.map_map, Option.map_eq_some_iff] at h
        obtain ⟨texts, hvs, rfl⟩ := h
        obtain rfl := mapM_text?_eq_some_iff.1 hvs
        exact .list texts
    | text s =>
        cases h
        exact .lines s
    | null | bool | number | object => cases h
  · intro h
    cases h with
    | list => simp [messages?, listOrText?, mapM_text?_eq_some_iff.2 rfl, analysisOf]
    | lines s => rfl

theorem ofTree?_object_eq_some_iff {ms : List (String × Tree)} {r : CompileResult} :
    record.ofTree? take (.object ms) = some r ↔ Means (.object ms) r := by
  simp only [Record.ofTree?, Option.bind_eq_some_iff, foldlM_addMember_eq_some_iff,
    finish?_eq_some_iff]
  constructor
  · rintro ⟨d, ⟨htokens, hast, hptree, hanalysis⟩, h⟩
    rw [h.1] at htokens
    rw [h.2.1] at hast
    rw [h.2.2.1] at hptree
    rw [h.2.2.2] at hanalysis
    obtain ⟨tokens, htokens, ht⟩ := fill_none_eq_some_iff.1 htokens
    obtain ⟨ast, hast, ha⟩ := fill_none_eq_some_iff.1 hast
    obtain ⟨ptree, hptree, hp⟩ := fill_none_eq_some_iff.1 hptree
    obtain ⟨analysis, hanalysis, hm⟩ := fill_none_eq_some_iff.1 hanalysis
    obtain rfl := Tree.text?_eq_some_iff.1 ha
    obtain rfl := Tree.text?_eq_some_iff.1 hp
    exact ⟨tokens, analysis, .object htokens hast hptree hanalysis, tokens?_eq_some_iff.1 ht,
      messages?_eq_some_iff.1 hm⟩
  · rintro ⟨tokens, analysis, hparts, ht, hm⟩
    cases hparts with
    | object htokens hast hptree hanalysis =>
        refine ⟨⟨some r.tokens, some r.ast, some r.ptree, some r.analysis⟩, ⟨?_, ?_, ?_, ?_⟩,
          rfl, rfl, rfl, rfl⟩
        · exact fill_none_eq_some_iff.2 ⟨tokens, htokens, tokens?_eq_some_iff.2 ht⟩
        · exact fill_none_eq_some_iff.2 ⟨_, hast, rfl⟩
        · exact fill_none_eq_some_iff.2 ⟨_, hptree, rfl⟩
        · exact fill_none_eq_some_iff.2 ⟨analysis, hanalysis, messages?_eq_some_iff.2 hm⟩

theorem ofTree?_four (t a p m : Tree) :
    record.ofTree? take (.array [t, a, p, m]) = (tokens? t).bind fun tokens =>
      a.text?.bind fun ast => p.text?.bind fun ptree => (messages? m).map fun messages =>
        ⟨tokens, ast, ptree, messages⟩ := by
  change ((tokens? t).map _).bind (fun d => (a.text?.map _).bind fun d =>
    (p.text?.map _).bind fun d => ((messages? m).map _).bind record.finish?) = _
  cases tokens? t <;> cases a.text? <;> cases p.text? <;> cases messages? m <;> rfl

theorem ofTree?_array_eq_some_iff {vs : List Tree} {r : CompileResult} :
    record.ofTree? take (.array vs) = some r ↔ Means (.array vs) r := by
  constructor
  · intro h
    rcases vs with _ | ⟨t, _ | ⟨a, _ | ⟨p, _ | ⟨m, _ | ⟨x, vs⟩⟩⟩⟩⟩
    case cons.cons.cons.cons.nil =>
        simp only [ofTree?_four, Option.bind_eq_some_iff, Option.map_eq_some_iff] at h
        obtain ⟨tokens, ht, ast, ha, ptree, hp, messages, hm, rfl⟩ := h
        obtain rfl := Tree.text?_eq_some_iff.1 ha
        obtain rfl := Tree.text?_eq_some_iff.1 hp
        exact ⟨t, m, .list t _ _ m, tokens?_eq_some_iff.1 ht, messages?_eq_some_iff.1 hm⟩
    all_goals simp [Record.ofTree?, Record.ofItems?, record] at h
  · rintro ⟨tokens, analysis, hparts, ht, hm⟩
    cases hparts with
    | list =>
        rw [ofTree?_four, tokens?_eq_some_iff.2 ht, messages?_eq_some_iff.2 hm]
        rfl

theorem ofTree?_eq_some_iff {r : CompileResult} : record.ofTree? take v = some r ↔ Means v r := by
  cases v with
  | object ms => exact ofTree?_object_eq_some_iff
  | array vs => exact ofTree?_array_eq_some_iff
  | null | bool | number | text =>
      refine iff_of_false (by simp [Record.ofTree?]) ?_
      rintro ⟨tokens, analysis, hparts, -⟩
      cases hparts

theorem ofJson_eq_ok_iff {raw : String} {r : CompileResult} (h : v.IsText raw) :
    ofJson raw = .ok r ↔ Means v r :=
  (Record.readAll_read_iff fields_readAs_take h).trans ofTree?_eq_some_iff

end

/-- The members of an object that an answer consists of. -/
def declared (ms : List (String × Tree)) : List (String × Tree) :=
  ms.filter (·.1 ∈ memberNames)

/-- Two values with the same parts, in any order and among any other members, or with the same
lists of tokens and messages in any of their forms. -/
inductive SaysTheSame : Tree → Tree → Prop
  | members {ms ms' : List (String × Tree)} (h : (declared ms).Perm (declared ms')) :
      SaysTheSame (.object ms) (.object ms')
  | forms {v v' tokens tokens' ast ptree analysis analysis' : Tree}
      (h : Parts v tokens ast ptree analysis) (h' : Parts v' tokens' ast ptree analysis')
      (htokens : ∀ ts, TokensOf tokens ts ↔ TokensOf tokens' ts)
      (hanalysis : ∀ ms, MessagesOf analysis ms ↔ MessagesOf analysis' ms) : SaysTheSame v v'

theorem valuesOf_declared {name : String} (h : name ∈ memberNames) (ms : List (String × Tree)) :
    valuesOf name (declared ms) = valuesOf name ms := by
  unfold valuesOf declared
  rw [List.filter_filter]
  congr 1
  refine List.filter_congr fun m _ => ?_
  by_cases hm : m.1 = name
  · simp [hm, h]
  · simp [hm]

theorem Parts.of_perm {ms ms' : List (String × Tree)} {tokens ast ptree analysis : Tree}
    (h : (declared ms).Perm (declared ms'))
    (hparts : Parts (.object ms) tokens ast ptree analysis) :
    Parts (.object ms') tokens ast ptree analysis := by
  have hvalues {name : String} {v : Tree} (hname : name ∈ memberNames)
      (hv : valuesOf name ms = [v]) : valuesOf name ms' = [v] := by
    rw [← valuesOf_declared hname] at hv ⊢
    rw [← List.perm_singleton, ← hv]
    exact ((h.filter _).map _).symm
  cases hparts with
  | object htokens hast hptree hanalysis =>
      exact .object (hvalues (by decide) htokens) (hvalues (by decide) hast)
        (hvalues (by decide) hptree) (hvalues (by decide) hanalysis)

theorem Parts.unique {v tokens tokens' ast ast' ptree ptree' analysis analysis' : Tree}
    (h : Parts v tokens ast ptree analysis) (h' : Parts v tokens' ast' ptree' analysis') :
    tokens = tokens' ∧ ast = ast' ∧ ptree = ptree' ∧ analysis = analysis' := by
  cases h with
  | list => cases h'; exact ⟨rfl, rfl, rfl, rfl⟩
  | object ht ha hp hm =>
      cases h' with
      | object ht' ha' hp' hm' =>
          have hone {v v' : Tree} {vs : List Tree} (h : vs = [v]) (h' : vs = [v']) : v = v' :=
            List.singleton_inj.1 (h.symm.trans h')
          exact ⟨hone ht ht', hone ha ha', hone hp hp', hone hm hm'⟩

theorem SaysTheSame.symm {v v' : Tree} (h : SaysTheSame v v') : SaysTheSame v' v := by
  cases h with
  | members h => exact .members h.symm
  | forms h h' htokens hanalysis =>
      exact .forms h' h (fun ts => (htokens ts).symm) fun ms => (hanalysis ms).symm

theorem SaysTheSame.means {v v' : Tree} {r : CompileResult} (h : SaysTheSame v v')
    (hv : Means v r) : Means v' r := by
  obtain ⟨tokens, analysis, hparts, ht, hm⟩ := hv
  cases h with
  | members h => exact ⟨tokens, analysis, hparts.of_perm h, ht, hm⟩
  | forms h h' htokens hanalysis =>
      obtain ⟨rfl, rfl, rfl, rfl⟩ := hparts.unique h
      exact ⟨_, _, h', (htokens _).1 ht, (hanalysis _).1 hm⟩

def tree (r : CompileResult) : Tree :=
  .object [("tokens", .array (r.tokens.map .text)), ("ast", .text r.ast), ("ptree", .text r.ptree),
    ("analysis", .array (r.analysis.map .text))]

theorem means_tree (r : CompileResult) : Means r.tree r :=
  ⟨_, _, .object rfl rfl rfl rfl, .list r.tokens, .list r.analysis⟩

theorem isText_toJson (r : CompileResult) : r.tree.IsText r.toJson := by
  have hmembers := isWritten_writeObject
    [("tokens", .array (r.tokens.map .text), writeList (r.tokens.map writeText)),
      ("ast", .text r.ast, writeText r.ast), ("ptree", .text r.ptree, writeText r.ptree),
      ("analysis", .array (r.analysis.map .text), writeList (r.analysis.map writeText))]
    (by simp [isWritten_writeText, isWritten_writeTexts])
  exact hmembers.isText

/-- A text of a value is decoded if the value is an answer of a compiler, and as that answer. -/
theorem ofJson_accepts_exactly_the_answers {v : Tree} {raw : String} (h : v.IsText raw) :
    (∀ r, ofJson raw = .ok r ↔ Means v r) ∧
    (∀ {v' raw'}, v'.IsText raw' → SaysTheSame v v' →
      ∀ r, ofJson raw = .ok r ↔ ofJson raw' = .ok r) ∧
    ∀ r : CompileResult, ofJson r.toJson = .ok r := by
  refine ⟨fun r => ofJson_eq_ok_iff h, ?_, ?_⟩
  · intro v' raw' h' hsame r
    rw [ofJson_eq_ok_iff h, ofJson_eq_ok_iff h']
    exact ⟨hsame.means, hsame.symm.means⟩
  · intro r
    exact (ofJson_eq_ok_iff (isText_toJson r)).2 (means_tree r)

theorem reordered_answer_is_the_listed_one :
    ofJson ("\x7b\"ptree\":\"p\",\"x\":[\x7b\x7d],\"ast\":\"g\",\"analysis\":\" m\\n\"," ++
      "\"tokens\":[\"t\"]\x7d") = .ok ⟨["t"], "g", "p", ["m"]⟩ ∧
    ofJson "[\"<code><p>t</p></code>\",\"g\",\"p\",[\"m\"]]" = .ok ⟨["t"], "g", "p", ["m"]⟩ := by
  have hobject : (Tree.object [("ptree", .text "p"), ("x", .array [.object []]),
      ("ast", .text "g"), ("analysis", .text " m\n"), ("tokens", .array [.text "t"])]).IsText
      (writeObject [("ptree", writeText "p"), ("x", writeList [writeObject []]),
        ("ast", writeText "g"), ("analysis", writeText " m\n"),
        ("tokens", writeList [writeText "t"])]) := by
    have hother := isWritten_writeList [(.object [], writeObject [])] (by
      simpa using isWritten_writeObject [] (by simp))
    have hwritten := isWritten_writeObject
      [("ptree", .text "p", writeText "p"),
        ("x", .array [.object []], writeList [writeObject []]), ("ast", .text "g", writeText "g"),
        ("analysis", .text " m\n", writeText " m\n"),
        ("tokens", .array [.text "t"], writeList [writeText "t"])] (by
      simpa [isWritten_writeText] using ⟨hother, isWritten_writeTexts ["t"]⟩)
    exact hwritten.isText
  have hlist : (Tree.array [.text "<code><p>t</p></code>", .text "g", .text "p",
      .array [.text "m"]]).IsText (writeList [writeText "<code><p>t</p></code>", writeText "g",
        writeText "p", writeList [writeText "m"]]) := by
    have hwritten := isWritten_writeList
      [(.text "<code><p>t</p></code>", writeText "<code><p>t</p></code>"),
        (.text "g", writeText "g"), (.text "p", writeText "p"),
        (.array [.text "m"], writeList [writeText "m"])] (by
      simpa [isWritten_writeText] using isWritten_writeTexts ["m"])
    exact hwritten.isText
  have hmarkup : Markup.tokens "<code><p>t</p></code>".toList = some [['t']] :=
    Markup.tokens_eq_some_iff.2 ⟨⟨[], [⟨['t'], [], by decide, by simp⟩], by simp⟩, by decide, rfl⟩
  have htokens (ts : List String) : TokensOf (.array [.text "t"]) ts ↔
      TokensOf (.text "<code><p>t</p></code>") ts := by
    have hsame : tokens? (.array [.text "t"]) = tokens? (.text "<code><p>t</p></code>") :=
      (tokens?_eq_some_iff.2 (.list ["t"])).trans (tokens?_eq_some_iff.2 (.markup hmarkup)).symm
    rw [← tokens?_eq_some_iff, ← tokens?_eq_some_iff, hsame]
  have hanalysis (ms : List String) : MessagesOf (.text " m\n") ms ↔
      MessagesOf (.array [.text "m"]) ms := by
    have hsame : messages? (.text " m\n") = messages? (.array [.text "m"]) := by decide
    rw [← messages?_eq_some_iff, ← messages?_eq_some_iff, hsame]
  have accepts := ofJson_accepts_exactly_the_answers hobject
  have hread := (accepts.1 ⟨["t"], "g", "p", ["m"]⟩).2
    ⟨_, _, .object rfl rfl rfl rfl, .list ["t"], (hanalysis _).2 (.list ["m"])⟩
  have hagain := (accepts.2.1 hlist
    (.forms (.object rfl rfl rfl rfl) (.list _ _ _ _) htokens hanalysis) _).1 hread
  exact ⟨hread, hagain⟩

end GraphLens.CompileResult
