import GraphLens.Compile.Markup
import GraphLens.Json.Record
import GraphLens.Json.Writer
import GraphLens.Text.Lines

namespace GraphLens

/-- What a compiler answers. Tokens may come as a list or as markup, the messages of the analysis
as a list or as the lines of one text. -/
structure CompileResult where
  tokens : List String
  ast : String
  ptree : String
  analysis : List String
  deriving DecidableEq

def messageLines (text : String) : List String :=
  ((Text.lines text.toList).map Text.trim).filter (!·.isEmpty) |>.map String.ofList

namespace CompileResult

open Json

def text? : Value → Option String
  | .text s => some s
  | _ => none

inductive ListOrText where
  | list (items : List String)
  | text (s : String)

def ListOrText.ofValue? : Value → Option ListOrText
  | .array items => (items.mapM text?).map .list
  | .text s => some (.text s)
  | _ => none

def listOrText : Reader ListOrText := do
  match ListOrText.ofValue? (← Reader.value (nestingLimit - 1)) with
  | some content => return content
  | none =>
    Reader.reject (.refused "data did not match any variant of untagged enum ListOrText")

def tokensOf : ListOrText → Except Cause (List String)
  | .list tokens => .ok tokens
  | .text markup =>
    match Markup.tokens markup.toList with
    | some tokens => .ok (tokens.map String.ofList)
    | none => .error (.refused "token markup is not a <code> block of <p> entries")

def analysisOf : ListOrText → List String
  | .list messages => messages
  | .text lines => messageLines lines

structure Draft where
  tokens : Option (List String) := none
  ast : Option String := none
  ptree : Option String := none
  analysis : Option (List String) := none

def record : Record Draft CompileResult where
  title := "struct CompileResult"
  blank := {}
  fields :=
    [{ name := "tokens"
       isSet := (·.tokens.isSome)
       read := fun d => do
        match tokensOf (← listOrText) with
        | .ok tokens => return { d with tokens := some tokens }
        | .error cause => Reader.reject cause },
     { name := "ast"
       isSet := (·.ast.isSome)
       read := fun d => return { d with ast := some (← Reader.textAs "a string") } },
     { name := "ptree"
       isSet := (·.ptree.isSome)
       read := fun d => return { d with ptree := some (← Reader.textAs "a string") } },
     { name := "analysis"
       isSet := (·.analysis.isSome)
       read := fun d => return { d with analysis := some (analysisOf (← listOrText)) } }]
  mayEndEarly := false
  finish d :=
    match d with
    | ⟨none, _, _, _⟩ => .error (.missingField "tokens")
    | ⟨_, none, _, _⟩ => .error (.missingField "ast")
    | ⟨_, _, none, _⟩ => .error (.missingField "ptree")
    | ⟨_, _, _, none⟩ => .error (.missingField "analysis")
    | ⟨some tokens, some ast, some ptree, some analysis⟩ => .ok ⟨tokens, ast, ptree, analysis⟩

def ofJson (raw : String) : Except Fault CompileResult := Reader.readAll record.read raw

def toJson (r : CompileResult) : String :=
  writeObject
    [("tokens", writeList (r.tokens.map writeText)), ("ast", writeText r.ast),
      ("ptree", writeText r.ptree), ("analysis", writeList (r.analysis.map writeText))]

end CompileResult

end GraphLens
