import GraphLens.Decimal.Layout
import GraphLens.Text.Quoted

namespace GraphLens

inductive ScriptValue where
  | null
  | undefined
  | bool (b : Bool)
  | number (x : Float)
  | text (s : String)

inductive ScriptResult where
  | returns (value : ScriptValue)
  | throws (value : ScriptValue)

namespace ScriptValue

def numberLayout : Decimal.Layout where
  tie := .up
  plainFrom := -400
  plainBelow := 400
  pointZero := false
  plusSign := false
  nan := "NaN"
  infinity := "inf"
  negInfinity := "-inf"

def describe : ScriptValue → String
  | null => "JsValue(null)"
  | undefined => "JsValue(undefined)"
  | bool b => "JsValue(" ++ (if b then "true" else "false") ++ ")"
  | number x => "JsValue(" ++ numberLayout.render x ++ ")"
  | text s => "JsValue(" ++ Text.quoted s ++ ")"

def text? : ScriptValue → Option String
  | text s => some s
  | _ => none

def message (v : ScriptValue) : String := v.text?.getD v.describe

end ScriptValue

end GraphLens
