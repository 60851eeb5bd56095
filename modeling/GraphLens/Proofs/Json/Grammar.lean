import GraphLens.Json.Value
import GraphLens.Proofs.Json.Reading

namespace GraphLens.Json

open Reader

inductive Tree where
  | null
  | bool (b : Bool)
  | number (n : Numeral)
  | text (s : String)
  | array (items : List Tree)
  | object (members : List (String × Tree))

structure Digits (ds : List Char) : Prop where
  ne_nil : ds ≠ []
  digit : ∀ d ∈ ds, isDigit d = true

inductive FractionText : List Char → List Char → Prop
  | absent : FractionText [] []
  | present {ds : List Char} (h : Digits ds) : FractionText ds ('.' :: ds)

inductive ExponentText : Option (Bool × List Char) → List Char → Prop
  | absent : ExponentText none []
  | present {mark : Char} {negative : Bool} {sign ds : List Char} (hmark : mark = 'e' ∨ mark = 'E')
      (hsign : (negative, sign) ∈ [(false, []), (false, ['+']), (true, ['-'])]) (h : Digits ds) :
      ExponentText (some (negative, ds)) (mark :: (sign ++ ds))

/-- The text of a numeral; no zero stands before other digits of the whole part. -/
inductive NumeralText : Numeral → List Char → Prop
  | parts {negative : Bool} {whole fraction t u : List Char} {exponent : Option (Bool × List Char)}
      (hwhole : Digits whole) (hzero : whole.head? = some '0' → whole = ['0'])
      (hfraction : FractionText fraction t) (hexponent : ExponentText exponent u) :
      NumeralText ⟨negative, whole, fraction, exponent⟩
        ((if negative then ['-'] else []) ++ whole ++ t ++ u)

def HexDigit (k : Nat) (c : Char) : Prop :=
  k < 16 ∧ (c = Nat.digitChar k ∨ c = (Nat.digitChar k).toUpper)

inductive CodeUnit : Nat → List Char → Prop
  | digits {i j k l : Nat} {a b c d : Char} (ha : HexDigit i a) (hb : HexDigit j b)
      (hc : HexDigit k c) (hd : HexDigit l d) :
      CodeUnit (16 * (16 * (16 * i + j) + k) + l) [a, b, c, d]

def shortEscapes : List (Char × Char) :=
  [('"', '"'), ('\\', '\\'), ('/', '/'), ('b', '\x08'), ('f', '\x0c'), ('n', '\n'), ('r', '\r'),
    ('t', '\t')]

/-- The characters of a text as they may stand between the marks. A character beyond the first
plane can be escaped by a pair of code units. The escape of one half of a pair stands for no
character, so no text is spelled with it; the reader lets it pass in a text it skips. -/
inductive Spells : List Char → List Char → Prop
  | nil : Spells [] []
  | plain {c : Char} {cs t : List Char} (printable : 0x20 ≤ c.toNat) (hmark : c ≠ '"')
      (hescape : c ≠ '\\') (rest : Spells cs t) : Spells (c :: cs) (c :: t)
  | short {c e : Char} {cs t : List Char} (h : (e, c) ∈ shortEscapes) (rest : Spells cs t) :
      Spells (c :: cs) ('\\' :: e :: t)
  | unit {c : Char} {ds cs t : List Char} (h : CodeUnit c.toNat ds) (rest : Spells cs t) :
      Spells (c :: cs) ('\\' :: 'u' :: (ds ++ t))
  | pair {c : Char} {n : Nat} {ds es cs t : List Char} (hc : c.toNat = 0x10000 + n)
      (leading : CodeUnit (0xd800 + n / 0x400) ds) (trailing : CodeUnit (0xdc00 + n % 0x400) es)
      (rest : Spells cs t) :
      Spells (c :: cs) ('\\' :: 'u' :: (ds ++ '\\' :: 'u' :: (es ++ t)))

/-- What a piece of a JSON text stands for. -/
inductive Piece where
  | value (v : Tree)
  | items (vs : List Tree)
  | moreItems (vs : List Tree)
  | members (ms : List (String × Tree))
  | moreMembers (ms : List (String × Tree))

def memberText (k w w' t : List Char) : List Char := '"' :: (k ++ '"' :: (w ++ ':' :: (w' ++ t)))

inductive Writes : Piece → List Char → Prop
  | null : Writes (.value .null) ['n', 'u', 'l', 'l']
  | bool (b : Bool) :
      Writes (.value (.bool b)) (if b then ['t', 'r', 'u', 'e'] else ['f', 'a', 'l', 's', 'e'])
  | number {n : Numeral} {t : List Char} (h : NumeralText n t) : Writes (.value (.number n)) t
  | text {s : String} {t : List Char} (h : Spells s.toList t) :
      Writes (.value (.text s)) ('"' :: (t ++ ['"']))
  | array {vs : List Tree} {t : List Char} (h : Writes (.items vs) t) :
      Writes (.value (.array vs)) ('[' :: (t ++ [']']))
  | object {ms : List (String × Tree)} {t : List Char} (h : Writes (.members ms) t) :
      Writes (.value (.object ms)) ('\x7b' :: (t ++ ['\x7d']))
  | noItems {w : List Char} (hw : Blanks w) : Writes (.items []) w
  | items {v : Tree} {vs : List Tree} {w t u : List Char} (hw : Blanks w)
      (first : Writes (.value v) t) (rest : Writes (.moreItems vs) u) :
      Writes (.items (v :: vs)) (w ++ (t ++ u))
  | noMoreItems {w : List Char} (hw : Blanks w) : Writes (.moreItems []) w
  | moreItems {v : Tree} {vs : List Tree} {w w' t u : List Char} (hw : Blanks w) (hw' : Blanks w')
      (next : Writes (.value v) t) (rest : Writes (.moreItems vs) u) :
      Writes (.moreItems (v :: vs)) (w ++ ',' :: (w' ++ (t ++ u)))
  | noMembers {w : List Char} (hw : Blanks w) : Writes (.members []) w
  | members {name : String} {v : Tree} {ms : List (String × Tree)} {w k w₁ w₂ t u : List Char}
      (hw : Blanks w) (key : Spells name.toList k) (hw₁ : Blanks w₁) (hw₂ : Blanks w₂)
      (first : Writes (.value v) t) (rest : Writes (.moreMembers ms) u) :
      Writes (.members ((name, v) :: ms)) (w ++ (memberText k w₁ w₂ t ++ u))
  | noMoreMembers {w : List Char} (hw : Blanks w) : Writes (.moreMembers []) w
  | moreMembers {name : String} {v : Tree} {ms : List (String × Tree)}
      {w w' k w₁ w₂ t u : List Char} (hw : Blanks w) (hw' : Blanks w')
      (key : Spells name.toList k) (hw₁ : Blanks w₁) (hw₂ : Blanks w₂)
      (next : Writes (.value v) t) (rest : Writes (.moreMembers ms) u) :
      Writes (.moreMembers ((name, v) :: ms)) (w ++ ',' :: (w' ++ (memberText k w₁ w₂ t ++ u)))

/-- The text is one of the value, with blanks around it. -/
def Tree.IsText (v : Tree) (s : String) : Prop :=
  ∃ w t w', Blanks w ∧ Writes (.value v) t ∧ Blanks w' ∧ s.toList = w ++ (t ++ w')

end GraphLens.Json
