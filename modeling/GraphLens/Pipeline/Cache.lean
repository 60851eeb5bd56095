namespace GraphLens

structure GraphImage (ι : Type) where
  spec : String
  image : ι

structure GraphCache (ι : Type) where
  entry : Option (GraphImage ι)

namespace GraphCache

variable {ι : Type}

def empty : GraphCache ι := ⟨none⟩

/-- The committed picture, if it was made from exactly this specification. -/
def lookup (c : GraphCache ι) (spec : String) : Option ι :=
  (c.entry.filter (·.spec == spec)).map (·.image)

def commit (_ : GraphCache ι) (spec : String) (image : ι) : GraphCache ι := ⟨some ⟨spec, image⟩⟩

def clear (c : GraphCache ι) : Option (GraphImage ι) × GraphCache ι := (c.entry, empty)

end GraphCache

end GraphLens
