namespace GraphLens.Text

def dropReturn (line : List Char) : List Char :=
  if line.getLast? == some '\r' then line.dropLast else line

/-- The lines of a text. Each is ended by a line feed, the last one perhaps by the end of the text;
a carriage return belongs to the end of its line only where a line feed follows it. -/
def lines (s : List Char) : List (List Char) :=
  let pieces := s.splitOn '\n'
  pieces.dropLast.map dropReturn ++ pieces.getLast?.toList.filter (!·.isEmpty)

end GraphLens.Text
