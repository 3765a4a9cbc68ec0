import Mathlib.Data.List.DropRight
import PersonaRuntime.Domain.Ids

-- `str::trim`
def trimmed (text : List Char) : List Char :=
  (text.dropWhile isWhiteSpace).rdropWhile isWhiteSpace
