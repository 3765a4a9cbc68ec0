import Mathlib.Data.String.Basic

-- `str::from_utf8`
def fromUtf8 (bytes : List UInt8) : Option String :=
  String.fromUTF8? ⟨bytes.toArray⟩
