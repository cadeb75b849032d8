/-! # Styled text

Texts that are repeated, padded, or put between the codes by which a terminal changes its style.
-/

namespace ImportCycles.Text

/-- A text between the codes that switch a terminal's style on and off. -/
def paint (colors : Bool) (code text : String) : String :=
  if colors then "\x1b[" ++ code ++ "m" ++ text ++ "\x1b[0m" else text

/-- A text repeated. -/
def repeated (n : Nat) (text : String) : String :=
  String.join (List.replicate n text)

/-- A number padded with blanks on the left. -/
def padLeft (width n : Nat) : String :=
  let digits := toString n
  repeated (width - digits.length) " " ++ digits

end ImportCycles.Text
