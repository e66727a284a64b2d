set_option autoImplicit false

/-! # Decimal numbers in columns

Integers in decimal, and texts padded on the left to a width. Padding never cuts: what is wider
than its column is written in full.
-/

namespace PacketPath.Text

/-- An integer in decimal, a negative one with a minus sign. -/
def decimal : Int → String
  | .ofNat n => n.repr
  | .negSucc n => "-" ++ (n + 1).repr

/-- Pads a text on the left to at least `width` characters. -/
def padLeft (width : Nat) (pad : Char) (s : String) : String :=
  String.ofList (List.replicate (width - s.length) pad) ++ s

/-- An integer padded with zeros between its sign and its digits; the sign counts as a column. -/
def zeroPadded (width : Nat) : Int → String
  | .ofNat n => padLeft width '0' n.repr
  | .negSucc n => "-" ++ padLeft (width - 1) '0' (n + 1).repr

theorem length_padLeft (width : Nat) (pad : Char) (s : String) :
    (padLeft width pad s).length = max width s.length := by
  simp [padLeft]; omega

end PacketPath.Text
