/-!
Numbers in hexadecimal digits.
-/

namespace PipelineServer.Text

/-- The value of a hexadecimal digit. -/
def hexValue? (c : Char) : Option Nat :=
  if '0' ≤ c && c ≤ '9' then some (c.toNat - 48)
  else if 'a' ≤ c && c ≤ 'f' then some (c.toNat - 87)
  else if 'A' ≤ c && c ≤ 'F' then some (c.toNat - 55)
  else none

/-- Reads the numbers of a text. Those before are `read`, in reverse, and `value` is the one that is
being read. All that is not a digit divides numbers. -/
def hexNumbersFrom (read : List Nat) (value : Option Nat) : List Char → List Nat
  | [] => (value.toList ++ read).reverse
  | c :: rest =>
      match hexValue? c with
      | some digit => hexNumbersFrom read (some (value.getD 0 * 16 + digit)) rest
      | none => hexNumbersFrom (value.toList ++ read) none rest

/-- The numbers of a text, in order. -/
def hexNumbers (text : String) : List Nat := hexNumbersFrom [] none text.toList

end PipelineServer.Text
