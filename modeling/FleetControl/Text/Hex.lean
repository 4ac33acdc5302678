namespace FleetControl.Text

def hexDigit? (c : Char) : Option Nat :=
  if '0' ≤ c && c ≤ '9' then some (c.toNat - '0'.toNat)
  else if 'a' ≤ c && c ≤ 'f' then some (c.toNat - 'a'.toNat + 10)
  else if 'A' ≤ c && c ≤ 'F' then some (c.toNat - 'A'.toNat + 10)
  else none

theorem hexDigit?_digitChar {n : Nat} (h : n < 16) :
    hexDigit? n.digitChar = some n ∧ hexDigit? n.digitChar.toUpper = some n := by
  have hall : ∀ n < 16, hexDigit? (Nat.digitChar n) = some n ∧
    hexDigit? (Nat.digitChar n).toUpper = some n := by decide
  exact hall n h

end FleetControl.Text
