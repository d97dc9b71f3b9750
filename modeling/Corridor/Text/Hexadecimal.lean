namespace Corridor.Text

def hexDigit? (c : Char) : Option Nat :=
  if '0' ≤ c ∧ c ≤ '9' then some (c.toNat - 48)
  else if 'a' ≤ c ∧ c ≤ 'f' then some (c.toNat - 87)
  else if 'A' ≤ c ∧ c ≤ 'F' then some (c.toNat - 55)
  else none

def hexDigit (n : Nat) : Char := Char.ofNat (if n < 10 then n + 48 else n + 87)

/-- Two places; the first may be a plus sign. -/
def hexByte? (high low : Char) : Option Nat :=
  if high = '+' then hexDigit? low
  else do
    let high ← hexDigit? high
    let low ← hexDigit? low
    some (high * 16 + low)

theorem hexDigit?_hexDigit : ∀ n < 16, hexDigit? (hexDigit n) = some n := by decide

end Corridor.Text
