namespace Corridor.Numeral

def ofNat (n : Nat) : List Char := Nat.toDigits 10 n

def ofInt : Int → List Char
  | .ofNat n => ofNat n
  | .negSucc n => '-' :: ofNat (n + 1)

def digits? (text : List Char) : Option Nat :=
  if text ≠ [] ∧ text.all Char.isDigit then some (Nat.ofDigitChars 10 text 0) else none

def unsigned? (max : Nat) (text : List Char) : Option Nat :=
  (digits? (match text with
    | '+' :: rest => rest
    | _ => text)).filter (· ≤ max)

def signed? (low high : Int) (text : List Char) : Option Int :=
  ((match text with
    | '+' :: rest => (digits? rest).map Int.ofNat
    | '-' :: rest => (digits? rest).map fun n => -Int.ofNat n
    | _ => (digits? text).map Int.ofNat) : Option Int).filter fun n => low ≤ n ∧ n ≤ high

def minInt64 : Int := -9223372036854775808
def maxInt64 : Int := 9223372036854775807
def minInt32 : Int := -2147483648
def maxInt32 : Int := 2147483647
def maxNat64 : Nat := 18446744073709551615
def maxNat32 : Nat := 4294967295

def IsInt32 (n : Int) : Prop := minInt32 ≤ n ∧ n ≤ maxInt32

def IsInt64 (n : Int) : Prop := minInt64 ≤ n ∧ n ≤ maxInt64

instance (n : Int) : Decidable (IsInt32 n) := inferInstanceAs (Decidable (_ ∧ _))

instance (n : Int) : Decidable (IsInt64 n) := inferInstanceAs (Decidable (_ ∧ _))

def int64? : List Char → Option Int := signed? minInt64 maxInt64

theorem ofNat_ne_nil (n : Nat) : ofNat n ≠ [] := by
  exact Nat.toDigits_ne_nil

theorem isDigit_of_mem_ofNat {n : Nat} {c : Char} (member : c ∈ ofNat n) : c.isDigit = true :=
  Nat.isDigit_of_mem_toDigits (by decide) (by decide) member

theorem digits?_ofNat (n : Nat) : digits? (ofNat n) = some n := by
  have digits : (ofNat n).all Char.isDigit = true :=
    List.all_eq_true.mpr fun _ member => isDigit_of_mem_ofNat member
  rw [digits?, if_pos ⟨ofNat_ne_nil n, digits⟩, ofNat, Nat.ofDigitChars_ten_toDigits]

theorem ofNat_ne_cons {sign : Char} (other : sign.isDigit = false) (n : Nat) (rest : List Char) :
    ofNat n ≠ sign :: rest := by
  intro signed
  have member : sign ∈ ofNat n := by
    rw [signed]
    exact List.mem_cons_self
  rw [isDigit_of_mem_ofNat member] at other
  cases other

theorem unsigned?_ofNat {max n : Nat} (bound : n ≤ max) : unsigned? max (ofNat n) = some n := by
  rw [unsigned?, digits?_ofNat]
  · simp [bound]
  · exact ofNat_ne_cons (by decide) n

theorem signed?_ofNat {low high : Int} {n : Nat} (above : low ≤ n) (below : n ≤ high) :
    signed? low high (ofNat n) = some (n : Int) := by
  rw [signed?, digits?_ofNat]
  · simp [above, below]
  · exact ofNat_ne_cons (by decide) n
  · exact ofNat_ne_cons (by decide) n

end Corridor.Numeral
