/-! Arithmetic modulo a number, on remainders. -/
namespace AgentRelay.Key.Modular

def add (m a b : Nat) : Nat := (a + b) % m
def sub (m a b : Nat) : Nat := (a + (m - b % m)) % m
def mul (m a b : Nat) : Nat := a * b % m

/-- A power by repeated squaring. -/
def pow (m base exponent : Nat) : Nat :=
  if exponent = 0 then 1 % m
  else
    let rest := pow m (mul m base base) (exponent / 2)
    if exponent % 2 = 1 then mul m base rest else rest
termination_by exponent
decreasing_by omega

/-- The inverse of a remainder that is not zero, modulo a prime. -/
def inverse (p a : Nat) : Nat := pow p a (p - 2)

end AgentRelay.Key.Modular
