/-!
# Arithmetic Modulo a Number

## Main definitions

* `Modular.power`: Powers.
* `Modular.inverse`: Inverses modulo a prime.
-/

namespace SamlConformance

namespace Modular

/-- The power of `b` to `e` modulo `m`. -/
def power (m b e : Nat) : Nat :=
  if e = 0 then 1 % m
  else
    let half := power m (b * b % m) (e / 2)
    if e % 2 = 1 then b * half % m else half
termination_by e
decreasing_by omega

/-- The inverse modulo a prime; zero of zero. -/
def inverse (p b : Nat) : Nat :=
  power p b (p - 2)

end Modular

end SamlConformance
