/-!
# Width — numbers of so many bits

* `Number.limit` — how many natural numbers there are;
* `Number.fits` — whether an integer is one of those with a sign.
-/

namespace BuildTrace
namespace Number

/-- How many natural numbers have at most `bits` bits. -/
def limit (bits : Nat) : Nat :=
  1 <<< bits

/-- Whether an integer has at most `bits` bits, one of them for the sign. -/
def fits (bits : Nat) (n : Int) : Bool :=
  -(limit (bits - 1) : Int) ≤ n && n < (limit (bits - 1) : Int)

end Number
end BuildTrace
