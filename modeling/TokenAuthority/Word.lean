/-!
# Words

How many values there are in words of a fixed number of bits.
-/

namespace TokenAuthority.Word

def size16 : Nat := 65536

def size32 : Nat := 4294967296

/-- The values of 32 bits, of which half are not negative if there is a sign. -/
def half32 : Nat := 2147483648

/-- The values of 64 bits without the first, the sign. -/
def half64 : Nat := 9223372036854775808

def size64 : Nat := 18446744073709551616

end TokenAuthority.Word
