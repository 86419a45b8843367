set_option autoImplicit false

namespace ChainExplorer.Number

-- 2^32, 2^31, 2^64 and 2^63, as `omega` reads them.
def halfWordLimit : Nat := 4294967296

def signedHalfLimit : Nat := 2147483648

def wordLimit : Nat := 18446744073709551616

def signedLimit : Nat := 9223372036854775808

end ChainExplorer.Number
