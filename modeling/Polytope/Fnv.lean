import Mathlib.Init

/-! FNV-1a over 64-bit words, bytes and UTF-8 text. The source carries several private
copies of these mixers; they differ only in what they feed in, so one set serves all. -/
namespace Polytope.Fnv

def offset : UInt64 := 14695981039346656037
def prime : UInt64 := 1099511628211
def mixByte (hash byte : UInt64) : UInt64 := (hash ^^^ byte) * prime
def mixU64 (hash value : UInt64) : UInt64 :=
  ([0,8,16,24,32,40,48,56] : List UInt64).foldl (fun h shift => mixByte h ((value >>> shift) &&& 0xff)) hash
def mixI64 (hash : UInt64) (value : Int) : UInt64 := mixU64 hash (UInt64.ofInt value)
def mixNat (hash : UInt64) (value : Nat) : UInt64 := mixU64 hash (UInt64.ofNat value)
def mixBool (hash : UInt64) (value : Bool) : UInt64 := mixByte hash (if value then 1 else 0)
def mixString (hash : UInt64) (value : String) : UInt64 :=
  value.toUTF8.data.toList.foldl (fun h byte => mixByte h byte.toUInt64) hash
def mixU32 (hash : UInt64) (value : Nat) : UInt64 :=
  ([0,8,16,24] : List UInt64).foldl
  (fun h shift => mixByte h ((UInt64.ofNat (value % 4294967296) >>> shift) &&& 0xff)) hash
def mixI32 (hash : UInt64) (value : Int) : UInt64 := mixU32 hash (value % 4294967296).toNat
-- Text closed by a byte no UTF-8 text contains.
def mixClosedString (hash : UInt64) (value : String) : UInt64 := mixByte (mixString hash value) 0xff
def hashString (value : String) : UInt64 := mixString offset value

example : hashString "a" = 12638187200555641996 := by decide +kernel

end Polytope.Fnv
