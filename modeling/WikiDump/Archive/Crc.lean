/-!
# Cyclic redundancy checks

The checksums that compressed files carry: CRC-32 (the polynomial of IEEE 802.3, used by gzip
and xz) and CRC-64 (the polynomial of ECMA-182, used by xz). Both are the reflected forms: bytes
enter least significant bit first, the register starts with all bits set, and the result is
complemented.
-/

namespace WikiDump

namespace Crc

def step (poly : Nat) (reg : Nat) (byte : UInt8) : Nat :=
  (List.range 8).foldl (fun r _ => if r % 2 = 1 then (r / 2) ^^^ poly else r / 2) (reg ^^^ byte.toNat)

def poly32 : Nat := 0xEDB88320

def poly64 : Nat := 0xC96C5795D7870F42

def table (poly : Nat) : Array Nat := (List.range 256).toArray.map fun b => step poly 0 b.toUInt8

def table32 : Array Nat := table poly32

def table64 : Array Nat := table poly64

def fold (tbl : Array Nat) (reg : Nat) (data : ByteArray) : Nat :=
  data.foldl (fun r b => (tbl.getD ((r ^^^ b.toNat) % 256) 0) ^^^ (r / 256)) reg

def crc32From (previous : UInt32) (data : ByteArray) : UInt32 :=
  (fold table32 (previous.toNat ^^^ 0xFFFFFFFF) data ^^^ 0xFFFFFFFF).toUInt32

def crc32 (data : ByteArray) : UInt32 := crc32From 0 data

def crc64 (data : ByteArray) : UInt64 :=
  (fold table64 0xFFFFFFFFFFFFFFFF data ^^^ 0xFFFFFFFFFFFFFFFF).toUInt64

end Crc

end WikiDump

