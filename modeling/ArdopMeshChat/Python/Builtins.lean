import Mathlib.Data.List.Basic
import Mathlib.Tactic.Ring

/-!
# Python builtins on bytes and text

The handful of builtins the mesh node applies to byte strings and callsigns,
with the exceptions Python raises from them.  A `bytes` value is a list of
`UInt8`; an `int` the code stores into a byte is range checked here exactly
where the interpreter checks it, so that a theorem that the node never raises
from its own encoding is a theorem about these checks.

Text is a list of Unicode characters.  `str.upper` and `int()` read CPython's
Unicode tables (CPython 3.11, Unicode 14.0) only where what they return can
reach the node: `MeshNode.__init__` and `_encode_ax25_address` encode
callsigns with `.encode("ascii")`, so of `str.upper` only the characters whose
upper case holds an ASCII letter matter, and `int()` sees Unicode spaces and
decimal digits through `_PyUnicode_TransformDecimalAndSpaceToASCII`.
-/

namespace ArdopMeshChat

/-- A Python `bytes` (or `bytearray`) value. -/
abbrev Bytes := List UInt8

/-- The exceptions the modelled code can raise.  `unicodeEncodeError` is a
subclass of `ValueError` in Python; `authFail` is what the encryptor raises
when a ciphertext does not authenticate.  `keyError` carries the argument of
the `KeyError`.  `invalidLiteral` is the `ValueError` of `int()` or `float()`
on text that is no number, and `binasciiError` the `binascii.Error` (a
`ValueError`) of `unhexlify`; `runtimeError` is what a dict iterator raises
once the dict changed size.  The builtins' own messages are kept where a
modelled result shows them. -/
inductive PyError where
  | valueError (message : String)
  | unicodeEncodeError
  | structError
  | indexError
  | authFail
  | keyError (key : String)
  | typeError
  | attributeError
  | overflowError
  | invalidLiteral
  | binasciiError (message : String)
  | runtimeError (message : String)
  deriving DecidableEq, Repr

/-- Whether `except ValueError` catches the exception. -/
def PyError.isValueError : PyError → Bool
  | .valueError _ | .unicodeEncodeError | .invalidLiteral | .binasciiError _ => true
  | _ => false

/-- `bytearray` item assignment and `bytes([v])`: an `int` outside
`range(0, 256)` raises `ValueError`. -/
def toByte : Int → Except PyError UInt8
  | .ofNat v => if v < 256 then .ok (UInt8.ofNat v) else .error (.valueError "byte must be in range(0, 256)")
  | .negSucc _ => .error (.valueError "byte must be in range(0, 256)")

/-- `bytes[index]` for a non-negative index. -/
def pyIndex (xs : Bytes) (index : Nat) : Except PyError UInt8 :=
  match xs[index]? with
  | some b => .ok b
  | none => .error .indexError

/-- `xs[lo:hi]` for `0 ≤ lo ≤ hi`. -/
def slice (xs : Bytes) (lo hi : Nat) : Bytes :=
  (xs.drop lo).take (hi - lo)

/-- `xs[lo:hi] = ys` on a `bytearray`, for `0 ≤ lo ≤ hi`: the slice is replaced
whatever the length of `ys`, so the array can grow or shrink. -/
def setSlice (xs : Bytes) (lo hi : Nat) (ys : Bytes) : Bytes :=
  xs.take lo ++ ys ++ xs.drop hi

/-- `xs.ljust(width, fill)`. -/
def ljust (xs : Bytes) (width : Nat) (fill : UInt8) : Bytes :=
  xs ++ List.replicate (width - xs.length) fill

/-- The four big-endian bytes of `n mod 2^32`. -/
def packBE32 (n : Nat) : Bytes :=
  [UInt8.ofNat (n / 2 ^ 24), UInt8.ofNat (n / 2 ^ 16), UInt8.ofNat (n / 2 ^ 8), UInt8.ofNat n]

/-- `struct.pack(">I", v)`. -/
def structPack : Int → Except PyError Bytes
  | .ofNat v => if v < 2 ^ 32 then .ok (packBE32 v) else .error .structError
  | .negSucc _ => .error .structError

/-- `struct.unpack(">I", bs)[0]`: the buffer must hold exactly four bytes. -/
def structUnpack : Bytes → Except PyError Nat
  | [a, b, c, d] => .ok (a.toNat * 2 ^ 24 + b.toNat * 2 ^ 16 + c.toNat * 2 ^ 8 + d.toNat)
  | _ => .error .structError

/-! ## Bytes and their values -/

theorem UInt8.toNat_ofNat' (n : Nat) : (UInt8.ofNat n).toNat = n % 256 := rfl

theorem UInt8.ofNat_toNat' (b : UInt8) : UInt8.ofNat b.toNat = b :=
  UInt8.toNat.inj (by rw [UInt8.toNat_ofNat', Nat.mod_eq_of_lt b.toNat_lt_size])

theorem toByte_of_lt {v : Nat} (bound : v < 256) : toByte v = .ok (UInt8.ofNat v) :=
  if_pos bound

theorem toByte_of_not_byte {v : Int} (outside : v < 0 ∨ 255 < v) :
    toByte v = .error (.valueError "byte must be in range(0, 256)") := by
  cases v with
  | ofNat n =>
      rw [Int.ofNat_eq_coe] at outside
      exact if_neg (by omega)
  | negSucc n => rfl

theorem toByte_toNat (b : UInt8) : toByte b.toNat = .ok b := by
  rw [toByte_of_lt b.toNat_lt_size, UInt8.ofNat_toNat']

/-- A value `bytes([v])` accepts is a byte. -/
theorem toByte_ok {v : Int} {b : UInt8} (ok : toByte v = .ok b) : ∃ n : Nat, v = n ∧ n < 256 := by
  cases v with
  | ofNat n =>
      by_cases small : n < 256
      · exact ⟨n, rfl, small⟩
      · simp [toByte, small] at ok
  | negSucc n => simp [toByte] at ok

theorem pyIndex_of_lt {xs : Bytes} {index : Nat} (bound : index < xs.length) :
    pyIndex xs index = .ok xs[index] := by
  simp [pyIndex, bound]

@[simp] theorem length_packBE32 (n : Nat) : (packBE32 n).length = 4 := rfl

theorem structPack_of_lt {n : Nat} (bound : n < 2 ^ 32) : structPack n = .ok (packBE32 n) :=
  if_pos bound

/-- A value `struct.pack(">I", v)` accepts is a 32-bit word. -/
theorem structPack_ok {v : Int} {bs : Bytes} (ok : structPack v = .ok bs) :
    ∃ n : Nat, v = n ∧ n < 2 ^ 32 := by
  cases v with
  | ofNat n =>
      by_cases small : n < 2 ^ 32
      · exact ⟨n, rfl, small⟩
      · rw [structPack, if_neg small] at ok
        cases ok
  | negSucc n => simp [structPack] at ok

theorem structUnpack_packBE32 {n : Nat} (bound : n < 2 ^ 32) :
    structUnpack (packBE32 n) = .ok n := by
  simp only [packBE32, structUnpack, UInt8.toNat_ofNat', Except.ok.injEq]
  omega

theorem structUnpack_lt {bs : Bytes} {n : Nat} (unpacked : structUnpack bs = .ok n) :
    n < 2 ^ 32 := by
  match bs, unpacked with
  | [a, b, c, d], unpacked =>
      simp only [structUnpack, Except.ok.injEq] at unpacked
      have := a.toNat_lt_size
      have := b.toNat_lt_size
      have := c.toNat_lt_size
      have := d.toNat_lt_size
      simp only [UInt8.size] at *
      omega

theorem packBE32_structUnpack {bs : Bytes} {n : Nat} (unpacked : structUnpack bs = .ok n) :
    packBE32 n = bs := by
  match bs, unpacked with
  | [a, b, c, d], unpacked =>
      simp only [structUnpack, Except.ok.injEq] at unpacked
      subst n
      have := a.toNat_lt_size
      have := b.toNat_lt_size
      have := c.toNat_lt_size
      have := d.toNat_lt_size
      simp only [UInt8.size] at *
      simp only [packBE32, List.cons.injEq, and_true]
      refine ⟨?_, ?_, ?_, ?_⟩ <;> apply UInt8.toNat.inj <;> rw [UInt8.toNat_ofNat'] <;> omega

theorem structUnpack_of_length {bs : Bytes} (four : bs.length = 4) :
    ∃ n, structUnpack bs = .ok n := by
  match bs, four with
  | [_, _, _, _], _ => exact ⟨_, rfl⟩

/-! ## Slices -/

@[simp] theorem length_slice (xs : Bytes) (lo hi : Nat) :
    (slice xs lo hi).length = min (hi - lo) (xs.length - lo) := by
  simp [slice]

theorem slice_append_left {xs ys : Bytes} {lo hi : Nat} (within : hi ≤ xs.length) :
    slice (xs ++ ys) lo hi = slice xs lo hi := by
  simp only [slice, List.drop_append_eq_append_drop, List.take_append_eq_append_take,
    List.length_drop]
  have empty : hi - lo - (xs.length - lo) = 0 := by omega
  simp [empty]

theorem slice_append_right {xs ys : Bytes} {lo hi : Nat} (past : xs.length ≤ lo) :
    slice (xs ++ ys) lo hi = slice ys (lo - xs.length) (hi - xs.length) := by
  simp only [slice, List.drop_append_eq_append_drop, List.drop_eq_nil_of_le past,
    List.nil_append]
  congr 1
  omega

theorem slice_prefix (xs ys : Bytes) : slice (xs ++ ys) 0 xs.length = xs := by
  simp [slice]

@[simp] theorem ljust_length_of_le {xs : Bytes} {width : Nat} {fill : UInt8}
    (short : xs.length ≤ width) : (ljust xs width fill).length = width := by
  simp [ljust]
  omega

/-! ## Text -/

/-- Whether every character of the text is ASCII. -/
def isAscii (cs : List Char) : Bool := cs.all (·.toNat < 128)

/-- `s.encode("ascii")`: a non-ASCII character raises `UnicodeEncodeError`. -/
def asciiEncode (cs : List Char) : Except PyError Bytes :=
  if isAscii cs then .ok (cs.map (UInt8.ofNat ·.toNat)) else .error .unicodeEncodeError

/-- `s.encode("ascii", errors="ignore")`: non-ASCII characters are dropped. -/
def asciiEncodeIgnore (cs : List Char) : Bytes :=
  (cs.filter (·.toNat < 128)).map (UInt8.ofNat ·.toNat)

/-- The characters outside ASCII whose `str.upper` holds an ASCII character,
with that upper case (Unicode 14.0 `SpecialCasing` and dotless i). -/
def upperSpecials : List (Nat × List Char) :=
  [(0xdf, ['S', 'S']), (0x131, ['I']), (0x149, [Char.ofNat 0x2bc, 'N']), (0x17f, ['S']),
    (0x1f0, ['J', Char.ofNat 0x30c]), (0x1e96, ['H', Char.ofNat 0x331]),
    (0x1e97, ['T', Char.ofNat 0x308]), (0x1e98, ['W', Char.ofNat 0x30a]),
    (0x1e99, ['Y', Char.ofNat 0x30a]), (0x1e9a, ['A', Char.ofNat 0x2be]), (0xfb00, ['F', 'F']),
    (0xfb01, ['F', 'I']), (0xfb02, ['F', 'L']), (0xfb03, ['F', 'F', 'I']), (0xfb04, ['F', 'F', 'L']),
    (0xfb05, ['S', 'T']), (0xfb06, ['S', 'T'])]

/-- `str.upper` on one character.  An ASCII letter is upper-cased, a character
of `upperSpecials` expands, and any other character stays: Python's upper case
of it has no ASCII character, so `.encode("ascii")` of a prefix fails at the
same position either way. -/
def pyUpperChar (c : Char) : List Char :=
  if c.toNat < 128 then [c.toUpper]
  else ((upperSpecials.find? (·.1 = c.toNat)).map (·.2)).getD [c]

/-- `str.upper`. -/
def pyUpper (cs : List Char) : List Char := cs.flatMap pyUpperChar

/-- The characters `str.isspace` holds of beyond ASCII. -/
def unicodeSpaces : List Nat :=
  [0x85, 0xa0, 0x1680, 0x2000, 0x2001, 0x2002, 0x2003, 0x2004, 0x2005, 0x2006, 0x2007, 0x2008,
    0x2009, 0x200a, 0x2028, 0x2029, 0x202f, 0x205f, 0x3000]

/-- The zero of every run of Unicode decimal digits; the digits 1 to 9 follow
each. -/
def decimalZeros : List Nat :=
  [0x30, 0x660, 0x6f0, 0x7c0, 0x966, 0x9e6, 0xa66, 0xae6, 0xb66, 0xbe6, 0xc66, 0xce6, 0xd66,
    0xde6, 0xe50, 0xed0, 0xf20, 0x1040, 0x1090, 0x17e0, 0x1810, 0x1946, 0x19d0, 0x1a80, 0x1a90,
    0x1b50, 0x1bb0, 0x1c40, 0x1c50, 0xa620, 0xa8d0, 0xa900, 0xa9d0, 0xa9f0, 0xaa50, 0xabf0, 0xff10,
    0x104a0, 0x10d30, 0x11066, 0x110f0, 0x11136, 0x111d0, 0x112f0, 0x11450, 0x114d0, 0x11650,
    0x116c0, 0x11730, 0x118e0, 0x11950, 0x11c50, 0x11d50, 0x11da0, 0x16a60, 0x16ac0, 0x16b50,
    0x1d7ce, 0x1d7d8, 0x1d7e2, 0x1d7ec, 0x1d7f6, 0x1e140, 0x1e2f0, 0x1e950, 0x1fbf0]

/-- `_PyUnicode_TransformDecimalAndSpaceToASCII`, which `int()` applies to text
before it parses it: a character below 127 stays, a Unicode space becomes a
space, a decimal digit its ASCII digit, and anything else `?`. -/
def toDecimalAndSpace (c : Char) : Char :=
  if c.toNat < 127 then c
  else if c.toNat ∈ unicodeSpaces then ' '
  else
    match decimalZeros.find? fun first => first ≤ c.toNat && c.toNat < first + 10 with
    | some first => Char.ofNat (48 + (c.toNat - first))
    | none => '?'

/-- `Py_ISSPACE`, the characters `int()` strips around a number once the text
is ASCII: space and `\t\n\v\f\r`. -/
def isPySpace (c : Char) : Bool :=
  c.toNat = 32 || (9 ≤ c.toNat && c.toNat ≤ 13)

/-- The digits after the first, each possibly preceded by one underscore. -/
def decimalTail (acc : Nat) : List Char → Option Nat
  | [] => some acc
  | '_' :: c :: rest =>
      if c.isDigit then decimalTail (acc * 10 + (c.toNat - 48)) rest else none
  | c :: rest => if c.isDigit then decimalTail (acc * 10 + (c.toNat - 48)) rest else none

/-- `sys.int_info.default_max_str_digits`: `int()` refuses a decimal literal of
more digits. -/
def maxStrDigits : Nat := 4300

/-- A run of decimal digits with single underscores between them, of at most
`maxStrDigits` digits. -/
def parseDecimal (cs : List Char) : Option Nat :=
  if maxStrDigits < (cs.filter Char.isDigit).length then none
  else
    match cs with
    | c :: rest => if c.isDigit then decimalTail (c.toNat - 48) rest else none
    | [] => none

/-- `int(s)` in base 10: `none` is the `ValueError` it raises. -/
def pyInt (s : List Char) : Option Int :=
  match (((s.map toDecimalAndSpace).dropWhile isPySpace).reverse.dropWhile isPySpace).reverse with
  | '-' :: digits => (parseDecimal digits).map (- ·)
  | '+' :: digits => (parseDecimal digits).map (↑·)
  | digits => (parseDecimal digits).map (↑·)

theorem asciiEncode_of_isAscii {cs : List Char} (ascii : isAscii cs = true) :
    asciiEncode cs = .ok (cs.map (UInt8.ofNat ·.toNat)) := by
  simp [asciiEncode, ascii]

theorem isAscii_iff {cs : List Char} : isAscii cs = true ↔ ∀ c ∈ cs, c.toNat < 128 := by
  simp [isAscii]

end ArdopMeshChat
