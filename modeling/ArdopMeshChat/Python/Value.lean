import ArdopMeshChat.Python.Builtins
import Mathlib.Algebra.Order.Floor
import Mathlib.Data.List.Infix
import Mathlib.Data.List.Nodup
import Mathlib.Data.Rat.Floor

/-!
# Python values of a parsed YAML document

What `yaml.safe_load` hands `config_loader`, and the builtins the loader
applies to it: `dict.get`, `in` and item access, `dict.items`, `str()`,
`int()`, `float()`, `bool()`, `str.lower` and `binascii.unhexlify`, each with
the exception Python raises from it.

A float is kept as its exact value, a rational, so the infinities and NaN are
left out; a dict is its items in order, under text keys.  Two conversions are
CPython's business and are taken as they come: what `float()` makes of a
string, and the text `str()` gives a float, a list or a dict
(`PyConversions`).  The loader never looks inside either.
-/

namespace ArdopMeshChat

@[simp] theorem ok_bind {ε α β : Type} (a : α) (f : α → Except ε β) : (Except.ok a >>= f) = f a :=
  rfl

@[simp] theorem error_bind {ε α β : Type} (e : ε) (f : α → Except ε β) :
    (Except.error e >>= f) = .error e :=
  rfl

theorem bind_eq_ok {ε α β : Type} {x : Except ε α} {f : α → Except ε β} {b : β}
    (done : (x >>= f) = .ok b) : ∃ a, x = .ok a ∧ f a = .ok b := by
  cases x with
  | error e => cases done
  | ok a => exact ⟨a, rfl, done⟩

@[simp] theorem throw_eq {ε α : Type} (e : ε) : (throw e : Except ε α) = .error e :=
  rfl

/-- A value of a parsed YAML document. -/
inductive PyValue where
  | none
  | bool (b : Bool)
  | int (n : Int)
  | float (x : ℚ)
  | str (s : String)
  | list (items : List PyValue)
  | dict (items : List (String × PyValue))

/-- The conversions the model takes from CPython as they are. -/
structure PyConversions where
  /-- `float(s)` of a string; `none` when it raises `ValueError`. -/
  floatOfStr : String → Option ℚ
  /-- `str(x)` of a float, a list or a dict. -/
  strOfOther : PyValue → String

/-- `float(n)` of an int: rounded to 53 significant bits, ties to even, and
`OverflowError` once the result needs more than 1024 bits. -/
def intToFloat (n : Int) : Except PyError ℚ :=
  let shift := n.natAbs.log2 - 52
  let kept := n.natAbs / 2 ^ shift
  let dropped := n.natAbs % 2 ^ shift
  let rounded := if 2 ^ shift < 2 * dropped ∨ (2 * dropped = 2 ^ shift ∧ kept % 2 = 1) then kept + 1
    else kept
  if 1024 ≤ (rounded * 2 ^ shift).log2 then .error .overflowError
  else .ok ((n.sign * (rounded * 2 ^ shift : ℕ) : ℤ) : ℚ)

/-- An int of fewer than 54 bits converts exactly. -/
theorem intToFloat_of_lt {n : Int} (small : n.natAbs < 2 ^ 53) : intToFloat n = .ok n := by
  have bits : n.natAbs.log2 < 53 := by
    rcases Nat.eq_zero_or_pos n.natAbs with zero | pos
    · rw [zero, Nat.log2_zero]
      decide
    · exact (Nat.log2_lt pos.ne').mpr small
  have noShift : n.natAbs.log2 - 52 = 0 := by omega
  simp only [intToFloat, noShift, pow_zero, Nat.div_one, Nat.mod_one, mul_zero, Nat.mul_one]
  rw [if_neg (show ¬(1 < 0 ∨ 0 = 1 ∧ n.natAbs % 2 = 1) by omega), if_neg (by omega)]
  simp only [Int.natCast_natAbs, Int.sign_mul_abs]

/-- The value of a hexadecimal digit. -/
def hexDigitValue (c : Char) : Option Nat :=
  if '0' ≤ c ∧ c ≤ '9' then some (c.toNat - 48)
  else if 'a' ≤ c ∧ c ≤ 'f' then some (c.toNat - 87)
  else if 'A' ≤ c ∧ c ≤ 'F' then some (c.toNat - 55)
  else none

/-- Pairs of hexadecimal digits, high digit first, as bytes; the text has an
even length by the time it gets here. -/
def hexPairs : List Char → Option Bytes
  | high :: low :: rest => do
      let high ← hexDigitValue high
      let low ← hexDigitValue low
      return UInt8.ofNat (high * 16 + low) :: (← hexPairs rest)
  | _ => some []

/-- A lower-case hexadecimal digit. -/
def hexDigitChar (d : Nat) : Char :=
  if d < 10 then Char.ofNat (48 + d) else Char.ofNat (87 + d)

/-- `b.hex()`: two lower-case digits a byte, high digit first. -/
def bytesHex (b : Bytes) : String :=
  ⟨b.flatMap fun byte => [hexDigitChar (byte.toNat / 16), hexDigitChar (byte.toNat % 16)]⟩

theorem hexDigitValue_hexDigitChar : ∀ d < 16, hexDigitValue (hexDigitChar d) = some d := by
  decide

theorem hexDigitChar_ascii : ∀ d < 16, (hexDigitChar d).toNat < 128 := by
  decide

theorem length_bytesHex (b : Bytes) : (bytesHex b).length = 2 * b.length := by
  induction b with
  | nil => rfl
  | cons byte rest ih =>
      simp only [bytesHex, String.length, List.flatMap_cons, List.length_append] at ih ⊢
      simp only [ih, List.length_cons, List.length_nil]
      omega

theorem hexPairs_bytesHex (b : Bytes) : hexPairs (bytesHex b).toList = some b := by
  induction b with
  | nil => rfl
  | cons byte rest ih =>
      have small : byte.toNat < 256 := byte.toNat_lt_size
      have halves : byte.toNat / 16 * 16 + byte.toNat % 16 = byte.toNat := by omega
      simp only [bytesHex, String.toList, List.flatMap_cons, List.cons_append,
        List.nil_append] at ih ⊢
      simp only [hexPairs, hexDigitValue_hexDigitChar _ (by omega : byte.toNat / 16 < 16),
        hexDigitValue_hexDigitChar _ (by omega : byte.toNat % 16 < 16), ih]
      show some (UInt8.ofNat (byte.toNat / 16 * 16 + byte.toNat % 16) :: rest) = _
      rw [halves, UInt8.ofNat_toNat']

namespace PyValue

/-- Whether the value is the text `key`: `key == x`. -/
def isStr (key : String) : PyValue → Bool
  | .str s => s == key
  | _ => false

/-- `x.get(key, default)`: only a dict has `get`. -/
def get (x : PyValue) (key : String) (default : PyValue) : Except PyError PyValue :=
  match x with
  | .dict items => .ok ((items.lookup key).getD default)
  | _ => .error .attributeError

/-- `key in x` for a text key: a key of a dict, an item of a list, a
substring of a str. -/
def contains (x : PyValue) (key : String) : Except PyError Bool :=
  match x with
  | .dict items => .ok (items.lookup key).isSome
  | .list items => .ok (items.any (isStr key))
  | .str s => .ok (decide (key.toList <:+: s.toList))
  | _ => .error .typeError

/-- `x[key]` for a text key: a list or a str wants an integer index. -/
def getItem (x : PyValue) (key : String) : Except PyError PyValue :=
  match x with
  | .dict items => (items.lookup key).elim (.error (.keyError key)) .ok
  | _ => .error .typeError

/-- `x.items()`. -/
def items : PyValue → Except PyError (List (String × PyValue))
  | .dict items => .ok items
  | _ => .error .attributeError

/-- `str(x)`. -/
def toStr (conv : PyConversions) : PyValue → String
  | .none => "None"
  | .bool b => if b then "True" else "False"
  | .int n => toString n
  | .str s => s
  | x => conv.strOfOther x

/-- `int(x)`: a float is truncated toward zero, text is read by `pyInt`. -/
def toInt : PyValue → Except PyError Int
  | .bool b => .ok (if b then 1 else 0)
  | .int n => .ok n
  | .float x => .ok (if 0 ≤ x then ⌊x⌋ else ⌈x⌉)
  | .str s => (pyInt s.toList).elim (.error .invalidLiteral) .ok
  | _ => .error .typeError

/-- `float(x)`. -/
def toFloat (conv : PyConversions) : PyValue → Except PyError ℚ
  | .bool b => .ok (if b then 1 else 0)
  | .int n => intToFloat n
  | .float x => .ok x
  | .str s => (conv.floatOfStr s).elim (.error .invalidLiteral) .ok
  | _ => .error .typeError

/-- `bool(x)`: `None`, zero and empty values are false. -/
def truthy : PyValue → Bool
  | .none => false
  | .bool b => b
  | .int n => n != 0
  | .float x => x != 0
  | .str s => !s.isEmpty
  | .list items => !items.isEmpty
  | .dict items => !items.isEmpty

/-- `x.lower()`: only text has `lower`; on ASCII letters. -/
def lower : PyValue → Except PyError String
  | .str s => .ok ⟨s.toList.map Char.toLower⟩
  | _ => .error .attributeError

@[simp] theorem get_dict (items : List (String × PyValue)) (key : String) (default : PyValue) :
    (dict items).get key default = .ok ((items.lookup key).getD default) := rfl

@[simp] theorem contains_dict (items : List (String × PyValue)) (key : String) :
    (dict items).contains key = .ok (items.lookup key).isSome := rfl

@[simp] theorem getItem_dict (items : List (String × PyValue)) (key : String) :
    (dict items).getItem key = (items.lookup key).elim (.error (.keyError key)) .ok := rfl

@[simp] theorem items_dict (items : List (String × PyValue)) : (dict items).items = .ok items := rfl

@[simp] theorem toStr_str (conv : PyConversions) (s : String) : (str s).toStr conv = s := rfl

@[simp] theorem toInt_int (n : Int) : (int n).toInt = .ok n := rfl

@[simp] theorem toFloat_float (conv : PyConversions) (x : ℚ) : (float x).toFloat conv = .ok x := rfl

@[simp] theorem truthy_bool (b : Bool) : (bool b).truthy = b := rfl

@[simp] theorem lower_str (s : String) : (str s).lower = .ok ⟨s.toList.map Char.toLower⟩ := rfl

end PyValue

/-- `binascii.unhexlify(x)` of a str: ASCII text of an even number of
hexadecimal digits. -/
def unhexlify : PyValue → Except PyError Bytes
  | .str s =>
      if !isAscii s.toList then
        .error (.valueError "string argument should contain only ASCII characters")
      else if s.length % 2 = 1 then .error (.binasciiError "Odd-length string")
      else (hexPairs s.toList).elim (.error (.binasciiError "Non-hexadecimal digit found")) .ok
  | _ => .error .typeError

/-- What `bytes.hex()` writes, `unhexlify` reads back. -/
theorem unhexlify_bytesHex (b : Bytes) : unhexlify (.str (bytesHex b)) = .ok b := by
  have ascii : isAscii (bytesHex b).toList = true := by
    simp only [isAscii_iff, bytesHex, String.toList, List.mem_flatMap, List.mem_cons,
      List.mem_singleton, List.not_mem_nil, or_false]
    rintro c ⟨byte, -, rfl | rfl⟩ <;>
      exact hexDigitChar_ascii _ (by have : byte.toNat < 256 := byte.toNat_lt_size; omega)
  have even : ¬ (bytesHex b).length % 2 = 1 := by
    rw [length_bytesHex]
    omega
  rw [unhexlify, if_neg (by rw [ascii]; decide), if_neg even, hexPairs_bytesHex]
  rfl

/-! ## Dicts -/

section Dict

variable {κ α : Type} [DecidableEq κ]

/-- `d[key] = value` on a dict kept as its items in order: a key already there
keeps its place. -/
def dictSet (items : List (κ × α)) (key : κ) (value : α) : List (κ × α) :=
  if (items.lookup key).isSome then items.map fun item => if item.1 = key then (key, value) else item
  else items ++ [(key, value)]

theorem dictSet_of_fresh {items : List (κ × α)} {key : κ}
    (fresh : items.lookup key = none) (value : α) : dictSet items key value = items ++ [(key, value)] := by
  simp [dictSet, fresh]

theorem keys_dictSet (items : List (κ × α)) (key : κ) (value : α) :
    (dictSet items key value).map (·.1) =
      if (items.lookup key).isSome then items.map (·.1) else items.map (·.1) ++ [key] := by
  unfold dictSet
  split
  · simp only [List.map_map]
    congr 1
    funext item
    by_cases same : item.1 = key <;> simp [same]
  · simp

theorem mem_dictSet {items : List (κ × α)} {key : κ} {value : α}
    {item : κ × α} (member : item ∈ dictSet items key value) : item ∈ items ∨ item = (key, value) := by
  unfold dictSet at member
  split at member
  · obtain ⟨old, kept, rfl⟩ := List.mem_map.mp member
    by_cases same : old.1 = key
    · exact .inr (by simp [same])
    · exact .inl (by simpa [same] using kept)
  · simpa using member

/-- Setting a key keeps the keys distinct. -/
theorem nodup_keys_dictSet {items : List (κ × α)} (unique : (items.map (·.1)).Nodup)
    (key : κ) (value : α) : ((dictSet items key value).map (·.1)).Nodup := by
  rw [keys_dictSet]
  split
  · exact unique
  · next absent =>
      have others := List.lookup_eq_none_iff.mp (Option.not_isSome_iff_eq_none.mp absent)
      refine List.nodup_append.mpr ⟨unique, List.nodup_singleton key, ?_⟩
      simp only [List.disjoint_singleton, List.mem_map, not_exists, not_and]
      intro item member same
      simpa [same] using others item member

theorem lookup_cons_of_ne {key other : κ} (value : α) (items : List (κ × α)) (ne : other ≠ key) :
    ((key, value) :: items).lookup other = items.lookup other := by
  simp [List.lookup_cons, beq_false_of_ne ne]

/-- Under distinct keys, a key's item is the one `lookup` finds. -/
theorem lookup_of_mem {items : List (κ × α)} (unique : (items.map (·.1)).Nodup) {key : κ}
    {value : α} (member : (key, value) ∈ items) : items.lookup key = some value := by
  induction items with
  | nil => cases member
  | cons item items ih =>
      obtain ⟨fresh, unique⟩ := List.nodup_cons.mp unique
      rcases List.mem_cons.mp member with rfl | member
      · exact List.lookup_cons_self
      · have other : key ≠ item.1 := fun same => fresh (List.mem_map.mpr ⟨_, member, same⟩)
        rw [← ih unique member]
        exact lookup_cons_of_ne item.2 items other

/-- A Python `dict`: its items in insertion order, under distinct keys. -/
structure PyDict (κ α : Type) [DecidableEq κ] where
  items : List (κ × α)
  distinct : (items.map (·.1)).Nodup

namespace PyDict

/-- `d.get(key)`. -/
def lookup (d : PyDict κ α) (key : κ) : Option α := d.items.lookup key

/-- `d[key] = value`. -/
def set (d : PyDict κ α) (key : κ) (value : α) : PyDict κ α :=
  ⟨dictSet d.items key value, nodup_keys_dictSet d.distinct key value⟩

/-- The dict without `key`: what `del d[key]` leaves of a dict that has it. -/
def erase (d : PyDict κ α) (key : κ) : PyDict κ α :=
  ⟨d.items.filter (·.1 ≠ key), d.distinct.sublist ((List.filter_sublist _).map _)⟩

theorem lookup_eq_some_iff_mem (d : PyDict κ α) {key : κ} {value : α} :
    d.lookup key = some value ↔ (key, value) ∈ d.items := by
  refine ⟨fun found => ?_, lookup_of_mem d.distinct⟩
  obtain ⟨before, after, split, -⟩ := List.lookup_eq_some_iff.mp found
  simp [split]

/-- Replacing the items under `key` changes only the lookup of `key`, and
that only where the key is present. -/
theorem lookup_map_replace (items : List (κ × α)) (key other : κ) (value : α) :
    (items.map fun item => if item.1 = key then (key, value) else item).lookup other =
      if other = key then (items.lookup key).map fun _ => value else items.lookup other := by
  induction items with
  | nil => simp
  | cons item items ih =>
      obtain ⟨k, v⟩ := item
      by_cases replaced : k = key
      · subst replaced
        by_cases same : other = k
        · subst same
          simp
        · rw [if_neg same] at ih
          simp [same, lookup_cons_of_ne _ _ same, ih]
      · simp only [List.map_cons, if_neg replaced, lookup_cons_of_ne v items (Ne.symm replaced)]
        by_cases same : other = k
        · subst same
          rw [List.lookup_cons_self, if_neg replaced, List.lookup_cons_self]
        · rw [lookup_cons_of_ne v _ same, ih, lookup_cons_of_ne v items same]

/-- `d[key] = value` changes only the lookup of `key`. -/
theorem lookup_set (d : PyDict κ α) (key : κ) (value : α) :
    (d.set key value).lookup = Function.update d.lookup key (some value) := by
  funext other
  unfold lookup
  show (dictSet d.items key value).lookup other = _
  cases present : d.items.lookup key with
  | none =>
      rw [dictSet_of_fresh present, List.lookup_append]
      by_cases same : other = key
      · subst same
        simp [present]
      · simp [same, lookup_cons_of_ne value [] same]
  | some old =>
      rw [dictSet, present, Option.isSome_some, if_pos rfl, lookup_map_replace]
      by_cases same : other = key
      · subst same
        simp [present]
      · simp [same]

/-- `d[key] = value` keeps every key of `d`. -/
theorem isSome_lookup_set (d : PyDict κ α) (key : κ) (value : α) {other : κ}
    (present : (d.lookup other).isSome) : ((d.set key value).lookup other).isSome := by
  rw [lookup_set]
  by_cases same : other = key
  · subst same
    simp
  · rw [Function.update_noteq same]
    exact present

theorem length_set_of_fresh (d : PyDict κ α) {key : κ} (fresh : d.lookup key = none) (value : α) :
    (d.set key value).items.length = d.items.length + 1 := by
  simp [set, dictSet_of_fresh fresh]

theorem lookup_erase (d : PyDict κ α) (key other : κ) :
    (d.erase key).lookup other = if other = key then none else d.lookup other := by
  unfold erase lookup
  dsimp only
  generalize d.items = items
  induction items with
  | nil => simp
  | cons item items ih =>
      obtain ⟨k, v⟩ := item
      rw [List.filter_cons]
      by_cases gone : k = key
      · subst gone
        rw [if_neg (by simp), ih]
        by_cases same : other = k
        · simp [same]
        · rw [if_neg same, if_neg same, lookup_cons_of_ne v items same]
      · rw [if_pos (by simpa using gone)]
        by_cases same : other = k
        · subst same
          rw [List.lookup_cons_self, if_neg gone, List.lookup_cons_self]
        · rw [lookup_cons_of_ne v _ same, ih, lookup_cons_of_ne v items same]

end PyDict

end Dict

end ArdopMeshChat
