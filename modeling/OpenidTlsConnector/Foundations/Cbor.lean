import Mathlib.Algebra.Group.Nat.Defs
import Mathlib.Tactic.Ring
import OpenidTlsConnector.Foundations.Fields
import OpenidTlsConnector.Foundations.Text

/-!
# CBOR data items

A codec writes one data item as bytes and reads the item at the front of some
bytes, handing back what follows it: nothing asks for the end of the input.
The second half builds the RFC 8949 codec with definite lengths and shortest
heads.  Lengths beyond 64 bits, which no memory holds, get a head of their own
so that the round trip needs no side condition.
-/

namespace Foundations.Cbor

inductive Item where
  | unsigned (value : Nat)
  | bytes (content : List UInt8)
  | text (content : String)
  | array (items : List Item)
  | map (entries : List (Item × Item))
  | bool (value : Bool)
  | null

structure Codec where
  write : Item → List UInt8
  readPrefix : List UInt8 → Option (Item × List UInt8)
  readPrefix_write_append : ∀ item rest, readPrefix (write item ++ rest) = some (item, rest)

/-- Read the item at the front and drop what follows. -/
def Codec.read (codec : Codec) (bytes : List UInt8) : Option Item :=
  (codec.readPrefix bytes).map Prod.fst

@[simp]
theorem Codec.read_write_append (codec : Codec) (item : Item) (rest : List UInt8) :
    codec.read (codec.write item ++ rest) = some item := by
  simp [Codec.read, codec.readPrefix_write_append]

@[simp]
theorem Codec.read_write (codec : Codec) (item : Item) :
    codec.read (codec.write item) = some item := by
  simpa using codec.read_write_append item []

/-! ## Field readers -/

namespace Item

def strings (values : List String) : Item := .array (values.map .text)

def asUnsigned : Item → Option Nat
  | .unsigned value => some value
  | _ => none

def asText : Item → Option String
  | .text content => some content
  | _ => none

def asStrings : Item → Option (List String)
  | .array items => items.mapM asText
  | _ => none

/-- A byte sequence: an array of small integers, or a byte string. -/
def asBytes : Item → Option (List UInt8)
  | .array items => items.mapM fun item => do
      let value ← item.asUnsigned
      if value < 256 then some (UInt8.ofNat value) else none
  | .bytes content => some content
  | _ => none

/-- Bytes written one array element each. -/
def ofBytes (content : List UInt8) : Item :=
  .array (content.map fun byte => .unsigned byte.toNat)

/-- The entries of a map whose keys are all texts. -/
def asFields : Item → Option (Fields Item)
  | .map entries => entries.mapM fun (key, value) => key.asText.map (·, value)
  | _ => none

def ofFields (fields : Fields Item) : Item :=
  .map (fields.map fun (name, value) => (.text name, value))

/-- The reader of an optional field: `null` stands for an absent value. -/
def asOptional {Result : Type} (read : Item → Option Result) : Item → Option (Option Result)
  | .null => some none
  | value => (read value).map some

def ofOptional : Option String → Item
  | none => .null
  | some content => .text content

@[simp]
theorem asUnsigned_unsigned (value : Nat) : asUnsigned (.unsigned value) = some value := rfl

@[simp]
theorem asText_text (content : String) : asText (.text content) = some content := rfl

@[simp]
theorem asStrings_strings (values : List String) : asStrings (strings values) = some values :=
  mapM_map_of_inverse asText_text values

@[simp]
theorem asBytes_ofBytes (content : List UInt8) : asBytes (ofBytes content) = some content :=
  mapM_map_of_inverse (fun byte => by simp [byte.toNat_lt]) content

@[simp]
theorem asFields_ofFields (fields : Fields Item) : asFields (ofFields fields) = some fields :=
  mapM_map_of_inverse (fun field => by simp) fields

@[simp]
theorem asOptional_ofOptional (value : Option String) :
    asOptional asText (ofOptional value) = some value := by
  cases value <;> rfl

end Item

/-! ## The RFC 8949 codec -/

/-- The `width` low-order bytes of `value`, most significant first. -/
def bigEndian : Nat → Nat → List UInt8
  | 0, _ => []
  | width + 1, value => .ofNat (value / 256 ^ width % 256) :: bigEndian width value

/-- Read `width` bytes as one number, on top of the digits read so far. -/
def readBigEndian : Nat → Nat → List UInt8 → Option (Nat × List UInt8)
  | 0, value, rest => some (value, rest)
  | width + 1, value, byte :: rest => readBigEndian width (value * 256 + byte.toNat) rest
  | _ + 1, _, [] => none

theorem readBigEndian_bigEndian (width high value : Nat) (rest : List UInt8) :
    readBigEndian width high (bigEndian width value ++ rest) =
      some (high * 256 ^ width + value % 256 ^ width, rest) := by
  induction width generalizing high with
  | zero => simp [bigEndian, readBigEndian, Nat.mod_one]
  | succ width inductionHypothesis =>
      have byte : (UInt8.ofNat (value / 256 ^ width % 256)).toNat =
          value / 256 ^ width % 256 := by simp
      have split : value % 256 ^ (width + 1) =
          value % 256 ^ width + 256 ^ width * (value / 256 ^ width % 256) := by
        rw [pow_succ, Nat.mod_mul]
      rw [bigEndian, List.cons_append, readBigEndian, inductionHypothesis, byte, split]
      congr 2
      ring

/-- A number too long for eight bytes, counted down one byte at a time. -/
def unary (value : Nat) : List UInt8 := List.replicate value 1 ++ [0]

def readUnary : Nat → List UInt8 → Option (Nat × List UInt8)
  | count, 1 :: rest => readUnary (count + 1) rest
  | count, 0 :: rest => some (count, rest)
  | _, _ => none

theorem readUnary_unary (value count : Nat) (rest : List UInt8) :
    readUnary count (unary value ++ rest) = some (count + value, rest) := by
  induction value generalizing count with
  | zero => simp [unary, readUnary]
  | succ value inductionHypothesis =>
      have step := inductionHypothesis (count + 1)
      simp only [unary, List.append_assoc] at step ⊢
      rw [List.replicate_succ, List.cons_append, readUnary, step]
      congr 2
      omega

/-- The head of an item: its major type and its argument. -/
def writeHead (major argument : Nat) : List UInt8 :=
  if argument < 24 then [.ofNat (major * 32 + argument)]
  else if argument < 256 ^ 1 then .ofNat (major * 32 + 24) :: bigEndian 1 argument
  else if argument < 256 ^ 2 then .ofNat (major * 32 + 25) :: bigEndian 2 argument
  else if argument < 256 ^ 4 then .ofNat (major * 32 + 26) :: bigEndian 4 argument
  else if argument < 256 ^ 8 then .ofNat (major * 32 + 27) :: bigEndian 8 argument
  else .ofNat (major * 32 + 28) :: unary argument

def readArgument (info : Nat) (rest : List UInt8) : Option (Nat × List UInt8) :=
  if info < 24 then some (info, rest)
  else match info with
    | 24 => readBigEndian 1 0 rest
    | 25 => readBigEndian 2 0 rest
    | 26 => readBigEndian 4 0 rest
    | 27 => readBigEndian 8 0 rest
    | 28 => readUnary 0 rest
    | _ => none

def readHead : List UInt8 → Option (Nat × Nat × List UInt8)
  | [] => none
  | byte :: rest =>
      (readArgument (byte.toNat % 32) rest).map fun (argument, rest) =>
        (byte.toNat / 32, argument, rest)

theorem readHead_cons {major info : Nat} (majorSmall : major < 8) (infoSmall : info < 32)
    (rest : List UInt8) :
    readHead (.ofNat (major * 32 + info) :: rest) =
      (readArgument info rest).map fun (argument, rest) => (major, argument, rest) := by
  have byte : (UInt8.ofNat (major * 32 + info)).toNat = major * 32 + info := by
    simpa using Nat.mod_eq_of_lt (by omega : major * 32 + info < 256)
  have low : (major * 32 + info) % 32 = info := by omega
  have high : (major * 32 + info) / 32 = major := by omega
  rw [readHead, byte, low, high]

theorem readHead_writeHead {major : Nat} (majorSmall : major < 8) (argument : Nat)
    (rest : List UInt8) :
    readHead (writeHead major argument ++ rest) = some (major, argument, rest) := by
  unfold writeHead
  split_ifs with tiny one two four eight
  · rw [List.cons_append, readHead_cons majorSmall (by omega)]
    simp [readArgument, tiny]
  all_goals
    rw [List.cons_append, readHead_cons majorSmall (by decide)]
    simp only [readArgument, readBigEndian_bigEndian, readUnary_unary, Nat.reduceLT, if_false,
      Option.map_some, Nat.zero_mul, Nat.zero_add]
  all_goals rw [Nat.mod_eq_of_lt (by assumption)]

theorem writeHead_length_pos (major argument : Nat) : 0 < (writeHead major argument).length := by
  unfold writeHead
  split_ifs <;> simp

mutual

def writeItem : Item → List UInt8
  | .unsigned value => writeHead 0 value
  | .bytes content => writeHead 2 content.length ++ content
  | .text content => writeHead 3 (Text.utf8 content).length ++ Text.utf8 content
  | .array items => writeHead 4 items.length ++ writeItems items
  | .map entries => writeHead 5 entries.length ++ writeEntries entries
  | .bool value => writeHead 7 (if value then 21 else 20)
  | .null => writeHead 7 22

def writeItems : List Item → List UInt8
  | [] => []
  | item :: rest => writeItem item ++ writeItems rest

def writeEntries : List (Item × Item) → List UInt8
  | [] => []
  | (key, value) :: rest => writeItem key ++ writeItem value ++ writeEntries rest

end

/-- Take exactly `count` bytes. -/
def readExact (count : Nat) (bytes : List UInt8) : Option (List UInt8 × List UInt8) :=
  if count ≤ bytes.length then some (bytes.take count, bytes.drop count) else none

/-- Read `count` values one after the other. -/
def readMany {Value : Type} (read : List UInt8 → Option (Value × List UInt8)) :
    Nat → List UInt8 → Option (List Value × List UInt8)
  | 0, bytes => some ([], bytes)
  | count + 1, bytes => do
      let (value, bytes) ← read bytes
      let (values, bytes) ← readMany read count bytes
      some (value :: values, bytes)

/-- Read a key and the value after it. -/
def readEntry (read : List UInt8 → Option (Item × List UInt8)) (bytes : List UInt8) :
    Option ((Item × Item) × List UInt8) := do
  let (key, bytes) ← read bytes
  let (value, bytes) ← read bytes
  some ((key, value), bytes)

/-- Read one item, nested at most `depth` deep. -/
def readItem : Nat → List UInt8 → Option (Item × List UInt8)
  | 0, _ => none
  | depth + 1, bytes => do
      let (major, argument, bytes) ← readHead bytes
      match major with
      | 0 => some (.unsigned argument, bytes)
      | 2 => do
          let (content, bytes) ← readExact argument bytes
          some (.bytes content, bytes)
      | 3 => do
          let (content, bytes) ← readExact argument bytes
          let text ← Text.fromUtf8 content
          some (.text text, bytes)
      | 4 => do
          let (items, bytes) ← readMany (readItem depth) argument bytes
          some (.array items, bytes)
      | 5 => do
          let (entries, bytes) ← readMany (readEntry (readItem depth)) argument bytes
          some (.map entries, bytes)
      | 7 => match argument with
          | 20 => some (.bool false, bytes)
          | 21 => some (.bool true, bytes)
          | 22 => some (.null, bytes)
          | _ => none
      | _ => none

theorem readExact_append (content rest : List UInt8) :
    readExact content.length (content ++ rest) = some (content, rest) := by
  simp [readExact]

theorem writeItem_length_pos (item : Item) : 0 < (writeItem item).length := by
  cases item <;> simp only [writeItem, List.length_append] <;>
    first
      | exact writeHead_length_pos _ _
      | exact Nat.add_pos_left (writeHead_length_pos _ _) _

mutual

theorem readItem_writeItem : ∀ (item : Item) (depth : Nat) (rest : List UInt8),
    (writeItem item).length ≤ depth →
      readItem depth (writeItem item ++ rest) = some (item, rest)
  | item, 0, rest, deep => by
      have positive := writeItem_length_pos item
      omega
  | .unsigned value, depth + 1, rest, _ => by
      simp [writeItem, readItem, readHead_writeHead]
  | .bytes content, depth + 1, rest, _ => by
      simp [writeItem, readItem, readHead_writeHead, readExact_append]
  | .text content, depth + 1, rest, _ => by
      simp [writeItem, readItem, readHead_writeHead, readExact_append]
  | .array items, depth + 1, rest, deep => by
      have positive := writeHead_length_pos 4 items.length
      simp only [writeItem, List.length_append] at deep
      simp [writeItem, readItem, readHead_writeHead,
        readMany_writeItems items depth rest (by omega)]
  | .map entries, depth + 1, rest, deep => by
      have positive := writeHead_length_pos 5 entries.length
      simp only [writeItem, List.length_append] at deep
      simp [writeItem, readItem, readHead_writeHead,
        readMany_writeEntries entries depth rest (by omega)]
  | .bool value, depth + 1, rest, _ => by
      cases value <;> simp [writeItem, readItem, readHead_writeHead]
  | .null, depth + 1, rest, _ => by
      simp [writeItem, readItem, readHead_writeHead]

theorem readMany_writeItems : ∀ (items : List Item) (depth : Nat) (rest : List UInt8),
    (writeItems items).length ≤ depth →
      readMany (readItem depth) items.length (writeItems items ++ rest) = some (items, rest)
  | [], _, _, _ => rfl
  | item :: items, depth, rest, deep => by
      simp only [writeItems, List.length_append] at deep
      simp [writeItems, readMany, readItem_writeItem item depth _ (by omega),
        readMany_writeItems items depth rest (by omega)]

theorem readMany_writeEntries : ∀ (entries : List (Item × Item)) (depth : Nat)
    (rest : List UInt8), (writeEntries entries).length ≤ depth →
      readMany (readEntry (readItem depth)) entries.length (writeEntries entries ++ rest) =
        some (entries, rest)
  | [], _, _, _ => rfl
  | (key, value) :: entries, depth, rest, deep => by
      simp only [writeEntries, List.length_append] at deep
      simp [writeEntries, readMany, readEntry, readItem_writeItem key depth _ (by omega),
        readItem_writeItem value depth _ (by omega),
        readMany_writeEntries entries depth rest (by omega)]

end

/-- No item nests deeper than the number of bytes it takes. -/
def rfc8949 : Codec where
  write := writeItem
  readPrefix bytes := readItem bytes.length bytes
  readPrefix_write_append item rest := readItem_writeItem item _ rest (by simp)

end Foundations.Cbor
