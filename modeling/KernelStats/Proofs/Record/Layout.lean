import KernelStats.Statistic
import Mathlib.Data.Nat.Digits.Defs

/-!
# What a record means

The value of a record is fixed by its data type: one of six layouts says which bytes count and how they are
read. Here the layouts are stated by themselves, by the codes of the kernel, with numbers as digits and
texts as the longest piece without a NUL. Decoding gives what the layout says, it fails for every other
code and for no other reason, and a statistic has its value in the slot of its kind and nothing beside it.
-/

namespace KernelStats

/-! ### Texts and numbers in bytes -/

namespace Bytes

/-- The longest text without a NUL that some bytes begin with. -/
structure IsTextOf (t s : Bytes) : Prop where
  front : t <+: s
  clean : (0 : UInt8) ∉ t
  longest : ∀ u, u <+: s → (0 : UInt8) ∉ u → u.length ≤ t.length

theorem isTextOf_upToNul (s : Bytes) : s.upToNul.IsTextOf s where
  front := List.takeWhile_prefix _
  clean := zero_not_mem_upToNul s
  longest u hfront hclean := by
    have hall : ∀ b ∈ u, (b ≠ 0 : Bool) = true := fun b hb =>
      decide_eq_true fun hzero => hclean (hzero ▸ hb)
    obtain ⟨rest, rfl⟩ := hfront
    rw [upToNul, List.takeWhile_append_of_pos hall, List.length_append]
    exact Nat.le_add_right _ _

theorem isTextOf_iff {t s : Bytes} : t.IsTextOf s ↔ t = s.upToNul := by
  have hcut := s.isTextOf_upToNul
  constructor
  · intro h
    have hlength : t.length = s.upToNul.length :=
      Nat.le_antisymm (hcut.longest t h.front h.clean) (h.longest _ hcut.front hcut.clean)
    exact (List.prefix_of_prefix_length_le h.front hcut.front (Nat.le_of_eq hlength)).eq_of_length hlength
  · rintro rfl
    exact hcut

def digits (width : Nat) (s : Bytes) : Nat := Nat.ofDigits 256 ((s.take width).map UInt8.toNat)

theorem toNatLE_eq_ofDigits (s : Bytes) : s.toNatLE = Nat.ofDigits 256 (s.map UInt8.toNat) := by
  induction s with
  | nil => rfl
  | cons b rest ih => rw [toNatLE, List.map_cons, Nat.ofDigits_cons, ih]

end Bytes

theorem Field.number_eq {n : Nat} (f : Field n) (width : Nat) : f.number width = f.bytes.digits width :=
  Bytes.toNatLE_eq_ofDigits _

theorem Field.number_lt {n width : Nat} (hwidth : width ≤ n) (f : Field n) :
    f.number width < Bytes.capacity width := by
  have hlength : (f.bytes.take width).length = width := by
    rw [List.length_take, f.length_bytes, Nat.min_eq_left hwidth]
  have hlt := Bytes.toNatLE_lt (f.bytes.take width)
  rwa [hlength] at hlt

/-! ### Layouts -/

/-- What the layout of a datum says its value is. Of a number the bytes of its width count, whatever lies
behind them; a signed one is the two's complement of its width. -/
inductive Datum.Means : Datum → Value → Prop where
  | char {type : DataType} {h : type ≠ .string} {block : Field blockSize} {text : Bytes}
    (hcode : type.code = 0) (htext : text.IsTextOf block.bytes) : Means (.block type h block) (.text text)
  | int32 {type : DataType} {h : type ≠ .string} {block : Field blockSize} {number : Int64}
    (hcode : type.code = 1)
    (hnumber : number.toInt = (block.bytes.digits 4 : Int).bmod UInt32.size) :
    Means (.block type h block) (.int number)
  | uint32 {type : DataType} {h : type ≠ .string} {block : Field blockSize} {number : UInt64}
    (hcode : type.code = 2) (hnumber : number.toNat = block.bytes.digits 4) :
    Means (.block type h block) (.uint number)
  | int64 {type : DataType} {h : type ≠ .string} {block : Field blockSize} {number : Int64}
    (hcode : type.code = 3)
    (hnumber : number.toInt = (block.bytes.digits 8 : Int).bmod UInt64.size) :
    Means (.block type h block) (.int number)
  | uint64 {type : DataType} {h : type ≠ .string} {block : Field blockSize} {number : UInt64}
    (hcode : type.code = 4) (hnumber : number.toNat = block.bytes.digits 8) :
    Means (.block type h block) (.uint number)
  | nowhere {length : UInt32} : Means (.string none length) (.text [])
  | terminated {buffer text : Bytes} (htext : text.IsTextOf buffer) :
    Means (.string (some buffer) 0) (.text text)
  | bounded {buffer text : Bytes} {length : UInt32} (hlength : 0 < length)
    (htext : text.IsTextOf (buffer.take length.toNat)) : Means (.string (some buffer) length) (.text text)

def DataType.knownCodes : List UInt8 := [0, 1, 2, 3, 4, 9]

namespace DataType

theorem kind?_eq_some_iff {t : DataType} {k : ValueKind} : t.kind? = some k ↔ t = k.dataType := by
  constructor
  · intro hkind
    obtain ⟨code⟩ := t
    unfold kind? at hkind
    split at hkind <;> cases hkind <;> simp_all [ValueKind.dataType]
  · rintro rfl
    exact k.kind?_dataType

theorem kind?_eq_none_iff {t : DataType} : t.kind? = none ↔ t.code ∉ knownCodes := by
  unfold kind?
  split <;> simp_all [knownCodes]

end DataType

/-! ### Values -/

namespace Field

variable (f : Field blockSize)

theorem toInt_int32 : (UInt32.ofNat (f.number 4)).toInt32.toInt64.toInt =
    (f.bytes.digits 4 : Int).bmod UInt32.size := by
  rw [Int32.toInt_toInt64, number_eq]
  exact Int32.toInt_ofNat

theorem toNat_uint32 : (UInt32.ofNat (f.number 4)).toUInt64.toNat = f.bytes.digits 4 := by
  have hlt : f.number 4 < UInt32.size := f.number_lt (by decide)
  rw [UInt32.toNat_toUInt64, UInt32.toNat_ofNat_of_lt' hlt, number_eq]

theorem toInt_int64 : (UInt64.ofNat (f.number 8)).toInt64.toInt =
    (f.bytes.digits 8 : Int).bmod UInt64.size := by
  rw [number_eq]
  exact Int64.toInt_ofNat

theorem toNat_uint64 : (UInt64.ofNat (f.number 8)).toNat = f.bytes.digits 8 := by
  have hlt : f.number 8 < UInt64.size := f.number_lt (by decide)
  rw [UInt64.toNat_ofNat_of_lt' hlt, number_eq]

end Field

namespace Record

variable {r : Record} {value : Value}

theorem value?_eq_none_iff : r.value? = none ↔ r.type.code ∉ DataType.knownCodes := by
  rw [← DataType.kind?_eq_none_iff]
  obtain ⟨name, ⟨type, hblock, block⟩ | ⟨_ | buffer, length⟩⟩ := r
  · show value? ⟨name, .block type hblock block⟩ = none ↔ type.kind? = none
    cases hkind : type.kind? with
    | none => simp only [value?, hkind]
    | some kind =>
      obtain rfl := DataType.kind?_eq_some_iff.1 hkind
      cases kind with
      | string => exact absurd rfl hblock
      | _ => simp only [value?, hkind, reduceCtorEq]
  · exact iff_of_false nofun nofun
  · exact iff_of_false nofun nofun

theorem value?_eq_some_iff : r.value? = some value ↔ r.datum.Means value := by
  obtain ⟨name, ⟨type, hblock, block⟩ | ⟨_ | buffer, length⟩⟩ := r
  · constructor
    · intro hvalue
      cases hkind : type.kind? with
      | none => simp only [value?, hkind, reduceCtorEq] at hvalue
      | some kind =>
        obtain rfl := DataType.kind?_eq_some_iff.1 hkind
        cases kind with
        | char => cases hvalue; exact .char rfl block.bytes.isTextOf_upToNul
        | int32 => cases hvalue; exact .int32 rfl block.toInt_int32
        | uint32 => cases hvalue; exact .uint32 rfl block.toNat_uint32
        | int64 => cases hvalue; exact .int64 rfl block.toInt_int64
        | uint64 => cases hvalue; exact .uint64 rfl block.toNat_uint64
        | string => exact absurd rfl hblock
    · obtain ⟨code⟩ := type
      intro hmeans
      cases hmeans with
      | char hcode htext =>
        obtain rfl : code = 0 := hcode
        rw [Bytes.isTextOf_iff.1 htext]
        rfl
      | int32 hcode hnumber =>
        obtain rfl : code = 1 := hcode
        rw [Int64.toInt_inj.1 (hnumber.trans block.toInt_int32.symm)]
        rfl
      | uint32 hcode hnumber =>
        obtain rfl : code = 2 := hcode
        rw [UInt64.toNat_inj.1 (hnumber.trans block.toNat_uint32.symm)]
        rfl
      | int64 hcode hnumber =>
        obtain rfl : code = 3 := hcode
        rw [Int64.toInt_inj.1 (hnumber.trans block.toInt_int64.symm)]
        rfl
      | uint64 hcode hnumber =>
        obtain rfl : code = 4 := hcode
        rw [UInt64.toNat_inj.1 (hnumber.trans block.toNat_uint64.symm)]
        rfl
  · constructor
    · intro hvalue
      cases hvalue
      exact .nowhere
    · rintro ⟨⟩
      rfl
  · by_cases hlength : length = 0
    · -- a length of zero is none: the text goes on to its terminator
      subst hlength
      constructor
      · intro hvalue
        cases hvalue
        exact .terminated buffer.isTextOf_upToNul
      · intro hmeans
        cases hmeans with
        | terminated htext => rw [Bytes.isTextOf_iff.1 htext]; rfl
        | bounded hpos htext => exact absurd hpos (by decide)
    · have hpos : 0 < length := UInt32.pos_iff_ne_zero.2 hlength
      simp only [value?, if_neg hlength, Bytes.bounded]
      constructor
      · intro hvalue
        cases hvalue
        exact .bounded hpos (Bytes.isTextOf_upToNul _)
      · intro hmeans
        cases hmeans with
        | terminated htext => exact absurd rfl hlength
        | bounded hpos htext => rw [Bytes.isTextOf_iff.1 htext]

end Record

/-! ### Statistics -/

/-- A statistic with a value in the slot of its kind, and nothing in the other two. -/
def Statistic.Holds (s : Statistic) : Value → Prop
  | .text bytes => s.text = bytes ∧ s.int = 0 ∧ s.uint = 0
  | .int number => s.text = [] ∧ s.int = number ∧ s.uint = 0
  | .uint number => s.text = [] ∧ s.int = 0 ∧ s.uint = number

theorem Statistic.eq_ofValue_iff {s : Statistic} {name : Bytes} {type : DataType} {parent : Option KStatId}
    {value : Value} : s = ofValue name type parent value ↔
      s.name = name ∧ s.type = type ∧ s.parent = parent ∧ s.Holds value := by
  obtain ⟨sname, stype, text, int, uint, sparent⟩ := s
  cases value <;> simp only [ofValue, Holds, Statistic.mk.injEq] <;> tauto

theorem Record.decode_eq_ok_iff {r : Record} {owner : Option (KStatId × Identity)} {one : Statistic} :
    r.decode owner = .ok one ↔
      ∃ value, r.value? = some value ∧ one = .ofValue r.name.text r.type (owner.map Prod.fst) value := by
  unfold decode
  cases r.value? with
  | none => simp
  | some value => simp [eq_comm]

theorem Record.decode_eq_error_iff {r : Record} {owner : Option (KStatId × Identity)} {f : Failure} :
    r.decode owner = .error f ↔ r.type.code ∉ DataType.knownCodes ∧
      f = .unknownDataType (Statistic.label (owner.map Prod.snd) r.name.text) r.type := by
  rw [← value?_eq_none_iff]
  unfold decode
  cases r.value? with
  | none => simp [eq_comm]
  | some value => simp

/-- **Decoding follows the layout.** A record of a known code has the value that its layout says, and any
other record has none. Decoding gives a statistic with the name in the record, its data type, the owner
asked for, and the value in its slot; it fails for an unknown code alone, and then says so. -/
theorem decoding_follows_layout (r : Record) (owner : Option (KStatId × Identity)) :
    (r.value? = none ↔ r.type.code ∉ DataType.knownCodes) ∧
    (∀ value, r.value? = some value ↔ r.datum.Means value) ∧
    (∀ one, r.decode owner = .ok one ↔ one.name.IsTextOf r.name.bytes ∧ one.type = r.type ∧
      one.parent = owner.map Prod.fst ∧ ∃ value, r.datum.Means value ∧ one.Holds value) ∧
    ((∃ one, r.decode owner = .ok one) ↔ r.value? ≠ none) ∧
    ∀ f, r.decode owner = .error f ↔ r.value? = none ∧ f.code = .unknownDataType ∧
      f = .unknownDataType (Statistic.label (owner.map Prod.snd) r.name.text) r.type := by
  refine ⟨Record.value?_eq_none_iff, fun value => Record.value?_eq_some_iff, fun one => ?_, ?_, fun f => ?_⟩
  · rw [Record.decode_eq_ok_iff]
    constructor
    · rintro ⟨value, hvalue, hone⟩
      obtain ⟨hname, htype, hparent, hholds⟩ := Statistic.eq_ofValue_iff.1 hone
      exact ⟨Bytes.isTextOf_iff.2 hname, htype, hparent, value, Record.value?_eq_some_iff.1 hvalue, hholds⟩
    · rintro ⟨hname, htype, hparent, value, hmeans, hholds⟩
      have hone := Statistic.eq_ofValue_iff.2 ⟨Bytes.isTextOf_iff.1 hname, htype, hparent, hholds⟩
      exact ⟨value, Record.value?_eq_some_iff.2 hmeans, hone⟩
  · constructor
    · rintro ⟨one, hone⟩
      obtain ⟨value, hvalue, -⟩ := Record.decode_eq_ok_iff.1 hone
      rw [hvalue]
      exact nofun
    · intro hvalue
      obtain ⟨value, hvalue⟩ := Option.ne_none_iff_exists'.1 hvalue
      exact ⟨_, Record.decode_eq_ok_iff.2 ⟨value, hvalue, rfl⟩⟩
  · rw [Record.decode_eq_error_iff, Record.value?_eq_none_iff]
    constructor
    · rintro ⟨hcode, rfl⟩
      exact ⟨hcode, rfl, rfl⟩
    · rintro ⟨hcode, -, hfailure⟩
      exact ⟨hcode, hfailure⟩

end KernelStats
