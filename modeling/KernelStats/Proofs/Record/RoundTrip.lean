import KernelStats.Proofs.Mirror.Names
import KernelStats.Proofs.Record.Layout

/-!
# Records that are read back

A record is built from a value and read as a statistic, and the statistic has that value. Nothing is lost but
what no record can hold: a name is cut at a NUL and so that a terminator fits, a short text is cut to its block,
and a text in memory of its own ends at its terminator. The copy that the system library hands out of the
kernel's memory means the same as the record itself, whatever its data type.
-/

namespace KernelStats

theorem Field.number_ofBytes {n width : Nat} {s : Bytes} (hlength : s.length = width) (hwidth : width ≤ n) :
    (ofBytes n s).number width = s.toNatLE := by
  have hshort : s.take n = s := List.take_of_length_le (hlength ▸ hwidth)
  have hfront : (ofBytes n s).bytes.take width = s := by
    show (s.take n ++ (Field.zero (n := n)).bytes.drop s.length).take width = s
    rw [hshort, List.take_left' hlength]
  rw [number, hfront]

namespace Record

variable {name bytes buffer : Bytes} {k : ValueKind}

/-! ### Blocks -/

theorem datum_write_named (hk : k.dataType ≠ .string) (name bytes : Bytes) :
    ((named name k.dataType).write bytes).datum = .block k.dataType hk (.ofBytes blockSize bytes) := by
  show (Datum.blank k.dataType).write bytes = _
  rw [Datum.blank, dif_neg hk]
  rfl

theorem number_ofNatLE (width : Nat) {n : Nat} (hwidth : width ≤ blockSize) (hn : n < Bytes.capacity width) :
    (Field.ofBytes blockSize (.ofNatLE width n)).number width = n := by
  rw [Field.number_ofBytes (Bytes.length_ofNatLE width n) hwidth, Bytes.toNatLE_ofNatLE, Nat.mod_eq_of_lt hn]

theorem value?_int32 (name : Bytes) (v : Int32) : (int32 name v).value? = some (.int v.toInt64) := by
  have hnumber := number_ofNatLE 4 (by decide) v.toUInt32.toNat_lt
  have hdatum := datum_write_named (k := .int32) nofun name (.ofNatLE 4 v.toUInt32.toNat)
  simp only [value?, int32, hdatum, ValueKind.kind?_dataType, hnumber, UInt32.ofNat_toNat]
  rfl

theorem value?_uint32 (name : Bytes) (v : UInt32) : (uint32 name v).value? = some (.uint v.toUInt64) := by
  have hnumber := number_ofNatLE 4 (by decide) v.toNat_lt
  have hdatum := datum_write_named (k := .uint32) nofun name (.ofNatLE 4 v.toNat)
  simp only [value?, uint32, hdatum, ValueKind.kind?_dataType, hnumber, UInt32.ofNat_toNat]

theorem value?_int64 (name : Bytes) (v : Int64) : (int64 name v).value? = some (.int v) := by
  have hnumber := number_ofNatLE 8 (by decide) v.toUInt64.toNat_lt
  have hdatum := datum_write_named (k := .int64) nofun name (.ofNatLE 8 v.toUInt64.toNat)
  simp only [value?, int64, hdatum, ValueKind.kind?_dataType, hnumber, UInt64.ofNat_toNat]
  rfl

theorem value?_uint64 (name : Bytes) (v : UInt64) : (uint64 name v).value? = some (.uint v) := by
  have hnumber := number_ofNatLE 8 (by decide) v.toNat_lt
  have hdatum := datum_write_named (k := .uint64) nofun name (.ofNatLE 8 v.toNat)
  simp only [value?, uint64, hdatum, ValueKind.kind?_dataType, hnumber, UInt64.ofNat_toNat]

theorem value?_char (name bytes : Bytes) : (char name bytes).value? = some (.text (bytes.bounded blockSize)) := by
  have hdatum := datum_write_named (k := .char) nofun name bytes
  simp only [value?, char, hdatum, ValueKind.kind?_dataType, Field.text_ofBytes]

/-! ### Strings -/

theorem value?_terminated (name : Bytes) (hlength : buffer.upToNul.length < 2 ^ 32 - 1) :
    (terminated name (some buffer)).value? = some (.text buffer.upToNul) := by
  have hcount : (UInt32.ofNat (buffer.upToNul.length + 1)).toNat = buffer.upToNul.length + 1 :=
    UInt32.toNat_ofNat_of_lt' (by rw [UInt32.size]; omega)
  have hnonzero : UInt32.ofNat (buffer.upToNul.length + 1) ≠ 0 := by
    intro hzero
    rw [hzero] at hcount
    cases hcount
  show some (Value.text (if _ = (0 : UInt32) then _ else _)) = _
  rw [if_neg hnonzero, hcount, Bytes.bounded_eq_take, List.take_of_length_le (Nat.le_succ _)]

end Record

/-! ### Statistics -/

/-- What is to come back from a record that was built with a name and a value. Only so much of the name is
left as a terminator leaves room for. -/
def Statistic.built (name : Bytes) (k : ValueKind) (owner : Option (KStatId × Identity)) (value : Value) :
    Statistic :=
  .ofValue (name.upToNul.take (nameSize - 1)) k.dataType (owner.map Prod.fst) value

namespace Record

variable {r : Record} {name bytes : Bytes} {k : ValueKind} {value : Value}

theorem decode_built (hname : r.name.text = name.bounded (nameSize - 1)) (htype : r.type = k.dataType)
    (hvalue : r.value? = some value) (owner : Option (KStatId × Identity)) :
    r.decode owner = .ok (.built name k owner value) := by
  refine decode_eq_ok_iff.2 ⟨value, hvalue, ?_⟩
  rw [Statistic.built, hname, htype, Bytes.bounded_eq_take]

theorem type_write_named (name bytes : Bytes) : ((named name k.dataType).write bytes).type = k.dataType :=
  (Datum.type_write bytes _).trans (Datum.type_blank _)

theorem decode_write_named (hvalue : ((named name k.dataType).write bytes).value? = some value)
    (owner : Option (KStatId × Identity)) :
    ((named name k.dataType).write bytes).decode owner = .ok (.built name k owner value) :=
  decode_built (r := (named name k.dataType).write bytes) (text_named name k.dataType)
    (type_write_named name bytes) hvalue owner

theorem decode_terminated {buffer : Option Bytes} (hvalue : (terminated name buffer).value? = some value)
    (owner : Option (KStatId × Identity)) :
    (terminated name buffer).decode owner = .ok (.built name .string owner value) :=
  decode_built (r := terminated name buffer) (text_named name .string) rfl hvalue owner

end Record

/-- **Decoding undoes building.** A number of any layout comes back as it was, in more bits at most; a short
text comes back up to its end, the block's, or a NUL; and a text in memory of its own up to its terminator, or
empty if there is none. Each has its type and its name, the name as far as the field goes. It is all the same
after the system library has copied the record, whatever the record is: also a name that fills its field comes
back whole then, and a type that nobody knows is as unknown as it was. -/
theorem decoding_undoes_building (name : Bytes) (owner : Option (KStatId × Identity)) :
    (∀ v : Int32, (Record.int32 name v).decode owner = .ok (.built name .int32 owner (.int v.toInt64)) ∧
      v.toInt64.toInt = v.toInt) ∧
    (∀ v : UInt32, (Record.uint32 name v).decode owner = .ok (.built name .uint32 owner (.uint v.toUInt64)) ∧
      v.toUInt64.toNat = v.toNat) ∧
    (∀ v : Int64, (Record.int64 name v).decode owner = .ok (.built name .int64 owner (.int v))) ∧
    (∀ v : UInt64, (Record.uint64 name v).decode owner = .ok (.built name .uint64 owner (.uint v))) ∧
    (∀ (bytes : Bytes) (len : Nat), (Record.char name (bytes.take len)).decode owner =
      .ok (.built name .char owner (.text (Bytes.upToNul ((bytes.take len).take blockSize))))) ∧
    (∀ buffer : Bytes, buffer.upToNul.length < 2 ^ 32 - 1 →
      (Record.terminated name (some buffer)).decode owner =
        .ok (.built name .string owner (.text buffer.upToNul))) ∧
    (Record.terminated name none).decode owner = .ok (.built name .string owner (.text [])) ∧
    ∀ r : Record, r.copy.decode owner = r.decode owner ∧
      (∀ one, (0 : UInt8) ∉ r.name.bytes → r.copy.decode owner = .ok one → one.name = r.name.bytes) ∧
      (r.type.code ∉ DataType.knownCodes → r.copy.decode owner =
        .error (.unknownDataType (Statistic.label (owner.map Prod.snd) r.name.text) r.type)) := by
  refine ⟨fun v => ⟨?_, v.toInt_toInt64⟩, fun v => ⟨?_, v.toNat_toUInt64⟩, fun v => ?_, fun v => ?_,
    fun bytes len => ?_, fun buffer hlength => ?_, ?_, fun r => ?_⟩
  · exact Record.decode_write_named (Record.value?_int32 name v) owner
  · exact Record.decode_write_named (Record.value?_uint32 name v) owner
  · exact Record.decode_write_named (Record.value?_int64 name v) owner
  · exact Record.decode_write_named (Record.value?_uint64 name v) owner
  · exact Record.decode_write_named (Record.value?_char name (bytes.take len)) owner
  · exact Record.decode_terminated (Record.value?_terminated name hlength) owner
  · exact Record.decode_terminated rfl owner
  · rw [Record.copy_eq]
    refine ⟨rfl, fun one hclean hone => ?_, fun hcode => Record.decode_eq_error_iff.2 ⟨hcode, rfl⟩⟩
    obtain ⟨value, -, rfl⟩ := Record.decode_eq_ok_iff.1 hone
    cases value <;> exact Bytes.upToNul_of_not_mem hclean

/-- A text ends at the NUL within it, a copied name fills its field, and a copied record of no known type fails
under that name. -/
theorem decoding_undoes_building_at_boundaries :
    let buffer := utf8 "ok" ++ [0, 7]
    let long := List.replicate 40 (97 : UInt8)
    let full := (Record.uint64 [] 5).overwriteName long
    let unknown := full.retype ⟨200⟩
    buffer.upToNul.length < 2 ^ 32 - 1 ∧
      (Record.terminated long (some buffer)).decode none =
        .ok { name := long.take 30, type := .string, text := utf8 "ok" } ∧
      (0 : UInt8) ∉ full.name.bytes ∧
      (∃ one, full.copy.decode none = .ok one ∧ one.uint = 5 ∧ one.name = long.take 31) ∧
      unknown.type.code ∉ DataType.knownCodes ∧
      unknown.copy.decode none = .error (.unknownDataType (long.take 31) ⟨200⟩) := by
  intro buffer long full unknown
  obtain ⟨-, -, -, -, -, hterminated, -, hcopy⟩ := decoding_undoes_building long none
  obtain ⟨hsame, hname, -⟩ := hcopy full
  obtain ⟨-, -, hunknown⟩ := hcopy unknown
  have hdecode : full.decode none = .ok { name := long.take 31, type := ⟨4⟩, uint := 5 } := by decide
  refine ⟨by decide, ?_, by decide, ⟨_, hsame.trans hdecode, rfl, ?_⟩, by decide, ?_⟩
  · exact (hterminated buffer (by decide)).trans (by decide)
  · exact (hname _ (by decide) (hsame.trans hdecode)).trans (by decide)
  · exact (hunknown (by decide)).trans (by decide)

end KernelStats
