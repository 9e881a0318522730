import KernelStats.Chain.Sample
import KernelStats.Proofs.Record.Layout
import KernelStats.Proofs.Token.HandedOut

/-!
# What a statistic shows

Three places know which layouts hold texts, signed numbers and unsigned ones: the one that decodes a record, the
one that puts the value in its slot, and the one that takes a value out of a slot to show it. They agree, so no
slot is shown that was not filled. With the value a statistic shows the name and the data type of its record, and
of the object that it was read through, if there is one, what tells where it belongs.
-/

namespace KernelStats

variable {r : Record} {one : Statistic} {value : Value}

/-- The layouts that hold values of the same sort. -/
def Value.kinds : Value → List ValueKind
  | .text _ => [.char, .string]
  | .int _ => [.int32, .int64]
  | .uint _ => [.uint32, .uint64]

theorem Record.kind_of_value? (h : r.value? = some value) : ∃ k ∈ value.kinds, r.type = k.dataType := by
  obtain ⟨name, ⟨type, hblock, block⟩ | ⟨_ | buffer, length⟩⟩ := r
  · cases hkind : type.kind? with
    | none => simp only [value?, hkind, reduceCtorEq] at h
    | some k =>
      obtain rfl := DataType.kind?_eq_some_iff.1 hkind
      refine ⟨k, ?_, rfl⟩
      cases k with
      | string => exact absurd rfl hblock
      | _ => cases h; simp [Value.kinds]
  · cases h
    exact ⟨.string, by simp [Value.kinds], rfl⟩
  · cases h
    exact ⟨.string, by simp [Value.kinds], rfl⟩

theorem Statistic.value_ofValue {k : ValueKind} (hk : k ∈ value.kinds) (name : Bytes) (parent : Option KStatId) :
    (ofValue name k.dataType parent value).value = value := by
  cases value <;> obtain rfl | rfl := List.mem_pair.1 hk <;> rfl

theorem Record.fields_of_decode {owner : Option (KStatId × Identity)} (h : r.decode owner = .ok one) :
    r.value? = some one.value ∧ one.name = r.name.text ∧ one.type = r.type ∧ one.parent = owner.map Prod.fst := by
  obtain ⟨value, hvalue, rfl⟩ := decode_eq_ok_iff.1 h
  obtain ⟨hname, htype, hparent, -⟩ := Statistic.eq_ofValue_iff.1 rfl
  obtain ⟨k, hk, hkind⟩ := kind_of_value? hvalue
  refine ⟨?_, hname, htype, hparent⟩
  rw [hvalue, hkind, Statistic.value_ofValue hk]

theorem Statistic.label_some (i : Identity) (name : Bytes) : label (some i) name =
    (utf8 ":").intercalate [i.moduleName, decimal i.inst.toInt, i.name, name] := by
  simp [label, Identity.path, List.intercalate, List.intersperse]

namespace Client

theorem owner?_of_none {c : Client} (hparent : one.parent = none) : c.owner? one = none := by
  rw [owner?, hparent, Option.bind_none]

/-- **What is shown is what was decoded.** A decoded statistic is shown with the value of the record, whatever
its sort, with the record's name, and with the name of its data type. If it has an object it is shown with the
object's module, instance, name and snapshot time too, and goes by those three and its own name; if it has none
it has no other members, and goes by its name alone. -/
theorem statistic_shows_decoded (c : Client) (r : Record) (one : Statistic) :
    (∀ owner, r.decode owner = .ok one →
      (∃ value, r.value? = some value ∧ (c.document one).lookup "value" = some value) ∧
      (c.document one).lookup "statistic" = some (.text r.name.text) ∧
      (c.document one).lookup "type" = some (.text r.type.name)) ∧
    (∀ k identity kstat, r.decode (some (k, identity)) = .ok one → c.kstat? k = some kstat →
      (c.document one).map Prod.fst = ["statistic", "type", "value", "module", "instance", "name", "snaptime"] ∧
      (c.document one).lookup "module" = some (.text kstat.identity.moduleName) ∧
      (c.document one).lookup "instance" = some (.int kstat.identity.inst.toInt64) ∧
      (c.document one).lookup "name" = some (.text kstat.identity.name) ∧
      (c.document one).lookup "snaptime" = some (.int kstat.snaptime) ∧
      c.label one = (utf8 ":").intercalate
        [kstat.identity.moduleName, decimal kstat.identity.inst.toInt, kstat.identity.name, r.name.text]) ∧
    (r.decode none = .ok one →
      (c.document one).map Prod.fst = ["statistic", "type", "value"] ∧
      (∀ member ∈ ["module", "instance", "name", "snaptime"], (c.document one).lookup member = none) ∧
      c.label one = r.name.text) := by
  refine ⟨fun owner hone => ?_, fun k identity kstat hone hk => ?_, fun hone => ?_⟩
  · obtain ⟨hvalue, hname, htype, -⟩ := Record.fields_of_decode hone
    rw [← hname, ← htype]
    exact ⟨⟨one.value, hvalue, rfl⟩, rfl, rfl⟩
  · obtain ⟨-, hname, -, hparent⟩ := Record.fields_of_decode hone
    rw [document_of_parent hparent hk, ← hname]
    refine ⟨rfl, rfl, rfl, rfl, rfl, ?_⟩
    rw [label, owner?_of_parent hparent hk]
    exact Statistic.label_some kstat.identity one.name
  · obtain ⟨-, hname, -, hparent⟩ := Record.fields_of_decode hone
    have howner : c.owner? one = none := owner?_of_none hparent
    have hdocument : c.document one = one.document none := congrArg one.document howner
    rw [hdocument, label, howner, hname]
    exact ⟨rfl, by simp [Statistic.document], rfl⟩

/-- A negative number of 32 bits is shown as it is, under the path of the object that a lookup made; read without
an object, a full block is shown with nothing of one. -/
theorem statistic_shows_decoded_on_sample :
    let c := run { kernel := { chain := Chain.sample } }
      [.openToken (some .live), .lookup 0 ⟨utf8 "cpu", Query.anyInstance, []⟩]
    let signed := Record.int32 (utf8 "delta") (-5)
    let letters := Record.char (utf8 "tag") (List.replicate 20 97)
    (∃ one kstat, signed.decode (some (0, default)) = .ok one ∧ c.kstat? 0 = some kstat ∧
      (c.document one).lookup "value" = some (.int (-5)) ∧ c.label one = utf8 "cpu:0:sys:delta") ∧
    ∃ one, letters.decode none = .ok one ∧
      (c.document one).lookup "value" = some (.text (List.replicate 16 97)) ∧
      (c.document one).lookup "type" = some (.text (utf8 "char")) ∧ c.label one = utf8 "tag" := by
  intro c signed letters
  constructor
  · let object : KStat := ⟨0, ⟨1⟩, ⟨utf8 "cpu", 0, utf8 "sys", utf8 "misc", .named, 1000⟩, 1004⟩
    have hsigned : signed.decode (some (0, default)) =
        .ok (.ofValue (utf8 "delta") ⟨1⟩ (some 0) (.int (-5))) := by decide
    have hk : c.kstat? 0 = some object := by decide
    obtain ⟨hshown, hparent, -⟩ := statistic_shows_decoded c signed _
    obtain ⟨⟨value, hvalue, hmember⟩, -⟩ := hshown _ hsigned
    obtain ⟨-, -, -, -, -, hlabel⟩ := hparent 0 default _ hsigned hk
    obtain rfl : Value.int (-5) = value := Option.some.inj (Eq.trans (by decide) hvalue)
    exact ⟨_, _, hsigned, hk, hmember, hlabel.trans (by decide)⟩
  · have hletters : letters.decode none =
        .ok (.ofValue (utf8 "tag") ⟨0⟩ none (.text (List.replicate 16 97))) := by decide
    obtain ⟨hshown, -, halone⟩ := statistic_shows_decoded c letters _
    obtain ⟨⟨value, hvalue, hmember⟩, -, htype⟩ := hshown _ hletters
    obtain ⟨-, -, hlabel⟩ := halone hletters
    obtain rfl : Value.text (List.replicate 16 97) = value := Option.some.inj (Eq.trans (by decide) hvalue)
    exact ⟨_, hletters, hmember, htype, hlabel.trans (by decide)⟩

end Client

end KernelStats
