import KernelStats.Chain.Sample
import KernelStats.Proofs.Token.HandedOut

/-!
# What is shown for good

Objects and statistics are shown long after they were handed out, when the kstat may have been read again,
changed, or taken off the chain, and when the token may be gone. An object copies what a kstat is at the
moment it is made, and a statistic is a value that refers to its object by number. So all that is shown
of them stays as it was, but for one member: the snapshot time is looked up anew each time, and moves
forward with the object.
-/

namespace KernelStats

/-- The members of a document that do not follow the reads. -/
def Document.lasting (d : Document) : Document := d.filter fun member => member.1 ≠ "snaptime"

theorem KStat.Becomes.lasting {kstat later : KStat} (h : kstat.Becomes later) :
    Document.lasting later.document = Document.lasting kstat.document := by
  simp [Document.lasting, KStat.document, h.identity]

theorem KStat.Becomes.lasting_statistic {kstat later : KStat} (h : kstat.Becomes later) (one : Statistic) :
    Document.lasting (one.document (some later)) = Document.lasting (one.document (some kstat)) := by
  simp [Document.lasting, Statistic.document, h.identity]

namespace Client

/-- **What was handed out is frozen.** Whatever is done after an object or a statistic was handed out, it
is labelled as it was and shown with the same members, but for the snapshot time. That is the object's
at the moment, also where a statistic shows it, and it never goes back. -/
theorem frozen_once_handed_out (kernel : Kernel) (requests later : List Request) :
    let before := run { kernel } requests
    let now := before.run later
    (∀ r k, (r, k) ∈ gather handed { kernel } requests →
      ∃ kstat kstat', before.kstat? k = some kstat ∧ now.kstat? k = some kstat' ∧
        kstat'.identity = kstat.identity ∧ kstat'.identity.text = kstat.identity.text ∧
        Document.lasting kstat'.document = Document.lasting kstat.document ∧
        kstat.snaptime ≤ kstat'.snaptime) ∧
    ∀ one ∈ gather handedStatistics { kernel } requests,
      ∃ k kstat kstat', one.parent = some k ∧
        before.kstat? k = some kstat ∧ now.kstat? k = some kstat' ∧ kstat'.origin = kstat.origin ∧
        now.label one = before.label one ∧
        Document.lasting (now.document one) = Document.lasting (before.document one) ∧
        (before.document one).lookup "snaptime" = some (.int kstat.snaptime) ∧
        (now.document one).lookup "snaptime" = some (.int kstat'.snaptime) ∧
        kstat.snaptime ≤ kstat'.snaptime := by
  intro before now
  have hbefore : before.WellFormed := (WellFormed.start kernel).run requests
  refine ⟨fun r k hmem => ?_, fun one hone => ?_⟩
  · obtain ⟨kstat, hk, -, -⟩ := accounts_run kernel requests r k hmem
    obtain ⟨kstat', hk', hbecomes⟩ := becomes_run hbefore later hk
    exact ⟨kstat, kstat', hk, hk', hbecomes.identity, congrArg Identity.text hbecomes.identity,
      hbecomes.lasting, hbecomes.snaptime⟩
  · obtain ⟨k, kstat, hparent, hk⟩ := parent_of_gather kernel requests hone
    obtain ⟨kstat', hk', hbecomes⟩ := becomes_run hbefore later hk
    have howner := owner?_of_parent hparent hk
    have howner' := owner?_of_parent hparent hk'
    refine ⟨k, kstat, kstat', hparent, hk, hk', hbecomes.origin, ?_, ?_, document_snaptime hparent hk,
      document_snaptime hparent hk', hbecomes.snaptime⟩
    · rw [label, label, howner, howner', Option.map_some, Option.map_some, hbecomes.identity]
    · rw [document, document, howner, howner']
      exact hbecomes.lasting_statistic one

/-- The kstat is renamed on the chain and read again, and the token is let go of. The statistic is still
labelled as it was, and shown with the time of the last read. -/
theorem frozen_once_handed_out_despite_renaming :
    let q : Query := ⟨[], Query.anyInstance, []⟩
    let requests : List Request := [.openToken (some .live), .lookup 0 q, .lookupStatistic 0 q (utf8 "idle")]
    let later : List Request :=
      [.edit (.amend 0 { name := some (utf8 "renamed"), crtime := some 7 }), .refresh 0, .destroy 0]
    let before := run { kernel := { chain := Chain.sample } } requests
    let now := before.run later
    (∃ kstat, now.kstat? 0 = some kstat ∧ kstat.identity.text = utf8 "cpu:0:sys (misc)") ∧
    ∃ one ∈ gather handedStatistics { kernel := { chain := Chain.sample } } requests,
      now.label one = utf8 "cpu:0:sys:idle" ∧
      Document.lasting (now.document one) = Document.lasting (before.document one) ∧
      (before.document one).lookup "snaptime" = some (.int 1005) ∧
      (now.document one).lookup "snaptime" = some (.int 1006) := by
  intro q requests later before now
  obtain ⟨hobjects, hstatistics⟩ := frozen_once_handed_out { chain := Chain.sample } requests later
  constructor
  · obtain ⟨kstat, kstat', hk, hk', -, htext, -⟩ := hobjects (.lookup 0 q) 0 (by decide)
    have hshown : (before.kstat? 0).map (·.identity.text) = some (utf8 "cpu:0:sys (misc)") := by decide
    rw [hk] at hshown
    exact ⟨kstat', hk', htext.trans (Option.some.inj hshown)⟩
  · obtain ⟨one, hone, hlabel, hthen, hnow⟩ :
        ∃ one ∈ gather handedStatistics { kernel := { chain := Chain.sample } } requests,
          before.label one = utf8 "cpu:0:sys:idle" ∧
          (before.document one).lookup "snaptime" = some (.int 1005) ∧
          (now.document one).lookup "snaptime" = some (.int 1006) := by decide
    obtain ⟨-, -, -, -, -, -, -, hkept, hlasting, -⟩ := hstatistics one hone
    exact ⟨one, hone, hkept.trans hlabel, hlasting, hthen, hnow⟩

end Client

end KernelStats
